import Mathlib
import Tactician.Server.Response
import Tactician.Store.Record

/-!
# Trimmed puzzles pass the puzzle schema

Puzzles leave the tools trimmed (`Server.minifyPuzzle`).  The records they are trimmed from are
the miner's (`Analysis.Puzzle.toValue`) and the store's (`Store.Puzzle.toValue`, alone or with the
solver's statistics set under `stats`).  Each has a text position, framing, bucket and best move,
an integer ply, and lists of tags, line moves and accepted moves (`PuzzleRecord`).

The score is shown in pawns after its centipawns are taken as a double, and an integer past the
largest double cannot be taken so (`Analysis.Score.pastDoubles`).

Main statement: `minifyPuzzle_trims_records`.  Trimming such a record fails, with the overflow of
that conversion, exactly when its score has no mate count and centipawns past the doubles; in every
other case it gives a record that passes the puzzle schema, keeps the first six plies of the line
and lists the accepted moves exactly when there are several (`Trimmed`).
-/

namespace Tactician

/-! ### Fields of records -/

namespace Value

theorem get?_obj (fs : List (String × Value)) (k : String) :
    (obj fs).get? k = (fs.find? (·.1 == k)).map (·.2) := rfl

theorem not_mem_keys {gs : List (String × Value)} {k : String} (keys : ∀ e ∈ gs, e.1 ≠ k) :
    k ∉ gs.map (·.1) := fun member => by
  obtain ⟨e, mem, same⟩ := List.mem_map.mp member
  exact keys e mem same

/-- A key other than the one all the fields have is not among their keys. -/
theorem not_mem_keys_of_eq {gs : List (String × Value)} {k k' : String}
    (keys : ∀ e ∈ gs, e.1 = k') (other : k' ≠ k) : k ∉ gs.map (·.1) :=
  not_mem_keys fun e mem => by rw [keys e mem]; exact other

theorem find?_key_eq_none {gs : List (String × Value)} {k : String} (absent : k ∉ gs.map (·.1)) :
    gs.find? (·.1 == k) = none :=
  List.find?_eq_none.mpr fun e member same =>
    absent (List.mem_map.mpr ⟨e, member, beq_iff_eq.mp same⟩)

theorem get?_obj_append_of_absent {fs gs : List (String × Value)} {k : String}
    (absent : k ∉ gs.map (·.1)) : (obj (fs ++ gs)).get? k = (obj fs).get? k := by
  simp only [get?_obj, List.find?_append, find?_key_eq_none absent, Option.or_none]

theorem get?_obj_append_of_not_mem {fs gs : List (String × Value)} {k : String}
    (absent : k ∉ fs.map (·.1)) : (obj (fs ++ gs)).get? k = (obj gs).get? k := by
  simp only [get?_obj, List.find?_append, find?_key_eq_none absent, Option.none_or]

/-- Setting one field of a record leaves the others. -/
theorem get?_set_of_ne {v x : Value} {k k' : String} (other : k ≠ k') :
    (v.set k x).get? k' = v.get? k' := by
  cases v with
  | obj fs =>
    simp only [set, setField]
    split
    · rw [get?_obj, get?_obj, List.find?_map]
      have same : ((·.1 == k') ∘ fun kv : String × Value => if kv.1 == k then (k, x) else kv) =
          (·.1 == k') := by
        funext kv
        by_cases key : kv.1 = k <;> simp [key]
      rw [same]
      cases found : fs.find? (·.1 == k') with
      | none => rfl
      | some kv =>
        have key : kv.1 = k' := by simpa using List.find?_some found
        have : kv.1 ≠ k := key ▸ Ne.symm other
        simp [this]
    · exact get?_obj_append_of_absent (by simpa using Ne.symm other)
  | _ => rfl

theorem field_set_of_ne {v x : Value} {k k' : String} (other : k ≠ k') :
    (v.set k x).field k' = v.field k' := by
  simp only [field, get?_set_of_ne other]

/-- Every field picked from a record under a list of keys has one of the keys. -/
theorem mem_of_picked (d : Value) {ks : List String} {e : String × Value}
    (member : e ∈ ks.filterMap fun k => (d.get? k).map (k, ·)) : e.1 ∈ ks := by
  obtain ⟨k, mem, found⟩ := List.mem_filterMap.mp member
  obtain ⟨v, -, rfl⟩ := Option.map_eq_some_iff.mp found
  exact mem

/-- A record's fields picked under a list of keys read back as the record's own. -/
theorem get?_picked (d : Value) {ks : List String} {k : String} (member : k ∈ ks) :
    (obj (ks.filterMap fun k => (d.get? k).map (k, ·))).get? k = d.get? k := by
  induction ks with
  | nil => cases member
  | cons k' rest ih =>
    by_cases same : k' = k
    · subst same
      cases found : d.get? k' with
      | some v => simp [get?_obj, found]
      | none =>
        simp only [List.filterMap_cons, found, Option.map_none, get?_obj, Option.map_eq_none_iff]
        refine List.find?_eq_none.mpr fun e picked key => ?_
        have : e.1 ∈ rest := mem_of_picked d picked
        by_cases later : k' ∈ rest
        · have := ih later
          rw [get?_obj, found, Option.map_eq_none_iff, List.find?_eq_none] at this
          exact this e picked key
        · exact later (beq_iff_eq.mp key ▸ this)
    · have later : k ∈ rest := (List.mem_cons.mp member).resolve_left (Ne.symm same)
      cases found : d.get? k' with
      | none => simpa [found] using ih later
      | some v =>
        simp only [List.filterMap_cons, found, Option.map_some]
        rw [get?_obj, List.find?_cons_of_neg (by simpa using same)]
        exact ih later

end Value

namespace Analysis

/-- A score whose text cannot be made: no mate count, and centipawns past the largest double. -/
def Score.pastDoubles (s : Score) : Bool :=
  s.mate.isNone && s.cp.any (Store.doubleOverflow ≤ ·.natAbs)

end Analysis

namespace Server

/-! ### The schema check -/

/-- Whether a value meets what a schema expects of its key. -/
def Expectation.admits : Expectation → Value → Bool
  | .one s, v => s.admits v
  | .anyOf ss, v => ss.any (·.admits v)

/-- A record passes a schema exactly when each of the schema's keys is present with a value of an
expected type. -/
theorem validate_obj_eq_nil_iff (fs : List (String × Value)) (schema : Schema) :
    validate (.obj fs) schema = [] ↔
      ∀ e ∈ schema, ∃ v, (Value.obj fs).get? e.1 = some v ∧ e.2.admits v = true := by
  simp only [validate, List.filterMap_eq_nil_iff]
  refine forall₂_congr fun ⟨k, e⟩ _ => ?_
  cases (Value.obj fs).get? k with
  | none => simp
  | some v => cases e <;> simp [Expectation.admits]

/-- The schema of a trimmed puzzle. -/
theorem lookup_puzzleSchema :
    schemas.lookup "PUZZLE_SCHEMA" =
      some [("fen", .one .text), ("source_ply", .one .integer), ("type", .one .text),
        ("kind", .one .text), ("best_move_uci", .one .text), ("best_line_uci", .one .list),
        ("tags", .one .list), ("score", .anyOf [.text, .none]),
        ("opening", .anyOf [.record, .none])] := rfl

/-! ### The trimmed record -/

section Added

variable {base alternates stats : List (String × Value)} {line score opening : Value}
  (alternatesKeys : ∀ e ∈ alternates, e.1 = "accepted_moves_uci")
  (statsKeys : ∀ e ∈ stats, e.1 = "stats")
include alternatesKeys statsKeys

/-- A key that trimming does not add reads as in the kept fields. -/
theorem get?_trimmed_kept {k : String}
    (fresh : k ≠ "best_line_uci" ∧ k ≠ "accepted_moves_uci" ∧ k ≠ "score" ∧ k ≠ "opening" ∧
      k ≠ "stats") :
    (Value.obj (base ++ [("best_line_uci", line)] ++ alternates ++
        [("score", score), ("opening", opening)] ++ stats)).get? k = (Value.obj base).get? k := by
  obtain ⟨notLine, notAccepted, notScore, notOpening, notStats⟩ := fresh
  rw [Value.get?_obj_append_of_absent (Value.not_mem_keys_of_eq statsKeys (Ne.symm notStats)),
    Value.get?_obj_append_of_absent (by simp [notScore, notOpening]),
    Value.get?_obj_append_of_absent
      (Value.not_mem_keys_of_eq alternatesKeys (Ne.symm notAccepted)),
    Value.get?_obj_append_of_absent (by simp [notLine])]

variable (baseKeys : ∀ e ∈ base, e.1 ≠ "best_line_uci" ∧ e.1 ≠ "accepted_moves_uci" ∧
  e.1 ≠ "score" ∧ e.1 ≠ "opening")
include baseKeys

/-- The keys trimming adds read as added: the line, the alternates, the score and the opening. -/
theorem get?_trimmed_added :
    let trimmed := Value.obj (base ++ [("best_line_uci", line)] ++ alternates ++
      [("score", score), ("opening", opening)] ++ stats)
    trimmed.get? "best_line_uci" = some line ∧
      trimmed.get? "accepted_moves_uci" = (Value.obj alternates).get? "accepted_moves_uci" ∧
      trimmed.get? "score" = some score ∧ trimmed.get? "opening" = some opening := by
  intro trimmed
  have unstated : ∀ k, k ≠ "stats" → trimmed.get? k =
      (Value.obj (base ++ [("best_line_uci", line)] ++ alternates ++
        [("score", score), ("opening", opening)])).get? k :=
    fun k notStats =>
      Value.get?_obj_append_of_absent (Value.not_mem_keys_of_eq statsKeys (Ne.symm notStats))
  have unkept : ∀ k gs, (k = "best_line_uci" ∨ k = "accepted_moves_uci" ∨ k = "score" ∨
      k = "opening") → (Value.obj (base ++ gs)).get? k = (Value.obj gs).get? k := by
    intro k gs added
    refine Value.get?_obj_append_of_not_mem (Value.not_mem_keys fun e mem => ?_)
    obtain ⟨line, accepted, score, opening⟩ := baseKeys e mem
    rcases added with rfl | rfl | rfl | rfl <;> assumption
  refine ⟨?_, ?_, ?_, ?_⟩
  · rw [unstated _ (by decide), Value.get?_obj_append_of_absent (by simp),
      Value.get?_obj_append_of_absent (Value.not_mem_keys_of_eq alternatesKeys (by decide)),
      unkept _ _ (.inl rfl)]
    rfl
  · rw [unstated _ (by decide), Value.get?_obj_append_of_absent (by simp), List.append_assoc,
      unkept _ _ (.inr (.inl rfl)), Value.get?_obj_append_of_not_mem (by simp)]
  · rw [unstated _ (by decide), List.append_assoc, List.append_assoc,
      unkept _ _ (.inr (.inr (.inl rfl))), Value.get?_obj_append_of_not_mem (by simp),
      Value.get?_obj_append_of_not_mem (Value.not_mem_keys_of_eq alternatesKeys (by decide))]
    rfl
  · rw [unstated _ (by decide), List.append_assoc, List.append_assoc,
      unkept _ _ (.inr (.inr (.inr rfl))), Value.get?_obj_append_of_not_mem (by simp),
      Value.get?_obj_append_of_not_mem (Value.not_mem_keys_of_eq alternatesKeys (by decide))]
    rfl

end Added

/-- A puzzle record with lists of alternates and of line moves, and a score that can be shown,
is trimmed to its kept fields, the line cut to six plies, the alternates, the score's text, an
opening that is a record or nothing, and maybe statistics. -/
theorem minifyPuzzle_shape {d : Value} {acc line : List Value} {sc : Option String}
    (accepted : d.field "accepted_moves_uci" = .arr acc)
    (lined : d.get? "best_line_uci" = some (.arr line))
    (scored : scoreText (d.field "score") = .ok sc) :
    ∃ base alternates stats opening,
      minifyPuzzle d = .ok (.obj (base ++ [("best_line_uci", .arr (line.take linePlies))] ++
        alternates ++ [("score", .ofOptStr sc), ("opening", opening)] ++ stats)) ∧
      (∀ k ∈ ["fen", "source_ply", "type", "kind", "best_move_uci", "tags"],
        (Value.obj base).get? k = d.get? k) ∧
      (∀ e ∈ base, e.1 ≠ "best_line_uci" ∧ e.1 ≠ "accepted_moves_uci" ∧ e.1 ≠ "score" ∧
        e.1 ≠ "opening") ∧
      (∀ e ∈ alternates, e.1 = "accepted_moves_uci") ∧
      (Value.obj alternates).get? "accepted_moves_uci" =
        (if 1 < acc.length then some (.arr acc) else none) ∧
      (∀ e ∈ stats, e.1 = "stats") ∧ (opening = .null ∨ ∃ fs, opening = .obj fs) := by
  have none : (Value.arr []).truthy = false := rfl
  have some : ∀ a rest, (Value.arr (a :: rest)).truthy = true := fun _ _ => rfl
  rcases acc with _ | ⟨a, rest⟩ <;>
    simp only [minifyPuzzle, accepted, lined, none, some, Bool.false_eq_true, if_false, if_true,
      sizedItems, scored] <;>
    exact ⟨_, _, _, _, rfl,
      fun k member => Value.get?_picked d (by
        simp only [List.mem_cons, List.not_mem_nil, or_false] at member
        rcases member with rfl | rfl | rfl | rfl | rfl | rfl <;> simp),
      fun e mem => by
        have member := Value.mem_of_picked d mem
        revert member
        generalize e.1 = k
        revert k
        decide +kernel,
      fun e mem => by split at mem <;> simp_all,
      by split <;> simp_all [Value.get?_obj],
      fun e mem => by split at mem <;> simp_all,
      by
        split_ifs
        · exact .inr ⟨_, rfl⟩
        · exact .inl rfl⟩

/-- A puzzle record whose score cannot be shown cannot be trimmed, for the same reason. -/
theorem minifyPuzzle_of_scoreText_error {d : Value} {acc : List Value} {e : ShapeError}
    (accepted : d.field "accepted_moves_uci" = .arr acc)
    (fails : scoreText (d.field "score") = .error e) : minifyPuzzle d = .error e := by
  have none : (Value.arr []).truthy = false := rfl
  have some : ∀ a rest, (Value.arr (a :: rest)).truthy = true := fun _ _ => rfl
  rcases acc with _ | ⟨a, rest⟩ <;>
    simp only [minifyPuzzle, accepted, none, some, Bool.false_eq_true, if_false, if_true,
      sizedItems, fails] <;>
    rfl

/-- What the tools give as a trimmed puzzle: it passes the puzzle schema, its line is the first
six plies of `line`, and it lists the `accepted` moves exactly when there are several. -/
structure Trimmed (line accepted : List String) (v : Value) : Prop where
  valid : ∃ schema, schemas.lookup "PUZZLE_SCHEMA" = some schema ∧ validate v schema = []
  line : v.get? "best_line_uci" = some (.ofStrs (line.take linePlies))
  alternates : v.get? "accepted_moves_uci" =
    if 1 < accepted.length then some (.ofStrs accepted) else none

/-- A puzzle record as the miner and the store write it: a text position, framing, bucket and best
move, an integer ply, a list of tags, the solution `line` and the `accepted` moves. -/
structure PuzzleRecord (d : Value) (line accepted : List String) : Prop where
  fen : ∃ s, d.get? "fen" = some (.str s)
  sourcePly : ∃ i, d.get? "source_ply" = some (.int i)
  type : ∃ s, d.get? "type" = some (.str s)
  kind : ∃ s, d.get? "kind" = some (.str s)
  bestMove : ∃ s, d.get? "best_move_uci" = some (.str s)
  tags : ∃ ts, d.get? "tags" = some (.arr ts)
  line : d.get? "best_line_uci" = some (.ofStrs line)
  accepted : d.get? "accepted_moves_uci" = some (.ofStrs accepted)

theorem PuzzleRecord.acceptedField {d : Value} {line accepted : List String}
    (record : PuzzleRecord d line accepted) :
    d.field "accepted_moves_uci" = .ofStrs accepted := by
  simp [Value.field, record.accepted]

/-- Setting the statistics of a puzzle record keeps it one. -/
theorem PuzzleRecord.setStats {d : Value} {line accepted : List String}
    (record : PuzzleRecord d line accepted) (x : Value) :
    PuzzleRecord (d.set "stats" x) line accepted := by
  have kept : ∀ k, "stats" ≠ k → (d.set "stats" x).get? k = d.get? k :=
    fun _ other => Value.get?_set_of_ne other
  exact ⟨kept "fen" (by decide) ▸ record.fen, kept "source_ply" (by decide) ▸ record.sourcePly,
    kept "type" (by decide) ▸ record.type, kept "kind" (by decide) ▸ record.kind,
    kept "best_move_uci" (by decide) ▸ record.bestMove, kept "tags" (by decide) ▸ record.tags,
    kept "best_line_uci" (by decide) ▸ record.line,
    kept "accepted_moves_uci" (by decide) ▸ record.accepted⟩

/-- A mined puzzle's record is a puzzle record. -/
theorem puzzleRecord_mined (p : Analysis.Puzzle) :
    PuzzleRecord p.toValue p.bestLine p.acceptedMoves :=
  ⟨⟨_, rfl⟩, ⟨_, rfl⟩, ⟨_, rfl⟩, ⟨_, rfl⟩, ⟨_, rfl⟩, ⟨_, rfl⟩, rfl, rfl⟩

/-- A stored puzzle's record is a puzzle record. -/
theorem puzzleRecord_stored (p : Store.Puzzle) :
    PuzzleRecord p.toValue p.bestLine p.acceptedMoves :=
  ⟨⟨_, rfl⟩, ⟨_, rfl⟩, ⟨_, rfl⟩, ⟨_, rfl⟩, ⟨_, rfl⟩, ⟨_, rfl⟩, rfl, rfl⟩

theorem field_score_mined (p : Analysis.Puzzle) :
    p.toValue.field "score" = ((some p.score).map Analysis.Score.toValue).getD .null := rfl

theorem field_score_stored (p : Store.Puzzle) :
    p.toValue.field "score" = (p.score.map Analysis.Score.toValue).getD .null := by
  cases scored : p.score <;> simp only [Store.Puzzle.toValue, scored] <;> rfl

/-- A puzzle record whose score can be shown is trimmed to a record that passes the puzzle
schema, with its line cut and its alternates kept only when there are several. -/
theorem minifyPuzzle_of_record {d : Value} {line accepted : List String} {sc : Option String}
    (record : PuzzleRecord d line accepted) (scored : scoreText (d.field "score") = .ok sc) :
    ∃ v, minifyPuzzle d = .ok v ∧ Trimmed line accepted v := by
  obtain ⟨base, alternates, stats, opening, trimmed, kept, baseKeys, alternatesKeys, alternatesRead,
    statsKeys, openingShape⟩ := minifyPuzzle_shape record.acceptedField record.line scored
  obtain ⟨lineRead, acceptedRead, scoreRead, openingRead⟩ :=
    @get?_trimmed_added base alternates stats (.arr ((line.map .str).take linePlies))
      (.ofOptStr sc) opening alternatesKeys statsKeys baseKeys
  have keptRead : ∀ k ∈ ["fen", "source_ply", "type", "kind", "best_move_uci", "tags"],
      (Value.obj (base ++ [("best_line_uci", .arr ((line.map .str).take linePlies))] ++
        alternates ++ [("score", .ofOptStr sc), ("opening", opening)] ++ stats)).get? k =
        d.get? k := by
    intro k member
    rw [get?_trimmed_kept alternatesKeys statsKeys (by
      simp only [List.mem_cons, List.not_mem_nil, or_false] at member
      rcases member with rfl | rfl | rfl | rfl | rfl | rfl <;> decide), kept k member]
  refine ⟨_, trimmed, ⟨_, lookup_puzzleSchema, ?_⟩, ?_, ?_⟩
  · rw [validate_obj_eq_nil_iff]
    obtain ⟨fen, fenRead⟩ := record.fen
    obtain ⟨ply, plyRead⟩ := record.sourcePly
    obtain ⟨type, typeRead⟩ := record.type
    obtain ⟨kind, kindRead⟩ := record.kind
    obtain ⟨best, bestRead⟩ := record.bestMove
    obtain ⟨tags, tagsRead⟩ := record.tags
    simp only [List.forall_mem_cons, List.not_mem_nil, IsEmpty.forall_iff, implies_true, and_true]
    refine ⟨⟨_, (keptRead "fen" (by simp)).trans fenRead, rfl⟩,
      ⟨_, (keptRead "source_ply" (by simp)).trans plyRead, rfl⟩,
      ⟨_, (keptRead "type" (by simp)).trans typeRead, rfl⟩,
      ⟨_, (keptRead "kind" (by simp)).trans kindRead, rfl⟩,
      ⟨_, (keptRead "best_move_uci" (by simp)).trans bestRead, rfl⟩,
      ⟨_, lineRead, rfl⟩, ⟨_, (keptRead "tags" (by simp)).trans tagsRead, rfl⟩,
      ⟨_, scoreRead, ?_⟩, ⟨_, openingRead, ?_⟩⟩
    · cases sc <;> rfl
    · rcases openingShape with rfl | ⟨fs, rfl⟩ <;> rfl
  · rw [lineRead, Value.ofStrs, List.map_take]
  · rw [acceptedRead, alternatesRead, List.length_map]
    rfl

/-! ### Scores -/

section Scores

variable {o : Option Analysis.Score}

/-- A score with a mate count or centipawns within the doubles has a text; so has no score. -/
theorem scoreText_of_shown (shown : o.any Analysis.Score.pastDoubles = false) :
    ∃ text, scoreText ((o.map Analysis.Score.toValue).getD .null) = .ok text := by
  rcases o with _ | ⟨cp, mate⟩
  · exact ⟨none, rfl⟩
  rcases mate with _ | mate
  · rcases cp with _ | cp
    · exact ⟨none, rfl⟩
    have fits : cp.natAbs < Store.doubleOverflow := by
      simpa [Analysis.Score.pastDoubles] using shown
    exact ⟨some (Number.signedFixed (Number.ofInt cp / 100.0) 2), by
      simp [scoreText, Analysis.Score.toValue, Value.field, Value.get?, Value.ofOptInt, fits,
        Except.map]⟩
  · exact ⟨_, rfl⟩

/-- Centipawns past the doubles, with no mate count, cannot be shown. -/
theorem scoreText_of_pastDoubles (past : o.any Analysis.Score.pastDoubles = true) :
    scoreText ((o.map Analysis.Score.toValue).getD .null) = .error .floatOverflow := by
  rcases o with _ | ⟨cp, mate⟩
  · cases past
  have : mate = none ∧ ∃ c, cp = some c ∧ Store.doubleOverflow ≤ c.natAbs := by
    simpa [Analysis.Score.pastDoubles, Option.any_eq_true] using past
  obtain ⟨rfl, c, rfl, large⟩ := this
  simp [scoreText, Analysis.Score.toValue, Value.field, Value.get?, Value.ofOptInt,
    Nat.not_lt.mpr large, Except.map]

/-- What trimming a puzzle record gives: the overflow of the score's conversion when `past`, and
otherwise a `Trimmed` record. -/
def TrimsTo (d : Value) (line accepted : List String) (past : Bool) : Prop :=
  if past then minifyPuzzle d = .error .floatOverflow
  else ∃ v, minifyPuzzle d = .ok v ∧ Trimmed line accepted v

/-- A puzzle record scored by `o` trims to a `Trimmed` record unless `o` is past the doubles. -/
theorem trimsTo_of_record {d : Value} {line accepted : List String}
    (record : PuzzleRecord d line accepted)
    (scored : d.field "score" = (o.map Analysis.Score.toValue).getD .null) :
    TrimsTo d line accepted (o.any Analysis.Score.pastDoubles) := by
  unfold TrimsTo
  cases past : o.any Analysis.Score.pastDoubles with
  | false =>
    obtain ⟨text, shown⟩ := scoreText_of_shown past
    exact minifyPuzzle_of_record record (scored ▸ shown)
  | true =>
    exact minifyPuzzle_of_scoreText_error record.acceptedField
      (scored ▸ scoreText_of_pastDoubles past)

/-- A stored puzzle scored past the doubles cannot be trimmed, whatever its statistics. -/
theorem minifyPuzzle_stored_of_pastDoubles {p : Store.Puzzle} (x : Value)
    (past : p.score.any Analysis.Score.pastDoubles = true) :
    minifyPuzzle (p.toValue.set "stats" x) = .error .floatOverflow := by
  have trims := trimsTo_of_record ((puzzleRecord_stored p).setStats x)
    ((Value.field_set_of_ne (by decide)).trans (field_score_stored p))
  rw [past] at trims
  exact trims

end Scores

/-- Trimming the puzzle records the miner and the store give (a stored one alone or with its
statistics) fails only, and always, on a score with no mate count and centipawns past the
doubles, with the overflow of their conversion; every other such record is trimmed to one that
passes the puzzle schema, keeps the first six plies of the line and lists the accepted moves
exactly when there are several. -/
theorem minifyPuzzle_trims_records (mined : Analysis.Puzzle) (stored : Store.Puzzle)
    (stats : Training.Stats) :
    TrimsTo mined.toValue mined.bestLine mined.acceptedMoves mined.score.pastDoubles ∧
    TrimsTo stored.toValue stored.bestLine stored.acceptedMoves
      (stored.score.any Analysis.Score.pastDoubles) ∧
    TrimsTo (stored.toValue.set "stats" (stats.toValue (some 10))) stored.bestLine
      stored.acceptedMoves (stored.score.any Analysis.Score.pastDoubles) := by
  refine ⟨?_, ?_, ?_⟩
  · exact trimsTo_of_record (puzzleRecord_mined mined) (field_score_mined mined)
  · exact trimsTo_of_record (puzzleRecord_stored stored) (field_score_stored stored)
  · exact trimsTo_of_record ((puzzleRecord_stored stored).setStats _)
      ((Value.field_set_of_ne (by decide)).trans (field_score_stored stored))

/-- A stored puzzle scored at `10 ^ 400` centipawns cannot be trimmed with its statistics. -/
theorem minifyPuzzle_fails_past_doubles :
    minifyPuzzle (({ (default : Store.Puzzle) with
        score := some { cp := some (10 ^ 400), mate := none } }).toValue.set "stats"
      (({} : Training.Stats).toValue (some 10))) = .error .floatOverflow := by
  refine minifyPuzzle_stored_of_pastDoubles _ ?_
  simp only [Option.any_some, Analysis.Score.pastDoubles, Option.isNone_none, Bool.true_and,
    decide_eq_true_eq, Int.natAbs_pow, Store.doubleOverflow]
  decide +kernel

end Server

end Tactician
