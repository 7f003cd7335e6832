import Tactician.Proofs.Store.RoundTrip
import Tactician.Proofs.Text.NormalForms

/-!
# Ingesting a game's own puzzles again

Ingesting reads each record into a row in a normal form: the position trimmed, the moves in
graded form, the accepted moves led by the best move, distinct and capped, the tags plain,
distinct and capped and closed by the framing marker (`MarkedTags`), the opening's texts stored
only when not empty, the label only when not blank.  A stored puzzle whose fields are in that form
(`Puzzle.Ingested`) has a record that is read back as the very row it was stored from.

Main statement (`ingest_gamePuzzles_fixed`): in every store that storing games, ingesting batches,
syncing games and recording attempts reach (`Called`), ingesting a game's puzzles, as the store
lists them, into that game takes every record, inserts every row, and leaves the game's puzzles as
they were but for their identifiers and storing times.
-/

namespace Tactician
namespace Store

open Analysis

/-! ## Accepted moves -/

/-- Accepted moves as the store keeps them: led by the best move, distinct, in graded form, not
empty, and within the cap. -/
structure LedBy (best : String) (moves : List String) : Prop where
  lead : moves.head? = some best
  distinct : moves.Nodup
  graded : ∀ s ∈ moves, Training.normalizeMove s = s ∧ s.isEmpty = false
  short : moves.length ≤ Training.maxAccepted

theorem normalizeMove_isEmpty {s : String} (visible : Text.isAllBlank s = false) :
    (Training.normalizeMove s).isEmpty = false := by
  have graded := Training.isAllBlank_normalizeMove s
  rw [visible] at graded
  cases empty : (Training.normalizeMove s).isEmpty
  · rfl
  · rw [String.isEmpty_iff.mp empty] at graded
    cases graded

/-- The accepted moves of a visible best move are led by its graded form. -/
theorem ledBy_acceptedMoveSet {best : String} (visible : Text.isAllBlank best = false)
    (alternates : List String) :
    LedBy (Training.normalizeMove best) (Training.acceptedMoveSet best alternates) := by
  have filled := normalizeMove_isEmpty visible
  obtain ⟨added, kept, distinct, from_alternates⟩ :=
    @foldl_append_new String String (fun acc x => if acc.contains x then acc else acc ++ [x]) id
      (fun acc x => by
        by_cases seen : acc.contains x = true
        · exact .inl (if_pos seen)
        · exact .inr ⟨by simpa using seen, if_neg seen⟩)
      ((alternates.map Training.normalizeMove).filter (!·.isEmpty))
      [Training.normalizeMove best] (List.nodup_singleton _)
  have deduped : Training.dedupe (((best :: alternates).map Training.normalizeMove).filter
      (!·.isEmpty)) = Training.normalizeMove best :: added := by
    simpa [Training.dedupe, filled] using kept
  have graded : ∀ s ∈ Training.normalizeMove best :: added,
      Training.normalizeMove s = s ∧ s.isEmpty = false := by
    intro s member
    rcases List.mem_cons.mp member with rfl | later
    · exact ⟨Training.normalizeMove_normalizeMove best, filled⟩
    · obtain ⟨x, listed, same⟩ := from_alternates s later
      rw [id] at same
      subst same
      obtain ⟨⟨a, -, rfl⟩, nonempty⟩ : (∃ a ∈ alternates, Training.normalizeMove a = s) ∧
          s.isEmpty = false := by
        simpa using listed
      exact ⟨Training.normalizeMove_normalizeMove a, nonempty⟩
  rw [Training.acceptedMoveSet, deduped]
  exact ⟨by simp [Training.maxAccepted], (List.take_sublist _ _).nodup distinct,
    fun s member => graded s (List.mem_of_mem_take member), List.length_take_le _ _⟩

/-- Accepted moves in the stored form are their own accepted moves. -/
theorem LedBy.acceptedMoveSet {best : String} {moves : List String} (led : LedBy best moves) :
    Training.acceptedMoveSet best moves = moves := by
  obtain ⟨rest, rfl⟩ : ∃ rest, moves = best :: rest := by
    rcases moves with _ | ⟨first, rest⟩
    · cases led.lead
    · obtain rfl : first = best := by simpa using led.lead
      exact ⟨rest, rfl⟩
  exact acceptedMoveSet_of_leading led.distinct led.graded led.short

/-! ## Tags -/

/-- Tags as the store keeps them: distinct plain tags, at most one fewer than the cap, closed by
the marker of the framing. -/
structure MarkedTags (t : PuzzleType) (tags : List String) : Prop where
  marked : tags = tags.dropLast ++ ["kind:" ++ t.tag]
  distinct : tags.dropLast.Nodup
  plain : ∀ s ∈ tags.dropLast, PlainTag s
  short : tags.dropLast.length ≤ maxTags - 1

/-- Tag stripping keeps distinct plain tags: each is the trim of a tag given, neither empty, nor a
framing, nor a pseudo-tag, nor seen before. -/
theorem stripLegacyTags_clean (tags : List String) :
    (stripLegacyTags tags).1.Nodup ∧ ∀ s ∈ (stripLegacyTags tags).1, PlainTag s := by
  induction tags using List.reverseRecOn with
  | nil => simp [stripLegacyTags]
  | append_singleton tags raw ih =>
    rcases stripped : stripLegacyTags tags with ⟨clean, legacy⟩
    rw [stripped] at ih
    obtain ⟨distinct, plain⟩ := ih
    simp only [stripLegacyTags] at stripped
    simp only [stripLegacyTags, List.foldl_append, List.foldl_cons, List.foldl_nil, stripped]
    by_cases empty : (Text.trim raw).isEmpty = true
    · simpa [empty] using And.intro distinct plain
    by_cases typed : (PuzzleType.ofTag? (Text.trim raw)).isSome = true
    · simpa [empty, typed] using And.intro distinct plain
    rcases prefixed : legacyPrefixes.find? (fun x => (Text.trim raw).startsWith x.1) with _ | ⟨p, k⟩
    · by_cases seen : Text.trim raw ∈ clean
      · simpa [empty, typed, prefixed, seen] using And.intro distinct plain
      have fresh : clean.contains (Text.trim raw) = false := by simpa using seen
      simp only [empty, typed, prefixed, fresh, if_false, Bool.false_eq_true]
      refine ⟨List.nodup_append.mpr ⟨distinct, List.nodup_singleton _, ?_⟩, ?_⟩
      · intro a old b new same
        rw [List.mem_singleton] at new
        exact seen (new ▸ same ▸ old)
      · intro s member
        rcases List.mem_append.mp member with old | new
        · exact plain s old
        · rw [List.mem_singleton] at new
          subst new
          exact ⟨Text.trim_trim raw, by simpa using empty, by simpa using typed, prefixed⟩
    · simpa [empty, typed, prefixed] using And.intro distinct plain

theorem markedTags_of_clean {clean : List String} (distinct : clean.Nodup)
    (plain : ∀ s ∈ clean, PlainTag s) (t : PuzzleType) :
    MarkedTags t (clean.take (maxTags - 1) ++ ["kind:" ++ t.tag]) := by
  have dropped : (clean.take (maxTags - 1) ++ ["kind:" ++ t.tag]).dropLast =
      clean.take (maxTags - 1) :=
    List.dropLast_concat
  refine ⟨by rw [dropped], ?_, ?_, ?_⟩ <;> rw [dropped]
  · exact (List.take_sublist _ _).nodup distinct
  · exact fun s member => plain s (List.mem_of_mem_take member)
  · exact List.length_take_le _ _

/-- Stored tags are read back as their plain tags and the framing they carry. -/
theorem MarkedTags.stripLegacyTags {t : PuzzleType} {tags : List String}
    (marked : MarkedTags t tags) :
    stripLegacyTags tags = (tags.dropLast, [("kind", t.tag)]) := by
  rw [marked.marked, List.dropLast_concat]
  exact stripLegacyTags_marked _ (by simpa using marked.distinct) (by simpa using marked.plain) t

/-! ## Texts the columns store -/

theorem ne_empty_of_length_pos {s : String} (positive : 0 < s.length) : s ≠ "" := by
  rintro rfl
  cases positive

theorem sqlText_ne_empty (x : Float) : ∀ s ∈ Number.Float.sqlText x, s ≠ "" := by
  unfold Number.Float.sqlText
  split
  · split_ifs <;> simp +decide
  · dsimp only
    split_ifs <;> simp only [Option.mem_def, Option.some.injEq, forall_eq'] <;>
      refine ne_empty_of_length_pos ?_ <;> simp +decide [String.length_append]

theorem intText_ne_empty (i : Int) : toString i ≠ "" := by
  cases i with
  | ofNat n => exact Chess.toString_ne_empty n
  | negSucc n => exact ne_empty_of_length_pos (by simp +decide [Int.repr, String.length_append])

theorem firstTruthy_given (vs : List Value) :
    (firstTruthy vs).truthy = true ∨ firstTruthy vs = .null := by
  unfold firstTruthy
  rcases found : vs.find? Value.truthy with _ | v
  · exact .inr rfl
  · exact .inl (List.find?_some found)

/-- A value that is truthy or null is stored as no text or a non-empty one. -/
theorem columnText_filled {gameId : String} {index : Nat} {v : Value} {o : Option String}
    (given : v.truthy = true ∨ v = .null) (stored : columnText gameId index v = .ok o) :
    ∀ s ∈ o, s ≠ "" := by
  cases v with
  | null => cases stored; simp
  | bool b =>
    have truthy : b = true := by simpa [Value.truthy] using given
    simp only [columnText, truthy, if_true, Except.ok.injEq] at stored
    simp [← stored]
  | int i =>
    cases fits : fitsInteger i
    · simp [columnText, fits] at stored
    · simp only [columnText, fits, if_true, Except.ok.injEq] at stored
      simpa [← stored] using intText_ne_empty i
  | float f =>
    simp only [columnText, Except.ok.injEq] at stored
    exact stored ▸ sqlText_ne_empty f
  | str t =>
    have filled : t.isEmpty = false := by simpa [Value.truthy] using given
    simp only [columnText, Except.ok.injEq] at stored
    simp only [← stored, Option.mem_def, Option.some.injEq, forall_eq']
    exact fun empty => by simp [empty] at filled
  | arr xs => cases stored
  | obj fs => cases stored

/-- Each opening field of a record is its first truthy candidate, or null. -/
theorem openingOf_given (r : Value) (legacy : List (String × String)) :
    let o := openingOf r legacy
    (o.eco.truthy = true ∨ o.eco = .null) ∧ (o.name.truthy = true ∨ o.name = .null) ∧
      (o.variation.truthy = true ∨ o.variation = .null) := by
  unfold openingOf
  split
  exact ⟨firstTruthy_given _, firstTruthy_given _, firstTruthy_given _⟩

/-! ## Reading a record -/

theorem severityOf_range {v : Value} {n : Nat} (read : severityOf v = some n) : 1 ≤ n ∧ n ≤ 3 := by
  unfold severityOf at read
  split at read
  · split at read <;> simp only [Option.some.injEq, reduceCtorEq] at read
    all_goals omega
  · split at read
    · rename_i i _ range
      simp only [Bool.and_eq_true, decide_eq_true_eq] at range
      simp only [Option.some.injEq] at read
      omega
    · cases read
  · cases read

theorem scoreOf_given {v : Value} {s : Score} (read : scoreOf v = some s) :
    s.cp.isSome ∨ s.mate.isSome := by
  unfold scoreOf at read
  split at read
  · dsimp only at read
    split at read
    · cases read
    · rename_i present
      simp only [Option.some.injEq] at read
      subst read
      simp only [Option.isSome_iff_ne_none, ne_eq]
      rw [or_iff_not_imp_left, not_not]
      simpa using present
  · cases read

/-- What reading a record gives, field by field. -/
theorem normalizeRecord_fields {r : Value} {row : PuzzleRow}
    (normalized : normalizeRecord r = .ok row) :
    row.sourcePly = plyOf (recordField r "source_ply") ∧
      row.fen = Text.trim (((recordField r "fen").str?).getD "") ∧
      row.bestMove = Training.normalizeMove (((recordField r "best_move_uci").str?).getD "") ∧
      (∃ alternates, row.acceptedMoves =
        Training.acceptedMoveSet (((recordField r "best_move_uci").str?).getD "") alternates) ∧
      row.bestLine = (looseMoves (recordField r "best_line_uci")).map Training.normalizeMove ∧
      row.severity = severityOf (r.field "severity") ∧ row.score = scoreOf (r.field "score") ∧
      row.tags = (stripLegacyTags (looseMoves (r.field "tags"))).1.take (maxTags - 1) ++
        ["kind:" ++ row.type.tag] ∧
      (∃ legacy, row.opening = openingOf r legacy) ∧
      ∀ s ∈ row.label, Text.isAllBlank s = false := by
  unfold normalizeRecord at normalized
  rcases alternated : alternatesOf (recordField r "accepted_moves_uci") with f | alternates
  · rw [alternated] at normalized
    cases normalized
  rcases stripped : stripLegacyTags (looseMoves (r.field "tags")) with ⟨tags, legacy⟩
  simp only [alternated, stripped, bind, Except.bind, pure, Except.pure, Except.ok.injEq]
    at normalized
  subst normalized
  dsimp only
  refine ⟨rfl, rfl, rfl, ⟨alternates, rfl⟩, rfl, rfl, rfl, rfl, ⟨legacy, rfl⟩, ?_⟩
  intro s member
  split at member
  · split at member
    · cases member
    · rename_i visible
      simp only [Option.mem_def, Option.some.injEq] at member
      simpa [member] using visible
  · cases member

theorem isFilledText_eq_true {v : Value} (filled : isFilledText v = true) :
    ∃ s, v = .str s ∧ Text.isAllBlank s = false := by
  cases v with
  | str s => exact ⟨s, rfl, by simpa [isFilledText] using filled⟩
  | _ => cases filled

/-- An accepted record has a visible position and best move. -/
theorem Accepted.filled {r : Value} (accepted : Accepted r) :
    isFilledText (recordField r "fen") = true ∧
      isFilledText (recordField r "best_move_uci") = true := by
  unfold Accepted isPuzzleRecord at accepted
  cases r with
  | obj fs =>
    rcases checked : isPlyNumber (recordField (.obj fs) "source_ply") with f | ply
    · rw [checked] at accepted
      cases accepted
    · simp only [checked, bind, Except.bind, pure, Except.pure, Except.ok.injEq,
        Bool.and_eq_true] at accepted
      exact ⟨accepted.1.1.1.2, accepted.1.1.2⟩
  | _ => cases accepted

/-! ## Stored puzzles -/

/-- A stored puzzle in the form ingesting gives: a ply the integer column holds, a trimmed visible
position, a visible best move in graded form leading the accepted moves, a line in graded form, a
severity from 1 to 3, a score with a value, tags closed by the framing marker, opening texts that
are not empty and a label that is not blank. -/
structure Puzzle.Ingested (p : Puzzle) : Prop where
  fits : p.sourcePly ≤ maxInteger
  fenTrimmed : Text.trim p.fen = p.fen
  fenFilled : Text.isAllBlank p.fen = false
  bestMoveGraded : Training.normalizeMove p.bestMove = p.bestMove
  bestMoveFilled : Text.isAllBlank p.bestMove = false
  acceptedMoves : LedBy p.bestMove p.acceptedMoves
  bestLine : ∀ s ∈ p.bestLine, Training.normalizeMove s = s
  severity : ∀ n ∈ p.severity, 1 ≤ n ∧ n ≤ 3
  score : ∀ s ∈ p.score, s.cp.isSome ∨ s.mate.isSome
  tags : MarkedTags p.type p.tags
  eco : ∀ s ∈ p.eco, s ≠ ""
  openingName : ∀ s ∈ p.openingName, s ≠ ""
  variation : ∀ s ∈ p.variation, s ≠ ""
  label : ∀ s ∈ p.label, Text.isAllBlank s = false

/-- A well-formed record, read and stored, gives a puzzle in the form ingesting gives. -/
theorem ingested_of_ofRow {r : Value} {row : PuzzleRow} {id owner gameId createdAt : String}
    {p : Puzzle} (accepted : Accepted r) (normalized : normalizeRecord r = .ok row)
    (stored : Puzzle.ofRow id owner gameId createdAt row = .ok p) : p.Ingested := by
  obtain ⟨fits, eco, name, variation, ecoStored, nameStored, variationStored, rfl⟩ :=
    ofRow_eq_ok.mp stored
  obtain ⟨-, fen, bestMove, ⟨alternates, led⟩, bestLine, severity, score, tags, ⟨legacy, opening⟩,
    label⟩ := normalizeRecord_fields normalized
  obtain ⟨fenText, fenIs, fenVisible⟩ := isFilledText_eq_true accepted.filled.1
  obtain ⟨bestText, bestIs, bestVisible⟩ := isFilledText_eq_true accepted.filled.2
  rw [fenIs] at fen
  rw [bestIs] at bestMove led
  simp only [Value.str?, Option.getD_some] at fen bestMove led
  obtain ⟨distinct, plain⟩ := stripLegacyTags_clean (looseMoves (r.field "tags"))
  obtain ⟨ecoGiven, nameGiven, variationGiven⟩ := openingOf_given r legacy
  rw [← opening] at ecoGiven nameGiven variationGiven
  refine ⟨fits, ?_, ?_, ?_, ?_, ?_, ?_, ?_, ?_, ?_, columnText_filled ecoGiven ecoStored,
    columnText_filled nameGiven nameStored, columnText_filled variationGiven variationStored, label⟩
  · show Text.trim row.fen = row.fen
    rw [fen, Text.trim_trim]
  · show Text.isAllBlank row.fen = false
    rw [fen, Text.isAllBlank_trim, fenVisible]
  · show Training.normalizeMove row.bestMove = row.bestMove
    rw [bestMove, Training.normalizeMove_normalizeMove]
  · show Text.isAllBlank row.bestMove = false
    rw [bestMove, Training.isAllBlank_normalizeMove, bestVisible]
  · show LedBy row.bestMove row.acceptedMoves
    rw [bestMove, led]
    exact ledBy_acceptedMoveSet bestVisible alternates
  · show ∀ s ∈ row.bestLine, Training.normalizeMove s = s
    rw [bestLine]
    intro s member
    obtain ⟨m, -, rfl⟩ := List.mem_map.mp member
    exact Training.normalizeMove_normalizeMove m
  · show ∀ n ∈ row.severity, 1 ≤ n ∧ n ≤ 3
    rw [severity]
    exact fun n read => severityOf_range read
  · show ∀ s ∈ row.score, s.cp.isSome ∨ s.mate.isSome
    rw [score]
    exact fun s read => scoreOf_given read
  · show MarkedTags row.type row.tags
    rw [tags]
    exact markedTags_of_clean distinct plain row.type

/-- The row a stored puzzle was made from. -/
def Puzzle.row (p : Puzzle) : PuzzleRow :=
  { sourcePly := p.sourcePly, fen := p.fen, type := p.type, kind := p.kind, phase := p.phase,
    severity := p.severity, bestMove := p.bestMove, acceptedMoves := p.acceptedMoves,
    bestLine := p.bestLine, score := p.score, tags := p.tags,
    opening := ⟨.ofOptStr p.eco, .ofOptStr p.openingName, .ofOptStr p.variation⟩,
    label := p.label }

/-- Storing a puzzle's row for its owner and game gives the puzzle back, under the new identifier
and time. -/
theorem Puzzle.ofRow_row (p : Puzzle) (fits : p.sourcePly ≤ maxInteger) (id createdAt : String) :
    Puzzle.ofRow id p.owner p.gameId createdAt p.row =
      .ok { p with id := id, createdAt := createdAt } :=
  ofRow_eq_ok.mpr ⟨fits, p.eco, p.openingName, p.variation, columnText_ofOptStr _ _ _,
    columnText_ofOptStr _ _ _, columnText_ofOptStr _ _ _, rfl⟩

/-! ## The record of a stored puzzle -/

theorem firstTruthy_filled {o : Option String} (filled : ∀ s ∈ o, s ≠ "") :
    firstTruthy [.ofOptStr o, .null] = .ofOptStr o := by
  have kept : o.filter (!·.isEmpty) = o := by
    rcases o with _ | s
    · rfl
    · simp [Option.filter, filled s rfl]
  calc firstTruthy [.ofOptStr o, .null]
      = .ofOptStr (o.filter (!·.isEmpty)) := firstTruthy_ofOptStr o
    _ = .ofOptStr o := by rw [kept]

@[simp] theorem str?_ofOptStr (o : Option String) : (Value.ofOptStr o).str? = o := by
  cases o <;> rfl

@[simp] theorem bind_ofTag?_phase (o : Option GamePhase) :
    (o.map GamePhase.tag).bind GamePhase.ofTag? = o := by
  cases o <;> simp

theorem severityOf_ofOptInt {o : Option Nat} (range : ∀ n ∈ o, 1 ≤ n ∧ n ≤ 3) :
    severityOf (.ofOptInt (o.map Int.ofNat)) = o := by
  rcases o with _ | n
  · rfl
  · exact severityOf_grade (range n rfl)

namespace Puzzle.Ingested

variable {p : Puzzle} (ingested : p.Ingested)
include ingested

/-- The record of a stored puzzle has the shape of a puzzle. -/
theorem accepted : Accepted p.toValue := by
  have small : p.sourcePly < doubleOverflow :=
    lt_of_le_of_lt ingested.fits maxInteger_lt_doubleOverflow
  simp [Accepted, isPuzzleRecord, Puzzle.toValue, recordField, Value.get?, Value.field,
    isPlyNumber, small, isFilledText, ingested.fenFilled, ingested.bestMoveFilled, isTextList,
    Value.ofStrs, Value.str?, Function.comp_def, bind, Except.bind, pure, Except.pure]

/-- The record of a stored puzzle is read as the row it was stored from. -/
theorem normalizeRecord : Store.normalizeRecord p.toValue = .ok p.row := by
  have stripped := ingested.tags.stripLegacyTags
  have tags : p.tags.dropLast.take (maxTags - 1) ++ ["kind:" ++ p.type.tag] = p.tags := by
    rw [List.take_of_length_le ingested.tags.short, ← ingested.tags.marked]
  have bestLine : p.bestLine.map Training.normalizeMove = p.bestLine :=
    (List.map_congr_left ingested.bestLine).trans (List.map_id _)
  have unscored : scoreOf .null = none := rfl
  rcases p with ⟨id, owner, gameId, sourcePly, fen, type, kind, phase, severity, bestMove,
    acceptedMoves, bestLine', score, tags', eco, openingName, variation, label, createdAt⟩
  dsimp only at stripped tags bestLine
  cases score <;> cases label <;>
    simp [Store.normalizeRecord, recordField, Puzzle.toValue, Value.get?, Value.field,
      alternatesOf_ofStrs, looseMoves_ofStrs, stripped, Value.str?.eq_1, plyOf, openingOf,
      firstTruthy_filled ingested.eco, firstTruthy_filled ingested.openingName,
      firstTruthy_filled ingested.variation, ingested.fenTrimmed, ingested.bestMoveGraded,
      ingested.acceptedMoves.acceptedMoveSet, severityOf_ofOptInt ingested.severity,
      scoreOf_toValue, unscored, ingested.score, ingested.label, tags, bestLine, Puzzle.row,
      Value.ofOptStr.eq_1, Value.ofOptStr.eq_2]

end Puzzle.Ingested

/-- A batch of well-formed records is read as the rows they normalise to. -/
theorem acceptedRows_of_accepted {records : List Value} {rows : List PuzzleRow}
    (accepted : ∀ r ∈ records, Accepted r)
    (read : List.Forall₂ (fun r row => Store.normalizeRecord r = .ok row) records rows) :
    acceptedRows records = .ok rows := by
  induction read with
  | nil => rfl
  | @cons r row rest rows normalized _ ih =>
    have keep : isPuzzleRecord r = .ok true := accepted r List.mem_cons_self
    have others := ih fun r' member => accepted r' (List.mem_cons_of_mem r member)
    simp [acceptedRows, keep, normalized, others, bind, Except.bind, pure, Except.pure,
      Functor.map, Except.map]

/-- The records of stored puzzles are read as the rows they were stored from. -/
theorem acceptedRows_toValue {ps : List Puzzle} (ingested : ∀ p ∈ ps, p.Ingested) :
    acceptedRows (ps.map Puzzle.toValue) = .ok (ps.map Puzzle.row) := by
  refine acceptedRows_of_accepted
    (List.forall_mem_map.mpr fun p member => (ingested p member).accepted)
    (List.forall₂_map_left_iff.mpr (List.forall₂_map_right_iff.mpr (List.forall₂_same.mpr ?_)))
  exact fun p member => (ingested p member).normalizeRecord

theorem Puzzle.row_storable {p : Puzzle} (fits : p.sourcePly ≤ maxInteger) : p.row.Storable :=
  ⟨fits, bindable_ofOptStr _, bindable_ofOptStr _, bindable_ofOptStr _⟩

/-! ## The stores the calls reach -/

/-- Where a puzzle sits in the store: its user, its game and its key there. -/
def Puzzle.place (p : Puzzle) : String × String × (Nat × PuzzleType) := (p.owner, p.gameId, p.key)

/-- What holds of the puzzles of every store the calls reach: each is in the form ingesting gives,
and no two sit at one place. -/
structure Tables.Settled (t : Tables) : Prop where
  ingested : ∀ p ∈ t.puzzles, p.Ingested
  placed : (t.puzzles.map Puzzle.place).Nodup

/-- The puzzles of one game sit at the places their keys give in it. -/
theorem places_of_belongsTo {owner gameId : String} {ps : List Puzzle}
    (mine : ∀ p ∈ ps, p.belongsTo owner gameId = true) :
    ps.map Puzzle.place = (ps.map Puzzle.key).map fun k => (owner, gameId, k) := by
  rw [List.map_map]
  refine List.map_congr_left fun p member => ?_
  have belongs := mine p member
  simp only [Puzzle.belongsTo, Bool.and_eq_true, beq_iff_eq] at belongs
  simp [Puzzle.place, belongs.1, belongs.2]

namespace Tables.Settled

variable {t t' : Tables}

theorem empty : ({} : Tables).Settled := ⟨by simp, List.nodup_nil⟩

theorem of_puzzles (settled : t.Settled) (same : t'.puzzles = t.puzzles) : t'.Settled :=
  ⟨by rw [same]; exact settled.ingested, by rw [same]; exact settled.placed⟩

/-- In a settled store a game's puzzles have distinct keys. -/
theorem keys (settled : t.Settled) (owner gameId : String) :
    ((t.puzzles.filter (Puzzle.belongsTo owner gameId)).map Puzzle.key).Nodup := by
  have placed := settled.placed.sublist
    ((List.filter_sublist (p := Puzzle.belongsTo owner gameId)).map Puzzle.place)
  rw [places_of_belongsTo fun p member => (List.mem_filter.mp member).2] at placed
  exact placed.of_map _

/-- A swap that brings puzzles in the form ingesting gives keeps a store settled. -/
theorem swapped {owner gameId stamp : String} {rows : List PuzzleRow} {fresh : List Puzzle}
    (settled : t.Settled) (swap : Swapped owner gameId rows stamp fresh t t')
    (ingested : ∀ p ∈ fresh, p.Ingested) : t'.Settled := by
  have keys : fresh.map Puzzle.key = (firstUnseen PuzzleRow.key [] rows).map PuzzleRow.key := by
    have related := List.forall₂_map_left_iff.mpr (List.forall₂_map_right_iff.mpr
      (swap.stored.flip.imp fun _ _ stored => (ofRow_stamps stored).2.2.2.2))
    rwa [List.forall₂_eq_eq_eq] at related
  have distinct : (fresh.map Puzzle.place).Nodup := by
    rw [places_of_belongsTo swap.belongs, keys]
    exact (firstUnseen_keys _ _ _).1.map fun a b same => by simpa using same
  refine ⟨fun p member => ?_, ?_⟩
  · rw [swap.puzzles] at member
    rcases List.mem_append.mp member with kept | new
    · exact settled.ingested p (List.mem_filter.mp kept).1
    · exact ingested p new
  · rw [swap.puzzles, List.map_append, List.nodup_append]
    refine ⟨(settled.placed.sublist ((List.filter_sublist).map _)), distinct, ?_⟩
    intro a kept b new same
    obtain ⟨q, left, rfl⟩ := List.mem_map.mp kept
    obtain ⟨p, fresh, rfl⟩ := List.mem_map.mp new
    have other := (List.mem_filter.mp left).2
    simp only [Puzzle.place, Prod.mk.injEq] at same
    have moved : q.belongsTo owner gameId = p.belongsTo owner gameId := by
      simp [Puzzle.belongsTo, same.1, same.2.1]
    simp [moved, swap.belongs p fresh] at other

/-- An ingest keeps a store settled: what it stores comes from well-formed records. -/
theorem ingest (settled : t.Settled) (owner gameId : String) (records : List Value) :
    ((Store.ingest owner gameId records).run.run t).2.Settled := by
  rcases ran : (Store.ingest owner gameId records).run.run t with ⟨_ | report, t'⟩
  · exact settled.of_puzzles (ingest_error ran).1.puzzles
  obtain ⟨rows, read, -, stamp, fresh, swap⟩ := ingest_ok ran
  refine settled.swapped swap fun p member => ?_
  obtain ⟨row, kept, stored⟩ := exists_of_forall₂ swap.stored member
  obtain ⟨r, accepted, normalized⟩ :=
    exists_of_forall₂ (acceptedRows_ok read).2 ((firstUnseen_sublist _ _ _).subset kept)
  exact ingested_of_ofRow (of_decide_eq_true (List.mem_filter.mp accepted).2) normalized stored

end Tables.Settled

/-- One call of the store that writes: storing a game, ingesting a batch of records into a game,
or recording an attempt, whether or not it goes through. -/
inductive Call : Tables → Tables → Prop
  | upsert (owner pgn : String) (gameId userColor : Option String) (opening : Openings.Info)
      (provider playedAt : Option String) (t : Tables) :
      Call t ((upsertGame owner pgn gameId userColor opening provider playedAt).run.run t).2
  | ingest (owner gameId : String) (records : List Value) (t : Tables) :
      Call t ((ingest owner gameId records).run.run t).2
  | submit (owner puzzleId : String) (move : Option String) (timeSpent : Value) (t : Tables) :
      Call t ((submitAttempt owner puzzleId move timeSpent).run.run t).2

/-- The stores the calls reach from the empty one. -/
def Called (t : Tables) : Prop := Relation.ReflTransGen Call {} t

section Called

variable {t t' : Tables}

/-- The calls reach only stores the writes reach. -/
theorem Called.reachable (called : Called t) : Reachable t := by
  induction called with
  | refl => exact Relation.ReflTransGen.refl
  | tail _ call reach =>
    cases call with
    | upsert owner pgn gameId userColor opening provider playedAt =>
      exact reach.tail (Write.upsert owner pgn gameId userColor opening provider playedAt _)
    | ingest owner gameId records => exact reach.ingest owner gameId records
    | submit owner puzzleId move timeSpent =>
      exact reach.tail (Write.submit owner puzzleId move timeSpent _)

/-- One call keeps a consistent store settled. -/
theorem Call.settled (call : Call t t') (c : t.Consistent) (settled : t.Settled) : t'.Settled := by
  cases call with
  | upsert owner pgn gameId userColor opening provider playedAt =>
    exact settled.of_puzzles
      (upsertGame_write owner pgn gameId userColor opening provider playedAt c.gameIds).puzzles
  | ingest owner gameId records => exact settled.ingest owner gameId records
  | submit owner puzzleId move timeSpent =>
    rcases @submitAttempt_cases owner puzzleId move timeSpent t with ⟨e, t', ran, same, -⟩ |
      ⟨p, a, -, -, -, -, -, ran⟩
    · rw [ran]
      exact settled.of_puzzles same.puzzles
    · rw [ran]
      exact settled.of_puzzles rfl

/-- Every store the calls reach is settled. -/
theorem Called.settled (called : Called t) : t.Settled := by
  induction called with
  | refl => exact Tables.Settled.empty
  | tail before call settled => exact call.settled (Called.reachable before).consistent settled

/-- An import is a call that stores the game, or changes nothing. -/
theorem Called.importGame (called : Called t) (owner pgn : String)
    (username gameId provider : Option String) (book : Openings.Book) :
    Called ((importGame owner pgn username gameId provider book).run.run t).2 := by
  rcases importGame_tables owner pgn username gameId provider book t with
    same | ⟨_, _, _, _, _, _, stored⟩
  · rwa [same]
  · rw [stored]
    exact called.tail (Call.upsert _ _ _ _ _ _ _ t)

/-- A sync is an ingest into the game, or changes nothing. -/
theorem Called.syncGame {σ : Type} (called : Called t) (owner gameId : String) (c : Config)
    (ev : Option (Evaluator σ)) (supplied : Evaluations) (book : Openings.Book) (s : σ) :
    Called (((syncGame owner gameId c ev supplied book).run.run t).run s).1.2 := by
  rcases syncGame_cases owner gameId c ev supplied book t s with ⟨same, -⟩ | ⟨records, ingested, -⟩
  · rwa [same]
  · rw [← ingested]
    exact called.tail (Call.ingest owner gameId records t)

end Called

/-! ## Listing a game's puzzles -/

/-- The order the store lists a game's puzzles in: by ply, then by the text of the framing. -/
def listOrder (a b : Puzzle) : Bool :=
  a.sourcePly < b.sourcePly || (a.sourcePly == b.sourcePly && a.type.tag ≤ b.type.tag)

theorem gamePuzzles_listed (owner gameId : String) (t : Tables) :
    (gamePuzzles owner gameId).run.run t =
      (.ok ((t.puzzles.filter (Puzzle.belongsTo owner gameId)).mergeSort listOrder), t) :=
  gamePuzzles_run owner gameId t

/-- The texts of the framings are ordered as the framings. -/
theorem PuzzleType.tag_le_tag (x y : PuzzleType) : x.tag ≤ y.tag ↔ x.order ≤ y.order := by
  cases x <;> cases y <;> decide +kernel

theorem listOrder_trans (a b c : Puzzle) (ab : listOrder a b = true) (bc : listOrder b c = true) :
    listOrder a c = true := by
  simp only [listOrder, Bool.or_eq_true, decide_eq_true_eq, Bool.and_eq_true, beq_iff_eq,
    PuzzleType.tag_le_tag] at *
  omega

theorem listOrder_total (a b : Puzzle) : (listOrder a b || listOrder b a) = true := by
  simp only [listOrder, Bool.or_eq_true, decide_eq_true_eq, Bool.and_eq_true, beq_iff_eq,
    PuzzleType.tag_le_tag]
  omega

/-- The order reads only a puzzle's key. -/
theorem listOrder_unstamped (a b : Puzzle) : listOrder a.unstamped b.unstamped = listOrder a b :=
  rfl

/-- Puzzles that are, identifiers and times aside, a list in order are listed as they stand. -/
theorem mergeSort_of_unstamped {ps qs : List Puzzle}
    (sorted : ps.Pairwise fun a b => listOrder a b = true)
    (same : qs.map Puzzle.unstamped = ps.map Puzzle.unstamped) :
    qs.mergeSort listOrder = qs := by
  have unstamped : (ps.map Puzzle.unstamped).Pairwise fun a b => listOrder a b = true :=
    List.pairwise_map.mpr (sorted.imp fun ordered => by rwa [listOrder_unstamped])
  rw [← same, List.pairwise_map] at unstamped
  exact List.mergeSort_of_pairwise
    (unstamped.imp fun ordered => by rwa [listOrder_unstamped] at ordered)

/-! ## Ingesting a game's puzzles again -/

/-- Replacing a game's puzzles, of distinct keys, by their own rows stores them again, under new
identifiers and times. -/
theorem Swapped.restamped {owner gameId stamp : String} {ps fresh : List Puzzle} {t t' : Tables}
    (swap : Swapped owner gameId (ps.map Puzzle.row) stamp fresh t t')
    (mine : ∀ p ∈ ps, p.belongsTo owner gameId = true ∧ p.sourcePly ≤ maxInteger)
    (keyed : (ps.map Puzzle.key).Nodup) :
    fresh.map Puzzle.unstamped = ps.map Puzzle.unstamped := by
  have rows : firstUnseen PuzzleRow.key [] (ps.map Puzzle.row) = ps.map Puzzle.row :=
    firstUnseen_of_distinct _ (by rwa [List.map_map]) (by simp)
  have stored := swap.stored
  rw [rows, List.forall₂_map_left_iff] at stored
  have again : List.Forall₂ (fun p q => q.unstamped = p.unstamped) ps fresh :=
    ((List.forall₂_and_left _ _).mpr ⟨mine, stored⟩).imp fun p q ⟨⟨belongs, fits⟩, stored⟩ => by
      have restored := Puzzle.ofRow_row p fits q.id stamp
      simp only [Puzzle.belongsTo, Bool.and_eq_true, beq_iff_eq] at belongs
      rw [← belongs.1, ← belongs.2, restored, Except.ok.injEq] at stored
      rw [← stored]
      rfl
  have related := List.forall₂_map_left_iff.mpr (List.forall₂_map_right_iff.mpr again.flip)
  rwa [List.forall₂_eq_eq_eq] at related

/-- Re-ingesting is a fixed point.  In every store the calls reach, ingesting the records of a
user's game's puzzles, as the store lists them, back into that game takes every record and
inserts every row, and the game's puzzles are then what they were but for their identifiers and
storing times.  The puzzles listed are in the form ingesting gives: trimmed position, graded
moves, accepted moves led by the best move, distinct plain tags within the cap closed by the one
framing marker, severity from 1 to 3, a score with a value, opening texts and label filled. -/
theorem ingest_gamePuzzles_fixed {t : Tables} (called : Called t) {owner gameId : String}
    (owned : (t.ownGame? owner gameId).isSome) :
    ∃ ps, (gamePuzzles owner gameId).run.run t = (.ok ps, t) ∧ (∀ p ∈ ps, p.Ingested) ∧
      ∃ t', (ingest owner gameId (ps.map Puzzle.toValue)).run.run t =
          (.ok { received := ps.length, accepted := ps.length, dropped := 0,
                 inserted := ps.length }, t') ∧
        ∃ ps', (gamePuzzles owner gameId).run.run t' = (.ok ps', t') ∧
          ps'.map Puzzle.unstamped = ps.map Puzzle.unstamped := by
  have settled := called.settled
  set ps := (t.puzzles.filter (Puzzle.belongsTo owner gameId)).mergeSort listOrder with listed
  have mine : ∀ p ∈ ps, p.belongsTo owner gameId = true ∧ p.Ingested := by
    intro p member
    have kept := List.mem_filter.mp (List.mem_mergeSort.mp member)
    exact ⟨kept.2, settled.ingested p kept.1⟩
  have keyed : (ps.map Puzzle.key).Nodup :=
    (settled.keys owner gameId).perm ((List.mergeSort_perm _ _).map _).symm
  have sorted : ps.Pairwise fun a b => listOrder a b = true :=
    List.pairwise_mergeSort listOrder_trans listOrder_total _
  have read := acceptedRows_toValue fun p member => (mine p member).2
  obtain ⟨count, t', replaced⟩ := replacePuzzles_succeeds owned
    (List.forall_mem_map.mpr fun p member => Puzzle.row_storable (mine p member).2.fits)
  obtain ⟨stamp, fresh, swap, rfl⟩ := replacePuzzles_ok replaced
  have same := swap.restamped (fun p member => ⟨(mine p member).1, (mine p member).2.fits⟩) keyed
  have counted : fresh.length = ps.length := by simpa using congrArg List.length same
  refine ⟨ps, gamePuzzles_listed owner gameId t, fun p member => (mine p member).2, t', ?_, fresh,
    ?_, same⟩
  · rw [ingest_run_of_inserted read replaced]
    simp [counted]
  · rw [gamePuzzles_listed, swap.gamePuzzles, mergeSort_of_unstamped sorted same]

/-- The store where one puzzle was ingested into a stored game is reached by calls, and ingesting
that game's puzzles again is a fixed point there. -/
theorem reingest_onePuzzleTables_fixed :
    Called onePuzzleTables ∧ (onePuzzleTables.ownGame? "user-1" "g").isSome ∧
      ∃ ps, (gamePuzzles "user-1" "g").run.run onePuzzleTables = (.ok ps, onePuzzleTables) ∧
        (∀ p ∈ ps, p.Ingested) ∧
        ∃ t', (ingest "user-1" "g" (ps.map Puzzle.toValue)).run.run onePuzzleTables =
            (.ok { received := ps.length, accepted := ps.length, dropped := 0,
                   inserted := ps.length }, t') ∧
          ∃ ps', (gamePuzzles "user-1" "g").run.run t' = (.ok ps', t') ∧
            ps'.map Puzzle.unstamped = ps.map Puzzle.unstamped :=
  have called : Called onePuzzleTables :=
    (Relation.ReflTransGen.single (Call.upsert "user-1" "" (some "g") none {} none none {})).tail
      (Call.ingest "user-1" "g" [plainRecord] _)
  have owned : (onePuzzleTables.ownGame? "user-1" "g").isSome := by decide +kernel
  ⟨called, owned, ingest_gamePuzzles_fixed called owned⟩

end Store
end Tactician
