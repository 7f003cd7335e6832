import Mathlib
import Tactician.Proofs.Store.Isolation
import Tactician.Proofs.Mining.NormalForm

/-!
# Mined puzzles come back from the store

Syncing a game analyses its text and ingests the records of the puzzles mined.  The record of a
mined puzzle in normal form has the shape of a puzzle, at any ply the store's integer column can
hold, and is read as its mined row: tag stripping keeps the motif tags, which are distinct and
plain, and reads the closing framing marker for what it is; the position, moves, severity, score
and label are already as the store makes them; the opening's empty texts are read as absent.  Only
the accepted moves change: the store puts the best move in front of them, so they come back as
mined only when they start with the best move.

Main statement (`syncGame_stores_analysis`): a sync of the user's game whose analysis finishes
reports one puzzle stored per puzzle mined, and the game's puzzles are then one stored puzzle per
mined puzzle, keeping its fields (`Keeps`); a sync whose analysis fails changes nothing.
-/

namespace Tactician

namespace Analysis

@[simp] theorem PuzzleType.ofTag?_tag (t : PuzzleType) : PuzzleType.ofTag? t.tag = some t := by
  cases t <;> rfl

@[simp] theorem PuzzleKind.ofTag?_tag (k : PuzzleKind) : PuzzleKind.ofTag? k.tag = some k := by
  cases k <;> rfl

@[simp] theorem GamePhase.ofTag?_tag (ph : GamePhase) : GamePhase.ofTag? ph.tag = some ph := by
  cases ph <;> rfl

end Analysis

namespace Store

open Analysis

/-! ## Tags -/

/-- A tag that tag stripping keeps as it is: trimmed, not empty, no framing and no pseudo-tag. -/
structure PlainTag (s : String) : Prop where
  trimmed : Text.trim s = s
  filled : s.isEmpty = false
  untyped : PuzzleType.ofTag? s = none
  unprefixed : legacyPrefixes.find? (fun (p, _) => s.startsWith p) = none

theorem plainTag_motif (m : Tactics.Motif) : PlainTag m.tag := by
  have facts : Text.trim m.tag = m.tag ∧ m.tag.isEmpty = false ∧
      PuzzleType.ofTag? m.tag = none ∧
      legacyPrefixes.find? (fun (p, _) => m.tag.startsWith p) = none := by
    cases m <;> decide +kernel
  exact ⟨facts.1, facts.2.1, facts.2.2.1, facts.2.2.2⟩

/-- Plain distinct tags come through tag stripping unchanged and carry nothing. -/
theorem stripLegacyTags_plain (tags : List String) (distinct : tags.Nodup)
    (plain : ∀ s ∈ tags, PlainTag s) : stripLegacyTags tags = (tags, []) := by
  induction tags using List.reverseRecOn with
  | nil => rfl
  | append_singleton tags s ih =>
    have earlier := ih (distinct.sublist (List.sublist_append_left _ _))
      fun x mem => plain x (List.mem_append_left _ mem)
    have fresh : s ∉ tags := fun mem =>
      (List.nodup_append.mp distinct).2.2 s mem s (List.mem_singleton_self _) rfl
    obtain ⟨trimmed, filled, untyped, unprefixed⟩ := plain s (by simp)
    simp only [stripLegacyTags, List.foldl_append, List.foldl_cons, List.foldl_nil] at earlier ⊢
    rw [earlier]
    simp [trimmed, filled, untyped, unprefixed, fresh]

theorem stripLegacyTags_marked (tags : List String) (distinct : tags.Nodup)
    (plain : ∀ s ∈ tags, PlainTag s) (t : PuzzleType) :
    stripLegacyTags (tags ++ ["kind:" ++ t.tag]) = (tags, [("kind", t.tag)]) := by
  have facts : Text.trim ("kind:" ++ t.tag) = "kind:" ++ t.tag ∧
      ("kind:" ++ t.tag).isEmpty = false ∧ PuzzleType.ofTag? ("kind:" ++ t.tag) = none ∧
      legacyPrefixes.find? (fun (p, _) => ("kind:" ++ t.tag).startsWith p) =
        some ("kind:", "kind") ∧
      "kind:".length = 5 := by
    cases t <;> decide +kernel
  obtain ⟨trimmed, filled, untyped, marked, five⟩ := facts
  have earlier := stripLegacyTags_plain tags distinct plain
  simp only [stripLegacyTags, List.foldl_append, List.foldl_cons, List.foldl_nil] at earlier ⊢
  rw [earlier]
  simp [trimmed, filled, untyped, marked, five]

theorem mem_insertSorted {s x : String} : ∀ {l : List String},
    x ∈ insertSorted s l ↔ x = s ∨ x ∈ l
  | [] => by simp [insertSorted]
  | y :: rest => by
    unfold insertSorted
    split
    · next same =>
      have : s = y := beq_iff_eq.mp same
      subst this
      simp
    · split
      · simp
      · rw [List.mem_cons, mem_insertSorted, List.mem_cons]
        tauto

/-- Inserting into a strictly increasing list keeps it strictly increasing. -/
theorem sorted_insertSorted (s : String) : ∀ {l : List String}, l.Pairwise (· < ·) →
    (insertSorted s l).Pairwise (· < ·)
  | [] => fun _ => List.pairwise_singleton _ s
  | y :: rest => fun sorted => by
    obtain ⟨below, sorted⟩ := List.pairwise_cons.mp sorted
    unfold insertSorted
    split
    · exact List.pairwise_cons.mpr ⟨below, sorted⟩
    · split
      · next less =>
        refine List.pairwise_cons.mpr
          ⟨fun x mem => ?_, List.pairwise_cons.mpr ⟨below, sorted⟩⟩
        rcases List.mem_cons.mp mem with rfl | later
        · exact less
        · exact lt_trans less (below x later)
      · next differs notLess =>
        have above : y < s := lt_of_le_of_ne (not_lt.mp notLess)
          (fun same => differs (beq_iff_eq.mpr same.symm))
        refine List.pairwise_cons.mpr ⟨fun x mem => ?_, sorted_insertSorted s sorted⟩
        rcases mem_insertSorted.mp mem with rfl | later
        · exact above
        · exact below x later

/-- Inserting motif tags one by one into a strictly increasing list keeps it strictly increasing,
and adds only the motifs' tags. -/
theorem foldl_insertSorted_sorted (motifs : List Tactics.Motif) :
    ∀ acc : List String, acc.Pairwise (· < ·) →
    (motifs.foldl (fun acc m => insertSorted m.tag acc) acc).Pairwise (· < ·) ∧
      ∀ s ∈ motifs.foldl (fun acc m => insertSorted m.tag acc) acc,
        s ∈ acc ∨ ∃ m ∈ motifs, s = m.tag := by
  induction motifs with
  | nil => exact fun acc sorted => ⟨sorted, fun s member => .inl member⟩
  | cons m rest ih =>
    intro acc sorted
    obtain ⟨sorted', mem⟩ := ih (insertSorted m.tag acc) (sorted_insertSorted m.tag sorted)
    refine ⟨sorted', fun s member => ?_⟩
    rcases mem s member with inserted | later
    · rcases mem_insertSorted.mp inserted with rfl | old
      · exact .inr ⟨m, List.mem_cons_self, rfl⟩
      · exact .inl old
    · obtain ⟨m', mem', rfl⟩ := later
      exact .inr ⟨m', List.mem_cons_of_mem m mem', rfl⟩

/-- A puzzle's tags are its motif tags, distinct and in order, then its framing marker; stripping
reads the marker as the pseudo-tag it is and keeps the motif tags. -/
theorem stripLegacyTags_buildTags (motifs : List Tactics.Motif) (t : PuzzleType) :
    ∃ tags : List String, buildTags motifs t = tags ++ ["kind:" ++ t.tag] ∧
      tags.length ≤ maxTags - 1 ∧
      stripLegacyTags (buildTags motifs t) = (tags, [("kind", t.tag)]) := by
  obtain ⟨sorted, mem⟩ := foldl_insertSorted_sorted motifs [] List.Pairwise.nil
  have distinct := (sorted.sublist (List.take_sublist (maxTags - 1) _)).imp ne_of_lt
  have plain : ∀ s ∈ (motifs.foldl (fun acc m => insertSorted m.tag acc) []).take (maxTags - 1),
      PlainTag s := by
    intro s member
    rcases mem s (List.mem_of_mem_take member) with none | ⟨m, -, rfl⟩
    · cases none
    · exact plainTag_motif m
  exact ⟨_, rfl, List.length_take_le _ _, stripLegacyTags_marked _ distinct plain t⟩

/-! ## Reading a mined record -/

theorem looseMoves_ofStrs (xs : List String) : looseMoves (.ofStrs xs) = xs := by
  simp [looseMoves, Value.ofStrs, List.filterMap_map, Function.comp_def, Value.str?]

theorem alternatesOf_ofStrs (xs : List String) : alternatesOf (.ofStrs xs) = .ok xs := by
  cases xs with
  | nil => rfl
  | cons x rest =>
    simp [alternatesOf, Value.truthy, Value.ofStrs, looseMoves, List.filterMap_map,
      Function.comp_def, Value.str?]

theorem firstTruthy_ofOptStr (e : Option String) :
    firstTruthy [.ofOptStr e, .ofOptStr none] = .ofOptStr (e.filter (!·.isEmpty)) := by
  rcases e with _ | s
  · rfl
  · by_cases blank : s.isEmpty <;>
      simp [firstTruthy, Value.ofOptStr, Value.truthy, blank, Option.filter]

/-- How the store reads the record of any mined puzzle: the alternates are the accepted moves, the
tags come back with the framing marker read, and the opening's empty texts are absent. -/
theorem normalizeRecord_toValue (p : Analysis.Puzzle) :
    normalizeRecord p.toValue = .ok
      { sourcePly := p.sourcePly, fen := Text.trim p.fen, type := p.type, kind := p.kind,
        phase := some p.phase, severity := severityOf (.int p.severity),
        bestMove := Training.normalizeMove p.bestMove,
        acceptedMoves := Training.acceptedMoveSet p.bestMove p.acceptedMoves,
        bestLine := p.bestLine.map Training.normalizeMove, score := scoreOf p.score.toValue,
        tags := p.tags,
        opening := ⟨.ofOptStr (p.opening.eco.filter (!·.isEmpty)),
          .ofOptStr (p.opening.name.filter (!·.isEmpty)),
          .ofOptStr (p.opening.variation.filter (!·.isEmpty))⟩,
        label := if Text.isAllBlank p.label then none else some p.label } := by
  obtain ⟨tags, built, short, stripped⟩ := stripLegacyTags_buildTags p.motifs p.type
  rw [built] at stripped
  simp [normalizeRecord, recordField, Analysis.Puzzle.toValue, Value.get?, Value.field,
    alternatesOf_ofStrs, looseMoves_ofStrs, Analysis.Puzzle.tags, stripped, Value.str?, plyOf,
    openingOf, infoValue, firstTruthy_ofOptStr, built, List.take_of_length_le short]

/-- The row a mined puzzle is stored as. -/
def minedRow (p : Analysis.Puzzle) : PuzzleRow :=
  { sourcePly := p.sourcePly, fen := p.fen, type := p.type, kind := p.kind, phase := some p.phase,
    severity := some p.severity, bestMove := p.bestMove,
    acceptedMoves := Training.acceptedMoveSet p.bestMove p.acceptedMoves, bestLine := p.bestLine,
    score := some p.score, tags := p.tags,
    opening := ⟨.ofOptStr (p.opening.eco.filter (!·.isEmpty)),
      .ofOptStr (p.opening.name.filter (!·.isEmpty)),
      .ofOptStr (p.opening.variation.filter (!·.isEmpty))⟩,
    label := some p.label }

theorem severityOf_grade {n : Nat} (range : 1 ≤ n ∧ n ≤ 3) :
    severityOf (.int n) = some n := by
  have low : (1 : Int) ≤ n := by exact_mod_cast range.1
  have high : (n : Int) ≤ 3 := by exact_mod_cast range.2
  simp [severityOf, low, high]

theorem scoreOf_toValue {s : Score} (given : s.cp.isSome ∨ s.mate.isSome) :
    scoreOf s.toValue = some s := by
  rcases s with ⟨cp, mate⟩
  rcases cp with _ | cp <;> rcases mate with _ | mate <;>
    simp_all [scoreOf, Score.toValue, Value.field, Value.get?, Value.ofOptInt, Value.int?]

/-- A mined puzzle in normal form becomes its mined row. -/
theorem normalizeRecord_of_normal {p : Analysis.Puzzle} (normal : p.Normal) :
    normalizeRecord p.toValue = .ok (minedRow p) := by
  rw [normalizeRecord_toValue, normal.fen_trimmed, normal.bestMove_normal, normal.bestLine_normal,
    severityOf_grade normal.severity_range, scoreOf_toValue normal.score_given]
  simp [minedRow, normal.label_filled]

theorem maxInteger_lt_doubleOverflow : maxInteger < doubleOverflow := by
  decide +kernel

/-- A mined puzzle in normal form, at a ply the store can hold, has the shape of a puzzle. -/
theorem accepted_toValue {p : Analysis.Puzzle} (normal : p.Normal)
    (fits : p.sourcePly ≤ maxInteger) : Accepted p.toValue := by
  have small : p.sourcePly < doubleOverflow := lt_of_le_of_lt fits maxInteger_lt_doubleOverflow
  simp [Accepted, isPuzzleRecord, Analysis.Puzzle.toValue, recordField, Value.get?, Value.field,
    isPlyNumber, small, isFilledText, normal.fen_filled, normal.bestMove_filled, isTextList,
    Value.ofStrs, Value.str?, Function.comp_def, bind, Except.bind, pure, Except.pure]

/-- A batch of mined records in normal form is read without fault, one mined row per record. -/
theorem acceptedRows_mined : ∀ {ps : List Analysis.Puzzle},
    (∀ p ∈ ps, p.Normal ∧ p.sourcePly ≤ maxInteger) →
      acceptedRows (ps.map Analysis.Puzzle.toValue) = .ok (ps.map minedRow)
  | [], _ => rfl
  | p :: rest, mined => by
    obtain ⟨normal, fits⟩ := mined p List.mem_cons_self
    have others := acceptedRows_mined fun q member => mined q (List.mem_cons_of_mem p member)
    have kept : isPuzzleRecord p.toValue = .ok true := accepted_toValue normal fits
    simp [acceptedRows, kept, normalizeRecord_of_normal normal, others, bind, Except.bind, pure,
      Except.pure, Functor.map, Except.map]

@[simp] theorem bindable_ofOptStr (o : Option String) : (Value.ofOptStr o).bindable = true := by
  cases o <;> rfl

theorem minedRow_storable {p : Analysis.Puzzle} (fits : p.sourcePly ≤ maxInteger) :
    (minedRow p).Storable :=
  ⟨fits, bindable_ofOptStr _, bindable_ofOptStr _, bindable_ofOptStr _⟩

/-! ## Accepted moves -/

/-- Keeping the first of each move appends a move list that repeats nothing. -/
theorem foldl_dedupe_of_nodup : ∀ (acc xs : List String), (acc ++ xs).Nodup →
    xs.foldl (fun acc x => if acc.contains x then acc else acc ++ [x]) acc = acc ++ xs
  | acc, [], _ => by simp
  | acc, x :: rest, nodup => by
    have fresh : x ∉ acc := fun mem => (List.nodup_append.mp nodup).2.2 x mem x
      List.mem_cons_self rfl
    have later := foldl_dedupe_of_nodup (acc ++ [x]) rest (by simpa using nodup)
    rw [List.foldl_cons, if_neg (by simpa using fresh), later]
    simp

/-- Accepted moves that start with the best move, repeat nothing, are already normalised and
non-empty and fit the cap are kept as they are. -/
theorem acceptedMoveSet_of_leading {best : String} {rest : List String}
    (nodup : (best :: rest).Nodup)
    (normal : ∀ s ∈ best :: rest, Training.normalizeMove s = s ∧ s.isEmpty = false)
    (short : (best :: rest).length ≤ Training.maxAccepted) :
    Training.acceptedMoveSet best (best :: rest) = best :: rest := by
  have fixed : (best :: best :: rest).map Training.normalizeMove = best :: best :: rest := by
    rw [List.map_cons, (normal best List.mem_cons_self).1]
    exact congrArg _
      ((List.map_congr_left fun s member => (normal s member).1).trans (List.map_id _))
  have filled : (best :: best :: rest).filter (!·.isEmpty) = best :: best :: rest :=
    List.filter_eq_self.mpr fun s member => by
      rcases List.mem_cons.mp member with rfl | member
      · simp [(normal s List.mem_cons_self).2]
      · simp [(normal s member).2]
  have once : Training.dedupe (best :: best :: rest) = best :: rest := by
    simpa [Training.dedupe] using foldl_dedupe_of_nodup [best] rest nodup
  simp only [Training.acceptedMoveSet, fixed, filled, once]
  exact List.take_of_length_le short

/-! ## What the store keeps -/

/-- What a stored puzzle keeps of a mined one: every field, the opening's empty texts read as
absent, and the accepted moves normalised with the best move put in front. -/
structure Keeps (p : Analysis.Puzzle) (q : Puzzle) : Prop where
  sourcePly : q.sourcePly = p.sourcePly
  fen : q.fen = p.fen
  type : q.type = p.type
  kind : q.kind = p.kind
  phase : q.phase = some p.phase
  severity : q.severity = some p.severity
  bestMove : q.bestMove = p.bestMove
  bestLine : q.bestLine = p.bestLine
  acceptedMoves : q.acceptedMoves = Training.acceptedMoveSet p.bestMove p.acceptedMoves
  score : q.score = some p.score
  tags : q.tags = p.tags
  eco : q.eco = p.opening.eco.filter (!·.isEmpty)
  openingName : q.openingName = p.opening.name.filter (!·.isEmpty)
  variation : q.variation = p.opening.variation.filter (!·.isEmpty)
  label : q.label = some p.label

@[simp] theorem columnText_ofOptStr (gameId : String) (index : Nat) (o : Option String) :
    columnText gameId index (.ofOptStr o) = .ok o := by
  cases o <;> rfl

theorem keeps_of_ofRow {id owner gameId createdAt : String} {p : Analysis.Puzzle} {q : Puzzle}
    (stored : Puzzle.ofRow id owner gameId createdAt (minedRow p) = .ok q) : Keeps p q := by
  obtain ⟨-, eco, name, variation, eco_ok, name_ok, variation_ok, rfl⟩ := ofRow_eq_ok.mp stored
  simp only [minedRow, columnText_ofOptStr, Except.ok.injEq] at eco_ok name_ok variation_ok
  subst eco_ok name_ok variation_ok
  constructor <;> simp only [minedRow]

/-- When the mined accepted moves start with the best move and are already in the form the
store gives them, the stored accepted moves are the mined ones. -/
theorem Keeps.acceptedMoves_of_leading {p : Analysis.Puzzle} {q : Puzzle} (kept : Keeps p q)
    {rest : List String} (leading : p.acceptedMoves = p.bestMove :: rest)
    (nodup : p.acceptedMoves.Nodup)
    (normal : ∀ s ∈ p.acceptedMoves, Training.normalizeMove s = s ∧ s.isEmpty = false)
    (short : p.acceptedMoves.length ≤ Training.maxAccepted) :
    q.acceptedMoves = p.acceptedMoves := by
  rw [kept.acceptedMoves, leading]
  rw [leading] at nodup normal short
  exact acceptedMoveSet_of_leading nodup normal short

/-! ## Ingesting and syncing -/

section Ingest

variable {owner gameId : String} {t : Tables}

/-- Ingesting the records of mined puzzles in normal form, at distinct keys and at plies the store
can hold, into the user's game takes every record and leaves the game's puzzles one per mined
puzzle, each keeping what was mined. -/
theorem ingest_mined {ps : List Analysis.Puzzle} (owned : (t.ownGame? owner gameId).isSome)
    (mined : ∀ p ∈ ps, p.Normal ∧ p.sourcePly ≤ maxInteger)
    (distinct : (ps.map fun p => (p.sourcePly, p.type)).Nodup) :
    ∃ t', (ingest owner gameId (ps.map Analysis.Puzzle.toValue)).run.run t =
        (.ok { received := ps.length, accepted := ps.length, dropped := 0,
               inserted := ps.length }, t') ∧
      List.Forall₂ Keeps ps (t'.puzzles.filter (Puzzle.belongsTo owner gameId)) := by
  have read := acceptedRows_mined mined
  have storable : ∀ row ∈ ps.map minedRow, row.Storable := by
    simp only [List.mem_map]
    rintro _ ⟨p, member, rfl⟩
    exact minedRow_storable (mined p member).2
  obtain ⟨count, t', replaced⟩ := replacePuzzles_succeeds owned storable
  obtain ⟨stamp, fresh, swap, rfl⟩ := replacePuzzles_ok replaced
  have keys : ((ps.map minedRow).map PuzzleRow.key).Nodup := by
    simpa [List.map_map, Function.comp_def, PuzzleRow.key, minedRow] using distinct
  have stored := swap.stored
  rw [firstUnseen_of_distinct _ keys (by simp)] at stored
  have counted : fresh.length = ps.length := by
    simpa using stored.length_eq.symm
  refine ⟨t', ?_, ?_⟩
  · rw [ingest_run_of_inserted read replaced, counted]
    simp
  · rw [swap.gamePuzzles]
    exact (List.forall₂_map_left_iff.mp stored).imp fun p q held => keeps_of_ofRow held

end Ingest

section Sync

variable {σ : Type} {owner gameId : String} {c : Config} {ev : Option (Evaluator σ)}
  {supplied : Evaluations} {book : Openings.Book} {t : Tables} {g : Game} {s s' : σ}

theorem syncGame_run_of_failed (found : t.ownGame? owner gameId = some g) {f : Failure}
    (analysed : (analyzeGame g.pgn c ev supplied none g.userColor book).run s = (.error f, s')) :
    ((syncGame owner gameId c ev supplied book).run.run t).run s =
      ((.error (.analysis f), t), s') := by
  simp only [syncGame, SyncM.run_bind, Step.lift_run, getGame_run, found, SyncM.run_lift, analysed]
  rfl

theorem syncGame_run_of_ingested (found : t.ownGame? owner gameId = some g) {a : GameAnalysis}
    (analysed : (analyzeGame g.pgn c ev supplied none g.userColor book).run s = (.ok a, s'))
    {report : IngestReport} {t' : Tables}
    (ingested : (ingest owner gameId (a.puzzles.map Analysis.Puzzle.toValue)).run.run t =
      (.ok report, t')) :
    ((syncGame owner gameId c ev supplied book).run.run t).run s =
      ((.ok { gameId := gameId, puzzles := report.inserted, plies := a.game.plyCount,
              userColor := a.userColor, opening := a.opening, accuracyWhite := a.accuracyWhite,
              accuracyBlack := a.accuracyBlack }, t'), s') := by
  simp only [syncGame, SyncM.run_bind, Step.lift_run, getGame_run, found, SyncM.run_lift, analysed,
    ingested]
  rfl

/-- Syncing a game of the user stores exactly what the analysis of its text mined.  When the
analysis finishes, at a game whose plies the store's integer column can hold, the sync reports
one puzzle per puzzle mined, and the game's puzzles are then one stored puzzle per mined puzzle,
keeping its fields.  When the analysis fails, the sync fails with its failure and changes
nothing. -/
theorem syncGame_stores_analysis (found : t.ownGame? owner gameId = some g) (s : σ) :
    (∀ a s', (analyzeGame g.pgn c ev supplied none g.userColor book).run s = (.ok a, s') →
      a.game.plyCount ≤ maxInteger →
      ∃ report t', ((syncGame owner gameId c ev supplied book).run.run t).run s =
          ((.ok report, t'), s') ∧ report.puzzles = a.puzzles.length ∧
        ∃ rows stored, ((gamePuzzles owner gameId).run.run t').1 = .ok rows ∧
          rows.Perm stored ∧ List.Forall₂ Keeps a.puzzles stored) ∧
    (∀ f s', (analyzeGame g.pgn c ev supplied none g.userColor book).run s = (.error f, s') →
      ((syncGame owner gameId c ev supplied book).run.run t).run s =
        ((.error (.analysis f), t), s')) := by
  refine ⟨fun a s' analysed fits => ?_,
    fun f s' analysed => syncGame_run_of_failed found analysed⟩
  have finished : ((analyzeGame g.pgn c ev supplied none g.userColor book).run s).1 = .ok a := by
    rw [analysed]
  have mined : ∀ p ∈ a.puzzles, p.Normal ∧ p.sourcePly ≤ maxInteger := by
    intro p member
    obtain ⟨normal, posed⟩ := normal_of_mem_puzzles finished member
    exact ⟨normal, posed.trans fits⟩
  have owned : (t.ownGame? owner gameId).isSome := by
    simp [found]
  obtain ⟨t', ingested, kept⟩ := ingest_mined owned mined (nodup_keys_of_analyzeGame finished)
  refine ⟨_, t', syncGame_run_of_ingested found analysed ingested, rfl, _, _, rfl,
    List.mergeSort_perm _ _, kept⟩

/-- The store holding the scholar's mate as game `g` of `user-1`. -/
def scholarsMateTables : Tables :=
  ((upsertGame "user-1" Analysis.scholarsMate (some "g") none {} none none).run.run {}).2

/-- Syncing the scholar's mate, mined from its first ply with its supplied evaluations, stores the
puzzles of its analysis as the round trip says. -/
theorem syncGame_stores_analysis_scholarsMate :
    ∃ g, scholarsMateTables.ownGame? "user-1" "g" = some g ∧
      (∀ a s',
        (analyzeGame g.pgn Analysis.firstPlyConfig (none : Option (Evaluator Unit))
            Analysis.scholarsMateEvaluations none g.userColor Openings.defaultBook).run () =
          (.ok a, s') →
        a.game.plyCount ≤ maxInteger →
        ∃ report t', ((syncGame "user-1" "g" Analysis.firstPlyConfig
            (none : Option (Evaluator Unit)) Analysis.scholarsMateEvaluations
            Openings.defaultBook).run.run scholarsMateTables).run () = ((.ok report, t'), s') ∧
          report.puzzles = a.puzzles.length ∧
          ∃ rows stored, ((gamePuzzles "user-1" "g").run.run t').1 = .ok rows ∧
            rows.Perm stored ∧ List.Forall₂ Keeps a.puzzles stored) ∧
      (∀ f s',
        (analyzeGame g.pgn Analysis.firstPlyConfig (none : Option (Evaluator Unit))
            Analysis.scholarsMateEvaluations none g.userColor Openings.defaultBook).run () =
          (.error f, s') →
        ((syncGame "user-1" "g" Analysis.firstPlyConfig (none : Option (Evaluator Unit))
            Analysis.scholarsMateEvaluations Openings.defaultBook).run.run
              scholarsMateTables).run () =
          ((.error (.analysis f), scholarsMateTables), s')) :=
  ⟨_, rfl, syncGame_stores_analysis rfl ()⟩

end Sync

/-- The avoiding puzzle of the lone queen's position, mined from an evaluation whose move text
d1d7 differs from its principal variation's d1d8, is solved by d1d8 and accepts only d1d7; the
store reads its record as a row accepting d1d8 and then d1d7. -/
theorem minedRow_puts_bestMove_first :
    ∃ p, buildPuzzle
        { type := .avoidBlunder, sourcePly := 0, fen := "4k3/8/8/8/8/8/8/3QK3 w - - 0 1",
          evaluation :=
            { fen := "4k3/8/8/8/8/8/8/3QK3 w - - 0 1",
              lines := [{ move := "d1d7", score := { cp := some 900 }, pv := ["d1d8"] }] },
          swing := 300, kind := .blunder, severity := 2, referenceCp := 600 }
        {} { openingSkipPlies := 0, minPvMoves := 1, requireTactical := false,
             skipTrivialEndgames := false } = .ok p ∧
      p.bestMove = "d1d8" ∧ p.acceptedMoves = ["d1d7"] ∧
      ∃ row, normalizeRecord p.toValue = .ok row ∧ row.acceptedMoves = ["d1d8", "d1d7"] := by
  obtain ⟨p, built, best, accepted⟩ := Analysis.buildPuzzle_stray_pv
  have bestFirst : Training.acceptedMoveSet "d1d8" ["d1d7"] = ["d1d8", "d1d7"] := by
    decide +kernel
  refine ⟨p, built, best, accepted, _, normalizeRecord_toValue _, ?_⟩
  rw [best, accepted]
  exact bestFirst

end Store
end Tactician
