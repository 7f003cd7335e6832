import Mathlib
import Tactician.Proofs.Store.Replace
import Tactician.Store.Sync

/-!
# Ingesting a batch of puzzle records

A batch is read record by record: a record of the wrong shape is dropped, one of the right shape
becomes a row.  The rows then replace the game's puzzle set.

Main statement: an ingest either reports the batch (every record received, the well-formed ones
accepted, one row in per key) having swapped the game's puzzles, or fails having changed no row;
it reports exactly when no record is faulty, the game is the user's and every row can be stored.
A well-formed record whose opening is a list is not storable, so one record can fail a batch.
-/

namespace Tactician
namespace Store

/-- Whether a record has the shape of a puzzle. -/
def Accepted (r : Value) : Prop := isPuzzleRecord r = .ok true

instance (r : Value) : Decidable (Accepted r) := inferInstanceAs (Decidable (_ = _))

/-! ## Reading a batch -/

/-- A batch read without fault holds the rows of its well-formed records, in order; every record
was checked without fault. -/
theorem acceptedRows_ok {records : List Value} {rows : List PuzzleRow}
    (read : acceptedRows records = .ok rows) :
    (∀ r ∈ records, ∃ keep, isPuzzleRecord r = .ok keep) ∧
      List.Forall₂ (fun r row => normalizeRecord r = .ok row) (records.filter (Accepted ·))
        rows := by
  induction records generalizing rows with
  | nil =>
    simp only [acceptedRows, Except.ok.injEq] at read
    subst read
    simp
  | cons r rest ih =>
    rcases checked : isPuzzleRecord r with f | keep
    · simp [acceptedRows, checked, bind, Except.bind] at read
    rcases others : acceptedRows rest with f | tail
    · cases keep <;>
      · rcases normalized : normalizeRecord r with g | row <;>
        simp [acceptedRows, checked, normalized, others, bind, Except.bind, pure, Except.pure,
          Functor.map, Except.map] at read
    obtain ⟨fine, related⟩ := ih others
    have checkedAll : ∀ x ∈ r :: rest, ∃ keep, isPuzzleRecord x = .ok keep := by
      simpa [checked] using fine
    cases keep with
    | false =>
      simp only [acceptedRows, checked, others, bind, Except.bind, pure, Except.pure, if_false,
        Option.toList_none, List.nil_append, Except.ok.injEq, Bool.false_eq_true] at read
      subst read
      have dropped : ¬ Accepted r := by simp [Accepted, checked]
      exact ⟨checkedAll, by simpa [List.filter_cons, dropped] using related⟩
    | true =>
      rcases normalized : normalizeRecord r with g | row
      · simp [acceptedRows, checked, normalized, bind, Except.bind, Functor.map, Except.map] at read
      simp only [acceptedRows, checked, normalized, others, bind, Except.bind, pure, Except.pure,
        if_true, Functor.map, Except.map, Option.toList_some, List.singleton_append,
        Except.ok.injEq] at read
      subst read
      have kept : Accepted r := checked
      exact ⟨checkedAll, by simpa [List.filter_cons, kept] using And.intro normalized related⟩

/-- A batch breaks off at a record whose check faults, or at a well-formed record that cannot be
read as a row. -/
theorem acceptedRows_error {records : List Value} {f : RecordFault}
    (read : acceptedRows records = .error f) :
    ∃ r ∈ records, isPuzzleRecord r = .error f ∨ Accepted r ∧ normalizeRecord r = .error f := by
  induction records with
  | nil => simp [acceptedRows] at read
  | cons r rest ih =>
    rcases checked : isPuzzleRecord r with g | keep
    · simp only [acceptedRows, checked, bind, Except.bind, Except.error.injEq] at read
      exact ⟨r, List.mem_cons_self, .inl (read ▸ checked)⟩
    have later (faulted : acceptedRows rest = .error f) :
        ∃ x ∈ r :: rest, isPuzzleRecord x = .error f ∨ Accepted x ∧ normalizeRecord x = .error f :=
      let ⟨x, member, holds⟩ := ih faulted
      ⟨x, List.mem_cons_of_mem r member, holds⟩
    cases keep with
    | false =>
      rcases others : acceptedRows rest with g | tail <;>
      simp only [acceptedRows, checked, others, bind, Except.bind, pure, Except.pure, if_false,
        Bool.false_eq_true, Except.error.injEq, reduceCtorEq] at read
      exact later (read ▸ others)
    | true =>
      rcases normalized : normalizeRecord r with g | row
      · simp only [acceptedRows, checked, normalized, bind, Except.bind, if_true, Functor.map,
          Except.map, Except.error.injEq] at read
        exact ⟨r, List.mem_cons_self, .inr ⟨checked, read ▸ normalized⟩⟩
      rcases others : acceptedRows rest with g | tail <;>
      simp only [acceptedRows, checked, normalized, others, bind, Except.bind, pure, Except.pure,
        if_true, Functor.map, Except.map, Except.error.injEq, reduceCtorEq] at read
      exact later (read ▸ others)

/-- Only well-formed records give rows: the rows are as many as the records accepted. -/
theorem length_acceptedRows {records : List Value} {rows : List PuzzleRow}
    (read : acceptedRows records = .ok rows) :
    rows.length = (records.filter (Accepted ·)).length :=
  ((acceptedRows_ok read).2.length_eq).symm

/-! ## Ingesting -/

section Ingest

variable {owner gameId : String} {records : List Value} {t : Tables}

theorem ingest_run_of_fault {f : RecordFault} (read : acceptedRows records = .error f) :
    (ingest owner gameId records).run.run t = (.error (.record f), t) := by
  simp only [ingest, read, Step.run_bind, Step.run_throw]

theorem ingest_run_of_inserted {rows : List PuzzleRow} (read : acceptedRows records = .ok rows)
    {inserted : Nat} {t' : Tables}
    (replaced : (replacePuzzles owner gameId rows).run.run t = (.ok inserted, t')) :
    (ingest owner gameId records).run.run t =
      (.ok { received := records.length, accepted := rows.length,
             dropped := records.length - rows.length, inserted := inserted }, t') := by
  simp only [ingest, read, Step.run_bind, Step.run_pure, replaced]

theorem ingest_run_of_refused {rows : List PuzzleRow} (read : acceptedRows records = .ok rows)
    {e : Error} {t' : Tables}
    (refused : (replacePuzzles owner gameId rows).run.run t = (.error e, t')) :
    (ingest owner gameId records).run.run t = (.error e, t') := by
  simp only [ingest, read, Step.run_bind, Step.run_pure, refused]

/-- An ingest that reports has read the batch without fault and swapped the game's puzzles; it
counts every record received, the well-formed ones accepted, and one row in per key. -/
theorem ingest_ok {report : IngestReport} {t' : Tables}
    (ran : (ingest owner gameId records).run.run t = (.ok report, t')) :
    ∃ rows, acceptedRows records = .ok rows ∧
      report = { received := records.length, accepted := (records.filter (Accepted ·)).length,
                 dropped := records.length - (records.filter (Accepted ·)).length,
                 inserted := (rows.map PuzzleRow.key).toFinset.card } ∧
      ∃ stamp fresh, Swapped owner gameId rows stamp fresh t t' := by
  rcases read : acceptedRows records with f | rows
  · rw [ingest_run_of_fault read] at ran
    cases ran
  rcases replaced : (replacePuzzles owner gameId rows).run.run t with ⟨_ | inserted, t''⟩
  · rw [ingest_run_of_refused read replaced] at ran
    cases ran
  rw [ingest_run_of_inserted read replaced, Prod.mk.injEq, Except.ok.injEq] at ran
  obtain ⟨rfl, rfl⟩ := ran
  obtain ⟨stamp, fresh, swap, rfl⟩ := replacePuzzles_ok replaced
  have keys : fresh.length = (rows.map PuzzleRow.key).toFinset.card := by
    rw [← swap.stored.length_eq, length_firstUnseen]
    simp
  refine ⟨rows, rfl, ?_, stamp, fresh, swap⟩
  rw [keys, length_acceptedRows read]

/-- An ingest that fails changes no row; it fails for the game only when the game is not the
user's. -/
theorem ingest_error {e : Error} {t' : Tables}
    (ran : (ingest owner gameId records).run.run t = (.error e, t')) :
    t.SameRows t' ∧ (e = .gameNotFound gameId → t.ownGame? owner gameId = none) := by
  rcases read : acceptedRows records with f | rows
  · rw [ingest_run_of_fault read, Prod.mk.injEq, Except.error.injEq] at ran
    obtain ⟨rfl, rfl⟩ := ran
    exact ⟨Tables.SameRows.refl t, fun named => by cases named⟩
  rcases replaced : (replacePuzzles owner gameId rows).run.run t with ⟨e' | inserted, t''⟩
  · rw [ingest_run_of_refused read replaced, Prod.mk.injEq, Except.error.injEq] at ran
    obtain ⟨rfl, rfl⟩ := ran
    obtain ⟨same, -, cause⟩ := replacePuzzles_error replaced
    refine ⟨same, fun named => ?_⟩
    rcases cause with ⟨missing, -⟩ | ⟨-, -, rfl | ⟨reason, rfl⟩⟩
    · exact missing
    · cases named
    · cases named
  · rw [ingest_run_of_inserted read replaced] at ran
    cases ran

/-- An ingest reports exactly when no record of the batch is faulty, the game is the user's and
every row can be stored. -/
theorem ingest_ok_iff :
    (∃ report t', (ingest owner gameId records).run.run t = (.ok report, t')) ↔
      ∃ rows, acceptedRows records = .ok rows ∧ (t.ownGame? owner gameId).isSome ∧
        ∀ row ∈ rows, row.Storable := by
  constructor
  · rintro ⟨report, t', ran⟩
    obtain ⟨rows, read, -, stamp, fresh, swap⟩ := ingest_ok ran
    exact ⟨rows, read, swap.owned, swap.storable⟩
  · rintro ⟨rows, read, owned, storable⟩
    obtain ⟨inserted, t', replaced⟩ := replacePuzzles_succeeds owned storable
    exact ⟨_, t', ingest_run_of_inserted read replaced⟩

end Ingest

/-- Ingesting a batch either reports it, counting every record received, the well-formed ones
accepted and one row in per key of their rows, having swapped the game's puzzles for the first row
of each key; or it fails having changed no row, and fails for the game only when the game is not
the user's.  It reports exactly when no record is faulty, the game is the user's and every row can
be stored. -/
theorem ingest_reports_or_keeps_rows (owner gameId : String) (records : List Value) (t : Tables) :
    (∀ report t', (ingest owner gameId records).run.run t = (.ok report, t') →
      ∃ rows, acceptedRows records = .ok rows ∧
        report = { received := records.length, accepted := (records.filter (Accepted ·)).length,
                   dropped := records.length - (records.filter (Accepted ·)).length,
                   inserted := (rows.map PuzzleRow.key).toFinset.card } ∧
        ∃ stamp fresh, Swapped owner gameId rows stamp fresh t t') ∧
    (∀ e t', (ingest owner gameId records).run.run t = (.error e, t') →
      t.SameRows t' ∧ (e = .gameNotFound gameId → t.ownGame? owner gameId = none)) ∧
    ((∃ report t', (ingest owner gameId records).run.run t = (.ok report, t')) ↔
      ∃ rows, acceptedRows records = .ok rows ∧ (t.ownGame? owner gameId).isSome ∧
        ∀ row ∈ rows, row.Storable) :=
  ⟨fun _ _ ran => ingest_ok ran, fun _ _ ran => ingest_error ran, ingest_ok_iff⟩

/-- A well-formed record at ply 0 whose opening has the given code. -/
def recordWithEco (eco : Value) : Value :=
  .obj [("source_ply", .int 0), ("fen", .str "f"), ("best_move_uci", .str "e2e4"),
        ("best_line_uci", .arr []), ("tags", .arr []), ("opening", .obj [("eco", eco)])]

/-- The store holding one game `g` of `user-1`. -/
def oneGameTables : Tables := ((upsertGame "user-1" "" (some "g") none {} none none).run.run {}).2

/-- One well-formed record fails the whole batch when its opening code cannot be bound: a list has
no column type, and the integer `10 ^ 25` overflows the column. -/
theorem ingest_fails_on_list_opening :
    Accepted (recordWithEco (.arr [.str "A00"])) ∧ Accepted (recordWithEco (.int (10 ^ 25))) ∧
      (oneGameTables.ownGame? "user-1" "g").isSome ∧
      ((ingest "user-1" "g" [recordWithEco (.arr [.str "A00"])]).run.run
          oneGameTables).1.mapError Error.message =
        .error "Replacing puzzles for game g failed: Error binding parameter 15: type 'list' is not supported" ∧
      ((ingest "user-1" "g" [recordWithEco (.int (10 ^ 25))]).run.run
          oneGameTables).1.mapError Error.message =
        .error "int too large to convert to SQLite INTEGER" :=
  ⟨by decide +kernel, by decide +kernel, by decide +kernel, by decide +kernel, by decide +kernel⟩

end Store
end Tactician
