import Mathlib
import Tactician.Proofs.Store.Steps
import Tactician.Proofs.Store.Identifiers

/-!
# Replacing a game's puzzle set

A replace draws one identifier per row and binds each row's values to the columns, failing at
the first row that cannot be stored; the rows that go in are then the first of each (ply,
framing) key.  The insertion loop is split here into these two stages (`stampRows` and
`appended`), so that identifiers and failures are read off the first and keys off the second.

Main statement: a successful replace of a user's game swaps the game's puzzles for the stored
form of the first row of each key, deletes the attempts on the game's old puzzles, marks the game
analysed and changes no other row (`Swapped`); a failed one changes no row at all.
-/

namespace Tactician

/-- Whether a value can be bound to a text column: a list or a record has no column type, and an
integer must fit the signed 64-bit range. -/
def Value.bindable : Value → Bool
  | .arr _ | .obj _ => false
  | .int i => Store.fitsInteger i
  | _ => true

namespace Store

open Analysis

/-! ## Keys and storable rows -/

/-- The key a row is kept under within its game: its ply and framing. -/
def PuzzleRow.key (row : PuzzleRow) : Nat × PuzzleType := (row.sourcePly, row.type)

/-- The key a stored puzzle is kept under within its game. -/
def Puzzle.key (p : Puzzle) : Nat × PuzzleType := (p.sourcePly, p.type)

/-- A row every column of which takes its value: its ply fits the integer column and its
opening fields can be bound. -/
structure PuzzleRow.Storable (row : PuzzleRow) : Prop where
  ply : row.sourcePly ≤ maxInteger
  eco : row.opening.eco.bindable
  name : row.opening.name.bindable
  variation : row.opening.variation.bindable

theorem columnText_ok_iff (gameId : String) (index : Nat) (v : Value) :
    (∃ s, columnText gameId index v = .ok s) ↔ v.bindable := by
  cases v with
  | int i => cases fits : fitsInteger i <;> simp [columnText, Value.bindable, fits]
  | _ => simp [columnText, Value.bindable]

/-- A column refuses its value only by an overflow, or by a fault the game's replace reports. -/
theorem columnText_error {gameId : String} {index : Nat} {v : Value} {e : Error}
    (refused : columnText gameId index v = .error e) :
    e = .integerOverflow ∨ ∃ reason, e = .replaceFailed gameId reason := by
  cases v with
  | int i => cases fits : fitsInteger i <;> simp_all [columnText]
  | arr xs => exact .inr ⟨_, (Except.error.inj refused).symm⟩
  | obj fs => exact .inr ⟨_, (Except.error.inj refused).symm⟩
  | _ => cases refused

/-- How a row is stored: under the given id, owner, game and time, with its opening fields as the
texts their columns take; this fails exactly when the ply is too large or an opening field is no
scalar. -/
theorem ofRow_eq_ok {id owner gameId createdAt : String} {row : PuzzleRow} {p : Puzzle} :
    Puzzle.ofRow id owner gameId createdAt row = .ok p ↔
      row.sourcePly ≤ maxInteger ∧ ∃ eco name variation,
        columnText gameId 15 row.opening.eco = .ok eco ∧
        columnText gameId 16 row.opening.name = .ok name ∧
        columnText gameId 17 row.opening.variation = .ok variation ∧
        p = { id := id, owner := owner, gameId := gameId, sourcePly := row.sourcePly,
              fen := row.fen, type := row.type, kind := row.kind, phase := row.phase,
              severity := row.severity, bestMove := row.bestMove,
              acceptedMoves := row.acceptedMoves, bestLine := row.bestLine, score := row.score,
              tags := row.tags, eco := eco, openingName := name, variation := variation,
              label := row.label, createdAt := createdAt } := by
  unfold Puzzle.ofRow
  by_cases big : maxInteger < row.sourcePly
  · have : ¬ row.sourcePly ≤ maxInteger := Nat.not_le.mpr big
    simp [big, this, bind, Except.bind, throw, throwThe, MonadExceptOf.throw]
  · have fits : row.sourcePly ≤ maxInteger := Nat.not_lt.mp big
    rcases columnText gameId 15 row.opening.eco with e₁ | eco
    · simp [big, bind, Except.bind]
    rcases columnText gameId 16 row.opening.name with e₂ | name
    · simp [big, bind, Except.bind]
    rcases columnText gameId 17 row.opening.variation with e₃ | variation
    · simp [big, bind, Except.bind]
    simp [big, fits, bind, Except.bind, pure, Except.pure, eq_comm]

theorem ofRow_ok_iff (id owner gameId createdAt : String) (row : PuzzleRow) :
    (∃ p, Puzzle.ofRow id owner gameId createdAt row = .ok p) ↔ row.Storable := by
  simp only [ofRow_eq_ok]
  constructor
  · rintro ⟨p, fits, eco, name, variation, eco_ok, name_ok, variation_ok, -⟩
    exact ⟨fits, (columnText_ok_iff gameId 15 _).mp ⟨_, eco_ok⟩,
      (columnText_ok_iff gameId 16 _).mp ⟨_, name_ok⟩,
      (columnText_ok_iff gameId 17 _).mp ⟨_, variation_ok⟩⟩
  · rintro ⟨fits, eco, name, variation⟩
    obtain ⟨eco, eco_ok⟩ := (columnText_ok_iff gameId 15 _).mpr eco
    obtain ⟨name, name_ok⟩ := (columnText_ok_iff gameId 16 _).mpr name
    obtain ⟨variation, variation_ok⟩ := (columnText_ok_iff gameId 17 _).mpr variation
    exact ⟨_, fits, eco, name, variation, eco_ok, name_ok, variation_ok, rfl⟩

/-- A stored row carries the id, owner, game and time it was stored with, and the row's key. -/
theorem ofRow_stamps {id owner gameId createdAt : String} {row : PuzzleRow} {p : Puzzle}
    (stored : Puzzle.ofRow id owner gameId createdAt row = .ok p) :
    p.id = id ∧ p.owner = owner ∧ p.gameId = gameId ∧ p.createdAt = createdAt ∧
      p.key = row.key := by
  obtain ⟨-, eco, name, variation, -, -, -, rfl⟩ := ofRow_eq_ok.mp stored
  exact ⟨rfl, rfl, rfl, rfl, rfl⟩

/-- Storing a row under another id and time gives the same puzzle with that id and time. -/
theorem ofRow_restamp {id owner gameId createdAt : String} {row : PuzzleRow} {p : Puzzle}
    (stored : Puzzle.ofRow id owner gameId createdAt row = .ok p) (id' createdAt' : String) :
    Puzzle.ofRow id' owner gameId createdAt' row =
      .ok { p with id := id', createdAt := createdAt' } := by
  obtain ⟨fits, eco, name, variation, eco_ok, name_ok, variation_ok, rfl⟩ := ofRow_eq_ok.mp stored
  exact ofRow_eq_ok.mpr ⟨fits, eco, name, variation, eco_ok, name_ok, variation_ok, rfl⟩

/-- A row fails to be stored by an integer too large for its column, or by an opening field with
no column type, which the game's replace reports. -/
theorem ofRow_error {id owner gameId createdAt : String} {row : PuzzleRow} {e : Error}
    (refused : Puzzle.ofRow id owner gameId createdAt row = .error e) :
    e = .integerOverflow ∨ ∃ reason, e = .replaceFailed gameId reason := by
  unfold Puzzle.ofRow at refused
  by_cases big : maxInteger < row.sourcePly
  · simp only [big, if_true, bind, Except.bind, throw, throwThe, MonadExceptOf.throw,
      Except.error.injEq] at refused
    exact .inl refused.symm
  rcases ecoText : columnText gameId 15 row.opening.eco with e₁ | eco
  · simp [big, ecoText, bind, Except.bind] at refused
    exact refused ▸ columnText_error ecoText
  rcases nameText : columnText gameId 16 row.opening.name with e₂ | name
  · simp [big, ecoText, nameText, bind, Except.bind] at refused
    exact refused ▸ columnText_error nameText
  rcases variationText : columnText gameId 17 row.opening.variation with e₃ | variation
  · simp [big, ecoText, nameText, variationText, bind, Except.bind] at refused
    exact refused ▸ columnText_error variationText
  simp [big, ecoText, nameText, variationText, bind, Except.bind, pure, Except.pure] at refused

/-! ## The insertion loop in two stages -/

/-- The rows as stored under the identifiers drawn after the `n`-th, one per row; or the fault of
the first row that cannot be stored, with the number of identifiers drawn up to it. -/
def stampRows (owner gameId createdAt : String) : Nat → List PuzzleRow → Except (Error × Nat) (List Puzzle)
  | _, [] => .ok []
  | n, row :: rest => do
    let p ← (Puzzle.ofRow (uuidText (n + 1)) owner gameId createdAt row).mapError (·, n + 1)
    let ps ← stampRows owner gameId createdAt (n + 1) rest
    return p :: ps

/-- The puzzles that go into a table when appended one by one, a puzzle whose key the table
already holds being skipped. -/
def appended (table : List Puzzle) : List Puzzle → List Puzzle
  | [] => []
  | p :: rest => if table.any p.sameKey then appended table rest else p :: appended (table ++ [p]) rest

theorem stampRows_cons_ok {owner gameId createdAt : String} {n : Nat} {row : PuzzleRow}
    {rest : List PuzzleRow} {ps : List Puzzle}
    (stamped : stampRows owner gameId createdAt n (row :: rest) = .ok ps) :
    ∃ p qs, Puzzle.ofRow (uuidText (n + 1)) owner gameId createdAt row = .ok p ∧
      stampRows owner gameId createdAt (n + 1) rest = .ok qs ∧ ps = p :: qs := by
  simp only [stampRows] at stamped
  rcases first : Puzzle.ofRow (uuidText (n + 1)) owner gameId createdAt row with e | p
  · simp [first, Except.mapError, bind, Except.bind] at stamped
  · rcases others : stampRows owner gameId createdAt (n + 1) rest with e | qs
    · simp [first, others, Except.mapError, bind, Except.bind] at stamped
    · simp only [first, others, Except.mapError, bind, Except.bind, pure, Except.pure,
        Except.ok.injEq] at stamped
      exact ⟨p, qs, rfl, rfl, stamped.symm⟩

/-- When every row is stored, the loop appends the new-keyed ones and draws one identifier per
row. -/
theorem insertRows_of_stamped {owner gameId createdAt : String} {rows : List PuzzleRow}
    {st : Stamps} {ps : List Puzzle}
    (stamped : stampRows owner gameId createdAt st.issued rows = .ok ps)
    (table : List Puzzle) (count : Nat) :
    insertRows owner gameId createdAt rows table count st =
      .ok (table ++ appended table ps, count + (appended table ps).length,
           { st with issued := st.issued + rows.length }) := by
  induction rows generalizing st ps table count with
  | nil =>
    simp only [stampRows, Except.ok.injEq] at stamped
    subst stamped
    simp [insertRows, appended]
  | cons row rest ih =>
    obtain ⟨p, qs, first, others, rfl⟩ := stampRows_cons_ok stamped
    have next := @ih st.nextId.2 _ others
    by_cases taken : table.any p.sameKey
    · simp only [insertRows, Stamps.nextId_text, first, taken, if_true, next, appended]
      simp [Stamps.nextId, Nat.add_assoc, Nat.add_comm 1]
    · simp only [insertRows, Stamps.nextId_text, first, taken, next, appended]
      simp [Stamps.nextId, Nat.add_assoc, Nat.add_comm 1]

/-- When a row cannot be stored, the loop fails with its fault, having drawn the identifiers up
to it. -/
theorem insertRows_of_stamped_error {owner gameId createdAt : String} {rows : List PuzzleRow}
    {st : Stamps} {e : Error} {m : Nat}
    (stamped : stampRows owner gameId createdAt st.issued rows = .error (e, m))
    (table : List Puzzle) (count : Nat) :
    insertRows owner gameId createdAt rows table count st =
      .error (e, { st with issued := m }) := by
  induction rows generalizing st table count with
  | nil => simp [stampRows] at stamped
  | cons row rest ih =>
    simp only [stampRows] at stamped
    rcases first : Puzzle.ofRow (uuidText (st.issued + 1)) owner gameId createdAt row with f | p
    · simp only [first, Except.mapError, bind, Except.bind, Except.error.injEq, Prod.mk.injEq]
        at stamped
      obtain ⟨rfl, rfl⟩ := stamped
      simp [insertRows, first, Stamps.nextId]
    · rcases others : stampRows owner gameId createdAt (st.issued + 1) rest with f | qs
      · simp only [first, others, Except.mapError, bind, Except.bind, Except.error.injEq]
          at stamped
        subst stamped
        have next := @ih st.nextId.2 others
        by_cases taken : table.any p.sameKey
        · simp only [insertRows, Stamps.nextId_text, first, taken, if_true, next]
          rfl
        · simp only [insertRows, Stamps.nextId_text, first, taken, next]
          rfl
      · simp [first, others, Except.mapError, bind, Except.bind, pure, Except.pure] at stamped

/-- Stamping succeeds exactly when every row is storable. -/
theorem stampRows_ok_iff (owner gameId createdAt : String) (n : Nat) (rows : List PuzzleRow) :
    (∃ ps, stampRows owner gameId createdAt n rows = .ok ps) ↔ ∀ row ∈ rows, row.Storable := by
  induction rows generalizing n with
  | nil => simp [stampRows]
  | cons row rest ih =>
    simp only [List.mem_cons, forall_eq_or_imp, ← ih (n + 1),
      ← ofRow_ok_iff (uuidText (n + 1)) owner gameId createdAt row, stampRows]
    rcases Puzzle.ofRow (uuidText (n + 1)) owner gameId createdAt row with f | p <;>
    rcases stampRows owner gameId createdAt (n + 1) rest with g | qs <;>
    simp [Except.mapError, bind, Except.bind, pure, Except.pure]

/-- Stamping fails at a row that cannot be stored, with that row's fault, having drawn at least
one identifier. -/
theorem stampRows_error {owner gameId createdAt : String} {n : Nat} {rows : List PuzzleRow}
    {e : Error} {m : Nat} (stamped : stampRows owner gameId createdAt n rows = .error (e, m)) :
    n < m ∧ ∃ row ∈ rows, ∃ id, Puzzle.ofRow id owner gameId createdAt row = .error e := by
  induction rows generalizing n with
  | nil => simp [stampRows] at stamped
  | cons row rest ih =>
    simp only [stampRows] at stamped
    rcases first : Puzzle.ofRow (uuidText (n + 1)) owner gameId createdAt row with f | p
    · simp only [first, Except.mapError, bind, Except.bind, Except.error.injEq, Prod.mk.injEq]
        at stamped
      obtain ⟨rfl, rfl⟩ := stamped
      exact ⟨by omega, row, List.mem_cons_self, _, first⟩
    · rcases others : stampRows owner gameId createdAt (n + 1) rest with ⟨f, k⟩ | qs
      · simp only [first, others, Except.mapError, bind, Except.bind, Except.error.injEq]
          at stamped
        rw [stamped] at others
        obtain ⟨drawn, bad, member, id, refused⟩ := ih others
        exact ⟨by omega, bad, List.mem_cons_of_mem row member, id, refused⟩
      · simp [first, others, Except.mapError, bind, Except.bind, pure, Except.pure] at stamped

/-- The stamped rows: each stored under its own id, the ids being the ones drawn after the
`n`-th, in order. -/
theorem stampRows_ok {owner gameId createdAt : String} {n : Nat} {rows : List PuzzleRow}
    {ps : List Puzzle} (stamped : stampRows owner gameId createdAt n rows = .ok ps) :
    List.Forall₂ (fun row p => Puzzle.ofRow p.id owner gameId createdAt row = .ok p) rows ps ∧
      ps.map (·.id) = (List.range rows.length).map fun i => uuidText (n + i + 1) := by
  induction rows generalizing n ps with
  | nil =>
    simp only [stampRows, Except.ok.injEq] at stamped
    subst stamped
    simp
  | cons row rest ih =>
    obtain ⟨p, qs, first, others, rfl⟩ := stampRows_cons_ok stamped
    obtain ⟨stored, ids⟩ := ih others
    have named : p.id = uuidText (n + 1) := (ofRow_stamps first).1
    refine ⟨List.Forall₂.cons (named ▸ first) stored, ?_⟩
    rw [List.length_cons, List.range_succ_eq_map, List.map_cons, List.map_cons, List.map_map, ids,
      named]
    have shifted :
        (fun i => uuidText (n + 1 + i + 1)) = (fun i => uuidText (n + i + 1)) ∘ Nat.succ := by
      funext i
      rw [Function.comp_apply, show n + 1 + i + 1 = n + i.succ + 1 by omega]
    rw [shifted, Nat.add_zero]

/-! ## The first row of each key -/

/-- The items whose key is new, each the first of its key, in order; `seen` holds the keys
already taken. -/
def firstUnseen {α κ : Type} [DecidableEq κ] (key : α → κ) (seen : List κ) : List α → List α
  | [] => []
  | x :: rest =>
    if key x ∈ seen then firstUnseen key seen rest else x :: firstUnseen key (seen ++ [key x]) rest

example : firstUnseen id [] [1, 2, 1, 3, 2] = [1, 2, 3] := by decide

section FirstUnseen

variable {α β κ : Type} [DecidableEq κ]

theorem firstUnseen_sublist (key : α → κ) (seen : List κ) (xs : List α) :
    (firstUnseen key seen xs).Sublist xs := by
  induction xs generalizing seen with
  | nil => exact List.Sublist.slnil
  | cons x rest ih =>
    by_cases taken : key x ∈ seen
    · simpa [firstUnseen, taken] using (ih seen).cons x
    · simpa [firstUnseen, taken] using (ih (seen ++ [key x])).cons_cons x

/-- The kept items have distinct keys, none of them already seen. -/
theorem firstUnseen_keys (key : α → κ) (seen : List κ) (xs : List α) :
    ((firstUnseen key seen xs).map key).Nodup ∧ ∀ x ∈ firstUnseen key seen xs, key x ∉ seen := by
  induction xs generalizing seen with
  | nil => simp [firstUnseen]
  | cons x rest ih =>
    by_cases taken : key x ∈ seen
    · simpa [firstUnseen, taken] using ih seen
    · obtain ⟨distinct, unseen⟩ := ih (seen ++ [key x])
      have fresh : key x ∉ (firstUnseen key (seen ++ [key x]) rest).map key := by
        simp only [List.mem_map, not_exists, not_and]
        exact fun y kept same => unseen y kept (by simp [same])
      simp only [firstUnseen, if_neg taken, List.map_cons, List.nodup_cons, List.mem_cons,
        forall_eq_or_imp]
      exact ⟨⟨fresh, distinct⟩, taken, fun y kept mem => unseen y kept (List.mem_append_left _ mem)⟩

/-- Items with distinct keys, none seen, are all kept. -/
theorem firstUnseen_of_distinct (key : α → κ) {seen : List κ} {xs : List α}
    (distinct : (xs.map key).Nodup) (unseen : ∀ x ∈ xs, key x ∉ seen) :
    firstUnseen key seen xs = xs := by
  induction xs generalizing seen with
  | nil => rfl
  | cons x rest ih =>
    simp only [List.map_cons, List.nodup_cons, List.mem_map] at distinct
    have fresh : ∀ y ∈ rest, key y ∉ seen ++ [key x] := by
      intro y member
      simp only [List.mem_append, List.mem_singleton, not_or]
      exact ⟨unseen y (List.mem_cons_of_mem x member), fun same => distinct.1 ⟨y, member, same⟩⟩
    simp [firstUnseen, unseen x List.mem_cons_self, ih distinct.2 fresh]

/-- Keeping the first of each key commutes with a relation that keeps keys. -/
theorem firstUnseen_forall₂ {R : α → β → Prop} {keyα : α → κ} {keyβ : β → κ}
    (keys : ∀ a b, R a b → keyα a = keyβ b) (seen : List κ) {xs : List α} {ys : List β}
    (related : List.Forall₂ R xs ys) :
    List.Forall₂ R (firstUnseen keyα seen xs) (firstUnseen keyβ seen ys) := by
  induction related generalizing seen with
  | nil => exact List.Forall₂.nil
  | @cons a b as bs head _ ih =>
    have same := keys a b head
    by_cases taken : keyα a ∈ seen
    · simpa [firstUnseen, taken, ← same] using ih seen
    · simpa [firstUnseen, taken, ← same] using List.Forall₂.cons head (ih (seen ++ [keyα a]))

/-- Every item on the right of a relation between two lists is related to one on the left. -/
theorem exists_of_forall₂ {R : α → β → Prop} {xs : List α} {ys : List β}
    (related : List.Forall₂ R xs ys) {y : β} (member : y ∈ ys) : ∃ x ∈ xs, R x y := by
  induction related with
  | nil => cases member
  | @cons a b as bs head _ ih =>
    rcases List.mem_cons.mp member with rfl | later
    · exact ⟨a, List.mem_cons_self, head⟩
    · obtain ⟨x, kept, holds⟩ := ih later
      exact ⟨x, List.mem_cons_of_mem a kept, holds⟩

/-- As many items are kept as there are keys not yet seen. -/
theorem length_firstUnseen (key : α → κ) (seen : List κ) (xs : List α) :
    (firstUnseen key seen xs).length = ((xs.map key).toFinset \ seen.toFinset).card := by
  induction xs generalizing seen with
  | nil => simp [firstUnseen]
  | cons x rest ih =>
    by_cases taken : key x ∈ seen
    · simp only [firstUnseen, taken, if_true, ih, List.map_cons, List.toFinset_cons]
      rw [Finset.insert_sdiff_of_mem _ (List.mem_toFinset.mpr taken)]
    · simp only [firstUnseen, if_neg taken, List.length_cons, ih, List.map_cons, List.toFinset_cons,
        List.toFinset_append, List.toFinset_nil, Finset.union_insert, Finset.union_empty]
      rw [Finset.sdiff_insert, Finset.insert_sdiff_of_notMem _ (List.mem_toFinset.not.mpr taken),
        ← Finset.erase_insert_eq_erase, Finset.card_erase_add_one (Finset.mem_insert_self _ _)]

end FirstUnseen

/-! ## Appending to a table -/

/-- Whether a puzzle is one of the user's puzzles of the game. -/
def Puzzle.belongsTo (owner gameId : String) (p : Puzzle) : Bool :=
  p.owner == owner && p.gameId == gameId

/-- A puzzle of a user's game clashes with a table exactly when that game's puzzles in the table
hold its key. -/
theorem any_sameKey_iff {owner gameId : String} {p : Puzzle} (own : p.owner = owner)
    (game : p.gameId = gameId) (table : List Puzzle) :
    table.any p.sameKey = true ↔
      p.key ∈ (table.filter (Puzzle.belongsTo owner gameId)).map Puzzle.key := by
  simp only [List.any_eq_true, Puzzle.sameKey, Puzzle.belongsTo, Puzzle.key, List.mem_map,
    List.mem_filter, Bool.and_eq_true, beq_iff_eq, Prod.mk.injEq, own, game]
  grind

/-- Appending puzzles of one user's game keeps the first of each key that the game's puzzles in
the table do not already hold. -/
theorem appended_eq_firstUnseen {owner gameId : String} (table : List Puzzle) {ps : List Puzzle}
    (mine : ∀ p ∈ ps, p.owner = owner ∧ p.gameId = gameId) :
    appended table ps =
      firstUnseen Puzzle.key ((table.filter (Puzzle.belongsTo owner gameId)).map Puzzle.key)
        ps := by
  induction ps generalizing table with
  | nil => rfl
  | cons p rest ih =>
    obtain ⟨own, game⟩ := mine p List.mem_cons_self
    have others (table : List Puzzle) :=
      ih table fun q member => mine q (List.mem_cons_of_mem p member)
    by_cases taken : table.any p.sameKey = true
    · have seen := (any_sameKey_iff own game table).mp taken
      rw [appended, if_pos taken, firstUnseen, if_pos seen, others table]
    · have unseen := mt (any_sameKey_iff own game table).mpr taken
      have grown : (table ++ [p]).filter (Puzzle.belongsTo owner gameId) =
          table.filter (Puzzle.belongsTo owner gameId) ++ [p] := by
        simp [Puzzle.belongsTo, own, game]
      rw [appended, if_neg taken, firstUnseen, if_neg unseen, others (table ++ [p]), grown]
      simp only [List.map_append, List.map_cons, List.map_nil]

/-! ## A replace, run -/

section Run

variable {owner gameId : String} {rows : List PuzzleRow} {t : Tables}

/-- A replace naming a game the user does not have fails and changes nothing. -/
theorem replacePuzzles_run_of_missing (missing : t.ownGame? owner gameId = none) :
    (replacePuzzles owner gameId rows).run.run t = (.error (.gameNotFound gameId), t) := by
  simp only [replacePuzzles, Step.run_bind, getGame_run, missing]

theorem replacePuzzles_run_of_stamped {g : Game} (found : t.ownGame? owner gameId = some g)
    {ps : List Puzzle}
    (stamped : stampRows owner gameId t.stamps.nextTime.1 t.stamps.issued rows = .ok ps) :
    (replacePuzzles owner gameId rows).run.run t =
      (.ok (appended (t.puzzles.filter fun p => !p.belongsTo owner gameId) ps).length,
       { t with
         puzzles := t.puzzles.filter (fun p => !p.belongsTo owner gameId) ++
           appended (t.puzzles.filter fun p => !p.belongsTo owner gameId) ps
         stamps := { t.stamps.nextTime.2 with issued := t.stamps.issued + rows.length }
         games := t.games.map fun g =>
           if g.id == gameId then { g with analyzedAt := some t.stamps.nextTime.1 } else g
         attempts := t.attempts.filter fun a =>
           !((t.puzzles.filter (Puzzle.belongsTo owner gameId)).map (·.id)).contains
             a.puzzleId }) := by
  simp only [replacePuzzles, Step.run_bind, getGame_run, found, now_run, Step.run_get]
  rw [@insertRows_of_stamped _ _ _ _ t.stamps.nextTime.2 _ stamped, Nat.zero_add]
  rfl

theorem replacePuzzles_run_of_stamped_error {g : Game} (found : t.ownGame? owner gameId = some g)
    {e : Error} {m : Nat}
    (stamped : stampRows owner gameId t.stamps.nextTime.1 t.stamps.issued rows = .error (e, m)) :
    (replacePuzzles owner gameId rows).run.run t =
      (.error e, { t with stamps := { t.stamps.nextTime.2 with issued := m } }) := by
  simp only [replacePuzzles, Step.run_bind, getGame_run, found, now_run, Step.run_get]
  rw [@insertRows_of_stamped_error _ _ _ _ t.stamps.nextTime.2 _ _ stamped]
  rfl

end Run

/-! ## What a replace does -/

/-- What a replace of the user's game `gameId` by `rows` did when it went through, the clock
reading `stamp` and the new puzzles being `fresh`: the game was the user's and every row storable;
the game's puzzles were swapped for `fresh`, the stored form of the first row of each key, under
new identifiers; the attempts on the old puzzles went; the game was marked analysed. -/
structure Swapped (owner gameId : String) (rows : List PuzzleRow) (stamp : String)
    (fresh : List Puzzle) (t t' : Tables) : Prop where
  owned : (t.ownGame? owner gameId).isSome
  storable : ∀ row ∈ rows, row.Storable
  puzzles : t'.puzzles = t.puzzles.filter (fun p => !p.belongsTo owner gameId) ++ fresh
  stored : List.Forall₂ (fun row p => Puzzle.ofRow p.id owner gameId stamp row = .ok p)
    (firstUnseen PuzzleRow.key [] rows) fresh
  ids : (fresh.map (·.id)).Nodup
  drawn : ∀ p ∈ fresh, ∃ k, t.stamps.issued < k ∧ k ≤ t'.stamps.issued ∧ p.id = uuidText k
  issued : t.stamps.issued ≤ t'.stamps.issued
  attempts : t'.attempts = t.attempts.filter fun a =>
    !((t.puzzles.filter (Puzzle.belongsTo owner gameId)).map (·.id)).contains a.puzzleId
  games : t'.games = t.games.map fun g =>
    if g.id == gameId then { g with analyzedAt := some stamp } else g

/-- The identifiers drawn after the `n`-th are distinct. -/
theorem nodup_drawn (n len : Nat) :
    ((List.range len).map fun i => uuidText (n + i + 1)).Nodup := by
  refine List.nodup_range.map fun i j same => ?_
  have := uuidText_injective same
  omega

/-- A replace goes through exactly when the game is the user's and every row is storable; it then
swaps the game's puzzle set and reports how many rows went in. -/
theorem replacePuzzles_ok {count : Nat} {t' : Tables}
    (ran : (replacePuzzles owner gameId rows).run.run t = (.ok count, t')) :
    ∃ stamp fresh, Swapped owner gameId rows stamp fresh t t' ∧ count = fresh.length := by
  rcases found : t.ownGame? owner gameId with _ | g
  · rw [replacePuzzles_run_of_missing found] at ran
    cases ran
  rcases stamped : stampRows owner gameId t.stamps.nextTime.1 t.stamps.issued rows with ⟨e, m⟩ | ps
  · rw [replacePuzzles_run_of_stamped_error found stamped] at ran
    cases ran
  rw [replacePuzzles_run_of_stamped found stamped, Prod.mk.injEq, Except.ok.injEq] at ran
  obtain ⟨rfl, rfl⟩ := ran
  obtain ⟨related, ids⟩ := stampRows_ok stamped
  have mine : ∀ p ∈ ps, p.owner = owner ∧ p.gameId = gameId := by
    intro p member
    obtain ⟨row, -, stored⟩ := exists_of_forall₂ related member
    exact ⟨(ofRow_stamps stored).2.1, (ofRow_stamps stored).2.2.1⟩
  have fresh : appended (t.puzzles.filter fun p => !p.belongsTo owner gameId) ps =
      firstUnseen Puzzle.key [] ps := by
    rw [appended_eq_firstUnseen _ mine, List.filter_filter]
    simp
  have drawn : ∀ p ∈ firstUnseen Puzzle.key [] ps,
      ∃ i < rows.length, p.id = uuidText (t.stamps.issued + i + 1) := by
    intro p member
    have : p.id ∈ ps.map (·.id) := List.mem_map_of_mem ((firstUnseen_sublist _ _ _).subset member)
    simpa [ids, eq_comm] using this
  refine ⟨t.stamps.nextTime.1, firstUnseen Puzzle.key [] ps,
    ⟨by simp [found], ?_, by rw [fresh], ?_, ?_, ?_, by simp, rfl, rfl⟩, by rw [fresh]⟩
  · exact (stampRows_ok_iff owner gameId _ _ rows).mp ⟨ps, stamped⟩
  · exact firstUnseen_forall₂
      (R := fun row p => Puzzle.ofRow p.id owner gameId t.stamps.nextTime.1 row = .ok p)
      (fun row p stored => (ofRow_stamps stored).2.2.2.2.symm) [] related
  · have kept : ((firstUnseen Puzzle.key [] ps).map (·.id)).Sublist (ps.map (·.id)) :=
      (firstUnseen_sublist _ _ _).map _
    rw [ids] at kept
    exact (nodup_drawn _ _).sublist kept
  · intro p member
    obtain ⟨i, bound, named⟩ := drawn p member
    exact ⟨t.stamps.issued + i + 1, by omega, by simp; omega, named⟩

/-- A replace that fails changes no row and draws identifiers only: either the game is not the
user's, or some row cannot be stored and the failure is that row's. -/
theorem replacePuzzles_error {e : Error} {t' : Tables}
    (ran : (replacePuzzles owner gameId rows).run.run t = (.error e, t')) :
    t.SameRows t' ∧ t.stamps.issued ≤ t'.stamps.issued ∧
      (t.ownGame? owner gameId = none ∧ e = .gameNotFound gameId ∨
        (t.ownGame? owner gameId).isSome ∧ (∃ row ∈ rows, ¬ row.Storable) ∧
          (e = .integerOverflow ∨ ∃ reason, e = .replaceFailed gameId reason)) := by
  rcases found : t.ownGame? owner gameId with _ | g
  · rw [replacePuzzles_run_of_missing found, Prod.mk.injEq, Except.error.injEq] at ran
    obtain ⟨rfl, rfl⟩ := ran
    exact ⟨Tables.SameRows.refl t, le_refl _, .inl ⟨rfl, rfl⟩⟩
  rcases stamped : stampRows owner gameId t.stamps.nextTime.1 t.stamps.issued rows with ⟨f, m⟩ | ps
  · rw [replacePuzzles_run_of_stamped_error found stamped, Prod.mk.injEq, Except.error.injEq] at ran
    obtain ⟨rfl, rfl⟩ := ran
    obtain ⟨drawn, row, member, id, refused⟩ := stampRows_error stamped
    have unstorable : ¬ row.Storable := fun storable => by
      obtain ⟨p, stored⟩ := (ofRow_ok_iff id owner gameId _ row).mpr storable
      rw [stored] at refused
      cases refused
    exact ⟨Tables.sameRows_stamps t _, Nat.le_of_lt drawn,
      .inr ⟨by simp, ⟨row, member, unstorable⟩, ofRow_error refused⟩⟩
  · rw [replacePuzzles_run_of_stamped found stamped] at ran
    cases ran

/-- A replace of the user's game by storable rows goes through. -/
theorem replacePuzzles_succeeds (owned : (t.ownGame? owner gameId).isSome)
    (storable : ∀ row ∈ rows, row.Storable) :
    ∃ count t', (replacePuzzles owner gameId rows).run.run t = (.ok count, t') := by
  obtain ⟨g, found⟩ := Option.isSome_iff_exists.mp owned
  obtain ⟨ps, stamped⟩ :=
    (stampRows_ok_iff owner gameId t.stamps.nextTime.1 t.stamps.issued rows).mpr storable
  exact ⟨_, _, replacePuzzles_run_of_stamped found stamped⟩

/-! ## After the swap -/

/-- A puzzle without its identifier and storing time. -/
def Puzzle.unstamped (p : Puzzle) : Puzzle := { p with id := "", createdAt := "" }

namespace Swapped

variable {stamp : String} {fresh : List Puzzle} {t' : Tables}

theorem belongs (swap : Swapped owner gameId rows stamp fresh t t') :
    ∀ p ∈ fresh, p.belongsTo owner gameId = true := by
  intro p member
  obtain ⟨row, -, stored⟩ := exists_of_forall₂ swap.stored member
  obtain ⟨-, own, game, -⟩ := ofRow_stamps stored
  simp [Puzzle.belongsTo, own, game]

/-- After the swap the game's puzzles are the new ones ... -/
theorem gamePuzzles (swap : Swapped owner gameId rows stamp fresh t t') :
    t'.puzzles.filter (Puzzle.belongsTo owner gameId) = fresh := by
  rw [swap.puzzles, List.filter_append, List.filter_filter, List.filter_eq_self.mpr swap.belongs]
  simp

/-- ... and every other puzzle is kept, in its place. -/
theorem otherPuzzles (swap : Swapped owner gameId rows stamp fresh t t') :
    t'.puzzles.filter (fun p => !p.belongsTo owner gameId) =
      t.puzzles.filter (fun p => !p.belongsTo owner gameId) := by
  have gone : fresh.filter (fun p => !p.belongsTo owner gameId) = [] :=
    List.filter_eq_nil_iff.mpr fun p member => by simp [swap.belongs p member]
  rw [swap.puzzles, List.filter_append, List.filter_filter, gone, List.append_nil]
  simp

/-- The new puzzles, without identifiers and times, are the rows stored under neither. -/
theorem stored_unstamped (swap : Swapped owner gameId rows stamp fresh t t') :
    List.Forall₂ (fun row q => Puzzle.ofRow "" owner gameId "" row = .ok q)
      (firstUnseen PuzzleRow.key [] rows) (fresh.map Puzzle.unstamped) :=
  List.forall₂_map_right_iff.mpr (swap.stored.imp fun _ _ stored => ofRow_restamp stored "" "")

/-- Two replaces by the same rows store the same puzzles, identifiers and times aside. -/
theorem unstamped_eq {stamp' : String} {fresh' : List Puzzle} {u u' : Tables}
    (swap : Swapped owner gameId rows stamp fresh t t')
    (swap' : Swapped owner gameId rows stamp' fresh' u u') :
    fresh.map Puzzle.unstamped = fresh'.map Puzzle.unstamped := by
  have unique : Relator.RightUnique fun row q => Puzzle.ofRow "" owner gameId "" row = .ok q := by
    intro row q q' stored stored'
    rw [stored] at stored'
    cases stored'
    rfl
  exact List.right_unique_forall₂' unique swap.stored_unstamped swap'.stored_unstamped

end Swapped

/-- A later replace supersedes an earlier one: after two replaces of a game, the game's puzzles
are, identifiers and times aside, those the second replace alone would have stored, and as many
rows went in. -/
theorem replacePuzzles_supersedes {rows' : List PuzzleRow} {t₁ t₂ : Tables} {n₁ n₂ : Nat}
    (first : (replacePuzzles owner gameId rows).run.run t = (.ok n₁, t₁))
    (second : (replacePuzzles owner gameId rows').run.run t₁ = (.ok n₂, t₂)) :
    ∃ t', (replacePuzzles owner gameId rows').run.run t = (.ok n₂, t') ∧
      (t'.puzzles.filter (Puzzle.belongsTo owner gameId)).map Puzzle.unstamped =
        (t₂.puzzles.filter (Puzzle.belongsTo owner gameId)).map Puzzle.unstamped := by
  obtain ⟨stamp₁, fresh₁, swap₁, -⟩ := replacePuzzles_ok first
  obtain ⟨stamp₂, fresh₂, swap₂, rfl⟩ := replacePuzzles_ok second
  obtain ⟨n, t', alone⟩ := replacePuzzles_succeeds swap₁.owned swap₂.storable
  obtain ⟨stamp, fresh, swap, rfl⟩ := replacePuzzles_ok alone
  have same := swap.unstamped_eq swap₂
  have counted : fresh.length = fresh₂.length := by
    simpa using congrArg List.length same
  refine ⟨t', by rw [alone, counted], ?_⟩
  rw [swap.gamePuzzles, swap₂.gamePuzzles, same]

end Store
end Tactician
