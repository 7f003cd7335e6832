import Mathlib
import Tactician.Store.Record
import Tactician.Proofs.Store.Identifiers

/-!
# Running store operations

A store operation reads and writes the tables and may fail.  This file states what each simple
operation does as one equation, and what storing a game may do as one structure, so that later
proofs cite these and never unfold an operation: storing a game touches only that user's games
and may add one game under an unused id; the lookups and reads leave the tables as they are.
-/

namespace Tactician
namespace Store

variable {α β : Type}

/-! ## Running a step -/

theorem Step.run_bind (x : Step α) (f : α → Step β) (t : Tables) :
    (x >>= f).run.run t = match x.run.run t with
      | (.ok a, t') => (f a).run.run t'
      | (.error e, t') => (.error e, t') := by
  simp only [ExceptT.run_bind, StateT.run_bind]
  rcases x.run.run t with ⟨r, t'⟩
  rcases r with e | a <;> rfl

@[simp] theorem Step.run_pure (a : α) (t : Tables) : (pure a : Step α).run.run t = (.ok a, t) := rfl

@[simp] theorem Step.run_throw (e : Error) (t : Tables) :
    (throw e : Step α).run.run t = (.error e, t) := rfl

@[simp] theorem Step.run_get (t : Tables) : (get : Step Tables).run.run t = (.ok t, t) := rfl

@[simp] theorem Step.run_set (t t' : Tables) : (set t' : Step PUnit).run.run t = (.ok ⟨⟩, t') := rfl

@[simp] theorem Step.run_modify (f : Tables → Tables) (t : Tables) :
    (modify f : Step PUnit).run.run t = (.ok ⟨⟩, f t) := rfl

@[simp] theorem freshId_run (t : Tables) :
    freshId.run.run t = (.ok t.stamps.nextId.1, { t with stamps := t.stamps.nextId.2 }) := rfl

@[simp] theorem now_run (t : Tables) :
    now.run.run t = (.ok t.stamps.nextTime.1, { t with stamps := t.stamps.nextTime.2 }) := rfl

@[simp] theorem Stamps.nextId_issued (st : Stamps) : st.nextId.2.issued = st.issued + 1 := rfl

@[simp] theorem Stamps.nextId_text (st : Stamps) : st.nextId.1 = uuidText (st.issued + 1) := rfl

/-! ## Rows that stay -/

/-- Two stores hold the same rows; their counters may differ. -/
structure Tables.SameRows (t t' : Tables) : Prop where
  games : t'.games = t.games
  puzzles : t'.puzzles = t.puzzles
  attempts : t'.attempts = t.attempts

theorem Tables.SameRows.refl (t : Tables) : t.SameRows t := ⟨rfl, rfl, rfl⟩

theorem Tables.SameRows.trans {t t' t'' : Tables} (first : t.SameRows t')
    (second : t'.SameRows t'') :
    t.SameRows t'' :=
  ⟨second.games.trans first.games, second.puzzles.trans first.puzzles,
   second.attempts.trans first.attempts⟩

theorem Tables.sameRows_stamps (t : Tables) (st : Stamps) : t.SameRows { t with stamps := st } :=
  ⟨rfl, rfl, rfl⟩

/-! ## Lookups -/

theorem getGame_run (owner id : String) (t : Tables) :
    (getGame owner id).run.run t = (match t.ownGame? owner id with
      | some g => .ok g
      | none => .error (.gameNotFound id), t) := by
  simp only [getGame, Step.run_bind, Step.run_get]
  rcases t.ownGame? owner id with _ | g <;> rfl

theorem getPuzzle_run (owner id : String) (t : Tables) :
    (getPuzzle owner id).run.run t = (match t.ownPuzzle? owner id with
      | some p => .ok p
      | none => .error (.puzzleNotFound id), t) := by
  simp only [getPuzzle, Step.run_bind, Step.run_get]
  rcases t.ownPuzzle? owner id with _ | p <;> rfl

theorem ownGame?_eq_some {t : Tables} {owner id : String} {g : Game}
    (found : t.ownGame? owner id = some g) : g ∈ t.games ∧ g.id = id ∧ g.owner = owner := by
  have holds := List.find?_some found
  simp only [Bool.and_eq_true, beq_iff_eq] at holds
  exact ⟨List.mem_of_find?_eq_some found, holds⟩

theorem ownGame?_eq_none {t : Tables} {owner id : String} (missing : t.ownGame? owner id = none)
    {g : Game} (member : g ∈ t.games) (named : g.id = id) : g.owner ≠ owner := by
  have := List.find?_eq_none.mp missing g member
  simpa [named] using this

theorem ownPuzzle?_eq_some {t : Tables} {owner id : String} {p : Puzzle}
    (found : t.ownPuzzle? owner id = some p) : p ∈ t.puzzles ∧ p.id = id ∧ p.owner = owner := by
  have holds := List.find?_some found
  simp only [Bool.and_eq_true, beq_iff_eq] at holds
  exact ⟨List.mem_of_find?_eq_some found, holds⟩

theorem ownPuzzle?_eq_none {t : Tables} {owner id : String} (missing : t.ownPuzzle? owner id = none)
    {p : Puzzle} (member : p ∈ t.puzzles) (named : p.id = id) : p.owner ≠ owner := by
  have := List.find?_eq_none.mp missing p member
  simpa [named] using this

/-! ## Storing a game -/

/-- The id a game is stored under is the one given, unless none or an empty one is given; only
then is an identifier drawn.  It is never empty. -/
theorem gameIdFor_run (gameId : Option String) (t : Tables) :
    ∃ id st, (gameIdFor gameId).run.run t = (.ok id, { t with stamps := st }) ∧
      t.stamps.issued ≤ st.issued ∧ (∀ g, gameId = some g → g ≠ "" → id = g) ∧ id ≠ "" := by
  rcases gameId with _ | g
  · exact ⟨_, _, rfl, by simp, by simp, uuidText_ne_empty _⟩
  · by_cases empty : g = ""
    · refine ⟨t.stamps.nextId.1, t.stamps.nextId.2, ?_, by simp, by simp [empty],
        uuidText_ne_empty _⟩
      simp [gameIdFor, empty]
    · refine ⟨g, t.stamps, ?_, le_refl _, by simp, empty⟩
      simp only [gameIdFor, String.isEmpty_iff, empty, if_false]
      rfl

/-- What storing a game of `owner` can do to a store: puzzles and attempts stay; every game keeps
its id, owner and analysis date, and other users' games stay as they are; at most one game of
`owner` is added, not yet analysed, under a non-empty id no game had; identifiers are only
drawn. -/
structure GameWrite (owner : String) (t t' : Tables) : Prop where
  puzzles : t'.puzzles = t.puzzles
  attempts : t'.attempts = t.attempts
  issued : t.stamps.issued ≤ t'.stamps.issued
  games : ∃ (f : Game → Game) (added : List Game), t'.games = t.games.map f ++ added ∧
    (∀ g ∈ t.games, (f g).id = g.id ∧ (f g).owner = g.owner ∧ (f g).analyzedAt = g.analyzedAt ∧
      (g.owner ≠ owner → f g = g)) ∧
    (∀ g ∈ added, g.owner = owner ∧ g.analyzedAt = none ∧ g.id ≠ "") ∧
    ((t.games ++ added).map (·.id)).Nodup

/-- Drawing identifiers alone is such a write. -/
theorem GameWrite.of_stamps {owner : String} {t : Tables} {st : Stamps}
    (ids : (t.games.map (·.id)).Nodup) (issued : t.stamps.issued ≤ st.issued) :
    GameWrite owner t { t with stamps := st } :=
  ⟨rfl, rfl, issued, fun g => g, [], by simp, by simp, by simp, by simpa using ids⟩

theorem putGame_write (owner pgn id : String) (userColor : Option String)
    (opening : Openings.Info) (provider playedAt : Option String) {t : Tables}
    (ids : (t.games.map (·.id)).Nodup) (named : id ≠ "") :
    GameWrite owner t ((putGame owner pgn id userColor opening provider playedAt).run.run t).2 := by
  simp only [putGame, Step.run_bind, Step.run_get]
  rcases found : t.game? id with _ | g
  · simp only [now_run, Step.run_bind, Step.run_modify]
    refine ⟨rfl, rfl, le_refl _, fun g => g, _, by rw [List.map_id'], by simp, by simp [named], ?_⟩
    have unused : ∀ g ∈ t.games, g.id ≠ id := by
      simpa [Tables.game?] using found
    simpa [List.nodup_append, ids] using unused
  · have found' := List.find?_some found
    have member := List.mem_of_find?_eq_some found
    simp only [beq_iff_eq] at found'
    by_cases other : g.owner = owner
    · simp only [other, bne_self_eq_false, Bool.false_eq_true, if_false, Step.run_modify]
      refine ⟨rfl, rfl, le_refl _, _, [], by rw [List.append_nil], ?_, by simp, by simpa using ids⟩
      intro h mem
      by_cases same : h.id = id
      · have : h = g := List.inj_on_of_nodup_map ids mem member (same.trans found'.symm)
        subst this
        simp [same, other]
      · simp [same]
    · have refused : (g.owner != owner) = true := by simpa using other
      simp only [refused, if_true, Step.run_bind, Step.run_throw]
      exact GameWrite.of_stamps ids (le_refl _)

theorem GameWrite.restamp {owner : String} {t t' : Tables} {st : Stamps}
    (write : GameWrite owner { t with stamps := st } t') (issued : t.stamps.issued ≤ st.issued) :
    GameWrite owner t t' :=
  ⟨write.puzzles, write.attempts, le_trans issued write.issued, write.games⟩

/-- Storing a game is a write of its user's games. -/
theorem upsertGame_write (owner pgn : String) (gameId userColor : Option String)
    (opening : Openings.Info) (provider playedAt : Option String) {t : Tables}
    (ids : (t.games.map (·.id)).Nodup) :
    GameWrite owner t
      ((upsertGame owner pgn gameId userColor opening provider playedAt).run.run t).2 := by
  obtain ⟨id, st, drawn, issued, -, named⟩ := gameIdFor_run gameId t
  have put := putGame_write owner pgn id userColor opening provider playedAt
    (t := { t with stamps := st }) ids named
  simp only [upsertGame, Step.run_bind, drawn]
  generalize (putGame owner pgn id userColor opening provider playedAt).run.run
    { t with stamps := st } = outcome at put ⊢
  rcases outcome with ⟨_ | _, t'⟩ <;> exact put.restamp issued

/-- A user who names another user's game is refused, and nothing changes. -/
theorem upsertGame_taken (owner pgn id : String) (userColor : Option String)
    (opening : Openings.Info) (provider playedAt : Option String) {t : Tables}
    (ids : (t.games.map (·.id)).Nodup) (named : id ≠ "") {g : Game} (member : g ∈ t.games)
    (same : g.id = id) (other : g.owner ≠ owner) :
    (upsertGame owner pgn (some id) userColor opening provider playedAt).run.run t =
      (.error (.gameNotFound id), t) := by
  have found : t.game? id = some g := by
    have present : (t.games.find? (·.id == id)).isSome :=
      List.find?_isSome.mpr ⟨g, member, by simpa using same⟩
    obtain ⟨x, first⟩ := Option.isSome_iff_exists.mp present
    have named_x : x.id = id := by simpa using List.find?_some first
    have : x = g := List.inj_on_of_nodup_map ids (List.mem_of_find?_eq_some first) member
      (named_x.trans same.symm)
    rw [Tables.game?, first, this]
  have refused : (g.owner != owner) = true := by simpa using other
  simp only [upsertGame, gameIdFor, String.isEmpty_iff, named, if_false, Step.run_bind,
    Step.run_pure, putGame, Step.run_get, found, refused, if_true, Step.run_throw]

end Store
end Tactician
