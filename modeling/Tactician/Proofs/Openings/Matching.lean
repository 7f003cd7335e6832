import Mathlib
import Tactician.Openings.Book

/-!
# Matching a game against the book

The book's rule for a game is declarative: of the entries whose non-empty moves begin the game's
first sixteen moves, the first one that no other such entry is longer than (`deepestWithin`).
The program finds it by walking a tree of moves.  A tree *holds* a book when its nodes are tidy
(the entry key holds an entry, every other key a node), the paths that lead to a node are the
beginnings of the entries' moves, and each path keeps the first entry with exactly those moves
(`NodeOf.Holds`).

Hanging an entry keeps a tree holding the book with the entry added (`NodeOf.Holds.hang`), so the
tree of a book none of whose moves is spelled like the entry key holds the book (`tree?_holds`).
Walking such a tree down moves that avoid the entry key finds the book's rule, one move at a time
(`walk_holds`), because the rule within a run extended by one move is the first entry with exactly
that run, else the rule within the run (`deepestWithin_snoc`).  Main statement: such a book builds,
matches every such game by its rule and attributes openings by it, and a book whose codes are
written trimmed and in capitals names each code given in any case (`book_rule_of_plain`).
-/

namespace Tactician
namespace Openings

/-! ### The book's rule -/

namespace Book

/-- An entry fits a run of moves when its moves are non-empty and begin the run. -/
def Fits (e : Entry) (run : List String) : Prop := e.moves ≠ [] ∧ e.moves <+: run

instance (e : Entry) (run : List String) : Decidable (Fits e run) :=
  inferInstanceAs (Decidable (_ ∧ _))

/-- The book's rule within a run of moves: the first entry that fits the run and that no entry
fitting it is longer than. -/
def deepestWithin (b : Book) (run : List String) : Option Entry :=
  b.find? fun e => Fits e run ∧ ∀ e' ∈ b, Fits e' run → e'.moves.length ≤ e.moves.length

/-- The first entry whose moves are exactly the given non-empty ones. -/
def firstWith (b : Book) (moves : List String) : Option Entry :=
  b.find? fun e => e.moves ≠ [] ∧ e.moves = moves

section Rule

variable {b : Book} {e : Entry} {run : List String} {s : String}

theorem not_fits_nil : ¬Fits e [] := by
  rintro ⟨nonempty, begins⟩
  exact nonempty (List.prefix_nil.mp begins)

theorem deepestWithin_nil : b.deepestWithin [] = none := by
  simp [deepestWithin, not_fits_nil]

/-- Two runs that the same entries fit have the same rule. -/
theorem deepestWithin_congr {run' : List String} (same : ∀ e ∈ b, Fits e run ↔ Fits e run') :
    b.deepestWithin run = b.deepestWithin run' := by
  refine List.find?_congr fun e member => ?_
  have longest : (∀ e' ∈ b, Fits e' run → e'.moves.length ≤ e.moves.length) ↔
      ∀ e' ∈ b, Fits e' run' → e'.moves.length ≤ e.moves.length :=
    forall₂_congr fun e' member' => imp_congr_left (same e' member')
  simp only [same e member, longest]

theorem fits_snoc : Fits e (run ++ [s]) ↔ Fits e run ∨ (e.moves ≠ [] ∧ e.moves = run ++ [s]) := by
  simp only [Fits, List.prefix_concat_iff]
  tauto

/-- The rule within a run extended by one move: the first entry with exactly the extended run,
else the rule within the run. -/
theorem deepestWithin_snoc :
    b.deepestWithin (run ++ [s]) = (b.firstWith (run ++ [s])).or (b.deepestWithin run) := by
  cases first : b.firstWith (run ++ [s]) with
  | some x =>
    have exact := List.find?_some first
    have member := List.mem_of_find?_eq_some first
    simp only [decide_eq_true_eq] at exact
    rw [Option.some_or, ← first]
    refine List.find?_congr fun e inBook => ?_
    simp only [decide_eq_decide]
    constructor
    · rintro ⟨fits, longest⟩
      rcases fits_snoc.mp fits with shorter | extended
      · have notLonger := longest x member (fits_snoc.mpr (.inr exact))
        have short := shorter.2.length_le
        have extendedLength : x.moves.length = run.length + 1 := by simp [exact.2]
        omega
      · exact extended
    · rintro ⟨nonempty, moves⟩
      refine ⟨⟨nonempty, moves ▸ List.prefix_refl _⟩, fun e' _ fits' => ?_⟩
      rw [moves]
      exact fits'.2.length_le
  | none =>
    rw [Option.none_or]
    refine deepestWithin_congr fun e inBook => ?_
    have notExtended : ¬(e.moves ≠ [] ∧ e.moves = run ++ [s]) := by
      intro extended
      have := List.find?_eq_none.mp first e inBook
      simp [extended] at this
    rw [fits_snoc]
    tauto

/-- When no entry's moves go on past a beginning of a run by the run's next move, the rule within
the run is the rule within the beginning. -/
theorem deepestWithin_of_unextended {pre rest : List String}
    (unreached : ¬∃ e ∈ b, e.moves ≠ [] ∧ pre ++ [s] <+: e.moves) :
    b.deepestWithin (pre ++ s :: rest) = b.deepestWithin pre := by
  have extended : pre ++ [s] <+: pre ++ s :: rest := by simp
  refine deepestWithin_congr fun e member => ⟨fun fits => ⟨fits.1, ?_⟩, fun fits => ?_⟩
  · rcases List.prefix_or_prefix_of_prefix fits.2 extended with shorter | longer
    · rcases List.prefix_concat_iff.mp shorter with whole | begins
      · exact absurd ⟨e, member, fits.1, whole ▸ List.prefix_refl _⟩ unreached
      · exact begins
    · exact absurd ⟨e, member, fits.1, longer⟩ unreached
  · exact ⟨fits.1, fits.2.trans (List.prefix_append pre _)⟩

end Rule

end Book

/-! ### Paths in the tree -/

/-- A book made of texts keys its tree by the texts themselves. -/
@[simp] theorem sameKey_text (a b : String) : BookValue.sameKey a b = (a == b) := rfl

@[simp] theorem keyFault_text (s : String) : BookValue.keyFault? s = none := rfl

@[simp] theorem ofText_text (s : String) : (BookValue.ofText s : String) = s := rfl

@[simp] theorem map_ofText_text (o : Option String) : o.map BookValue.ofText = o := by
  cases o <;> rfl

/-- The node a slot holds, if it holds one. -/
def SlotOf.node? : Slot → Option Node
  | .entry _ => none
  | .node children => some children

namespace NodeOf

/-- The node a path of keys leads to. -/
def sub? (n : Node) : List String → Option Node
  | [] => some n
  | k :: p => ((n.get? k).bind SlotOf.node?).bind fun below => sub? below p

/-- What the node at a path keeps under the entry key. -/
def kept (n : Node) (p : List String) : Option Slot :=
  (n.sub? p).bind fun m => m.get? entryKey

/-- Every node a path leads to keeps an entry, if anything, under the entry key, and a node under
every other key. -/
def Tidy (n : Node) : Prop :=
  ∀ p m, n.sub? p = some m → ∀ k v, m.get? k = some v → (k = entryKey ↔ ∃ e, v = .entry e)

section Paths

variable {n : Node} {k s : String} {v : Slot} {p : List String}

@[simp] theorem get?_nil : NodeOf.get? [] k = none := rfl

/-- Replacing the value under a key in place leaves every key where it was. -/
theorem get?_replace : NodeOf.get? (n.map fun kw => if kw.1 == k then (k, v) else kw) s =
    (n.find? (·.1 == s)).map fun kw => if kw.1 == k then v else kw.2 := by
  simp only [get?, sameKey_text, List.find?_map, Option.map_map]
  congr 1
  · funext kw
    by_cases hit : kw.1 = k <;> simp [hit]
  · congr 1
    funext kw
    by_cases hit : kw.1 = k <;> simp [hit]

theorem get?_put_self : (n.put k v).get? k = some v := by
  unfold put
  simp only [sameKey_text]
  split
  · rename_i present
    obtain ⟨kv, member, same⟩ := List.any_eq_true.mp present
    obtain ⟨kw, first⟩ := Option.isSome_iff_exists.mp
      (List.find?_isSome.mpr ⟨kv, member, same⟩ : (n.find? (·.1 == k)).isSome)
    have hit := List.find?_some first
    simp only [beq_iff_eq] at hit
    rw [get?_replace]
    simp [first, hit]
  · rename_i absent
    have missing : n.find? (·.1 == k) = none :=
      List.find?_eq_none.mpr fun kw member hit => absent (List.any_eq_true.mpr ⟨kw, member, hit⟩)
    simp [get?, List.find?_append, missing]

theorem get?_put_of_ne (other : s ≠ k) : (n.put k v).get? s = n.get? s := by
  unfold put
  simp only [sameKey_text]
  split
  · rw [get?_replace]
    cases found : n.find? (·.1 == s) with
    | none => simp [get?, found]
    | some kw =>
      have hit := List.find?_some found
      simp only [beq_iff_eq] at hit
      simp [get?, found, hit, other]
  · simp [get?, List.find?_append, Ne.symm other]

theorem get?_put : (n.put k v).get? s = if s = k then some v else n.get? s := by
  split
  · rename_i same
    rw [same, get?_put_self]
  · rename_i other
    exact get?_put_of_ne other

/-- Adding a key that is not there is putting it. -/
theorem append_eq_put (absent : n.get? k = none) : n ++ [(k, v)] = n.put k v := by
  have missing : ∀ kw ∈ n, ¬kw.1 = k := by simpa [get?] using absent
  have notAny : n.any (·.1 == k) = false := by
    rw [List.any_eq_false]
    intro kw member
    simpa using missing kw member
  simp [put, notAny]

@[simp] theorem sub?_nil : n.sub? [] = some n := rfl

theorem sub?_cons : n.sub? (k :: p) = ((n.get? k).bind SlotOf.node?).bind fun below => below.sub? p :=
  rfl

theorem kept_nil : n.kept [] = n.get? entryKey := rfl

theorem kept_cons :
    n.kept (k :: p) = ((n.get? k).bind SlotOf.node?).bind fun below => below.kept p := by
  simp only [kept, sub?_cons, Option.bind_assoc]

theorem sub?_append {q : List String} : n.sub? (p ++ q) = (n.sub? p).bind fun m => m.sub? q := by
  induction p generalizing n with
  | nil => rfl
  | cons k p induction =>
    simp only [List.cons_append, sub?_cons, Option.bind_assoc, induction]

theorem isSome_sub?_empty : (NodeOf.sub? [] p).isSome ↔ p = [] := by
  cases p <;> simp [sub?_cons]

theorem kept_empty : NodeOf.kept [] p = none := by
  cases p <;> simp [kept_nil, kept_cons]

theorem sub?_put_cons :
    (n.put s v).sub? (k :: p) = if k = s then v.node?.bind fun below => below.sub? p
      else n.sub? (k :: p) := by
  by_cases same : k = s
  · simp [sub?_cons, same, get?_put_self]
  · simp [sub?_cons, same, get?_put_of_ne same]

theorem kept_put_cons :
    (n.put s v).kept (k :: p) = if k = s then v.node?.bind fun below => below.kept p
      else n.kept (k :: p) := by
  by_cases same : k = s
  · simp [kept_cons, same, get?_put_self]
  · simp [kept_cons, same, get?_put_of_ne same]

end Paths

/-! ### Tidy nodes -/

section Tidy

variable {n below : Node} {k s : String} {v : Slot} {e : Entry}

/-- A node is tidy when its own keys are and the nodes under them are tidy. -/
theorem tidy_iff : n.Tidy ↔ (∀ k v, n.get? k = some v → (k = entryKey ↔ ∃ e, v = .entry e)) ∧
    ∀ k below, n.get? k = some (.node below) → NodeOf.Tidy below := by
  constructor
  · intro tidy
    refine ⟨tidy [] n rfl, fun k below child p m reached => tidy (k :: p) m ?_⟩
    simp [sub?_cons, child, SlotOf.node?, reached]
  · rintro ⟨keys, children⟩ p m reached
    cases p with
    | nil =>
      cases reached
      exact keys
    | cons k q =>
      simp only [sub?_cons, Option.bind_eq_some_iff] at reached
      obtain ⟨below, ⟨slot, child, isNode⟩, reached⟩ := reached
      cases slot with
      | entry x => cases isNode
      | node below' =>
        cases isNode
        exact children k below child q m reached

theorem tidy_empty : NodeOf.Tidy [] := by
  rw [tidy_iff]
  simp

theorem Tidy.key_of_entry (tidy : n.Tidy) (found : n.get? k = some (.entry e)) : k = entryKey :=
  ((tidy_iff.mp tidy).1 k _ found).mpr ⟨e, rfl⟩

theorem Tidy.of_child (tidy : n.Tidy) (found : n.get? k = some (.node below)) : below.Tidy :=
  (tidy_iff.mp tidy).2 k below found

/-- Putting a value under a key keeps a node tidy when the value is an entry exactly under the
entry key and, if a node, is tidy. -/
theorem Tidy.put (tidy : n.Tidy) (kind : s = entryKey ↔ ∃ e, v = .entry e)
    (tidyBelow : ∀ m, v = .node m → NodeOf.Tidy m) : (n.put s v).Tidy := by
  obtain ⟨keys, children⟩ := tidy_iff.mp tidy
  rw [tidy_iff]
  constructor
  · intro k v' found
    rw [get?_put] at found
    split at found
    · rename_i same
      cases found
      rw [same]
      exact kind
    · exact keys k v' found
  · intro k below' found
    rw [get?_put] at found
    split at found
    · exact tidyBelow below' (Option.some.inj found)
    · exact children k below' found

theorem Tidy.put_node (tidy : n.Tidy) (other : s ≠ entryKey) (tidyBelow : below.Tidy) :
    (n.put s (.node below)).Tidy :=
  tidy.put (by simp [other]) fun m same => by
    cases same
    exact tidyBelow

theorem Tidy.put_entry (tidy : n.Tidy) : (n.put entryKey (.entry e)).Tidy :=
  tidy.put (by simp) fun m same => by cases same

end Tidy

/-! ### Hanging an entry -/

section Hang

variable {n below' : Node} {s : String} {rest : List String} {e : Entry}

/-- Putting a node under a move: the paths through the move are those of the new node, the others
are the old ones. -/
theorem views_put_node (other : s ≠ entryKey)
    (reach : ∀ q, (below'.sub? q).isSome ↔ (n.sub? (s :: q)).isSome ∨ q <+: rest)
    (keep : ∀ q, below'.kept q =
      if q = rest then (n.kept (s :: q)).or (some (.entry e)) else n.kept (s :: q)) :
    (∀ p, ((n.put s (.node below')).sub? p).isSome ↔ (n.sub? p).isSome ∨ p <+: s :: rest) ∧
      ∀ p, (n.put s (.node below')).kept p =
        if p = s :: rest then (n.kept p).or (some (.entry e)) else n.kept p := by
  constructor
  · intro p
    cases p with
    | nil => simp
    | cons k q =>
      by_cases same : k = s
      · subst same
        simp [sub?_put_cons, SlotOf.node?, reach q]
      · simp [sub?_put_cons, same]
  · intro p
    cases p with
    | nil =>
      simp [kept_nil, get?_put_of_ne (Ne.symm other)]
    | cons k q =>
      by_cases same : k = s
      · subst same
        simp [kept_put_cons, SlotOf.node?, keep q]
      · simp [kept_put_cons, same]

/-- Hanging an entry under a path of moves that avoids the entry key succeeds on a tidy node, keeps
it tidy, adds the path's beginnings to the paths that lead to a node, and keeps the entry at the
path's end unless an entry is kept there already. -/
theorem insert_ok {ms : List String} (tidy : n.Tidy) (plain : entryKey ∉ ms) (e : Entry) :
    ∃ n', n.insert ms e = .ok n' ∧ n'.Tidy ∧
      (∀ p, (n'.sub? p).isSome ↔ (n.sub? p).isSome ∨ p <+: ms) ∧
      ∀ p, n'.kept p = if p = ms then (n.kept p).or (some (.entry e)) else n.kept p := by
  induction ms generalizing n with
  | nil =>
    by_cases kept : (n.get? entryKey).isSome
    · refine ⟨n, by simp [insert, kept], tidy, fun p => ?_, fun p => ?_⟩
      · cases p <;> simp
      · split
        · rename_i atEnd
          subst atEnd
          obtain ⟨x, found⟩ := Option.isSome_iff_exists.mp kept
          simp [kept_nil, found]
        · rfl
    · have absent : n.get? entryKey = none := by simpa using kept
      refine ⟨n.put entryKey (.entry e), by simp [insert, absent, append_eq_put absent],
        tidy.put_entry, fun p => ?_, fun p => ?_⟩
      · cases p with
        | nil => simp
        | cons k q =>
          by_cases same : k = entryKey
          · subst same
            rw [sub?_put_cons, if_pos rfl]
            simp [SlotOf.node?, sub?_cons, absent]
          · simp [sub?_put_cons, same]
      · cases p with
        | nil => simp [kept_nil, get?_put_self, absent]
        | cons k q =>
          by_cases same : k = entryKey
          · subst same
            rw [kept_put_cons, if_pos rfl]
            simp [SlotOf.node?, kept_cons, absent]
          · simp [kept_put_cons, same]
  | cons s rest induction =>
    have other : s ≠ entryKey := fun same => plain (same ▸ List.mem_cons_self)
    have plainRest : entryKey ∉ rest := fun member => plain (List.mem_cons_of_mem s member)
    cases child : n.get? s with
    | none =>
      obtain ⟨below', hung, tidyBelow, reach, keep⟩ := induction tidy_empty plainRest
      refine ⟨n.put s (.node below'), by simp [insert, child, hung],
        tidy.put_node other tidyBelow, views_put_node other (fun q => ?_) (fun q => ?_)⟩
      · simp [reach q, isSome_sub?_empty, sub?_cons, child]
        exact fun empty => empty ▸ List.nil_prefix
      · simp [keep q, kept_empty, kept_cons, child]
    | some slot =>
      cases slot with
      | entry x => exact absurd (tidy.key_of_entry child) other
      | node below =>
        obtain ⟨below', hung, tidyBelow, reach, keep⟩ :=
          induction (tidy.of_child child) plainRest
        refine ⟨n.put s (.node below'), by simp [insert, child, hung],
          tidy.put_node other tidyBelow, views_put_node other (fun q => ?_) (fun q => ?_)⟩
        · simp [reach q, sub?_cons, child, SlotOf.node?]
        · simp [keep q, kept_cons, child, SlotOf.node?]

end Hang

/-! ### A tree that holds a book -/

/-- A tree holds a book when its nodes are tidy, the paths that lead to a node are the beginnings
of the entries' moves, and each path keeps the first entry with exactly those moves. -/
structure Holds (t : Node) (b : Book) : Prop where
  tidy : t.Tidy
  reaches : ∀ p, (t.sub? p).isSome ↔ p = [] ∨ ∃ e ∈ b, e.moves ≠ [] ∧ p <+: e.moves
  keeps : ∀ p, t.kept p = (b.firstWith p).map .entry

theorem holds_empty : NodeOf.Holds [] [] where
  tidy := tidy_empty
  reaches p := by simp [isSome_sub?_empty]
  keeps p := by simp [kept_empty, Book.firstWith]

/-- One step of building the tree: an entry without moves is passed over, any other is hung under
its moves. -/
theorem Holds.hang {t : Node} {b : Book} (holds : t.Holds b) {e : Entry}
    (plain : entryKey ∉ e.moves) :
    ∃ t', (if e.moves.isEmpty then .ok t else t.insert e.moves e) = .ok t' ∧
      t'.Holds (b ++ [e]) := by
  by_cases empty : e.moves = []
  · refine ⟨t, by simp [empty], holds.tidy, fun p => ?_, fun p => ?_⟩
    · simp [holds.reaches p, empty]
    · simp [holds.keeps p, Book.firstWith, List.find?_append, empty]
  · obtain ⟨t', hung, tidy, reach, keep⟩ := insert_ok holds.tidy plain e
    refine ⟨t', by simp [empty, hung], tidy, fun p => ?_, fun p => ?_⟩
    · rw [reach p, holds.reaches p]
      simp only [List.mem_append, List.mem_singleton]
      constructor
      · rintro ((root | ⟨e', member, moves⟩) | begins)
        exacts [.inl root, .inr ⟨e', .inl member, moves⟩, .inr ⟨e, .inr rfl, empty, begins⟩]
      · rintro (root | ⟨e', member | rfl, moves⟩)
        exacts [.inl (.inl root), .inl (.inr ⟨e', member, moves⟩), .inr moves.2]
    · rw [keep p, holds.keeps p]
      by_cases atEnd : p = e.moves
      · subst atEnd
        simp [Book.firstWith, List.find?_append, empty]
      · simp [atEnd, Book.firstWith, List.find?_append, Ne.symm atEnd]

/-- The tree of a book none of whose moves is spelled like the entry key is built, and holds the
book. -/
theorem tree?_holds {b : Book} (plain : ∀ e ∈ b, entryKey ∉ e.moves) :
    ∃ t, b.tree? = .ok t ∧ t.Holds b := by
  have run : ∀ (es done : Book) (t : Node), t.Holds done → (∀ e ∈ es, entryKey ∉ e.moves) →
      ∃ t', es.foldlM (fun n e => if e.moves.isEmpty then .ok n else n.insert e.moves e) t =
        .ok t' ∧ t'.Holds (done ++ es) := by
    intro es
    induction es with
    | nil => exact fun done t holds _ => ⟨t, rfl, by simpa using holds⟩
    | cons e es induction =>
      intro done t holds plainAll
      obtain ⟨t', step, holds'⟩ := holds.hang (plainAll e List.mem_cons_self)
      obtain ⟨t'', rest, holds''⟩ :=
        induction (done ++ [e]) t' holds' fun e' member =>
          plainAll e' (List.mem_cons_of_mem e member)
      refine ⟨t'', ?_, by simpa using holds''⟩
      simp only [List.foldlM_cons]
      rw [step]
      exact rest
  obtain ⟨t, built, holds⟩ := run b [] [] holds_empty plain
  exact ⟨t, built, by simpa using holds⟩

theorem Tidy.sub {t n : Node} (tidy : t.Tidy) {pre : List String} (reached : t.sub? pre = some n) :
    n.Tidy := by
  intro p m below
  exact tidy (pre ++ p) m (by simp [sub?_append, reached, below])

/-! ### Walking a tree that holds a book -/

/-- Walking a tree that holds a book down a run of moves that avoids the entry key, from the node
of a beginning of the run with the rule within that beginning, ends with the rule within the run. -/
theorem walk_holds {t : Node} {b : Book} (holds : t.Holds b) {run : List String}
    (plain : entryKey ∉ run) (pre rest : List String) (n : Node) (whole : pre ++ rest = run)
    (reached : t.sub? pre = some n) :
    n.walk rest ((b.deepestWithin pre).map .entry) = .ok ((b.deepestWithin run).map .entry) := by
  induction rest generalizing pre n with
  | nil =>
    simp only [List.append_nil] at whole
    subst whole
    rfl
  | cons s rest induction =>
    have other : s ≠ entryKey := fun same => plain (whole ▸ by simp [same])
    cases child : n.get? s with
    | none =>
      have unreached : ¬∃ e ∈ b, e.moves ≠ [] ∧ pre ++ [s] <+: e.moves := by
        intro found
        have reach := (holds.reaches (pre ++ [s])).mpr (.inr found)
        simp [sub?_append, reached, sub?_cons, child] at reach
      simp [walk, child, ← whole, Book.deepestWithin_of_unextended unreached]
    | some slot =>
      cases slot with
      | entry x => exact absurd ((holds.tidy.sub reached).key_of_entry child) other
      | node below =>
        have reachedBelow : t.sub? (pre ++ [s]) = some below := by
          simp [sub?_append, reached, sub?_cons, child, SlotOf.node?]
        have keptBelow :
            NodeOf.get? below entryKey = (b.firstWith (pre ++ [s])).map SlotOf.entry := by
          simpa [kept, reachedBelow] using holds.keeps (pre ++ [s])
        simp only [walk, ofText_text, child]
        rw [keptBelow, ← Option.map_or, ← Book.deepestWithin_snoc]
        exact induction (pre ++ [s]) below (by simpa using whole) reachedBelow

end NodeOf

/-! ### The book's rule, matched and attributed -/

namespace Book

open BookOf

/-- The opening a book attributes to a game by its rule: the tags when they name one, else the
rule within the game's first sixteen moves. -/
def attribution (b : Book) (tags : List (String × String)) (moves : List String) : Info :=
  let eco := tagValue tags "ECO"
  let name := tagValue tags "Opening"
  let variation := tagValue tags "Variation"
  if eco.isSome || name.isSome || variation.isSome then
    { eco := eco, name := name.orElse fun _ => b.nameForEco eco, variation := variation,
      source := .tags }
  else (b.deepestWithin (moves.take maxBookPlies)).elim {} fun e =>
    { eco := some e.eco, name := some e.name, variation := e.variation, source := .guess }

section Plain

variable {b : Book} {moves : List String}

theorem match?_plain (plainBook : ∀ e ∈ b, entryKey ∉ e.moves)
    (plainMoves : entryKey ∉ moves.take maxBookPlies) :
    b.match? moves = .ok ((b.deepestWithin (moves.take maxBookPlies)).map .entry) := by
  obtain ⟨t, built, holds⟩ := NodeOf.tree?_holds plainBook
  have walked := NodeOf.walk_holds holds plainMoves [] _ t rfl rfl
  rw [deepestWithin_nil, Option.map_none] at walked
  rw [match?, built]
  exact walked

theorem classify_plain (plainBook : ∀ e ∈ b, entryKey ∉ e.moves)
    (plainMoves : entryKey ∉ moves.take maxBookPlies) (tags : List (String × String)) :
    b.classify tags moves = .ok (b.attribution tags moves) := by
  unfold classify attribution
  dsimp only
  split
  · simp only [map_ofText_text]
    rfl
  · rw [match?_plain plainBook plainMoves]
    cases b.deepestWithin (moves.take maxBookPlies) <;> rfl

/-- A book whose codes are written trimmed and in capitals names each non-empty code given in any
case and with any blanks around it. -/
theorem nameForEco_of_written (written : ∀ e ∈ b, Text.toUpper (Text.trim e.eco) = e.eco)
    {code : String} (given : code ≠ "") :
    b.nameForEco (some code) = (b.find? fun e =>
      Text.toUpper (Text.trim e.eco) = Text.toUpper (Text.trim code)).map (·.name) := by
  have filled : code.isEmpty = false := by simpa [String.isEmpty_iff] using given
  simp only [nameForEco, filled, Bool.false_eq_true, if_false, sameKey_text, ofText_text]
  apply congrArg
  apply List.find?_congr
  intro e member
  rw [written e member, beq_eq_decide]

end Plain

/-- A book none of whose moves is spelled like the entry key builds; for a game whose first sixteen
moves avoid the entry key it matches the first entry that fits and that no fitting entry is longer
than, and attributes the game's opening by that rule; and when its codes are written trimmed and
in capitals it names each non-empty code given in any case. -/
theorem book_rule_of_plain (b : Book) (plainBook : ∀ e ∈ b, entryKey ∉ e.moves) :
    (∃ t, b.tree? = .ok t) ∧
      (∀ moves, entryKey ∉ moves.take maxBookPlies →
        b.match? moves = .ok ((b.deepestWithin (moves.take maxBookPlies)).map .entry) ∧
          ∀ tags, b.classify tags moves = .ok (b.attribution tags moves)) ∧
      ((∀ e ∈ b, Text.toUpper (Text.trim e.eco) = e.eco) → ∀ code, code ≠ "" →
        b.nameForEco (some code) = (b.find? fun e =>
          Text.toUpper (Text.trim e.eco) = Text.toUpper (Text.trim code)).map (·.name)) := by
  obtain ⟨t, built, -⟩ := NodeOf.tree?_holds plainBook
  refine ⟨⟨t, built⟩, fun moves plainMoves => ?_, fun written code given => ?_⟩
  · exact ⟨match?_plain plainBook plainMoves, classify_plain plainBook plainMoves⟩
  · exact nameForEco_of_written written given

/-- The default book on the Ruy Lopez with Morphy's defence, and on the code ` c70 `. -/
theorem book_rule_of_plain_ruy_lopez :
    (∀ e ∈ defaultBook, entryKey ∉ e.moves) ∧
      entryKey ∉ (["e4", "e5", "Nf3", "Nc6", "Bb5", "a6"] : List String).take maxBookPlies ∧
      defaultBook.match? ["e4", "e5", "Nf3", "Nc6", "Bb5", "a6"] =
        .ok ((defaultBook.deepestWithin
          ((["e4", "e5", "Nf3", "Nc6", "Bb5", "a6"] : List String).take maxBookPlies)).map .entry) ∧
      (∀ e ∈ defaultBook, Text.toUpper (Text.trim e.eco) = e.eco) ∧
      defaultBook.nameForEco (some " c70 ") = (defaultBook.find? fun e =>
        Text.toUpper (Text.trim e.eco) = Text.toUpper (Text.trim " c70 ")).map (·.name) := by
  have plainBook : ∀ e ∈ defaultBook, entryKey ∉ e.moves := by decide +kernel
  have plainMoves :
      entryKey ∉ (["e4", "e5", "Nf3", "Nc6", "Bb5", "a6"] : List String).take maxBookPlies := by
    decide +kernel
  have written : ∀ e ∈ defaultBook, Text.toUpper (Text.trim e.eco) = e.eco := by decide +kernel
  have rule := book_rule_of_plain defaultBook plainBook
  exact ⟨plainBook, plainMoves, (rule.2.1 _ plainMoves).1, written,
    rule.2.2 written " c70 " (by decide)⟩

/-- The book names a code only as its entry writes it, and the entry key shares the tree with the
moves: a code written in lower case is never named, the moves `c4`, `_entry` walk the default book
into the entry of the English Opening, and a book with the move `_entry` below an entry cannot be
built. -/
theorem book_faults_of_entry_key :
    nameForEco [⟨"c20", "King's Pawn Game", none, ["e4", "e5"]⟩] (some "c20") = none ∧
      (defaultBook.match? ["c4", entryKey]).map (fun _ => ()) = .error (.entryAsNode "get") ∧
      (tree? [⟨"A00", "Polish", none, ["e4"]⟩, ⟨"B00", "Owen", none, ["e4", entryKey, "e5"]⟩]).map
        (fun _ => ()) = .error (.entryAsNode "setdefault") := by
  decide +kernel

end Book

end Openings
end Tactician
