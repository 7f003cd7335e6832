import Mathlib
import Tactician.Proofs.Store.Progress

/-!
# What the puzzle filters select

The opening text of a filter is matched as a pattern: `%` stands for any run of characters, `_`
for any one, and every other character for itself, ASCII letters compared without case.  The
relation `Like` says this rule by cases of the pattern, and `likeMatch_iff` shows the matcher
decides it; a text free of `%` and `_` then matches exactly when it occurs in the stored text
(`likeContains_iff_infix`).

`Filter.Selects` states, field by field, which of a user's puzzles a filter selects, and
`admits_iff_selects` shows the filter's test decides it.  Main statement: in a reachable store a
listing whose offset fits an integer column counts the user's puzzles that the filter selects
and pages out that many of them, distinct, at most a page's worth from the offset on
(`listPuzzles_selects`).

The last section runs the filters on a store of two openings: codes are compared with the stored
code as it is, codes that are all blank set the opening text aside, and the text keeps its
wildcards and folds the case of ASCII letters only.
-/

namespace Tactician
namespace Store

open Analysis

/-! ### Patterns -/

/-- A text matches a pattern: `%` skips any run of characters, `_` takes any one, and any other
character takes one whose ASCII folding is its own. -/
inductive Like : List Char → List Char → Prop
  /-- The empty pattern matches the empty text. -/
  | done : Like [] []
  /-- `%` skips a run of characters. -/
  | many {ps text : List Char} (skipped : List Char) : Like ps text →
      Like ('%' :: ps) (skipped ++ text)
  /-- `_` takes one character. -/
  | one {ps text : List Char} (c : Char) : Like ps text → Like ('_' :: ps) (c :: text)
  /-- Any other character takes itself, ASCII letters without case. -/
  | same {ps text : List Char} {p c : Char} (plain : p ≠ '%' ∧ p ≠ '_')
      (equal : foldAscii p = foldAscii c) : Like ps text → Like (p :: ps) (c :: text)

section Like

variable {ps text : List Char} {p c : Char}

theorem like_nil_iff : Like [] text ↔ text = [] := by
  constructor
  · intro h
    cases h
    rfl
  · rintro rfl
    exact .done

theorem like_percent_iff :
    Like ('%' :: ps) text ↔ ∃ skipped rest, text = skipped ++ rest ∧ Like ps rest := by
  constructor
  · intro h
    cases h with
    | many skipped h => exact ⟨skipped, _, rfl, h⟩
    | same plain => exact absurd rfl plain.1
  · rintro ⟨skipped, rest, rfl, h⟩
    exact .many skipped h

theorem not_like_nil (other : p ≠ '%') : ¬Like (p :: ps) [] := by
  intro h
  generalize blank : ([] : List Char) = text at h
  cases h with
  | many skipped h =>
    exact other rfl
  | one => cases blank
  | same => cases blank

theorem like_cons_cons_iff (other : p ≠ '%') :
    Like (p :: ps) (c :: text) ↔ (p = '_' ∨ foldAscii p = foldAscii c) ∧ Like ps text := by
  constructor
  · intro h
    generalize whole : c :: text = given at h
    cases h with
    | many => exact absurd rfl other
    | one d h =>
      cases whole
      exact ⟨.inl rfl, h⟩
    | same plain equal h =>
      cases whole
      exact ⟨.inr equal, h⟩
  · rintro ⟨any | equal, h⟩
    · subst any
      exact .one c h
    · by_cases wild : p = '_'
      · subst wild
        exact .one c h
      · exact .same ⟨other, wild⟩ equal h

/-- The matcher decides the pattern rule. -/
theorem likeMatch_iff (pattern text : List Char) :
    likeMatch pattern text = true ↔ Like pattern text := by
  fun_induction likeMatch pattern text with
  | case1 rest =>
    rw [like_nil_iff]
    simp
  | case2 ps rest ih =>
    rw [like_percent_iff, List.any_eq_true]
    constructor
    · rintro ⟨i, -, matched⟩
      exact ⟨rest.take i, rest.drop i, (List.take_append_drop i rest).symm, (ih i).mp matched⟩
    · rintro ⟨skipped, suffix, rfl, h⟩
      refine ⟨skipped.length, List.mem_range.mpr (by simp), (ih _).mpr ?_⟩
      simpa using h
  | case3 p ps other =>
    simp only [Bool.false_eq_true, false_iff]
    exact not_like_nil other
  | case4 p ps c cs other ih =>
    rw [like_cons_cons_iff other, ← ih]
    simp

theorem like_plain_cons_iff (plain : p ≠ '%' ∧ p ≠ '_') :
    Like (p :: ps) text ↔
      ∃ c rest, text = c :: rest ∧ foldAscii p = foldAscii c ∧ Like ps rest := by
  cases text with
  | nil => simp [not_like_nil plain.1]
  | cons c rest =>
    rw [like_cons_cons_iff plain.1]
    simp [plain.2]

/-- A pattern that starts with a text free of `%` and `_` matches a text whose front of the same
length folds to it. -/
theorem like_plain_append_iff {needle : List Char} (plain : ∀ n ∈ needle, n ≠ '%' ∧ n ≠ '_') :
    Like (needle ++ ps) text ↔
      ∃ front rest, text = front ++ rest ∧ front.map foldAscii = needle.map foldAscii ∧
        Like ps rest := by
  induction needle generalizing text with
  | nil => simp
  | cons n needle ih =>
    have plainRest : ∀ m ∈ needle, m ≠ '%' ∧ m ≠ '_' := fun m member =>
      plain m (List.mem_cons_of_mem n member)
    rw [List.cons_append, like_plain_cons_iff (plain n List.mem_cons_self)]
    constructor
    · rintro ⟨c, rest, rfl, equal, h⟩
      obtain ⟨front, after, rfl, folded, h⟩ := (ih plainRest).mp h
      exact ⟨c :: front, after, rfl, by simp [equal, folded], h⟩
    · rintro ⟨front, rest, rfl, folded, h⟩
      cases front with
      | nil => simp at folded
      | cons c front =>
        simp only [List.map_cons, List.cons.injEq] at folded
        exact ⟨c, front ++ rest, rfl, folded.1.symm,
          (ih plainRest).mpr ⟨front, rest, rfl, folded.2, h⟩⟩

theorem like_percent_any (text : List Char) : Like ['%'] text :=
  like_percent_iff.mpr ⟨text, [], by simp, .done⟩

/-- A text free of `%` and `_` between two `%` matches exactly the texts it occurs in, ASCII
letters without case. -/
theorem like_contains_iff {needle : List Char} (plain : ∀ n ∈ needle, n ≠ '%' ∧ n ≠ '_') :
    Like ('%' :: (needle ++ ['%'])) text ↔ needle.map foldAscii <:+: text.map foldAscii := by
  rw [like_percent_iff]
  constructor
  · rintro ⟨skipped, rest, rfl, h⟩
    obtain ⟨front, after, rfl, folded, -⟩ := (like_plain_append_iff plain).mp h
    exact ⟨skipped.map foldAscii, after.map foldAscii, by simp [folded]⟩
  · rintro ⟨before, after, whole⟩
    obtain ⟨front, back, rfl, folded, -⟩ := List.map_eq_append_iff.mp whole.symm
    obtain ⟨skipped, middle, rfl, -, matched⟩ := List.map_eq_append_iff.mp folded
    exact ⟨skipped, middle ++ back, by simp,
      (like_plain_append_iff plain).mpr ⟨middle, back, rfl, matched, like_percent_any back⟩⟩

/-- An opening text free of `%` and `_` is found in a stored text exactly when it occurs in it,
ASCII letters without case. -/
theorem likeContains_iff_infix {needle s : String}
    (plain : ∀ n ∈ needle.toList, n ≠ '%' ∧ n ≠ '_') :
    likeContains needle (some s) = true ↔
      needle.toList.map foldAscii <:+: s.toList.map foldAscii := by
  rw [likeContains, likeMatch_iff, List.cons_append]
  exact like_contains_iff plain

end Like

/-! ### What a filter selects -/

/-- The user made an attempt on the puzzle. -/
def Tables.Attempted (t : Tables) (p : Puzzle) : Prop :=
  ∃ a ∈ t.attempts, a.puzzleId = p.id ∧ a.userId = p.owner

/-- The user solved the puzzle at least once. -/
def Tables.Solved (t : Tables) (p : Puzzle) : Prop :=
  ∃ a ∈ t.attempts, a.puzzleId = p.id ∧ a.userId = p.owner ∧ a.wasCorrect = true

/-- A puzzle of a store that a filter selects for a user, field by field. -/
@[mk_iff]
structure Filter.Selects (f : Filter) (t : Tables) (owner : String) (p : Puzzle) : Prop where
  /-- It is the user's. -/
  owned : p.owner = owner
  /-- Its framing is the one asked for, if any. -/
  type : f.type = "" ∨ p.type.tag = f.type
  /-- Its bucket is the one asked for, if any. -/
  kind : f.kind = "" ∨ p.kind.tag = f.kind
  /-- Its phase is the one asked for, if any. -/
  phase : f.phase = "" ∨ ∃ ph, p.phase = some ph ∧ ph.tag = f.phase
  /-- Its game is the one asked for, if any. -/
  game : f.gameId = "" ∨ p.gameId = f.gameId
  /-- Given codes, its ECO code is one of the non-blank ones, trimmed and in capitals, as stored;
  codes that are all blank ask for nothing. -/
  byCode : f.eco ≠ [] → (∀ c ∈ f.eco, Text.trim c = "") ∨
    ∃ c ∈ f.eco, Text.trim c ≠ "" ∧ p.eco = some (Text.toUpper (Text.trim c))
  /-- Given no codes, its code, name or variation matches the trimmed opening text between two
  `%`, unless that text is blank. -/
  byText : f.eco = [] → Text.trim f.opening = "" ∨
    ∃ s, (p.eco = some s ∨ p.openingName = some s ∨ p.variation = some s) ∧
      Like ('%' :: ((Text.trim f.opening).toList ++ ['%'])) s.toList
  /-- It carries every non-empty tag asked for. -/
  tagged : ∀ tag ∈ f.tags, tag ≠ "" → tag ∈ p.tags
  /-- It has several solutions when those are asked for. -/
  multi : f.multiSolution = "multi" → "multiSolution" ∈ p.tags
  /-- It has one solution when that is asked for. -/
  single : f.multiSolution = "single" → "multiSolution" ∉ p.tags
  /-- It was attempted, when both solved and failed ones are asked for. -/
  bothAsked : f.solved = true → f.failed = true → t.Attempted p
  /-- It was solved, when solved ones are asked for. -/
  solvedAsked : f.solved = true → f.failed = false → t.Solved p
  /-- It was attempted and never solved, when failed ones are asked for. -/
  failedAsked : f.solved = false → f.failed = true → t.Attempted p ∧ ¬t.Solved p

section Selects

variable {f : Filter} {t : Tables} {p : Puzzle}

theorem ecoCodes_eq_nil_iff {codes : List String} :
    ecoCodes codes = [] ↔ ∀ c ∈ codes, Text.trim c = "" := by
  simp [ecoCodes, List.filter_eq_nil_iff]

theorem mem_ecoCodes {codes : List String} {e : String} :
    e ∈ ecoCodes codes ↔ ∃ c ∈ codes, Text.trim c ≠ "" ∧ e = Text.toUpper (Text.trim c) := by
  simp only [ecoCodes, List.mem_map, List.mem_filter, Bool.not_eq_true']
  constructor
  · rintro ⟨c, ⟨member, kept⟩, rfl⟩
    exact ⟨c, member, by simpa using kept, rfl⟩
  · rintro ⟨c, member, kept, rfl⟩
    exact ⟨c, ⟨member, by simpa using kept⟩, rfl⟩

theorem likeContains_iff {needle : String} {stored : Option String} :
    likeContains needle stored = true ↔
      ∃ s, stored = some s ∧ Like ('%' :: (needle.toList ++ ['%'])) s.toList := by
  cases stored with
  | none => simp [likeContains]
  | some s => simp [likeContains, likeMatch_iff]

theorem openingOk_iff : f.openingOk p = true ↔
    (f.eco ≠ [] → (∀ c ∈ f.eco, Text.trim c = "") ∨
      ∃ c ∈ f.eco, Text.trim c ≠ "" ∧ p.eco = some (Text.toUpper (Text.trim c))) ∧
    (f.eco = [] → Text.trim f.opening = "" ∨
      ∃ s, (p.eco = some s ∨ p.openingName = some s ∨ p.variation = some s) ∧
        Like ('%' :: ((Text.trim f.opening).toList ++ ['%'])) s.toList) := by
  by_cases codes : f.eco = []
  · simp only [Filter.openingOk, codes, List.isEmpty_nil, Bool.not_true, Bool.false_eq_true,
      if_false, ne_eq, not_true_eq_false, false_imp_iff, true_and, forall_const,
      Bool.or_eq_true, String.isEmpty_iff, likeContains_iff, or_assoc, or_and_right, exists_or]
  · have given : f.eco.isEmpty = false := by simpa using codes
    simp only [Filter.openingOk, given, Bool.not_false, if_true, codes, ne_eq,
      not_false_eq_true, forall_const, false_imp_iff, and_true, Bool.or_eq_true,
      List.isEmpty_iff, ecoCodes_eq_nil_iff]
    cases stored : p.eco with
    | none => simp
    | some e => simp only [List.contains_iff_mem, mem_ecoCodes, Option.some.injEq]

theorem all_wantedTags_iff : f.wantedTags.all p.tags.contains = true ↔
    (∀ tag ∈ f.tags, tag ≠ "" → tag ∈ p.tags) ∧
      (f.multiSolution = "multi" → "multiSolution" ∈ p.tags) := by
  have given : (∀ tag ∈ f.tags.filter (!·.isEmpty), tag ∈ p.tags) ↔
      ∀ tag ∈ f.tags, tag ≠ "" → tag ∈ p.tags := by
    simp
  simp only [Filter.wantedTags, List.all_eq_true, List.contains_iff_mem]
  by_cases multi : f.multiSolution = "multi"
  · by_cases named : "multiSolution" ∈ f.tags
    · have kept : (f.tags.filter (!·.isEmpty)).contains "multiSolution" = true := by simp [named]
      simp only [multi, beq_self_eq_true, kept, Bool.not_true, Bool.and_false,
        Bool.false_eq_true, if_false, given, forall_const]
      exact ⟨fun carried => ⟨carried, carried _ named (by decide)⟩, And.left⟩
    · have missing : (f.tags.filter (!·.isEmpty)).contains "multiSolution" = false := by
        simp [named]
      simp only [multi, beq_self_eq_true, missing, Bool.not_false, Bool.and_self, if_true,
        List.mem_append, List.mem_singleton, or_imp, forall_and, forall_eq, given, true_implies]
  · simp [multi]

theorem recordOk_iff : f.recordOk t p = true ↔
    (f.solved = true → f.failed = true → t.Attempted p) ∧
      (f.solved = true → f.failed = false → t.Solved p) ∧
      (f.solved = false → f.failed = true → t.Attempted p ∧ ¬t.Solved p) := by
  rw [Tables.Attempted, Tables.Solved, ← Tables.attempted_iff, ← Tables.solved_iff]
  cases asked : f.solved <;> cases asked' : f.failed <;> simp [Filter.recordOk, asked, asked']

/-- The store's filter test is the field-by-field selection. -/
theorem admits_iff_selects {owner : String} : f.admits t owner p = true ↔ f.Selects t owner p := by
  rw [Filter.selects_iff]
  simp only [Filter.admits, Bool.and_eq_true, beq_iff_eq, Bool.or_eq_true, String.isEmpty_iff,
    Option.map_eq_some_iff, openingOk_iff, all_wantedTags_iff, recordOk_iff, bne_iff_ne, ne_eq,
    Bool.not_eq_true', and_assoc]
  simp only [Bool.eq_false_iff, ne_eq, List.contains_iff_mem, ← imp_iff_not_or]

instance {owner : String} : Decidable (f.Selects t owner p) :=
  decidable_of_iff _ admits_iff_selects

theorem matching_eq_filter_selects {owner : String} :
    t.matching owner f = t.puzzles.filter fun p => decide (f.Selects t owner p) := by
  refine List.filter_congr fun p _ => ?_
  rw [Bool.eq_iff_iff, decide_eq_true_iff, admits_iff_selects]

end Selects

/-! ### Pages of the selection -/

/-- The puzzles of a store that a filter selects for a user. -/
def Filter.selected (f : Filter) (t : Tables) (owner : String) : Set Puzzle :=
  {p | p ∈ t.puzzles ∧ f.Selects t owner p}

section Pages

variable {f : Filter} {t : Tables} {owner : String}

theorem Tables.Consistent.puzzles_nodup (c : t.Consistent) : t.puzzles.Nodup :=
  List.Nodup.of_map _ c.puzzleIds

theorem ncard_selected (c : t.Consistent) :
    (f.selected t owner).ncard = (t.matching owner f).length := by
  classical
  have distinct : (t.matching owner f).Nodup := c.puzzles_nodup.filter _
  have listed : f.selected t owner = ↑(t.matching owner f).toFinset := by
    ext p
    simp [Filter.selected, matching_eq_filter_selects]
  rw [listed, Set.ncard_coe_finset, List.toFinset_card_of_nodup distinct]

/-- A page of the user's puzzles whose offset fits an integer column: the count is the number the
filter selects, and the page holds as many distinct selected puzzles as are left from its offset
on, up to its size, and nothing else. -/
theorem listPuzzles_selects (reach : Reachable t) (page limit : Int)
    (fits : (max 1 page - 1) * max 1 (min 50 limit) ≤ maxInteger) :
    ∃ items : List Puzzle,
      (listPuzzles owner page limit f).run.run t = (.ok ((f.selected t owner).ncard, items), t) ∧
        items.Nodup ∧ (∀ p ∈ items, p ∈ f.selected t owner) ∧
        (items.length : Int) = min (max 1 (min 50 limit))
          (max 0 ((f.selected t owner).ncard - (max 1 page - 1) * max 1 (min 50 limit))) := by
  have c := reach.consistent
  have size : maxPageSize = 50 := rfl
  refine ⟨_, by rw [listPuzzles_run, size, if_neg (not_lt.mpr fits), ncard_selected c], ?_, ?_, ?_⟩
  · have sorted : ((t.matching owner f).mergeSort pageOrder).Nodup :=
      List.nodup_mergeSort.mpr (c.puzzles_nodup.filter _)
    exact (sorted.drop).sublist (List.take_sublist _ _)
  · intro p member
    have listed := List.mem_mergeSort.mp (List.mem_of_mem_drop (List.mem_of_mem_take member))
    rw [matching_eq_filter_selects, List.mem_filter, decide_eq_true_iff] at listed
    exact listed
  · rw [ncard_selected c, List.length_take, List.length_drop, List.length_mergeSort]
    have skipped : 0 ≤ (max 1 page - 1) * max 1 (min 50 limit) :=
      Int.mul_nonneg (by omega) (by omega)
    generalize (max 1 page - 1) * max 1 (min 50 limit) = d at skipped ⊢
    omega

end Pages

/-! ### Two stored openings -/

/-- A puzzle record at a ply, with an opening code and name as a provider may send them. -/
def openingRecord (ply : Int) (eco name : String) : Value :=
  .obj [("source_ply", .int ply), ("fen", .str "f"), ("best_move_uci", .str "e2e4"),
        ("best_line_uci", .arr [.str "e2e4"]), ("tags", .arr []), ("opening_eco", .str eco),
        ("opening_name", .str name)]

/-- The store where `user-1` has stored the game `g` with a lower-case code on its first
puzzle and a name with a letter outside ASCII on its second. -/
def openingsTables : Tables :=
  ((ingest "user-1" "g" [openingRecord 0 "b01" "Sicilian Defense",
      openingRecord 1 "A09" "Réti Opening"]).run.run
    ((upsertGame "user-1" "" (some "g") none {} none none).run.run {}).2).2

theorem reachable_openingsTables : Reachable openingsTables :=
  Reachable.ingest (Relation.ReflTransGen.single
    (Write.upsert "user-1" "" (some "g") none {} none none {})) "user-1" "g" _

/-- The page law on the two stored openings, searched by a name. -/
theorem listPuzzles_selects_sicilian :
    ∃ items : List Puzzle,
      (listPuzzles "user-1" 1 20 { opening := "sicilian" }).run.run openingsTables =
          (.ok ((({ opening := "sicilian" } : Filter).selected openingsTables "user-1").ncard, items),
            openingsTables) ∧
        items.Nodup ∧
        (∀ p ∈ items, p ∈ ({ opening := "sicilian" } : Filter).selected openingsTables "user-1") ∧
        (items.length : Int) = min (max 1 (min 50 20))
          (max 0 (((({ opening := "sicilian" } : Filter).selected openingsTables "user-1").ncard : Int) -
            (max 1 1 - 1) * max 1 (min 50 20))) :=
  listPuzzles_selects reachable_openingsTables 1 20 (by decide)

/-- Codes are compared with the stored code as it is, codes that are all blank set the opening
text aside, and the text is a pattern whose case folding stops at ASCII: a stored `b01` is not
found by the code `b01`, a blank code finds the puzzles of any opening, `_` finds every
name, and `RÉTI` does not find `Réti`. -/
theorem listPuzzles_opening_filters_literal :
    (∃ p ∈ openingsTables.puzzles, p.eco = some "b01") ∧
      ((listPuzzles "user-1" 1 20 { eco := ["b01"] }).run.run openingsTables).1.toOption.map
        (·.1) = some 0 ∧
      ((listPuzzles "user-1" 1 20 { eco := ["  "], opening := "French" }).run.run
        openingsTables).1.toOption.map (·.1) = some 2 ∧
      ((listPuzzles "user-1" 1 20 { opening := "_" }).run.run openingsTables).1.toOption.map
        (·.1) = some 2 ∧
      ((listPuzzles "user-1" 1 20 { opening := "RÉTI" }).run.run openingsTables).1.toOption.map
        (·.1) = some 0 := by
  decide +kernel

end Store
end Tactician
