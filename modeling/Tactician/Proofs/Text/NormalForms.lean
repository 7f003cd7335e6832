import Tactician.Proofs.Mining.NormalForm

/-!
# Normal forms of text

Trimming, lower-casing and the graded form of a move are each their own normal form: applying one
twice is applying it once.

Trimming leaves a text whose ends are not blank (`SolidEnds`), and keeps a text blank exactly when
it was.  Lower-casing maps every character to characters that lower-casing fixes, never to the
capital sigma whose small form depends on its neighbours, and never turns a visible character into
a blank one.  That is a property of the case tables, checked once run against run
(`lowerRuns_clear`) rather than character by character.  So lower-casing a text whose ends are not
blank gives such a text, and the graded form of a move (trimmed, then lower-cased) is idempotent
and blank exactly when the move is.
-/

namespace Tactician
namespace Text

open Analysis

/-! ## Trimming -/

/-- A character list whose first and last characters, if any, are not blank. -/
def SolidEnds (cs : List Char) : Prop :=
  (∀ c ∈ cs.head?, isBlank c = false) ∧ ∀ c ∈ cs.getLast?, isBlank c = false

theorem dropBlanks_of_head {cs : List Char} (solid : ∀ c ∈ cs.head?, isBlank c = false) :
    dropBlanks cs = cs := by
  cases cs with
  | nil => rfl
  | cons c rest => simp [dropBlanks, solid c rfl]

theorem head?_dropBlanks (cs : List Char) : ∀ c ∈ (dropBlanks cs).head?, isBlank c = false := by
  intro c found
  have visible := List.head?_dropWhile_not isBlank cs
  rw [show (cs.dropWhile isBlank).head? = some c from found] at visible
  exact visible

/-- A visible last character survives dropping the leading blanks. -/
theorem dropBlanks_concat {c : Char} (solid : isBlank c = false) (xs : List Char) :
    dropBlanks (xs ++ [c]) = dropBlanks xs ++ [c] := by
  induction xs with
  | nil => simp [dropBlanks, solid]
  | cons x rest ih =>
    by_cases blank : isBlank x = true
    · simpa [dropBlanks, List.dropWhile_cons_of_pos blank] using ih
    · simp [dropBlanks, List.dropWhile_cons_of_neg blank]

theorem trim_toList (s : String) :
    (trim s).toList = (dropBlanks (dropBlanks s.toList).reverse).reverse := by
  simp [trim]

/-- A text whose ends are not blank is its own trim. -/
theorem trim_of_solidEnds {s : String} (solid : SolidEnds s.toList) : trim s = s := by
  have front := dropBlanks_of_head solid.1
  have back : dropBlanks s.toList.reverse = s.toList.reverse :=
    dropBlanks_of_head (by simpa [List.head?_reverse] using solid.2)
  rw [trim, front, back, List.reverse_reverse, String.ofList_toList]

theorem solidEnds_trim (s : String) : SolidEnds (trim s).toList := by
  rw [trim_toList]
  constructor
  · rw [List.head?_reverse]
    intro c found
    rcases front : dropBlanks s.toList with _ | ⟨x, rest⟩
    · rw [front] at found
      simp [dropBlanks] at found
    · have visible : isBlank x = false := head?_dropBlanks s.toList x (by simp [front])
      rw [front, List.reverse_cons, dropBlanks_concat visible, List.getLast?_concat,
        Option.mem_some_iff] at found
      exact found ▸ visible
  · rw [List.getLast?_reverse]
    exact head?_dropBlanks _

@[simp] theorem trim_trim (s : String) : trim (trim s) = trim s :=
  trim_of_solidEnds (solidEnds_trim s)

theorem all_dropBlanks (cs : List Char) : (dropBlanks cs).all isBlank = cs.all isBlank := by
  have dropped : (cs.takeWhile isBlank).all isBlank = true :=
    List.all_eq_true.mpr fun _ taken => List.mem_takeWhile_imp taken
  conv_rhs => rw [← List.takeWhile_append_dropWhile (p := isBlank) (l := cs)]
  rw [List.all_append, dropped, Bool.true_and, dropBlanks]

/-- Trimming keeps a text blank exactly when it was. -/
@[simp] theorem isAllBlank_trim (s : String) : isAllBlank (trim s) = isAllBlank s := by
  simp only [isAllBlank, trim_toList, List.all_reverse, all_dropBlanks]

theorem trim_eq_empty {s : String} (blank : isAllBlank s = true) : trim s = "" := by
  rcases whole : (trim s).toList with _ | ⟨c, rest⟩
  · exact String.toList_eq_nil_iff.mp whole
  · have visible : isBlank c = false := (solidEnds_trim s).1 c (by simp [whole])
    have allBlank : isAllBlank (trim s) = true := by rw [isAllBlank_trim, blank]
    simp [isAllBlank, whole, visible] at allBlank

/-! ## The case tables -/

namespace CaseRun

/-- Whether the run maps the character with code `n`. -/
def holds (r : CaseRun) (n : Nat) : Bool :=
  r.first ≤ n && n ≤ r.last && (n - r.first) % r.stride == 0

/-- Whether no character the run maps lands on a character of `q`: the images lie wholly below or
above `q`, or `q` takes every other character and the images fall between two of them. -/
def clearOf (r q : CaseRun) : Bool :=
  decide ((r.last : Int) + r.offset < q.first) || decide ((q.last : Int) < r.first + r.offset) ||
    (q.stride == 2 && (r.stride == 2 || r.first == r.last) &&
      (r.first + r.offset - q.first) % 2 == 1)

theorem holds_image {r q : CaseRun} (clear : r.clearOf q = true) {n : Nat}
    (mapped : r.holds n = true)
    (positive : 0 < (r.first : Int) + r.offset) : q.holds (n + r.offset).toNat = false := by
  refine Bool.eq_false_iff.mpr fun landed => ?_
  simp only [holds, Bool.and_eq_true, decide_eq_true_eq, beq_iff_eq] at mapped landed
  obtain ⟨⟨low, high⟩, aligned⟩ := mapped
  obtain ⟨⟨qLow, qHigh⟩, qAligned⟩ := landed
  simp only [clearOf, Bool.or_eq_true, decide_eq_true_eq, Bool.and_eq_true, beq_iff_eq] at clear
  rcases clear with (below | above) | ⟨⟨every, single⟩, odd⟩
  · omega
  · omega
  · rw [every] at qAligned
    rcases single with two | single
    · rw [two] at aligned
      omega
    · omega

end CaseRun

/-- The blank characters, as runs. -/
def blankRuns : List CaseRun :=
  [⟨9, 13, 1, 0⟩, ⟨28, 32, 1, 0⟩, ⟨133, 133, 1, 0⟩, ⟨160, 160, 1, 0⟩, ⟨5760, 5760, 1, 0⟩,
   ⟨8192, 8202, 1, 0⟩, ⟨8232, 8233, 1, 0⟩, ⟨8239, 8239, 1, 0⟩, ⟨8287, 8287, 1, 0⟩,
   ⟨12288, 12288, 1, 0⟩]

/-- The characters lower-casing must not produce: those it maps, by a run or as a special, and
the blank ones. -/
def loweringTargets : List CaseRun :=
  lowerRuns ++ lowerSpecials.map (fun s => ⟨s.1, s.1, 1, 0⟩) ++ blankRuns

/-- The case tables, run against run: every run maps to characters above zero, and none of them is
mapped again, special or blank. -/
theorem lowerRuns_clear :
    ∀ r ∈ lowerRuns,
      0 < (r.first : Int) + r.offset ∧ ∀ q ∈ loweringTargets, r.clearOf q = true := by
  have checked : lowerRuns.all (fun r =>
      decide (0 < (r.first : Int) + r.offset) && loweringTargets.all r.clearOf) = true := by
    decide +kernel
  simpa using checked

/-! ## Lower-casing one character -/

theorem isBlank_eq_any (c : Char) : isBlank c = blankRuns.any (·.holds c.toNat) := by
  rw [Bool.eq_iff_iff]
  simp only [isBlank, blankRuns, CaseRun.holds, List.any_cons, List.any_nil, Nat.mod_one,
    Bool.or_eq_true, Bool.and_eq_true, decide_eq_true_eq, beq_iff_eq, Bool.or_false, and_true]
  omega

theorem mapByRuns_of_holds {runs : List CaseRun} {c : Char} {r : CaseRun}
    (found : runs.find? (·.holds c.toNat) = some r) :
    mapByRuns runs c = Char.ofNat (c.toNat + r.offset).toNat := by
  simp only [CaseRun.holds] at found
  simp [mapByRuns, found]

theorem mapByRuns_of_unmapped {runs : List CaseRun} {c : Char}
    (unmapped : runs.find? (·.holds c.toNat) = none) : mapByRuns runs c = c := by
  simp only [CaseRun.holds] at unmapped
  simp [mapByRuns, unmapped]

theorem toNat_ofNat_cases (m : Nat) : (Char.ofNat m).toNat = m ∨ (Char.ofNat m).toNat = 0 := by
  unfold Char.ofNat
  split
  · exact .inl (by simp [Char.ofNatAux, Char.toNat])
  · exact .inr rfl

/-- A run maps the capital sigma. -/
theorem capitalSigma_mapped : ∃ r ∈ lowerRuns, r.holds capitalSigma.toNat = true :=
  List.any_eq_true.mp (by decide +kernel)

/-- A character that no run, special or blank range takes is fixed by lower-casing, is not the
capital sigma, and is visible. -/
theorem fixed_of_untaken {d : Char} (untaken : ∀ q ∈ loweringTargets, q.holds d.toNat = false) :
    (mapChar lowerRuns lowerSpecials d = [d] ∧ d ≠ capitalSigma) ∧ isBlank d = false := by
  have byRuns : ∀ r ∈ lowerRuns, r.holds d.toNat = false := fun r member =>
    untaken r (List.mem_append_left _ (List.mem_append_left _ member))
  have bySpecials : lowerSpecials.find? (·.1 == d.toNat) = none :=
    List.find?_eq_none.mpr fun s member same => by
      have taken := untaken ⟨s.1, s.1, 1, 0⟩
        (List.mem_append_left _ (List.mem_append_right _ (List.mem_map_of_mem member)))
      simp [CaseRun.holds, beq_iff_eq.mp same] at taken
  refine ⟨⟨?_, ?_⟩, ?_⟩
  · have unmapped : lowerRuns.find? (·.holds d.toNat) = none :=
      List.find?_eq_none.mpr fun r member => by simpa using byRuns r member
    simp [mapChar, bySpecials, mapByRuns_of_unmapped unmapped]
  · rintro rfl
    obtain ⟨r, member, mapped⟩ := capitalSigma_mapped
    rw [byRuns r member] at mapped
    cases mapped
  · rw [isBlank_eq_any, List.any_eq_false]
    exact fun q member => by
      simpa using untaken q (List.mem_append_right _ member)

/-- The characters a special maps to are fixed by lower-casing and visible. -/
theorem specials_fixed : ∀ s ∈ lowerSpecials, ∀ d ∈ s.2.map Char.ofNat,
    (mapChar lowerRuns lowerSpecials d = [d] ∧ d ≠ capitalSigma) ∧ isBlank d = false := by
  have checked : lowerSpecials.all (fun s => (s.2.map Char.ofNat).all fun d =>
      mapChar lowerRuns lowerSpecials d == [d] && d != capitalSigma && !isBlank d) = true := by
    decide +kernel
  simpa [and_assoc] using checked

theorem finalSigma_fixed :
    (mapChar lowerRuns lowerSpecials (Char.ofNat 0x3C2) = [Char.ofNat 0x3C2] ∧
      Char.ofNat 0x3C2 ≠ capitalSigma) ∧ isBlank (Char.ofNat 0x3C2) = false := by
  decide +kernel

theorem mapChar_ne_nil (c : Char) : mapChar lowerRuns lowerSpecials c ≠ [] := by
  unfold mapChar
  split
  · rename_i k cs found
    have member := List.mem_of_find?_eq_some found
    simp only [lowerSpecials, List.mem_singleton, Prod.mk.injEq] at member
    rw [member.2]
    simp
  · simp

/-- What lower-casing maps a character to is fixed by lower-casing, is not the capital sigma, and
is visible when the character is. -/
theorem mapChar_lower_fixed (c : Char) :
    ∀ d ∈ mapChar lowerRuns lowerSpecials c,
      (mapChar lowerRuns lowerSpecials d = [d] ∧ d ≠ capitalSigma) ∧
        (isBlank c = false → isBlank d = false) := by
  intro d mem
  unfold mapChar at mem
  split at mem
  · rename_i k cs found
    have checked := specials_fixed _ (List.mem_of_find?_eq_some found) d mem
    exact ⟨checked.1, fun _ => checked.2⟩
  rename_i unspecial
  rw [List.mem_singleton] at mem
  subst mem
  rcases found : lowerRuns.find? (·.holds c.toNat) with _ | r
  · rw [mapByRuns_of_unmapped found]
    refine ⟨⟨by simp [mapChar, unspecial, mapByRuns_of_unmapped found], ?_⟩, id⟩
    rintro rfl
    obtain ⟨r, member, mapped⟩ := capitalSigma_mapped
    exact absurd mapped (List.find?_eq_none.mp found r member)
  · rw [mapByRuns_of_holds found]
    obtain ⟨positive, clear⟩ := lowerRuns_clear r (List.mem_of_find?_eq_some found)
    have mapped : r.holds c.toNat = true := by simpa using List.find?_some found
    have image := fun q target => CaseRun.holds_image (clear q target) mapped positive
    have zero : ∀ q ∈ loweringTargets, q.holds 0 = false := by decide +kernel
    rcases toNat_ofNat_cases (c.toNat + r.offset).toNat with same | null
    · have fixed := fixed_of_untaken fun q target => same ▸ image q target
      exact ⟨fixed.1, fun _ => fixed.2⟩
    · have fixed := fixed_of_untaken fun q target => null ▸ zero q target
      exact ⟨fixed.1, fun _ => fixed.2⟩

/-! ## Lower-casing a text -/

/-- Each character of a text lowers to a non-empty group of characters that lower-casing fixes,
visible when the character is. -/
theorem lowerChars_cons (before : List Char) (c : Char) (rest : List Char) :
    ∃ here, here ≠ [] ∧
      (∀ d ∈ here, (mapChar lowerRuns lowerSpecials d = [d] ∧ d ≠ capitalSigma) ∧
        (isBlank c = false → isBlank d = false)) ∧
      lowerChars before (c :: rest) = here ++ lowerChars (c :: before) rest := by
  by_cases final : (c == capitalSigma && casedFirst before && !casedFirst rest) = true
  · refine ⟨[Char.ofNat 0x3C2], by simp, ?_, by simp [lowerChars, final]⟩
    simp only [List.mem_singleton, forall_eq]
    exact ⟨finalSigma_fixed.1, fun _ => finalSigma_fixed.2⟩
  · exact ⟨mapChar lowerRuns lowerSpecials c, mapChar_ne_nil c, mapChar_lower_fixed c,
      by simp [lowerChars, final]⟩

theorem lowerChars_fixed (before cs : List Char) :
    ∀ d ∈ lowerChars before cs, mapChar lowerRuns lowerSpecials d = [d] ∧ d ≠ capitalSigma := by
  induction cs generalizing before with
  | nil => simp [lowerChars]
  | cons c rest ih =>
    obtain ⟨here, -, fixed, split⟩ := lowerChars_cons before c rest
    intro d mem
    rw [split, List.mem_append] at mem
    rcases mem with mem | mem
    · exact (fixed d mem).1
    · exact ih (c :: before) d mem

@[simp] theorem toLower_toLower (s : String) : toLower (toLower s) = toLower s := by
  simp only [toLower, String.toList_ofList]
  rw [lowerChars_of_fixed (lowerChars_fixed [] s.toList)]

theorem lowerChars_concat (before init : List Char) (c : Char) :
    ∃ front d, lowerChars before (init ++ [c]) = front ++ [d] ∧
      (isBlank c = false → isBlank d = false) := by
  induction init generalizing before with
  | nil =>
    obtain ⟨here, filled, fixed, split⟩ := lowerChars_cons before c []
    obtain ⟨front, d, rfl⟩ := (List.eq_nil_or_concat' here).resolve_left filled
    refine ⟨front, d, by simp [split, lowerChars], fun solid => (fixed d (by simp)).2 solid⟩
  | cons x init ih =>
    obtain ⟨here, -, -, split⟩ := lowerChars_cons before x (init ++ [c])
    obtain ⟨front, d, lowered, visible⟩ := ih (x :: before)
    exact ⟨here ++ front, d, by rw [List.cons_append, split, lowered, List.append_assoc], visible⟩

theorem solidEnds_lowerChars {cs : List Char} (solid : SolidEnds cs) (before : List Char) :
    SolidEnds (lowerChars before cs) := by
  constructor
  · intro d first
    rcases cs with _ | ⟨c, rest⟩
    · simp [lowerChars] at first
    · obtain ⟨here, filled, fixed, split⟩ := lowerChars_cons before c rest
      obtain ⟨e, es, rfl⟩ := List.exists_cons_of_ne_nil filled
      rw [split, List.cons_append, List.head?_cons, Option.mem_some_iff] at first
      subst first
      exact (fixed _ List.mem_cons_self).2 (solid.1 c rfl)
  · intro d last
    rcases List.eq_nil_or_concat' cs with rfl | ⟨init, c, rfl⟩
    · simp [lowerChars] at last
    · obtain ⟨front, e, split, visible⟩ := lowerChars_concat before init c
      rw [split, List.getLast?_concat, Option.mem_some_iff] at last
      subst last
      exact visible (solid.2 c (by simp))

/-- Lower-casing a text whose ends are not blank gives one whose ends are not blank. -/
theorem trim_toLower {s : String} (solid : SolidEnds s.toList) : trim (toLower s) = toLower s := by
  apply trim_of_solidEnds
  simpa [toLower] using solidEnds_lowerChars solid []

end Text

/-! ## The graded form of a move -/

namespace Training

open Text

@[simp] theorem normalizeMove_normalizeMove (s : String) :
    normalizeMove (normalizeMove s) = normalizeMove s := by
  simp only [normalizeMove]
  rw [trim_toLower (solidEnds_trim s), toLower_toLower]

/-- The graded form of a move is blank exactly when the move is. -/
@[simp] theorem isAllBlank_normalizeMove (s : String) :
    isAllBlank (normalizeMove s) = isAllBlank s := by
  unfold normalizeMove
  cases blank : isAllBlank s
  · have visible : isAllBlank (trim s) = false := by rw [isAllBlank_trim, blank]
    rcases whole : (trim s).toList with _ | ⟨c, rest⟩
    · simp [isAllBlank, whole] at visible
    · have solid : isBlank c = false := (solidEnds_trim s).1 c (by simp [whole])
      obtain ⟨here, filled, fixed, split⟩ := lowerChars_cons [] c rest
      obtain ⟨e, es, rfl⟩ := List.exists_cons_of_ne_nil filled
      have lowered : (toLower (trim s)).toList = e :: (es ++ lowerChars [c] rest) := by
        simp [toLower, whole, split]
      exact isAllBlank_of_solid_head lowered ((fixed e List.mem_cons_self).2 solid)
  · rw [trim_eq_empty blank]
    rfl

end Training
end Tactician
