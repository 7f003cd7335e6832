import Mathlib
import Tactician.Settings.Preferences

/-!
# Preference blobs read back

A blob is read field by field: `entry` gives the value of the first field of a name.  Migration
and merging are folds over a blob's fields (`carryField`, `patchField`), each described here one
field at a time.

Main statements: settings written as a blob read back as themselves (`read_toPreferences`); a
version-1 blob reads as the blob with its version-1 names renamed, where a value under the new
name wins (`read_renameLegacy`); and after a patch is merged over settings, each setting is the one
its patch value gives alone when that value is not blank, and the old setting otherwise
(`read_merge_field`).
-/

namespace Tactician
namespace Settings

/-- The value a blob gives a name: that of its first field of the name. -/
def entry (raw : List (String × Value)) (k : String) : Option Value :=
  (raw.find? (·.1 == k)).map (·.2)

/-! ### Looking up a name -/

section Entry

variable {raw more : List (String × Value)} {k key : String} {v : Value}

@[simp] theorem entry_nil : entry [] k = none := rfl

theorem entry_cons : entry ((key, v) :: raw) k = if key = k then some v else entry raw k := by
  by_cases same : key = k <;> simp [entry, same]

theorem entry_append : entry (raw ++ more) k = (entry raw k).or (entry more k) := by
  simp only [entry, List.find?_append]
  cases raw.find? (·.1 == k) <;> rfl

theorem any_key_eq : raw.any (·.1 == k) = (entry raw k).isSome := by
  rw [Bool.eq_iff_iff]
  simp [entry, List.find?_isSome]

theorem entry_eq_none_of_not_mem (absent : k ∉ raw.map (·.1)) : entry raw k = none := by
  simp only [entry, Option.map_eq_none_iff, List.find?_eq_none, beq_iff_eq]
  intro field member same
  exact absent (List.mem_map.mpr ⟨field, member, same⟩)

/-- Writing a value over every field of a name. -/
theorem entry_map_replace :
    entry (raw.map fun field => if field.1 == key then (key, v) else field) k =
      if key = k then (entry raw k).map fun _ => v else entry raw k := by
  induction raw with
  | nil => simp
  | cons field raw ih =>
    obtain ⟨name, w⟩ := field
    simp only [beq_iff_eq] at ih
    by_cases here : name = key
    · subst here
      by_cases same : name = k <;> simp [entry_cons, same, ih]
    · by_cases same : name = k
      · subst same
        simp [entry_cons, here, Ne.symm here]
      · simp [entry_cons, here, same, ih]

theorem entry_setField :
    entry (Value.setField raw key v) k = if key = k then some v else entry raw k := by
  unfold Value.setField
  split
  · next present =>
    rw [entry_map_replace]
    by_cases same : key = k
    · subst same
      rw [any_key_eq, Option.isSome_iff_exists] at present
      obtain ⟨w, found⟩ := present
      simp [found]
    · simp [same]
  · next absent =>
    rw [entry_append, entry_cons]
    by_cases same : key = k
    · subst same
      rw [any_key_eq, Option.not_isSome_iff_eq_none] at absent
      simp [absent]
    · cases entry raw k <;> simp [same]

end Entry

/-! ### Version-1 names -/

/-- Whether a name is a version-1 name. -/
def isLegacyName (k : String) : Bool := legacyNames.any (·.1 == k)

/-- The version-1 name of a setting that had another. -/
def legacyName? (k : String) : Option String := (legacyNames.find? (·.2 == k)).map (·.1)

/-- The renaming is one to one, and neither side holds the version or a name of the other. -/
theorem legacyNames_apart : ∀ p ∈ legacyNames, ∀ q ∈ legacyNames,
    (p.1 = q.1 ∨ p.2 = q.2 → p = q) ∧ p.1 ≠ q.2 ∧ p.1 ≠ "version" ∧ p.2 ≠ "version" := by
  decide +kernel

theorem mem_of_legacyName? {k c : String} (named : legacyName? k = some c) :
    (c, k) ∈ legacyNames := by
  obtain ⟨⟨c', k'⟩, found, rfl⟩ := Option.map_eq_some_iff.mp named
  have same : k' = k := by simpa using List.find?_some found
  exact same ▸ List.mem_of_find?_eq_some found

theorem legacyName?_of_mem {c k : String} (member : (c, k) ∈ legacyNames) :
    legacyName? k = some c := by
  cases found : legacyNames.find? (·.2 == k) with
  | none =>
    rw [List.find?_eq_none] at found
    exact absurd (beq_self_eq_true k) (found _ member)
  | some p =>
    have same : p.2 = k := by simpa using List.find?_some found
    have equal := ((legacyNames_apart p (List.mem_of_find?_eq_some found) _ member).1
      (Or.inr same))
    simp [legacyName?, found, equal]

theorem isLegacyName_iff {k : String} : isLegacyName k = true ↔ ∃ s, (k, s) ∈ legacyNames := by
  simp [isLegacyName]

/-- A version-1 name has one new name. -/
theorem new_eq_of_mem {old new new' : String} (member : (old, new) ∈ legacyNames)
    (member' : (old, new') ∈ legacyNames) : new = new' := by
  have equal := (legacyNames_apart _ member _ member').1 (Or.inl rfl)
  simpa using equal

/-- A new name is no version-1 name. -/
theorem isLegacyName_of_new {old new : String} (member : (old, new) ∈ legacyNames) :
    isLegacyName new = false := by
  simpa [isLegacyName] using fun p q other => (legacyNames_apart (p, q) other _ member).2.1

/-- A version-1 name is none of the names that are not. -/
theorem ne_of_legacy {old new k : String} (member : (old, new) ∈ legacyNames)
    (plain : ¬isLegacyName k = true) : old ≠ k :=
  fun same => plain (same ▸ isLegacyName_iff.mpr ⟨new, member⟩)

/-! ### Migration, one field at a time -/

/-- What migrating a version-1 blob leaves under a name: nothing under the version or a version-1
name, else the value under the name itself, or failing that the one under its version-1 name. -/
def carried (raw : List (String × Value)) (k : String) : Option Value :=
  if k = "version" ∨ isLegacyName k = true then none
  else (entry raw k).or ((legacyName? k).bind (entry raw))

section Carry

variable {acc raw : List (String × Value)} {key k : String} {v : Value}

theorem entry_append_of_ne (other : key ≠ k) : entry (raw ++ [(key, v)]) k = entry raw k := by
  rw [entry_append, entry_cons]
  simp [other]

theorem entry_append_self (fresh : key ∉ raw.map (·.1)) :
    entry (raw ++ [(key, v)]) key = some v := by
  rw [entry_append, entry_eq_none_of_not_mem fresh, entry_cons]
  simp

/-- A field leaves what migration carries under a name alone when it is neither under that name
nor under its version-1 name. -/
theorem carried_append_of_apart (other : key ≠ k) (notOld : legacyName? k ≠ some key) :
    carried (raw ++ [(key, v)]) k = carried raw k := by
  unfold carried
  split
  · rfl
  · rw [entry_append_of_ne other]
    cases named : legacyName? k with
    | none => rfl
    | some c =>
      have apart : key ≠ c := fun same => notOld (same ▸ named)
      simp [entry_append_of_ne apart]

/-- The version field carries nothing. -/
theorem carried_append_version : carried (raw ++ [("version", v)]) k = carried raw k := by
  by_cases version : k = "version"
  · simp [carried, version]
  · refine carried_append_of_apart (Ne.symm version) fun named => ?_
    have member := mem_of_legacyName? named
    exact (legacyNames_apart _ member _ member).2.2.1 rfl

/-- One step of migration: carrying a field whose name is new to the blob read so far. -/
theorem entry_carryField (fresh : key ∉ raw.map (·.1)) (inv : ∀ k, entry acc k = carried raw k)
    (k : String) : entry (carryField acc (key, v)) k = carried (raw ++ [(key, v)]) k := by
  by_cases version : key = "version"
  · subst version
    simp [carryField, inv, carried_append_version]
  cases found : legacyNames.find? (·.1 == key) with
  | some p =>
    obtain ⟨c, new⟩ := p
    have member : (c, new) ∈ legacyNames := List.mem_of_find?_eq_some found
    obtain rfl : c = key := by simpa using List.find?_some found
    have newPlain : new ≠ "version" ∧ isLegacyName new = false :=
      ⟨(legacyNames_apart _ member _ member).2.2.2, isLegacyName_of_new member⟩
    have step : carryField acc (c, v) =
        if acc.any (·.1 == new) then acc else Value.setField acc new v := by
      simp [carryField, version, found]
    rw [step]
    by_cases renamed : k = new
    · subst renamed
      have before : carried raw k = entry raw k := by
        simp [carried, newPlain, legacyName?_of_mem member, entry_eq_none_of_not_mem fresh]
      have after : carried (raw ++ [(c, v)]) k = (entry raw k).or (some v) := by
        have apart : c ≠ k := (legacyNames_apart _ member _ member).2.1
        simp [carried, newPlain, legacyName?_of_mem member, entry_append_of_ne apart,
          entry_append_self fresh]
      rw [any_key_eq, inv, before, after]
      cases stored : entry raw k <;> simp [entry_setField, inv, before, stored]
    · have kept : entry (if acc.any (·.1 == new) then acc else Value.setField acc new v) k =
          entry acc k := by
        split <;> simp [entry_setField, Ne.symm renamed]
      rw [kept, inv]
      by_cases old : k = c
      · subst old
        have legacy : isLegacyName k = true := isLegacyName_iff.mpr ⟨new, member⟩
        simp [carried, legacy]
      · refine (carried_append_of_apart (Ne.symm old) fun named => renamed ?_).symm
        exact new_eq_of_mem (mem_of_legacyName? named) member
  | none =>
    have plain : isLegacyName key = false := by
      simpa [isLegacyName, List.find?_eq_none] using found
    have step : carryField acc (key, v) = Value.setField acc key v := by
      simp [carryField, version, found]
    rw [step, entry_setField]
    by_cases same : key = k
    · subst same
      simp [carried, version, plain, entry_append_self fresh]
    · rw [if_neg same, inv]
      refine (carried_append_of_apart same fun named => ?_).symm
      have legacy : isLegacyName key = true := isLegacyName_iff.mpr ⟨k, mem_of_legacyName? named⟩
      simp [plain] at legacy

end Carry

/-- Migrating a version-1 blob with distinct names, field after field. -/
theorem entry_foldl_carryField (raw : List (String × Value)) (distinct : (raw.map (·.1)).Nodup)
    (k : String) : entry (raw.foldl carryField []) k = carried raw k := by
  induction raw using List.reverseRecOn generalizing k with
  | nil =>
    have nothing : (legacyName? k).bind (entry []) = none := by cases legacyName? k <;> rfl
    simp [carried, nothing]
  | append_singleton raw field ih =>
    obtain ⟨key, v⟩ := field
    rw [List.map_append, List.nodup_append] at distinct
    have fresh : key ∉ raw.map (·.1) := fun member => distinct.2.2 key member key (by simp) rfl
    rw [List.foldl_append, List.foldl_cons, List.foldl_nil]
    exact entry_carryField fresh (ih distinct.1) k

/-! ### Whole blobs -/

section Blob

variable {raw a b : List (String × Value)}

theorem migrate_of_current (current : currentVersion ≤ blobVersion raw) : migrate raw = raw :=
  if_pos current

theorem entry_migrate_of_legacy (old : blobVersion raw < currentVersion)
    (distinct : (raw.map (·.1)).Nodup) (k : String) :
    entry (migrate raw) k =
      if k = "version" then some (.int currentVersion) else carried raw k := by
  rw [migrate, if_neg (not_le.mpr old), entry_setField, entry_foldl_carryField raw distinct]
  by_cases version : k = "version"
  · simp [version]
  · simp [version, Ne.symm version]

theorem blobVersion_eq_of_entry (same : entry a "version" = entry b "version") :
    blobVersion a = blobVersion b := by
  change ((looseInt ((entry a "version").getD .null)).filter (· != 0)).getD 1 =
    ((looseInt ((entry b "version").getD .null)).filter (· != 0)).getD 1
  rw [same]

/-- Settings are read from the names of the migrated blob alone. -/
theorem read_congr (same : ∀ k, entry (migrate a) k = entry (migrate b) k) :
    Config.read a = Config.read b := by
  simp only [entry] at same
  simp only [Config.read, same]

end Blob

/-! ### Settings read back from their blob -/

section RoundTrip

@[simp] theorem looseInt_int (i : Int) : looseInt (.int i) = some i := rfl

@[simp] theorem looseInt_bound (o : Option Int) : looseInt ((o.map .int).getD (.str "")) = o := by
  cases o with
  | none => decide +kernel
  | some i => rfl

@[simp] theorem looseBool_bool (b d : Bool) : looseBool (.bool b) d = b := rfl

@[simp] theorem looseMode_tag (m d : PuzzleMode) : looseMode (.str m.tag) d = m := by
  cases m <;> cases d <;> decide +kernel

theorem blobVersion_toPreferences (c : Config) : blobVersion c.toPreferences = currentVersion := by
  simp [blobVersion, Config.toPreferences, currentVersion, Option.filter_some]

/-- Settings written as a blob read back as themselves. -/
theorem read_toPreferences (c : Config) : Config.read c.toPreferences = c := by
  rw [Config.read, migrate_of_current (blobVersion_toPreferences c).ge]
  cases c
  simp [Config.toPreferences]

end RoundTrip

/-! ### Renaming version-1 names -/

/-- The new name of a version-1 name. -/
def newName? (k : String) : Option String := (legacyNames.find? (·.1 == k)).map (·.2)

/-- One field of a version-1 blob `whole` under its new name; a field under a version-1 name is
dropped when `whole` also has its new name. -/
def renameField (whole : List (String × Value)) (field : String × Value) :
    Option (String × Value) :=
  (newName? field.1).elim (some field) fun new =>
    if whole.any (·.1 == new) then none else some (new, field.2)

/-- A blob with its version-1 names renamed, where a value under the new name wins. -/
def renameLegacy (b : List (String × Value)) : List (String × Value) :=
  b.filterMap (renameField b)

section Rename

variable {whole part b : List (String × Value)} {key k : String} {v : Value}

theorem newName?_eq_some_iff {c new : String} : newName? c = some new ↔ (c, new) ∈ legacyNames := by
  constructor
  · intro named
    obtain ⟨⟨c', new'⟩, found, rfl⟩ := Option.map_eq_some_iff.mp named
    have same : c' = c := by simpa using List.find?_some found
    exact same ▸ List.mem_of_find?_eq_some found
  · intro member
    cases found : legacyNames.find? (·.1 == c) with
    | none =>
      rw [List.find?_eq_none] at found
      exact absurd (beq_self_eq_true c) (found _ member)
    | some p =>
      have same : p.1 = c := by simpa using List.find?_some found
      have equal := (legacyNames_apart p (List.mem_of_find?_eq_some found) _ member).1 (Or.inl same)
      simp [newName?, found, equal]

theorem newName?_eq_none_iff : newName? k = none ↔ isLegacyName k = false := by
  simp [newName?, isLegacyName, List.find?_eq_none]

/-- A renamed field keeps a name that is no version-1 name, or takes the new name of its
version-1 name when `whole` lacks it. -/
theorem renameField_eq_some {field renamed : String × Value}
    (h : renameField whole field = some renamed) :
    (renamed = field ∧ isLegacyName field.1 = false) ∨
      (newName? field.1 = some renamed.1 ∧ renamed.2 = field.2 ∧ entry whole renamed.1 = none) := by
  unfold renameField at h
  cases named : newName? field.1 with
  | none =>
    simp only [named, Option.elim_none, Option.some.injEq] at h
    exact .inl ⟨h.symm, newName?_eq_none_iff.mp named⟩
  | some new =>
    simp only [named, Option.elim_some] at h
    split at h
    · cases h
    · next absent =>
      cases h
      rw [any_key_eq, Option.not_isSome_iff_eq_none] at absent
      exact .inr ⟨rfl, rfl, absent⟩

/-- A field is dropped only when it has a version-1 name whose new name `whole` has. -/
theorem renameField_eq_none {field : String × Value} (h : renameField whole field = none) :
    ∃ new, newName? field.1 = some new ∧ (entry whole new).isSome := by
  unfold renameField at h
  cases named : newName? field.1 with
  | none => simp [named] at h
  | some new =>
    simp only [named, Option.elim_some, ite_eq_left_iff, reduceCtorEq, imp_false, not_not] at h
    exact ⟨new, rfl, any_key_eq ▸ h⟩

/-- What renaming the fields `part` of a blob `whole` leaves under a name. -/
def renamedEntry (whole part : List (String × Value)) (k : String) : Option Value :=
  if isLegacyName k = true then none
  else (entry part k).or (if (entry whole k).isSome then none else (legacyName? k).bind (entry part))

theorem renamedEntry_cons_of_apart (other : key ≠ k) (notOld : legacyName? k ≠ some key) :
    renamedEntry whole ((key, v) :: part) k = renamedEntry whole part k := by
  unfold renamedEntry
  rw [entry_cons, if_neg other]
  cases named : legacyName? k with
  | none => rfl
  | some c =>
    have apart : key ≠ c := fun same => notOld (same ▸ named)
    simp [entry_cons, apart]

/-- Renaming the fields of a part of a blob, one field at a time. -/
theorem entry_filterMap_renameField (sub : ∀ field ∈ part, (entry whole field.1).isSome)
    (k : String) : entry (part.filterMap (renameField whole)) k = renamedEntry whole part k := by
  induction part with
  | nil =>
    have nothing : (legacyName? k).bind (entry []) = none := by cases legacyName? k <;> rfl
    simp [renamedEntry, nothing]
  | cons field rest ih =>
    obtain ⟨key, v⟩ := field
    have ih := ih fun field member => sub field (List.mem_cons_of_mem _ member)
    cases renamed : renameField whole (key, v) with
    | none =>
      obtain ⟨new, named, taken⟩ := renameField_eq_none renamed
      have member := newName?_eq_some_iff.mp named
      rw [List.filterMap_cons, renamed, ih]
      by_cases legacy : isLegacyName k = true
      · simp [renamedEntry, legacy]
      have other := ne_of_legacy member legacy
      by_cases has : (entry whole k).isSome
      · simp [renamedEntry, legacy, has, entry_cons, other]
      · refine (renamedEntry_cons_of_apart other fun old => has ?_).symm
        exact new_eq_of_mem member (mem_of_legacyName? old) ▸ taken
    | some renamedField =>
      rw [List.filterMap_cons, renamed, entry_cons]
      rcases renameField_eq_some renamed with ⟨rfl, plain⟩ | ⟨named, sameValue, absent⟩
      · by_cases same : key = k
        · subst same
          simp [renamedEntry, plain, entry_cons]
        · rw [if_neg same, ih]
          refine (renamedEntry_cons_of_apart same fun old => ?_).symm
          simpa [plain] using isLegacyName_iff.mpr ⟨k, mem_of_legacyName? old⟩
      · obtain ⟨new, value⟩ := renamedField
        simp only at named sameValue absent
        subst sameValue
        have member := newName?_eq_some_iff.mp named
        have apart := legacyNames_apart _ member _ member
        by_cases renamedHere : new = k
        · subst renamedHere
          have plainNew := isLegacyName_of_new member
          have restLacks : entry rest new = none := by
            refine entry_eq_none_of_not_mem fun mem => ?_
            obtain ⟨field, inRest, named⟩ := List.mem_map.mp mem
            have present := sub field (List.mem_cons_of_mem _ inRest)
            rw [named, absent] at present
            exact absurd present (by simp)
          simp [renamedEntry, plainNew, absent, entry_cons, apart.2.1, restLacks,
            legacyName?_of_mem member]
        · rw [if_neg renamedHere, ih]
          by_cases legacy : isLegacyName k = true
          · simp [renamedEntry, legacy]
          refine (renamedEntry_cons_of_apart (ne_of_legacy member legacy) fun old =>
            renamedHere ?_).symm
          exact new_eq_of_mem member (mem_of_legacyName? old)

theorem entry_renameLegacy (k : String) :
    entry (renameLegacy b) k =
      if isLegacyName k = true then none else (entry b k).or ((legacyName? k).bind (entry b)) := by
  have own : ∀ field ∈ b, (entry b field.1).isSome := fun field member =>
    any_key_eq ▸ List.any_eq_true.mpr ⟨field, member, beq_self_eq_true _⟩
  rw [renameLegacy, entry_filterMap_renameField own]
  unfold renamedEntry
  split
  · rfl
  · cases entry b k <;> simp

/-- Renaming keeps the names of a blob distinct. -/
theorem renameLegacy_nodup (distinct : (b.map (·.1)).Nodup) :
    ((renameLegacy b).map (·.1)).Nodup := by
  rw [renameLegacy, List.Nodup, List.pairwise_map, List.pairwise_filterMap]
  rw [List.Nodup, List.pairwise_map] at distinct
  refine distinct.imp_of_mem fun {x y} xIn yIn apart x' hx y' hy same => ?_
  have present : ∀ field ∈ b, entry b field.1 ≠ none := fun field member =>
    Option.isSome_iff_ne_none.mp (any_key_eq ▸ List.any_eq_true.mpr ⟨field, member, by simp⟩)
  rcases renameField_eq_some hx with ⟨xKept, -⟩ | ⟨xNamed, -, xFresh⟩ <;>
    rcases renameField_eq_some hy with ⟨yKept, -⟩ | ⟨yNamed, -, yFresh⟩
  · rw [xKept, yKept] at same
    exact apart same
  · rw [xKept] at same
    exact present x xIn (same ▸ yFresh)
  · rw [yKept] at same
    exact present y yIn (same ▸ xFresh)
  · have xMember := newName?_eq_some_iff.mp xNamed
    have yMember := newName?_eq_some_iff.mp yNamed
    rw [same] at xMember
    exact apart (Prod.mk.inj ((legacyNames_apart _ xMember _ yMember).1 (Or.inr rfl))).1

theorem carried_renameLegacy (k : String) : carried (renameLegacy b) k = carried b k := by
  unfold carried
  split
  · rfl
  · next plain =>
    have notLegacy : isLegacyName k = false := by simpa using (not_or.mp plain).2
    have oldGone : (legacyName? k).bind (entry (renameLegacy b)) = none := by
      cases named : legacyName? k with
      | none => rfl
      | some c => simp [entry_renameLegacy, isLegacyName_iff.mpr ⟨k, mem_of_legacyName? named⟩]
    rw [oldGone, entry_renameLegacy, if_neg (by simp [notLegacy]), Option.or_none]

theorem blobVersion_renameLegacy : blobVersion (renameLegacy b) = blobVersion b := by
  have plain : isLegacyName "version" = false ∧ legacyName? "version" = none := by decide +kernel
  refine blobVersion_eq_of_entry ?_
  simp [entry_renameLegacy, plain]

/-- A version-1 blob reads as the blob with its version-1 names renamed, a value under the new
name winning over one under the version-1 name. -/
theorem read_renameLegacy (distinct : (b.map (·.1)).Nodup) (old : blobVersion b < currentVersion) :
    Config.read (renameLegacy b) = Config.read b := by
  refine read_congr fun k => ?_
  have renamedOld : blobVersion (renameLegacy b) < currentVersion := by
    rw [blobVersion_renameLegacy]
    exact old
  rw [entry_migrate_of_legacy renamedOld (renameLegacy_nodup distinct),
    entry_migrate_of_legacy old distinct, carried_renameLegacy]

end Rename

/-! ### Merging a patch, one field at a time -/

section Merge

variable {acc q : List (String × Value)} {key k : String} {v : Value}

theorem setField_nodup (distinct : (acc.map (·.1)).Nodup) :
    ((Value.setField acc key v).map (·.1)).Nodup := by
  unfold Value.setField
  split
  · have names : (acc.map fun field => if field.1 == key then (key, v) else field).map (·.1) =
        acc.map (·.1) := by
      simp only [List.map_map]
      refine List.map_congr_left fun field _ => ?_
      by_cases same : field.1 = key <;> simp [same]
    rwa [names]
  · next absent =>
    have fresh : key ∉ acc.map (·.1) := by simpa using absent
    rw [List.map_append, List.nodup_append]
    refine ⟨distinct, List.nodup_singleton _, fun name member other single same => fresh ?_⟩
    simp only [List.map_cons, List.map_nil, List.mem_singleton] at single
    rwa [← single, ← same]

theorem carryField_nodup (distinct : (acc.map (·.1)).Nodup) (field : String × Value) :
    ((carryField acc field).map (·.1)).Nodup := by
  unfold carryField
  split
  · exact distinct
  · split
    · split
      · exact distinct
      · exact setField_nodup distinct
    · exact setField_nodup distinct

/-- Migration writes every name once. -/
theorem migrate_nodup (distinct : (q.map (·.1)).Nodup) : ((migrate q).map (·.1)).Nodup := by
  unfold migrate
  split
  · exact distinct
  · refine setField_nodup ?_
    have run : ∀ (rest start : List (String × Value)), (start.map (·.1)).Nodup →
        ((rest.foldl carryField start).map (·.1)).Nodup := by
      intro rest
      induction rest with
      | nil => exact fun _ nodup => nodup
      | cons field rest ih => exact fun start nodup => ih _ (carryField_nodup nodup field)
    exact run q [] List.nodup_nil

/-- Merging a patch with distinct names: a name other than the version holds its non-blank patch
value, else what it held. -/
theorem entry_foldl_patchField (distinct : (q.map (·.1)).Nodup) (notVersion : k ≠ "version") :
    entry (q.foldl patchField acc) k = ((entry q k).filter (!isBlank ·)).or (entry acc k) := by
  induction q generalizing acc with
  | nil => simp
  | cons field rest ih =>
    obtain ⟨key, v⟩ := field
    rw [List.map_cons, List.nodup_cons] at distinct
    rw [List.foldl_cons, ih distinct.2, entry_cons]
    have written : entry (patchField acc (key, v)) k =
        if key = "version" ∨ isBlank v = true then entry acc k
        else if key = k then some v else entry acc k := by
      unfold patchField
      split <;> simp_all [entry_setField]
    rw [written]
    by_cases same : key = k
    · subst same
      have restLacks : entry rest key = none := entry_eq_none_of_not_mem distinct.1
      cases blank : isBlank v <;> simp [notVersion, blank, restLacks, Option.filter_some]
    · simp [same]

end Merge

/-! ### Merged blobs -/

section Merged

variable {raw base patch : List (String × Value)} {k : String}

theorem blobVersion_of_stamped (stamped : entry raw "version" = some (.int currentVersion)) :
    blobVersion raw = currentVersion := by
  change ((looseInt ((entry raw "version").getD .null)).filter (· != 0)).getD 1 = currentVersion
  rw [stamped]
  rfl

/-- A merged blob is of the current version. -/
theorem migrate_merge : migrate (merge base patch) = merge base patch :=
  migrate_of_current (blobVersion_of_stamped (by simp [merge, entry_setField])).ge

/-- A merged blob holds, under each name but the version, the migrated patch's value when it is
not blank and the migrated base's otherwise. -/
theorem entry_merge (distinct : (patch.map (·.1)).Nodup) (notVersion : k ≠ "version") :
    entry (merge base patch) k =
      ((entry (migrate patch) k).filter (!isBlank ·)).or (entry (migrate base) k) := by
  rw [merge, entry_setField, if_neg (Ne.symm notVersion),
    entry_foldl_patchField (migrate_nodup distinct) notVersion]

end Merged

/-! ### Reading preferences -/

/-- Settings read back from their own blob, where they pass their checks exactly when they did. -/
theorem ofPreferences_toPreferences (c : Config) :
    Config.ofPreferences c.toPreferences = c.validate := by
  rw [Config.ofPreferences, read_toPreferences]

/-- Settings that pass their checks read back from the blob they write, and a version-1 blob with
distinct names (of no version, or one below the current) reads as the blob with its version-1 names
renamed, where a value under the new name wins whatever the order of the two. -/
theorem ofPreferences_roundTrip_legacy :
    (∀ c : Config, c.validate = .ok c → Config.ofPreferences c.toPreferences = .ok c) ∧
      ∀ b : List (String × Value), (b.map (·.1)).Nodup → blobVersion b < currentVersion →
        Config.ofPreferences b = Config.ofPreferences (renameLegacy b) :=
  ⟨fun c valid => (ofPreferences_toPreferences c).trans valid,
   fun _ distinct old => by rw [Config.ofPreferences, Config.ofPreferences, read_renameLegacy distinct old]⟩

/-- The defaults read back, and a version-1 blob that names one setting both ways reads as the
value under the new name. -/
theorem ofPreferences_roundTrip_legacy_both_names :
    (({} : Config).validate = .ok {} ∧ Config.ofPreferences ({} : Config).toPreferences = .ok {}) ∧
      let b : List (String × Value) := [("minPvMoves", .int 3), ("min_pv_moves", .int 1)]
      (b.map (·.1)).Nodup ∧ blobVersion b < currentVersion ∧
        Config.ofPreferences b = Config.ofPreferences (renameLegacy b) :=
  ⟨⟨rfl, ofPreferences_roundTrip_legacy.1 {} rfl⟩,
   by decide +kernel, by decide +kernel,
   ofPreferences_roundTrip_legacy.2 _ (by decide +kernel) (by decide +kernel)⟩

end Settings

namespace Config

open Settings

/-- The value a setting is written as. -/
def field (c : Config) (k : String) : Option Value := entry c.toPreferences k

/-- Each setting is read from its own value alone. -/
theorem field_read_congr {a b : List (String × Value)} {k : String} (setting : k ∈ fieldNames)
    (same : entry (migrate a) k = entry (migrate b) k) : (read a).field k = (read b).field k := by
  simp only [entry] at same
  simp only [fieldNames] at setting
  fin_cases setting <;>
    simp only [field, entry, read, toPreferences, List.find?_cons, String.reduceBEq, same]

/-- A check passes only by giving back the settings it was given. -/
theorem validate_eq_ok {c r : Config} (valid : c.validate = .ok r) : r = c := by
  unfold validate at valid
  split at valid
  · cases valid
  split at valid
  · cases valid
  split at valid
  · cases valid
  split at valid
  · split at valid
    · cases valid
    · exact (Except.ok.inj valid).symm
  · exact (Except.ok.inj valid).symm

/-- No setting is named like the version or a version-1 name. -/
theorem fieldNames_plain : ∀ k ∈ fieldNames, k ≠ "version" ∧ isLegacyName k = false := by
  decide +kernel

/-- A blob of one setting's value is read as a version-1 blob holding that value. -/
theorem entry_migrate_single {k : String} (setting : k ∈ fieldNames) (v : Value) :
    entry (migrate [(k, v)]) k = some v := by
  have plain := fieldNames_plain k setting
  have old : blobVersion [(k, v)] < currentVersion := by
    have unversioned : entry [(k, v)] "version" = none := by simp [entry_cons, plain.1]
    change ((looseInt ((entry [(k, v)] "version").getD .null)).filter (· != 0)).getD 1 < 2
    rw [unversioned]
    decide
  rw [entry_migrate_of_legacy old (by simp), if_neg plain.1]
  simp [carried, plain, entry_cons]

/-- After a patch with distinct names is merged over settings, each setting is the one the
patch's migrated value gives alone when that value is neither absent nor blank, and the old
setting otherwise. -/
theorem read_merge_field (c : Config) {patch : List (String × Value)}
    (distinct : (patch.map (·.1)).Nodup) {k : String} (setting : k ∈ fieldNames) :
    (read (merge c.toPreferences patch)).field k =
      ((entry (migrate patch) k).filter (!isBlank ·)).elim (c.field k)
        fun v => (read [(k, v)]).field k := by
  have merged : entry (merge c.toPreferences patch) k =
      ((entry (migrate patch) k).filter (!isBlank ·)).or (entry c.toPreferences k) := by
    rw [entry_merge distinct (fieldNames_plain k setting).1,
      migrate_of_current (blobVersion_toPreferences c).ge]
  cases winner : (entry (migrate patch) k).filter (!isBlank ·) with
  | none =>
    rw [winner, Option.none_or] at merged
    rw [Option.elim_none]
    conv => rhs; rw [← read_toPreferences c]
    refine field_read_congr setting ?_
    rw [migrate_merge, merged, migrate_of_current (blobVersion_toPreferences c).ge]
  | some v =>
    rw [winner, Option.some_or] at merged
    rw [Option.elim_some]
    exact field_read_congr setting (by rw [migrate_merge, merged, entry_migrate_single setting])

/-- After a patch with distinct names is merged over settings and the result passes its checks,
each setting is the one the patch's migrated value gives alone when that value is neither absent
nor blank, and the old setting otherwise. -/
theorem ofPreferences_merge_field (c r : Config) (patch : List (String × Value))
    (distinct : (patch.map (·.1)).Nodup) (merged : ofPreferences (merge c.toPreferences patch) = .ok r)
    (k : String) (setting : k ∈ fieldNames) :
    r.field k = ((entry (migrate patch) k).filter (!isBlank ·)).elim (c.field k)
      fun v => (read [(k, v)]).field k := by
  rw [validate_eq_ok merged]
  exact read_merge_field c distinct setting

/-- An unreadable move time merged over a move time of 300 is not blank, so it wins the merge and
is then read as the default 200. -/
theorem ofPreferences_merge_field_unreadable :
    let c : Config := { movetimeMs := 300 }
    let patch : List (String × Value) := [("movetime_ms", .str "abc")]
    (patch.map (·.1)).Nodup ∧ ofPreferences (merge c.toPreferences patch) = .ok {} ∧
      "movetime_ms" ∈ fieldNames ∧
      ({} : Config).field "movetime_ms" =
        ((entry (migrate patch) "movetime_ms").filter (!isBlank ·)).elim (c.field "movetime_ms")
          fun v => (read [("movetime_ms", v)]).field "movetime_ms" :=
  ⟨by decide +kernel, by decide +kernel, by decide +kernel,
   ofPreferences_merge_field _ _ _ (by decide +kernel) (by decide +kernel) _ (by decide +kernel)⟩

/-- A merged patch value that is not blank but does not read as a number resets the setting to its
default: the move time 300 becomes 200 under the unreadable `abc`. -/
theorem merge_unreadable_resets_setting :
    looseInt (.str "abc") = none ∧ isBlank (.str "abc") = false ∧
      (ofPreferences (merge ({ movetimeMs := 300 } : Config).toPreferences
        [("movetime_ms", .str "abc")])).map (·.movetimeMs) = .ok 200 :=
  ⟨by decide +kernel, by decide +kernel, by decide +kernel⟩

end Config

end Tactician
