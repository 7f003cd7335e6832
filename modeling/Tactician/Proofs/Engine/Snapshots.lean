import Mathlib
import Tactician.Engine.Pool

/-!
# What a search publishes

A search keeps the latest line reported at each rank and the latest depth, and publishes snapshots
of them (`searchRecord`).  Read against the reports themselves: every snapshot shows the reports up
to the moment it was published (`Shows`): the latest line of each rank reported so far, by
strictly increasing rank, at the latest depth reported.  Every snapshot but the last shows a full
ranked set, one line for each rank from 1 to the number of lines wanted, when the reports keep to
those ranks.

The result of a search is its last snapshot, not its deepest: the two agree when the reported
depths never fall (`Deepening`), and then the snapshots deepen too.  A streaming search hands out
the snapshots at least as deep as its minimum, in order, and still answers with the last of all.

Main statement: `searchRecord_snapshots_show_reports`.
-/

namespace Tactician
namespace Engine

open Analysis

/-! ### Lines kept by rank -/

namespace RankedLines

/-- The ranks kept. -/
def ranks (ls : RankedLines) : List Int := ls.map (·.1)

@[simp]
theorem ranks_nil : ranks [] = [] := rfl

theorem put_eq_map {ls : RankedLines} {rank : Int} {l : EngineLine} (kept : rank ∈ ls.ranks) :
    ls.put rank l = ls.map fun e => if e.1 == rank then (rank, l) else e := by
  obtain ⟨e, mem, same⟩ := List.mem_map.mp kept
  have : ls.any (·.1 == rank) = true := List.any_eq_true.mpr ⟨e, mem, by simp [same]⟩
  simp [put, this]

theorem put_eq_append {ls : RankedLines} {rank : Int} {l : EngineLine} (fresh : rank ∉ ls.ranks) :
    ls.put rank l = ls ++ [(rank, l)] := by
  have : ls.any (·.1 == rank) = false := List.any_eq_false.mpr fun e mem same =>
    fresh (List.mem_map.mpr ⟨e, mem, by simpa using same⟩)
  simp [put, this]

/-- Keeping a line at a rank adds the rank, if it is new. -/
theorem ranks_put (ls : RankedLines) (rank : Int) (l : EngineLine) :
    (ls.put rank l).ranks = if rank ∈ ls.ranks then ls.ranks else ls.ranks ++ [rank] := by
  split
  · next kept =>
    rw [put_eq_map kept, ranks, List.map_map]
    refine List.map_congr_left fun e _ => ?_
    by_cases same : e.1 = rank <;> simp [same]
  · next fresh => simp [put_eq_append fresh, ranks]

theorem nodup_put {ls : RankedLines} (nodup : ls.ranks.Nodup) (rank : Int) (l : EngineLine) :
    (ls.put rank l).ranks.Nodup := by
  rw [ranks_put]
  split
  · exact nodup
  · next fresh =>
    exact nodup.append (List.nodup_singleton _) fun _ kept added =>
      fresh (List.mem_singleton.mp added ▸ kept)

theorem put_ne_nil (ls : RankedLines) (rank : Int) (l : EngineLine) : ls.put rank l ≠ [] := by
  by_cases kept : rank ∈ ls.ranks
  · rw [put_eq_map kept]
    obtain ⟨e, mem, -⟩ := List.mem_map.mp kept
    exact List.map_eq_nil_iff.not.mpr (List.ne_nil_of_mem mem)
  · simp [put_eq_append kept]

theorem lookup_cons_ite (k r : Int) (b : EngineLine) (rest : RankedLines) :
    ((k, b) :: rest).lookup r = if r = k then some b else rest.lookup r := by
  by_cases same : r = k
  · simp [same]
  · have other : (r == k) = false := by simpa using same
    simp [List.lookup_cons, other, same]

theorem lookup_map_replace (ls : RankedLines) (rank r : Int) (l : EngineLine) :
    (ls.map fun e => if e.1 == rank then (rank, l) else e).lookup r =
      if r = rank then (ls.lookup r).map fun _ => l else ls.lookup r := by
  induction ls with
  | nil => simp
  | cons e rest ih =>
    obtain ⟨k, b⟩ := e
    by_cases replaced : k = rank
    · subst replaced
      by_cases same : r = k <;> simp_all [lookup_cons_ite]
    · have kept : rank ≠ k := Ne.symm replaced
      by_cases same : r = rank <;> simp_all [lookup_cons_ite]

/-- The line kept at a rank after keeping `l` at `rank`. -/
theorem lookup_put (ls : RankedLines) (rank r : Int) (l : EngineLine) :
    (ls.put rank l).lookup r = if r = rank then some l else ls.lookup r := by
  by_cases kept : rank ∈ ls.ranks
  · rw [put_eq_map kept, lookup_map_replace]
    have found : (ls.lookup rank).isSome := by
      obtain ⟨e, mem, same⟩ := List.mem_map.mp kept
      exact List.lookup_isSome_iff.mpr ⟨e, mem, by simp [same]⟩
    split
    · next same =>
      subst same
      obtain ⟨b, hb⟩ := Option.isSome_iff_exists.mp found
      simp [hb]
    · rfl
  · rw [put_eq_append kept, List.lookup_append]
    have absent : ls.lookup rank = none := List.lookup_eq_none_iff.mpr fun p mem => by
      have : p.1 ≠ rank := fun same => kept (List.mem_map.mpr ⟨p, mem, same⟩)
      exact bne_iff_ne.mpr (Ne.symm this)
    split
    · next same => simp [same, absent]
    · next other => cases ls.lookup r <;> simp [other]

/-- With each rank kept once, a line is kept exactly where the lookup finds it. -/
theorem mem_iff_lookup {ls : RankedLines} (nodup : ls.ranks.Nodup) (r : Int) (l : EngineLine) :
    (r, l) ∈ ls ↔ ls.lookup r = some l := by
  induction ls with
  | nil => simp
  | cons e rest ih =>
    obtain ⟨k, b⟩ := e
    simp only [ranks, List.map_cons, List.nodup_cons] at nodup
    obtain ⟨fresh, nodup⟩ := nodup
    by_cases same : r = k
    · subst same
      have : (r, l) ∉ rest := fun mem => fresh (List.mem_map.mpr ⟨_, mem, rfl⟩)
      simp [this, eq_comm]
    · simp [lookup_cons_ite, same, ih nodup]

/-- The lines in rank order are the kept lines, sorted by strictly increasing rank. -/
theorem ordered_spec {ls : RankedLines} (nodup : ls.ranks.Nodup) :
    ∃ ranked : RankedLines, ranked.Perm ls ∧ (ranks ranked).Pairwise (· < ·) ∧
      ls.ordered = ranked.map (·.2) := by
  have perm := List.mergeSort_perm ls fun a b => decide (a.1 ≤ b.1)
  refine ⟨_, perm, ?_, rfl⟩
  have sorted : (ls.mergeSort fun a b => decide (a.1 ≤ b.1)).Pairwise
      (fun a b => decide (a.1 ≤ b.1) = true) :=
    List.pairwise_mergeSort (fun a b c ab bc => by simp only [decide_eq_true_eq] at *; omega)
      (fun a b => by simp only [Bool.or_eq_true, decide_eq_true_eq]; omega) ls
  have distinct : ranks (ls.mergeSort fun a b => decide (a.1 ≤ b.1)) |>.Nodup :=
    (perm.map fun e : Int × EngineLine => e.1).nodup_iff.mpr nodup
  rw [ranks, List.Nodup, List.pairwise_map] at distinct
  rw [ranks, List.pairwise_map]
  exact (sorted.and distinct).imp fun ⟨le, ne⟩ => lt_of_le_of_ne (by simpa using le) ne

/-- Distinct ranks from 1 to `n`, at least `n` of them, take every rank from 1 to `n`. -/
theorem mem_ranks_of_length {ls : RankedLines} {n : Nat} (nodup : ls.ranks.Nodup)
    (bounded : ∀ r ∈ ls.ranks, 1 ≤ r ∧ r ≤ n) (long : n ≤ ls.length) {r : Int} (low : 1 ≤ r)
    (high : r ≤ n) : r ∈ ls.ranks := by
  have within : ls.ranks.toFinset ⊆ Finset.Icc 1 (n : Int) := fun x mem =>
    Finset.mem_Icc.mpr (bounded x (List.mem_toFinset.mp mem))
  have enough : (Finset.Icc 1 (n : Int)).card ≤ ls.ranks.toFinset.card := by
    rw [Int.card_Icc, List.toFinset_card_of_nodup nodup, ranks, List.length_map]
    omega
  have all : ls.ranks.toFinset = Finset.Icc 1 (n : Int) :=
    Finset.eq_of_subset_of_card_le within enough
  have : r ∈ Finset.Icc 1 (n : Int) := Finset.mem_Icc.mpr ⟨low, high⟩
  rw [← all] at this
  exact List.mem_toFinset.mp this

end RankedLines

/-! ### The reports read so far -/

/-- The ranked line a report gives, at its rank (the first when it names none). -/
def SearchInfo.rankedLine? (i : SearchInfo) : Option (Int × EngineLine) :=
  i.line?.map (i.rank.getD 1, ·)

/-- The latest line reported at a rank. -/
def latestLine (reports : List SearchInfo) (rank : Int) : Option EngineLine :=
  (reports.filterMap SearchInfo.rankedLine?).reverse.lookup rank

/-- The depths reported along with a ranked line, in order. -/
def reportedDepths (reports : List SearchInfo) : List Int :=
  (reports.filter (·.line?.isSome)).filterMap (·.depth)

/-- The latest depth reported along with a ranked line; zero before any. -/
def latestDepth (reports : List SearchInfo) : Int := (reportedDepths reports).getLast?.getD 0

/-- Reports deepen when the depths reported with ranked lines are never negative and never
fall. -/
def Deepening (reports : List SearchInfo) : Prop := (0 :: reportedDepths reports).Pairwise (· ≤ ·)

/-- Reports keep to `wanted` ranks when each ranked line they give has a rank from 1 to
`wanted`. -/
def KeepsRanks (wanted : Nat) (reports : List SearchInfo) : Prop :=
  ∀ ranked ∈ reports.filterMap SearchInfo.rankedLine?, 1 ≤ ranked.1 ∧ ranked.1 ≤ wanted

instance (reports : List SearchInfo) : Decidable (Deepening reports) :=
  inferInstanceAs (Decidable (List.Pairwise _ _))

instance (wanted : Nat) (reports : List SearchInfo) : Decidable (KeepsRanks wanted reports) :=
  inferInstanceAs (Decidable (∀ ranked ∈ _, _))

/-- A full ranked set: a line was reported at each rank from 1 to `wanted`. -/
def FullRanks (wanted : Nat) (reports : List SearchInfo) : Prop :=
  ∀ r : Int, 1 ≤ r → r ≤ wanted → (latestLine reports r).isSome

/-- A snapshot of the position `fen` shows the reports `reports`: the latest line of each rank
reported, by strictly increasing rank, at the latest depth reported. -/
structure Shows (fen : String) (reports : List SearchInfo) (e : Evaluation) : Prop where
  fen : e.fen = fen
  depth : e.depth = latestDepth reports
  lines : ∃ ranked : List (Int × EngineLine), (ranked.map (·.1)).Pairwise (· < ·) ∧
    (∀ r l, (r, l) ∈ ranked ↔ latestLine reports r = some l) ∧ e.lines = ranked.map (·.2)

section Reports

variable {reports : List SearchInfo} {i : SearchInfo}

theorem rankedLine?_eq_none (silent : i.line? = none) : i.rankedLine? = none := by
  simp [SearchInfo.rankedLine?, silent]

theorem rankedLine?_eq_some {l : EngineLine} (lined : i.line? = some l) :
    i.rankedLine? = some (i.rank.getD 1, l) := by
  simp [SearchInfo.rankedLine?, lined]

theorem latestLine_append_of_none (silent : i.line? = none) :
    latestLine (reports ++ [i]) = latestLine reports := by
  funext r
  simp [latestLine, List.filterMap_append, rankedLine?_eq_none silent]

theorem latestLine_append_of_some {l : EngineLine} (lined : i.line? = some l) (r : Int) :
    latestLine (reports ++ [i]) r = if r = i.rank.getD 1 then some l else latestLine reports r := by
  simp only [latestLine, List.filterMap_append, List.filterMap_cons, List.filterMap_nil,
    rankedLine?_eq_some lined, List.reverse_append, List.reverse_cons, List.reverse_nil,
    List.nil_append, List.singleton_append]
  exact RankedLines.lookup_cons_ite _ _ _ _

theorem latestDepth_append_of_none (silent : i.line? = none) :
    latestDepth (reports ++ [i]) = latestDepth reports := by
  simp [latestDepth, reportedDepths, List.filter_append, silent]

theorem latestDepth_append_of_some {l : EngineLine} (lined : i.line? = some l) :
    latestDepth (reports ++ [i]) = i.depth.getD (latestDepth reports) := by
  cases depth : i.depth <;>
    simp [latestDepth, reportedDepths, List.filter_append, lined, depth, List.getLast?_append]

/-- A line found at a rank was reported at that rank. -/
theorem mem_of_latestLine {r : Int} {l : EngineLine} (found : latestLine reports r = some l) :
    (r, l) ∈ reports.filterMap SearchInfo.rankedLine? := by
  obtain ⟨front, back, split, -⟩ := List.lookup_eq_some_iff.mp found
  have : (r, l) ∈ (reports.filterMap SearchInfo.rankedLine?).reverse := by simp [split]
  exact List.mem_reverse.mp this

theorem KeepsRanks.earlier {wanted : Nat} {pre : List SearchInfo}
    (keeps : KeepsRanks wanted reports) (early : pre <+: reports) : KeepsRanks wanted pre :=
  fun ranked mem => keeps ranked ((early.filterMap _).subset mem)

theorem Deepening.earlier {pre : List SearchInfo} (deepening : Deepening reports)
    (early : pre <+: reports) : Deepening pre :=
  deepening.sublist (((early.filter _).filterMap _).sublist.cons_cons 0)

/-- Along deepening reports, the latest depth never falls. -/
theorem latestDepth_mono {pre : List SearchInfo} (deepening : Deepening reports)
    (early : pre <+: reports) : latestDepth pre ≤ latestDepth reports := by
  obtain ⟨rest, split⟩ := (early.filter (·.line?.isSome)).filterMap (·.depth)
  change reportedDepths pre ++ rest = reportedDepths reports at split
  unfold Deepening at deepening
  rw [latestDepth, latestDepth, ← split, List.getLast?_append]
  rw [← split, List.pairwise_cons, List.pairwise_append] at deepening
  obtain ⟨nonneg, -, -, rising⟩ := deepening
  cases later : rest.getLast? with
  | none => simp
  | some d =>
    have mem : d ∈ rest := List.mem_of_getLast? later
    cases earlier : (reportedDepths pre).getLast? with
    | none => exact nonneg d (List.mem_append_right _ mem)
    | some e => exact rising e (List.mem_of_getLast? earlier) d mem

/-- Lines kept once per rank, each the latest reported there, and the latest depth show the
reports. -/
theorem shows_of_lines {fen : String} {lines : RankedLines} {depth : Int}
    (nodup : lines.ranks.Nodup) (found : ∀ r, lines.lookup r = latestLine reports r)
    (deep : depth = latestDepth reports) : Shows fen reports ⟨fen, lines.ordered, depth⟩ := by
  obtain ⟨ranked, perm, increasing, ordered⟩ := RankedLines.ordered_spec nodup
  refine ⟨rfl, deep, ranked, increasing, fun r l => ?_, ordered⟩
  rw [perm.mem_iff, RankedLines.mem_iff_lookup nodup, found]

/-- Reports that keep to the wanted ranks fill them all once as many ranks are kept. -/
theorem fullRanks_of_lines {wanted : Nat} {lines : RankedLines} (nodup : lines.ranks.Nodup)
    (found : ∀ r, lines.lookup r = latestLine reports r) (keeps : KeepsRanks wanted reports)
    (long : wanted ≤ lines.length) : FullRanks wanted reports := by
  have reported : ∀ r l, (r, l) ∈ lines → latestLine reports r = some l := fun r l mem => by
    rw [← found]
    exact (RankedLines.mem_iff_lookup nodup r l).mp mem
  have bounded : ∀ r ∈ lines.ranks, 1 ≤ r ∧ r ≤ wanted := fun r kept => by
    obtain ⟨⟨r', l⟩, mem, rfl⟩ := List.mem_map.mp kept
    exact keeps _ (mem_of_latestLine (reported _ _ mem))
  intro r low high
  obtain ⟨⟨r', l⟩, mem, same⟩ :=
    List.mem_map.mp (RankedLines.mem_ranks_of_length nodup bounded long low high)
  have : r' = r := same
  subst this
  simp [reported _ _ mem]

end Reports

/-! ### The state of a search, read against its reports -/

namespace Progress

section Step

variable {fen : String} {wanted : Nat} {s : Progress} {i : SearchInfo}

theorem step_of_silent (silent : i.line? = none) : s.step fen wanted i = s := by
  simp [step, silent]

section Lined

variable {l : EngineLine} (lined : i.line? = some l)
include lined

theorem step_lines : (s.step fen wanted i).lines = s.lines.put (i.rank.getD 1) l := by
  simp [step, lined]

theorem step_depth : (s.step fen wanted i).depth = i.depth.getD s.depth := by
  simp [step, lined]

/-- A ranked line publishes a snapshot when it is at the last wanted rank and every rank is
filled. -/
theorem step_snapshots : (s.step fen wanted i).record.snapshots =
    if i.rank.getD 1 = wanted ∧ wanted ≤ (s.lines.put (i.rank.getD 1) l).length then
      s.record.snapshots ++
        [⟨fen, (s.lines.put (i.rank.getD 1) l).ordered, i.depth.getD s.depth⟩]
    else s.record.snapshots := by
  have publish : (i.rank.getD 1 == (wanted : Int) &&
      decide (wanted ≤ (s.lines.put (i.rank.getD 1) l).length)) = true ↔
      i.rank.getD 1 = wanted ∧ wanted ≤ (s.lines.put (i.rank.getD 1) l).length := by
    simp
  simp only [step, lined]
  split
  · next now => rw [if_pos (publish.mp now)]
  · next later => rw [if_neg (mt publish.mpr later)]

end Lined

end Step

/-- The state of a search for `wanted` lines of `fen` after the reports `reports`: each rank is
kept once, with the latest line reported there, at the latest depth; and each snapshot published
shows the reports up to its publication, a full ranked set when these keep to the wanted ranks,
and the snapshots deepen when the reports do. -/
structure Tracks (fen : String) (wanted : Nat) (reports : List SearchInfo) (s : Progress) :
    Prop where
  nodup : s.lines.ranks.Nodup
  lines : ∀ r, s.lines.lookup r = latestLine reports r
  depth : s.depth = latestDepth reports
  unpublished : s.lines = [] → s.record.snapshots = []
  snapshots : ∀ e ∈ s.record.snapshots, ∃ pre, pre <+: reports ∧ Shows fen pre e ∧
    (KeepsRanks wanted pre → FullRanks wanted pre)
  sorted : Deepening reports → (s.record.snapshots.map (·.depth)).Pairwise (· ≤ ·)

variable {fen : String} {wanted : Nat} {reports : List SearchInfo} {s : Progress}

theorem tracks_nil : Tracks fen wanted [] {} where
  nodup := List.nodup_nil
  lines _ := rfl
  depth := rfl
  unpublished _ := rfl
  snapshots _ mem := by cases mem
  sorted _ := List.Pairwise.nil

/-- A ranked line kept at its rank, at its depth, tracks the reports with it. -/
theorem Tracks.lined (t : Tracks fen wanted reports s) {i : SearchInfo} {l : EngineLine}
    (lined : i.line? = some l) :
    (s.lines.put (i.rank.getD 1) l).ranks.Nodup ∧
      (∀ r, (s.lines.put (i.rank.getD 1) l).lookup r = latestLine (reports ++ [i]) r) ∧
      i.depth.getD s.depth = latestDepth (reports ++ [i]) := by
  refine ⟨RankedLines.nodup_put t.nodup _ _, fun r => ?_, ?_⟩
  · rw [RankedLines.lookup_put, latestLine_append_of_some lined, t.lines]
  · rw [latestDepth_append_of_some lined, t.depth]

/-- Along deepening reports, a snapshot published so far is no deeper than the latest depth of
any reports that follow on. -/
theorem Tracks.published_depth_le (t : Tracks fen wanted reports s) {later : List SearchInfo}
    (deepening : Deepening later) (grows : reports <+: later) {e : Evaluation}
    (mem : e ∈ s.record.snapshots) : e.depth ≤ latestDepth later := by
  obtain ⟨pre, early, shows, -⟩ := t.snapshots e mem
  rw [shows.depth]
  exact latestDepth_mono deepening (early.trans grows)

/-- A snapshot at the latest depth of deepening reports publishes in depth order. -/
theorem Tracks.sorted_append (t : Tracks fen wanted reports s) {later : List SearchInfo}
    (deepening : Deepening later) (grows : reports <+: later)
    (sorted : (s.record.snapshots.map (·.depth)).Pairwise (· ≤ ·)) {e : Evaluation}
    (deep : e.depth = latestDepth later) :
    ((s.record.snapshots ++ [e]).map (·.depth)).Pairwise (· ≤ ·) := by
  rw [List.map_append, List.pairwise_append]
  refine ⟨sorted, List.pairwise_singleton _ _, fun d earlier d' now => ?_⟩
  obtain ⟨published, mem, rfl⟩ := List.mem_map.mp earlier
  rw [List.map_singleton, List.mem_singleton] at now
  rw [now, deep]
  exact t.published_depth_le deepening grows mem

/-- One report keeps the state tracking the reports. -/
theorem Tracks.step (t : Tracks fen wanted reports s) (i : SearchInfo) :
    Tracks fen wanted (reports ++ [i]) (s.step fen wanted i) := by
  have extends_ : reports <+: reports ++ [i] := List.prefix_append _ _
  have old : ∀ e ∈ s.record.snapshots, ∃ pre, pre <+: reports ++ [i] ∧ Shows fen pre e ∧
      (KeepsRanks wanted pre → FullRanks wanted pre) := fun e mem => by
    obtain ⟨pre, early, shows, full⟩ := t.snapshots e mem
    exact ⟨pre, early.trans extends_, shows, full⟩
  cases lined : i.line? with
  | none =>
    rw [step_of_silent lined]
    exact { nodup := t.nodup
            lines := fun r => by rw [t.lines, latestLine_append_of_none lined]
            depth := by rw [t.depth, latestDepth_append_of_none lined]
            unpublished := t.unpublished
            snapshots := old
            sorted := fun deepening => t.sorted (deepening.earlier extends_) }
  | some l =>
    obtain ⟨nodup, found, deep⟩ := t.lined lined
    refine ⟨?_, ?_, ?_, ?_, ?_, ?_⟩
    · rw [step_lines lined]; exact nodup
    · rw [step_lines lined]; exact found
    · rw [step_depth lined]; exact deep
    · rw [step_lines lined]
      exact fun empty => absurd empty (RankedLines.put_ne_nil _ _ _)
    · intro e mem
      rw [step_snapshots lined] at mem
      split at mem
      · next publish =>
        rcases List.mem_append.mp mem with earlier | now
        · exact old e earlier
        · rw [List.mem_singleton] at now
          subst now
          exact ⟨_, List.prefix_refl _, shows_of_lines nodup found deep,
            fun keeps => fullRanks_of_lines nodup found keeps publish.2⟩
      · exact old e mem
    · intro deepening
      have before := t.sorted (deepening.earlier extends_)
      rw [step_snapshots lined]
      split
      · exact t.sorted_append deepening extends_ before deep
      · exact before

theorem Tracks.foldl (t : Tracks fen wanted reports s) (rest : List SearchInfo) :
    Tracks fen wanted (reports ++ rest) (rest.foldl (Progress.step fen wanted) s) := by
  induction rest generalizing reports s with
  | nil => simpa using t
  | cons i rest ih =>
    rw [List.foldl_cons, ← List.singleton_append, ← List.append_assoc]
    exact ih (t.step i)

/-- Every search tracks its reports. -/
theorem tracks_run (fen : String) (wanted : Nat) (reports : List SearchInfo) :
    Tracks fen wanted reports (reports.foldl (step fen wanted) {}) := by
  simpa using tracks_nil.foldl reports

end Progress

/-! ### The snapshots of a search -/

section Record

variable {fen : String} {wanted : Nat} {reports : List SearchInfo}

/-- A search's snapshots are those published while the reports arrived, and one more showing
all of them when it differs from the last in lines or depth.  When none is added, nothing was
kept or the last snapshot is at the latest depth. -/
theorem searchRecord_cases (fen : String) (wanted : Nat) (reports : List SearchInfo) :
    let s := reports.foldl (Progress.step fen wanted) {}
    ((searchRecord fen wanted reports).snapshots = s.record.snapshots ∧
        (s.lines = [] ∨ ∃ last, s.record.latest = some last ∧ last.depth = s.depth)) ∨
      (searchRecord fen wanted reports).snapshots =
        s.record.snapshots ++ [⟨fen, s.lines.ordered, s.depth⟩] := by
  dsimp only [searchRecord]
  split
  · next empty => exact .inl ⟨rfl, .inl (List.isEmpty_iff.mp empty)⟩
  · split
    · next last found =>
      split
      · next same =>
        rw [Bool.and_eq_true, beq_iff_eq] at same
        exact .inl ⟨rfl, .inr ⟨last, found, beq_iff_eq.mp same.2⟩⟩
      · exact .inr rfl
    · next none =>
      exact .inr (by simp [List.getLast?_eq_none_iff.mp none])

/-- A snapshot of a search was published while the reports arrived, or shows all of them. -/
theorem mem_searchRecord {e : Evaluation} (mem : e ∈ (searchRecord fen wanted reports).snapshots) :
    e ∈ (reports.foldl (Progress.step fen wanted) {}).record.snapshots ∨
      e = ⟨fen, (reports.foldl (Progress.step fen wanted) {}).lines.ordered,
        (reports.foldl (Progress.step fen wanted) {}).depth⟩ := by
  rcases searchRecord_cases fen wanted reports with ⟨same, -⟩ | added
  · rw [same] at mem
    exact .inl mem
  · rwa [added, List.mem_append, List.mem_singleton] at mem

/-- Every snapshot of a search shows the reports up to its publication. -/
theorem searchRecord_shows {e : Evaluation}
    (mem : e ∈ (searchRecord fen wanted reports).snapshots) :
    ∃ pre, pre <+: reports ∧ Shows fen pre e := by
  have t := Progress.tracks_run fen wanted reports
  rcases mem_searchRecord mem with published | rfl
  · obtain ⟨pre, early, shows, -⟩ := t.snapshots e published
    exact ⟨pre, early, shows⟩
  · exact ⟨reports, List.prefix_refl _, shows_of_lines t.nodup t.lines t.depth⟩

/-- With reports that keep to the wanted ranks, every snapshot but the last shows a full ranked
set. -/
theorem searchRecord_fullRanks (keeps : KeepsRanks wanted reports) {e : Evaluation}
    (mem : e ∈ (searchRecord fen wanted reports).snapshots.dropLast) :
    ∃ pre, pre <+: reports ∧ Shows fen pre e ∧ FullRanks wanted pre := by
  have t := Progress.tracks_run fen wanted reports
  have published : e ∈ (reports.foldl (Progress.step fen wanted) {}).record.snapshots := by
    rcases searchRecord_cases fen wanted reports with
      ⟨same, -⟩ | added
    · rw [same] at mem
      exact List.dropLast_subset _ mem
    · rwa [added, List.dropLast_concat] at mem
  obtain ⟨pre, early, shows, full⟩ := t.snapshots e published
  exact ⟨pre, early, shows, full (keeps.earlier early)⟩

/-- The last snapshot of a search is at the latest depth reported. -/
theorem searchRecord_latest_depth {last : Evaluation}
    (found : (searchRecord fen wanted reports).latest = some last) :
    last.depth = latestDepth reports := by
  have t := Progress.tracks_run fen wanted reports
  rw [← t.depth]
  rcases searchRecord_cases fen wanted reports with
    ⟨same, kept⟩ | added
  · rw [SearchRecord.latest, same] at found
    rcases kept with empty | ⟨last', found', deep⟩
    · rw [t.unpublished empty] at found
      cases found
    · rw [SearchRecord.latest, found] at found'
      rw [Option.some.inj found', deep]
  · rw [SearchRecord.latest, added, List.getLast?_concat] at found
    cases found
    rfl

/-- Along deepening reports the snapshots of a search deepen, and the last is the deepest. -/
theorem searchRecord_deepening (deepening : Deepening reports) :
    ((searchRecord fen wanted reports).snapshots.map (·.depth)).Pairwise (· ≤ ·) ∧
      ∀ last, (searchRecord fen wanted reports).latest = some last →
        ∀ e ∈ (searchRecord fen wanted reports).snapshots, e.depth ≤ last.depth := by
  have t := Progress.tracks_run fen wanted reports
  refine ⟨?_, fun last found e mem => ?_⟩
  · rcases searchRecord_cases fen wanted reports with
      ⟨same, -⟩ | added
    · rw [same]
      exact t.sorted deepening
    · rw [added]
      exact t.sorted_append deepening (List.prefix_refl _) (t.sorted deepening) t.depth
  · obtain ⟨pre, early, shows⟩ := searchRecord_shows mem
    rw [shows.depth, searchRecord_latest_depth found]
    exact latestDepth_mono deepening early

end Record

/-! ### Streaming searches -/

section Streaming

variable {σ : Type}

theorem EngineM.run_bind {α β : Type} (x : EngineM σ α) (f : α → EngineM σ β) (st : Pool × σ) :
    (x >>= f).run st = (f (x.run st).1).run (x.run st).2 := rfl

/-- A search records nothing when it fails, the empty evaluation when the position has no legal
move, and otherwise the snapshots of the engine's reports for at least one wanted line. -/
theorem runSearch_record (host : Host σ) (fen : String) (p : Chess.Position) (lines : Int)
    (depth movetime : Option Int) (st : Pool × σ) :
    let record := ((runSearch host fen p lines depth movetime).run st).1.1
    record = {} ∨ record = ⟨[⟨fen, [], 0⟩]⟩ ∨
      ∃ wanted reports, 0 < wanted ∧ record = searchRecord fen wanted reports := by
  intro record
  simp only [record, runSearch, EngineM.run_bind]
  rcases (takeEngine host).run st with ⟨took, st1⟩
  cases took with
  | error f => exact .inl rfl
  | ok u =>
    dsimp only
    split
    · exact .inr (.inl rfl)
    · next many =>
      rw [EngineM.run_bind]
      rcases (hostSearch host p _ _).run st1 with ⟨out, st2⟩
      cases out with
      | none => exact .inl rfl
      | some reports =>
        exact .inr (.inr ⟨_, reports, by simpa [Nat.pos_iff_ne_zero] using many, rfl⟩)

/-- A streaming search hands out the snapshots of its search at least as deep as its minimum, and
answers with the result of the whole search. -/
theorem evaluate_stream (host : Host σ) (fen : String) (lines : Int)
    (minDepth maxDepth maxTime : Option Int) (st : Pool × σ) {stream : Stream}
    (ran : ((evaluate host fen lines minDepth maxDepth maxTime).run st).1 = .ok stream) :
    ∃ record failure, (record = {} ∨ record = ⟨[⟨fen, [], 0⟩]⟩ ∨
        ∃ wanted reports, 0 < wanted ∧ record = searchRecord fen wanted reports) ∧
      stream.snapshots = record.snapshots.filter (fun e => minDepth.all (e.depth ≥ ·)) ∧
      stream.result = searchResult fen record failure := by
  simp only [evaluate] at ran
  split at ran
  · cases ran
  · next p _ =>
    rw [EngineM.run_bind] at ran
    have searched := runSearch_record host fen p lines maxDepth (timeLimit maxTime) st
    cases ran
    exact ⟨_, _, searched, rfl, rfl⟩

/-- The result of a search with a snapshot is its last snapshot. -/
theorem searchResult_of_latest {fen : String} {r : SearchRecord} {e : Evaluation}
    (failure : Option Failure) (found : r.latest = some e) :
    searchResult fen r failure = .ok e := by
  simp [searchResult, found]

end Streaming

/-- What a search publishes, whatever the engine reports.  Each snapshot shows the reports up to
its publication, and each but the last a full ranked set when the reports keep to the wanted
ranks.  The last snapshot is at the latest depth reported; when the reports deepen, so do the
snapshots, and the last is the deepest.  A streaming search hands out exactly the snapshots of its
search at least as deep as its minimum, in order, and answers with the last of them all. -/
theorem searchRecord_snapshots_show_reports (fen : String) (wanted : Nat)
    (reports : List SearchInfo) :
    (∀ e ∈ (searchRecord fen wanted reports).snapshots, ∃ pre, pre <+: reports ∧ Shows fen pre e) ∧
    (KeepsRanks wanted reports → ∀ e ∈ (searchRecord fen wanted reports).snapshots.dropLast,
      ∃ pre, pre <+: reports ∧ Shows fen pre e ∧ FullRanks wanted pre) ∧
    (∀ last, (searchRecord fen wanted reports).latest = some last →
      last.depth = latestDepth reports) ∧
    (Deepening reports →
      ((searchRecord fen wanted reports).snapshots.map (·.depth)).Pairwise (· ≤ ·) ∧
      ∀ last, (searchRecord fen wanted reports).latest = some last →
        ∀ e ∈ (searchRecord fen wanted reports).snapshots, e.depth ≤ last.depth) ∧
    (∀ (σ : Type) (host : Host σ) lines minDepth maxDepth maxTime st stream,
      ((evaluate host fen lines minDepth maxDepth maxTime).run st).1 = .ok stream →
      ∃ record : SearchRecord, (record = {} ∨ record = ⟨[⟨fen, [], 0⟩]⟩ ∨
          ∃ wanted reports, 0 < wanted ∧ record = searchRecord fen wanted reports) ∧
        stream.snapshots = record.snapshots.filter (fun e => minDepth.all (e.depth ≥ ·)) ∧
        ∀ last, record.latest = some last → stream.result = .ok last) := by
  refine ⟨fun _ mem => searchRecord_shows mem, fun keeps _ mem => searchRecord_fullRanks keeps mem,
    fun _ found => searchRecord_latest_depth found, fun deepening => searchRecord_deepening deepening,
    ?_⟩
  intro σ host lines minDepth maxDepth maxTime st stream ran
  obtain ⟨record, failure, searched, shown, result⟩ :=
    evaluate_stream host fen lines minDepth maxDepth maxTime st ran
  exact ⟨record, searched, shown, fun last found => result.trans (searchResult_of_latest failure found)⟩

/-- Two reports for one line at depths 5 and 10 keep to the rank and deepen: the snapshots
deepen too. -/
theorem searchRecord_deepening_reports :
    let reports : List SearchInfo :=
      [{ depth := some 5, rank := some 1, score := some { cp := some 20 }, pv := some ["d2d4"] },
       { depth := some 10, rank := some 1, score := some { cp := some 30 }, pv := some ["e2e4"] }]
    let fen := "rnbqkbnr/pppppppp/8/8/8/8/PPPPPPPP/RNBQKBNR w KQkq - 0 1"
    KeepsRanks 1 reports ∧ Deepening reports ∧
      ((searchRecord fen 1 reports).snapshots.map (·.depth)).Pairwise (· ≤ ·) := by
  intro reports fen
  have deepening : Deepening reports := by decide +kernel
  exact ⟨by decide +kernel, deepening,
    ((searchRecord_snapshots_show_reports fen 1 reports).2.2.2.1 deepening).1⟩

/-- Two reports for one line, the second shallower: the search answers with the shallower
snapshot, not the deepest one it published. -/
theorem searchRecord_latest_shallower :
    let record := searchRecord "rnbqkbnr/pppppppp/8/8/8/8/PPPPPPPP/RNBQKBNR w KQkq - 0 1" 1
      [{ depth := some 10, rank := some 1, score := some { cp := some 30 }, pv := some ["e2e4"] },
       { depth := some 5, rank := some 1, score := some { cp := some 20 }, pv := some ["d2d4"] }]
    record.snapshots.map (·.depth) = [10, 5] ∧ record.latest.map (·.depth) = some 5 := by
  decide +kernel

end Engine
end Tactician
