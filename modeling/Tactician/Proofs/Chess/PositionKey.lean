import Mathlib
import Tactician.Analysis.Extract

/-!
# The position key keeps the side to move

Deduplication identifies a position by the first four words of its FEN text.  The words of a
text are its maximal runs of non-blank characters, so a text made of blank-free fields joined by
spaces has those fields as its words.  A rendered FEN starts with the piece placement, written
with piece letters, run digits and slashes, none of them blank, and then the side to move; so the
key of a rendered position still names its side to move, and two positions with one key have one
side to move.
-/

namespace Tactician

namespace Text

/-- The runs found later are put in front of the runs already found. -/
theorem words_go_acc (cs cur : List Char) (acc : List String) :
    words.go cs cur acc = words.go cs cur [] ++ acc := by
  induction cs generalizing cur acc with
  | nil =>
      simp only [words.go]
      split <;> simp
  | cons c rest ih =>
      simp only [words.go]
      split
      · split
        · rw [ih [] acc, ih [] []]
        · rw [ih [] (_ :: acc), ih [] [_]]
          simp
      · exact ih (c :: cur) acc

/-- Reading blank-free characters only extends the current run. -/
theorem words_go_solid {cs : List Char} (solid : ∀ c ∈ cs, isBlank c = false)
    (rest cur : List Char) (acc : List String) :
    words.go (cs ++ rest) cur acc = words.go rest (cs.reverse ++ cur) acc := by
  induction cs generalizing cur with
  | nil => rfl
  | cons c cs ih =>
      have blank_free := solid c List.mem_cons_self
      rw [List.cons_append, words.go, if_neg (by simp [blank_free]),
        ih (fun d mem => solid d (List.mem_cons_of_mem c mem))]
      simp

/-- A nonempty blank-free text followed by a space starts the words. -/
theorem words_append_space {s : String} (solid : ∀ c ∈ s.toList, isBlank c = false)
    (nonempty : s ≠ "") (t : String) : words (s ++ " " ++ t) = s :: words t := by
  have chars : (s ++ " " ++ t).toList = s.toList ++ ' ' :: t.toList := by simp
  have run : s.toList.reverse.isEmpty = false := by simpa using nonempty
  unfold words
  rw [chars, words_go_solid solid, List.append_nil, words.go, if_pos (by decide), run,
    words_go_acc]
  simp

/-- A nonempty blank-free text is its only word. -/
theorem words_solid {s : String} (solid : ∀ c ∈ s.toList, isBlank c = false)
    (nonempty : s ≠ "") : words s = [s] := by
  have run : s.toList.reverse.isEmpty = false := by simpa using nonempty
  unfold words
  rw [← List.append_nil s.toList, words_go_solid solid, List.append_nil, words.go, run]
  simp

/-- Fields joined by spaces: a blank-free first field is the first word. -/
theorem words_intercalate_cons {s : String} (solid : ∀ c ∈ s.toList, isBlank c = false)
    (nonempty : s ≠ "") (rest : List String) :
    ∃ more, words (String.intercalate " " (s :: rest)) = s :: more := by
  rcases rest with _ | ⟨t, rest⟩
  · exact ⟨[], by rw [String.intercalate_singleton, words_solid solid nonempty]⟩
  · exact ⟨_, by rw [String.intercalate_cons_cons, words_append_space solid nonempty]⟩

/-- Joining blank-free texts with a blank-free separator gives a blank-free text. -/
theorem intercalate_solid {sep : String} (sep_solid : ∀ c ∈ sep.toList, isBlank c = false) :
    ∀ {ss : List String}, (∀ s ∈ ss, ∀ c ∈ s.toList, isBlank c = false) →
      ∀ c ∈ (String.intercalate sep ss).toList, isBlank c = false
  | [], _ => by simp
  | [s], solid => by
    rw [String.intercalate_singleton]
    exact solid s List.mem_cons_self
  | s :: t :: rest, solid => by
    have rest_solid := @intercalate_solid sep sep_solid (t :: rest)
      fun u mem => solid u (List.mem_cons_of_mem s mem)
    intro c mem
    simp only [String.intercalate_cons_cons, String.toList_append, List.mem_append] at mem
    rcases mem with (first | separator) | later
    · exact solid s List.mem_cons_self c first
    · exact sep_solid c separator
    · exact rest_solid c later

end Text

namespace Chess

open Text

/-- A run digit, from one to eight, is not blank. -/
theorem isBlank_runDigit {run : Nat} (positive : 0 < run) (le : run ≤ 8) :
    isBlank (Char.ofNat ('0'.toNat + run)) = false := by
  have code : (Char.ofNat ('0'.toNat + run)).toNat = 48 + run := by
    rw [Char.toNat_ofNat, if_pos (by simp [Nat.isValidChar]; omega)]
    rfl
  simp only [isBlank, code]
  simp only [Bool.or_eq_false_iff, Bool.and_eq_false_iff, decide_eq_false_iff_not,
    beq_eq_false_iff_ne]
  omega

theorem Piece.isBlank_symbol (pc : Piece) : isBlank pc.symbol = false := by
  obtain ⟨color, role⟩ := pc
  cases color <;> cases role <;> decide

/-- A rank written with at most eight cells, `run` of them empty and pending, is blank-free. -/
theorem Position.placementFen_go_solid :
    ∀ (cells : List (Option Piece)) (run : Nat), run + cells.length ≤ 8 →
      ∀ c ∈ Position.placementFen.go cells run, isBlank c = false
  | [], run, fits => by
    intro c mem
    simp only [Position.placementFen.go] at mem
    split at mem
    · cases mem
    · rename_i pending
      rw [List.mem_singleton] at mem
      subst mem
      simp only [List.length_nil, Nat.add_zero] at fits
      exact isBlank_runDigit (Nat.pos_of_ne_zero (by simpa using pending)) fits
  | none :: rest, run, fits => by
    simp only [Position.placementFen.go]
    exact Position.placementFen_go_solid rest (run + 1) (by simp at fits; omega)
  | some pc :: rest, run, fits => by
    intro c mem
    simp only [Position.placementFen.go, List.mem_append, List.mem_cons] at mem
    rcases mem with digit | rfl | later
    · split at digit
      · cases digit
      · rename_i pending
        rw [List.mem_singleton] at digit
        subst digit
        simp only [List.length_cons] at fits
        exact isBlank_runDigit (Nat.pos_of_ne_zero (by simpa using pending)) (by omega)
    · exact Piece.isBlank_symbol pc
    · exact Position.placementFen_go_solid rest 0 (by simp at fits; omega) c later

theorem Position.placementFen_solid (p : Position) :
    ∀ c ∈ p.placementFen.toList, isBlank c = false := by
  refine intercalate_solid (by simp [isBlank]) fun s mem => ?_
  obtain ⟨r, -, rfl⟩ := List.mem_map.mp mem
  simp only [Position.placementFen.rankText, String.toList_ofList]
  exact Position.placementFen_go_solid _ 0 (by simp)

theorem Position.placementFen_ne_empty (p : Position) : p.placementFen ≠ "" := by
  have slash : '/' ∈ p.placementFen.toList := by
    simp [Position.placementFen, List.range_succ]
  intro empty
  rw [empty] at slash
  cases slash

end Chess

namespace Analysis

open Chess Text

/-- A rendered FEN text starts with its placement and its side to move. -/
theorem words_fen (p : Position) :
    ∃ more, words p.fen = p.placementFen :: (if p.turn = .white then "w" else "b") :: more := by
  unfold Position.fen
  rw [String.intercalate_cons_cons, words_append_space p.placementFen_solid
    p.placementFen_ne_empty, String.intercalate_cons_cons]
  cases p.turn
  · exact ⟨_, congrArg (p.placementFen :: ·) (words_append_space (by simp [isBlank]) (by simp) _)⟩
  · exact ⟨_, congrArg (p.placementFen :: ·) (words_append_space (by simp [isBlank]) (by simp) _)⟩

/-- The key of a rendered position keeps the placement and the side to move as its first two
words. -/
theorem words_positionKey_fen (p : Position) :
    ∃ more, words (positionKey p.fen) =
      p.placementFen :: (if p.turn = .white then "w" else "b") :: more := by
  have turn_solid : ∀ c ∈ (if p.turn = .white then "w" else "b").toList, isBlank c = false := by
    split <;> simp [isBlank]
  have turn_ne : (if p.turn = .white then "w" else "b") ≠ "" := by
    split <;> simp
  obtain ⟨more, fields⟩ := words_fen p
  unfold positionKey
  rw [fields, List.take_succ_cons, List.take_succ_cons, String.intercalate_cons_cons,
    words_append_space p.placementFen_solid p.placementFen_ne_empty]
  obtain ⟨more', first⟩ := words_intercalate_cons turn_solid turn_ne (more.take 2)
  exact ⟨more', by rw [first]⟩

/-- Two rendered positions with one key have one side to move. -/
theorem turn_eq_of_positionKey_eq {p q : Position} (same : positionKey p.fen = positionKey q.fen) :
    p.turn = q.turn := by
  obtain ⟨p_more, p_words⟩ := words_positionKey_fen p
  obtain ⟨q_more, q_words⟩ := words_positionKey_fen q
  rw [same, q_words] at p_words
  have turns := (List.cons.inj (List.cons.inj p_words).2).1
  cases p_turn : p.turn <;> cases q_turn : q.turn <;> simp [p_turn, q_turn] at turns ⊢

end Analysis

end Tactician
