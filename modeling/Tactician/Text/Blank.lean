/-!
# Blank characters, trimming and words

The blank characters are the Unicode white space: the ASCII tab, line feed, line tabulation, form
feed, carriage return and space, the four information separators `U+001C`–`U+001F`, next line,
no-break space, and the space, line and paragraph separators of the other Unicode blocks.  Trimming
removes blanks at both ends; the words of a text are its maximal runs of non-blank characters.
-/

namespace Tactician
namespace Text

/-- Whether a character is blank (Unicode white space). -/
def isBlank (c : Char) : Bool :=
  let n := c.toNat
  (9 ≤ n && n ≤ 13) || (28 ≤ n && n ≤ 32) || n == 0x85 || n == 0xA0 || n == 0x1680 ||
    (0x2000 ≤ n && n ≤ 0x200A) || n == 0x2028 || n == 0x2029 || n == 0x202F || n == 0x205F ||
    n == 0x3000

theorem isBlank_of_isWhitespace {c : Char} (h : c.isWhitespace = true) : isBlank c = true := by
  simp only [Char.isWhitespace, Bool.or_eq_true, decide_eq_true_eq] at h
  simp only [isBlank, Bool.or_eq_true, Bool.and_eq_true, decide_eq_true_eq, beq_iff_eq]
  rcases h with ((h | h) | h) | h <;> subst h <;> decide

/-- Drop blanks at the start of a character list. -/
def dropBlanks (cs : List Char) : List Char := cs.dropWhile isBlank

/-- Remove the blanks at both ends. -/
def trim (s : String) : String :=
  String.ofList (dropBlanks (dropBlanks s.toList).reverse).reverse

/-- Whether a text holds blanks only (the empty text included). -/
def isAllBlank (s : String) : Bool := s.toList.all isBlank

/-- The maximal runs of non-blank characters, in order. -/
def words (s : String) : List String :=
  (go s.toList [] []).reverse
where
  /-- Collect runs: `cur` is the run being read (reversed), `acc` the runs found (reversed). -/
  go : List Char → List Char → List String → List String
    | [], cur, acc => if cur.isEmpty then acc else String.ofList cur.reverse :: acc
    | c :: rest, cur, acc =>
      if isBlank c then go rest [] (if cur.isEmpty then acc else String.ofList cur.reverse :: acc)
      else go rest (c :: cur) acc

end Text
end Tactician
