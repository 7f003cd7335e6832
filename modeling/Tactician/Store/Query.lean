import Tactician.Store.Basic

/-!
# Finding puzzles

A filter narrows a user's puzzles by framing, bucket, phase and game (each only when given), by
opening, by tags, by whether the puzzle has several solutions, and by the user's record on it.

The opening is matched either by a list of ECO codes (trimmed and upper-cased, blank ones
dropped; a non-empty list decides even when every code was blank) or, without such a list, by a
pattern: the trimmed text may occur anywhere in the code, name or variation, letters compared
without case, `%` standing for any run of characters and `_` for any one.

Pages are cut from the matching puzzles newest first, then by game and ply, insertion order
breaking the remaining ties.
-/

namespace Tactician
namespace Store

open Analysis

/-- The most puzzles on one page. -/
def maxPageSize : Int := 50

/-- The most puzzles drawn at once. -/
def maxDrawCount : Int := 20

/-- What a list of puzzles is narrowed by. -/
structure Filter where
  /-- The framing's tag, or empty for any. -/
  type : String := ""
  /-- The bucket's tag, or empty for any. -/
  kind : String := ""
  /-- The phase's tag, or empty for any. -/
  phase : String := ""
  /-- The game's id, or empty for any. -/
  gameId : String := ""
  /-- A pattern for the opening's code, name or variation. -/
  opening : String := ""
  /-- ECO codes, any of which the opening's code must be. -/
  eco : List String := []
  /-- Tags that must all be present. -/
  tags : List String := []
  /-- `multi` for puzzles with several solutions, `single` for the others. -/
  multiSolution : String := ""
  /-- Only puzzles solved at least once. -/
  solved : Bool := false
  /-- Only puzzles attempted and never solved. -/
  failed : Bool := false
  deriving Inhabited

/-- A letter folded to lower case when it is an ASCII capital. -/
def foldAscii (c : Char) : Char :=
  if 'A' ≤ c && c ≤ 'Z' then Char.ofNat (c.toNat + 32) else c

/-- Whether a text matches a pattern in which `%` stands for any run of characters and `_` for
any one character; ASCII letters match without regard to case. -/
def likeMatch (pattern text : List Char) : Bool :=
  match pattern, text with
  | [], rest => rest.isEmpty
  | '%' :: ps, rest => (List.range (rest.length + 1)).any fun i => likeMatch ps (rest.drop i)
  | _ :: _, [] => false
  | p :: ps, c :: cs => (p == '_' || foldAscii p == foldAscii c) && likeMatch ps cs
termination_by pattern.length

theorem likeMatch_nil_iff (text : List Char) : likeMatch [] text = true ↔ text = [] := by
  simp [likeMatch]

/-- Whether a stored text contains the pattern `%needle%`. -/
def likeContains (needle : String) (stored : Option String) : Bool :=
  match stored with
  | some s => likeMatch ('%' :: needle.toList ++ ['%']) s.toList
  | none => false

/-- The codes an ECO filter compares with: trimmed, upper-cased, blank ones dropped. -/
def ecoCodes (codes : List String) : List String :=
  (codes.filter fun c => !(Text.trim c).isEmpty).map fun c => Text.toUpper (Text.trim c)

/-- The tags a filter asks for: the given non-empty ones, with `multiSolution` added for
`multi`. -/
def Filter.wantedTags (f : Filter) : List String :=
  let given := f.tags.filter (!·.isEmpty)
  if f.multiSolution == "multi" && !given.contains "multiSolution" then given ++ ["multiSolution"]
  else given

/-- Whether a puzzle's opening passes the filter. -/
def Filter.openingOk (f : Filter) (p : Puzzle) : Bool :=
  if !f.eco.isEmpty then
    let codes := ecoCodes f.eco
    codes.isEmpty || (match p.eco with
      | some e => codes.contains e
      | none => false)
  else
    let needle := Text.trim f.opening
    needle.isEmpty ||
      likeContains needle p.eco || likeContains needle p.openingName ||
      likeContains needle p.variation

/-- Whether the user's record on the puzzle passes the filter. -/
def Filter.recordOk (f : Filter) (t : Tables) (p : Puzzle) : Bool :=
  if f.solved && f.failed then t.attempted p
  else if f.solved then t.solved p
  else if f.failed then t.attempted p && !t.solved p
  else true

/-- Whether a puzzle of the user passes the filter. -/
def Filter.admits (f : Filter) (t : Tables) (owner : String) (p : Puzzle) : Bool :=
  p.owner == owner &&
  (f.type.isEmpty || p.type.tag == f.type) &&
  (f.kind.isEmpty || p.kind.tag == f.kind) &&
  (f.phase.isEmpty || p.phase.map GamePhase.tag == some f.phase) &&
  (f.gameId.isEmpty || p.gameId == f.gameId) &&
  f.openingOk p &&
  f.wantedTags.all p.tags.contains &&
  (f.multiSolution != "single" || !p.tags.contains "multiSolution") &&
  f.recordOk t p

/-- The user's puzzles that pass the filter, in insertion order. -/
def Tables.matching (t : Tables) (owner : String) (f : Filter) : List Puzzle :=
  t.puzzles.filter (f.admits t owner)

/-- Newest first, then by game and by ply; insertion order among the rest. -/
def pageOrder (a b : Puzzle) : Bool :=
  b.createdAt < a.createdAt ||
    (a.createdAt == b.createdAt &&
      (a.gameId < b.gameId || (a.gameId == b.gameId && a.sourcePly ≤ b.sourcePly)))

/-- One page of the user's puzzles that pass the filter, with the number that pass.  Pages count
from one and hold between one and fifty puzzles; the number of puzzles skipped is bound to an
integer column, so a page too far out fails. -/
def listPuzzles (owner : String) (page limit : Int) (f : Filter) : Step (Nat × List Puzzle) := do
  let page := max 1 page
  let limit := max 1 (min maxPageSize limit)
  let skipped := (page - 1) * limit
  if (maxInteger : Int) < skipped then throw .integerOverflow
  let all := (← get).matching owner f
  let ordered := all.mergeSort pageOrder
  return (all.length, (ordered.drop skipped.toNat).take limit.toNat)

/-- How a random draw orders what it draws from, as a shuffle would: the failed puzzles, the
others and the whole pool each get an order of their own.  Each order keeps the puzzles it is
given, so it is a permutation; which one is left open. -/
structure DrawOrder where
  /-- The order of the failed puzzles, when they come first. -/
  failed : List Puzzle → List Puzzle
  /-- The order of the other puzzles, when failed ones come first. -/
  others : List Puzzle → List Puzzle
  /-- The order of the whole pool, when no puzzle is preferred. -/
  pool : List Puzzle → List Puzzle
  failed_perm : ∀ ps, (failed ps).Perm ps
  others_perm : ∀ ps, (others ps).Perm ps
  pool_perm : ∀ ps, (pool ps).Perm ps

/-- The draw order that keeps every list in id order. -/
def DrawOrder.byId : DrawOrder :=
  ⟨id, id, id, List.Perm.refl, List.Perm.refl, List.Perm.refl⟩

instance : Inhabited DrawOrder := ⟨.byId⟩

/-- Draw up to `count` (between one and twenty) of the user's puzzles that pass the filter,
leaving out excluded ids, in the given order.  When failed ones are preferred they come first,
each group in an order of its own; otherwise the whole pool is put in one order. -/
def drawPuzzles (order : DrawOrder) (owner : String) (count : Int) (exclude : List String)
    (preferFailed : Bool) (f : Filter) : Step (List Puzzle) := do
  let count := max 1 (min maxDrawCount count)
  let t ← get
  let pool := ((t.matching owner f).mergeSort fun a b => a.id ≤ b.id).filter
    fun p => !exclude.contains p.id
  let isFailed (p : Puzzle) : Bool := t.attempted p && !t.solved p
  let ordered :=
    if preferFailed then
      order.failed (pool.filter isFailed) ++ order.others (pool.filter (!isFailed ·))
    else order.pool pool
  return ordered.take count.toNat

end Store
end Tactician
