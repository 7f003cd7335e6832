import Tactician.Data.Json
import Tactician.Data.Show
import Tactician.Text.Blank
import Tactician.Text.Case

/-!
# Opening books

An opening book is an ordered list of entries, each an ECO code, a name, an optional variation
and a sequence of moves in algebraic notation.  The book hangs its entries in a tree of moves:
a node maps each move to the node below it, and keeps the entry that ends there under the key
`_entry`, the first entry hung there staying.  Entries without moves are not hung.  A game's
opening is found by walking the tree down the game's first sixteen moves, as long as a node has
the next move, and taking the entry kept at the deepest node reached that keeps one.  The name of
an ECO code is that of the first entry with the code.

The entry key shares the nodes with the moves, so a move spelled `_entry` reaches the slot of an
entry where a node is expected, and an entry hung below such a move puts a node where an entry is
expected; each is a fault (`BookFault`).

A book made in the program has texts for its fields.  A book read from a file keeps whatever
values the file gives (`BookOf Value`): its moves are keys of the tree, compared as a dictionary
compares its keys, where a list or a record cannot be a key at all, and its codes are the keys of
the names (`BookValue`).  Reading a book file builds the book, so the faults of building it are
faults of reading it.

Attribution trusts the game's own `ECO`, `Opening` and `Variation` tags when any of them has a
value other than blank or `?`; a code without a name then takes its name from the book.
-/

namespace Tactician
namespace Openings

/-- One entry of a book, made of values of type `α`. -/
structure EntryOf (α : Type) where
  /-- The ECO code. -/
  eco : α
  /-- The opening's name. -/
  name : α
  /-- The variation, if any. -/
  variation : Option α
  /-- The moves in algebraic notation. -/
  moves : List α
  deriving DecidableEq, Repr, Inhabited

/-- One entry of a book made of texts. -/
abbrev Entry := EntryOf String

/-- An entry with each of its values mapped. -/
def EntryOf.map {α β : Type} (f : α → β) (e : EntryOf α) : EntryOf β :=
  ⟨f e.eco, f e.name, e.variation.map f, e.moves.map f⟩

/-- Where an attribution comes from. -/
inductive Source where
  /-- The game's tags. -/
  | tags
  /-- The book. -/
  | guess
  /-- Nowhere. -/
  | unknown
  deriving DecidableEq, Repr, Inhabited

/-- The text of a source. -/
def Source.tag : Source → String
  | .tags => "pgn"
  | .guess => "guess"
  | .unknown => "unknown"

/-- The source named by a text. -/
def Source.ofTag? : String → Option Source
  | "pgn" => some .tags
  | "guess" => some .guess
  | "unknown" => some .unknown
  | _ => none

/-- The opening attributed to a game, made of values of type `α`. -/
structure InfoOf (α : Type) where
  /-- The ECO code. -/
  eco : Option α := none
  /-- The name. -/
  name : Option α := none
  /-- The variation. -/
  variation : Option α := none
  /-- Where it comes from. -/
  source : Source := .unknown
  deriving DecidableEq, Repr, Inhabited

/-- The opening attributed to a game by a book made of texts. -/
abbrev Info := InfoOf String

/-- How many of a game's first moves take part in matching. -/
def maxBookPlies : Nat := 16

/-- An ordered book made of values of type `α`. -/
abbrev BookOf (α : Type) := List (EntryOf α)

/-- An ordered book made of texts. -/
abbrev Book := BookOf String

/-- The book used when no other is given. -/
def defaultBook : Book :=
  [⟨"C20", "King's Pawn Game", none, ["e4", "e5"]⟩,
   ⟨"C40", "King's Knight Opening", none, ["e4", "e5", "Nf3"]⟩,
   ⟨"C50", "Italian Game", none, ["e4", "e5", "Nf3", "Nc6", "Bc4"]⟩,
   ⟨"C54", "Italian Game", some "Giuoco Piano", ["e4", "e5", "Nf3", "Nc6", "Bc4", "Bc5"]⟩,
   ⟨"C60", "Ruy Lopez", none, ["e4", "e5", "Nf3", "Nc6", "Bb5"]⟩,
   ⟨"C70", "Ruy Lopez", some "Morphy Defense", ["e4", "e5", "Nf3", "Nc6", "Bb5", "a6"]⟩,
   ⟨"B20", "Sicilian Defense", none, ["e4", "c5"]⟩,
   ⟨"C00", "French Defense", none, ["e4", "e6"]⟩,
   ⟨"B10", "Caro-Kann Defense", none, ["e4", "c6"]⟩,
   ⟨"B01", "Scandinavian Defense", none, ["e4", "d5"]⟩,
   ⟨"D00", "Queen's Pawn Game", none, ["d4", "d5"]⟩,
   ⟨"D06", "Queen's Gambit", none, ["d4", "d5", "c4"]⟩,
   ⟨"A40", "Queen's Pawn Game", some "English Defense", ["d4", "b6"]⟩,
   ⟨"E60", "King's Indian Defense", none, ["d4", "Nf6", "c4", "g6"]⟩,
   ⟨"E20", "Nimzo-Indian Defense", none, ["d4", "Nf6", "c4", "e6", "Nc3", "Bb4"]⟩,
   ⟨"A10", "English Opening", none, ["c4"]⟩]

/-- The key under which a node keeps the entry that ends there. -/
def entryKey : String := "_entry"

/-- A step of building or walking a book that met a value of the wrong kind. -/
inductive BookFault where
  /-- A move spelled like the entry key led to an entry, which was asked for a node's method. -/
  | entryAsNode (method : String)
  /-- The match settled on a node kept under the entry key, which was read as an entry. -/
  | nodeAsEntry
  /-- A value that cannot be a key of a dictionary (a list or a record) was used as one: the name
  of its type. -/
  | unhashable (typeName : String)
  deriving DecidableEq, Repr

/-- The text of the fault. -/
def BookFault.message : BookFault → String
  | .entryAsNode m => "'BookEntry' object has no attribute '" ++ m ++ "'"
  | .nodeAsEntry => "'dict' object has no attribute 'eco'"
  | .unhashable t => "unhashable type: '" ++ t ++ "'"

/-- What a book asks of the values it is made of: the value of a text (a game's move, a tag's
value), the fault of using a value as a key of a dictionary if it cannot be one, and when two
values are the same key. -/
class BookValue (α : Type) where
  /-- The value of a text. -/
  ofText : String → α
  /-- Why the value cannot be a key, if it cannot. -/
  keyFault? : α → Option BookFault
  /-- Whether two values are the same key. -/
  sameKey : α → α → Bool

instance : BookValue String where
  ofText s := s
  keyFault? _ := none
  sameKey a b := a == b

end Openings

namespace Value

/-- Whether an integer equals a double: the double is finite, whole and of the integer's value. -/
def intEqFloat (i : Int) (f : Float) : Bool :=
  Number.truncate f == some i && Number.ofInt i == f

/-- A number as a dictionary compares it, a boolean counting as 0 or 1. -/
def number? : Value → Option (Int ⊕ Float)
  | .bool b => some (.inl (if b then 1 else 0))
  | .int i => some (.inl i)
  | .float f => some (.inr f)
  | _ => none

/-- Whether two values are the same key of a dictionary: texts as texts, null as null, and numbers
by value.  A JSON reader gives every NaN as one shared double, which is the same key as itself. -/
def sameKey (a b : Value) : Bool :=
  match a, b with
  | .null, .null => true
  | .str s, .str t => s == t
  | _, _ =>
    match a.number?, b.number? with
    | some (.inl i), some (.inl j) => i == j
    | some (.inl i), some (.inr f) => intEqFloat i f
    | some (.inr f), some (.inl i) => intEqFloat i f
    | some (.inr f), some (.inr g) => f == g || (f != f && g != g)
    | _, _ => false

/-- A list or a record cannot be a key of a dictionary. -/
def keyFault? (v : Value) : Option Openings.BookFault :=
  match v with
  | .arr _ | .obj _ => some (.unhashable v.typeName)
  | _ => none

end Value

namespace Openings

instance : BookValue Value where
  ofText := .str
  keyFault? := Value.keyFault?
  sameKey := Value.sameKey

/-- A value of the move tree: an entry kept under the entry key, or a node. -/
inductive SlotOf (α : Type) where
  /-- An entry. -/
  | entry (e : EntryOf α)
  /-- A node: its keys (moves, and the entry key) with their values, in the order added. -/
  | node (children : List (α × SlotOf α))

/-- A node of the move tree. -/
abbrev NodeOf (α : Type) := List (α × SlotOf α)

/-- A value of the move tree of a book made of texts. -/
abbrev Slot := SlotOf String

/-- A node of the move tree of a book made of texts. -/
abbrev Node := NodeOf String

namespace NodeOf

variable {α : Type} [BookValue α]

/-- The value under a key. -/
def get? (n : NodeOf α) (k : α) : Option (SlotOf α) :=
  (n.find? fun kv => BookValue.sameKey kv.1 k).map (·.2)

/-- Set the value under a key: in its place if the key is there, else as the last key. -/
def put (n : NodeOf α) (k : α) (v : SlotOf α) : NodeOf α :=
  if n.any fun kv => BookValue.sameKey kv.1 k then
    n.map fun kv => if BookValue.sameKey kv.1 k then (k, v) else kv
  else n ++ [(k, v)]

/-- Hang an entry under a path of moves, adding the nodes that are missing; an entry already
kept at the path's end stays.  A move is hashed before it is looked up, and a move that leads to
an entry leaves no node to go on in. -/
def insert (n : NodeOf α) : List α → EntryOf α → Except BookFault (NodeOf α)
  | [], e =>
    let key : α := BookValue.ofText entryKey
    .ok (if (n.get? key).isSome then n else n ++ [(key, .entry e)])
  | san :: rest, e =>
    match BookValue.keyFault? san with
    | some f => .error f
    | none =>
      match n.get? san with
      | some (.entry _) => .error (.entryAsNode "setdefault")
      | some (.node below) => do return n.put san (.node (← NodeOf.insert below rest e))
      | none => do return n.put san (.node (← NodeOf.insert [] rest e))

/-- Walk down the moves as long as a node has the next one: the value kept under the entry key at
the deepest node reached that keeps one, else `best`.  A move that leads to an entry is a
fault. -/
def walk (n : NodeOf α) : List String → Option (SlotOf α) → Except BookFault (Option (SlotOf α))
  | [], best => .ok best
  | san :: rest, best =>
    match n.get? (BookValue.ofText san) with
    | none => .ok best
    | some (.entry _) => .error (.entryAsNode "get")
    | some (.node below) =>
      NodeOf.walk below rest ((NodeOf.get? below (BookValue.ofText entryKey)).or best)

end NodeOf

namespace Book

/-- A tag's value, unless blank or `?`. -/
def tagValue (tags : List (String × String)) (k : String) : Option String :=
  let v := Text.trim (((tags.find? (·.1 == k)).map (·.2)).getD "")
  if v.isEmpty || v == "?" then none else some v

end Book

namespace BookOf

variable {α : Type} [BookValue α]

/-- The move tree of a book: its entries with moves, hung in book order. -/
def tree? (b : BookOf α) : Except BookFault (NodeOf α) :=
  b.foldlM (fun n e => if e.moves.isEmpty then .ok n else n.insert e.moves e) []

/-- Build a book as the program does: its move tree, then the names of its codes, keyed by the
codes in book order. -/
def build? (b : BookOf α) : Except BookFault (NodeOf α) := do
  let t ← b.tree?
  match b.findSome? fun e => BookValue.keyFault? e.eco with
  | some f => throw f
  | none => return t

/-- What the book's tree keeps for a game's first sixteen moves. -/
def match? (b : BookOf α) (moves : List String) : Except BookFault (Option (SlotOf α)) := do
  (← b.tree?).walk (moves.take maxBookPlies) none

/-- The name of the first entry with an ECO code (trimmed and upper-cased); none for an empty
code. -/
def nameForEco (b : BookOf α) (eco : Option String) : Option α :=
  match eco with
  | none => none
  | some code =>
    if code.isEmpty then none
    else
      let key : α := BookValue.ofText (Text.toUpper (Text.trim code))
      (b.find? fun e => BookValue.sameKey e.eco key).map (·.name)

/-- Attribute an opening to a game from its tags, else from the book's tree. -/
def classify (b : BookOf α) (tags : List (String × String)) (moves : List String) :
    Except BookFault (InfoOf α) := do
  let eco := Book.tagValue tags "ECO"
  let name := Book.tagValue tags "Opening"
  let variation := Book.tagValue tags "Variation"
  if eco.isSome || name.isSome || variation.isSome then
    return { eco := eco.map BookValue.ofText,
             name := (name.map BookValue.ofText).orElse fun _ => b.nameForEco eco,
             variation := variation.map BookValue.ofText, source := .tags }
  match ← b.match? moves with
  | some (.entry e) =>
    return { eco := some e.eco, name := some e.name, variation := e.variation, source := .guess }
  | some (.node _) => throw .nodeAsEntry
  | none => return {}

end BookOf

namespace Book

/-- Read one entry of a book file: a record with the fields `eco`, `name` and `moves`, each of
any value; the moves are the items of a list, the characters of a text or the field names of a
record; a variation that reads as false (null, false, zero, empty) is none. -/
def entryOf? (v : Value) : Option (EntryOf Value) :=
  match v with
  | .obj _ =>
    match v.get? "eco", v.get? "name", v.get? "moves" with
    | some eco, some name, some moves =>
      let variation := (v.get? "variation").filter Value.truthy
      let moveList : Option (List Value) := match moves with
        | .arr xs => some xs
        | .str s => some (s.toList.map fun c => .str (String.singleton c))
        | .obj fs => some (fs.map fun kv => .str kv.1)
        | _ => none
      moveList.map fun ms => ⟨eco, name, variation, ms⟩
    | _, _, _ => none
  | _ => none

/-- Read a book from the text of a book file and build it: the items of a list of entries, or of a
text or a record, whose items are never entries (so only an empty one gives a book, the empty
one).  A missing file, or one that cannot be read as such a book, gives the default book. -/
def ofFileText (text : Option String) : Except BookFault (BookOf Value) := do
  let fallback : BookOf Value := defaultBook.map (·.map .str)
  let b : BookOf Value := match text.bind Json.parse? with
    | some (.arr items) => (items.mapM entryOf?).getD fallback
    | some (.str "") | some (.obj []) => []
    | _ => fallback
  let _ ← b.build?
  return b

end Book

end Openings
end Tactician
