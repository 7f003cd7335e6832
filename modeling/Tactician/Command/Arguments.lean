import Tactician.Data.Value
import Tactician.Text.Quoted
import Tactician.Text.Numeral

/-!
# Command-line arguments

A command line is read against a parser: options (`-h`, `--name VALUE`, flags, repeatable
options) and positional arguments, and, at the top, a choice of command whose own parser reads
everything after the command's name.

Reading goes left to right.  Every word is first sorted: a known option, possibly abbreviated to
an unambiguous prefix and possibly carrying its value after `=`; a negative number, a word with a
space, or one not starting with `-`, which are positional; or an unknown option.  A word after
the first `--` is positional.  An option's value is the next positional word.  Values are read
and checked against the allowed choices as they are met, so the first faulty word decides the
error.  Unknown options and surplus positional words are collected and refused at the end, by
the top parser, after the command's parser has finished.

Help and usage texts follow the layout of the common command-line conventions: a usage line
wrapped at the width with continuation lines aligned after the program name, an optional
description, then positional arguments and options, each with its help starting in a common
column.
-/

namespace Tactician
namespace Command

/-- What an option does when given. -/
inductive OptionAction where
  /-- Show the help and stop. -/
  | help
  /-- Set a flag. -/
  | flag
  /-- Keep one value, the last one given. -/
  | store
  /-- Collect every value given. -/
  | append
  deriving DecidableEq, Repr

/-- How a value is read. -/
inductive Reading where
  /-- As text. -/
  | text
  /-- As an integer numeral. -/
  | integer
  deriving DecidableEq, Repr

/-- An option. -/
structure Opt where
  /-- Its spellings, such as `-h` and `--help`. -/
  flags : List String
  /-- The name its value is kept under. -/
  dest : String
  /-- What it does. -/
  action : OptionAction := .store
  /-- How its value is read. -/
  reading : Reading := .text
  /-- The values allowed; empty for any. -/
  choices : List String := []
  /-- Whether it must be given. -/
  required : Bool := false
  /-- Its value when not given. -/
  default : Value := .null
  /-- Its help text. -/
  help : String := ""

/-- A positional argument. -/
structure Positional where
  /-- The name its value is kept under, also shown in usage. -/
  name : String
  /-- Its help text. -/
  help : String := ""
  deriving Repr

/-- An argument of a parser. -/
inductive Argument where
  /-- An option. -/
  | option (o : Opt)
  /-- A positional argument. -/
  | positional (p : Positional)

/-- A parser: the program name shown, a description and the arguments in the order declared. -/
structure Parser where
  /-- The program name shown in usage and errors. -/
  prog : String
  /-- The description shown in help. -/
  description : Option String := none
  /-- The arguments, in the order declared. -/
  arguments : List Argument

/-- A subcommand of a program. -/
structure Subcommand where
  /-- Its name. -/
  name : String
  /-- Its help in the program's help. -/
  help : String
  /-- Its parser. -/
  parser : Parser

/-- A program with commands. -/
structure Program where
  /-- The parser of the words before the command. -/
  top : Parser
  /-- The name the chosen command is kept under. -/
  dest : String
  /-- The commands. -/
  commands : List Subcommand

/-- The standard help option. -/
def helpOption : Opt :=
  { flags := ["-h", "--help"], dest := "help", action := .help,
    help := "show this help message and exit" }

namespace Opt

/-- The placeholder of its value: the choices in braces, else the name in capitals. -/
def metavar (o : Opt) : String :=
  if o.choices.isEmpty then o.dest.toUpper
  else "\x7b" ++ String.intercalate "," o.choices ++ "\x7d"

/-- Its name in error messages: its spellings joined by `/`. -/
def name (o : Opt) : String := String.intercalate "/" o.flags

/-- Whether it takes a value. -/
def takesValue (o : Opt) : Bool := o.action == .store || o.action == .append

/-- Its words in a usage line: `[-h]`, `[--db DB]`, or `--user USER` when required. -/
def usageParts (o : Opt) : List String :=
  let first := o.flags.headD ""
  let core := if o.takesValue then [first, o.metavar] else [first]
  if o.required then core else ["[" ++ String.intercalate " " core ++ "]"]

/-- Its entry in a help listing: `-h, --help` or `--db DB`. -/
def invocation (o : Opt) : String :=
  if o.takesValue then String.intercalate ", " (o.flags.map (· ++ " " ++ o.metavar))
  else String.intercalate ", " o.flags

end Opt

namespace Parser

/-- The options, in order. -/
def options (p : Parser) : List Opt :=
  p.arguments.filterMap fun
    | .option o => some o
    | .positional _ => none

/-- The positional arguments, in order. -/
def positionals (p : Parser) : List Positional :=
  p.arguments.filterMap fun
    | .option _ => none
    | .positional q => some q

/-- Every spelling of every option with its option, in order. -/
def spellings (p : Parser) : List (String × Opt) :=
  p.options.flatMap fun o => o.flags.map fun f => (f, o)

end Parser

/-- How a word is sorted. -/
inductive Slot where
  /-- A positional word. -/
  | positional
  /-- A known option, as spelled, with the value given after `=` or joined to a short option. -/
  | known (o : Opt) (spelled : String) (explicit : Option String)
  /-- An option this parser does not know. -/
  | unknown
  /-- The first `--`, after which every word is positional. -/
  | separator

/-- Whether a word looks like a negative number: `-` and digits, or `-`, digits, a point and
digits. -/
def looksNegative (w : String) : Bool :=
  match w.toList with
  | '-' :: rest =>
    let (whole, after) := (rest.takeWhile Char.isDigit, rest.dropWhile Char.isDigit)
    match after with
    | [] => !whole.isEmpty
    | '.' :: frac => !frac.isEmpty && frac.all Char.isDigit
    | _ => false
  | _ => false

/-- The part of a word before its first `=`, and the part after it. -/
def splitAtEquals (w : String) : String × Option String :=
  match w.splitOn "=" with
  | first :: rest@(_ :: _) => (first, some (String.intercalate "=" rest))
  | _ => (w, none)

/-- Sort one word for a parser; an abbreviation matching several options is an error. -/
def classify (p : Parser) (w : String) : Except String Slot :=
  let sp := p.spellings
  if w.isEmpty || !w.startsWith "-" then .ok .positional
  else match sp.find? (·.1 == w) with
  | some (f, o) => .ok (.known o f none)
  | none =>
    if w.length == 1 then .ok .positional
    else
      let (before, after) := splitAtEquals w
      match (if after.isSome then sp.find? (·.1 == before) else none) with
      | some (f, o) => .ok (.known o f after)
      | none =>
        let candidates : List (String × Opt × Option String) :=
          if w.startsWith "--" then
            (sp.filter (·.1.startsWith before)).map fun (f, o) => (f, o, after)
          else
            let short := String.ofList (w.toList.take 2)
            let tail := String.ofList (w.toList.drop 2)
            sp.filterMap fun (f, o) =>
              if f == short then some (f, o, some tail)
              else if f.startsWith w then some (f, o, none)
              else none
        match candidates with
        | [(f, o, e)] => .ok (.known o f e)
        | _ :: _ :: _ =>
          .error ("ambiguous option: " ++ w ++ " could match " ++
            String.intercalate ", " (candidates.map (·.1)))
        | [] =>
          if looksNegative w then .ok .positional
          else if w.contains ' ' then .ok .positional
          else .ok .unknown

/-- Sort every word; words after the first `--` are positional. -/
def classifyAll (p : Parser) : List String → Except String (List (String × Slot))
  | [] => .ok []
  | w :: rest =>
    if w == "--" then .ok ((w, .separator) :: rest.map (·, .positional))
    else do
      let s ← classify p w
      let more ← classifyAll p rest
      return (w, s) :: more

/-- Why reading stopped early. -/
inductive Stop where
  /-- Help was asked for, by the parser with this program name. -/
  | help (prog : String)
  /-- A word is wrong; the message, reported by the parser with this program name. -/
  | error (prog : String) (message : String)
  deriving Repr

/-- Values read so far, by name. -/
abbrev Values := List (String × Value)

/-- Set a value, replacing an earlier one of the same name. -/
def Values.put (vs : Values) (k : String) (v : Value) : Values :=
  if vs.any (·.1 == k) then vs.map fun kv => if kv.1 == k then (k, v) else kv else vs ++ [(k, v)]

/-- The value of a name, or null. -/
def Values.get (vs : Values) (k : String) : Value := ((vs.find? (·.1 == k)).map (·.2)).getD .null

/-- Read an option's value: as an integer when asked, then checked against its choices. -/
def readValue (prog : String) (o : Opt) (w : String) : Except Stop Value :=
  let fail (m : String) : Except Stop Value := .error (.error prog ("argument " ++ o.name ++ ": " ++ m))
  let v : Except Stop Value := match o.reading with
    | .text => .ok (.str w)
    | .integer => match Text.parseInt? w with
      | some i => .ok (.int i)
      | none => fail ("invalid int value: " ++ Text.quote w)
  match v with
  | .ok (.str s) =>
    if !o.choices.isEmpty && !o.choices.contains s then
      fail ("invalid choice: " ++ Text.quote s ++ " (choose from " ++
        String.intercalate ", " (o.choices.map Text.quote) ++ ")")
    else .ok (.str s)
  | other => other

/-- What a parser has read: values, names of the arguments seen, positionals still wanted and
words it could not place. -/
structure Reading' where
  /-- Values by name. -/
  values : Values := []
  /-- Names of the arguments given. -/
  seen : List String := []
  /-- Positionals still to fill. -/
  wanted : List Positional
  /-- Words not placed. -/
  extras : List String := []

/-- Keep an option's value word, read and checked. -/
def storeValue (prog : String) (o : Opt) (w : String) (st : Reading') : Except Stop Reading' := do
  let v ← readValue prog o w
  let v' := if o.action == .append then
      match st.values.get o.dest with
      | .arr xs => .arr (xs ++ [v])
      | _ => .arr [v]
    else v
  return { st with values := st.values.put o.dest v', seen := o.dest :: st.seen }

/-- Read sorted words left to right.  With `atCommand`, reading stops at the first positional
word not taken as a value, which is returned with every word after it. -/
def readWords (prog : String) (atCommand : Bool) :
    List (String × Slot) → Reading' → Except Stop (Reading' × List String)
  | [], st => .ok (st, [])
  | (w, .positional) :: rest, st =>
    if atCommand then .ok (st, w :: rest.map (·.1))
    else match st.wanted with
    | q :: qs =>
      readWords prog atCommand rest
        { st with values := st.values.put q.name (.str w), seen := q.name :: st.seen, wanted := qs }
    | [] => readWords prog atCommand rest { st with extras := st.extras ++ [w] }
  | (w, .separator) :: rest, st =>
    if atCommand then
      match rest with
      | [] => .ok ({ st with extras := st.extras ++ [w] }, [])
      | _ => .ok (st, w :: rest.map (·.1))
    else readWords prog atCommand rest st
  | (w, .unknown) :: rest, st => readWords prog atCommand rest { st with extras := st.extras ++ [w] }
  | (_, .known o _ explicit) :: rest, st =>
    let ignored (e : String) : Except Stop (Reading' × List String) :=
      .error (.error prog ("argument " ++ o.name ++ ": ignored explicit argument " ++ Text.quote e))
    match o.action, explicit with
    | .help, some e => ignored e
    | .help, none => .error (.help prog)
    | .flag, some e => ignored e
    | .flag, none =>
      readWords prog atCommand rest
        { st with values := st.values.put o.dest (.bool true), seen := o.dest :: st.seen }
    | _, some e => do readWords prog atCommand rest (← storeValue prog o e st)
    | _, none =>
      match rest with
      | (w, .positional) :: more => do readWords prog atCommand more (← storeValue prog o w st)
      | _ => .error (.error prog ("argument " ++ o.name ++ ": expected one argument"))
termination_by ws _ => ws.length

namespace Parser

/-- The names of the required arguments not given, in declaration order. -/
def missing (p : Parser) (seen : List String) : List String :=
  p.arguments.filterMap fun
    | .option o => if o.required && !seen.contains o.dest then some o.name else none
    | .positional q => if seen.contains q.name then none else some q.name

/-- The values read, completed with the defaults of the options not given. -/
def withDefaults (p : Parser) (vs : Values) : Values :=
  p.options.foldl (fun acc o =>
    if o.action == .help || acc.any (·.1 == o.dest) then acc
    else acc.put o.dest (if o.action == .flag then .bool false else o.default)) vs

/-- Check that every required argument was given. -/
def checkRequired (p : Parser) (seen : List String) : Except Stop Unit :=
  match p.missing seen with
  | [] => .ok ()
  | names => .error (.error p.prog
      ("the following arguments are required: " ++ String.intercalate ", " names))

/-- Read a parser's words: the values and the words it could not place. -/
def read (p : Parser) (words : List String) : Except Stop (Values × List String) := do
  let sorted ← (classifyAll p words).mapError (Stop.error p.prog)
  let (st, _) ← readWords p.prog false sorted { wanted := p.positionals }
  p.checkRequired st.seen
  return (p.withDefaults st.values, st.extras)

end Parser

/-- Refuse words no parser could place. -/
def refuseExtras (prog : String) (extras : List String) : Except Stop Unit :=
  if extras.isEmpty then .ok ()
  else .error (.error prog ("unrecognized arguments: " ++ String.intercalate " " extras))

namespace Program

/-- Read a command line: the command chosen, if any, and the values of the program's and the
command's arguments. -/
def read (pr : Program) (words : List String) : Except Stop (Option String × Values) := do
  let top := pr.top
  let sorted ← (classifyAll top words).mapError (Stop.error top.prog)
  let (st, rest) ← readWords top.prog true sorted { wanted := [] }
  match rest with
  | [] =>
    top.checkRequired st.seen
    refuseExtras top.prog st.extras
    return (none, top.withDefaults st.values)
  | name :: more =>
    match pr.commands.find? (·.name == name) with
    | none =>
      throw (.error top.prog ("argument " ++ pr.dest ++ ": invalid choice: " ++ Text.quote name ++
        " (choose from " ++ String.intercalate ", " (pr.commands.map (Text.quote ·.name)) ++ ")"))
    | some c =>
      let (values, extras) ← c.parser.read more
      top.checkRequired st.seen
      refuseExtras top.prog (st.extras ++ extras)
      return (some name, values.foldl (fun acc (k, v) => acc.put k v) (top.withDefaults st.values))

end Program

/-- Lines of at most `width` characters holding the words in order, a longer word alone. -/
def wrapWords (words : List String) (width : Nat) : List String :=
  match words with
  | [] => []
  | w :: ws =>
    let (lines, current) := ws.foldl (fun (acc : List String × String) x =>
      if acc.2.length + 1 + x.length ≤ width then (acc.1, acc.2 ++ " " ++ x)
      else (acc.1 ++ [acc.2], x)) ([], w)
    lines ++ [current]

/-- Break usage words into lines: a line is closed when the next word would pass `width`, and
every line starts with `indent`; the first line's words are counted from `start`. -/
def usageLines (parts : List String) (indent : String) (start : Nat) (width : Nat) :
    List (List String) :=
  let (lines, line, _) := parts.foldl (fun (acc : List (List String) × List String × Nat) part =>
    let (lines, line, len) := acc
    if len + 1 + part.length > width && !line.isEmpty then
      (lines ++ [line], [part], indent.length - 1 + part.length + 1)
    else (lines, line ++ [part], len + part.length + 1)) ([], [], start)
  if line.isEmpty then lines else lines ++ [line]

/-- The usage text of a program name with its option and positional words, wrapped at `width`:
on one line when it fits; else continuation lines aligned after the program name when that name
is short, or the name alone on the first line. -/
def usageText (prog : String) (optParts posParts : List String) (width : Nat) : String :=
  let pre := "usage: "
  let whole := String.intercalate " " (prog :: optParts ++ posParts)
  if pre.length + whole.length ≤ width then pre ++ whole
  else
    let join (indent : String) (ls : List (List String)) : List String :=
      ls.map fun l => indent ++ String.intercalate " " l
    let lines : List String :=
      if 4 * (pre.length + prog.length) ≤ 3 * width then
        let indent := String.ofList (List.replicate (pre.length + prog.length + 1) ' ')
        let firstAndRest (parts : List String) : List String :=
          match usageLines (prog :: parts) indent (pre.length - 1) width with
          | first :: more => String.intercalate " " first :: join indent more
          | [] => []
        if !optParts.isEmpty then
          firstAndRest optParts ++ join indent (usageLines posParts indent (indent.length - 1) width)
        else if !posParts.isEmpty then firstAndRest posParts
        else [prog]
      else
        let indent := String.ofList (List.replicate pre.length ' ')
        let all := usageLines (optParts ++ posParts) indent (indent.length - 1) width
        let body := if all.length > 1 then
            join indent (usageLines optParts indent (indent.length - 1) width) ++
              join indent (usageLines posParts indent (indent.length - 1) width)
          else join indent all
        prog :: body
    pre ++ String.intercalate "\n" lines

/-- An entry of a help listing: what is typed, its help, and the entries under it. -/
structure HelpEntry where
  /-- What is typed. -/
  invocation : String
  /-- Its help, if any. -/
  help : Option String
  /-- Entries listed under it, one step further in. -/
  children : List (String × String) := []

/-- The lines of one entry at `indent`, its help starting at column `column`. -/
def entryLines (indent column helpWidth : Nat) (invocation : String) (help : Option String) :
    List String :=
  let pad := String.ofList (List.replicate indent ' ')
  match help with
  | none => [pad ++ invocation]
  | some h =>
    let width := column - indent - 2
    let helpLines := wrapWords (Text.words h) helpWidth
    if helpLines.isEmpty then
      [pad ++ invocation ++ String.ofList (List.replicate (width - invocation.length + 2) ' ')]
    else
      let rest := (helpLines.drop 1).map (String.ofList (List.replicate column ' ') ++ ·)
      if invocation.length ≤ width then
        (pad ++ invocation ++ String.ofList (List.replicate (width - invocation.length + 2) ' ') ++
          helpLines.headD "") :: rest
      else
        (pad ++ invocation) :: (String.ofList (List.replicate column ' ') ++ helpLines.headD "") ::
          rest

/-- The help text: usage, description, then the positional and option sections. -/
def helpText (usage : String) (description : Option String) (positionals options : List HelpEntry)
    (width : Nat) : String :=
  let longest := (positionals ++ options).foldl (fun m e =>
    e.children.foldl (fun m' c => max m' (c.1.length + 2)) (max m (e.invocation.length + 2))) 0
  let column := min (longest + 2) (min 24 (max (width - 20) 4))
  let helpWidth := max (width - column) 11
  let block (title : String) (es : List HelpEntry) : List String :=
    if es.isEmpty then []
    else [String.intercalate "\n" (title :: es.flatMap fun e =>
      entryLines 2 column helpWidth e.invocation e.help ++
        e.children.flatMap fun (n, h) => entryLines 4 column helpWidth n (some h))]
  let desc := match description with
    | some d => [String.intercalate "\n" (wrapWords (Text.words d) (max width 11))]
    | none => []
  String.intercalate "\n\n" ([usage] ++ desc ++ block "positional arguments:" positionals ++
    block "options:" options) ++ "\n"

namespace Parser

/-- Its usage words: options, then positionals. -/
def usageParts (p : Parser) : List String × List String :=
  (p.options.flatMap Opt.usageParts, p.positionals.map (·.name))

/-- Its usage text. -/
def usage (p : Parser) (width : Nat) : String :=
  let (o, q) := p.usageParts
  usageText p.prog o q width

/-- Its help text. -/
def help (p : Parser) (width : Nat) : String :=
  helpText (p.usage width) p.description
    (p.positionals.map fun q => { invocation := q.name, help := some q.help })
    (p.options.map fun o => { invocation := o.invocation, help := some o.help }) width

end Parser

namespace Program

/-- The command choice as typed: the names in braces. -/
def choiceText (pr : Program) : String :=
  "\x7b" ++ String.intercalate "," (pr.commands.map (·.name)) ++ "\x7d"

/-- Its usage text. -/
def usage (pr : Program) (width : Nat) : String :=
  let (o, q) := pr.top.usageParts
  usageText pr.top.prog o (q ++ [pr.choiceText, "..."]) width

/-- Its help text. -/
def help (pr : Program) (width : Nat) : String :=
  helpText (pr.usage width) pr.top.description
    ((pr.top.positionals.map fun q => { invocation := q.name, help := some q.help }) ++
      [{ invocation := pr.choiceText, help := none,
         children := pr.commands.map fun c => (c.name, c.help) }])
    (pr.top.options.map fun o => { invocation := o.invocation, help := some o.help }) width

end Program

/-- What reading a command line ends in. -/
inductive Outcome where
  /-- Values were read, for the command chosen if any. -/
  | parsed (command : Option String) (values : Values)
  /-- Help was asked for: the text to show. -/
  | help (text : String)
  /-- The command line is wrong: the usage and the error, to show on the error stream. -/
  | refused (text : String)

/-- Read a command line, turning a stop into the text to show. -/
def Program.outcome (pr : Program) (words : List String) (width : Nat) : Outcome :=
  let usageOf (prog : String) : String :=
    match pr.commands.find? (·.parser.prog == prog) with
    | some c => c.parser.usage width
    | none => pr.usage width
  match pr.read words with
  | .ok (c, vs) => .parsed c vs
  | .error (.help prog) =>
    .help (match pr.commands.find? (·.parser.prog == prog) with
      | some c => c.parser.help width
      | none => pr.help width)
  | .error (.error prog m) => .refused (usageOf prog ++ "\n" ++ prog ++ ": error: " ++ m ++ "\n")

end Command
end Tactician
