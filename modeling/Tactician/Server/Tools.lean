import Tactician.Server.Response
import Tactician.Store.Record
import Tactician.Engine.Pool
import Tactician.Settings.Preferences
import Tactician.Data.Show

/-!
# Server tools

The tools a client calls by name with named arguments: importing games, identifying openings,
mining puzzles with or without storing them, replacing a game's puzzles, listing, fetching and
drawing puzzles, grading attempts and giving a user's overview.

Tools report the failures of the miner itself as a record `{"error": message}`.  A call with
arguments the tool does not take, or without one it needs, is refused as a whole, and so is a page
number, page size or count that cannot be compared with a number.  The engine is started on the
first tool that needs it; when it cannot be started the tool reports it and the next such tool
tries again.  Settings come from the preference file, with the call's preferences merged over
them.
-/

namespace Tactician
namespace Server

open Analysis

/-- Why a tool call broke off instead of answering. -/
inductive Escape where
  /-- The call's arguments do not fit the tool. -/
  | arguments (message : String)
  /-- A value that cannot be ordered against a number: the comparison and the two type names. -/
  | unordered (comparison left right : String)
  /-- The answer could not be trimmed. -/
  | shape (e : ShapeError)
  /-- A value asked for a method its type does not have: the type's name and the method. -/
  | noMethod (typeName method : String)
  /-- An analysis fault the tools do not handle. -/
  | analysis (f : Analysis.Failure)
  /-- A value the store cannot take, which the tools do not handle. -/
  | store (e : Store.Error)
  /-- The opening book met a value of the wrong kind. -/
  | book (f : Openings.BookFault)

/-- The text of an escape. -/
def Escape.message : Escape → String
  | .arguments m => m
  | .unordered c l r =>
    Text.quote c ++ " not supported between instances of " ++ Text.quote l ++ " and " ++ Text.quote r
  | .noMethod t m => Text.quote t ++ " object has no attribute " ++ Text.quote m
  | .shape e => e.message
  | .analysis f => f.message
  | .store e => e.message
  | .book f => f.message

/-- What the tools share: the store, the engine once started, and the preference file. -/
structure Desk where
  /-- The store. -/
  tables : Store.Tables := {}
  /-- The engine pool, once started. -/
  pool : Option Engine.Pool := none
  /-- The text of the preference file, if there is one. -/
  preferences : Option String := none
  /-- How random draws are ordered. -/
  drawOrder : Store.DrawOrder := .byId
  deriving Inhabited

/-- A tool call, with an engine whose state is `σ`. -/
abbrev ToolM (σ : Type) := ExceptT Escape (StateT Desk (StateM σ))

/-- The answer of a tool that failed. -/
def errorRecord (message : String) : Value := .obj [("error", .str message)]

/-- The named arguments of a call. -/
abbrev Args := List (String × Value)

/-- An argument, if given. -/
def Args.get? (args : Args) (k : String) : Option Value := (args.find? (·.1 == k)).map (·.2)

/-- An argument as text, if given and not null. -/
def Args.text? (args : Args) (k : String) : Option String :=
  (args.get? k).bind fun v => match v with
    | .null => none
    | other => some other.display

/-- An argument as text, empty when absent or not truthy. -/
def Args.filled (args : Args) (k : String) : String :=
  match args.get? k with
  | some v => if v.truthy then v.display else ""
  | none => ""

/-- A list argument's texts, empty when absent. -/
def Args.texts (args : Args) (k : String) : List String :=
  match args.get? k with
  | some (.arr xs) => xs.filterMap Value.str?
  | _ => []

/-- Check a call's arguments against a tool's parameters: an unknown name first, then the
required ones that are missing. -/
def checkArguments (tool : String) (required optional : List String) (args : Args) :
    Except Escape Unit :=
  match args.find? fun (k, _) => !(required.contains k || optional.contains k) with
  | some (k, _) => .error (.arguments (tool ++ "() got an unexpected keyword argument " ++ Text.quote k))
  | none =>
    let missing := required.filter fun k => !(args.any (·.1 == k))
    let quoted := missing.map Text.quote
    let names := match quoted with
      | [a] => a
      | [a, b] => a ++ " and " ++ b
      | _ => String.intercalate ", " quoted.dropLast ++ ", and " ++ quoted.getLastD ""
    match missing.length with
    | 0 => .ok ()
    | 1 => .error (.arguments (tool ++ "() missing 1 required positional argument: " ++ names))
    | n => .error (.arguments (tool ++ "() missing " ++ toString n ++
        " required positional arguments: " ++ names))

/-- A number as it compares with integers: integers and booleans; anything else cannot be
ordered, named by its type. -/
def orderedInt (v : Value) : Except String Int :=
  match v with
  | .int i => .ok i
  | .bool b => .ok (if b then 1 else 0)
  | .float f => .ok ((Number.truncate f).getD 0)
  | other => .error other.typeName

/-- `max low v`, as ordering compares: `v` when it is greater. -/
def atLeast (low : Int) (v : Value) : Except Escape Int :=
  match orderedInt v with
  | .ok i => .ok (max low i)
  | .error t => .error (.unordered ">" t "int")

/-- `min high v`, as ordering compares: `v` when it is smaller. -/
def atMost (high : Int) (v : Value) : Except Escape Int :=
  match orderedInt v with
  | .ok i => .ok (min high i)
  | .error t => .error (.unordered "<" t "int")

/-- Run a store operation. -/
def onStore {σ α : Type} (x : Store.Step α) : ToolM σ (Except Store.Error α) := do
  let d ← get
  let (r, t) := x.run.run d.tables
  set { d with tables := t }
  return r

/-- Run an engine computation on the pool, with the engine's state. -/
def withPool {σ α : Type} (pool : Engine.Pool) (x : Engine.EngineM σ α) : ToolM σ α := do
  let s ← (monadLift (get : StateM σ σ) : ToolM σ σ)
  let (a, (pool', s')) := x.run (pool, s)
  (monadLift (set s' : StateM σ Unit) : ToolM σ Unit)
  modify fun d => { d with pool := some pool' }
  return a

/-- The engine pool, started on first use with two engines. -/
def evaluatorPool {σ : Type} (host : Engine.Host σ) : ToolM σ (Except String Engine.Pool) := do
  match (← get).pool with
  | some p => return .ok p
  | none =>
    match Engine.Pool.start host none 2 4096 with
    | .ok p =>
      modify fun d => { d with pool := some p }
      return .ok p
    | .error f => return .error f.message

/-- The settings for a call: the preference file's, with the call's preferences merged over
them when there are any.  Preferences that are given but are not a record cannot be read. -/
def settingsFor (file : Option String) (preferences : Option Value) :
    Except Escape (Except String Config) :=
  match Config.ofFileText file with
  | .error e => .ok (.error e.message)
  | .ok base =>
    match preferences with
    | some v =>
      if !v.truthy then .ok (.ok base)
      else match v with
        | .obj fs => .ok ((Config.ofPreferences (Settings.merge base.toPreferences fs)).mapError (·.message))
        | other => .error (.noMethod other.typeName "get")
    | none => .ok (.ok base)

/-- Break off on an escape. -/
def liftExcept {σ α : Type} (r : Except Escape α) : ToolM σ α :=
  match r with
  | .ok a => pure a
  | .error e => throw e

/-- Trim a result, or break off. -/
def trimmed {σ : Type} (r : Except ShapeError Value) : ToolM σ Value :=
  match r with
  | .ok v => pure v
  | .error e => throw (.shape e)

/-- Store a game for a user and describe it. -/
def importGameTool {σ : Type} (args : Args) : ToolM σ Value := do
  let user := (args.text? "user_id").getD ""
  let r ← onStore (do
    let id ← Store.importGame user ((args.text? "pgn").getD "") (args.text? "username")
      (args.text? "game_id") (args.text? "provider") Openings.defaultBook
    Store.getGame user id)
  match r with
  | .error e => return errorRecord e.message
  | .ok g =>
    return .obj [("game_id", .str g.id), ("user_color", .ofOptStr g.userColor),
                 ("opening", .obj [("eco", .ofOptStr g.opening.eco), ("name", .ofOptStr g.opening.name)]),
                 ("analyzed", .bool g.analyzedAt.isSome)]

/-- An opening attributed by the book, or the book's fault as an escape. -/
def walked {σ : Type} (r : Except Openings.BookFault Openings.Info) : ToolM σ Openings.Info :=
  match r with
  | .ok info => pure info
  | .error f => throw (.book f)

/-- The opening of a game text, or of a list of moves. -/
def identifyOpeningTool {σ : Type} (args : Args) : ToolM σ Value := do
  match args.get? "pgn" with
  | some (.str pgn) =>
    if !pgn.isEmpty then
      match Pgn.parseGame pgn with
      | .error e => return errorRecord e.message
      | .ok g => return infoValue (← walked (Openings.defaultBook.classify g.tags g.sans))
  | _ => pure ()
  match args.get? "moves" with
  | some (.arr ms) =>
    if !ms.isEmpty then
      let moves := (ms.filterMap Value.str?).filterMap fun m =>
        let t := Text.trim m
        if t.isEmpty then none else some t
      return infoValue (← walked (Openings.defaultBook.classify [] moves))
  | _ => pure ()
  return errorRecord "Provide pgn or moves"

/-- Mine a game text without storing anything. -/
def extractPuzzlesTool {σ : Type} (host : Engine.Host σ) (args : Args) : ToolM σ Value := do
  let side := args.get? "user_color"
  match side with
  | some (.str "white") | some (.str "black") | some .null | none => pure ()
  | some v => return errorRecord ("Invalid user_color: " ++ v.display)
  match ← liftExcept (settingsFor (← get).preferences (args.get? "preferences")) with
  | .error m => return errorRecord m
  | .ok c =>
    match ← evaluatorPool host with
    | .error m => return errorRecord m
    | .ok pool =>
      let r ← withPool pool (Analysis.analyzeGame ((args.text? "pgn").getD "") c
        (some (Engine.Pool.evaluator host)) [] (args.text? "username") (side.bind Value.str?)
        Openings.defaultBook)
      match r with
      | .error .emptyLine => throw (.analysis .emptyLine)
      | .error f => return errorRecord f.message
      | .ok a => trimmed (minifyExtraction a.summary)

/-- Mine a stored game and replace its puzzles. -/
def analyzeGameTool {σ : Type} (host : Engine.Host σ) (args : Args) : ToolM σ Value := do
  match ← liftExcept (settingsFor (← get).preferences (args.get? "preferences")) with
  | .error m => return errorRecord m
  | .ok c =>
    match ← evaluatorPool host with
    | .error m => return errorRecord m
    | .ok pool =>
      let d ← get
      let s ← (monadLift (get : StateM σ σ) : ToolM σ σ)
      let ((r, t), (pool', s')) :=
        (((Store.syncGame ((args.text? "user_id").getD "") ((args.text? "game_id").getD "") c
          (some (Engine.Pool.evaluator host)) [] Openings.defaultBook).run).run d.tables).run (pool, s)
      (monadLift (set s' : StateM σ Unit) : ToolM σ Unit)
      set { d with tables := t, pool := some pool' }
      match r with
      | .error (.analysis .emptyLine) => throw (.analysis .emptyLine)
      | .error e => if e.isFault then throw (.store e) else return errorRecord e.message
      | .ok rep => return rep.toValue

/-- Replace a game's puzzles with a client's batch. -/
def replacePuzzlesTool {σ : Type} (args : Args) : ToolM σ Value := do
  match args.get? "puzzles" with
  | some (.arr records) =>
    let r ← onStore (Store.ingest ((args.text? "user_id").getD "") ((args.text? "game_id").getD "")
      records)
    match r with
    | .ok rep => return rep.toValue
    | .error e => if e.isFault then throw (.store e) else return errorRecord e.message
  | _ => return errorRecord "puzzles must be a list"

/-- The filter of a call. -/
def filterOf (args : Args) (multi : String) : Store.Filter :=
  { type := args.filled "type", kind := args.filled "kind", phase := args.filled "phase",
    gameId := args.filled "game_id", opening := args.filled "opening", eco := args.texts "eco",
    tags := args.texts "tags", multiSolution := multi,
    solved := ((args.get? "solved").map Value.truthy).getD false,
    failed := ((args.get? "failed").map Value.truthy).getD false }

/-- A page of a user's puzzles. -/
def listPuzzlesTool {σ : Type} (args : Args) : ToolM σ Value := do
  let multi := (args.get? "multi_solution").getD (.str "any")
  match multi with
  | .str "any" | .str "single" | .str "multi" => pure ()
  | v => return errorRecord ("Invalid multi_solution: " ++ v.display)
  let page ← liftExcept (atLeast 1 ((args.get? "page").getD (.int 1)))
  let limit := max 1 (← liftExcept (atMost Store.maxPageSize ((args.get? "limit").getD (.int 20))))
  let r ← onStore (Store.listPuzzles ((args.text? "user_id").getD "") page limit
    (filterOf args (multi.str?.getD "any")))
  match r with
  | .error e => if e.isFault then throw (.store e) else return errorRecord e.message
  | .ok (total, ps) => trimmed (minifyPage (.int total) (.int page) (.int limit) (ps.map Store.Puzzle.toValue))

/-- One puzzle with the user's statistics on it. -/
def getPuzzleTool {σ : Type} (args : Args) : ToolM σ Value := do
  let r ← onStore (Store.puzzleWithStats ((args.text? "user_id").getD "")
    ((args.text? "puzzle_id").getD ""))
  match r with
  | .error e => return errorRecord e.message
  | .ok (p, s) => trimmed (minifyPuzzle (p.toValue.set "stats" (s.toValue (some 10))))

/-- Puzzles drawn for training. -/
def randomPuzzleTool {σ : Type} (args : Args) : ToolM σ Value := do
  let count := max 1 (← liftExcept (atMost Store.maxDrawCount ((args.get? "count").getD (.int 1))))
  let f : Store.Filter := { type := args.filled "type", kind := args.filled "kind",
                            phase := args.filled "phase", tags := args.texts "tags" }
  let order := (← get).drawOrder
  let r ← onStore (Store.drawPuzzles order ((args.text? "user_id").getD "") count
    (args.texts "exclude_ids") (((args.get? "prefer_failed").map Value.truthy).getD false) f)
  match r with
  | .error e => return errorRecord e.message
  | .ok ps =>
    let trimmedPs ← ps.mapM fun p => trimmed (minifyPuzzle p.toValue)
    return .obj [("puzzles", .arr trimmedPs)]

/-- Grade and record a move. -/
def submitAttemptTool {σ : Type} (args : Args) : ToolM σ Value := do
  let r ← onStore (Store.submitAttempt ((args.text? "user_id").getD "") ((args.text? "puzzle_id").getD "")
    ((args.get? "user_move_uci").bind Value.str?) ((args.get? "time_spent_ms").getD .null))
  match r with
  | .error e => if e.isFault then throw (.store e) else return errorRecord e.message
  | .ok (a, s) => return minifyAttempt a.toValue (s.toValue none)

/-- A user's overview. -/
def puzzleStatsTool {σ : Type} (args : Args) : ToolM σ Value := do
  let r ← onStore (Store.overview ((args.text? "user_id").getD ""))
  match r with
  | .error e => return errorRecord e.message
  | .ok o => return minifyOverview o.toValue

/-- The parameters of each tool, required and optional. -/
def toolParameters : List (String × List String × List String) :=
  [("import_game", ["user_id", "pgn"], ["username", "provider", "game_id"]),
   ("identify_opening", [], ["pgn", "moves"]),
   ("extract_puzzles", ["pgn"], ["username", "user_color", "preferences"]),
   ("analyze_game", ["user_id", "game_id"], ["preferences"]),
   ("replace_game_puzzles", ["user_id", "game_id", "puzzles"], []),
   ("list_puzzles", ["user_id"], ["type", "kind", "phase", "game_id", "opening", "eco", "tags",
     "multi_solution", "solved", "failed", "page", "limit"]),
   ("get_puzzle", ["user_id", "puzzle_id"], []),
   ("random_puzzle", ["user_id"], ["count", "type", "kind", "phase", "tags", "exclude_ids",
     "prefer_failed"]),
   ("submit_puzzle_attempt", ["user_id", "puzzle_id", "user_move_uci"], ["time_spent_ms"]),
   ("get_puzzle_stats", ["user_id"], [])]

/-- Whether a tool of this name exists. -/
def isTool (name : String) : Bool := toolParameters.any (·.1 == name)

/-- Call a tool by name. -/
def callTool {σ : Type} (host : Engine.Host σ) (name : String) (args : Args) : ToolM σ Value := do
  match toolParameters.find? (·.1 == name) with
  | none => throw (.arguments ("unknown tool " ++ name))
  | some (_, required, optional) =>
    match checkArguments name required optional args with
    | .error e => throw e
    | .ok () =>
      match name with
      | "import_game" => importGameTool args
      | "identify_opening" => identifyOpeningTool args
      | "extract_puzzles" => extractPuzzlesTool host args
      | "analyze_game" => analyzeGameTool host args
      | "replace_game_puzzles" => replacePuzzlesTool args
      | "list_puzzles" => listPuzzlesTool args
      | "get_puzzle" => getPuzzleTool args
      | "random_puzzle" => randomPuzzleTool args
      | "submit_puzzle_attempt" => submitAttemptTool args
      | _ => puzzleStatsTool args

end Server
end Tactician
