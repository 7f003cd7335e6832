import Tactician.Engine.Host
import Tactician.Text.Blank

/-!
# Scripted engines

A scripted engine answers searches from a script instead of searching.  The script lists positions
(keyed by their first four FEN fields; a later entry for the same key wins) with the reports to
print, optionally other reports for a given `go movetime` argument, and optionally a flag that
makes the engine exit on its first search of that position.  A position not in the script is
looked up again with its en passant field blanked, since positions are sent with the en passant
square of every double step.

For a search the engine prints, in script order, the reports whose rank does not exceed the lines
wanted, each as `info depth D multipv K score cp|mate V [time T] pv …`; an unknown position prints
no report.  Every search received is logged with the first three FEN fields of its position, the
lines wanted and the `go` arguments.
-/

namespace Tactician
namespace Engine

/-- One scripted report. -/
structure ScriptReport where
  /-- The depth. -/
  depth : Option Int := none
  /-- The rank. -/
  rank : Int := 1
  /-- The score in centipawns. -/
  cp : Option Int := none
  /-- The score as moves to mate. -/
  mate : Option Int := none
  /-- The variation, if printed. -/
  pv : Option (List String) := none
  /-- The time in milliseconds, if printed. -/
  time : Option Int := none
  deriving Repr, Inhabited

/-- The `info` line of a report. -/
def ScriptReport.text (r : ScriptReport) : String :=
  let field (name : String) (v : Option Int) : List String := match v with
    | some x => [name, toString x]
    | none => []
  let score : List String := match r.mate, r.cp with
    | some m, _ => ["score", "mate", toString m]
    | none, some c => ["score", "cp", toString c]
    | none, none => []
  let pv : List String := match r.pv with
    | some ms => "pv" :: ms
    | none => []
  String.intercalate " " (["info"] ++ field "depth" r.depth ++ ["multipv", toString r.rank] ++
    score ++ field "time" r.time ++ pv)

/-- What the script holds for one position. -/
structure ScriptedPosition where
  /-- The position, as FEN. -/
  fen : String
  /-- The reports of a search. -/
  reports : List ScriptReport := []
  /-- Reports that replace them for a given time argument, keyed by milliseconds as text. -/
  byMovetime : List (String × List ScriptReport) := []
  /-- Exit on the first search of this position. -/
  dieOnce : Bool := false
  deriving Inhabited

/-- A script. -/
abbrev Script := List ScriptedPosition

/-- The first `n` fields of a FEN text. -/
def fenFields (n : Nat) (fen : String) : String :=
  String.intercalate " " ((Text.words fen).take n)

/-- A FEN text with its en passant field blanked. -/
def withoutPassing (fen : String) : String :=
  match Text.words fen with
  | a :: b :: c :: _ :: rest => String.intercalate " " (a :: b :: c :: "-" :: rest)
  | ws => String.intercalate " " ws

/-- The last entry of a script for a position key. -/
def lookupKey (s : Script) (key : String) : Option ScriptedPosition :=
  s.foldl (fun found e => if fenFields 4 e.fen == key then some e else found) none

/-- The entry of a script for a position sent to the engine. -/
def Script.lookup (s : Script) (fen : String) : Option ScriptedPosition :=
  (lookupKey s (fenFields 4 fen)).orElse fun _ => lookupKey s (fenFields 4 (withoutPassing fen))

/-- What a scripted engine remembers: positions that made it exit, and every search received. -/
structure ScriptLog where
  /-- Keys of positions whose exit has happened. -/
  died : List String := []
  /-- Searches received: position, lines wanted, `go` arguments. -/
  searches : List (String × Nat × String) := []
  deriving Inhabited

/-- The reports printed for a search. -/
def ScriptedPosition.printed (e : ScriptedPosition) (lines : Nat) (args : String) : List String :=
  let reports := match e.byMovetime.find? fun (ms, _) => args == "movetime " ++ ms with
    | some (_, rs) => rs
    | none => e.reports
  (reports.filter fun r => r.rank ≤ (lines : Int)).map ScriptReport.text

/-- Answer a search from a script. -/
def Script.go (s : Script) (fen : String) (lines : Nat) (args : String) :
    StateM ScriptLog (Option (List String)) := do
  modify fun log => { log with searches := log.searches ++ [(fenFields 3 fen, lines, args)] }
  match s.lookup fen with
  | none => return some []
  | some e =>
    let key := fenFields 4 e.fen
    if e.dieOnce && !(← get).died.contains key then
      modify fun log => { log with died := log.died ++ [key] }
      return none
    return some (e.printed lines args)

/-- Each distinct search with how often it was received, sorted. -/
def ScriptLog.summary (log : ScriptLog) : List (String × Nat × String × Nat) :=
  let distinct := log.searches.foldl (fun acc x => if acc.contains x then acc else acc ++ [x]) []
  let counted := distinct.map fun x => (x.1, x.2.1, x.2.2, log.searches.count x)
  counted.mergeSort fun a b =>
    a.1 < b.1 || (a.1 == b.1 && (a.2.1 < b.2.1 || (a.2.1 == b.2.1 &&
      (a.2.2.1 < b.2.2.1 || (a.2.2.1 == b.2.2.1 && a.2.2.2 ≤ b.2.2.2)))))

/-- Programs present on a machine: the scripted engine at its path, and programs that exit at
once with a code. -/
structure Machine where
  /-- The path of the scripted engine, if installed. -/
  enginePath : Option String
  /-- Programs that exit at once, with their exit codes. -/
  exiting : List (String × Nat) := [("/bin/true", 0), ("/bin/false", 1)]
  /-- The engine named by the environment. -/
  configured : Option String

/-- Whether a path names a file on the machine. -/
def Machine.isFile (m : Machine) (path : String) : Bool :=
  m.enginePath == some path || m.exiting.any (·.1 == path)

/-- The host of a scripted engine on a machine. -/
def Script.host (s : Script) (m : Machine) : Host ScriptLog where
  configured := m.configured.filter m.isFile
  launch path :=
    if m.enginePath == some path then .ok ()
    else match m.exiting.find? (·.1 == path) with
      | some (_, code) => .error (.exited code)
      | none => .error .missing
  go := s.go

end Engine
end Tactician
