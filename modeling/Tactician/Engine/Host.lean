import Tactician.Text.Quoted

/-!
# Engine hosts

Engines run as separate programs.  A host says which program the environment names as the engine,
starts programs by path, and runs searches on a started engine: it receives the position as FEN
text, the number of lines wanted and the arguments of the `go` command, and answers with the
engine's output lines, or with nothing when the engine died during the search.  Hosts keep state
of their own (which engines died, what they were asked), threaded through a state monad.
-/

namespace Tactician
namespace Engine

/-- Why a program could not be started as an engine. -/
inductive LaunchFailure where
  /-- No file at the path. -/
  | missing
  /-- The program exited before the handshake, with this code. -/
  | exited (code : Nat)
  deriving DecidableEq, Repr

/-- The text of a launch failure at a path. -/
def LaunchFailure.message (path : String) : LaunchFailure → String
  | .missing => "[Errno 2] No such file or directory: " ++ Text.quote path
  | .exited code => "engine process died unexpectedly (exit code: " ++ toString code ++ ")"

/-- Where engines run, with state `σ`. -/
structure Host (σ : Type) where
  /-- The engine program named by the environment, when it names a file. -/
  configured : Option String
  /-- Start the program at a path. -/
  launch : String → Except LaunchFailure Unit
  /-- Run a search: position, lines wanted, `go` arguments; the output, or none when the engine
  died. -/
  go : String → Nat → String → StateM σ (Option (List String))

end Engine
end Tactician
