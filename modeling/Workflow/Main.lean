import Workflow.Client.Basic

/-!
# The client on a recorded connection

The program plays the demonstration client against a connection that was recorded on standard
input.  The first line is the status of the response, the second its text, and every further line a
frame of the socket.  Without any line the server is down.
-/

namespace Workflow.Client

/-- The network that recorded lines stand for. -/
def networkOfLines : List String → Network
  | [] => { isUp := false, response := ⟨0, ""⟩ }
  | status :: rest =>
    { response := ⟨status.toInt?.getD 0, rest.headD ""⟩, frames := rest.drop 1 }

/-- Read all lines that are left, without their ends. -/
partial def readLines (input : IO.FS.Stream) : IO (List String) := do
  let line ← input.getLine
  if line.isEmpty then return []
  else
    let text := String.ofList (line.toList.filter (· ≠ '\n'))
    return text :: (← readLines input)

/-- Print what the client printed and tell how it ended. -/
def report (result : Except Stop Unit) (progress : Progress) : IO UInt32 := do
  progress.printed.forM fun text => IO.println text
  match result with
  | .ok () => return 0
  | .error (.exit code) => return code.toUInt32
  | .error (.fault cause) =>
    IO.eprintln s!"{cause.kind.name}: {cause.text}"
    return 1

end Workflow.Client

open Workflow.Client in
/-- Play the client and print what it prints. -/
def main : IO UInt32 := do
  let network := networkOfLines (← readLines (← IO.getStdin))
  let (result, progress) := perform network (demonstrate network)
  report result progress
