import EventRules.Remote.Http
import EventRules.Remote.Wire
import EventRules.Worker.Run
import Std.Async.DNS
import Std.Async.TCP

/-!
# Main — the worker as a program

A run of the worker depends on the replies to its requests.  The program makes the run with the
replies that it has; if the run makes one request more, the program sends that, and makes the run
again with its reply.  A run that has all of its replies is shown.

* `main` — the program.
-/

open EventRules
open Std.Async
open Std.Net

namespace EventRules
namespace Program

/-! ## Surroundings -/

/-- The variables of the process, where the system shows them as a file. -/
def readEnvironment : IO Environment := do
  let text ← try IO.FS.readFile "/proc/self/environ" catch _ => pure ""
  let entries := (text.toList.splitOn (Char.ofNat 0)).filter fun entry => !entry.isEmpty
  return entries.map fun entry =>
    let (name, value) := entry.span (· != '=')
    (String.ofList name, String.ofList (value.drop 1))

def problemOf : IO.Error → String
  | .noFileOrDirectory _ _ _ => TableFault.missingFile
  | error => toString error

def readFile? (path : String) : IO (Except String String) := do
  try return .ok (← IO.FS.readFile path)
  catch error => return .error (problemOf error)

/-- The files and the input that a command line is about. -/
def readSurroundings (arguments : List String) : IO (Worker.Surroundings Transcript) := do
  let environment ← readEnvironment
  let assigned ← readFile? Worker.assignmentsFile
  let known : Worker.Surroundings Transcript := {
    arguments := arguments
    environment := environment
    file := fun _ => assigned
    input := ""
    network := Network.laidOut (.unreachable []) }
  match Worker.program.parse (Worker.environmentOf known) arguments with
  | .error _ => return known
  | .ok invocation =>
      let options := Worker.Options.ofInvocation invocation
      let files ← options.files.mapM fun path => do return (path, ← readFile? path)
      let input ← if options.readsInput then (← IO.getStdin).readToEnd else pure ""
      return { known with
        file := fun path =>
          if path = Worker.assignmentsFile then assigned
          else (files.lookup path).getD (.error TableFault.missingFile)
        input := input }

/-! ## Network -/

partial def receive (client : TCP.Socket.Client) (before : ByteArray) : IO ByteArray := do
  match ← (client.recv? 65536).block with
  | some bytes => receive client (before ++ bytes)
  | none => return before

def socketAddress (port : UInt16) : IPAddr → SocketAddress
  | .v4 address => .v4 ⟨address, port⟩
  | .v6 address => .v6 ⟨address, port⟩

def connect (address : SocketAddress) (request : HttpRequest) : IO HttpReply := do
  let client ← TCP.Socket.Client.mk
  (client.connect address).block
  (client.send ⟨request.wire.toArray⟩).block
  return .ofWire (← receive client .empty).toList

def refused (problem : String) : HttpReply :=
  .unreachable ["client error (Connect)", "tcp connect error", problem]

/-- The reply to a request; only requests in the clear can be sent. -/
def exchange (request : HttpRequest) : IO HttpReply := do
  if request.url.scheme != "http" then
    return .unreachable ["client error (Connect)", "invalid URL, scheme is not http"]
  try
    let addresses ← (DNS.getAddrInfo request.host "").block
    match addresses.toList with
    | [] => return refused "no address"
    | address :: _ => connect (socketAddress request.port.toUInt16 address) request
  catch error => return refused (toString error)

/-! ## Runs -/

/-- Makes the run with some replies, and again as long as one is missing. -/
partial def complete (around : Worker.Surroundings Transcript) (replies : List HttpReply) :
    IO (Session Transcript) := do
  let session := Worker.run around (.ofReplies replies)
  match session.state.requests.drop replies.length with
  | [] => return session
  | request :: _ => complete around (replies ++ [← exchange request])

def run (arguments : List String) : IO UInt32 := do
  let around ← readSurroundings arguments
  let session ← complete around []
  IO.print (session.output (Worker.filterOf around))
  IO.eprint session.errors
  return (session.status.getD 1).toUInt32

end Program
end EventRules

def main (arguments : List String) : IO UInt32 := EventRules.Program.run arguments
