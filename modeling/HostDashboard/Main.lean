/-
**The program.**

It reads its arguments, writes its log, and either ends or answers requests on its standard input
until that ends. Sessions that have been idle too long are looked for once a minute.
-/

import HostDashboard.CommandLine
import HostDashboard.Web.Relay

namespace HostDashboard

/-- Writes a line and makes sure that it leaves. -/
def writeLine (line : String) : IO Unit := do
  let output ← IO.getStdout
  output.putStrLn line
  output.flush

/-- Has the front end carry a request to the search API. -/
def carry (client : Client) (request : ApiRequest) : IO Delivery := do
  writeLine (Web.carriage client request)
  let line ← (← IO.getStdin).getLine
  return (Delivery.ofLine? line).getD (.lost "no answer")

/-- A name for the next session. -/
def freshId : IO SessionId := do
  return .ofChance (← IO.rand 0 (Nat.pow 2 48 - 1)) (← IO.rand 0 (Nat.pow 2 12 - 1))
    (← IO.rand 0 (Nat.pow 2 62 - 1))

/-- The server now: its clock is set, and once a minute idle sessions are closed. -/
def sweep (config : Config) (server : Web.Server) (now : Nat) : Web.Server :=
  let registry := server.registry.elapse (now - server.registry.now)
  let minute := 60 * Registry.perSecond
  if server.registry.now / minute < now / minute then
    { server with registry := registry.evictIdle config.sessionSeconds }
  else { server with registry }

/-- Answers requests until the input ends. -/
partial def serveLines (config : Config) (server : Web.Server) : IO Unit := do
  let line ← (← IO.getStdin).getLine
  if line.isEmpty then return
  let server := sweep config server (← IO.monoNanosNow)
  match Web.Request.ofLine? line with
  | none =>
    writeLine (Web.Reply.answer 400 none).line
    serveLines config server
  | some request =>
    let (server, reply) ← server.serve (carry server.client) (← freshId) request
    writeLine reply.line
    serveLines config server

/-- Runs the program with some arguments; the result is its exit code. -/
def run (arguments : List String) : IO UInt32 := do
  let (startup, log) := Startup.of arguments (← IO.getEnv Startup.environmentVariable)
  for line in log do
    IO.eprintln line.text
  match startup with
  | .finished code output errors =>
    IO.print output
    unless errors.isEmpty do IO.eprintln errors
    return code.toUInt32
  | .serving config client =>
    serveLines config { client, searchLimit := config.searchLimit }
    return 0

end HostDashboard

/-- The entry of the program. -/
def main (arguments : List String) : IO UInt32 := HostDashboard.run arguments
