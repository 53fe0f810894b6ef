import Std.Async.DNS
import Std.Async.TCP
import Std.Async.Timer
import Std.Time.Zoned
import IngestConsole.CommandLine.Run
import IngestConsole.Service.Exchange

/-!
# The console

The command line as a program: it reads the environment and the clock, speaks to the service over a
connection of its own for each request, and prints.  Connections are plain; there is no encryption.
-/

set_option autoImplicit false

namespace IngestConsole

open CommandLine Dashboard Service Std.Async

/-- The name or address of the host of a URL and its port. -/
def peer? (base : Url) : Option (String × UInt16) :=
  match base.authority with
  | some a =>
    let host := String.ofList a.host.text
    let port := a.port.orElse fun _ => Url.defaultPort? base.scheme
    if base.scheme == "http".toList then port.map fun p => (host, .ofNat p) else none
  | none => none

/-- The socket addresses of a host. -/
def resolve (host : String) (port : UInt16) : Async (List Std.Net.SocketAddress) := do
  let literal := String.ofList ((host.toList.dropWhile (· == '[')).takeWhile (· != ']'))
  let addresses ← match Std.Net.IPv4Addr.ofString host, Std.Net.IPv6Addr.ofString literal with
    | some a, _ => pure #[Std.Net.IPAddr.v4 a]
    | none, some a => pure #[Std.Net.IPAddr.v6 a]
    | none, none => DNS.getAddrInfo host ""
  pure <| addresses.toList.map fun
    | .v4 a => .v4 ⟨a, port⟩
    | .v6 a => .v6 ⟨a, port⟩

/-- Reads a connection up to its end. -/
partial def receiveAll (socket : TCP.Socket.Client) (received : ByteArray) : Async ByteArray := do
  match ← socket.recv? 65536 with
  | some bytes => receiveAll socket (received ++ bytes)
  | none => pure received

/-- Sends a request to a host and reads the response. -/
def talk (host : String) (port : UInt16) (r : Request) : Async Response := do
  match ← resolve host port with
  | [] => pure (.dropped { text := "the host has no address" })
  | address :: _ =>
    let socket ← TCP.Socket.Client.mk
    socket.connect address
    socket.send ⟨(r.bytes host).toArray⟩
    pure (.ofBytes (← receiveAll socket .empty).toList)

/-- The response of the service to a request; none if it takes too long. -/
def exchange (client : Client) (r : Request) : IO Response := do
  match peer? client.base with
  | none => pure (.dropped { text := "the address names no host that can be reached" })
  | some (host, port) =>
    let expired : Async Response := do
      Std.Async.sleep (.ofNat client.timeout.toNat)
      pure (.dropped { text := "operation timed out" })
    try (Async.race (talk host port r) expired).block
    catch e => pure (.dropped { text := toString e })

/-- Makes a call. -/
def answer (client : Client) (e : Endpoint) : IO e.Result := do
  match e.request client.base with
  | .error f => pure (.error f)
  | .ok r => pure (e.read (← exchange client r))

/-- Runs a program of the dashboard. -/
def perform {α : Type} (client : Client) : Program α → StateT Dashboard IO α
  | .done a => pure a
  | .look next => do perform client (next (← get))
  | .change f next => do
    modify f
    perform client next
  | .call e next => do perform client (next (← answer client e))
  | .gather calls next => do
    perform client (next (← calls.mapM fun e => do pure ⟨e, ← answer client e⟩))

/-- Polls and prints what comes in until the user stops the program. -/
partial def keepWatching (client : Client) (poll : Program Bool) (w : Watch) :
    StateT Dashboard IO Unit := do
  let before ← get
  let _ ← perform client poll
  IO.print (w.update before (← get))
  (← IO.getStdout).flush
  IO.sleep (.ofNat w.period)
  keepWatching client poll w

/-- Runs a command and prints what it prints. -/
def execute (client : Client) (c : Command) (offset : Calendar.Offset) :
    StateT Dashboard IO Printed := do
  match ← perform client (c.program offset) with
  | .error e => pure (.error e)
  | .ok text =>
    IO.print text
    match c.watch? offset (← get), c with
    | some w, .status task _ =>
      modify fun d => { d with status := d.status.opened task 0 }
      keepWatching client .refreshStatus w
    | some w, _ => keepWatching client .refreshOverview w
    | none, _ => pure ()
    pure (.ok "")

/-- The variables of the environment that options are taken from. -/
def readEnvironment : IO (String → Option String) := do
  let found ← GlobalOptions.sources.mapM fun v => do pure (v.1, ← IO.getEnv v.1)
  pure fun name => (found.lookup name).join

/-- How far the local time is from the universal one, in seconds. -/
def localOffset : IO Calendar.Offset := do
  try
    let rules ← Std.Time.Database.defaultGetLocalZoneRules
    let now ← Std.Time.Timestamp.now
    pure (rules.findLocalTimeTypeForTimestamp now).gmtOffset.second.val
  catch _ => pure 0

/-- How the console is used. -/
def usage : String :=
  "usage: console [--url URL] [--timeout-ms N] [--log-level FILTER] [--log-format FORMAT] COMMAND\n"
    ++ "commands: overview [--watch], tasks [options], status NAME [--watch], task NAME, config,\n"
    ++ "  debug heap|goroutine|metrics, log [--from N] [--errors], reload tasks|config\n"
    ++ "options of tasks: --name, --type, --status, --sort FIELD [--desc], --page N, --page-size N"

/-- What is said of a response that could not be read. -/
def wording : Wording where
  errorStatus kind status :=
    { text := "status " ++ Numeral.natText status ++ " in place of the " ++ kind.name ++ " dump" }
  noEnvelope _ := "not an envelope"
  mismatch subject _ := "the entity is no " ++ subject

/-- Tells why the console failed; gives the exit code. -/
def report (f : Failure) : IO UInt32 := do
  match f with
  | .usage e =>
    if e.isAnswer then IO.println usage
    else
      for detail in e.detail?.toList do IO.eprintln ("error: " ++ detail)
      IO.eprintln usage
  | .command .overflow => IO.eprintln (CommandError.overflow.message wording)
  | _ => for text in (f.report? wording).toList do IO.eprintln ("Error: " ++ text)
  pure (.ofNat f.exitCode)

end IngestConsole

open IngestConsole IngestConsole.CommandLine

/-- Runs the command line. -/
def main (args : List String) : IO UInt32 := do
  match Invocation.parse (← readEnvironment) args with
  | .error e => report (.usage e)
  | .ok i =>
    match i.connect with
    | .error f => report f
    | .ok client =>
      match ← (execute client i.command (← localOffset)).run' (.ofSettings i.settings) with
      | .ok _ => pure 0
      | .error e => report (.command e)
