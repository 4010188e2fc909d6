import DocumentGateway.Gateway.Serving
import DocumentGateway.Gateway.Shutdown
import DocumentGateway.Gateway.Token
import DocumentGateway.Http.Wire
import DocumentGateway.Main.MediaType
import DocumentGateway.Settings.Load
import Std.Async.Signal
import Std.Async.TCP

/-!
# The command line

Loads the settings, listens at the address they name and answers one request for each connection,
until an interrupt or a request to terminate triggers the shutdown.
-/

namespace DocumentGateway.Main

open Std.Async
open Std.Async.TCP.Socket (Server Client)

/-- What the command line asks for. -/
inductive Command where
  /-- To serve under the settings of a file, or under the default ones. -/
  | serve (config : Option String)
  /-- To show how the program is called. -/
  | help
  /-- To show the version. -/
  | version
  /-- Something that is not understood. -/
  | unknown (argument : String)

/-- Read the arguments. -/
def Command.ofArguments : List String → Command
  | [] => .serve none
  | ["-h"] | ["--help"] => .help
  | ["-V"] | ["--version"] => .version
  | ["-c", path] | ["--config", path] => .serve (some path)
  | argument :: _ => .unknown argument

/-- How the program is called. -/
def usage : String := "Usage: docgate [-c|--config <FILE>] [-h|--help] [-V|--version]"

/-- The contents of a file. -/
def readFile (path : String) : IO (Except Settings.FileError Bytes) := do
  try
    return .ok (← IO.FS.readBinFile path).toList
  catch e =>
    match e with
    | .noFileOrDirectory .. => return .error .notFound
    | e => return .error (.other e.toString)

/-- The settings to serve under. -/
def loadSettings : Option String → IO (Except Settings.LoadError Settings)
  | none => return Settings.checked default
  | some path => return Settings.ofFile (← readFile path)

/-- A socket address in the words of the system. -/
def systemAddress (a : Net.SocketAddress) : Std.Net.SocketAddress :=
  match a.ip with
  | .v4 octets =>
    let part := fun i => (octets.getD i 0).toUInt8
    .v4 ⟨.ofParts (part 0) (part 1) (part 2) (part 3), a.port.toUInt16⟩
  | .v6 groups _ =>
    let part := fun i => (groups.getD i 0).toUInt16
    .v6 ⟨.ofParts (part 0) (part 1) (part 2) (part 3) (part 4) (part 5) (part 6) (part 7),
      a.port.toUInt16⟩

/-- Sixteen random bytes. -/
def randomBytes : IO Bytes := return (← IO.getRandomBytes 16).toList

/-- Receive a request; a connection that ends before it has none. -/
partial def receive (client : Client) (received : Bytes) : Async Http.Wire.Arrival := do
  match Http.Wire.arrival received with
  | .incomplete =>
    match ← client.recv? 65536 with
    | none => return .incomplete
    | some more => receive client (received ++ more.toList)
  | arrival => return arrival

/-- The response to a message that is not a request. -/
def badRequest : Http.Response := ⟨{ code := 400 }, [], none⟩

/-- Answer the request of a connection. -/
def answer (setup : Gateway.Setup) (state : IO.Ref Gateway.State) (client : Client) :
    Async Unit := do
  let respond := fun response => client.send ⟨(Http.Wire.render response).toArray⟩
  match ← receive client [] with
  | .incomplete => pure ()
  | .malformed => respond badRequest
  | .complete request =>
    let occasion : Gateway.Occasion :=
      ⟨← IO.monoNanosNow, Gateway.versionToken (← randomBytes), .ok ()⟩
    let fresh := (Http.HeaderValue.ofText? (Gateway.requestToken (← randomBytes))).getD
      { bytes := [] }
    let response ← state.modifyGet (Gateway.State.serve setup occasion fresh request)
    respond response
  client.shutdown

/-- What ends the service: a signal of the system; one that cannot be waited for is left out. -/
def signals : IO (List Signal.Waiter) :=
  [Signal.sigint, Signal.sigterm].filterMapM fun signal => do
    try return some (← Signal.Waiter.mk signal false)
    catch _ => return none

/-- What the server meets next: a connection, or none but a signal. -/
def nextConnection (server : Server) (signals : List Signal.Waiter) : Async (Option Client) :=
  Selectable.one (.case server.acceptSelector (fun client => return some client) ::
    signals.map fun s => .case s.selector fun _ => return none).toArray

/-- What serving takes: the setup, the state, and the shutdown signal with the subscription of the
server. -/
structure Service where
  /-- The setup. -/
  setup : Gateway.Setup
  /-- The state, which the connections share. -/
  state : IO.Ref Gateway.State
  /-- The shutdown signal. -/
  shutdown : IO.Ref Gateway.Shutdown
  /-- The subscription of the server. -/
  subscriber : Nat

/-- Answer the connections of a server until the shutdown signal reaches it, and then wait for those
that are still open. -/
partial def Service.run (service : Service) (server : Server) (signals : List Signal.Waiter)
    (opened : List (AsyncTask Unit)) : Async Unit := do
  match ← nextConnection server signals with
  | some client =>
    let connection ← async (t := AsyncTask) do
      try answer service.setup service.state client
      catch _ => pure ()
    let opened ← opened.filterM fun c => return !(← IO.hasFinished c)
    service.run server signals (connection :: opened)
  | none =>
    service.shutdown.modify Gateway.Shutdown.trigger
    let notice ← service.shutdown.modifyGet fun s => s.poll service.subscriber
    if notice.any Gateway.Shutdown.Notice.isSignal then opened.forM await
    else service.run server signals opened

/-- Serve under some settings. -/
def serve (settings : Settings) : IO UInt32 := do
  match Net.SocketAddress.ofText? settings.listener.bindAddress with
  | none => return 1
  | some address =>
    let server ← Server.mk
    server.bind (systemAddress address)
    server.listen 1024
    let setup : Gateway.Setup := ⟨settings, mediaType?⟩
    let shutdown := Gateway.Shutdown.initial
    let service : Service :=
      ⟨setup, ← IO.mkRef (Gateway.State.ofSettings setup), ← IO.mkRef shutdown.subscribe,
        shutdown.subscribers.length⟩
    IO.eprintln s!"Listening at {settings.listener.bindAddress}"
    (service.run server (← signals) []).block
    return 0

/-- Do what a command asks for. -/
def Command.execute : Command → IO UInt32
  | .help => do
    IO.println usage
    return 0
  | .version => do
    IO.println "docgate 0.1.0"
    return 0
  | .unknown argument => do
    IO.eprintln s!"error: unexpected argument '{argument}' found"
    IO.eprintln usage
    return 2
  | .serve config => do
    match ← loadSettings config with
    | .error e =>
      IO.eprintln s!"Error: {e.message}"
      return 1
    | .ok settings => Main.serve settings

end DocumentGateway.Main

/-- The program. -/
def main (arguments : List String) : IO UInt32 :=
  (DocumentGateway.Main.Command.ofArguments arguments).execute
