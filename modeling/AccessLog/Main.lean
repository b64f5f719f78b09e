import AccessLog.App
import AccessLog.Http.Message
import Std.Async.Signal
import Std.Async.TCP
import Std.Sync.CancellationToken
import Std.Sync.Mutex
import Std.Time

/-!
# The program

Runs the application on a socket, with the variables of the environment as its settings, until it is
interrupted. Everything that happens between waiting for bytes and writing them is a step of the application.
-/

namespace AccessLog

open Std.Async
open Std.Async.TCP

namespace Program

/-- The application at work: its scene, how many connections are open, and whether it is to stop. -/
structure Running where
  settings : Settings
  host : Host App.Store
  scene : Std.Mutex (Scene App.Store)
  connections : Std.Mutex Nat
  stopping : Std.CancellationToken

def now : IO Instant := do
  return ⟨(← Std.Time.Timestamp.now).toNanosecondsSinceUnixEpoch.val⟩

def freshId : IO Uuid := do
  let bytes ← IO.getRandomBytes 16
  return .random (bytes.toList.foldl (fun n b => n * 256 + b.toNat) 0)

def prettyLine (e : Entry) (time : String) : String :=
  let r := e.trace.recorded
  let fields := r.data.map fun (name, value) => ", " ++ name ++ ": " ++ String.ofList value.render
  "  " ++ time ++ " " ++ e.trace.level.word ++ " " ++ e.trace.target ++ ": " ++ r.message.getD ""
    ++ String.join fields

def outputBytes (log : LogSettings) (time : String) : App.Output → Bytes
  | .line text => utf8 text ++ [10]
  | .trace e =>
    match log.format with
    | .json => e.lineBytes log.serviceName time
    | .pretty => utf8 (prettyLine e time) ++ [10]

def printOutputs (settings : Settings) (s : Scene App.Store) : IO (Scene App.Store) := do
  let time := (← now).millisText
  let out ← IO.getStdout
  for output in App.visible (.parse settings.log.filter) (App.outputs s) do
    out.write ⟨(outputBytes settings.log time output).toArray⟩
  out.flush
  return { s with journal := [], spans := [], own := { s.own with written := [] } }

/-- A step of the application, with the present time and new identifiers. -/
def Running.step {α : Type} (p : Running) (f : Scene App.Store → α × Scene App.Store) : IO α := do
  let time ← now
  let eventId ← freshId
  let requestId ← freshId
  p.scene.atomically do
    let s ← get
    let (a, s) := f { s with
      eventIds := { item := fun _ => eventId }
      requestIds := { item := fun _ => requestId }
      own := { s.own with clock := { item := fun _ => time } } }
    set (← printOutputs p.settings s)
    return a

def Running.note (p : Running) (t : Trace) : IO Unit := p.step fun s => ((), s.note t)

def addressOf : Std.Net.SocketAddress → SocketAddress
  | .v4 a => ⟨.v4 a.addr.octets[0] a.addr.octets[1] a.addr.octets[2] a.addr.octets[3], a.port, 0⟩
  | .v6 a => ⟨.v6 a.addr.segments.toList, a.port, 0⟩

def socketOf (a : SocketAddress) : Std.Net.SocketAddress :=
  match a.ip with
  | .v4 w x y z => .v4 ⟨.ofParts w x y z, a.port⟩
  | .v6 groups =>
    let group (n : Nat) := groups.getD n 0
    .v6 ⟨.ofParts (group 0) (group 1) (group 2) (group 3) (group 4) (group 5) (group 6) (group 7), a.port⟩

/-! ## A connection -/

def pieceSize : UInt64 := 65536

/-- The next bytes of a connection, or nothing at its end. An idle connection ends when the program stops. -/
def receive (p : Running) (c : Socket.Client) (idle : Bool) : Async (Option Bytes) := do
  let data ←
    if idle then
      Selectable.one #[
        .case (c.recvSelector pieceSize) pure,
        .case p.stopping.selector fun _ => pure none]
    else c.recv? pieceSize
  return data.map (·.toList)

def send (c : Socket.Client) (bytes : Bytes) : Async Unit := c.send ⟨bytes.toArray⟩

/-- The lines of the next head and the bytes behind it; no lines if it grows too long, nothing at the end. -/
partial def receiveHead (p : Running) (c : Socket.Client) (held : Bytes) :
    Async (Option (List Bytes × Bytes)) := do
  match Head.split [] [] held with
  | some found => return some found
  | none =>
    if Head.longest < held.length then return some ([], [])
    match ← receive p c held.isEmpty with
    | some more => receiveHead p c (held ++ more)
    | none => return none

partial def receiveBody (p : Running) (c : Socket.Client) (r : BodyReader) (held : Bytes) :
    Async (BodyReader × Bytes) := do
  let (r, rest) := r.read held
  if r.ended then return (r, rest)
  match ← receive p c false with
  | some more => receiveBody p c r more
  | none => return (r, [])

/-- Exchanges on a connection, one after another, beginning with the bytes already received. -/
partial def converse (p : Running) (c : Socket.Client) (remote : SocketAddress) (held : Bytes) :
    Async Unit := do
  let some (lines, rest) ← receiveHead p c held | return
  let some head := Head.ofLines? lines
    | send c ((Response.empty .badRequest).bytes [] (← now) true)
  let some reader := BodyReader.ofHead? head
    | send c ((Response.empty .badRequest).bytes [] (← now) true)
  let underway ← p.step (App.begin p.host ⟨head.method, head.target, head.headers, head.version, remote⟩)
  if head.asksLeave && !reader.ended && rest.isEmpty then send c Response.leave
  let (reader, rest) ← receiveBody p c reader rest
  let arrival := (reader.body?.map Arrival.whole).getD .lost
  let answer ← p.step (p.host.finish underway arrival)
  p.step fun s => ((), App.writeAllQueued s)
  let some response := answer | return
  let closes := !head.keepsConnection || reader.body?.isNone || (← p.stopping.isCancelled)
  send c (response.bytes (Host.sentBody head.method response) (← now) closes)
  if closes then c.shutdown else converse p c remote rest

def connection (p : Running) (c : Socket.Client) : Async Unit := do
  try
    converse p c (addressOf (← c.getPeerName)) []
  catch e =>
    p.note (.note .host .debug "Connection error" [("error", .shown (toString e))])
  p.connections.atomically (modify (· - 1))

partial def acceptAll (p : Running) (listener : Socket.Server) : Async Unit := do
  let accepted ← try
      Selectable.one #[
        .case listener.acceptSelector fun c => pure (some (some c)),
        .case p.stopping.selector fun _ => pure none]
    catch e => do
      p.note (.note .host .warn "Accept failed" [("error", .shown (toString e))])
      pure (some none)
  match accepted with
  | none => return
  | some none => acceptAll p listener
  | some (some c) =>
    p.connections.atomically (modify (· + 1))
    background (connection p c)
    acceptAll p listener

/-- Waits until no connection is open. -/
partial def waitForConnections (p : Running) : IO Unit := do
  if (← p.connections.atomically get) = 0 then return
  IO.sleep 10
  waitForConnections p

/-! ## From start to end -/

def environment : IO Variables := do
  let pairs ← Settings.keys.filterMapM fun key => do
    return (← IO.getEnv key).map fun value => (key, value)
  return .ofPairs pairs

def fail (failure : App.Failure) : IO UInt32 := do
  IO.eprintln failure.message
  return failure.exitCode.toUInt32

def listen (address : SocketAddress) : IO Socket.Server := do
  let listener ← Socket.Server.mk
  listener.bind (socketOf address)
  listener.listen 1024
  listener.noDelay
  return listener

def serve (p : Running) (listener : Socket.Server) : IO Unit := do
  p.note (App.listenNote (addressOf (← listener.getSockName)).text)
  let interrupt ← Signal.Waiter.mk .sigint false
  let interrupted ← interrupt.wait
  let accepting ← (acceptAll p listener).asTask
  discard interrupted.block
  p.step fun s => ((), App.stop s)
  p.stopping.cancel
  accepting.block
  waitForConnections p

def run (given : Variables) : IO UInt32 := do
  let settings ← match Settings.load given with
    | .error e => return ← fail (.settings e)
    | .ok settings => pure settings
  if let some level := LogSettings.unknownLevel? given then
    IO.eprintln (LogSettings.levelWarning level)
  let time ← now
  let id ← freshId
  let (failure, s) := App.start settings (fun _ => id) (fun _ => id) (fun _ => time)
  let s ← printOutputs settings s
  if let some failure := failure then return ← fail failure
  let listener ← listen settings.listen
  serve
    { settings
      host := App.hostFor settings
      scene := ← Std.Mutex.new s
      connections := ← Std.Mutex.new 0
      stopping := ← Std.CancellationToken.new } listener
  return 0

end Program

end AccessLog

def main : IO UInt32 := do
  try
    AccessLog.Program.run (← AccessLog.Program.environment)
  catch e =>
    IO.eprintln ("Error: " ++ toString e)
    return 1
