import IsolatedSite.Disk
import IsolatedSite.Launch
import Std.Async.Select
import Std.Async.Signal
import Std.Async.TCP
import Std.Async.Timer
import Std.Sync.Mutex
import Std.Time.Zoned

namespace IsolatedSite.Main

open Std.Async

structure Runtime where
  server : Server
  access : IO.FS.Stream
  error : IO.FS.Stream

def toArray (bs : Bytes) : ByteArray := ⟨bs.toArray⟩

def put (stream : IO.FS.Stream) (bs : Bytes) : IO Unit := do
  if bs.isEmpty then return
  try
    stream.write (toArray bs)
    stream.flush
  catch e => IO.eprint s!"[ERROR] Failed to write log file: {e}\n{Utf8.lossyText bs}"

def step (state : Std.Mutex Runtime) (f : Server → Server × Delivery) : IO Delivery :=
  state.atomically do
    let r ← get
    let (server, delivery) := f r.server
    put r.access server.journal.output
    put r.error server.journal.errors
    set { r with server := { server with journal := { server.journal with output := [], errors := [] } } }
    return delivery

def clock (since : Nat) : IO Clock := do
  let now ← Std.Time.DateTime.now
  let nanos := now.timestamp.toNanosecondsSinceUnixEpoch.val
  let moment := Moment.ofParts (nanos / 1000000000) (nanos % 1000000000).toNat
  return ⟨⟨moment, now.timezone.offset.second.val⟩, ((← IO.monoNanosNow) - since) / 1000⟩

partial def settle (state : Std.Mutex Runtime) (peer : SocketAddress) (since : Nat) (d : Delivery) :
    IO Delivery := do
  let places? ← state.atomically do
    let s := (← get).server
    return ((s.connection? peer).bind Connection.due).map fun due => s.service.places due.request
  match places? with
  | none => return d
  | some places =>
    let tree ← Disk.survey true places
    let clock ← clock since
    let next ← step state fun s =>
      { s with journal := { s.journal with tree := tree } }.work clock peer
    settle state peer since ⟨d.messages ++ next.messages, next.closed⟩

def attend (state : Std.Mutex Runtime) (peer : SocketAddress) (news : Server → Server) :
    IO Delivery := do
  let since ← IO.monoNanosNow
  let clock ← clock since
  let delivery ← step state fun s =>
    let (s, ds) := (news s).notice.turn clock
    (s, (ds.lookup peer).getD { closed := (s.link? peer).isNone })
  settle state peer since delivery

inductive Heard where
  | octets (data : ByteArray)
  | finished
  | late (e : Ending)

def left (seconds since now : Nat) : Std.Time.Millisecond.Offset :=
  .ofNat (seconds * 1000 + since - now)

def hear (client : TCP.Socket.Client) (limits : List (Std.Time.Millisecond.Offset × Ending)) :
    Async Heard := do
  let timers ← limits.mapM fun (time, e) => return (← Selector.sleep time, e)
  let octets : Selectable Heard := .case (client.recvSelector 65536) fun data? =>
    pure (match data? with
      | some data => .octets data
      | none => .finished)
  let late := timers.map fun (timer, e) => (.case timer fun _ => pure (.late e) : Selectable Heard)
  try Selectable.one (octets :: late).toArray catch _ => return .finished

partial def converse (state : Std.Mutex Runtime) (limits : PerformanceSettings)
    (client : TCP.Socket.Client) (peer : SocketAddress) (opened turned : Nat) : Async Unit := do
  let now ← IO.monoMsNow
  let heard ← hear client
    ((limits.headerReadTimeout.map fun n => (left n turned now, .headTimeout)).toList ++
      (limits.connectionTimeout.map fun n => (left n opened now, .timedOut n)).toList)
  let delivery ←
    match heard with
    | .octets data => attend state peer (·.deliver peer data.toList)
    | .finished => attend state peer (·.hangUp peer)
    | .late e => step state fun s => (s.close peer e, { closed := true })
  for m in delivery.messages do
    client.send (toArray m.octets)
  if delivery.closed then client.shutdown
  else
    let now ← IO.monoMsNow
    converse state limits client peer opened (if delivery.messages.isEmpty then turned else now)

def ofNet (a : Std.Net.SocketAddress) : SocketAddress :=
  ⟨match a.ipAddr with
    | .v4 a => .v4 (a.octets.toList.map UInt8.toNat)
    | .v6 a => .v6 (a.segments.toList.map UInt16.toNat), a.port.toNat⟩

def toNet (a : SocketAddress) : Std.Net.SocketAddress :=
  match a.ip with
  | .v4 ds => .v4 ⟨⟨Vector.ofFn fun i => (ds.getD i 0).toUInt8⟩, a.port.toUInt16⟩
  | .v6 gs => .v6 ⟨⟨Vector.ofFn fun i => (gs.getD i 0).toUInt16⟩, a.port.toUInt16⟩

def faultOf : IO.Error → Fault
  | .resourceBusy _ _ => .addressInUse
  | .permissionDenied _ _ _ => .denied
  | e => .noted .other (toString e)

def welcome (state : Std.Mutex Runtime) (limits : PerformanceSettings) (client : TCP.Socket.Client) :
    Async Unit := do
  let peer := ofNet (← client.getPeerName)
  let delivery ← step state (·.connect peer)
  let now ← IO.monoMsNow
  if delivery.closed then client.shutdown
  else
    background do
      try converse state limits client peer now now
      catch _ => discard (attend state peer (·.hangUp peer))

partial def serve (state : Std.Mutex Runtime) (limits : PerformanceSettings)
    (listener : TCP.Socket.Server) (interrupt terminate : Signal.Waiter) : Async IsolatedSite.Signal := do
  let signal ←
    try
      Selectable.one #[
        .case listener.acceptSelector fun client => do
          welcome state limits client
          pure none,
        .case interrupt.selector fun _ => pure (some .interrupt),
        .case terminate.selector fun _ => pure (some .terminate)]
    catch e => do
      discard (step state fun s => (s.acceptFailed (faultOf e), {}))
      pure none
  match signal with
  | some signal => return signal
  | none => serve state limits listener interrupt terminate

def environment : IO Environment := do
  let entries := splitOn 0 (← IO.FS.readBinFile "/proc/self/environ").toList
  return entries.filterMap fun entry =>
    match splitFirst 0x3D entry with
    | (name, some value) => some (Utf8.lossyText name, Utf8.lossyText value)
    | _ => none

def logStream (here : Bytes) (path : Option String) (otherwise : IO.FS.Stream) : IO IO.FS.Stream := do
  match path with
  | none => return otherwise
  | some path =>
    let p := Path.join here (Utf8.octets path)
    if let some above := Path.parent? p then IO.FS.createDirAll (Utf8.lossyText above)
    return .ofHandle (← IO.FS.Handle.mk (Utf8.lossyText p) .append)

def logged (j : Journal) : LogTarget → Bytes
  | .file id =>
    match j.tree.node? id with
    | some ⟨.file data, _, _⟩ => data
    | _ => []
  | _ => []

def openRuntime (here : Bytes) (s : Server) : IO Runtime := do
  let log := s.service.settings.logging
  let access ← logStream here log.accessLogFile (← IO.getStdout)
  let error ← logStream here log.errorLogFile (← IO.getStderr)
  put (← IO.getStdout) s.journal.output
  put (← IO.getStderr) s.journal.errors
  if let some w := s.journal.writer then
    put access (logged s.journal w.access)
    put error (logged s.journal w.error)
  let writer := s.journal.writer.map fun w => { w with access := .output, error := .errors }
  return ⟨{ s with journal := { tree := .bare, writer := writer } }, access, error⟩

def finish (e : Exit) : IO UInt32 := do
  put (← IO.getStdout) e.journal.output
  put (← IO.getStderr) e.journal.errors
  return e.code.toUInt32

/-- The surroundings with the disk looked at where a start needs it. Which logs there are is known
only when the settings have been read. -/
def survey (w : Surroundings) : IO Surroundings := do
  let inPlace := fun (w : Surroundings) (t : FileTree) =>
    { w with tree := { t with workingDirectory := (t.canonical w.here).toOption.getD .root } }
  let w := inPlace w (← Disk.survey true (w.here :: w.paths))
  let logs := (w.paths.map (Path.join w.here)).drop (SettingsFile.candidates w.here none).length
  return inPlace w (← logs.foldlM (Disk.addPath false Disk.linkLimit) w.tree)

def listen (l : Launched) : IO (Except Fault TCP.Socket.Server) := do
  try
    let listener ← TCP.Socket.Server.mk
    listener.bind (toNet l.address)
    listener.listen l.server.service.settings.performance.backlog.toUInt32
    return .ok listener
  catch e => return .error (faultOf e)

def run (arguments : List String) : IO UInt32 := do
  let here := Utf8.octets (← IO.currentDir).toString
  let w ← survey ⟨arguments.map Utf8.octets, ← environment, here, .bare, .ok⟩
  match Launched.start w with
  | .error e => finish e
  | .ok l =>
    match ← listen l with
    | .error f =>
      match Launched.start { w with listen := fun _ => .error f } with
      | .error e => finish e
      | .ok _ => return 1
    | .ok listener =>
      let state ← Std.Mutex.new (← openRuntime here l.server)
      let interrupt ← Signal.Waiter.mk .sigint false
      let terminate ← Signal.Waiter.mk .sigterm false
      let signal ← (serve state l.server.service.settings.performance listener interrupt terminate).block
      discard (step state fun s =>
        ({ s with journal := ({ l with server := s }.stop signal).journal }, {}))
      return 0

end IsolatedSite.Main

def main (arguments : List String) : IO UInt32 := IsolatedSite.Main.run arguments
