import IsolatedSite.Address.Socket
import IsolatedSite.Log.AccessEntry
import IsolatedSite.Log.Level
import IsolatedSite.Settings.Read
import IsolatedSite.Settings.Source

namespace IsolatedSite.Settings

def merged? (defaults file env arguments : Layer) : Option Value := do
  let sources ← Layer.stack? [file, env]
  arguments.over? (← sources.over? (← defaults.over? Value.emptyTable))

def merge (defaults file env arguments : Layer) : Reading Value :=
  match merged? defaults file env arguments with
  | some root => .ok root
  | none => .error .noPlace

def load (t : FileTree) (here : Bytes) (env : Environment) (a : Arguments) : Reading Settings := do
  let file ← SettingsFile.layer t here a.config
  ofValue (← merge (defaults here) file env.layer a.layer)

structure AddressFault where
  host : String
  reason : String
  deriving DecidableEq, Repr

def AddressFault.message (f : AddressFault) : String :=
  "Invalid address '" ++ f.host ++ "': " ++ f.reason

def unresolved (host : String) : String :=
  if host.toList.contains '\x00' then Fault.nulInPath.message
  else "failed to lookup address information: Name or service not known"

def address (s : Settings) : Except AddressFault SocketAddress :=
  match IpAddress.ofHost? s.server.bind with
  | some ip => .ok ⟨ip, s.server.port⟩
  | none => .error ⟨s.server.bind, unresolved s.server.bind⟩

inductive Objection where
  | portZero
  | backlogZero
  | badLevel (message : String)
  | badFormat (message : String)
  | badAddress (fault : AddressFault)
  deriving DecidableEq, Repr

def Objection.message : Objection → String
  | .portZero => "Invalid port 0: an explicit listen port is required"
  | .backlogZero => "performance.backlog must be greater than 0"
  | .badLevel message => message
  | .badFormat message => message
  | .badAddress fault => fault.message

def check (s : Settings) : Except Objection Unit := do
  if s.server.port = 0 then throw .portZero
  if s.performance.backlog = 0 then throw .backlogZero
  let _ ← (Level.parse s.logging.level).mapError .badLevel
  let _ ← (LineFormat.parse s.logging.accessLogFormat).mapError .badFormat
  let _ ← s.address.mapError .badAddress
  return ()

end IsolatedSite.Settings
