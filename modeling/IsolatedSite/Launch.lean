import IsolatedSite.CommandLine
import IsolatedSite.Server
import IsolatedSite.Settings.Load

namespace IsolatedSite

/-- What a program finds when it starts. The operating system tells at which address it really
listens, or why it does not. -/
structure Surroundings where
  arguments : List Bytes
  environment : Environment
  here : Bytes
  tree : FileTree
  listen : SocketAddress → Except Fault SocketAddress

namespace Surroundings

def readArguments (w : Surroundings) : Except UsageStop Arguments :=
  CommandLine.parse w.arguments (w.environment.find? "PORT")

def readSettings (w : Surroundings) (a : Arguments) : Reading Settings :=
  Settings.load w.tree w.here w.environment a

def paths (w : Surroundings) : List Bytes :=
  match w.readArguments with
  | .error _ => []
  | .ok a =>
    SettingsFile.candidates w.here a.config ++
      match w.readSettings a with
      | .error _ => []
      | .ok s => (s.logging.accessLogFile.toList ++ s.logging.errorLogFile.toList).map Utf8.octets

end Surroundings

structure Exit where
  code : Nat
  journal : Journal
  deriving DecidableEq

inductive Signal where
  | interrupt
  | terminate
  deriving DecidableEq, Repr

namespace Signal

def name : Signal → String
  | .interrupt => "SIGINT"
  | .terminate => "SIGTERM"

end Signal

namespace Exit

def ofStop (j : Journal) (stop : UsageStop) : Exit :=
  let text := Utf8.octets stop.report
  ⟨stop.exitCode,
    if stop.isError then { j with errors := j.errors ++ text }
    else { j with output := j.output ++ text }⟩

def failed (j : Journal) (word : String) : Exit := ⟨1, j.toErrors ("Error: " ++ word)⟩

def crashed (j : Journal) : Exit := ⟨101, j⟩

/-- Keys that cannot be used are not expected, and the program does not go on. -/
def ofSettingsFault (j : Journal) : SettingsFault → Exit
  | .document .unusableKey => crashed j
  | .noPlace => crashed j
  | fault => failed j fault.text

end Exit

structure Launched where
  server : Server
  address : SocketAddress

namespace Launched

def ofSettings (w : Surroundings) (s : Settings) (j : Journal) : Except Exit Launched := do
  let address ← s.address.mapError fun f => .failed j (Text.quoted f.message)
  let bound ← (w.listen address).mapError fun f =>
    .failed (j.error ("Failed to bind " ++ address.text ++ ": " ++ f.message)) f.report
  let site ← (Site.ofSettings w.here s).mapError fun f => .failed j f.report
  return ⟨.start ⟨site, s⟩ (j.serverStarted address.text site.root s), bound⟩

def start (w : Surroundings) : Except Exit Launched := do
  let j : Journal := { tree := w.tree }
  let arguments ← w.readArguments.mapError (.ofStop j)
  let s ← (w.readSettings arguments).mapError (.ofSettingsFault j)
  let _ ← s.check.mapError fun o => .failed j (Text.quoted o.message)
  match j.initFrom s with
  | (j, .error f) => throw (.failed j f.report)
  | (j, .ok ()) => if s.server.workers = some 0 then throw (.crashed j) else ofSettings w s j

def stop (l : Launched) (signal : Signal) : Exit :=
  let s := { l.server with journal := l.server.journal.debug (signal.name ++ " received") }
  ⟨0, s.stop.journal⟩

end Launched

end IsolatedSite
