import IsolatedSite.FileTree.Edit
import IsolatedSite.Log.AccessEntry
import IsolatedSite.Log.Level
import IsolatedSite.Text.Quoted

namespace IsolatedSite

inductive LogTarget where
  | output
  | errors
  | file (id : NodeId)
  deriving DecidableEq, Repr

structure LogWriter where
  level : Level
  access : LogTarget
  error : LogTarget
  deriving DecidableEq, Repr

structure Journal where
  tree : FileTree
  output : Bytes := []
  errors : Bytes := []
  writer : Option LogWriter := none
  deriving DecidableEq

namespace Journal

/-- Opens a log file for appending, making it and the directories above it. These stay even if the
file cannot be opened. -/
def openLog (t : FileTree) (path : String) : Except (FileTree × Fault) (FileTree × NodeId) :=
  let p := Utf8.octets path
  match t.makeParents p with
  | (t, .error e) => .error (t, e)
  | (t, .ok ()) => (t.openOrCreate p).mapError fun e => (t, e)

def openTarget (t : FileTree) (path : Option String) (otherwise : LogTarget) :
    Except (FileTree × Fault) (FileTree × LogTarget) :=
  match path with
  | none => .ok (t, otherwise)
  | some path => (openLog t path).map fun (t, id) => (t, .file id)

def alreadyOpen : Fault := .noted .alreadyExists "Log writer already initialized"

/-- Sets the writer up, once. Files are opened, and made, even if that turns out to be in vain. -/
def init (j : Journal) (level : Level) (accessFile errorFile : Option String) :
    Journal × Except Fault Unit :=
  match openTarget j.tree accessFile .output with
  | .error (t, e) => ({ j with tree := t }, .error e)
  | .ok (t, access) =>
    match openTarget t errorFile .errors with
    | .error (t, e) => ({ j with tree := t }, .error e)
    | .ok (t, error) =>
      match j.writer with
      | some _ => ({ j with tree := t }, .error alreadyOpen)
      | none => ({ j with tree := t, writer := some ⟨level, access, error⟩ }, .ok ())

def lineOctets (line : String) : Bytes := Utf8.octets line ++ [0x0A]

def toOutput (j : Journal) (line : String) : Journal := { j with output := j.output ++ lineOctets line }

def toErrors (j : Journal) (line : String) : Journal := { j with errors := j.errors ++ lineOctets line }

def write (j : Journal) (target : LogTarget) (line : String) : Journal :=
  match target with
  | .output => j.toOutput line
  | .errors => j.toErrors line
  | .file id =>
    match j.tree.append id (lineOctets line) with
    | .ok t => { j with tree := t }
    | .error e => (j.toErrors ("[ERROR] Failed to write log file: " ++ e.message)).toErrors line

/-- Before a writer is set up, everything up to information is let through. -/
def limit (j : Journal) : Level := (j.writer.map (·.level)).getD .info

def enabled (j : Journal) (l : Level) : Bool := l.enabledAt j.limit

def toAccess (j : Journal) (line : String) : Journal :=
  j.write ((j.writer.map (·.access)).getD .output) line

def toError (j : Journal) (line : String) : Journal :=
  j.write ((j.writer.map (·.error)).getD .errors) line

def info (j : Journal) (line : String) : Journal := if j.enabled .info then j.toAccess line else j

def report (j : Journal) (l : Level) (line : String) : Journal :=
  if j.enabled l then j.toError line else j

def marked : Level → String → String
  | .error, message => "[ERROR] " ++ message
  | .warn, message => "[WARN] " ++ message
  | .debug, message => "[DEBUG] " ++ message
  | .info, message => message

def error (j : Journal) (message : String) : Journal := j.report .error (marked .error message)

def warning (j : Journal) (message : String) : Journal := j.report .warn (marked .warn message)

def debug (j : Journal) (message : String) : Journal := j.report .debug (marked .debug message)

def access (j : Journal) (e : AccessEntry) (f : LineFormat) : Journal := j.info (e.line f)

def shutdown (j : Journal) (reason : String) : Journal :=
  j.info ("[Shutdown] " ++ reason ++ ", stopping listener")

def acceptedMessage (peer : String) : String := "[Connection] Accepted from: " ++ peer

def connectionAccepted (j : Journal) (peer : String) : Journal := j.debug (acceptedMessage peer)

def connectionFailedMessage (reason : String) : String := "Failed to serve connection: " ++ reason

def connectionFailed (j : Journal) (reason : String) : Journal :=
  j.error (connectionFailedMessage reason)

end Journal

end IsolatedSite
