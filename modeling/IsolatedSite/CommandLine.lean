import IsolatedSite.Text.Similarity
import IsolatedSite.Text.Split
import IsolatedSite.Text.Wrap

namespace IsolatedSite

structure Arguments where
  bind : Option String := none
  port : Option Nat := none
  dir : Option Bytes := none
  config : Option String := none
  deriving DecidableEq, Repr

inductive CommandOption where
  | bind
  | port
  | dir
  | config
  deriving DecidableEq, Repr

namespace CommandOption

def name : CommandOption → String
  | .bind => "bind"
  | .port => "port"
  | .dir => "dir"
  | .config => "config"

def usage : CommandOption → String
  | .bind => "--bind <BIND>"
  | .port => "--port <PORT>"
  | .dir => "--dir <DIR>"
  | .config => "--config <CONFIG>"

def ofName? (s : String) : Option CommandOption :=
  [CommandOption.bind, .port, .dir, .config].find? (·.name == s)

end CommandOption

inductive LongName where
  | option (option : CommandOption)
  | help
  | version
  deriving DecidableEq, Repr

namespace LongName

def all : List LongName :=
  [.option .bind, .option .port, .option .dir, .option .config, .help, .version]

def name : LongName → String
  | .option o => o.name
  | .help => "help"
  | .version => "version"

def flag (n : LongName) : String := "--" ++ n.name

def usage : LongName → String
  | .option o => o.usage
  | n => n.flag

def ofName? (s : String) : Option LongName := all.find? (·.name == s)

/-- Names that resemble each other more than this are mistaken for each other. -/
def mistakable : Binary64 := .ofDecimal false 7 (-1)

def likely? (s : String) : Option LongName :=
  let closer := fun (best : Binary64 × Option LongName) n =>
    let x := Text.similarity s.toList n.name.toList
    if Binary64.less mistakable x && !x.less best.1 then (x, some n) else best
  (all.foldl closer (.ofNat 0, none)).2

end LongName

/-- Why the program does not go on with the command line. The help text shows the value that the
environment has for the port. Some stops tell how the program is used with the options that were
given. -/
inductive UsageStop where
  | help (port : Option String)
  | version
  | missingValue (option : CommandOption)
  | unknown (argument : String) (similar : Option LongName) (given : List LongName)
  | repeated (option : CommandOption)
  | badValue (value : String) (option : CommandOption) (reason : String)
  | extraValue (value : String) (flag : LongName) (given : List LongName)
  | notText
  deriving DecidableEq, Repr

namespace CommandLine

def programName : String := "coi-serve"

def versionText : String := programName ++ " 0.1.0\n"

def usageWith (given : List LongName) : String :=
  "Usage: " ++ programName ++
    if given.isEmpty then " [OPTIONS]" else String.join (given.map fun n => " " ++ n.usage)

def usageLine : String := usageWith []

def helpWidth : Nat := 100

def nameWidth : Nat := 25

def described (text : String) : String :=
  String.ofList
    (Text.indent (List.replicate nameWidth ' ') (Text.wrap (helpWidth - nameWidth) text.toList))

def helpText (port : Option String) : String :=
  "Static file server that adds cross-origin isolation headers and disables caching\n\n" ++
  usageLine ++ "\n\nOptions:\n" ++
  "      --bind <BIND>      Address to listen on [default: 127.0.0.1]\n" ++
  "      --port <PORT>      " ++
  described ("Port to listen on [default: 8000] [env: PORT=" ++ port.getD "" ++ "]") ++ "\n" ++
  "      --dir <DIR>        Directory to serve [default: current directory]\n" ++
  "      --config <CONFIG>  Configuration file (extension optional)\n" ++
  "  -h, --help             Print help\n" ++
  "  -V, --version          Print version\n"

end CommandLine

namespace UsageStop

def statement : UsageStop → String
  | .help port => CommandLine.helpText port
  | .version => CommandLine.versionText
  | .missingValue option =>
    "error: a value is required for '" ++ option.usage ++ "' but none was supplied"
  | .unknown argument _ _ => "error: unexpected argument '" ++ argument ++ "' found"
  | .repeated option =>
    "error: the argument '" ++ option.usage ++ "' cannot be used multiple times"
  | .badValue value option reason =>
    "error: invalid value '" ++ value ++ "' for '" ++ option.usage ++ "': " ++ reason
  | .extraValue value flag _ =>
    "error: unexpected value '" ++ value ++ "' for '" ++ flag.flag ++
      "' found; no more were expected"
  | .notText => "error: invalid UTF-8 was detected in one or more arguments"

def isError : UsageStop → Bool
  | .help _ => false
  | .version => false
  | _ => true

def exitCode (s : UsageStop) : Nat := if s.isError then 2 else 0

def usage? : UsageStop → Option (List LongName)
  | .unknown _ _ given => some given
  | .repeated _ => some []
  | .extraValue _ _ given => some given
  | .notText => some []
  | _ => none

def tip? : UsageStop → Option String
  | .unknown _ (some n) _ => some ("  tip: a similar argument exists: '" ++ n.flag ++ "'")
  | _ => none

def report (s : UsageStop) : String :=
  if s.isError then
    let parts :=
      [s.statement] ++ s.tip?.toList ++ (s.usage?.map CommandLine.usageWith).toList ++
        ["For more information, try '--help'.\n"]
    Text.shown ("\n\n".intercalate parts)
  else Text.shown s.statement

def message (s : UsageStop) : String :=
  if s.isError then String.ofList (Text.firstLine s.report.toList) else s.report

end UsageStop

namespace CommandLine

abbrev Parsed (α : Type) := Except UsageStop α

def portLimit : Nat := 65535

def splitSign : List Char → Bool × List Char
  | '-' :: ds => (true, ds)
  | '+' :: ds => (false, ds)
  | ds => (false, ds)

/-- Reads a port from left to right, so digits that are too many are noticed before what follows
them. -/
def readPort (s : String) : Except String Nat :=
  let (negative, ds) := splitSign s.toList
  if s.isEmpty then .error "cannot parse integer from empty string"
  else
    let n := Decimal.value (ds.takeWhile Decimal.isDigit)
    if negative ∧ n > Nat.pow 2 63 then .error "number too small to fit in target type"
    else if ¬ negative ∧ n ≥ Nat.pow 2 63 then .error "number too large to fit in target type"
    else if ds.isEmpty ∨ ¬ ds.all Decimal.isDigit then .error "invalid digit found in string"
    else if negative ∧ n > 0 then .error ("-" ++ Decimal.text n ++ " is not in 0..=65535")
    else if n > portLimit then .error (Decimal.text n ++ " is not in 0..=65535")
    else .ok n

def isSet (a : Arguments) : CommandOption → Bool
  | .bind => a.bind.isSome
  | .port => a.port.isSome
  | .dir => a.dir.isSome
  | .config => a.config.isSome

def textOf (value : Bytes) : Parsed String :=
  match Utf8.text? value with
  | some s => .ok s
  | none => .error .notText

def parsePort (value : Bytes) : Parsed Nat := do
  let s ← textOf value
  (readPort s).mapError fun reason => .badValue s .port reason

def store (a : Arguments) (option : CommandOption) (value : Bytes) : Parsed Arguments :=
  if isSet a option then .error (.repeated option)
  else
    match option with
    | .bind => (textOf value).map fun s => { a with bind := some s }
    | .config => (textOf value).map fun s => { a with config := some s }
    | .port => (parsePort value).map fun n => { a with port := some n }
    | .dir => if value.isEmpty then .error (.missingValue .dir) else .ok { a with dir := some value }

/-- What has been read: the arguments, the options they were given with in order, an option whose
value is not settled, and whether a double dash has ended the options. -/
structure Progress where
  arguments : Arguments := {}
  given : List CommandOption := []
  pending : Option (CommandOption × Option Bytes) := none
  ended : Bool := false
  deriving DecidableEq, Repr

def settle (p : Progress) : Parsed Progress :=
  match p.pending with
  | none => .ok p
  | some (option, none) => .error (.missingValue option)
  | some (option, some value) =>
    (store p.arguments option value).map fun a =>
      { p with arguments := a, given := p.given ++ [option], pending := none }

/-- The options given so far and the one before the present argument, whatever its value is. An
option that is given twice is taken back. -/
def givenByNow (p : Progress) : List CommandOption :=
  match p.pending with
  | some (option, some _) =>
    if p.given.contains option then p.given.erase option else p.given ++ [option]
  | _ => p.given

def unknownName (p : Progress) (name : String) : UsageStop :=
  let similar := LongName.likely? name
  let given := (givenByNow p).map LongName.option
  .unknown ("--" ++ name) similar (given ++ similar.toList.filter (!given.contains ·))

def dash : UInt8 := 0x2D

def stopWith (p : Progress) (stop : UsageStop) : Parsed Progress :=
  (settle p).bind fun _ => .error stop

def stepLong (port : Option String) (p : Progress) (body : Bytes) : Parsed Progress :=
  let (name, value) := splitFirst 0x3D body
  let nameText := Utf8.lossyText name
  match LongName.ofName? nameText, value with
  | none, _ => .error (unknownName p nameText)
  | some (.option option), value =>
    (settle p).bind fun p =>
      match value with
      | some v =>
        (store p.arguments option v).map fun a =>
          { p with arguments := a, given := p.given ++ [option] }
      | none => .ok { p with pending := some (option, none) }
  | some flag, some v =>
    .error (.extraValue (Utf8.lossyText v) flag (p.given.map .option ++ [flag]))
  | some .help, none => stopWith p (.help port)
  | some .version, none => stopWith p .version

def stray (word : String) : UsageStop := .unknown word none []

def stepShort (port : Option String) (p : Progress) (body : Bytes) : Parsed Progress :=
  match Utf8.lossy body with
  | 'h' :: _ => stopWith p (.help port)
  | 'V' :: _ => stopWith p .version
  | c :: _ => .error (stray (String.ofList ['-', c]))
  | [] => .error (stray "-")

def stepWord (p : Progress) (argument : Bytes) : Parsed Progress :=
  match p.pending with
  | some (option, none) =>
    if p.ended then .error (stray (Utf8.lossyText argument))
    else .ok { p with pending := some (option, some argument) }
  | _ => .error (stray (Utf8.lossyText argument))

def step (port : Option String) (p : Progress) (argument : Bytes) : Parsed Progress :=
  if p.ended then stepWord p argument
  else
    match argument with
    | a :: b :: rest =>
      if a = dash ∧ b = dash then
        if rest.isEmpty then .ok { p with ended := true } else stepLong port p rest
      else if a = dash then stepShort port p (b :: rest)
      else stepWord p argument
    | _ => stepWord p argument

def parse (arguments : List Bytes) (port : Option String) : Parsed Arguments := do
  let p ← arguments.foldlM (step port) {}
  let p ← settle p
  match p.arguments.port, port with
  | none, some s => do
    let n ← parsePort (Utf8.octets s)
    return { p.arguments with port := some n }
  | _, _ => return p.arguments

end CommandLine

end IsolatedSite
