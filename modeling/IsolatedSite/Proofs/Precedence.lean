import IsolatedSite.Proofs.General
import IsolatedSite.Proofs.SourceLayers
import Mathlib.Control.Monad.Basic

namespace IsolatedSite

namespace Settings

def Reads {α : Type} (read : Value → Reading α) (v? : Option Value) (x : α) : Prop :=
  ∃ v, v? = some v ∧ read v = .ok x

inductive ReadsOption {α : Type} (read : Value → Reading α) : Option Value → Option α → Prop
  | missing : ReadsOption read none none
  | present {v : Value} {x : Option α} (h : Value.readOption read v = .ok x) : ReadsOption read (some v) x

end Settings

open Settings

structure ServerSettings.Follows (chosen : String → Option Value) (x : ServerSettings) : Prop where
  bind : Reads Value.readText (chosen "bind") x.bind
  port : Reads (Value.readBounded 16) (chosen "port") x.port
  root : Reads Value.readText (chosen "root") x.root
  workers : ReadsOption Value.readNat (chosen "workers") x.workers

structure LogSettings.Follows (chosen : String → Option Value) (x : LogSettings) : Prop where
  level : Reads Value.readText (chosen "level") x.level
  accessLog : Reads Value.readBool (chosen "access_log") x.accessLog
  accessLogFormat : Reads Value.readText (chosen "access_log_format") x.accessLogFormat
  accessLogFile : ReadsOption Value.readText (chosen "access_log_file") x.accessLogFile
  errorLogFile : ReadsOption Value.readText (chosen "error_log_file") x.errorLogFile

structure PerformanceSettings.Follows (chosen : String → Option Value) (x : PerformanceSettings) :
    Prop where
  keepAlive : Reads Value.readBool (chosen "keep_alive") x.keepAlive
  backlog : Reads (Value.readBounded 32) (chosen "backlog") x.backlog
  maxConnections : ReadsOption Value.readNat (chosen "max_connections") x.maxConnections
  headerReadTimeout : ReadsOption Value.readNat (chosen "header_read_timeout") x.headerReadTimeout
  connectionTimeout : ReadsOption Value.readNat (chosen "connection_timeout") x.connectionTimeout

structure HttpSettings.Follows (chosen : String → Option Value) (x : HttpSettings) : Prop where
  serverName : Reads Value.readText (chosen "server_name") x.serverName

namespace Settings

/-- Settings that hold what was chosen for each section and key. -/
structure Follows (chosen : String × String → Option Value) (s : Settings) : Prop where
  server : s.server.Follows fun key => chosen ("server", key)
  logging : s.logging.Follows fun key => chosen ("logging", key)
  performance : s.performance.Follows fun key => chosen ("performance", key)
  http : s.http.Follows fun key => chosen ("http", key)

section Reading

variable {α : Type} {entries : List (String × Value)} {name : String} {position : Nat}
  {read : Value → Reading α}

theorem mapError_eq_ok_iff {x : Reading α} {f : SettingsFault → SettingsFault} {a : α} :
    x.mapError f = .ok a ↔ x = .ok a := by
  cases x with
  | error fault => exact ⟨nofun, nofun⟩
  | ok a' => exact Iff.rfl

theorem reads_some_iff {v : Value} {x : α} : Reads read (some v) x ↔ read v = .ok x := by
  constructor
  · rintro ⟨_, ⟨⟩, h⟩
    exact h
  · exact fun h => ⟨v, rfl, h⟩

theorem required_eq_ok_iff {x : α} :
    (Fields.named entries).required name position read = .ok x ↔ Reads read (entries.lookup name) x := by
  rw [Fields.required, Fields.find?]
  cases entries.lookup name with
  | none => exact ⟨nofun, nofun⟩
  | some v => exact mapError_eq_ok_iff.trans reads_some_iff.symm

theorem defaulted_eq_ok_iff {x : Option α} :
    (Fields.named entries).defaulted name position none (Value.readOption read) = .ok x ↔
      ReadsOption read (entries.lookup name) x := by
  rw [Fields.defaulted, Fields.find?]
  cases entries.lookup name with
  | none =>
      constructor
      · rintro ⟨⟩
        exact .missing
      · rintro ⟨⟩
        rfl
  | some v =>
      simp only [mapError_eq_ok_iff]
      constructor
      · exact .present
      · rintro ⟨⟩
        assumption

theorem readSection_eq_ok_iff {root : Value} {x : α} :
    readSection root name read = .ok x ↔ Reads read (root.lookup? name) x := by
  rw [readSection]
  cases root.lookup? name with
  | none => exact ⟨nofun, nofun⟩
  | some v => exact mapError_eq_ok_iff.trans reads_some_iff.symm

end Reading

variable {v : Value}

theorem readServer_eq_ok_iff (h : v.isTable = true) {x : ServerSettings} :
    readServer v = .ok x ↔ x.Follows v.lookup? := by
  cases v with
  | scalar | list => cases h
  | table entries origin =>
      simp only [readServer, Fields.ofValue, bind_eq_ok_iff, Except.ok.injEq, exists_eq_left',
        Fields.listedOption, required_eq_ok_iff, defaulted_eq_ok_iff]
      constructor
      · rintro ⟨bind, hbind, port, hport, root, hroot, workers, hworkers, ⟨⟩⟩
        exact ⟨hbind, hport, hroot, hworkers⟩
      · rintro ⟨hbind, hport, hroot, hworkers⟩
        exact ⟨_, hbind, _, hport, _, hroot, _, hworkers, rfl⟩

theorem readLogging_eq_ok_iff (h : v.isTable = true) {x : LogSettings} :
    readLogging v = .ok x ↔ x.Follows v.lookup? := by
  cases v with
  | scalar | list => cases h
  | table entries origin =>
      simp only [readLogging, Fields.ofValue, bind_eq_ok_iff, Except.ok.injEq, exists_eq_left',
        required_eq_ok_iff, defaulted_eq_ok_iff]
      constructor
      · rintro ⟨level, hlevel, log, hlog, format, hformat, file, hfile, error, herror, ⟨⟩⟩
        exact ⟨hlevel, hlog, hformat, hfile, herror⟩
      · rintro ⟨hlevel, hlog, hformat, hfile, herror⟩
        exact ⟨_, hlevel, _, hlog, _, hformat, _, hfile, _, herror, rfl⟩

theorem readPerformance_eq_ok_iff (h : v.isTable = true) {x : PerformanceSettings} :
    readPerformance v = .ok x ↔ x.Follows v.lookup? := by
  cases v with
  | scalar | list => cases h
  | table entries origin =>
      simp only [readPerformance, Fields.ofValue, bind_eq_ok_iff, Except.ok.injEq, exists_eq_left',
        required_eq_ok_iff, defaulted_eq_ok_iff]
      constructor
      · rintro ⟨alive, halive, backlog, hbacklog, limit, hlimit, head, hhead, time, htime, ⟨⟩⟩
        exact ⟨halive, hbacklog, hlimit, hhead, htime⟩
      · rintro ⟨halive, hbacklog, hlimit, hhead, htime⟩
        exact ⟨_, halive, _, hbacklog, _, hlimit, _, hhead, _, htime, rfl⟩

theorem exists_readTexts (h : v.IsTexts) : ∃ types, v.readTexts = .ok types := by
  obtain ⟨htable, htexts⟩ := h
  cases v with
  | scalar | list => cases htable
  | table entries origin =>
      rw [Value.readTexts]
      replace htexts : ∀ e ∈ entries, ∃ s, e.2.readText = .ok s := htexts
      induction entries with
      | nil => exact ⟨[], rfl⟩
      | cons e rest ih =>
          rw [List.forall_mem_cons] at htexts
          obtain ⟨s, hs⟩ := htexts.1
          obtain ⟨types, htypes⟩ := ih rfl htexts.2
          refine ⟨(e.1, s) :: types, ?_⟩
          rw [Value.readPairs, hs, htypes]
          rfl

theorem readHttp_eq_ok_iff (h : v.isTable = true) (hv : IsSection "http" v) {x : HttpSettings} :
    (∃ types, readHttp v = .ok { x with mimeTypes := types }) ↔ x.Follows v.lookup? := by
  cases v with
  | scalar | list => cases h
  | table entries origin =>
      have htypes : ∃ types, (Fields.named entries).defaulted "mime_types" 1 [] Value.readTexts = .ok types := by
        rw [Fields.defaulted, Fields.find?]
        cases hfound : entries.lookup "mime_types" with
        | none => exact ⟨[], rfl⟩
        | some w =>
            cases hv.field_of_lookup? hfound with
            | leaf hkey => exact absurd hkey (by decide)
            | mediaTypes hw =>
                obtain ⟨types, htypes⟩ := exists_readTexts hw
                exact ⟨types, mapError_eq_ok_iff.2 htypes⟩
      obtain ⟨types, htypes⟩ := htypes
      simp only [readHttp, Fields.ofValue, bind_eq_ok_iff, Except.ok.injEq, exists_eq_left',
        required_eq_ok_iff, htypes]
      constructor
      · rintro ⟨_, _, hname, ⟨⟩⟩
        exact ⟨hname⟩
      · exact fun hx => ⟨types, x.serverName, hx.serverName, rfl⟩

variable {root : Value} {s : Settings}

theorem exists_section {sect key : String} {α : Type} {read : Value → Reading α} {x : α}
    (h : Reads read (leaf? root (sect, key)) x) : ∃ w, root.lookup? sect = some w := by
  obtain ⟨v, hv, -⟩ := h
  obtain ⟨w, hw, -⟩ := Option.bind_eq_some_iff.1 hv
  exact ⟨w, hw⟩

theorem ofValue_eq_ok_iff (h : IsSectioned root) :
    (∃ types, ofValue root = .ok { s with http.mimeTypes := types }) ↔ s.Follows (leaf? root) := by
  simp only [ofValue, bind_eq_ok_iff, readSection_eq_ok_iff]
  constructor
  · rintro ⟨types, server, ⟨v, hv, hserver⟩, logging, ⟨v', hv', hlogging⟩, performance,
      ⟨v'', hv'', hperformance⟩, http, ⟨w, hw, hhttp⟩, ⟨⟩⟩
    obtain ⟨htable, hsection⟩ := h.section_of_lookup? hw
    refine ⟨?_, ?_, ?_, ?_⟩
    · rw [leaf?_of_lookup? hv]
      exact (readServer_eq_ok_iff (h.section_of_lookup? hv).1).1 hserver
    · rw [leaf?_of_lookup? hv']
      exact (readLogging_eq_ok_iff (h.section_of_lookup? hv').1).1 hlogging
    · rw [leaf?_of_lookup? hv'']
      exact (readPerformance_eq_ok_iff (h.section_of_lookup? hv'').1).1 hperformance
    · rw [leaf?_of_lookup? hw]
      exact (readHttp_eq_ok_iff htable hsection).1 ⟨_, hhttp⟩
  · rintro ⟨hserver, hlogging, hperformance, hhttp⟩
    obtain ⟨v, hv⟩ := exists_section hserver.bind
    obtain ⟨v', hv'⟩ := exists_section hlogging.level
    obtain ⟨v'', hv''⟩ := exists_section hperformance.keepAlive
    obtain ⟨w, hw⟩ := exists_section hhttp.serverName
    rw [leaf?_of_lookup? hv, ← readServer_eq_ok_iff (h.section_of_lookup? hv).1] at hserver
    rw [leaf?_of_lookup? hv', ← readLogging_eq_ok_iff (h.section_of_lookup? hv').1] at hlogging
    rw [leaf?_of_lookup? hv'', ← readPerformance_eq_ok_iff (h.section_of_lookup? hv'').1] at hperformance
    obtain ⟨htable, hsection⟩ := h.section_of_lookup? hw
    rw [leaf?_of_lookup? hw, ← readHttp_eq_ok_iff htable hsection] at hhttp
    obtain ⟨types, hhttp⟩ := hhttp
    exact ⟨types, _, ⟨v, hv, hserver⟩, _, ⟨v', hv', hlogging⟩, _, ⟨v'', hv'', hperformance⟩, _,
      ⟨w, hw, hhttp⟩, rfl⟩

section Chosen

variable {f g : String × String → Option Value}

theorem Follows.congr (h : ∀ leaf ∈ leaves, f leaf = g leaf) (hs : s.Follows f) : s.Follows g := by
  simp only [leaves, List.forall_mem_cons] at h
  obtain ⟨⟨_, _, _, _⟩, ⟨_, _, _, _, _⟩, ⟨_, _, _, _, _⟩, ⟨_⟩⟩ := hs
  refine ⟨⟨?_, ?_, ?_, ?_⟩, ⟨?_, ?_, ?_, ?_, ?_⟩, ⟨?_, ?_, ?_, ?_, ?_⟩, ⟨?_⟩⟩
  all_goals simp only [← h]; assumption

def readable (leaf : String × String) (v : Value) : Bool :=
  match leaf.2 with
  | "bind" | "root" | "level" | "access_log_format" | "server_name" => v.readText.isOk
  | "access_log" | "keep_alive" => v.readBool.isOk
  | "port" => (v.readBounded 16).isOk
  | "backlog" => (v.readBounded 32).isOk
  | "access_log_file" | "error_log_file" => (Value.readOption Value.readText v).isOk
  | _ => (Value.readOption Value.readNat v).isOk

theorem exists_of_isOk {α : Type} {x : Reading α} (h : x.isOk = true) : ∃ a, x = .ok a := by
  cases x with
  | error => cases h
  | ok a => exact ⟨a, rfl⟩

theorem exists_reads {α : Type} {read : Value → Reading α} {v? : Option Value} (hsome : v?.isSome = true)
    (h : ∀ v ∈ v?, (read v).isOk = true) : ∃ x, Reads read v? x := by
  obtain ⟨v, hv⟩ := Option.isSome_iff_exists.1 hsome
  obtain ⟨x, hx⟩ := exists_of_isOk (h v hv)
  exact ⟨x, v, hv, hx⟩

theorem exists_readsOption {α : Type} {read : Value → Reading α} {v? : Option Value}
    (h : ∀ v ∈ v?, (Value.readOption read v).isOk = true) : ∃ x, ReadsOption read v? x := by
  cases v? with
  | none => exact ⟨none, .missing⟩
  | some v =>
      obtain ⟨x, hx⟩ := exists_of_isOk (h v rfl)
      exact ⟨x, .present hx⟩

/-- Leaves that have to be there. -/
def required : List (String × String) :=
  [("server", "bind"), ("server", "port"), ("server", "root"), ("logging", "level"),
    ("logging", "access_log"), ("logging", "access_log_format"), ("performance", "keep_alive"),
    ("performance", "backlog"), ("http", "server_name")]

theorem exists_follows (hrequired : ∀ leaf ∈ required, (f leaf).isSome = true)
    (h : ∀ leaf ∈ leaves, ∀ v ∈ f leaf, readable leaf v = true) : ∃ s : Settings, s.Follows f := by
  simp only [required, List.forall_mem_cons] at hrequired
  simp only [leaves, List.forall_mem_cons, readable] at h
  obtain ⟨hbind', hport', hroot', hlevel', hlog', hformat', halive', hbacklog', hname', -⟩ := hrequired
  obtain ⟨hbind, hport, hroot, hworkers, hlevel, hlog, hformat, hfile, herror, halive, hbacklog, hlimit,
    hhead, htime, hname, -⟩ := h
  obtain ⟨bind, hbind⟩ := exists_reads hbind' hbind
  obtain ⟨port, hport⟩ := exists_reads hport' hport
  obtain ⟨root, hroot⟩ := exists_reads hroot' hroot
  obtain ⟨workers, hworkers⟩ := exists_readsOption hworkers
  obtain ⟨level, hlevel⟩ := exists_reads hlevel' hlevel
  obtain ⟨log, hlog⟩ := exists_reads hlog' hlog
  obtain ⟨format, hformat⟩ := exists_reads hformat' hformat
  obtain ⟨file, hfile⟩ := exists_readsOption hfile
  obtain ⟨error, herror⟩ := exists_readsOption herror
  obtain ⟨alive, halive⟩ := exists_reads halive' halive
  obtain ⟨backlog, hbacklog⟩ := exists_reads hbacklog' hbacklog
  obtain ⟨limit, hlimit⟩ := exists_readsOption hlimit
  obtain ⟨head, hhead⟩ := exists_readsOption hhead
  obtain ⟨time, htime⟩ := exists_readsOption htime
  obtain ⟨name, hname⟩ := exists_reads hname' hname
  exact ⟨⟨⟨bind, port, root, workers⟩, ⟨level, log, format, file, error⟩,
    ⟨alive, backlog, limit, head, time⟩, ⟨name, []⟩⟩, ⟨hbind, hport, hroot, hworkers⟩,
    ⟨hlevel, hlog, hformat, hfile, herror⟩, ⟨halive, hbacklog, hlimit, hhead, htime⟩, ⟨hname⟩⟩

end Chosen

/-- What the highest source says about a leaf that says anything about it. -/
def chosen (here : Bytes) (file : Layer) (env : Environment) (a : Arguments) (leaf : String × String) :
    Option Value :=
  (a.given? leaf).or ((env.setting? leaf).or ((file.leaf? leaf).or (builtIn? here leaf)))

theorem isSome_chosen (here : Bytes) (file : Layer) (env : Environment) (a : Arguments) :
    ∀ leaf ∈ required, (chosen here file env a leaf).isSome = true := by
  have hbuiltIn : ∀ leaf ∈ required, (builtIn? here leaf).isSome = true := by
    simp [required, builtIn?, defaults, Layer.dottedKey, Datum.lookup_cons]
  intro leaf hleaf
  simp only [chosen, Option.isSome_or, hbuiltIn leaf hleaf, Bool.or_true]

section Loading

variable {t : FileTree} {here : Bytes} {env : Environment} {a : Arguments} {file : Layer}

theorem load_eq_ofValue (hlayer : SettingsFile.layer t here a.config = .ok file) (hfile : file.Regular)
    (henv : env.Regular) :
    ∃ root, load t here env a = ofValue root ∧ IsSectioned root ∧
      ∀ leaf ∈ leaves, leaf? root leaf = chosen here file env a leaf := by
  obtain ⟨henv, hsetting⟩ := henv.layer
  have hdefaults := isDotted_defaults here
  obtain ⟨root, hroot, hsectioned, hleaf⟩ := merged?_of_regular hdefaults.regular hfile henv a.regular_layer
  refine ⟨root, ?_, hsectioned, fun leaf hmem => ?_⟩
  · have hmerge : merge (defaults here) file env.layer a.layer = .ok root := by rw [merge, hroot]
    rw [load, hlayer]
    change merge (defaults here) file env.layer a.layer >>= ofValue = _
    rw [hmerge]
    rfl
  · rw [hleaf leaf hmem, a.leaf?_layer, hsetting leaf hmem, hdefaults.leaf?_eq_lookup hmem]
    rfl

theorem follows_of_load (hlayer : SettingsFile.layer t here a.config = .ok file) (hfile : file.Regular)
    (henv : env.Regular) (hs : load t here env a = .ok s) : s.Follows (chosen here file env a) := by
  obtain ⟨root, hload, hsectioned, hchosen⟩ := load_eq_ofValue hlayer hfile henv
  rw [hload] at hs
  have hfollows : s.Follows (leaf? root) := (ofValue_eq_ok_iff hsectioned).1 ⟨_, hs⟩
  exact hfollows.congr hchosen

theorem exists_load_of_readable (hlayer : SettingsFile.layer t here a.config = .ok file)
    (hfile : file.Regular) (henv : env.Regular)
    (hreadable : ∀ leaf ∈ leaves, ∀ v ∈ chosen here file env a leaf, readable leaf v = true) :
    ∃ s, load t here env a = .ok s := by
  obtain ⟨root, hload, hsectioned, hchosen⟩ := load_eq_ofValue hlayer hfile henv
  obtain ⟨s, hs⟩ := exists_follows (isSome_chosen here file env a) hreadable
  obtain ⟨types, hs⟩ := (ofValue_eq_ok_iff hsectioned).2 (hs.congr fun leaf hmem => (hchosen leaf hmem).symm)
  exact ⟨_, hload.trans hs⟩

end Loading

def layeredTree : FileTree where
  nodes :=
    [⟨.directory [⟨⟨Utf8.octets "site.ini", Eq.refl true⟩, 1⟩], .forDirectories, ⟨2, 0⟩⟩,
      ⟨.file (Utf8.octets "[Server]\nPort=9000\nWorkers=2\n[logging]\nlevel=warn\n"), .forFiles, ⟨2, 0⟩⟩]
  workingDirectory := .root
  sound := by decide

def layeredEnvironment : Environment :=
  [("PATH", "/usr/bin"), ("COI_SERVE_SERVER__PORT", "8081"),
    ("Coi_Serve_Http__Mime_Types__Wasm", "application/wasm")]

def layeredArguments : Arguments := { bind := some "0.0.0.0", config := some "site" }

def layeredFile : Layer :=
  Value.ofEntries (some "site.ini")
    [("Server", .table [("Port", .text "9000"), ("Workers", .text "2")]),
      ("logging", .table [("level", .text "warn")])]

def layeredSettings : Settings where
  server := ⟨"0.0.0.0", 8081, "/", some 2⟩
  logging := ⟨"warn", true, "common", none, none⟩
  performance := ⟨true, 128, none, none, none⟩
  http := ⟨"coi-serve/0.1.0", [("wasm", "application/wasm")]⟩

deriving instance DecidableEq for SettingsFile.Found

theorem layer_layeredTree :
    SettingsFile.layer layeredTree (Utf8.octets "/") layeredArguments.config = .ok layeredFile := by
  have hfetch : SettingsFile.fetch layeredTree (Utf8.octets "/") (Utf8.octets "site") =
      .ok ⟨"site.ini", .ini, "[Server]\nPort=9000\nWorkers=2\n[logging]\nlevel=warn\n".toList⟩ := by
    decide +kernel
  have hread : DocumentFormat.read .ini "[Server]\nPort=9000\nWorkers=2\n[logging]\nlevel=warn\n".toList =
      .ok [("Server", .table [("Port", .text "9000"), ("Workers", .text "2")]),
        ("logging", .table [("level", .text "warn")])] := by
    rfl
  rw [layeredArguments, SettingsFile.layer, hfetch, Except.bind, SettingsFile.Found.layer, hread]
  rfl

theorem regular_layeredFile : layeredFile.Regular := by
  have hserver : Text.lowercase "Server" = "server" := by decide +kernel
  have hlogging : Text.lowercase "logging" = "logging" := by decide +kernel
  have hport : Text.lowercase "Port" = "port" := by decide +kernel
  have hworkers : Text.lowercase "Workers" = "workers" := by decide +kernel
  have hlevel : Text.lowercase "level" = "level" := by decide +kernel
  have hserverPath : KeyPath.ofText "Server" = ⟨"Server", []⟩ := by decide +kernel
  have hloggingPath : KeyPath.ofText "logging" = ⟨"logging", []⟩ := by decide +kernel
  intro e he
  simp only [layeredFile, Value.ofEntries, Value.ofDatum, List.mem_cons, List.not_mem_nil, or_false] at he
  rcases he with rfl | rfl
  · refine .table hserverPath (by rw [hserver]; decide) rfl ?_
    simp only [Value.asTable, List.forall_mem_cons, hserver, hport, hworkers]
    exact ⟨.leaf (by decide) rfl, .leaf (by decide) rfl, nofun⟩
  · refine .table hloggingPath (by rw [hlogging]; decide) rfl ?_
    simp only [Value.asTable, List.forall_mem_cons, hlogging, hlevel]
    exact ⟨.leaf (by decide) rfl, nofun⟩

theorem regular_layeredEnvironment : layeredEnvironment.Regular := by
  have hpath : ¬ Environment.marker.toList <+: (Text.lowercase "PATH").toList := by decide +kernel
  have hport : Text.lowercase "COI_SERVE_SERVER__PORT" = Environment.variableName ("server", "port") := by
    decide +kernel
  have hwasm : Text.lowercase "Coi_Serve_Http__Mime_Types__Wasm" =
      Environment.variableName ("http", "mime_types__" ++ String.ofList "wasm".toList) := by
    decide +kernel
  rw [layeredEnvironment, Environment.Regular]
  simp only [List.forall_mem_cons, hport, hwasm]
  refine ⟨fun h => absurd h hpath, fun _ => .leaf (by decide), fun _ => .mediaType ?_ ?_ ?_,
    List.forall_mem_nil _⟩
  · decide
  · decide
  · decide

end Settings

end IsolatedSite
