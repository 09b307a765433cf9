import Mathlib.Data.List.Basic
import IsolatedSite.Proofs.Growth
import IsolatedSite.Site.Setup

namespace IsolatedSite

inductive LogCall where
  | error (message : String)
  | warning (message : String)
  | debug (message : String)
  | access (entry : AccessEntry) (format : LineFormat)
  | started (address : String) (root : Bytes) (settings : Settings)
  | shutdown (reason : String)
  | accepted (peer : String)
  | failed (reason : String)
  | init (level : Level) (accessFile errorFile : Option String)

structure LogLine where
  level : Level
  text : String

namespace LogCall

def perform (j : Journal) : LogCall → Journal
  | .error message => j.error message
  | .warning message => j.warning message
  | .debug message => j.debug message
  | .access entry format => j.access entry format
  | .started address root settings => j.serverStarted address root settings
  | .shutdown reason => j.shutdown reason
  | .accepted peer => j.connectionAccepted peer
  | .failed reason => j.connectionFailed reason
  | .init level accessFile errorFile => (j.init level accessFile errorFile).1

def run (j : Journal) (calls : List LogCall) : Journal := calls.foldl perform j

def lines : LogCall → List LogLine
  | .error message => [⟨.error, "[ERROR] " ++ message⟩]
  | .warning message => [⟨.warn, "[WARN] " ++ message⟩]
  | .debug message => [⟨.debug, "[DEBUG] " ++ message⟩]
  | .access entry format => [⟨.info, entry.line format⟩]
  | .started address root settings =>
    (Journal.startupLines address root settings).map (⟨.info, ·⟩)
  | .shutdown reason => [⟨.info, "[Shutdown] " ++ reason ++ ", stopping listener"⟩]
  | .accepted peer => [⟨.debug, "[DEBUG] [Connection] Accepted from: " ++ peer⟩]
  | .failed reason => [⟨.error, "[ERROR] Failed to serve connection: " ++ reason⟩]
  | .init _ _ _ => []

end LogCall

namespace LogWriter

variable (w : LogWriter)

def targetOf (level : Level) : LogTarget := if level = .info then w.access else w.error

def enabled (lines : List LogLine) : List LogLine := lines.filter (·.level.enabledAt w.level)

def linesTo (target : LogTarget) (lines : List LogLine) : List String :=
  (lines.filter (w.targetOf ·.level = target)).map (·.text)

def textTo (target : LogTarget) (lines : List LogLine) : Bytes :=
  (w.linesTo target lines).flatMap fun text => Utf8.octets text ++ [0x0A]

/-- What the error stream gets of a line: the line itself if it is the target, or if the file that is
takes nothing more. -/
def spill (t : FileTree) (line : LogLine) : Bytes :=
  match w.targetOf line.level with
  | .output => []
  | .errors => Utf8.octets line.text ++ [0x0A]
  | .file id =>
    match t.append id (Utf8.octets line.text ++ [0x0A]) with
    | .ok _ => []
    | .error e =>
      Utf8.octets ("[ERROR] Failed to write log file: " ++ e.message) ++ [0x0A] ++
        (Utf8.octets line.text ++ [0x0A])

def Opened (t : FileTree) : Prop :=
  ∀ id, w.access = .file id ∨ w.error = .file id → ∃ n, t.node? id = some n

variable {w} {t u : FileTree}

theorem targetOf_eq (level : Level) : w.targetOf level = w.access ∨ w.targetOf level = w.error := by
  unfold targetOf
  split
  · exact Or.inl rfl
  · exact Or.inr rfl

theorem Opened.node? (h : w.Opened t) {level : Level} {id : NodeId}
    (hid : w.targetOf level = .file id) : ∃ n, t.node? id = some n := by
  apply h id
  rcases targetOf_eq (w := w) level with heq | heq
  · exact Or.inl (heq.symm.trans hid)
  · exact Or.inr (heq.symm.trans hid)

theorem Opened.extends {a : NodeId → Bytes} (h : w.Opened t) (hext : t.Extends a u) :
    w.Opened u := by
  intro id hid
  obtain ⟨n, hn⟩ := h id hid
  obtain ⟨c, hu, -⟩ := hext.kept id n hn
  exact ⟨_, hu⟩

theorem Opened.spill_eq {a : NodeId → Bytes} (h : w.Opened t) (hext : t.Extends a u)
    (line : LogLine) : w.spill u line = w.spill t line := by
  cases htarget : w.targetOf line.level with
  | output | errors => simp only [spill, htarget]
  | file id =>
      obtain ⟨n, hn⟩ := h.node? htarget
      have herror := hext.append_eq_error hn (Utf8.octets line.text ++ [0x0A])
      simp only [spill, htarget]
      cases ht : t.append id (Utf8.octets line.text ++ [0x0A]) with
      | error e => simp only [(herror e).2 ht]
      | ok t' =>
          cases hu : u.append id (Utf8.octets line.text ++ [0x0A]) with
          | error e =>
              rw [(herror e).1 hu] at ht
              cases ht
          | ok u' => rfl

theorem textTo_nil (target : LogTarget) : w.textTo target [] = [] := rfl

theorem textTo_append (target : LogTarget) (lines lines' : List LogLine) :
    w.textTo target (lines ++ lines') = w.textTo target lines ++ w.textTo target lines' := by
  simp [textTo, linesTo]

theorem textTo_singleton (target : LogTarget) (line : LogLine) :
    w.textTo target [line] =
      if w.targetOf line.level = target then Utf8.octets line.text ++ [0x0A] else [] := by
  unfold textTo linesTo
  by_cases h : w.targetOf line.level = target <;> simp [h]

theorem enabled_append (lines lines' : List LogLine) :
    w.enabled (lines ++ lines') = w.enabled lines ++ w.enabled lines' :=
  List.filter_append lines lines'

theorem enabled_sublist {more : Level} (h : w.level.rank ≤ more.rank) (lines : List LogLine) :
    (w.enabled lines).Sublist (({ w with level := more } : LogWriter).enabled lines) := by
  apply List.monotone_filter_right
  intro line hline
  simp only [Level.enabledAt, decide_eq_true_eq] at hline ⊢
  exact Nat.le_trans hline h

theorem linesTo_sublist {lines lines' : List LogLine} (h : lines.Sublist lines')
    (target : LogTarget) : (w.linesTo target lines).Sublist (w.linesTo target lines') :=
  (h.filter _).map _

end LogWriter

namespace Journal

variable {w : LogWriter} {j k l : Journal}

structure Writes (w : LogWriter) (lines : List LogLine) (j k : Journal) : Prop where
  writer : k.writer = some w
  tree : j.tree.Extends (fun id => w.textTo (.file id) lines) k.tree
  output : k.output = j.output ++ w.textTo .output lines
  errors : k.errors = j.errors ++ lines.flatMap (w.spill j.tree)

theorem Writes.nil (hw : j.writer = some w) {u : FileTree}
    (hext : j.tree.Extends (fun _ => []) u) : Writes w [] j { j with tree := u } where
  writer := hw
  tree := hext
  output := by simp [LogWriter.textTo_nil]
  errors := by simp

theorem Writes.append {lines lines' : List LogLine} (hopen : w.Opened j.tree)
    (h : Writes w lines j k) (h' : Writes w lines' k l) : Writes w (lines ++ lines') j l where
  writer := h'.writer
  tree := by
    refine (h.tree.trans h'.tree).congr ?_
    intro id
    rw [LogWriter.textTo_append]
  output := by rw [h'.output, h.output, LogWriter.textTo_append, List.append_assoc]
  errors := by
    have hspill : w.spill k.tree = w.spill j.tree := funext (hopen.spill_eq h.tree)
    rw [h'.errors, h.errors, hspill, List.flatMap_append, List.append_assoc]

theorem lineOctets_eq (text : String) : lineOctets text = Utf8.octets text ++ [0x0A] := rfl

theorem writes_write (hw : j.writer = some w) (hopen : w.Opened j.tree) (line : LogLine) :
    Writes w [line] j (j.write (w.targetOf line.level) line.text) := by
  cases htarget : w.targetOf line.level with
  | output =>
      refine ⟨hw, ?_, ?_, ?_⟩
      · refine (FileTree.Extends.refl j.tree).congr ?_
        intro id
        rw [LogWriter.textTo_singleton, htarget, if_neg (by simp)]
      · rw [LogWriter.textTo_singleton, htarget, if_pos rfl]
        rfl
      · simp [LogWriter.spill, htarget, write, toOutput]
  | errors =>
      refine ⟨hw, ?_, ?_, ?_⟩
      · refine (FileTree.Extends.refl j.tree).congr ?_
        intro id
        rw [LogWriter.textTo_singleton, htarget, if_neg (by simp)]
      · rw [LogWriter.textTo_singleton, htarget, if_neg (by simp), List.append_nil]
        rfl
      · simp [LogWriter.spill, htarget, write, toErrors, lineOctets_eq]
  | file id =>
      obtain ⟨n, hn⟩ := hopen.node? htarget
      have hadded : ∀ k, (if k = id then Utf8.octets line.text ++ [0x0A] else []) =
          w.textTo (.file k) [line] := by
        intro k
        rw [LogWriter.textTo_singleton, htarget]
        simp only [LogTarget.file.injEq, eq_comm]
      have houtput : w.textTo .output [line] = [] := by
        rw [LogWriter.textTo_singleton, htarget, if_neg (by simp)]
      cases happ : j.tree.append id (Utf8.octets line.text ++ [0x0A]) with
      | ok u =>
          simp only [write, lineOctets_eq, happ]
          refine ⟨hw, (FileTree.extends_append hn happ).congr hadded, ?_, ?_⟩
          · rw [houtput, List.append_nil]
          · simp [LogWriter.spill, htarget, happ]
      | error e =>
          obtain ⟨-, m, hm, hfull⟩ := FileTree.append_eq_error.1 happ
          have hsame := FileTree.extends_of_not_file hm (by rw [hfull]; rfl)
            (Utf8.octets line.text ++ [0x0A])
          simp only [write, lineOctets_eq, happ]
          refine ⟨hw, hsame.congr hadded, ?_, ?_⟩
          · rw [houtput, List.append_nil]
            rfl
          · simp [LogWriter.spill, htarget, happ, toErrors, lineOctets_eq]

theorem writes_enabled (hw : j.writer = some w) (hopen : w.Opened j.tree) (line : LogLine) :
    Writes w (w.enabled [line]) j
      (if j.enabled line.level then j.write (w.targetOf line.level) line.text else j) := by
  have hlimit : j.enabled line.level = line.level.enabledAt w.level := by
    simp [Journal.enabled, limit, hw]
  rw [hlimit]
  cases hl : line.level.enabledAt w.level with
  | true =>
      have henabled : w.enabled [line] = [line] := by simp [LogWriter.enabled, hl]
      rw [henabled]
      exact writes_write hw hopen line
  | false =>
      have henabled : w.enabled [line] = [] := by simp [LogWriter.enabled, hl]
      rw [henabled]
      exact .nil hw (.refl j.tree)

theorem writes_info (hw : j.writer = some w) (hopen : w.Opened j.tree) (text : String) :
    Writes w (w.enabled [⟨.info, text⟩]) j (j.info text) := by
  have hinfo := writes_enabled hw hopen ⟨.info, text⟩
  simpa [info, toAccess, hw, LogWriter.targetOf] using hinfo

theorem writes_report (hw : j.writer = some w) (hopen : w.Opened j.tree) {level : Level}
    (hlevel : level ≠ .info) (text : String) :
    Writes w (w.enabled [⟨level, text⟩]) j (j.report level text) := by
  have hreport := writes_enabled hw hopen ⟨level, text⟩
  simpa [report, toError, hw, LogWriter.targetOf, hlevel] using hreport

theorem writes_foldl {α : Type} {step : Journal → α → Journal} {linesOf : α → List LogLine}
    (hstep : ∀ j, j.writer = some w → w.Opened j.tree →
      ∀ x, Writes w (w.enabled (linesOf x)) j (step j x))
    (xs : List α) {j : Journal} (hw : j.writer = some w) (hopen : w.Opened j.tree) :
    Writes w (w.enabled (xs.flatMap linesOf)) j (xs.foldl step j) := by
  induction xs generalizing j with
  | nil => exact .nil hw (.refl j.tree)
  | cons x xs ih =>
      have hfirst := hstep j hw hopen x
      have hrest := ih hfirst.writer (hopen.extends hfirst.tree)
      rw [List.flatMap_cons, LogWriter.enabled_append]
      exact hfirst.append hopen hrest

theorem openLog_eq_ok {t u : FileTree} {path : String} {id : NodeId}
    (h : openLog t path = .ok (u, id)) :
    (t.makeParents (Utf8.octets path)).1.openOrCreate (Utf8.octets path) = .ok (u, id) := by
  unfold openLog at h
  simp only at h
  split at h
  · cases h
  · next t' hparents =>
      rw [hparents]
      cases ho : t'.openOrCreate (Utf8.octets path) with
      | error e =>
          rw [ho] at h
          cases h
      | ok made =>
          rw [ho] at h
          cases h
          rfl

theorem openLog_eq_error {t u : FileTree} {path : String} {e : Fault}
    (h : openLog t path = .error (u, e)) : u = (t.makeParents (Utf8.octets path)).1 := by
  unfold openLog at h
  simp only at h
  split at h
  · next t' e' hparents =>
      cases h
      rw [hparents]
  · next t' hparents =>
      rw [hparents]
      cases ho : t'.openOrCreate (Utf8.octets path) with
      | error e' =>
          rw [ho] at h
          cases h
          rfl
      | ok made =>
          rw [ho] at h
          cases h

theorem extends_openLog {t u : FileTree} {path : String} {id : NodeId}
    (h : openLog t path = .ok (u, id)) : t.Extends (fun _ => []) u :=
  ((FileTree.extends_makeParents _).trans
    (FileTree.extends_openOrCreate (openLog_eq_ok h))).congr (by simp)

theorem extends_openTarget (t : FileTree) (path : Option String) (otherwise : LogTarget) :
    (∀ u target, openTarget t path otherwise = .ok (u, target) → t.Extends (fun _ => []) u) ∧
      ∀ u e, openTarget t path otherwise = .error (u, e) → t.Extends (fun _ => []) u := by
  cases path with
  | none =>
      constructor
      · intro u target h
        cases h
        exact .refl t
      · intro u e h
        cases h
  | some path =>
      cases hlog : openLog t path with
      | ok made =>
          constructor
          · intro u target h
            simp only [openTarget, hlog] at h
            cases h
            exact extends_openLog hlog
          · intro u e h
            simp only [openTarget, hlog] at h
            cases h
      | error made =>
          constructor
          · intro u target h
            simp only [openTarget, hlog] at h
            cases h
          · intro u e h
            simp only [openTarget, hlog] at h
            cases h
            rw [openLog_eq_error hlog]
            exact FileTree.extends_makeParents _

/-- What a log is written to, in the tree that has come of another one: the stream if no file is
named, or else the file that the path leads to. It is the one that the path led to before, if it led
anywhere, and it is a regular file unless something else was there before. -/
def StandsFor (before after : FileTree) (path : Option String) (stream target : LogTarget) : Prop :=
  match path with
  | none => target = stream
  | some path =>
    ∃ s n, target = .file s.node ∧ after.reach (Utf8.octets path) = .ok s ∧
      (∀ r, before.reach (Utf8.octets path) = .ok r → r = s) ∧ after.node? s.node = some n ∧
      (n.content.isFile = true ∨ ∃ m, before.node? s.node = some m ∧ m.content.isFile = false)

theorem StandsFor.node? {before after : FileTree} {path : Option String} {stream : LogTarget}
    {id : NodeId} (h : StandsFor before after path stream (.file id))
    (hstream : .file id ≠ stream) : ∃ n, after.node? id = some n := by
  cases path with
  | none => exact absurd h hstream
  | some path =>
      obtain ⟨s, n, hs, -, -, hn, -⟩ := h
      cases hs
      exact ⟨n, hn⟩

theorem standsFor_of_openTarget {before t u after : FileTree} {path : Option String}
    {stream target : LogTarget} {a : NodeId → Bytes} (hbefore : before.Extends (fun _ => []) t)
    (h : openTarget t path stream = .ok (u, target)) (hafter : u.Extends a after) :
    StandsFor before after path stream target := by
  cases path with
  | none =>
      cases h
      rfl
  | some path =>
      cases hlog : openLog t path with
      | error made => simp [openTarget, hlog, Except.map] at h
      | ok made =>
          simp only [openTarget, hlog] at h
          cases h
          have hext := (hbefore.trans (extends_openLog hlog)).trans hafter
          obtain ⟨s, hs, hid⟩ := FileTree.reach_of_openOrCreate (openLog_eq_ok hlog)
          obtain ⟨n, hn, hdir⟩ := FileTree.node?_of_openOrCreate (openLog_eq_ok hlog)
          obtain ⟨c, hc, hcont⟩ := hafter.kept _ n hn
          have hreach := hafter.reach hs
          refine ⟨s, { n with content := c }, by rw [hid], hreach, ?_, by rw [hid]; exact hc, ?_⟩
          · intro r hr
            cases hreach.symm.trans (hext.reach hr)
            rfl
          · rw [hid]
            exact hext.isFile_or hc (hcont.isDirectory_eq.trans hdir)

theorem init_eq_ok {level : Level} {accessFile errorFile : Option String}
    (h : j.init level accessFile errorFile = (k, .ok ())) :
    ∃ t u access error, openTarget j.tree accessFile .output = .ok (t, access) ∧
      openTarget t errorFile .errors = .ok (u, error) ∧ j.writer = none ∧
      k = { j with tree := u, writer := some ⟨level, access, error⟩ } := by
  unfold init at h
  split at h
  · cases h
  · next t access haccess =>
      split at h
      · cases h
      · next u error herror =>
          split at h
          · cases h
          · next hnone =>
              cases h
              exact ⟨t, u, access, error, haccess, herror, hnone, rfl⟩

theorem init_of_writer (hw : j.writer = some w) (level : Level)
    (accessFile errorFile : Option String) :
    ∃ u e, j.init level accessFile errorFile = ({ j with tree := u }, .error e) ∧
      j.tree.Extends (fun _ => []) u ∧
      ∀ t access t' error, openTarget j.tree accessFile .output = .ok (t, access) →
        openTarget t errorFile .errors = .ok (t', error) → e = alreadyOpen := by
  cases haccess : openTarget j.tree accessFile .output with
  | error made =>
      refine ⟨made.1, made.2, ?_, (extends_openTarget _ _ _).2 _ _ haccess, ?_⟩
      · simp only [init, haccess]
      · intro t access t' error h
        cases h
  | ok made =>
      have hext := (extends_openTarget _ _ _).1 _ _ haccess
      cases herror : openTarget made.1 errorFile .errors with
      | error made' =>
          refine ⟨made'.1, made'.2, ?_, ?_, ?_⟩
          · simp only [init, haccess, herror]
          · exact (hext.trans ((extends_openTarget _ _ _).2 _ _ herror)).congr (by simp)
          · intro t access t' error h h'
            cases h
            rw [herror] at h'
            cases h'
      | ok made' =>
          refine ⟨made'.1, alreadyOpen, ?_, ?_, ?_⟩
          · simp only [init, haccess, herror, hw]
          · exact (hext.trans ((extends_openTarget _ _ _).1 _ _ herror)).congr (by simp)
          · intro t access t' error _ _
            rfl

end Journal

namespace LogCall

open Journal

variable {w : LogWriter} {j : Journal}

theorem append_append_of_eq {a b c : String} (h : a ++ b = c) (d : String) :
    a ++ (b ++ d) = c ++ d := by
  rw [← String.append_assoc, h]

theorem writes_perform (hw : j.writer = some w) (hopen : w.Opened j.tree) (call : LogCall) :
    Writes w (w.enabled call.lines) j (perform j call) := by
  cases call with
  | error message => exact writes_report hw hopen (by decide) _
  | warning message => exact writes_report hw hopen (by decide) _
  | debug message => exact writes_report hw hopen (by decide) _
  | access entry format => exact writes_info hw hopen _
  | shutdown reason => exact writes_info hw hopen _
  | accepted peer =>
      have htext : "[DEBUG] [Connection] Accepted from: " ++ peer =
          marked .debug (acceptedMessage peer) := (append_append_of_eq (by decide) peer).symm
      simp only [lines, htext]
      exact writes_report hw hopen (by decide) _
  | failed reason =>
      have htext : "[ERROR] Failed to serve connection: " ++ reason =
          marked .error (connectionFailedMessage reason) :=
        (append_append_of_eq (by decide) reason).symm
      simp only [lines, htext]
      exact writes_report hw hopen (by decide) _
  | started address root settings =>
      have hstep : ∀ j : Journal, j.writer = some w → w.Opened j.tree → ∀ text,
          Writes w (w.enabled [⟨.info, text⟩]) j (j.info text) :=
        fun _ hw hopen text => writes_info hw hopen text
      have hfold := writes_foldl hstep (startupLines address root settings) hw hopen
      rw [← List.map_eq_flatMap] at hfold
      exact hfold
  | init level accessFile errorFile =>
      obtain ⟨u, e, hinit, hext, -⟩ := init_of_writer hw level accessFile errorFile
      simp only [perform, hinit]
      exact .nil hw hext

theorem writes_run (hw : j.writer = some w) (hopen : w.Opened j.tree) (calls : List LogCall) :
    Writes w (w.enabled (calls.flatMap lines)) j (run j calls) :=
  writes_foldl (fun _ hw hopen call => writes_perform hw hopen call) calls hw hopen

/-- A journal has been set up and used: it has kept its level and its targets, and each of these has
got the lines that were enabled and belong to it, behind what was there before. -/
structure Recorded (level : Level) (accessFile errorFile : Option String) (calls : List LogCall)
    (j k : Journal) (w : LogWriter) : Prop where
  writer : k.writer = some w
  level : w.level = level
  access : StandsFor j.tree k.tree accessFile .output w.access
  error : StandsFor j.tree k.tree errorFile .errors w.error
  files : ∀ id data rights modified, k.tree.node? id = some ⟨.file data, rights, modified⟩ →
    data = j.tree.dataAt id ++ w.textTo (.file id) (w.enabled (calls.flatMap lines))
  output : k.output = j.output ++ w.textTo .output (w.enabled (calls.flatMap lines))
  errors : k.errors = j.errors ++ (w.enabled (calls.flatMap lines)).flatMap (w.spill k.tree)

theorem opened_of_openTarget {t u v : FileTree} {accessFile errorFile : Option String}
    {access error : LogTarget} (haccess : openTarget t accessFile .output = .ok (u, access))
    (herror : openTarget u errorFile .errors = .ok (v, error)) (level : Level) :
    LogWriter.Opened ⟨level, access, error⟩ v := by
  have hext := (extends_openTarget _ _ _).1 _ _ herror
  rintro id (rfl | rfl)
  · exact (standsFor_of_openTarget (.refl t) haccess hext).node? (by simp)
  · exact (standsFor_of_openTarget (.refl u) herror (.refl v)).node? (by simp)

theorem recorded_of_opened {j : Journal} {t u : FileTree} {accessFile errorFile : Option String}
    {access error : LogTarget} (haccess : openTarget j.tree accessFile .output = .ok (t, access))
    (herror : openTarget t errorFile .errors = .ok (u, error)) (level : Level)
    (calls : List LogCall) :
    Recorded level accessFile errorFile calls j
      (run { j with tree := u, writer := some ⟨level, access, error⟩ } calls)
      ⟨level, access, error⟩ := by
  have hopen := opened_of_openTarget haccess herror level
  have hext := (extends_openTarget _ _ _).1 _ _ haccess
  have hext' := (extends_openTarget _ _ _).1 _ _ herror
  have hrun := writes_run (j := { j with tree := u, writer := some ⟨level, access, error⟩ }) rfl
    hopen calls
  have hall := (hext.trans hext').trans hrun.tree
  refine ⟨hrun.writer, rfl, ?_, ?_, ?_, hrun.output, ?_⟩
  · exact standsFor_of_openTarget (.refl _) haccess (hext'.trans hrun.tree)
  · exact standsFor_of_openTarget hext herror hrun.tree
  · intro id data rights modified hn
    have hdata := hall.data_eq hn
    simpa using hdata
  · have hspill := funext (hopen.spill_eq hrun.tree)
    rw [hspill]
    exact hrun.errors

def usedJournal : Journal where
  tree :=
    { nodes :=
        [⟨.directory
            [⟨⟨Utf8.octets "visits", by decide⟩, 1⟩, ⟨⟨Utf8.octets "full", by decide⟩, 2⟩],
            .forDirectories, ⟨2, 0⟩⟩,
          ⟨.file (Utf8.octets "before\n"), .forFiles, ⟨2, 0⟩⟩,
          ⟨.device .full, .forFiles, ⟨2, 0⟩⟩]
      workingDirectory := .root
      sound := by decide }

def someCalls : List LogCall :=
  [.debug "a", .warning "b", .init .debug none none, .shutdown "c", .error "d"]

end LogCall

end IsolatedSite
