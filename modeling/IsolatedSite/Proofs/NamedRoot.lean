import IsolatedSite.Proofs.ContentType
import IsolatedSite.Proofs.Precedence
import IsolatedSite.Site.Setup

namespace IsolatedSite

namespace Utf8

/-- Octets that were read as text and are written again. -/
def mended (bs : Bytes) : Bytes := octets (lossyText bs)

theorem mended_eq (bs : Bytes) : mended bs = encode (lossy bs) := octets_ofList _

theorem mended_of_text {bs : Bytes} (h : ∃ s, octets s = bs) : mended bs = bs := by
  obtain ⟨s, rfl⟩ := h
  exact octets_lossyText (decode?_encode s.toList)

structure Pending.IsLong (p : Pending) : Prop where
  low : 0x80 ≤ p.low
  high : p.high ≤ 0xBF
  value : p.owed = 1 ∧ 2 ≤ p.value ∨ p.owed = 2 ∧ (1 ≤ p.value ∨ 0xA0 ≤ p.low) ∨
    p.owed = 3 ∧ (1 ≤ p.value ∨ 0x90 ≤ p.low)

theorem isLong_of_lead {a : UInt8} {p : Pending} (h : lead a = .more p) : p.IsLong := by
  obtain ⟨⟨hlow, hhigh⟩, hp⟩ := promise_of_lead h
  refine ⟨hlow, hhigh, ?_⟩
  rcases hp with ⟨ho, hv, ha, -⟩ | ⟨ho, hv, ha, -, he, -⟩ | ⟨ho, hv, ha, -, he, -⟩
  · exact Or.inl ⟨ho, by omega⟩
  · exact Or.inr (Or.inl ⟨ho, by omega⟩)
  · exact Or.inr (Or.inr ⟨ho, by omega⟩)

theorem Pending.IsLong.more {p p' : Pending} {b : UInt8} (h : p.IsLong) (hn : p.next b = .more p') :
    p'.IsLong := by
  obtain ⟨hlow, hhigh, hvalue⟩ := h
  simp only [Pending.next] at hn
  split at hn
  · split at hn
    · cases hn
    · cases hn
      refine ⟨Nat.le_refl _, Nat.le_refl _, ?_⟩
      dsimp only
      omega
  · cases hn

theorem ofNat_ne_slash {n : Nat} (h : 0x80 ≤ n) : Char.ofNat n ≠ '/' := by
  intro hslash
  by_cases hn : n.isValidChar
  · have hnat := congrArg Char.toNat hslash
    rw [toNat_ofNat hn] at hnat
    subst hnat
    exact absurd h (by decide)
  · have hzero : Char.ofNat n = '\x00' := dif_neg hn
    rw [hzero] at hslash
    exact absurd hslash (by decide)

theorem Pending.IsLong.ne_slash {p : Pending} {b : UInt8} {c : Char} (h : p.IsLong)
    (hn : p.next b = .whole c) : c ≠ '/' := by
  obtain ⟨hlow, hhigh, hvalue⟩ := h
  simp only [Pending.next] at hn
  split at hn
  · split at hn
    · cases hn
      apply ofNat_ne_slash
      omega
    · cases hn
  · cases hn

theorem exists_cons_lossyFrom {p : Pending} (h : p.IsLong) (bs : Bytes) :
    ∃ c cs, lossyFrom (some p) bs = c :: cs ∧ c ≠ '/' := by
  induction bs generalizing p with
  | nil => exact ⟨replacement, [], rfl, by decide⟩
  | cons b bs ih =>
      rw [lossyFrom]
      cases hn : p.next b with
      | whole c => exact ⟨c, _, rfl, h.ne_slash hn⟩
      | more p' => exact ih (h.more hn)
      | refused => cases lead b <;> exact ⟨replacement, _, rfl, by decide⟩

theorem exists_cons_lossy (a : UInt8) (bs : Bytes) :
    ∃ c cs, lossy (a :: bs) = c :: cs ∧ (c = '/' ↔ a = Path.slash) := by
  have hslash : lead Path.slash = .whole '/' := by decide
  have hne : ∀ {reading}, lead a = reading → reading ≠ .whole '/' → a ≠ Path.slash := by
    rintro reading hl hr rfl
    exact hr (hl.symm.trans hslash)
  rw [lossy, lossyFrom]
  cases hl : lead a with
  | whole c =>
      refine ⟨c, _, rfl, ?_, ?_⟩
      · rintro rfl
        obtain ⟨ha, hc⟩ := of_lead_whole hl
        have hnat := congrArg Char.toNat hc
        rw [toNat_ofNat (n := a.toNat) (by omega)] at hnat
        exact UInt8.toNat_inj.1 hnat.symm
      · rintro rfl
        rw [hslash] at hl
        cases hl
        rfl
  | more p =>
      obtain ⟨c, cs, hcs, hc⟩ := exists_cons_lossyFrom (isLong_of_lead hl) bs
      exact ⟨c, cs, hcs, iff_of_false hc (hne hl (by rintro ⟨⟩))⟩
  | refused => exact ⟨replacement, _, rfl, iff_of_false (by decide) (hne hl (by rintro ⟨⟩))⟩

theorem head?_encode_cons (c : Char) (cs : List Char) :
    (encode (c :: cs)).head? = some Path.slash ↔ c = '/' := by
  have hcons : encode (c :: cs) = encodeChar c ++ encode cs := List.flatMap_cons
  constructor
  · intro h
    have hne : encodeChar c ≠ [] := by
      unfold encodeChar
      dsimp only
      repeat' split
      all_goals simp
    rw [hcons, List.head?_append_of_ne_nil _ hne] at h
    exact eq_of_mem_encodeChar (by decide) (List.mem_of_head? h)
  · rintro rfl
    rfl

theorem mended_ne_nil {bs : Bytes} (h : bs ≠ []) : mended bs ≠ [] := by
  obtain ⟨a, rest, rfl⟩ := List.exists_cons_of_ne_nil h
  obtain ⟨c, cs, hcs, -⟩ := exists_cons_lossy a rest
  intro hnil
  rw [mended_eq, hcs] at hnil
  have hempty : encode (c :: cs) = encode [] := hnil
  exact List.cons_ne_nil c cs (encode_injective hempty)

theorem isAbsolute_mended (bs : Bytes) : Path.isAbsolute (mended bs) = Path.isAbsolute bs := by
  cases bs with
  | nil => rfl
  | cons a bs =>
      obtain ⟨c, cs, hcs, hslash⟩ := exists_cons_lossy a bs
      rw [Bool.eq_iff_iff, Path.isAbsolute, Path.isAbsolute, beq_iff_eq, beq_iff_eq, mended_eq, hcs,
        head?_encode_cons, hslash, List.head?_cons, Option.some.injEq]

theorem exists_text_iff {bs : Bytes} :
    (∃ s, octets s = bs) ↔ ∀ segment ∈ splitOn Path.slash bs, ∃ s, octets s = segment := by
  constructor
  · rintro ⟨s, rfl⟩ segment hsegment
    rw [octets, ← divides_iff.1 (divides_encode (divides_iff.2 rfl))] at hsegment
    obtain ⟨part, -, rfl⟩ := List.mem_map.1 hsegment
    exact ⟨String.ofList part, octets_ofList part⟩
  · intro h
    have hpart : ∀ segment ∈ splitOn Path.slash bs, encode (lossy segment) = segment := by
      intro segment hsegment
      exact (mended_eq segment).symm.trans (mended_of_text (h segment hsegment))
    have hparts : ((splitOn Path.slash bs).map lossy).map encode = splitOn Path.slash bs := by
      rw [List.map_map]
      exact (List.map_congr_left hpart).trans (List.map_id _)
    refine ⟨String.ofList (joinWith ['/'] ((splitOn Path.slash bs).map lossy)), ?_⟩
    rw [octets_ofList, encode_joinWith, hparts]
    exact joinWith_splitOn Path.slash bs

end Utf8

namespace Path

theorem names_pushAll (base : Bytes) {below : List Bytes} (h : ∀ name ∈ below, slash ∉ name) :
    names (pushAll base below) = names base ++ below.filter isNamed := by
  induction below generalizing base with
  | nil => simp
  | cons name below ih =>
      rw [List.forall_mem_cons] at h
      rw [pushAll_cons, ih _ h.2, names_push_eq base h.1, List.append_assoc, ← List.filter_append]
      rfl

theorem isAbsolute_of_hasDoubleRoot {p : Bytes} (h : hasDoubleRoot p = true) : isAbsolute p = true := by
  cases p with
  | nil => cases h
  | cons a p =>
      simp only [hasDoubleRoot, List.take_succ_cons, Bool.and_eq_true, beq_iff_eq, List.cons.injEq] at h
      simp [isAbsolute, h.1.1]

theorem names_of_absolute {here p r : Bytes} (h : absolute here p = .ok r) :
    names r = (if isAbsolute p then [] else names here) ++ names p := by
  have hslash : ∀ name ∈ names p, slash ∉ name := fun name hname =>
    not_mem_of_mem_splitOn (List.mem_filter.1 hname).1
  have hself : (names p).filter isNamed = names p := by
    rw [names, List.filter_filter]
    simp only [Bool.and_self]
  have hwhole : ∀ base, names (pushAll base (names p)) = names base ++ names p := by
    intro base
    rw [names_pushAll base hslash, hself]
  have hend : ∀ whole, names (if endsInSlash p then push whole [] else whole) = names whole := by
    intro whole
    split
    · exact (names_push_eq whole List.not_mem_nil).trans (List.append_nil _)
    · rfl
  rw [absolute] at h
  split at h
  · cases h
  · cases h
    rw [hend]
    refine (hwhole _).trans (congrArg (· ++ names p) ?_)
    by_cases hdouble : hasDoubleRoot p = true
    · rw [if_pos hdouble, if_pos (isAbsolute_of_hasDoubleRoot hdouble)]
      rfl
    · rw [if_neg hdouble]
      split <;> rfl

theorem exists_absolute (here : Bytes) {p : Bytes} (h : p ≠ []) : ∃ r, absolute here p = .ok r := by
  rw [absolute, if_neg (by simpa using h)]
  exact ⟨_, rfl⟩

/-- A path and what is made of its text lead to the same place if and only if the path is text. -/
theorem absolute_mended_eq_iff (here p : Bytes) :
    absolute here (Utf8.mended p) = absolute here p ↔ ∃ s, Utf8.octets s = p := by
  constructor
  · intro h
    by_cases hp : p = []
    · exact ⟨"", hp.symm⟩
    obtain ⟨r, hr⟩ := exists_absolute here hp
    have hnames := (names_of_absolute (h.trans hr)).symm.trans (names_of_absolute hr)
    rw [Utf8.isAbsolute_mended, List.append_right_inj] at hnames
    rw [Utf8.exists_text_iff]
    intro segment hsegment
    by_cases hnamed : isNamed segment = true
    · have hmem : segment ∈ names (Utf8.mended p) := by
        rw [hnames]
        exact List.mem_filter.2 ⟨hsegment, hnamed⟩
      exact Utf8.exists_text_iff.1 ⟨_, rfl⟩ segment (List.mem_filter.1 hmem).1
    · rw [Site.isNamed_iff, not_and_or, not_not, not_not] at hnamed
      rcases hnamed with rfl | rfl
      · exact ⟨"", rfl⟩
      · exact ⟨".", by decide⟩
  · intro h
    rw [Utf8.mended_of_text h]

end Path

/-- The directory that is named, or else the one that the program is started in. -/
def Arguments.directory (a : Arguments) (here : Bytes) : Bytes := a.dir.getD here

namespace Settings

variable {t : FileTree} {here : Bytes} {env : Environment} {a : Arguments} {file : Layer}

theorem chosen_root (hunset : a.dir = none →
      env.setting? ("server", "root") = none ∧ file.leaf? ("server", "root") = none) :
    chosen here file env a ("server", "root") = some (.text (Utf8.lossyText (a.directory here))) := by
  have hgiven : a.given? ("server", "root") = a.dir.map fun d => .text (Utf8.lossyText d) := rfl
  have hbuiltIn : builtIn? here ("server", "root") = some (.text (Utf8.lossyText here)) := rfl
  rw [chosen, hgiven, Arguments.directory]
  cases hdir : a.dir with
  | some d => rfl
  | none =>
      obtain ⟨hsetting, hleaf⟩ := hunset hdir
      rw [hsetting, hleaf, hbuiltIn]
      rfl

theorem readable_given {leaf : String × String} {v : Value} (hport : ∀ n ∈ a.port, n ≤ CommandLine.portLimit)
    (hv : v ∈ a.given? leaf) : readable leaf v = true := by
  rw [Arguments.given?] at hv
  split at hv
  · subst leaf
    obtain ⟨bind, -, rfl⟩ := Option.map_eq_some_iff.1 hv
    rfl
  split at hv
  · subst leaf
    obtain ⟨n, hn, rfl⟩ := Option.map_eq_some_iff.1 hv
    have hbound : n < Nat.pow 2 16 := Nat.lt_succ_of_le (hport n hn)
    have hread : (Value.nat n).readNat = .ok n := rfl
    change (Value.readBounded 16 (.nat n)).isOk = true
    rw [Value.readBounded, hread]
    change (if n < Nat.pow 2 16 then Except.ok n else _).isOk = true
    rw [if_pos hbound]
    rfl
  split at hv
  · subst leaf
    obtain ⟨d, -, rfl⟩ := Option.map_eq_some_iff.1 hv
    rfl
  · cases hv

theorem readable_builtIn {leaf : String × String} (hleaf : leaf ∈ leaves) {v : Value}
    (hv : v ∈ builtIn? here leaf) : readable leaf v = true := by
  have hall : (leaves.all fun leaf => (builtIn? here leaf).all (readable leaf)) = true := rfl
  have hone : (builtIn? here leaf).all (readable leaf) = true := List.all_eq_true.1 hall leaf hleaf
  rwa [Option.mem_def.1 hv] at hone

theorem exists_load (hlayer : SettingsFile.layer t here a.config = .ok []) (henv : env.Regular)
    (hunset : ∀ leaf ∈ leaves, env.setting? leaf = none) (hport : ∀ n ∈ a.port, n ≤ CommandLine.portLimit) :
    ∃ s, load t here env a = .ok s := by
  apply exists_load_of_readable hlayer (List.forall_mem_nil _) henv
  intro leaf hleaf v hv
  have hnone : Layer.leaf? leaf [] = none := rfl
  rw [chosen, hunset leaf hleaf, hnone, Option.none_or, Option.none_or] at hv
  rcases Option.or_eq_some_iff.1 hv with hv | ⟨-, hv⟩
  · exact readable_given hport hv
  · exact readable_builtIn hleaf hv

theorem root_of_load (hlayer : SettingsFile.layer t here a.config = .ok file) (hfile : file.Regular)
    (henv : env.Regular) (hunset : a.dir = none →
      env.setting? ("server", "root") = none ∧ file.leaf? ("server", "root") = none) {s : Settings}
    (hs : load t here env a = .ok s) : s.server.root = Utf8.lossyText (a.directory here) := by
  have hroot : Reads Value.readText (chosen here file env a ("server", "root")) s.server.root :=
    (follows_of_load hlayer hfile henv hs).server.root
  rw [chosen_root hunset, reads_some_iff] at hroot
  exact (Except.ok.inj hroot).symm

/-- The served root is made from the text of the directory that is named, and it is that directory if
and only if the directory is text. With no file and no variables there always is such a root. -/
theorem site_root_named_iff_text (hlayer : SettingsFile.layer t here a.config = .ok file)
    (hfile : file.Regular) (henv : env.Regular) (hunset : a.dir = none →
      env.setting? ("server", "root") = none ∧ file.leaf? ("server", "root") = none)
    (hname : a.directory here ≠ []) :
    (∀ s, load t here env a = .ok s → ∃ site, Site.ofSettings here s = .ok site ∧
        Path.absolute here (Utf8.mended (a.directory here)) = .ok site.root ∧
        (Path.absolute here (a.directory here) = .ok site.root ↔
          ∃ text, Utf8.octets text = a.directory here)) ∧
      (file = [] → (∀ leaf ∈ leaves, env.setting? leaf = none) →
        (∀ n ∈ a.port, n ≤ CommandLine.portLimit) → ∃ s, load t here env a = .ok s) := by
  constructor
  · intro s hs
    obtain ⟨root, hroot⟩ := Path.exists_absolute here (Utf8.mended_ne_nil hname)
    have hmended : Utf8.octets s.server.root = Utf8.mended (a.directory here) := by
      rw [root_of_load hlayer hfile henv hunset hs, Utf8.mended]
    have hsite : ∃ site, Site.ofSettings here s = .ok site ∧ site.root = root := by
      rw [Site.ofSettings, hmended, hroot]
      exact ⟨_, rfl, rfl⟩
    obtain ⟨site, hsite, rfl⟩ := hsite
    refine ⟨site, hsite, hroot, ?_⟩
    rw [← Path.absolute_mended_eq_iff here, hroot]
    exact eq_comm
  · rintro rfl hsettings hport
    exact exists_load hlayer henv hsettings hport

/-- Two directories, of which one has the name that the other's is read as. -/
def mistakenTree : FileTree where
  nodes :=
    [⟨.directory [⟨⟨[0xFF], Eq.refl true⟩, 1⟩, ⟨⟨[0xEF, 0xBF, 0xBD], Eq.refl true⟩, 2⟩],
        .forDirectories, ⟨2, 0⟩⟩,
      ⟨.directory [], .forDirectories, ⟨2, 0⟩⟩,
      ⟨.directory [], .forDirectories, ⟨2, 0⟩⟩]
  workingDirectory := .root
  sound := by decide

-- The directory next to the one that was named is served.
example :
    ((load mistakenTree [0x2F] [] { dir := some [0xFF] }).toOption.map fun s =>
        (Site.ofSettings [0x2F] s).map Site.root) = some (.ok [0x2F, 0xEF, 0xBF, 0xBD]) ∧
      Path.absolute [0x2F] [0xFF] = .ok [0x2F, 0xFF] := by
  decide +kernel

end Settings

end IsolatedSite
