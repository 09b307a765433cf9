import IsolatedSite.Listing
import IsolatedSite.Site.Locate
import IsolatedSite.Site.Setup
import IsolatedSite.Proofs.Percent
import IsolatedSite.Proofs.Place

namespace IsolatedSite.Site

theorem pushSegments_append (base : Bytes) (before after : List Bytes) :
    pushSegments base (before ++ after) =
      (pushSegments base before).bind fun p => pushSegments p after := by
  induction before generalizing base with
  | nil => rfl
  | cons segment before ih =>
      simp only [List.cons_append, pushSegments]
      split
      · exact ih base
      · split
        · rfl
        · exact ih _

theorem pushSegments_name (base : Bytes) (name : FileName) (rest : List Bytes) :
    pushSegments base (name.octets :: rest) = pushSegments (Path.push base name.octets) rest := by
  simp [pushSegments, name.sound.1, name.sound.2.1]

theorem isAbsolute_of_pushSegments {base p : Bytes} {segments : List Bytes} (hne : base ≠ [])
    (h : pushSegments base segments = .ok p) : p ≠ [] ∧ Path.isAbsolute p = Path.isAbsolute base := by
  induction segments generalizing base with
  | nil =>
      cases h
      exact ⟨hne, rfl⟩
  | cons segment segments ih =>
      rw [pushSegments] at h
      split at h
      · exact ih hne h
      · split at h
        · cases h
        · rw [← Path.isAbsolute_push hne segment]
          exact ih (Path.push_ne_nil hne segment) h

theorem resolve_eq_ok {root p : Bytes} {path : String} (h : resolve root path = .ok p) :
    (∃ cs, Utf8.decode? (Percent.decode (Utf8.octets path)) = some cs) ∧
      pushSegments root (splitOn Path.slash (Percent.decode (Utf8.octets path))) = .ok p := by
  simp only [resolve] at h
  split at h
  · cases h
  · next cs hcs => exact ⟨⟨cs, hcs⟩, h⟩

theorem isAbsolute_of_resolve {root p : Bytes} {path : String} (hroot : Path.isAbsolute root = true)
    (h : resolve root path = .ok p) : Path.isAbsolute p = true := by
  have hne := Path.ne_nil_of_isAbsolute hroot
  rw [(isAbsolute_of_pushSegments hne (resolve_eq_ok h).2).2, hroot]

theorem isAbsolute_of_absolute {here p root : Bytes} (hhere : Path.isAbsolute here = true)
    (h : Path.absolute here p = .ok root) : Path.isAbsolute root = true := by
  unfold Path.absolute at h
  split at h
  · cases h
  · cases h
    have hbase : Path.isAbsolute (if Path.hasDoubleRoot p then [Path.slash, Path.slash]
        else if Path.isAbsolute p then [Path.slash] else here) = true := by
      split
      · rfl
      · split
        · rfl
        · exact hhere
    have hwhole := Path.isAbsolute_pushAll (Path.ne_nil_of_isAbsolute hbase) (Path.names p)
    rw [hbase] at hwhole
    split
    · exact (Path.isAbsolute_push (Path.ne_nil_of_isAbsolute hwhole) []).trans hwhole
    · exact hwhole

/-- A server that is started in an absolute directory has an absolute root. -/
theorem isAbsolute_of_ofSettings {here : Bytes} {s : Settings} {site : Site}
    (hhere : Path.isAbsolute here = true) (h : ofSettings here s = .ok site) :
    Path.isAbsolute site.root = true := by
  unfold ofSettings at h
  cases habsolute : Path.absolute here (Utf8.octets s.server.root) with
  | error fault =>
      rw [habsolute] at h
      cases h
  | ok root =>
      rw [habsolute] at h
      cases h
      exact isAbsolute_of_absolute hhere habsolute

def settingsFor (root serverName : String) : Settings where
  server := ⟨"127.0.0.1", 8000, root, none⟩
  logging := ⟨"info", true, "common", none, none⟩
  performance := ⟨true, 128, none, none, none⟩
  http := ⟨serverName, []⟩

theorem octets_of_endsInSlash {path : String} (h : endsInSlash path = true) :
    ∃ before, Utf8.octets path = before ++ [Path.slash] := by
  rw [endsInSlash, beq_iff_eq, List.getLast?_eq_some_iff] at h
  obtain ⟨cs, hcs⟩ := h
  refine ⟨Utf8.encode cs, ?_⟩
  rw [Utf8.octets, hcs, Utf8.encode, List.flatMap_append]
  rfl

theorem resolve_of_endsInSlash {root candidate : Bytes} {path : String}
    (hend : endsInSlash path = true) (h : resolve root path = .ok candidate) :
    ∃ before cs, Utf8.octets path = before ++ [Path.slash] ∧
      Utf8.decode? (Percent.decode before ++ [Path.slash]) = some cs ∧
      pushSegments root (splitOn Path.slash (Percent.decode before)) = .ok candidate := by
  obtain ⟨before, hbefore⟩ := octets_of_endsInSlash hend
  obtain ⟨⟨cs, hcs⟩, hpush⟩ := resolve_eq_ok h
  have hpath : Percent.decode (Utf8.octets path) = Percent.decode before ++ [Path.slash] := by
    rw [hbefore, Percent.decode_append_slash]
    rfl
  rw [hpath] at hcs
  refine ⟨before, cs, hbefore, hcs, ?_⟩
  rw [hpath, splitOn_append_sep, pushSegments_append] at hpush
  cases hb : pushSegments root (splitOn Path.slash (Percent.decode before)) with
  | error refusal =>
      rw [hb] at hpush
      cases hpush
  | ok base =>
      rw [hb] at hpush
      exact hpush

theorem pushSegments_rest (base : Bytes) (name : FileName) {rest : Bytes}
    (hrest : rest = [] ∨ rest = [Path.slash]) :
    pushSegments base (splitOn Path.slash (name.octets ++ rest)) =
      .ok (Path.push base name.octets) := by
  rcases hrest with rfl | rfl
  · rw [List.append_nil, splitOn_of_not_mem name.slash_not_mem, pushSegments_name]
    rfl
  · rw [splitOn_append_sep, splitOn_of_not_mem name.slash_not_mem, List.singleton_append,
      pushSegments_name]
    rfl

theorem resolve_append {root candidate : Bytes} {path link : String} {name : FileName}
    {cs : List Char} (hend : endsInSlash path = true) (h : resolve root path = .ok candidate)
    (hname : Utf8.decode? name.octets = some cs) {rest : Bytes}
    (hrest : rest = [] ∨ rest = [Path.slash])
    (hlink : Utf8.octets link = Percent.encode name.octets ++ rest) :
    resolve root (path ++ link) = .ok (Path.push candidate name.octets) := by
  obtain ⟨before, ds, hbefore, hds, hbase⟩ := resolve_of_endsInSlash hend h
  have hdecode : Percent.decode rest = rest := by
    rcases hrest with rfl | rfl <;> rfl
  have htail : ∃ es, Utf8.decode? rest = some es := by
    rcases hrest with rfl | rfl
    · exact ⟨[], rfl⟩
    · exact ⟨['/'], rfl⟩
  have hwhole : Percent.decode (Utf8.octets (path ++ link)) =
      Percent.decode before ++ Path.slash :: (name.octets ++ rest) := by
    rw [Utf8.octets_append, hbefore, hlink, List.append_assoc, List.singleton_append,
      Percent.decode_append_slash, Percent.decode_encode, hdecode]
  obtain ⟨es, hes⟩ := htail
  have hvalid : Utf8.decode? (Percent.decode (Utf8.octets (path ++ link))) =
      some (ds ++ (cs ++ es)) := by
    rw [hwhole, ← List.singleton_append, ← List.append_assoc]
    exact Utf8.decode?_append hds (Utf8.decode?_append hname hes)
  simp only [resolve, hvalid]
  rw [hwhole, splitOn_append_sep, pushSegments_append, hbase]
  exact pushSegments_rest candidate name hrest

theorem octets_href {e : ListingEntry} {name : FileName} {cs : List Char}
    (hname : Utf8.decode? name.octets = some cs) (he : e.name = Utf8.lossyText name.octets) :
    Utf8.octets e.href =
      Percent.encode name.octets ++ if e.isDirectory then [Path.slash] else [] := by
  have hencode : Utf8.octets (Percent.encodeText e.name) = Percent.encode name.octets := by
    rw [Percent.octets_encodeText, he, Utf8.octets_lossyText hname]
  cases hdir : e.isDirectory with
  | false => simp [ListingEntry.href, hdir, hencode]
  | true =>
      simp only [ListingEntry.href, hdir, if_true, Utf8.octets_append, hencode]
      rfl

theorem resolve_href {root candidate : Bytes} {path : String} {e : ListingEntry} {name : FileName}
    {cs : List Char} (hend : endsInSlash path = true) (h : resolve root path = .ok candidate)
    (hname : Utf8.decode? name.octets = some cs) (he : e.name = Utf8.lossyText name.octets) :
    resolve root (path ++ e.href) = .ok (Path.push candidate name.octets) := by
  refine resolve_append hend h hname ?_ (octets_href hname he)
  cases e.isDirectory
  · exact Or.inl rfl
  · exact Or.inr rfl

theorem getLast?_encodeText {s : String} (hs : Utf8.octets s ≠ []) :
    ∃ c, (Percent.encodeText s).toList.getLast? = some c ∧ c ≠ '/' := by
  have hne : Percent.encode (Utf8.octets s) ≠ [] := by
    obtain ⟨b, bs, hbs⟩ := List.exists_cons_of_ne_nil hs
    rw [hbs, Percent.encode, List.flatMap_cons, Percent.encodeByte]
    split <;> simp
  have hb := List.getLast?_eq_some_getLast hne
  generalize (Percent.encode (Utf8.octets s)).getLast hne = b at hb
  obtain ⟨hsmall, hslash⟩ := Percent.mem_encode (List.mem_of_getLast? hb)
  refine ⟨Char.ofNat b.toNat, ?_, fun hc => hslash ?_⟩
  · rw [Percent.encodeText, String.toList_ofList, List.getLast?_map, hb]
    rfl
  · have hnat := congrArg Char.toNat hc
    rw [Utf8.toNat_ofNat (by omega)] at hnat
    exact UInt8.toNat_inj.1 hnat

theorem endsInSlash_href (path : String) {e : ListingEntry} (hne : Utf8.octets e.name ≠ []) :
    endsInSlash (path ++ e.href) = e.isDirectory := by
  obtain ⟨c, hlast, hc⟩ := getLast?_encodeText hne
  unfold endsInSlash ListingEntry.href
  cases e.isDirectory with
  | false => simp [hlast, hc]
  | true => simp

end IsolatedSite.Site
