import IsolatedSite.Proofs.Index
import IsolatedSite.Proofs.Shape

namespace IsolatedSite

theorem getLast?_filter_eq_some {α : Type} {p : α → Bool} {as : List α} {a : α} :
    (as.filter p).getLast? = some a ↔
      ∃ before after, as = before ++ a :: after ∧ p a = true ∧ ∀ b ∈ after, p b = false := by
  rw [← List.head?_reverse, ← List.filter_reverse, List.head?_filter, List.find?_eq_some_iff_append]
  constructor
  · rintro ⟨ha, after, before, hsplit, hafter⟩
    refine ⟨before.reverse, after.reverse, ?_, ha, ?_⟩
    · rw [← List.reverse_reverse as, hsplit]
      simp
    · intro b hb
      simpa using hafter b (List.mem_reverse.1 hb)
  · rintro ⟨before, after, rfl, ha, hafter⟩
    refine ⟨ha, after.reverse, before.reverse, by simp, ?_⟩
    intro b hb
    simpa using hafter b (List.mem_reverse.1 hb)

namespace Utf8

theorem encode_append (cs ds : List Char) : encode (cs ++ ds) = encode cs ++ encode ds :=
  List.flatMap_append

theorem encode_joinWith (sep : List Char) (parts : List (List Char)) :
    encode (joinWith sep parts) = joinWith (encode sep) (parts.map encode) := by
  induction parts with
  | nil => rfl
  | cons part parts ih =>
      by_cases hparts : parts = []
      · subst hparts
        rfl
      · have hmap : parts.map encode ≠ [] := by simpa using hparts
        rw [joinWith_cons _ _ hparts, List.map_cons, joinWith_cons _ _ hmap, encode_append,
          encode_append, ih]

theorem divides_encode {parts : List (List Char)} {cs : List Char} (h : Divides '/' parts cs) :
    Divides Path.slash (parts.map encode) (encode cs) where
  some := by simpa using h.some
  apart := by
    intro part hpart
    obtain ⟨segment, hsegment, rfl⟩ := List.mem_map.1 hpart
    exact not_mem_encode (by decide) (h.apart segment hsegment)
  whole := by
    rw [← h.whole, encode_joinWith]
    rfl

end Utf8

/-- What follows the last dot of a name. A dot in front of the name is none that counts. -/
inductive Extension (name : String) : Option String → Prop
  | present {stem ext : String} (hname : name = stem ++ "." ++ ext) (hstem : stem ≠ "")
      (hlast : '.' ∉ ext.toList) : Extension name (some ext)
  | absent (h : '.' ∉ name.toList.tail) : Extension name none

namespace Extension

variable {name : String}

theorem exists_extension (name : String) : ∃ ext, Extension name ext := by
  by_cases hdot : '.' ∈ name.toList.tail
  · obtain ⟨c, cs, hname⟩ := List.exists_cons_of_ne_nil (List.ne_nil_of_tail_ne_nil
      (List.ne_nil_of_mem hdot))
    rw [hname, List.tail_cons] at hdot
    -- The last dot is the first one of the reversed text.
    obtain ⟨after, before, hsplit, hafter⟩ :=
      List.eq_append_cons_of_mem (List.mem_reverse.2 hdot)
    have hcs : cs = before.reverse ++ '.' :: after.reverse := by
      rw [← List.reverse_reverse cs, hsplit]
      simp
    refine ⟨_, @present name (.ofList (c :: before.reverse)) (.ofList after.reverse) ?_ ?_ ?_⟩
    · apply String.ext
      simp [hname, hcs]
    · intro hempty
      have hnil := congrArg String.toList hempty
      simp at hnil
    · simpa using hafter
  · exact ⟨none, .absent hdot⟩

theorem splitLast?_present {stem ext : String} (hlast : '.' ∉ ext.toList) :
    splitLast? Path.dot (Utf8.octets (stem ++ "." ++ ext)) =
      some (Utf8.octets stem, Utf8.octets ext) := by
  have hdot : Utf8.octets "." = [Path.dot] := by decide
  rw [Utf8.octets_append, Utf8.octets_append, hdot, List.append_assoc, List.singleton_append]
  exact splitLast?_append_sep _ (Utf8.not_mem_encode (by decide) hlast)

theorem splitLast?_absent (hne : name.toList ≠ []) (h : '.' ∉ name.toList.tail) :
    splitLast? Path.dot (Utf8.octets name) = none ∨
      ∃ rest, splitLast? Path.dot (Utf8.octets name) = some ([], rest) := by
  obtain ⟨c, cs, hname⟩ := List.exists_cons_of_ne_nil hne
  rw [hname, List.tail_cons] at h
  rw [Utf8.octets, hname]
  by_cases hc : c = '.'
  · subst hc
    exact Or.inr ⟨_, splitLast?_append_sep [] (Utf8.not_mem_encode (by decide) h)⟩
  · left
    apply splitLast?_of_not_mem
    apply Utf8.not_mem_encode (by decide)
    rw [List.mem_cons, not_or]
    exact ⟨Ne.symm hc, h⟩

theorem extension?_push {ext : Option String} (h : Extension name ext) (base : Bytes)
    (hname : Path.IsName (Utf8.octets name)) :
    Path.extension? (Path.push base (Utf8.octets name)) = ext.map Utf8.octets := by
  rw [Path.extension?, Path.fileName?_push base hname, Option.bind_some]
  cases h with
  | @present stem ext heq hstem hlast =>
      have hsome : (Utf8.octets stem).isEmpty = false := by
        rw [List.isEmpty_eq_false_iff]
        intro hnil
        exact hstem (Utf8.octets_injective hnil)
      rw [heq, splitLast?_present hlast]
      simp [hsome]
  | absent h =>
      have hne : name.toList ≠ [] := by
        intro hnil
        apply hname.ne_nil
        rw [Utf8.octets, hnil]
        rfl
      rcases splitLast?_absent hne h with hsplit | ⟨rest, hsplit⟩
      · rw [hsplit]
        rfl
      · rw [hsplit]
        rfl

theorem iff_eq_of {ext : Option String} (h : Extension name ext)
    (hname : Path.IsName (Utf8.octets name)) (other : Option String) :
    Extension name other ↔ other = ext := by
  constructor
  · intro hother
    have hsame := (hother.extension?_push [] hname).symm.trans (h.extension?_push [] hname)
    exact Option.map_injective (fun _ _ => Utf8.octets_injective) hsame
  · rintro rfl
    exact h

end Extension

theorem MediaTypes.forPath_push (types : MediaTypes) {name : String} {ext : Option String}
    (h : Extension name ext) (base : Bytes) (hname : Path.IsName (Utf8.octets name)) :
    types.forPath (Path.push base (Utf8.octets name)) = types.get ext := by
  rw [forPath, h.extension?_push base hname]
  cases ext with
  | none => rfl
  | some ext => rw [Option.map_some, Option.bind_some, Utf8.text?_octets]

namespace Site

/-- The path is read as a text, and the name is the last segment of this text that is neither empty
nor a single dot. -/
def LastName (path name : String) : Prop :=
  ∃ text before after, Percent.Reads (Utf8.octets path) (Utf8.octets text) ∧
    Divides '/' (before ++ name.toList :: after) text.toList ∧
    name ≠ "" ∧ name ≠ "." ∧ ∀ segment ∈ after, segment = [] ∨ segment = ['.']

theorem isNamed_encode_iff {segment : List Char} :
    Path.isNamed (Utf8.encode segment) = true ↔ segment ≠ [] ∧ segment ≠ ['.'] := by
  have hhere : Path.hereName = Utf8.encode ['.'] := by decide
  have hempty : Utf8.encode segment ≠ [] ↔ segment ≠ [] :=
    not_congr ⟨fun h => Utf8.encode_injective h, fun h => by rw [h]; rfl⟩
  have hdot : Utf8.encode segment ≠ Path.hereName ↔ segment ≠ ['.'] := by
    rw [hhere]
    exact not_congr ⟨fun h => Utf8.encode_injective h, fun h => by rw [h]⟩
  rw [isNamed_iff, hempty, hdot]

theorem segments_of_divides {path : String} {parts : List (List Char)} {text : String}
    (hreads : Percent.Reads (Utf8.octets path) (Utf8.octets text))
    (hparts : Divides '/' parts text.toList) : segments path = parts.map Utf8.encode := by
  rw [segments, ← Percent.reads_iff.1 hreads]
  exact (divides_iff.1 (Utf8.divides_encode hparts)).symm

theorem LastName.getLast? {path name : String} (h : LastName path name) :
    (named (segments path)).getLast? = some (Utf8.octets name) := by
  obtain ⟨text, before, after, hreads, hparts, hempty, hdot, hafter⟩ := h
  rw [named_eq, segments_of_divides hreads hparts, getLast?_filter_eq_some]
  refine ⟨before.map Utf8.encode, after.map Utf8.encode, by simp [Utf8.octets], ?_, ?_⟩
  · apply isNamed_encode_iff.2
    exact ⟨fun h => hempty (String.ext h), fun h => hdot (String.ext h)⟩
  · intro octets hmem
    obtain ⟨segment, hsegment, rfl⟩ := List.mem_map.1 hmem
    rw [Bool.eq_false_iff, Ne, isNamed_encode_iff, not_and_or, not_not, not_not]
    exact hafter segment hsegment

theorem LastName.eq {path name other : String} (h : LastName path name)
    (hother : LastName path other) : other = name := by
  have hsame := hother.getLast?.symm.trans h.getLast?
  exact Utf8.octets_injective (Option.some.inj hsame)

/-- The name that a request path asks for: its own last name, or with a slash at its end the first of
the index names that leads to a file. -/
inductive AsksFor (t : FileTree) (root : Bytes) (path name : String) : Prop
  | last (hend : endsInSlash path = false) (hname : LastName path name)
  | index {candidate : Bytes} (hend : endsInSlash path = true)
      (hres : resolve root path = .ok candidate)
      (hfirst : indexTexts.find? (fun name => IsIndex t root candidate name) = some name)

variable {t : FileTree} {root : Bytes} {path name : String}

theorem AsksFor.iff_eq (h : AsksFor t root path name) (other : String) :
    AsksFor t root path other ↔ other = name := by
  constructor
  · intro hother
    cases h with
    | last hend hname =>
        cases hother with
        | last _ hother => exact hname.eq hother
        | index hslash _ _ =>
            rw [hend] at hslash
            cases hslash
    | index hslash hres hfirst =>
        cases hother with
        | last hend _ =>
            rw [hend] at hslash
            cases hslash
        | index _ hres' hfirst' =>
            rw [hres] at hres'
            cases hres'
            rw [hfirst] at hfirst'
            exact (Option.some.inj hfirst').symm
  · rintro rfl
    exact h

/-- A file is asked for by the last name of the path that it is requested by, index file or not. -/
theorem asksFor_of_locate {requested : Bytes} {place : Spot}
    (h : locate t root path = .ok (.file requested place))
    (hsome : endsInSlash path = false → ∃ name, LastName path name) :
    ∃ name base, AsksFor t root path name ∧ Path.IsName (Utf8.octets name) ∧
      requested = Path.push base (Utf8.octets name) := by
  obtain ⟨candidate, spot, hres, -, hfound⟩ := locate_eq_ok h
  rcases foundAt_eq_ok hfound with ⟨hf, hend, -⟩ | ⟨entries, -, ⟨hf, -⟩ | ⟨hf, -⟩ |
    ⟨_, _, hf, hend, hindex⟩⟩
  · cases hf
    obtain ⟨name, hname⟩ := hsome hend
    obtain ⟨-, hup, rfl⟩ := (resolve_eq_ok_iff root path).1 hres
    obtain ⟨names, hnames⟩ := List.getLast?_eq_some_iff.1 hname.getLast?
    refine ⟨name, Path.pushAll root names, .last hend hname, ?_, ?_⟩
    · apply isName_of_mem_named hup
      rw [hnames]
      exact List.mem_append_right _ List.mem_cons_self
    · rw [hnames, Path.pushAll_append_singleton]
  · cases hf
  · cases hf
  · cases hf
    rw [indexNames_eq, indexFile?_eq_find?] at hindex
    obtain ⟨name, hfirst, hindex⟩ := Option.bind_eq_some_iff.1 hindex
    obtain ⟨⟨octets, hmem, rfl⟩, -⟩ := indexFile?_eq_some hindex
    rw [List.mem_singleton.1 hmem]
    refine ⟨name, candidate, .index hend hres hfirst, ?_, rfl⟩
    apply isName_of_mem_indexNames
    rw [indexNames_eq]
    exact List.mem_map.2 ⟨name, List.mem_of_find?_eq_some hfirst, rfl⟩

variable {site : Site} {req : Request}

theorem sentFile_of_locate (hm : req.method = .get ∨ req.method = .head) {r : Response}
    (h : (answer t site req).sent? = some r) (hok : r.status = .ok) {requested : Bytes} {place : Spot}
    (hfile : locate t site.root req.target.path = .ok (.file requested place)) :
    ∃ n date body made, t.node? place.node = some n ∧ HttpDate.ofMoment? n.modified = some date ∧
      Response.file? body (site.types.forPath requested) n.content.size (some date) = some made ∧
      r = (made.named site.serverName).isolated := by
  obtain ⟨-, -, -, -, n, hn, -⟩ := locate_eq_file hfile
  have hserve : serve t site req = fileOutcome t site req requested place := by
    simp only [serve, hfile]
  rw [Outcome.sent?_eq, response?_answer hm, hserve] at h
  cases hout : fileOutcome t site req requested place with
  | crashed =>
      rw [hout] at h
      cases h
  | answered reply =>
      rw [hout] at h
      cases h
      rw [Response.isolated_status, Response.named_status] at hok
      rcases fileOutcome_eq_answered hn hout with herror | ⟨date, hdate, hmade⟩
      · rw [hok] at herror
        cases herror
      · exact ⟨n, date, _, reply.response, hn, hdate, hmade, rfl⟩

theorem contentType_of_locate (hm : req.method = .get ∨ req.method = .head) {r : Response}
    (h : (answer t site req).sent? = some r) (hok : r.status = .ok) {requested : Bytes} {place : Spot}
    (hfile : locate t site.root req.target.path = .ok (.file requested place)) :
    r.headers.under "content-type" = [Utf8.octets (site.types.forPath requested)] := by
  obtain ⟨n, date, body, made, -, -, hmade, rfl⟩ := sentFile_of_locate hm h hok hfile
  obtain ⟨-, -, hheaders⟩ := Response.file?_eq_some hmade
  rw [Response.under_sent _ _ (by decide) (by decide)]
  exact Headers.values_of_pair hheaders List.mem_cons_self

end Site

end IsolatedSite
