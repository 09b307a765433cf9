import Mathlib.Control.Monad.Basic
import IsolatedSite.Proofs.Components
import IsolatedSite.Proofs.Resolve
import IsolatedSite.Proofs.Serving

namespace IsolatedSite

namespace Percent

def StartsCode (bs : Bytes) : Prop :=
  ∃ b c rest, bs = percent :: b :: c :: rest ∧ (hexValue? b).isSome ∧ (hexValue? c).isSome

/-- Octets read from the left to the right: a code stands for one octet and any octet that does not
start one stands for itself. -/
inductive Reads : Bytes → Bytes → Prop
  | nil : Reads [] []
  | code {b c high low : UInt8} {rest out : Bytes} (hb : hexValue? b = some high)
      (hc : hexValue? c = some low) (h : Reads rest out) :
      Reads (percent :: b :: c :: rest) ((high * 16 + low) :: out)
  | octet {a : UInt8} {rest out : Bytes} (ha : ¬StartsCode (a :: rest)) (h : Reads rest out) :
      Reads (a :: rest) (a :: out)

theorem ne_percent_of_hexValue? {b high : UInt8} (h : hexValue? b = some high) : b ≠ percent := by
  have hnone : hexValue? percent = none := by decide
  rintro rfl
  rw [hnone] at h
  cases h

theorem decode_of_not_startsCode {a : UInt8} {rest : Bytes} (h : ¬StartsCode (a :: rest)) :
    decode (a :: rest) = a :: decode rest := by
  by_cases ha : a = percent
  · subst ha
    match rest with
    | [] => rfl
    | [_] => rfl
    | b :: c :: rest =>
        cases hb : hexValue? b with
        | none => exact decode_percent_of_none hb _
        | some high =>
            cases hc : hexValue? c with
            | none =>
                rw [decode_percent_of_some_none hb hc, decode_cons_of_ne (ne_percent_of_hexValue? hb)]
            | some low => exact absurd ⟨b, c, rest, rfl, by simp [hb], by simp [hc]⟩ h
  · exact decode_cons_of_ne ha rest

theorem decode_of_reads {bs out : Bytes} (h : Reads bs out) : decode bs = out := by
  induction h with
  | nil => rfl
  | code hb hc _ ih => rw [decode_percent hb hc, ih]
  | octet ha _ ih => rw [decode_of_not_startsCode ha, ih]

theorem reads_decode (bs : Bytes) : Reads bs (decode bs) := by
  induction hn : bs.length using Nat.strongRecOn generalizing bs with
  | ind n ih =>
      cases bs with
      | nil => exact .nil
      | cons a rest =>
          by_cases hcode : StartsCode (a :: rest)
          · obtain ⟨b, c, rest, heq, hb, hc⟩ := hcode
            obtain ⟨high, hb⟩ := Option.isSome_iff_exists.1 hb
            obtain ⟨low, hc⟩ := Option.isSome_iff_exists.1 hc
            rw [heq] at hn ⊢
            rw [decode_percent hb hc]
            exact .code hb hc (ih rest.length (by simp at hn; omega) rest rfl)
          · rw [decode_of_not_startsCode hcode]
            exact .octet hcode (ih rest.length (by simp at hn; omega) rest rfl)

theorem reads_iff {bs out : Bytes} : Reads bs out ↔ out = decode bs := by
  constructor
  · intro h
    exact (decode_of_reads h).symm
  · rintro rfl
    exact reads_decode bs

end Percent

namespace Site

def segments (path : String) : List Bytes :=
  splitOn Path.slash (Percent.decode (Utf8.octets path))

def named (segments : List Bytes) : List Bytes :=
  segments.filter fun segment => segment ≠ [] ∧ segment ≠ Path.hereName

theorem isNamed_iff {segment : Bytes} :
    Path.isNamed segment = true ↔ segment ≠ [] ∧ segment ≠ Path.hereName := by
  simp [Path.isNamed]

theorem named_eq (segments : List Bytes) : named segments = segments.filter Path.isNamed := by
  apply List.filter_congr
  intro segment _
  rw [Bool.eq_iff_iff, isNamed_iff, decide_eq_true_iff]

theorem isName_of_mem_named {path : String} (hup : Path.upName ∉ segments path) {name : Bytes}
    (h : name ∈ named (segments path)) : Path.IsName name := by
  rw [named_eq] at h
  obtain ⟨hmem, hnamed⟩ := List.mem_filter.1 h
  refine ⟨hnamed, ?_, not_mem_of_mem_splitOn hmem⟩
  rintro rfl
  exact hup hmem

theorem pushSegments_eq (base : Bytes) (segments : List Bytes) :
    pushSegments base segments =
      if Path.upName ∈ segments then .error .forbidden
      else .ok (Path.pushAll base (segments.filter Path.isNamed)) := by
  induction segments generalizing base with
  | nil => rfl
  | cons segment segments ih =>
      rw [pushSegments]
      by_cases hnamed : Path.isNamed segment = true
      · rw [if_neg (by simp [hnamed])]
        by_cases hup : segment = Path.upName
        · rw [if_pos hup, if_pos (by simp [hup])]
        · have hmem : Path.upName ∈ segment :: segments ↔ Path.upName ∈ segments := by
            simp [Ne.symm hup]
          rw [if_neg hup, ih, List.filter_cons_of_pos hnamed, Path.pushAll_cons]
          simp only [hmem]
      · have hup : Path.upName ≠ segment := by
          rintro rfl
          exact hnamed rfl
        have hmem : Path.upName ∈ segment :: segments ↔ Path.upName ∈ segments := by
          simp [hup]
        rw [if_pos (by simp [hnamed]), ih, List.filter_cons_of_neg hnamed]
        simp only [hmem]

theorem resolve_of_no_text {path : String}
    (h : Utf8.decode? (Percent.decode (Utf8.octets path)) = none) (root : Bytes) :
    resolve root path = .error .badRequest := by
  simp only [resolve, h]

theorem resolve_of_text {path : String} {cs : List Char}
    (h : Utf8.decode? (Percent.decode (Utf8.octets path)) = some cs) (root : Bytes) :
    resolve root path =
      if Path.upName ∈ segments path then .error .forbidden
      else .ok (Path.pushAll root (named (segments path))) := by
  simp only [resolve, h, pushSegments_eq, named_eq, segments]

theorem resolve_cases (path : String) :
    (∃ refusal, (refusal = .badRequest ∨ refusal = .forbidden) ∧
      ∀ root, resolve root path = .error refusal) ∨
    (∀ name ∈ named (segments path), Path.IsName name) ∧
      ∀ root, resolve root path = .ok (Path.pushAll root (named (segments path))) := by
  cases htext : Utf8.decode? (Percent.decode (Utf8.octets path)) with
  | none => exact Or.inl ⟨.badRequest, Or.inl rfl, resolve_of_no_text htext⟩
  | some cs =>
      by_cases hup : Path.upName ∈ segments path
      · refine Or.inl ⟨.forbidden, Or.inr rfl, fun root => ?_⟩
        rw [resolve_of_text htext, if_pos hup]
      · refine Or.inr ⟨fun name => isName_of_mem_named hup, fun root => ?_⟩
        rw [resolve_of_text htext, if_neg hup]

def IsText (path : String) : Prop := ∃ cs, Utf8.encode cs = Percent.decode (Utf8.octets path)

theorem isText_of_decode? {path : String} {cs : List Char}
    (h : Utf8.decode? (Percent.decode (Utf8.octets path)) = some cs) : IsText path :=
  ⟨cs, Utf8.encode_of_decode? h⟩

theorem not_isText_of_decode? {path : String}
    (h : Utf8.decode? (Percent.decode (Utf8.octets path)) = none) : ¬IsText path := by
  rintro ⟨cs, hcs⟩
  exact Utf8.decode?_eq_none_iff.1 h cs hcs

section Exactly

variable (root : Bytes) (path : String)

theorem resolve_eq_badRequest_iff : resolve root path = .error .badRequest ↔ ¬IsText path := by
  cases htext : Utf8.decode? (Percent.decode (Utf8.octets path)) with
  | none => simp [resolve_of_no_text htext, not_isText_of_decode? htext]
  | some cs =>
      rw [resolve_of_text htext]
      split <;> simp [isText_of_decode? htext]

theorem resolve_eq_forbidden_iff :
    resolve root path = .error .forbidden ↔ IsText path ∧ Path.upName ∈ segments path := by
  cases htext : Utf8.decode? (Percent.decode (Utf8.octets path)) with
  | none => simp [resolve_of_no_text htext, not_isText_of_decode? htext]
  | some cs =>
      rw [resolve_of_text htext]
      by_cases hup : Path.upName ∈ segments path
      · simp [hup, isText_of_decode? htext]
      · simp [hup]

theorem resolve_eq_ok_iff {p : Bytes} :
    resolve root path = .ok p ↔ IsText path ∧ Path.upName ∉ segments path ∧
      p = Path.pushAll root (named (segments path)) := by
  cases htext : Utf8.decode? (Percent.decode (Utf8.octets path)) with
  | none => simp [resolve_of_no_text htext, not_isText_of_decode? htext]
  | some cs =>
      rw [resolve_of_text htext]
      by_cases hup : Path.upName ∈ segments path
      · simp [hup]
      · simp [hup, isText_of_decode? htext, eq_comm]

end Exactly

theorem count_up_names (names : List Bytes) : (names.map Path.Component.name).count .up = 0 := by
  rw [List.count_eq_zero]
  intro hmem
  obtain ⟨name, -, hname⟩ := List.mem_map.1 hmem
  cases hname

theorem components_of_resolve {root p : Bytes} {path : String} (h : resolve root path = .ok p) :
    Path.components p = Path.components root ++ (named (segments path)).map .name := by
  obtain ⟨-, hup, rfl⟩ := (resolve_eq_ok_iff root path).1 h
  exact Path.components_pushAll root (fun name => isName_of_mem_named hup)

/-- What a request path asks for below a root. The octets that the path is read as and the segments
that they are divided into depend on nothing but the path. -/
structure Asks (root : Bytes) (path : String) (octets : Bytes) (segments : List Bytes) : Prop where
  reads : ∀ out, Percent.Reads (Utf8.octets path) out ↔ out = octets
  divides : ∀ parts, Divides Path.slash parts octets ↔ parts = segments
  badRequest : resolve root path = .error .badRequest ↔ ¬∃ cs, Utf8.encode cs = octets
  forbidden : resolve root path = .error .forbidden ↔
    (∃ cs, Utf8.encode cs = octets) ∧ Path.upName ∈ segments
  candidate : ∀ p, resolve root path = .ok p ↔
    (∃ cs, Utf8.encode cs = octets) ∧ Path.upName ∉ segments ∧ p = Path.pushAll root (named segments)
  components : ∀ p, resolve root path = .ok p →
    Path.components p = Path.components root ++ (named segments).map .name
  ups : ∀ p, resolve root path = .ok p →
    (Path.components p).count .up = (Path.components root).count .up

theorem asks_segments (root : Bytes) (path : String) :
    Asks root path (Percent.decode (Utf8.octets path)) (segments path) where
  reads _ := Percent.reads_iff
  divides _ := divides_iff
  badRequest := resolve_eq_badRequest_iff root path
  forbidden := resolve_eq_forbidden_iff root path
  candidate _ := resolve_eq_ok_iff root path
  components _ := components_of_resolve
  ups p hp := by
    rw [components_of_resolve hp, List.count_append, count_up_names, Nat.add_zero]

/-- What is refused for its path is refused without a look at the tree. -/
theorem answer_of_resolve_error {site : Site} {req : Request}
    (hm : req.method = .get ∨ req.method = .head) {refusal : Refusal}
    (h : resolve site.root req.target.path = .error refusal) :
    ∃ reply, (∀ t, answer t site req = .answered reply) ∧
      reply.response.status = refusal.status := by
  have hserve : ∀ t, serve t site req = .answered (refuse req.method req.target.path
      ⟨refusal, resolveNotices req.target.path refusal⟩) := by
    intro t
    simp only [serve, locate, h]
  exact ⟨_, fun t => answer_of_serve hm (hserve t), Response.named_status _ _⟩

/-- A request path means the names below the root that are left of it, or it is refused: as no text,
or for going up. A request whose path is refused is answered alike on every tree. -/
theorem resolve_means (root : Bytes) (path : String) :
    (∃ octets segments, Asks root path octets segments) ∧
    ∀ refusal, resolve root path = .error refusal →
      ∀ site req, site.root = root → req.target.path = path →
        (req.method = .get ∨ req.method = .head) →
        ∃ reply, (∀ t, answer t site req = .answered reply) ∧
          (refusal = .badRequest ∧ reply.response.status.code = 400 ∨
            refusal = .forbidden ∧ reply.response.status.code = 403) := by
  refine ⟨⟨_, _, asks_segments root path⟩, ?_⟩
  rintro refusal h site req rfl rfl hm
  obtain ⟨reply, hreply, hstatus⟩ := answer_of_resolve_error hm h
  refine ⟨reply, hreply, ?_⟩
  rcases resolve_cases req.target.path with ⟨refusal', hrefusal, hall⟩ | ⟨-, hall⟩
  · rw [hall] at h
    cases h
    rw [hstatus]
    rcases hrefusal with rfl | rfl
    · exact Or.inl ⟨rfl, rfl⟩
    · exact Or.inr ⟨rfl, rfl⟩
  · rw [hall] at h
    cases h

theorem resolve_means_encoded_up :
    resolve (Utf8.octets "/srv") "/a%2f%2e%2E/b" = .error .forbidden ∧
    ∃ reply, (∀ t, answer t ⟨Utf8.octets "/srv", .builtIn, "site"⟩
        (requestFor .get "/a%2f%2e%2E/b") = .answered reply) ∧
      reply.response.status.code = 403 := by
  have hres : resolve (Utf8.octets "/srv") "/a%2f%2e%2E/b" = .error .forbidden := by
    decide +kernel
  obtain ⟨-, hrefused⟩ := resolve_means (Utf8.octets "/srv") "/a%2f%2e%2E/b"
  obtain ⟨reply, hreply, ⟨h, -⟩ | ⟨-, hcode⟩⟩ := hrefused _ hres
    ⟨Utf8.octets "/srv", .builtIn, "site"⟩ (requestFor .get "/a%2f%2e%2E/b") rfl rfl (Or.inl rfl)
  · cases h
  · exact ⟨hres, reply, hreply, hcode⟩

end Site

end IsolatedSite
