import IsolatedSite.Proofs.Fields
import IsolatedSite.Proofs.Replies

namespace IsolatedSite

namespace Headers

variable {h : Headers} {entries : List (String × String)}

theorem Single.foldl_insert (hs : h.Single) :
    (entries.foldl (fun h e => h.insert e.1 (Utf8.octets e.2)) h).Single := by
  induction entries generalizing h with
  | nil => exact hs
  | cons e entries ih => exact ih (hs.insert _ _)

theorem values_foldl_insert_of_not_mem {name : String} (hn : name ∉ entries.map Prod.fst) :
    (entries.foldl (fun h e => h.insert e.1 (Utf8.octets e.2)) h).values name = h.values name := by
  induction entries generalizing h with
  | nil => rfl
  | cons e entries ih =>
      rw [List.map_cons, List.mem_cons, not_or] at hn
      rw [List.foldl_cons, ih hn.2, values_insert_of_ne _ hn.1]

theorem values_foldl_insert_of_mem (hd : (entries.map Prod.fst).Nodup) {e : String × String}
    (he : e ∈ entries) :
    (entries.foldl (fun h e => h.insert e.1 (Utf8.octets e.2)) h).values e.1 = [Utf8.octets e.2] := by
  induction entries generalizing h with
  | nil => cases he
  | cons first entries ih =>
      rw [List.map_cons, List.nodup_cons] at hd
      rw [List.foldl_cons]
      rcases List.mem_cons.1 he with rfl | he
      · rw [values_foldl_insert_of_not_mem hd.1, values_insert_self]
      · exact ih hd.2 he

end Headers

namespace Response

variable {r : Response}

theorem single_named (hs : r.headers.Single) (name : String) : (r.named name).headers.Single := by
  unfold named
  split
  · exact hs.insert _ _
  · exact hs

theorem values_named_server (hr : r.headers.values "server" = []) (name : String) :
    (r.named name).headers.values "server" =
      if Header.isValue (Utf8.octets name) then [Utf8.octets name] else [] := by
  unfold named
  split
  · exact Headers.values_insert_self _ _ _
  · exact hr

theorem values_named_of_ne {other : String} (hne : other ≠ "server") (name : String) :
    (r.named name).headers.values other = r.headers.values other := by
  unfold named
  split
  · exact Headers.values_insert_of_ne _ hne _
  · rfl

theorem distinct_isolation : (isolation.map Prod.fst).Nodup := by decide

theorem values_isolated_of_not_mem {name : String} (hn : name ∉ isolation.map Prod.fst) :
    r.isolated.headers.values name = r.headers.values name :=
  Headers.values_foldl_insert_of_not_mem hn

/-- A response as it is made: every name once, none that names the server or a version of the content,
and the methods that are allowed where they are asked for or another one was used. -/
structure Plain (r : Response) : Prop where
  single : r.headers.Single
  etag : r.headers.values "etag" = []
  server : r.headers.values "server" = []
  allow : r.headers.values "allow" =
    if r.status = .noContent ∨ r.status = .methodNotAllowed then [Utf8.octets allowedMethods] else []
  status : r.status.code ∈ [200, 204, 301, 400, 403, 404, 405, 500]

theorem not_allow_of_code {status : Status} (hs : status.code ∈ [200, 301, 400, 403, 404, 500]) :
    ¬ (status = .noContent ∨ status = .methodNotAllowed) := by
  rintro (rfl | rfl) <;> revert hs <;> decide

theorem plain_of_pairs {pairs : List (String × Bytes)} (hr : r.headers.fields = pairs.map Field.ofPair)
    (hnames : ∀ name ∈ ["etag", "server", "allow"], name ∉ pairs.map Prod.fst)
    (hs : r.status.code ∈ [200, 301, 400, 403, 404, 500]) : r.Plain := by
  have hnone : ∀ name ∈ ["etag", "server", "allow"], r.headers.values name = [] := by
    intro name hname
    apply Headers.values_eq_nil
    rw [Headers.names_of_fields hr]
    exact hnames name hname
  refine ⟨Headers.single_of_fields hr, hnone _ (by simp), hnone _ (by simp), ?_, ?_⟩
  · rw [if_neg (not_allow_of_code hs)]
    exact hnone _ (by simp)
  · revert hs
    simp only [List.mem_cons, List.not_mem_nil, or_false]
    omega

theorem plain_page {status : Status} (hs : status.code ∈ [200, 301, 400, 403, 404, 500])
    (content : Bytes) (body : Body) : (page status content body).Plain :=
  plain_of_pairs (page_headers status content body) (by simp) hs

theorem plain_options : options.Plain :=
  ⟨Headers.single_of_fields options_headers, rfl, rfl, rfl, by decide⟩

theorem plain_methodNotAllowed : methodNotAllowed.Plain := by
  have hpage : (error .methodNotAllowed "Method not allowed").headers.Single :=
    Headers.single_of_fields (page_headers _ _ _)
  have hallow : methodNotAllowed.headers.values "allow" = [Utf8.octets allowedMethods] :=
    Headers.values_insert_self _ _ _
  refine ⟨hpage.insert _ _, rfl, rfl, ?_, by decide⟩
  rw [hallow, if_pos]
  exact Or.inr rfl

theorem plain_redirect? {location : String} (h : redirect? location = some r) : r.Plain := by
  obtain ⟨hstatus, -, hheaders⟩ := redirect?_eq_some h
  exact plain_of_pairs hheaders (by simp) (by rw [hstatus]; decide)

theorem plain_file? {body : Body} {type date : String} {length : Nat}
    (h : file? body type length (some date) = some r) : r.Plain := by
  obtain ⟨hstatus, -, hheaders⟩ := file?_eq_some h
  exact plain_of_pairs hheaders (by simp) (by rw [hstatus]; decide)

theorem plain_bare : (bare .internalServerError).Plain := by
  refine ⟨?_, rfl, rfl, rfl, by decide⟩
  intro f hf
  cases hf

theorem single_isolated (h : r.Plain) (name : String) : (r.named name).isolated.headers.Single :=
  (single_named h.single name).foldl_insert

theorem under_sent (r : Response) (server : String) {name : String}
    (hn : name ∉ isolation.map Prod.fst) (hne : name ≠ "server") :
    (r.named server).isolated.headers.under name = r.headers.values name := by
  rw [Headers.under_eq_values, values_isolated_of_not_mem hn, values_named_of_ne hne]

structure Shaped (serverName : String) (r : Response) : Prop where
  distinct : (r.headers.toList.map Prod.fst).Nodup
  isolation : ∀ e ∈ [("cross-origin-opener-policy", "same-origin"),
      ("cross-origin-embedder-policy", "require-corp"),
      ("cross-origin-resource-policy", "same-origin"), ("cache-control", "no-store")],
    r.headers.under e.1 = [Utf8.octets e.2]
  etag : r.headers.under "etag" = []
  server : r.headers.under "server" =
    if Header.isValue (Utf8.octets serverName) then [Utf8.octets serverName] else []
  allow : r.headers.under "allow" =
    if r.status = .noContent ∨ r.status = .methodNotAllowed then [Utf8.octets allowedMethods] else []
  status : r.status.code ∈ [200, 204, 301, 400, 403, 404, 405, 500]

theorem Plain.shaped (h : r.Plain) (name : String) : (r.named name).isolated.Shaped name := by
  have hsingle := single_isolated h name
  have hstatus : (r.named name).isolated.status = r.status := by
    rw [isolated_status, named_status]
  refine ⟨?_, ?_, ?_, ?_, ?_, ?_⟩
  · rw [hsingle.map_fst_toList]
    exact Headers.distinct _
  · intro e he
    rw [Headers.under_eq_values]
    exact Headers.values_foldl_insert_of_mem distinct_isolation he
  · rw [under_sent _ name (by decide) (by decide), h.etag]
  · rw [Headers.under_eq_values, values_isolated_of_not_mem (by decide), values_named_server h.server]
  · rw [under_sent _ name (by decide) (by decide), h.allow, hstatus]
  · rw [hstatus]
    exact h.status

end Response

namespace Site

variable {t : FileTree} {site : Site} {req : Request}

theorem Makes.plain {made : Reply} (h : Makes t req made) : made.response.Plain := by
  cases h with
  | options => exact Response.plain_options
  | methodNotAllowed => exact Response.plain_methodNotAllowed
  | refused denial =>
      apply Response.plain_page
      cases denial.refusal <;> simp only [Refusal.status] <;> decide
  | moved h => exact Response.plain_redirect? h
  | unmovable location h =>
      rw [Response.redirect, h]
      exact Response.plain_page (by decide) _ _
  | listed content => exact Response.plain_page (by decide) _ _
  | sent hn h => exact Response.plain_file? h
  | unbuildable => exact Response.plain_bare

/-- Every response has the same shape, and there is one for every request but those for a file whose
date lies beyond the calendar. -/
theorem every_response_shaped (t : FileTree) (site : Site) (req : Request) :
    (∃ r, (answer t site req).sent? = some r ∧ r.Shaped site.serverName) ∨
      (answer t site req).sent? = none ∧ Undated t site req := by
  rcases makes_answer t site req with ⟨made, hanswer, hmade⟩ | ⟨hcrashed, hundated⟩
  · left
    rw [hanswer]
    exact ⟨_, rfl, hmade.plain.shaped site.serverName⟩
  · right
    rw [hcrashed]
    exact ⟨rfl, hundated⟩

end Site

end IsolatedSite
