import Mathlib.Data.List.Induction
import IsolatedSite.Proofs.General
import IsolatedSite.Proofs.Shape

namespace IsolatedSite

namespace Headers

variable {h : Headers}

theorem isPrefix_names_insert (h : Headers) (name : String) (value : Bytes) :
    h.names <+: (h.insert name value).names := by
  rw [names_insert]
  split
  · exact List.prefix_refl _
  · exact List.prefix_append _ _

theorem isPrefix_names_foldl_insert (h : Headers) (entries : List (String × String)) :
    h.names <+: (entries.foldl (fun h e => h.insert e.1 (Utf8.octets e.2)) h).names := by
  induction entries generalizing h with
  | nil => exact List.prefix_refl _
  | cons e entries ih => exact (isPrefix_names_insert h _ _).trans (ih _)

theorem place_of_find? {new : Field} {change : Field → Field} {fields : List Field}
    (hf : fields.find? (·.name == new.name) = some new) (hc : change new = new) :
    place new change fields = fields := by
  induction fields with
  | nil => cases hf
  | cons f fields ih =>
      by_cases hname : f.name = new.name
      · rw [List.find?_cons_of_pos (by simpa using hname), Option.some.injEq] at hf
        rw [place, if_pos hname, hf, hc]
      · rw [List.find?_cons_of_neg (by simpa using hname)] at hf
        rw [place, if_neg hname, ih hf]

theorem insert_of_values {name : String} {value : Bytes} (hv : h.values name = [value]) :
    h.insert name value = h := by
  rw [values] at hv
  split at hv
  · next f hf =>
      have hname : f.name = name := by simpa using List.find?_some hf
      obtain ⟨own, first, more⟩ := f
      cases hname
      cases hv
      have hplace : place ⟨own, first, []⟩ (fun _ => ⟨own, first, []⟩) h.fields = h.fields :=
        place_of_find? hf rfl
      obtain ⟨fields, hd⟩ := h
      simp only [insert, hplace]
  · cases hv

theorem foldl_insert_of_values {entries : List (String × String)}
    (hv : ∀ e ∈ entries, h.values e.1 = [Utf8.octets e.2]) :
    entries.foldl (fun h e => h.insert e.1 (Utf8.octets e.2)) h = h := by
  induction entries with
  | nil => rfl
  | cons e entries ih =>
      rw [List.forall_mem_cons] at hv
      rw [List.foldl_cons, insert_of_values hv.1, ih hv.2]

theorem toList_eq_flatMap (h : Headers) :
    h.toList = h.names.flatMap fun name => (h.under name).map fun value => (name, value) := by
  rw [toList, names, List.flatMap_map]
  apply List.flatMap_congr
  intro f hf
  rw [under_eq_values, values, find?_of_nodup Field.name h.distinct hf]

end Headers

inductive HeaderStep where
  | name (server : String)
  | isolate
  deriving DecidableEq

namespace HeaderStep

def perform (r : Response) : HeaderStep → Response
  | .name server => r.named server
  | .isolate => r.isolated

def performAll (r : Response) (steps : List HeaderStep) : Response := steps.foldl perform r

def validName? : HeaderStep → Option String
  | .name server => if Header.isValue (Utf8.octets server) then some server else none
  | .isolate => none

def puts? (name : String) : HeaderStep → Option Bytes
  | .name server =>
    if name = "server" ∧ Header.isValue (Utf8.octets server) then some (Utf8.octets server) else none
  | .isolate => (Response.isolation.find? (·.1 == name)).map fun e => Utf8.octets e.2

variable (r : Response) (step : HeaderStep) (steps : List HeaderStep)

theorem performAll_append_singleton :
    performAll r (steps ++ [step]) = step.perform (performAll r steps) := by
  simp [performAll]

theorem values_perform (name : String) :
    (step.perform r).headers.values name = ((step.puts? name).map ([·])).getD (r.headers.values name) := by
  cases step with
  | name server =>
      by_cases hvalid : Header.isValue (Utf8.octets server) = true
      · by_cases hname : name = "server"
        · subst hname
          simp [perform, puts?, Response.named, hvalid]
        · simp [perform, puts?, Response.values_named_of_ne, hname]
      · simp [perform, puts?, Response.named, hvalid]
  | isolate =>
      rw [perform, puts?]
      cases hfind : Response.isolation.find? (·.1 == name) with
      | none =>
          apply Response.values_isolated_of_not_mem
          rw [List.find?_eq_none] at hfind
          intro hmem
          obtain ⟨e, he, rfl⟩ := List.mem_map.1 hmem
          exact hfind e he (beq_self_eq_true e.1)
      | some e =>
          have hname : e.1 = name := by simpa using List.find?_some hfind
          subst hname
          exact Headers.values_foldl_insert_of_mem Response.distinct_isolation
            (List.mem_of_find?_eq_some hfind)

/-- The last step about a name decides what its values are. -/
theorem values_performAll (name : String) :
    (performAll r steps).headers.values name =
      ((steps.filterMap (puts? name)).getLast?.map ([·])).getD (r.headers.values name) := by
  induction steps using List.reverseRecOn with
  | nil => rfl
  | append_singleton steps step ih =>
      rw [performAll_append_singleton, values_perform, ih, List.filterMap_append]
      cases hputs : step.puts? name <;> simp [hputs]

theorem isPrefix_names_perform : r.headers.names <+: (step.perform r).headers.names := by
  cases step with
  | name server =>
      rw [perform, Response.named]
      split
      · exact Headers.isPrefix_names_insert _ _ _
      · exact List.prefix_refl _
  | isolate => exact Headers.isPrefix_names_foldl_insert _ _

theorem isPrefix_names_performAll : r.headers.names <+: (performAll r steps).headers.names := by
  induction steps generalizing r with
  | nil => exact List.prefix_refl _
  | cons step steps ih => exact (isPrefix_names_perform r step).trans (ih _)

theorem status_perform (step : HeaderStep) : (step.perform r).status = r.status := by
  cases step with
  | name server => exact Response.named_status r server
  | isolate => rfl

theorem body_perform (step : HeaderStep) : (step.perform r).body = r.body := by
  cases step with
  | name server => exact Response.named_body r server
  | isolate => rfl

theorem status_performAll : (performAll r steps).status = r.status := by
  induction steps generalizing r with
  | nil => rfl
  | cons step steps ih => exact (ih _).trans (status_perform r step)

theorem body_performAll : (performAll r steps).body = r.body := by
  induction steps generalizing r with
  | nil => rfl
  | cons step steps ih => exact (ih _).trans (body_perform r step)

theorem filterMap_puts?_server :
    steps.filterMap (puts? "server") = (steps.filterMap validName?).map Utf8.octets := by
  have hisolate : Response.isolation.find? (·.1 == "server") = none := by decide
  rw [List.map_filterMap]
  apply List.filterMap_congr
  intro step _
  cases step with
  | name server => by_cases h : Header.isValue (Utf8.octets server) = true <;> simp [puts?, validName?, h]
  | isolate => rw [puts?, hisolate]; rfl

theorem puts?_isolation {e : String × String} (he : e ∈ Response.isolation) (step : HeaderStep) :
    step.puts? e.1 = if step = .isolate then some (Utf8.octets e.2) else none := by
  have hall : ∀ e ∈ Response.isolation, e.1 ≠ "server" ∧ Response.isolation.find? (·.1 == e.1) = some e := by
    decide
  obtain ⟨hserver, hfind⟩ := hall e he
  cases step with
  | name server => simp [puts?, hserver]
  | isolate => rw [puts?, hfind]; rfl

theorem puts?_of_other {name : String} (hserver : name ≠ "server")
    (hn : name ∉ Response.isolation.map Prod.fst) (step : HeaderStep) : step.puts? name = none := by
  cases step with
  | name server => simp [puts?, hserver]
  | isolate =>
      have hnone : Response.isolation.find? (·.1 == name) = none := by
        rw [List.find?_eq_none]
        intro e he hname
        exact hn (List.mem_map.2 ⟨e, he, by simpa using hname⟩)
      rw [puts?, hnone]
      rfl

theorem getLast?_puts?_isolation {e : String × String} (he : e ∈ Response.isolation) :
    (steps.filterMap (puts? e.1)).getLast? =
      if .isolate ∈ steps then some (Utf8.octets e.2) else none := by
  induction steps using List.reverseRecOn with
  | nil => rfl
  | append_singleton steps step ih =>
      rw [List.filterMap_append]
      cases step with
      | isolate => simp [puts?_isolation he]
      | name server =>
          have hnone : [name server].filterMap (puts? e.1) = [] := by simp [puts?_isolation he]
          rw [hnone, List.append_nil, ih]
          simp

/-- How a response comes out of its steps. What is sent under a name is told in order, and so are the
names. -/
structure Composed (steps : List HeaderStep) (r r' : Response) : Prop where
  server : r'.headers.under "server" =
    ((steps.filterMap validName?).getLast?.map fun server => [Utf8.octets server]).getD
      (r.headers.under "server")
  isolation : ∀ e ∈ [("cross-origin-opener-policy", "same-origin"),
      ("cross-origin-embedder-policy", "require-corp"),
      ("cross-origin-resource-policy", "same-origin"), ("cache-control", "no-store")],
    r'.headers.under e.1 = if .isolate ∈ steps then [Utf8.octets e.2] else r.headers.under e.1
  others : ∀ name ∉ ["server", "cross-origin-opener-policy", "cross-origin-embedder-policy",
      "cross-origin-resource-policy", "cache-control"],
    r'.headers.under name = r.headers.under name
  order : r.headers.names <+: r'.headers.names
  grouped : r'.headers.names.Nodup ∧
    r'.headers.toList = r'.headers.names.flatMap fun name => (r'.headers.under name).map fun v => (name, v)
  status : r'.status = r.status
  body : r'.body = r.body
  settled : .isolate ∈ steps → r'.isolated = r'

/-- Names of servers and headers of isolation can be put on in any order and any number of times: the
last name that can be written is sent, the headers of isolation once each, and all else as it was. -/
theorem header_steps_compose (r : Response) (steps : List HeaderStep) :
    Composed steps r (performAll r steps) := by
  have hunder : ∀ name, (performAll r steps).headers.under name =
      ((steps.filterMap (puts? name)).getLast?.map ([·])).getD (r.headers.under name) := by
    intro name
    rw [Headers.under_eq_values, Headers.under_eq_values, values_performAll]
  have hisolation : ∀ e ∈ Response.isolation, (performAll r steps).headers.under e.1 =
      if .isolate ∈ steps then [Utf8.octets e.2] else r.headers.under e.1 := by
    intro e he
    rw [hunder, getLast?_puts?_isolation steps he]
    split <;> rfl
  refine ⟨?_, hisolation, ?_, isPrefix_names_performAll r steps, ⟨Headers.distinct _, Headers.toList_eq_flatMap _⟩,
    status_performAll r steps, body_performAll r steps, ?_⟩
  · rw [hunder, filterMap_puts?_server, List.getLast?_map, Option.map_map]
    rfl
  · intro name hname
    rw [List.mem_cons, not_or] at hname
    have hnone : steps.filterMap (puts? name) = [] := by
      rw [List.filterMap_eq_nil_iff]
      exact fun step _ => puts?_of_other hname.1 hname.2 step
    rw [hunder, hnone]
    rfl
  · intro hmem
    have hvalues : ∀ e ∈ Response.isolation,
        (performAll r steps).headers.values e.1 = [Utf8.octets e.2] := by
      intro e he
      rw [← Headers.under_eq_values, hisolation e he, if_pos hmem]
    rw [Response.isolated, Headers.foldl_insert_of_values hvalues]

def twiceNamed : Response where
  status := .notFound
  headers :=
    { fields :=
        [⟨"cache-control", Utf8.octets "public", [Utf8.octets "immutable"]⟩,
          ⟨"x-trace", Utf8.octets "b", [Utf8.octets "a"]⟩,
          ⟨"server", Utf8.octets "old", [Utf8.octets "older"]⟩,
          ⟨"cross-origin-opener-policy", Utf8.octets "unsafe-none", []⟩]
      distinct := by decide }
  body := .empty

theorem header_steps_compose_twiceNamed :
    Composed [.name "one", .isolate, .name "two", .name "bad\nname"] twiceNamed
        (performAll twiceNamed [.name "one", .isolate, .name "two", .name "bad\nname"]) ∧
      (performAll twiceNamed [.name "one", .isolate, .name "two", .name "bad\nname"]).headers.toList =
        [("cache-control", Utf8.octets "no-store"), ("x-trace", Utf8.octets "b"),
          ("x-trace", Utf8.octets "a"), ("server", Utf8.octets "two"),
          ("cross-origin-opener-policy", Utf8.octets "same-origin"),
          ("cross-origin-embedder-policy", Utf8.octets "require-corp"),
          ("cross-origin-resource-policy", Utf8.octets "same-origin")] :=
  ⟨header_steps_compose _ _, by decide⟩

end HeaderStep

end IsolatedSite
