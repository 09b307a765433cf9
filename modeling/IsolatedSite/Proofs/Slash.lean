import IsolatedSite.Proofs.Confinement
import IsolatedSite.Proofs.Shape
import IsolatedSite.Proofs.Target

namespace IsolatedSite

namespace Site

section Resolving

variable (root : Bytes) (path : String)

theorem resolve_append_slash : resolve root (path ++ "/") = resolve root path := by
  have hdecoded : Percent.decode (Utf8.octets (path ++ "/")) =
      Percent.decode (Utf8.octets path) ++ [Path.slash] := by
    rw [Utf8.octets_append]
    exact Percent.decode_append_slash _ []
  have hslash : Utf8.decode? [Path.slash] = some ['/'] := rfl
  simp only [resolve, hdecoded]
  cases hd : Utf8.decode? (Percent.decode (Utf8.octets path)) with
  | none => rw [Utf8.decode?_append_eq_none (by decide) hd]
  | some cs =>
      rw [Utf8.decode?_append hd hslash]
      dsimp only
      rw [splitOn_append_sep, pushSegments_append]
      cases pushSegments root (splitOn Path.slash (Percent.decode (Utf8.octets path))) <;> rfl

theorem resolve_slash_append : resolve root ("/" ++ path) = resolve root path := by
  have hdecoded : Percent.decode (Utf8.octets ("/" ++ path)) =
      Path.slash :: Percent.decode (Utf8.octets path) := by
    rw [Utf8.octets_append]
    exact Percent.decode_slash _
  have hread : ∀ bs, Utf8.decode? (Path.slash :: bs) = (Utf8.decode? bs).map ('/' :: ·) := fun _ => rfl
  simp only [resolve, hdecoded, hread]
  cases Utf8.decode? (Percent.decode (Utf8.octets path)) <;> rfl

theorem resolve_dropWhile (cs : List Char) :
    resolve root (String.ofList (cs.dropWhile (· == '/'))) = resolve root (String.ofList cs) := by
  induction cs with
  | nil => rfl
  | cons c cs ih =>
      rw [List.dropWhile_cons]
      split
      · next hc =>
          rw [beq_iff_eq] at hc
          have hcons : String.ofList (c :: cs) = "/" ++ String.ofList cs := by
            apply String.toList_inj.1
            simp [hc]
          rw [ih, hcons, resolve_slash_append]
      · rfl

def slashedPath (path : String) : String :=
  "/" ++ String.ofList (path.toList.dropWhile (· == '/')) ++ "/"

theorem resolve_slashedPath : resolve root (slashedPath path) = resolve root path := by
  rw [slashedPath, resolve_append_slash, resolve_slash_append, resolve_dropWhile, String.ofList_toList]

theorem endsInSlash_append_slash : endsInSlash (path ++ "/") = true := by
  simp [endsInSlash]

end Resolving

section Locating

variable {t : FileTree} {root : Bytes} {bare slash : String}

theorem contentAt_of_foundAt {candidate : Bytes} {place : Spot} {refusal : Refusal}
    (hbare : endsInSlash bare = false) (h : foundAt t root bare candidate place = .error refusal) :
    contentAt t place = .error refusal := by
  simp only [foundAt, hbare] at h
  split at h
  · next hcontent =>
      cases h
      exact hcontent
  · cases h
  · cases h

/-- What is refused without the slash is refused with it, for the same reason. -/
theorem locate_slash_of_error {denial : Denial} (hsame : resolve root slash = resolve root bare)
    (hbare : endsInSlash bare = false) (h : locate t root bare = .error denial) :
    ∃ notices, locate t root slash = .error ⟨denial.refusal, notices⟩ := by
  cases hres : resolve root bare with
  | error refusal =>
      simp only [locate, hsame, hres] at h ⊢
      cases h
      exact ⟨_, rfl⟩
  | ok candidate =>
      cases hconf : confine t root candidate with
      | error refusal =>
          simp only [locate, hsame, hres, hconf] at h ⊢
          cases h
          exact ⟨_, rfl⟩
      | ok place =>
          cases hfound : foundAt t root bare candidate place with
          | error refusal =>
              simp only [locate, hres, hconf, hfound] at h
              cases h
              simp only [locate, hsame, hres, hconf, foundAt, contentAt_of_foundAt hbare hfound]
              exact ⟨_, rfl⟩
          | ok found =>
              simp only [locate, hres, hconf, hfound] at h
              cases h

/-- What is shown without the slash is a file, and there is nothing below it. -/
theorem locate_slash_of_shown {found : Found} (hsame : resolve root slash = resolve root bare)
    (hbare : endsInSlash bare = false) (hslash : endsInSlash slash = true)
    (h : locate t root bare = .ok found) (hf : ∀ place, found ≠ .needsSlash place) :
    locate t root slash = .error ⟨.notFound, []⟩ := by
  obtain ⟨candidate, place, hres, hconf, hfound⟩ := locate_eq_ok h
  rcases foundAt_eq_ok hfound with ⟨-, -, content, hcontent, hdir⟩ | ⟨entries, -, ⟨heq, -⟩ |
    ⟨-, hend, -⟩ | ⟨_, _, -, hend, -⟩⟩
  · simp only [locate, hsame, hres, hconf, foundAt, hcontent, hslash]
    cases content with
    | directory entries => cases hdir
    | file | link | socket | device => rfl
  · exact absurd heq (hf place)
  · rw [hbare] at hend
    cases hend
  · rw [hbare] at hend
    cases hend

/-- A directory is shown once its path has the slash. -/
theorem locate_slash_of_needsSlash {place : Spot} (hsame : resolve root slash = resolve root bare)
    (hslash : endsInSlash slash = true) (h : locate t root bare = .ok (.needsSlash place)) :
    ∃ found, locate t root slash = .ok found ∧ ∀ place, found ≠ .needsSlash place := by
  obtain ⟨candidate, entries, hres, hconf, hcontent, -⟩ := locate_eq_needsSlash h
  simp only [locate, hsame, hres, hconf, foundAt, hcontent, hslash]
  cases indexFile? t root candidate indexNames with
  | none => exact ⟨_, rfl, nofun⟩
  | some index => exact ⟨_, rfl, nofun⟩

end Locating

section Answering

variable {t : FileTree} {site : Site} {req : Request}

theorem served_of_answer {reply : Reply} (hm : req.method = .get)
    (h : answer t site req = .answered reply) :
    Served t site req.target.path reply.response.status := by
  obtain ⟨made, hd, hr⟩ := answer_eq_answered h
  rw [dispatch_eq_serve (Or.inl hm)] at hd
  rw [hr, Response.named_status]
  exact served_of_serve hd

theorem Served.shown_of_ok {path : String} (h : Served t site path .ok) :
    ∃ found, locate t site.root path = .ok found ∧ ∀ place, found ≠ .needsSlash place := by
  cases h with
  | @refused denial _ hs => exact absurd hs.symm (refuse_status_ne .get path denial).1
  | moved _ hs => rcases hs with hs | hs <;> cases hs
  | @shown found hloc hf => exact ⟨found, hloc, hf⟩

theorem Served.refused_of_mem {path : String} {status : Status} (h : Served t site path status)
    (hs : status ∈ [.badRequest, .forbidden, .notFound]) :
    ∃ denial, locate t site.root path = .error denial ∧ status = denial.refusal.status := by
  cases h with
  | @refused denial hloc hstatus => exact ⟨denial, hloc, hstatus⟩
  | moved _ hstatus => rcases hstatus with rfl | rfl <;> exact absurd hs (by decide)
  | shown _ _ hstatus => rcases hstatus with rfl | rfl <;> exact absurd hs (by decide)

theorem answer_of_locate_error (hm : req.method = .get) {denial : Denial}
    (h : locate t site.root req.target.path = .error denial) :
    ∃ reply, answer t site req = .answered reply ∧ reply.response.status = denial.refusal.status :=
  answer_of_refused (Or.inl hm) h

theorem answer_of_shown (hm : req.method = .get) {found : Found}
    (h : locate t site.root req.target.path = .ok found) (hf : ∀ place, found ≠ .needsSlash place)
    (hdated : ¬ Undated t site req) :
    ∃ reply, answer t site req = .answered reply ∧
      (reply.response.status = .ok ∨ reply.response.status = .internalServerError) := by
  rcases makes_serve (Or.inl hm) with ⟨made, hserve, -⟩ | ⟨-, hundated⟩
  · refine ⟨_, answer_of_serve (Or.inl hm) hserve, ?_⟩
    rw [Response.named_status]
    cases served_of_serve hserve with
    | refused hloc =>
        rw [h] at hloc
        cases hloc
    | @moved place hloc =>
        rw [h] at hloc
        cases hloc
        exact absurd rfl (hf place)
    | shown _ _ hs => exact hs
  · exact absurd hundated hdated

theorem Makes.location {made : Reply} (h : Makes t req made)
    (hs : made.response.status = .movedPermanently) :
    made.response.headers.values "location" = [Utf8.octets (slashed req.target)] := by
  cases h with
  | options => cases hs
  | methodNotAllowed => cases hs
  | refused denial => exact absurd hs (refuse_status_ne _ _ _).2
  | moved h =>
      obtain ⟨-, -, hheaders⟩ := Response.redirect?_eq_some h
      exact Headers.values_of_pair hheaders List.mem_cons_self
  | unmovable location h =>
      rw [Response.redirect, h] at hs
      cases hs
  | listed content => cases hs
  | sent hn h =>
      rw [file?_status h] at hs
      cases hs
  | unbuildable => cases hs

theorem location_of_answer {reply : Reply} (h : answer t site req = .answered reply)
    (hs : reply.response.status = .movedPermanently) :
    reply.response.isolated.headers.under "location" = [Utf8.octets (slashed req.target)] := by
  rcases makes_answer t site req with ⟨made, hanswer, hmade⟩ | ⟨hcrashed, -⟩
  · rw [hanswer] at h
    cases h
    rw [Response.named_status] at hs
    rw [Response.under_sent _ _ (by decide) (by decide), hmade.location hs]
  · rw [hcrashed] at h
    cases h

/-- The location is the path with its slashes and the query, if there is one. It can be taken apart
again at its first question mark. Its path leads where the path that was asked for leads, and whoever
asks for it is not sent on again, but gets nothing if the index file has no date. -/
structure SendsOn (t : FileTree) (site : Site) (req : Request) (location : String) : Prop where
  text : location =
    slashedPath req.target.path ++ match req.target.query with
      | some query => "?" ++ query
      | none => ""
  parts : splitFirst '?' location.toList =
    ((slashedPath req.target.path).toList, req.target.query.map String.toList)
  leads : ∃ candidate, resolve site.root req.target.path = .ok candidate ∧
    resolve site.root (slashedPath req.target.path) = .ok candidate
  ends : ∀ next : Request, next.method = .get → next.target.path = slashedPath req.target.path →
    ¬ Undated t site next → ∃ reply, answer t site next = .answered reply ∧
      (reply.response.status = .ok ∨ reply.response.status = .internalServerError)
  breaks : ∀ next : Request, next.target.path = slashedPath req.target.path →
    (answer t site next = .crashed ↔ Undated t site next)

theorem slashed_eq (target : Target) :
    slashed target = slashedPath target.path ++ match target.query with
      | some query => "?" ++ query
      | none => "" := by
  unfold slashed slashedPath
  cases target.query with
  | none => simp
  | some query =>
      apply String.toList_inj.1
      simp

theorem question_not_mem_slashedPath {path : String} (h : '?' ∉ path.toList) :
    '?' ∉ (slashedPath path).toList := by
  have hdrop : '?' ∉ path.toList.dropWhile (· == '/') :=
    fun hmem => h ((List.dropWhile_sublist _).subset hmem)
  simp [slashedPath, hdrop]

theorem sendsOn_slashed {place : Spot} (hquestion : '?' ∉ req.target.path.toList)
    (h : locate t site.root req.target.path = .ok (.needsSlash place)) :
    SendsOn t site req (slashed req.target) := by
  have hpath := question_not_mem_slashedPath hquestion
  have hsame := resolve_slashedPath site.root req.target.path
  refine ⟨slashed_eq _, ?_, ?_, ?_, fun _ _ => answer_eq_crashed_iff⟩
  · rw [slashed_eq, String.toList_append]
    cases req.target.query with
    | none =>
        rw [String.toList_empty, List.append_nil]
        exact splitFirst_of_not_mem hpath
    | some query =>
        rw [String.toList_append]
        exact splitFirst_append_sep hpath query.toList
  · obtain ⟨candidate, -, hres, -⟩ := locate_eq_needsSlash h
    exact ⟨candidate, hres, hsame.trans hres⟩
  · intro next hm hnext hdated
    obtain ⟨found, hfound, hf⟩ :=
      locate_slash_of_needsSlash hsame (endsInSlash_append_slash _) h
    rw [← hnext] at hfound
    exact answer_of_shown hm hfound hf hdated

/-- With a slash behind its path a file is not found, what was refused is refused alike, and a
directory is shown, which is what the redirect to it says. -/
theorem trailing_slash_law {bs : Bytes} {reply : Reply} (hparse : Target.parse bs = .ok req.target)
    (hm : req.method = .get) (hend : endsInSlash req.target.path = false)
    (h : answer t site req = .answered reply) :
    (reply.response.status = .ok →
      ∀ other : Request, other.method = .get → other.target.path = req.target.path ++ "/" →
        ∃ reply', answer t site other = .answered reply' ∧ reply'.response.status = .notFound) ∧
    (reply.response.status ∈ [.badRequest, .forbidden, .notFound] →
      ∀ other : Request, other.method = .get → other.target.path = req.target.path ++ "/" →
        ∃ reply', answer t site other = .answered reply' ∧
          reply'.response.status = reply.response.status) ∧
    (reply.response.status = .movedPermanently →
      ∃ location, reply.response.isolated.headers.under "location" = [Utf8.octets location] ∧
        SendsOn t site req location) := by
  have hserved := served_of_answer hm h
  have hsame := resolve_append_slash site.root req.target.path
  have hslash := endsInSlash_append_slash req.target.path
  refine ⟨?_, ?_, ?_⟩
  · intro hok other hget hpath
    rw [hok] at hserved
    obtain ⟨found, hloc, hf⟩ := hserved.shown_of_ok
    have hother := locate_slash_of_shown hsame hend hslash hloc hf
    rw [← hpath] at hother
    exact answer_of_locate_error hget hother
  · intro hs other hget hpath
    obtain ⟨denial, hloc, hstatus⟩ := hserved.refused_of_mem hs
    obtain ⟨notices, hother⟩ := locate_slash_of_error hsame hend hloc
    rw [← hpath] at hother
    obtain ⟨reply', hreply', hstatus'⟩ := answer_of_locate_error hget hother
    exact ⟨reply', hreply', hstatus'.trans hstatus.symm⟩
  · intro hmoved
    rw [hmoved] at hserved
    obtain ⟨place, hloc⟩ := hserved.needsSlash
    exact ⟨_, location_of_answer h hmoved,
      sendsOn_slashed (Target.question_not_mem_path hparse) hloc⟩

def docsRequest : Request := ⟨.get, ⟨"//docs", some "x=1"⟩, .v11, .empty⟩

theorem trailing_slash_law_linkedTree :
    (∃ reply, answer (linkedTree secretFile) linkedSite (requestFor .get "/page") = .answered reply ∧
      reply.response.status = .ok ∧
      ∀ other : Request, other.method = .get → other.target.path = "/page" ++ "/" →
        ∃ reply', answer (linkedTree secretFile) linkedSite other = .answered reply' ∧
          reply'.response.status = .notFound) ∧
    (∃ reply, answer (linkedTree secretFile) linkedSite (requestFor .get "/out") = .answered reply ∧
      reply.response.status = .forbidden ∧
      ∀ other : Request, other.method = .get → other.target.path = "/out" ++ "/" →
        ∃ reply', answer (linkedTree secretFile) linkedSite other = .answered reply' ∧
          reply'.response.status = .forbidden) ∧
    ∃ reply, answer (linkedTree secretFile) linkedSite docsRequest = .answered reply ∧
      reply.response.status = .movedPermanently ∧
      reply.response.isolated.headers.under "location" = [Utf8.octets "/docs/?x=1"] ∧
      ∃ location, reply.response.isolated.headers.under "location" = [Utf8.octets location] ∧
        SendsOn (linkedTree secretFile) linkedSite docsRequest location := by
  have hpage : Target.parse (Utf8.octets "/page") = .ok (requestFor .get "/page").target := by
    decide +kernel
  have hout : Target.parse (Utf8.octets "/out") = .ok (requestFor .get "/out").target := by
    decide +kernel
  have hdocs : Target.parse (Utf8.octets "//docs?x=1") = .ok docsRequest.target := by
    decide +kernel
  have hlocation : slashed docsRequest.target = "/docs/?x=1" := by
    decide +kernel
  refine ⟨?_, ?_, ?_⟩
  · obtain ⟨reply, hreply, hs⟩ := Outcome.answered_of_status
      (o := answer (linkedTree secretFile) linkedSite (requestFor .get "/page"))
      (s := .ok) (by decide +kernel)
    exact ⟨reply, hreply, hs, (trailing_slash_law hpage rfl (by decide +kernel) hreply).1 hs⟩
  · obtain ⟨reply, hreply, hs⟩ := Outcome.answered_of_status
      (o := answer (linkedTree secretFile) linkedSite (requestFor .get "/out"))
      (s := .forbidden) (by decide +kernel)
    have hlaw := (trailing_slash_law hout rfl (by decide +kernel) hreply).2.1
    rw [hs] at hlaw
    exact ⟨reply, hreply, hs, hlaw (by decide)⟩
  · obtain ⟨reply, hreply, hs⟩ := Outcome.answered_of_status
      (o := answer (linkedTree secretFile) linkedSite docsRequest)
      (s := .movedPermanently) (by decide +kernel)
    have hunder := location_of_answer hreply hs
    rw [hlocation] at hunder
    exact ⟨reply, hreply, hs, hunder, (trailing_slash_law hdocs rfl (by decide +kernel) hreply).2.2 hs⟩

def belatedTree : FileTree where
  nodes :=
    [⟨.directory [⟨⟨Utf8.octets "docs", Eq.refl true⟩, 1⟩], .forDirectories, ⟨2, 0⟩⟩,
      ⟨.directory [⟨⟨Utf8.octets "index.html", Eq.refl true⟩, 2⟩], .forDirectories, ⟨2, 0⟩⟩,
      ⟨.file (Utf8.octets "x"), .forFiles, ⟨9000000000000, 0⟩⟩]
  workingDirectory := .root
  sound := by decide

def belatedSite : Site := ⟨Utf8.octets "/", .builtIn, "site"⟩

/-- The redirect leads to a path that gets no answer. -/
theorem redirect_leads_to_crash :
    (∃ reply, answer belatedTree belatedSite (requestFor .get "/docs") = .answered reply ∧
      reply.response.status = .movedPermanently ∧
      reply.response.isolated.headers.under "location" = [Utf8.octets "/docs/"]) ∧
      answer belatedTree belatedSite (requestFor .get "/docs/") = .crashed := by
  have hlocation : slashed (requestFor .get "/docs").target = "/docs/" := by decide +kernel
  obtain ⟨reply, hreply, hs⟩ := Outcome.answered_of_status
    (o := answer belatedTree belatedSite (requestFor .get "/docs")) (s := .movedPermanently)
    (by decide +kernel)
  refine ⟨⟨reply, hreply, hs, ?_⟩, answer_of_undated ⟨Or.inl rfl, Utf8.octets "/docs/index.html", ?_⟩⟩
  · rw [location_of_answer hreply hs, hlocation]
  · refine ⟨(Spot.root.into ⟨Utf8.octets "docs", Eq.refl true⟩ 1).into
      ⟨Utf8.octets "index.html", Eq.refl true⟩ 2, _, ?_, rfl, ?_⟩
    · decide +kernel
    · decide +kernel

end Answering

end Site

end IsolatedSite
