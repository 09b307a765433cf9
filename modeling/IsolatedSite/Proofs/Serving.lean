import IsolatedSite.Site.Answer
import IsolatedSite.Proofs.Canonical
import IsolatedSite.Proofs.Stream

namespace IsolatedSite

namespace Response

variable (r : Response) (name value content : String)

@[simp] theorem named_status : (r.named name).status = r.status := by
  unfold named
  split <;> rfl

@[simp] theorem named_body : (r.named name).body = r.body := by
  unfold named
  split <;> rfl

@[simp] theorem isolated_status : r.isolated.status = r.status := rfl

@[simp] theorem isolated_body : r.isolated.body = r.body := rfl

@[simp] theorem html_status (isHead : Bool) : (html content isHead).status = .ok := rfl

theorem html_transfer (t : FileTree) (isHead : Bool) :
    (html content isHead).body.transfer t = ⟨if isHead then [] else Utf8.octets content, none⟩ := by
  cases isHead with
  | true => rfl
  | false => exact Body.transfer_held t _

theorem html_headers (isHead : Bool) :
    (html content isHead).headers.fields =
      [⟨"content-type", Utf8.octets htmlType, []⟩,
        ⟨"content-length", Utf8.octets (Decimal.text (Utf8.octets content).length), []⟩] := rfl

theorem redirect_status : (redirect value).status = .movedPermanently ∨
    (redirect value).status = .internalServerError := by
  unfold redirect redirect?
  split
  · exact Or.inl rfl
  · exact Or.inr rfl

theorem file?_eq_map (body : Body) (type : String) (length : Nat) (modified : Option String) :
    file? body type length modified =
      (file? .empty type length modified).map fun r => { r with body := body } := by
  unfold file?
  split
  · cases modified <;> rfl
  · rfl

theorem file?_body {body : Body} {type : String} {length : Nat} {modified : Option String}
    {r : Response} (h : file? body type length modified = some r) : r.body = body := by
  rw [file?_eq_map] at h
  obtain ⟨_, -, rfl⟩ := Option.map_eq_some_iff.1 h
  rfl

end Response

/-- The response as it is sent, if the request is not brought down. -/
def Outcome.sent? : Outcome → Option Response
  | .answered reply => some reply.response.isolated
  | .crashed => none

theorem Outcome.answered_of_status {o : Outcome} {s : Status}
    (h : o.sent?.map Response.status = some s) :
    ∃ reply, o = .answered reply ∧ reply.response.status = s := by
  cases o with
  | crashed => cases h
  | answered reply => exact ⟨reply, rfl, Option.some.inj h⟩

namespace Site

variable {t : FileTree} {root : Bytes}

theorem confine_eq_ok {p : Bytes} {place : Spot} :
    confine t root p = .ok place ↔
      ∃ top, t.canonical root = .ok top ∧ t.canonical p = .ok place ∧ place.isUnder top = true := by
  unfold confine
  constructor
  · intro h
    split at h
    · cases h
    · next top htop =>
        split at h
        · cases h
        · next spot hspot =>
            split at h
            · next hunder => cases h; exact ⟨top, htop, hspot, hunder⟩
            · cases h
  · rintro ⟨top, htop, hplace, hunder⟩
    simp [htop, hplace, hunder]

theorem node?_of_contentAt {place : Spot} {content : Content}
    (h : contentAt t place = .ok content) :
    ∃ n, t.node? place.node = some n ∧ n.content = content := by
  unfold contentAt at h
  split at h
  · next n hn => cases h; exact ⟨n, hn, rfl⟩
  · cases h

theorem indexFile?_eq_some {candidate requested : Bytes} {place : Spot} {names : List Bytes}
    (h : indexFile? t root candidate names = some (requested, place)) :
    (∃ name ∈ names, requested = Path.push candidate name) ∧
      confine t root requested = .ok place ∧ ∃ data, contentAt t place = .ok (.file data) := by
  induction names with
  | nil => simp [indexFile?] at h
  | cons name names ih =>
      rw [indexFile?] at h
      split at h
      · next here hconf =>
          split at h
          · next data hdata =>
              cases h
              exact ⟨⟨name, List.mem_cons_self, rfl⟩, hconf, data, hdata⟩
          · obtain ⟨⟨other, hmem, hreq⟩, hrest⟩ := ih h
            exact ⟨⟨other, List.mem_cons_of_mem _ hmem, hreq⟩, hrest⟩
      · obtain ⟨⟨other, hmem, hreq⟩, hrest⟩ := ih h
        exact ⟨⟨other, List.mem_cons_of_mem _ hmem, hreq⟩, hrest⟩

theorem locate_eq_ok {path : String} {found : Found} (h : locate t root path = .ok found) :
    ∃ candidate place, resolve root path = .ok candidate ∧ confine t root candidate = .ok place ∧
      foundAt t root path candidate place = .ok found := by
  unfold locate at h
  split at h
  · cases h
  · next candidate hres =>
      split at h
      · cases h
      · next place hconf =>
          split at h
          · cases h
          · next found' hfound => cases h; exact ⟨candidate, place, hres, hconf, hfound⟩

theorem foundAt_eq_ok {path : String} {candidate : Bytes} {place : Spot} {found : Found}
    (h : foundAt t root path candidate place = .ok found) :
    (found = .file candidate place ∧ endsInSlash path = false ∧
      ∃ content, contentAt t place = .ok content ∧ content.isDirectory = false) ∨
    (∃ entries, contentAt t place = .ok (.directory entries) ∧
      (found = .needsSlash place ∧ endsInSlash path = false ∨
       (found = .listing place ∧ endsInSlash path = true ∧
         indexFile? t root candidate indexNames = none) ∨
       ∃ requested index, found = .file requested index ∧ endsInSlash path = true ∧
         indexFile? t root candidate indexNames = some (requested, index))) := by
  unfold foundAt at h
  split at h
  · cases h
  · next entries hc =>
      refine Or.inr ⟨entries, hc, ?_⟩
      split at h
      · next hend => cases h; exact Or.inl ⟨rfl, by simpa using hend⟩
      · next hend =>
          split at h
          · next requested index hi =>
              cases h
              exact Or.inr (Or.inr ⟨requested, index, rfl, by simpa using hend, hi⟩)
          · next hi =>
              cases h
              exact Or.inr (Or.inl ⟨rfl, by simpa using hend, hi⟩)
  · next content hnot hc =>
      split at h
      · cases h
      · next hend =>
          cases h
          refine Or.inl ⟨rfl, by simpa using hend, content, hc, ?_⟩
          cases content with
          | directory entries => exact absurd rfl (hnot entries)
          | file | link | socket | device => rfl

theorem locate_eq_listing {path : String} {place : Spot}
    (h : locate t root path = .ok (.listing place)) :
    ∃ candidate entries, resolve root path = .ok candidate ∧ confine t root candidate = .ok place ∧
      contentAt t place = .ok (.directory entries) ∧ endsInSlash path = true := by
  obtain ⟨candidate, spot, hres, hconf, hfound⟩ := locate_eq_ok h
  rcases foundAt_eq_ok hfound with ⟨hf, -⟩ | ⟨entries, hc, ⟨hf, -⟩ | ⟨hf, hend, -⟩ | ⟨_, _, hf, -⟩⟩
  · cases hf
  · cases hf
  · cases hf
    exact ⟨candidate, entries, hres, hconf, hc, hend⟩
  · cases hf

theorem locate_eq_needsSlash {path : String} {place : Spot}
    (h : locate t root path = .ok (.needsSlash place)) :
    ∃ candidate entries, resolve root path = .ok candidate ∧ confine t root candidate = .ok place ∧
      contentAt t place = .ok (.directory entries) ∧ endsInSlash path = false := by
  obtain ⟨candidate, spot, hres, hconf, hfound⟩ := locate_eq_ok h
  rcases foundAt_eq_ok hfound with ⟨hf, -⟩ | ⟨entries, hc, ⟨hf, hend⟩ | ⟨hf, -⟩ | ⟨_, _, hf, -⟩⟩
  · cases hf
  · cases hf
    exact ⟨candidate, entries, hres, hconf, hc, hend⟩
  · cases hf
  · cases hf

/-- A file was asked for by its own path, or it is an index file of the path. -/
theorem locate_eq_file {path : String} {requested : Bytes} {place : Spot}
    (h : locate t root path = .ok (.file requested place)) :
    ∃ candidate, resolve root path = .ok candidate ∧
      requested ∈ candidate :: indexNames.map (Path.push candidate) ∧
      confine t root requested = .ok place ∧
      ∃ n, t.node? place.node = some n ∧ n.content.isDirectory = false := by
  obtain ⟨candidate, spot, hres, hconf, hfound⟩ := locate_eq_ok h
  refine ⟨candidate, hres, ?_⟩
  rcases foundAt_eq_ok hfound with ⟨hf, -, content, hc, hdir⟩ | ⟨entries, -, ⟨hf, -⟩ | ⟨hf, -⟩ |
    ⟨_, _, hf, -, hindex⟩⟩
  · cases hf
    obtain ⟨n, hn, rfl⟩ := node?_of_contentAt hc
    exact ⟨List.mem_cons_self, hconf, n, hn, hdir⟩
  · cases hf
  · cases hf
  · cases hf
    obtain ⟨⟨name, hname, rfl⟩, hindexed, data, hdata⟩ := indexFile?_eq_some hindex
    obtain ⟨n, hn, hcontent⟩ := node?_of_contentAt hdata
    refine ⟨List.mem_cons_of_mem _ (List.mem_map.2 ⟨name, hname, rfl⟩), hindexed, n, hn, ?_⟩
    rw [hcontent]
    rfl

def requestFor (method : Method) (path : String) : Request := ⟨method, ⟨path, none⟩, .v11, .empty⟩

variable {site : Site} {req : Request}

theorem answer_eq_answered {reply : Reply} (h : answer t site req = .answered reply) :
    ∃ made, dispatch t site req = .answered made ∧
      reply.response = made.response.named site.serverName := by
  unfold answer at h
  split at h
  · cases h
  · next made hd => cases h; exact ⟨made, hd, rfl⟩

theorem isHead_of_get (hm : req.method = .get) : req.isHead = false := by
  rw [Request.isHead, hm]
  rfl

theorem dispatch_eq_serve (hm : req.method = .get ∨ req.method = .head) :
    dispatch t site req = serve t site req := by
  simp [dispatch, hm]

theorem answer_of_serve (hm : req.method = .get ∨ req.method = .head) {made : Reply}
    (h : serve t site req = .answered made) :
    answer t site req =
      .answered { made with response := made.response.named site.serverName } := by
  simp only [answer, dispatch_eq_serve hm, h]

theorem refuse_status (method : Method) (path : String) (denial : Denial) :
    (refuse method path denial).response.status = denial.refusal.status := rfl

theorem answer_of_refused (hm : req.method = .get ∨ req.method = .head) {denial : Denial}
    (h : locate t site.root req.target.path = .error denial) :
    ∃ reply, answer t site req = .answered reply ∧ reply.response.status = denial.refusal.status := by
  have hserve : serve t site req = .answered (refuse req.method req.target.path denial) := by
    simp only [serve, h]
  refine ⟨_, answer_of_serve hm hserve, ?_⟩
  rw [Response.named_status, refuse_status]

theorem refuse_status_ne (method : Method) (path : String) (denial : Denial) :
    (refuse method path denial).response.status ≠ .ok ∧
      (refuse method path denial).response.status ≠ .movedPermanently := by
  rw [refuse_status]
  cases denial.refusal <;> simp only [Refusal.status] <;> decide

theorem listingReply_eq (t : FileTree) (req : Request) (place : Spot) :
    (∃ fault, Listing.read t place = .error fault ∧
      (listingReply t req place).response.status = .internalServerError) ∨
    ∃ items, Listing.read t place = .ok items ∧
      (listingReply t req place).response =
        Response.html (Listing.page (displayPath req.target.path) items) req.isHead := by
  cases h : Listing.read t place with
  | error fault => exact Or.inl ⟨fault, rfl, by simp only [listingReply, h]; rfl⟩
  | ok items => exact Or.inr ⟨items, rfl, by simp only [listingReply, h]⟩

theorem redirectReply_response (target : Target) :
    (redirectReply target).response = Response.redirect (slashed target) := by
  cases h : Response.redirect? (slashed target) <;> simp [redirectReply, Response.redirect, h]

theorem openForReading_eq_error {n : Node} {id : NodeId} (hn : t.node? id = some n) {fault : Fault}
    (h : t.openForReading id = .error fault) : fault = .denied ∨ fault = .noDevice := by
  simp only [FileTree.openForReading, hn] at h
  split at h
  · cases h; exact Or.inl rfl
  · split at h
    · cases h; exact Or.inr rfl
    · cases h

theorem openForReading_eq_ok {n : Node} {id id' : NodeId} (hn : t.node? id = some n)
    (h : t.openForReading id = .ok id') : id' = id := by
  simp only [FileTree.openForReading, hn] at h
  split at h
  · cases h
  · split at h
    · cases h
    · cases h; rfl

theorem fileOutcome_eq_answered {requested : Bytes} {place : Spot} {n : Node} {reply : Reply}
    (hn : t.node? place.node = some n)
    (h : fileOutcome t site req requested place = .answered reply) :
    reply.response.status = .internalServerError ∨
      ∃ date, HttpDate.ofMoment? n.modified = some date ∧
        Response.file? (if req.isHead then .empty else .streamed (.ofLength place.node n.content.size))
          (site.types.forPath requested) n.content.size (some date) = some reply.response := by
  simp only [fileOutcome, hn] at h
  split at h
  · cases h
  · next date hdate =>
      split at h
      · next fault hopen =>
          cases h
          left
          rcases openForReading_eq_error hn hopen with rfl | rfl <;> rfl
      · next id hopen =>
          cases openForReading_eq_ok hn hopen
          split at h
          · next r hr => cases h; exact Or.inr ⟨date, hdate, hr⟩
          · cases h; exact Or.inl rfl

theorem file?_status {body : Body} {type : String} {length : Nat} {date : Option String}
    {r : Response} (h : Response.file? body type length date = some r) : r.status = .ok := by
  unfold Response.file? at h
  split at h
  · cases date <;> cases h <;> rfl
  · cases h

theorem fileOutcome_eq (site : Site) (req : Request) {requested : Bytes} {place : Spot} {data : Bytes}
    {access : Access} {modified : Moment} {date : String}
    (hn : t.node? place.node = some ⟨.file data, access, modified⟩) (hread : access.read = true)
    (hdate : HttpDate.ofMoment? modified = some date)
    (htype : Header.isValue (Utf8.octets (site.types.forPath requested)) = true)
    (hvalue : Header.isValue (Utf8.octets date) = true) :
    ∃ r, fileOutcome t site req requested place = .answered ⟨r, []⟩ ∧ r.status = .ok ∧
      r.body = if req.isHead then .empty else .streamed (.ofLength place.node data.length) := by
  have hopen : t.openForReading place.node = .ok place.node := by
    simp [FileTree.openForReading, hn, hread]
  obtain ⟨r, hr⟩ : ∃ r, Response.file?
      (if req.isHead then .empty else .streamed (.ofLength place.node data.length))
      (site.types.forPath requested) data.length (some date) = some r := by
    simp [Response.file?, htype, hvalue]
  refine ⟨r, ?_, file?_status hr, Response.file?_body hr⟩
  simp only [fileOutcome, hn, hdate, hopen, Content.size, hr]

/-- What a path stands for, with the statuses that it may be answered with. -/
inductive Served (t : FileTree) (site : Site) (path : String) (status : Status) : Prop
  | refused {denial} (h : locate t site.root path = .error denial)
      (hs : status = denial.refusal.status)
  | moved {place} (h : locate t site.root path = .ok (.needsSlash place))
      (hs : status = .movedPermanently ∨ status = .internalServerError)
  | shown {found} (h : locate t site.root path = .ok found) (hf : ∀ place, found ≠ .needsSlash place)
      (hs : status = .ok ∨ status = .internalServerError)

theorem served_of_serve {made : Reply} (h : serve t site req = .answered made) :
    Served t site req.target.path made.response.status := by
  unfold serve at h
  split at h
  · next denial hloc =>
      cases h
      exact .refused hloc rfl
  · next place hloc =>
      cases h
      rw [redirectReply_response]
      exact .moved hloc (Response.redirect_status _)
  · next place hloc =>
      cases h
      refine .shown hloc (by simp) ?_
      rcases listingReply_eq t req place with ⟨fault, -, hs⟩ | ⟨items, -, hr⟩
      · exact Or.inr hs
      · exact Or.inl (by rw [hr, Response.html_status])
  · next requested place hloc =>
      obtain ⟨_, _, _, _, n, hn, _⟩ := locate_eq_file hloc
      refine .shown hloc (by simp) ?_
      rcases fileOutcome_eq_answered hn h with hs | ⟨date, -, hfile⟩
      · exact Or.inr hs
      · exact Or.inl (file?_status hfile)

theorem Served.needsSlash {path : String} (h : Served t site path .movedPermanently) :
    ∃ place, locate t site.root path = .ok (.needsSlash place) := by
  cases h with
  | @refused denial _ hs => exact absurd hs.symm (refuse_status_ne .get path denial).2
  | @moved place hloc => exact ⟨place, hloc⟩
  | shown _ _ hs => rcases hs with hs | hs <;> cases hs

end Site

end IsolatedSite
