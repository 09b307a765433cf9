import IsolatedSite.Connection.Exchange
import IsolatedSite.Proofs.Framing

namespace IsolatedSite

namespace Response

theorem errorPage_ne_nil (status : Status) (message : String) :
    Utf8.octets (errorPage status message) ≠ [] := by
  obtain ⟨front, hpage⟩ : ∃ front, errorPage status message = front ++ ".</p>\n</body>\n</html>\n" :=
    ⟨_, rfl⟩
  rw [hpage, Utf8.octets_append]
  exact List.append_ne_nil_of_right_ne_nil _ (by decide +kernel)

theorem error_size_pos (status : Status) (message : String) : 0 < (error status message).body.size :=
  List.length_pos_iff.2 (errorPage_ne_nil status message)

theorem length_sent (r : Response) (name : String) :
    (r.named name).isolated.headers.values "content-length" = r.headers.values "content-length" := by
  rw [values_isolated_of_not_mem (by decide), values_named_of_ne (by decide)]

theorem body_withHeaders (r : Response) (h : Headers) :
    ({ r with headers := h } : Response).body = r.body := rfl

-- Not by `rfl`: comparing the two responses with their headers computes the length of the page.
theorem methodNotAllowed_body :
    methodNotAllowed.body = (error .methodNotAllowed "Method not allowed").body :=
  body_withHeaders (error .methodNotAllowed "Method not allowed") _

end Response

namespace Site

variable {t : FileTree} {req : Request} {made : Reply}

theorem Refusal.error_status (refusal : Refusal) : 400 ≤ refusal.status.code := by
  cases refusal <;> exact Nat.le_of_ble_eq_true rfl

/-- What is made where a head is asked for: an error page with its length, or an answer without a
body. -/
theorem Makes.page_or_empty (h : Makes t req made) (hhead : req.isHead = true) :
    (400 ≤ made.response.status.code ∧ 0 < made.response.body.size ∧
      made.response.headers.values "content-length" =
        [Utf8.octets (Decimal.text made.response.body.size)]) ∨
    made.response.body = .empty ∧
      (made.response.status.code < 400 ∨ made.response.headers.values "content-length" = []) := by
  cases h with
  | options => exact Or.inr ⟨rfl, Or.inl (by decide)⟩
  | methodNotAllowed =>
      refine Or.inl ⟨Nat.le_of_ble_eq_true rfl, ?_, rfl⟩
      rw [Response.methodNotAllowed_body]
      exact Response.error_size_pos _ _
  | refused denial =>
      exact Or.inl ⟨Refusal.error_status denial.refusal, Response.error_size_pos _ _,
        Response.length_error _ _⟩
  | moved h =>
      obtain ⟨hstatus, hbody, -⟩ := Response.redirect?_eq_some h
      exact Or.inr ⟨hbody, Or.inl (by rw [hstatus]; decide)⟩
  | unmovable location h =>
      rw [Response.redirect, h]
      exact Or.inl ⟨by decide, Response.error_size_pos _ _, Response.length_error _ _⟩
  | listed content =>
      rw [hhead]
      exact Or.inr ⟨rfl, Or.inl (Nat.lt_of_lt_of_le (by decide : 200 < 400) (Nat.le_refl _))⟩
  | sent hn h =>
      obtain ⟨hstatus, hbody, -⟩ := Response.file?_eq_some h
      rw [hhead] at hbody
      exact Or.inr ⟨hbody, Or.inl (by rw [hstatus]; decide)⟩
  | unbuildable => exact Or.inr ⟨rfl, Or.inr rfl⟩

end Site

namespace Message

structure IsErrorPage (m : Message) : Prop where
  status : 400 ≤ m.status.code
  stated : m.headers.values "content-length" ≠ []

/-- The size that is logged of a message is the size of its body, except that an error page of which
only the head is sent is logged with the length that the head states. -/
structure LoggedAs (m : Message) (req : Request) (logged : Nat) : Prop where
  full : req.method ≠ .head → logged = m.body.length
  bare : req.method = .head → m.body = []
  zero : req.method = .head → (logged = 0 ↔ ¬m.IsErrorPage)
  page : req.method = .head → m.IsErrorPage →
    m.headers.values "content-length" = [Utf8.octets (Decimal.text logged)]

theorem values_withPersistence (h : Headers) (v : Version) (keepAlive : Bool) {name : String}
    (hne : name ≠ "connection") : (withPersistence h v keepAlive).values name = h.values name := by
  unfold withPersistence
  split
  · exact Headers.values_insert_of_ne _ hne _
  · rfl

theorem length_ofResponse_head {req : Request} (hhead : req.isHead = true) (date : String)
    (keepAlive : Bool) (r : Response) (name : String) (body : Bytes) :
    (ofResponse date req keepAlive (r.named name).isolated body).headers.values "content-length" =
      r.headers.values "content-length" := by
  have hlength : withLength (r.named name).isolated req.isHead = (r.named name).isolated.headers := by
    simp [withLength, hhead]
  rw [ofResponse, hlength, Headers.values_insert_of_ne _ (by decide),
    values_withPersistence _ _ _ (by decide), Response.length_sent]

theorem isErrorPage_ofResponse_head {req : Request} (hhead : req.isHead = true) (date : String)
    (keepAlive : Bool) (r : Response) (name : String) (body : Bytes) :
    (ofResponse date req keepAlive (r.named name).isolated body).IsErrorPage ↔
      400 ≤ r.status.code ∧ r.headers.values "content-length" ≠ [] := by
  have hstatus : (ofResponse date req keepAlive (r.named name).isolated body).status = r.status := by
    rw [ofResponse, Response.isolated_status, Response.named_status]
  rw [← hstatus, ← length_ofResponse_head hhead date keepAlive r name body]
  exact ⟨fun h => ⟨h.status, h.stated⟩, fun h => ⟨h.1, h.2⟩⟩

end Message

/-- A response that has been made is logged as the message that is sent of it. -/
theorem Site.Makes.loggedAs {t u : FileTree} {req : Request} {made : Reply} (h : Makes t req made)
    (hgrows : t.Grows u) (name date : String) (keepAlive : Bool) :
    (Message.ofResponse date req keepAlive (made.response.named name).isolated
      (made.response.body.transfer u).octets).LoggedAs req made.response.body.size := by
  have hisHead : req.method = .head → req.isHead = true := by
    intro hmethod
    rw [Request.isHead, hmethod]
    rfl
  constructor
  · intro hmethod
    simp [Message.ofResponse, isHead_of_ne hmethod, (h.transfers hgrows).size]
  · intro hmethod
    simp [Message.ofResponse, hisHead hmethod]
  · intro hmethod
    rw [Message.isErrorPage_ofResponse_head (hisHead hmethod)]
    rcases h.page_or_empty (hisHead hmethod) with ⟨herror, hpos, hstated⟩ | ⟨hempty, hlow | hnone⟩
    · simp [hstated, herror, Nat.ne_of_gt hpos]
    · simp [hempty, Body.size, Body.empty, Nat.not_le.2 hlow]
    · simp [hempty, Body.size, Body.empty, hnone]
  · intro hmethod hp
    rw [Message.isErrorPage_ofResponse_head (hisHead hmethod)] at hp
    rw [Message.length_ofResponse_head (hisHead hmethod)]
    rcases h.page_or_empty (hisHead hmethod) with ⟨-, -, hstated⟩ | ⟨-, hlow | hnone⟩
    · exact hstated
    · exact absurd hp.1 (Nat.not_le.2 hlow)
    · exact absurd hnone hp.2

namespace Journal

variable (j : Journal)

theorem grows_write (target : LogTarget) (line : String) : j.tree.Grows (j.write target line).tree := by
  cases target with
  | output | errors => exact .refl j.tree
  | file id =>
      rw [write]
      split
      · next u h => exact FileTree.grows_append h
      · exact .refl j.tree

theorem grows_notice (n : Notice) : j.tree.Grows (j.notice n).tree := by
  unfold notice report
  split
  · exact j.grows_write _ _
  · exact .refl j.tree

theorem grows_access (entry : AccessEntry) (format : LineFormat) :
    j.tree.Grows (j.access entry format).tree := by
  unfold access info
  split
  · exact j.grows_write _ _
  · exact .refl j.tree

theorem grows_notices (notices : List Notice) : j.tree.Grows (notices.foldl notice j).tree := by
  induction notices generalizing j with
  | nil => exact .refl j.tree
  | cons n notices ih => exact (j.grows_notice n).trans (ih (j.notice n))

theorem grows_answered (s : Settings) (entry : AccessEntry) (notices : List Notice) :
    j.tree.Grows (j.answered s entry notices).tree := by
  unfold answered
  split
  · exact (j.grows_notices notices).trans (grows_access _ entry _)
  · exact j.grows_notices notices

end Journal

namespace Service

variable (service : Service) (clock : Clock) (peer : SocketAddress) (keepAlive : Bool) (req : Request)
  (j : Journal)

structure Logs (entry : AccessEntry) (notices : List Notice) (message : Message) : Prop where
  answer : service.answer clock peer keepAlive req j =
    (j.answered service.settings entry notices, .sent message)
  size : message.LoggedAs req entry.bodyBytes

theorem logs_of_makes {made : Reply}
    (hanswer : service.site.answer j.tree req =
      .answered { made with response := made.response.named service.site.serverName })
    (h : Site.Makes j.tree req made) :
    ∃ message, Logs service clock peer keepAlive req j
      (Site.accessEntry peer.ip.text clock.now clock.micros req
        (made.response.named service.site.serverName)) made.notices message := by
  generalize hentry : Site.accessEntry peer.ip.text clock.now clock.micros req
    (made.response.named service.site.serverName) = entry
  have hgrows := j.grows_answered service.settings entry made.notices
  have hsize : entry.bodyBytes = made.response.body.size := by
    rw [← hentry]
    exact congrArg Body.size (Response.named_body _ _)
  refine ⟨Message.ofResponse clock.date req keepAlive
    (made.response.named service.site.serverName).isolated
    (made.response.body.transfer (j.answered service.settings entry made.notices).tree).octets, ?_, ?_⟩
  · rw [answer, hanswer]
    simp only [hentry, Response.isolated_body, Response.named_body, (h.transfers hgrows).fault]
  · rw [hsize]
    exact h.loggedAs hgrows _ _ _

/-- Of every request that is answered, the log tells the size of the body that was sent, unless it asked
for a head and got that of an error page. -/
theorem every_answer_logs_size :
    (∃ reply message, service.site.answer j.tree req = .answered reply ∧
      Logs service clock peer keepAlive req j
        (Site.accessEntry peer.ip.text clock.now clock.micros req reply.response) reply.notices
        message) ∨
    service.answer clock peer keepAlive req j = (j, .crashed) ∧
      Site.Undated j.tree service.site req := by
  rcases Site.makes_answer j.tree service.site req with ⟨made, hanswer, hmade⟩ | ⟨hcrashed, hundated⟩
  · obtain ⟨message, hlogs⟩ := logs_of_makes service clock peer keepAlive req j hanswer hmade
    exact Or.inl ⟨_, message, hanswer, hlogs⟩
  · refine Or.inr ⟨?_, hundated⟩
    rw [answer, hcrashed]

def linkedService : Service where
  site := Site.linkedSite
  settings :=
    { server := ⟨"127.0.0.1", 8000, "/www", none⟩
      logging := ⟨"info", true, "common", none, none⟩
      performance := ⟨true, 128, none, none, none⟩
      http := ⟨"site", []⟩ }

def linkedJournal : Journal := { tree := Site.linkedTree Site.secretFile }

/-- Asking for the head of a name that is not there puts a size into the log, though nothing is sent
behind the head. -/
theorem head_of_missing_name_logs_page :
    ∃ entry notices message,
      linkedService.answer ⟨⟨⟨0, 0⟩, 0⟩, 0⟩ ⟨.v4 [127, 0, 0, 1], 50000⟩ true
          (Site.requestFor .head "/none") linkedJournal =
        (linkedJournal.answered linkedService.settings entry notices, .sent message) ∧
      entry.status = 404 ∧ message.body = [] ∧ entry.bodyBytes ≠ 0 := by
  have hpage : (linkedService.site.answer linkedJournal.tree (Site.requestFor .head "/none")).sent?.map
      (fun r => (r.status, decide (r.headers.values "content-length" = []))) =
      some (.notFound, false) := by
    decide +kernel
  rcases Site.makes_answer linkedJournal.tree linkedService.site (Site.requestFor .head "/none") with
    ⟨made, hanswer, hmade⟩ | ⟨hcrashed, -⟩
  · obtain ⟨message, hlogs⟩ := logs_of_makes linkedService ⟨⟨⟨0, 0⟩, 0⟩, 0⟩
      ⟨.v4 [127, 0, 0, 1], 50000⟩ true _ linkedJournal hanswer hmade
    simp only [hanswer, Outcome.sent?, Option.map_some, Response.length_sent,
      Response.isolated_status, Response.named_status, Option.some.injEq, Prod.mk.injEq,
      decide_eq_false_iff_not] at hpage
    obtain ⟨hstatus, hstated⟩ := hpage
    have hpos : 0 < made.response.body.size := by
      rcases hmade.page_or_empty rfl with ⟨-, hpos, -⟩ | ⟨-, hlow | hnone⟩
      · exact hpos
      · rw [hstatus] at hlow
        exact absurd hlow (by decide)
      · exact absurd hnone hstated
    refine ⟨_, _, message, hlogs.answer, ?_, hlogs.size.bare rfl, ?_⟩
    · exact congrArg Status.code ((Response.named_status _ _).trans hstatus)
    · rw [Site.accessEntry, Response.named_body]
      exact Nat.ne_of_gt hpos
  · rw [hcrashed] at hpage
    cases hpage

end Service

end IsolatedSite
