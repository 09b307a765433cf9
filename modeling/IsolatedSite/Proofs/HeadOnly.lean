import IsolatedSite.Proofs.Serving

namespace IsolatedSite

namespace Response

/-- A response that is another one's head. Where there is content to leave out, it is left out. -/
structure IsHeadOf (head full : Response) : Prop where
  status : head.status = full.status
  headers : head.headers = full.headers
  body : full.status = .ok ∨ full.status = .movedPermanently → head.body = .empty

theorem IsHeadOf.named {head full : Response} (h : head.IsHeadOf full) (name : String) :
    (head.named name).IsHeadOf (full.named name) := by
  refine ⟨by simp [h.status], ?_, by simpa using h.body⟩
  unfold Response.named
  split
  · simp [h.headers]
  · exact h.headers

theorem IsHeadOf.isolated {head full : Response} (h : head.IsHeadOf full) :
    head.isolated.IsHeadOf full.isolated := by
  refine ⟨h.status, ?_, h.body⟩
  simp [Response.isolated, h.headers]

theorem isHeadOf_html (content : String) : (html content true).IsHeadOf (html content false) :=
  ⟨rfl, rfl, fun _ => rfl⟩

theorem isHeadOf_self {r : Response} (h : r.status ≠ .ok ∧ r.status ≠ .movedPermanently) :
    r.IsHeadOf r :=
  ⟨rfl, rfl, fun hs => (hs.elim h.1 h.2).elim⟩

theorem isHeadOf_redirect (location : String) : (redirect location).IsHeadOf (redirect location) := by
  unfold redirect redirect?
  split
  · exact ⟨rfl, rfl, fun _ => rfl⟩
  · exact isHeadOf_self (by decide)

theorem isHeadOf_file? (body : Body) (type : String) (length : Nat) (modified : Option String) :
    Option.Rel IsHeadOf (file? .empty type length modified) (file? body type length modified) := by
  rw [file?_eq_map body]
  cases h : file? .empty type length modified with
  | none => exact .none
  | some r =>
      refine .some ⟨rfl, rfl, fun _ => ?_⟩
      unfold file? at h
      split at h
      · cases modified <;> cases h <;> rfl
      · cases h

end Response

namespace Outcome

inductive IsHeadOf : Outcome → Outcome → Prop
  | crashed : IsHeadOf .crashed .crashed
  | answered {head full : Reply} (h : head.response.IsHeadOf full.response) :
      IsHeadOf (.answered head) (.answered full)

theorem IsHeadOf.sent {head full : Outcome} (h : head.IsHeadOf full) :
    Option.Rel Response.IsHeadOf head.sent? full.sent? := by
  cases h with
  | crashed => exact .none
  | answered h => exact .some h.isolated

end Outcome

namespace Site

variable (t : FileTree) (site : Site) (target : Target) (version : Version) (headers : Headers)

theorem isHeadOf_refuse (denial : Denial) :
    (refuse .head target.path denial).response.IsHeadOf
      (refuse .get target.path denial).response :=
  Response.isHeadOf_self (refuse_status_ne .get target.path denial)

theorem isHeadOf_listingReply (place : Spot) :
    (listingReply t ⟨.head, target, version, headers⟩ place).response.IsHeadOf
      (listingReply t ⟨.get, target, version, headers⟩ place).response := by
  cases h : Listing.read t place with
  | error fault =>
      simp only [listingReply, h]
      exact isHeadOf_refuse target _
  | ok items =>
      simp only [listingReply, h]
      exact Response.isHeadOf_html _

theorem isHeadOf_fileOutcome (requested : Bytes) (place : Spot) :
    (fileOutcome t site ⟨.head, target, version, headers⟩ requested place).IsHeadOf
      (fileOutcome t site ⟨.get, target, version, headers⟩ requested place) := by
  cases hn : t.node? place.node with
  | none =>
      simp only [fileOutcome, hn]
      exact .answered (isHeadOf_refuse target _)
  | some n =>
      cases hdate : HttpDate.ofMoment? n.modified with
      | none =>
          simp only [fileOutcome, hn, hdate]
          exact .crashed
      | some date =>
          cases hopen : t.openForReading place.node with
          | error fault =>
              simp only [fileOutcome, hn, hdate, hopen]
              exact .answered (isHeadOf_refuse target _)
          | ok id =>
              have hhead : Request.isHead ⟨.head, target, version, headers⟩ = true := rfl
              have hget : Request.isHead ⟨.get, target, version, headers⟩ = false := rfl
              simp only [fileOutcome, hn, hdate, hopen, hhead, hget, if_true, Bool.false_eq_true,
                if_false]
              have hfile := Response.isHeadOf_file? (.streamed (.ofLength id n.content.size))
                (site.types.forPath requested) n.content.size (some date)
              revert hfile
              generalize Response.file? .empty _ _ _ = head, Response.file? (.streamed _) _ _ _ = full
              rintro (h | _)
              · exact .answered h
              · exact .answered (Response.isHeadOf_self (by decide))

theorem isHeadOf_serve :
    (serve t site ⟨.head, target, version, headers⟩).IsHeadOf
      (serve t site ⟨.get, target, version, headers⟩) := by
  cases h : locate t site.root target.path with
  | error denial =>
      simp only [serve, h]
      exact .answered (isHeadOf_refuse target denial)
  | ok found =>
      cases found with
      | needsSlash place =>
          simp only [serve, h]
          refine .answered ?_
          rw [redirectReply_response]
          exact Response.isHeadOf_redirect _
      | listing place =>
          simp only [serve, h]
          exact .answered (isHeadOf_listingReply t target version headers place)
      | file requested place =>
          simp only [serve, h]
          exact isHeadOf_fileOutcome t site target version headers requested place

/-- Asking for the head is answered exactly when asking for all is, by the same status and headers. -/
theorem head_mirrors_get :
    Option.Rel Response.IsHeadOf
      (answer t site ⟨.head, target, version, headers⟩).sent?
      (answer t site ⟨.get, target, version, headers⟩).sent? := by
  have hserve := isHeadOf_serve t site target version headers
  have hhead : dispatch t site ⟨.head, target, version, headers⟩ = _ :=
    dispatch_eq_serve (Or.inr rfl)
  have hget : dispatch t site ⟨.get, target, version, headers⟩ = _ :=
    dispatch_eq_serve (Or.inl rfl)
  apply Outcome.IsHeadOf.sent
  unfold answer
  rw [hhead, hget]
  revert hserve
  generalize serve t site _ = head, serve t site _ = full
  rintro (_ | h)
  · exact .crashed
  · exact .answered (h.named site.serverName)

end Site

end IsolatedSite
