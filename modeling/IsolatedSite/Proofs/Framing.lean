import IsolatedSite.Proofs.Confinement
import IsolatedSite.Proofs.Growth
import IsolatedSite.Proofs.Shape

namespace IsolatedSite

namespace FileStream

variable {t : FileTree}

inductive Polls (t : FileTree) : FileStream → List Frame → Prop
  | ended {s s'} (h : s.poll t = (none, s')) : Polls t s []
  | next {s s' frame frames} (h : s.poll t = (some frame, s')) (hrest : Polls t s' frames) :
      Polls t s (frame :: frames)

theorem remaining_of_poll {s s' : FileStream} {frame : Frame} (h : s.poll t = (some frame, s')) :
    s'.stream.remaining < s.stream.remaining := by
  simp only [poll, Stream.poll] at h
  split at h
  · cases h
  · next hpos =>
      split at h
      · cases h
        exact Nat.pos_of_ne_zero hpos
      · next hread =>
          cases h
          have hlen : 0 < (t.readAt s.file s.offset s.stream.want).length := by
            rw [List.length_pos_iff]
            simpa using hread
          change s.stream.remaining - _ < s.stream.remaining
          omega

theorem polls_frames {s : FileStream} {fuel : Nat} (hfuel : s.stream.remaining < fuel) :
    s.Polls t (s.frames t fuel) := by
  induction fuel generalizing s with
  | zero => omega
  | succ fuel ih =>
      rw [frames]
      split
      · next s' hpoll => exact .ended hpoll
      · next frame s' hpoll =>
          have hless := remaining_of_poll hpoll
          exact .next hpoll (ih (by omega))

end FileStream

namespace Body

variable {t : FileTree}

def Polls (t : FileTree) : Body → List Frame → Prop
  | .held octets, frames => frames = if octets.isEmpty then [] else [.data octets]
  | .streamed source, frames => source.Polls t frames

theorem polls_frames (t : FileTree) (b : Body) : b.Polls t (b.frames t) := by
  cases b with
  | held octets => rfl
  | streamed source => exact FileStream.polls_frames (Nat.lt_succ_self _)

/-- The body is delivered without a fault, in as many octets as it announces. -/
def Delivers (t : FileTree) (b : Body) : Prop :=
  ∃ frames, b.Polls t frames ∧ (∀ f ∈ frames, f.fault? = none) ∧
    (frames.map Frame.octets).flatten.length = b.size

structure Transfers (t : FileTree) (b : Body) : Prop where
  fault : (b.transfer t).fault = none
  size : (b.transfer t).octets.length = b.size

theorem Transfers.delivers {b : Body} (h : b.Transfers t) : b.Delivers t :=
  ⟨b.frames t, polls_frames t b, List.findSome?_eq_none_iff.1 h.fault, h.size⟩

theorem transfers_held (t : FileTree) (octets : Bytes) : (held octets).Transfers t := by
  constructor
  · rw [transfer_held]
  · rw [transfer_held]
    rfl

theorem transfers_streamed {u : FileTree} {id : NodeId} {n : Node} (hn : t.node? id = some n)
    (hgrows : t.Grows u) : (streamed (.ofLength id n.content.size)).Transfers u := by
  obtain ⟨added, hext⟩ := hgrows
  obtain ⟨c, hc, hcont⟩ := hext.kept id n hn
  obtain ⟨content, access, modified⟩ := n
  cases hcont with
  | file data =>
      have htransfer := transfer_streamed_append hc
      exact ⟨congrArg Transfer.fault htransfer, congrArg (·.octets.length) htransfer⟩
  | directory | link | socket | device => exact ⟨rfl, rfl⟩

end Body

theorem Response.length_error (status : Status) (message : String) :
    (error status message).headers.values "content-length" =
      [Utf8.octets (Decimal.text (error status message).body.size)] := rfl

/-- A reply that states the length of its body, once, or has no body. A length is left out only where
there is no content at all and where the file that was asked for could not be put into a response. -/
structure Reply.Framed (t : FileTree) (reply : Reply) : Prop where
  stated : reply.response.isolated.headers.under "content-length" = [] ∨
    reply.response.isolated.headers.under "content-length" =
      [Utf8.octets (Decimal.text reply.response.isolated.body.size)]
  delivers : reply.response.isolated.body.Delivers t
  unstated : reply.response.isolated.headers.under "content-length" = [] →
    reply.response.isolated.body = .empty ∧
      (reply.response.status = .noContent ∨
        reply.response.status = .internalServerError ∧ .unbuildable .ok ∈ reply.notices)

namespace Site

variable {t : FileTree} {req : Request} {made : Reply}

theorem Makes.transfers {u : FileTree} (h : Makes t req made) (hgrows : t.Grows u) :
    made.response.body.Transfers u := by
  cases h with
  | options => exact Body.transfers_held u _
  | methodNotAllowed => exact Body.transfers_held u _
  | refused denial => exact Body.transfers_held u _
  | moved h =>
      obtain ⟨-, hbody, -⟩ := Response.redirect?_eq_some h
      rw [hbody]
      exact Body.transfers_held u _
  | unmovable location h =>
      rw [Response.redirect, h]
      exact Body.transfers_held u _
  | listed content =>
      rw [Response.html]
      cases req.isHead with
      | true => exact Body.transfers_held u _
      | false => exact Body.transfers_held u _
  | sent hn h =>
      obtain ⟨-, hbody, -⟩ := Response.file?_eq_some h
      rw [hbody]
      cases req.isHead with
      | true => exact Body.transfers_held u _
      | false => exact Body.transfers_streamed hn hgrows
  | unbuildable => exact Body.transfers_held u _

/-- Only an answer to a question about methods and one for a file with a type that cannot be written
say nothing of their length. -/
theorem Makes.length (h : Makes t req made) (hm : req.isHead = false) :
    made.response.headers.values "content-length" =
        [Utf8.octets (Decimal.text made.response.body.size)] ∨
      made.response.headers.values "content-length" = [] ∧ made.response.body = .empty ∧
        (made.response.status = .noContent ∨
          made.response.status = .internalServerError ∧ .unbuildable .ok ∈ made.notices) := by
  cases h with
  | options => exact Or.inr ⟨rfl, rfl, Or.inl rfl⟩
  | methodNotAllowed => exact Or.inl rfl
  | refused denial => exact Or.inl (Response.length_error _ _)
  | moved h =>
      obtain ⟨-, hbody, hheaders⟩ := Response.redirect?_eq_some h
      rw [hbody, Headers.values_of_pair hheaders (List.mem_cons_of_mem _ List.mem_cons_self)]
      exact Or.inl rfl
  | unmovable location h =>
      rw [Response.redirect, h]
      exact Or.inl (Response.length_error _ _)
  | listed content =>
      rw [Response.html, hm]
      exact Or.inl rfl
  | sent hn h =>
      obtain ⟨-, hbody, hheaders⟩ := Response.file?_eq_some h
      rw [hbody, hm, Headers.values_of_pair hheaders (List.mem_cons_of_mem _ List.mem_cons_self)]
      exact Or.inl rfl
  | unbuildable => exact Or.inr ⟨rfl, rfl, Or.inr ⟨rfl, List.mem_singleton_self _⟩⟩

theorem Makes.framed (h : Makes t req made) (hm : req.isHead = false) (name : String) :
    Reply.Framed t { made with response := made.response.named name } := by
  have hunder : (made.response.named name).isolated.headers.under "content-length" =
      made.response.headers.values "content-length" :=
    Response.under_sent _ name (by decide) (by decide)
  have hbody : (made.response.named name).isolated.body = made.response.body := by
    rw [Response.isolated_body, Response.named_body]
  have hstatus : (made.response.named name).status = made.response.status := Response.named_status _ _
  constructor
  · rw [hunder, hbody]
    rcases h.length hm with hlength | ⟨hlength, -⟩
    · exact Or.inr hlength
    · exact Or.inl hlength
  · rw [hbody]
    exact (h.transfers (.refl t)).delivers
  · intro hnone
    rw [hunder] at hnone
    rw [hbody, hstatus]
    rcases h.length hm with hlength | ⟨-, hrest⟩
    · rw [hnone] at hlength
      cases hlength
    · exact hrest

theorem isHead_of_ne (hm : req.method ≠ .head) : req.isHead = false := by
  rw [Request.isHead, beq_eq_false_iff_ne]
  exact hm

/-- Every response to anything but a request for a head is framed. -/
theorem every_response_framed (t : FileTree) (site : Site) {req : Request} (hm : req.method ≠ .head) :
    (∃ reply, answer t site req = .answered reply ∧ reply.Framed t) ∨
      answer t site req = .crashed ∧ Undated t site req := by
  rcases makes_answer t site req with ⟨made, hanswer, hmade⟩ | hcrashed
  · exact Or.inl ⟨_, hanswer, hmade.framed (isHead_of_ne hm) site.serverName⟩
  · exact Or.inr hcrashed

theorem every_response_framed_linkedTree :
    (requestFor .get "/").method ≠ .head ∧
      ∃ reply, answer (linkedTree secretFile) linkedSite (requestFor .get "/") = .answered reply ∧
        reply.Framed (linkedTree secretFile) ∧
        reply.response.isolated.headers.under "content-length" = [Utf8.octets "5"] := by
  have hm : (requestFor .get "/").method ≠ .head := by decide
  have hfive : (answer (linkedTree secretFile) linkedSite (requestFor .get "/")).sent?.map
      (fun r => r.headers.under "content-length") = some [Utf8.octets "5"] := by
    decide +kernel
  rcases every_response_framed (linkedTree secretFile) linkedSite hm with
    ⟨reply, hanswer, hframed⟩ | ⟨hcrashed, -⟩
  · rw [hanswer] at hfive
    exact ⟨hm, reply, hanswer, hframed, Option.some.inj hfive⟩
  · rw [hcrashed] at hfive
    cases hfive

end Site

end IsolatedSite
