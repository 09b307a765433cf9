import IsolatedSite.Proofs.Fields
import IsolatedSite.Proofs.Serving

namespace IsolatedSite

namespace Response

theorem page_headers (status : Status) (content : Bytes) (body : Body) :
    (page status content body).headers.fields =
      [("content-type", Utf8.octets htmlType),
        ("content-length", Utf8.octets (Decimal.text content.length))].map Field.ofPair := rfl

theorem options_headers :
    options.headers.fields = [("allow", Utf8.octets allowedMethods)].map Field.ofPair := rfl

theorem redirect?_eq_some {location : String} {r : Response} (h : redirect? location = some r) :
    r.status = .movedPermanently ∧ r.body = .empty ∧ r.headers.fields =
      [("location", Utf8.octets location), ("content-length", Utf8.octets "0")].map Field.ofPair := by
  unfold redirect? at h
  split at h
  · cases h
    exact ⟨rfl, rfl, rfl⟩
  · cases h

theorem file?_eq_some {body : Body} {type date : String} {length : Nat} {r : Response}
    (h : file? body type length (some date) = some r) :
    r.status = .ok ∧ r.body = body ∧ r.headers.fields =
      [("content-type", Utf8.octets type), ("content-length", Utf8.octets (Decimal.text length)),
        ("last-modified", Utf8.octets date)].map Field.ofPair := by
  unfold file? at h
  split at h
  · cases h
    exact ⟨rfl, rfl, rfl⟩
  · cases h

end Response

namespace Site

variable {t : FileTree} {site : Site} {req : Request}

/-- The kinds of replies, as they are made before the server is named in them. -/
inductive Makes (t : FileTree) (req : Request) : Reply → Prop
  | options : Makes t req ⟨Response.options, []⟩
  | methodNotAllowed : Makes t req ⟨Response.methodNotAllowed, [.methodNotAllowed req.method]⟩
  | refused (denial : Denial) : Makes t req (refuse req.method req.target.path denial)
  | moved {r} (h : Response.redirect? (slashed req.target) = some r) : Makes t req ⟨r, []⟩
  | unmovable (location : String) (h : Response.redirect? location = none) :
      Makes t req ⟨Response.redirect location, [.unbuildable .movedPermanently]⟩
  | listed (content : String) : Makes t req ⟨Response.html content req.isHead, []⟩
  | sent {id n type date r} (hn : t.node? id = some n)
      (h : Response.file? (if req.isHead then .empty else .streamed (.ofLength id n.content.size)) type
        n.content.size (some date) = some r) : Makes t req ⟨r, []⟩
  | unbuildable : Makes t req ⟨.bare .internalServerError, [.unbuildable .ok]⟩

/-- The path stands for a file whose date lies beyond the calendar. -/
def Undated (t : FileTree) (site : Site) (req : Request) : Prop :=
  (req.method = .get ∨ req.method = .head) ∧ ∃ requested place n,
    locate t site.root req.target.path = .ok (.file requested place) ∧
      t.node? place.node = some n ∧ HttpDate.ofMoment? n.modified = none

theorem makes_redirectReply : Makes t req (redirectReply req.target) := by
  cases h : Response.redirect? (slashed req.target) with
  | some r =>
      simp only [redirectReply, h]
      exact .moved h
  | none =>
      simp only [redirectReply, h]
      exact .unmovable _ h

theorem makes_listingReply (place : Spot) : Makes t req (listingReply t req place) := by
  unfold listingReply
  split
  · exact .refused _
  · exact .listed _

theorem makes_fileOutcome {requested : Bytes} {place : Spot} {n : Node} {date : String}
    (hn : t.node? place.node = some n) (hdate : HttpDate.ofMoment? n.modified = some date) :
    ∃ made, fileOutcome t site req requested place = .answered made ∧ Makes t req made := by
  simp only [fileOutcome, hn, hdate]
  cases hopen : t.openForReading place.node with
  | error fault => exact ⟨_, rfl, .refused _⟩
  | ok id =>
      cases openForReading_eq_ok hn hopen
      dsimp only
      split
      · next r hr => exact ⟨_, rfl, .sent hn hr⟩
      · exact ⟨_, rfl, .unbuildable⟩

theorem makes_serve (hm : req.method = .get ∨ req.method = .head) :
    (∃ made, serve t site req = .answered made ∧ Makes t req made) ∨
      serve t site req = .crashed ∧ Undated t site req := by
  cases hloc : locate t site.root req.target.path with
  | error denial => exact Or.inl ⟨_, by simp only [serve, hloc], .refused denial⟩
  | ok found =>
      cases found with
      | needsSlash place => exact Or.inl ⟨_, by simp only [serve, hloc], makes_redirectReply⟩
      | listing place => exact Or.inl ⟨_, by simp only [serve, hloc], makes_listingReply place⟩
      | file requested place =>
          obtain ⟨_, -, -, -, n, hn, -⟩ := locate_eq_file hloc
          simp only [serve, hloc]
          cases hdate : HttpDate.ofMoment? n.modified with
          | none =>
              refine Or.inr ⟨?_, hm, requested, place, n, hloc, hn, hdate⟩
              simp only [fileOutcome, hn, hdate]
          | some date => exact Or.inl (makes_fileOutcome hn hdate)

/-- Every request is answered by a reply of one of the kinds, unless it is for a file without a date. -/
theorem makes_answer (t : FileTree) (site : Site) (req : Request) :
    (∃ made, answer t site req =
        .answered { made with response := made.response.named site.serverName } ∧ Makes t req made) ∨
      answer t site req = .crashed ∧ Undated t site req := by
  have hdispatch : (∃ made, dispatch t site req = .answered made ∧ Makes t req made) ∨
      dispatch t site req = .crashed ∧ Undated t site req := by
    by_cases hm : req.method = .get ∨ req.method = .head
    · rw [dispatch_eq_serve hm]
      exact makes_serve hm
    · unfold dispatch
      rw [if_neg hm]
      split
      · exact Or.inl ⟨_, rfl, .options⟩
      · exact Or.inl ⟨_, rfl, .methodNotAllowed⟩
  rcases hdispatch with ⟨made, hd, hmade⟩ | ⟨hd, hundated⟩
  · exact Or.inl ⟨made, by simp only [answer, hd], hmade⟩
  · exact Or.inr ⟨by simp only [answer, hd], hundated⟩

theorem answer_of_undated (h : Undated t site req) : answer t site req = .crashed := by
  obtain ⟨hm, requested, place, n, hfile, hn, hdate⟩ := h
  have hserve : serve t site req = .crashed := by
    simp only [serve, hfile, fileOutcome, hn, hdate]
  rw [answer, dispatch_eq_serve hm, hserve]

theorem answer_eq_crashed_iff : answer t site req = .crashed ↔ Undated t site req := by
  refine ⟨fun h => ?_, answer_of_undated⟩
  rcases makes_answer t site req with ⟨made, hmade, -⟩ | ⟨-, hundated⟩
  · rw [hmade] at h
    cases h
  · exact hundated

end Site

end IsolatedSite
