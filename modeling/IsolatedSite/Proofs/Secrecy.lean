import IsolatedSite.Proofs.Confinement
import IsolatedSite.Proofs.Outline

namespace IsolatedSite

/-- Two trees with the same outline and the same nodes below a root, all links followed. The data and
the dates of other files may differ. -/
structure FileTree.SameInside (root : Bytes) (t u : FileTree) : Prop where
  outline : t.outline = u.outline
  inside : ∀ top p place, t.canonical root = .ok top → t.canonical p = .ok place →
    top.names <+: place.names → t.node? place.node = u.node? place.node

namespace Response

/-- What the other side receives of a response while the tree stays as it is. -/
structure Received where
  status : Status
  headers : List (String × Bytes)
  body : Transfer
  deriving DecidableEq

def received (t : FileTree) (r : Response) : Received :=
  ⟨r.status, r.headers.toList, r.body.transfer t⟩

end Response

namespace Site

variable {t u : FileTree} {site : Site} {req : Request}

theorem openForReading_congr {id : NodeId} (h : t.node? id = u.node? id) :
    t.openForReading id = u.openForReading id := by
  simp only [FileTree.openForReading, h]

theorem fileOutcome_congr {requested : Bytes} {place : Spot}
    (h : t.node? place.node = u.node? place.node) :
    fileOutcome t site req requested place = fileOutcome u site req requested place := by
  simp only [fileOutcome, h, openForReading_congr h]

theorem locate_congr (h : t.outline = u.outline) (root : Bytes) (path : String) :
    locate t root path = locate u root path := by
  rw [← locate_outline t, h, locate_outline u]

theorem listingReply_congr (h : t.outline = u.outline) (place : Spot) :
    listingReply t req place = listingReply u req place := by
  have hread : Listing.read t place = Listing.read u place := by
    rw [← Listing.read_outline t, h, Listing.read_outline u]
  simp only [listingReply, hread]

theorem node?_of_locate (h : FileTree.SameInside site.root t u) {path : String} {requested : Bytes}
    {place : Spot} (hloc : locate t site.root path = .ok (.file requested place)) :
    t.node? place.node = u.node? place.node := by
  obtain ⟨_, _, _, hconf, _⟩ := locate_eq_file hloc
  obtain ⟨top, htop, hplace, hunder⟩ := confine_eq_ok.1 hconf
  exact h.inside top requested place htop hplace (Spot.isUnder_iff.1 hunder)

theorem serve_congr (h : FileTree.SameInside site.root t u) : serve t site req = serve u site req := by
  have hlocate := locate_congr h.outline site.root req.target.path
  cases hloc : locate t site.root req.target.path with
  | error denial => simp only [serve, ← hlocate, hloc]
  | ok found =>
      cases found with
      | needsSlash place => simp only [serve, ← hlocate, hloc]
      | listing place => simp only [serve, ← hlocate, hloc, listingReply_congr h.outline place]
      | file requested place =>
          simp only [serve, ← hlocate, hloc]
          exact fileOutcome_congr (node?_of_locate h hloc)

theorem answer_congr (h : FileTree.SameInside site.root t u) :
    answer t site req = answer u site req := by
  have hd : dispatch t site req = dispatch u site req := by
    simp only [dispatch, serve_congr h]
  simp only [answer, hd]

theorem body_of_fileOutcome {requested : Bytes} {place : Spot} {made : Reply}
    (h : fileOutcome t site req requested place = .answered made) :
    (∃ octets, made.response.body = .held octets) ∨
      ∃ n, t.node? place.node = some n ∧
        made.response.body = .streamed (.ofLength place.node n.content.size) := by
  unfold fileOutcome at h
  split at h
  · cases h
    exact Or.inl ⟨_, rfl⟩
  · next n hn =>
      split at h
      · cases h
      · split at h
        · cases h
          exact Or.inl ⟨_, rfl⟩
        · next id hopen =>
            cases openForReading_eq_ok hn hopen
            simp only at h
            split at h
            · next r hr =>
                cases h
                have hbody := Response.file?_body hr
                cases hhead : req.isHead with
                | true => exact Or.inl ⟨[], by simpa [hhead, Body.empty] using hbody⟩
                | false => exact Or.inr ⟨n, hn, by simpa [hhead] using hbody⟩
            · cases h
              exact Or.inl ⟨_, rfl⟩

theorem body_of_redirectReply (target : Target) :
    ∃ octets, (redirectReply target).response.body = .held octets := by
  rw [redirectReply_response, Response.redirect, Response.redirect?]
  split
  · exact ⟨_, rfl⟩
  · exact ⟨_, rfl⟩

theorem body_of_listingReply (t : FileTree) (req : Request) (place : Spot) :
    ∃ octets, (listingReply t req place).response.body = .held octets := by
  unfold listingReply
  split
  · exact ⟨_, rfl⟩
  · cases h : req.isHead with
    | true => exact ⟨_, rfl⟩
    | false => exact ⟨_, rfl⟩

theorem body_of_dispatch {made : Reply} (h : dispatch t site req = .answered made) :
    (∃ octets, made.response.body = .held octets) ∨
      ∃ requested place n, locate t site.root req.target.path = .ok (.file requested place) ∧
        t.node? place.node = some n ∧
        made.response.body = .streamed (.ofLength place.node n.content.size) := by
  unfold dispatch at h
  split at h
  · unfold serve at h
    split at h
    · cases h
      exact Or.inl ⟨_, rfl⟩
    · cases h
      exact Or.inl (body_of_redirectReply _)
    · cases h
      exact Or.inl (body_of_listingReply _ _ _)
    · next requested place hloc =>
        rcases body_of_fileOutcome h with hheld | ⟨n, hn, hbody⟩
        · exact Or.inl hheld
        · exact Or.inr ⟨requested, place, n, hloc, hn, hbody⟩
  · split at h
    · cases h
      exact Or.inl ⟨_, rfl⟩
    · cases h
      exact Or.inl ⟨_, rfl⟩

theorem transfer_congr (h : FileTree.SameInside site.root t u) {made : Reply}
    (hd : dispatch t site req = .answered made) :
    made.response.body.transfer t = made.response.body.transfer u := by
  rcases body_of_dispatch hd with ⟨octets, hbody⟩ | ⟨requested, place, n, hloc, hn, hbody⟩
  · rw [hbody, Body.transfer_held, Body.transfer_held]
  · have hn' : u.node? place.node = some n := by rw [← node?_of_locate h hloc, hn]
    rw [hbody, Body.transfer_streamed hn, Body.transfer_streamed hn']

/-- Trees that are the same inside the served directory and in outline outside it cannot be told
apart by any request. -/
theorem answer_blind_outside (h : FileTree.SameInside site.root t u) (req : Request) :
    (answer t site req).sent?.map (Response.received t) =
      (answer u site req).sent?.map (Response.received u) := by
  rw [← answer_congr h]
  cases ha : answer t site req with
  | crashed => rfl
  | answered reply =>
      obtain ⟨made, hd, hr⟩ := answer_eq_answered ha
      have htransfer := transfer_congr h hd
      simp only [Outcome.sent?, Option.map_some, Response.received, Response.isolated_body, hr,
        Response.named_body, htransfer]

def otherSecret : Bytes × Moment := (Utf8.octets "nothing to see", ⟨1700000000, 5⟩)

theorem linkedTree_entry {s : Spot} {name : FileName} {id : NodeId}
    (h : (linkedTree secretFile).lookup s name.octets = .ok (some ⟨name, id⟩)) :
    id ≠ 0 ∧ (id = 4 → s.node = 0 ∧ name.octets = Utf8.octets "secret") := by
  obtain ⟨access, entries, hs, -, -, hfind⟩ := FileTree.entriesAt_of_lookup h
  have hmem : (⟨name, id⟩ : DirEntry) ∈ entries := List.mem_of_find?_eq_some hfind.symm
  unfold FileTree.entriesAt at hs
  generalize s.node = k at hs ⊢
  -- Nodes 0, 1 and 7 are the directories.
  rcases k with _ | _ | _ | _ | _ | _ | _ | _ | k
  all_goals cases hs
  · simp only [List.mem_cons, DirEntry.mk.injEq, List.not_mem_nil, or_false] at hmem
    rcases hmem with ⟨rfl, rfl⟩ | ⟨rfl, rfl⟩ | ⟨rfl, rfl⟩ <;> decide
  · simp only [List.mem_cons, DirEntry.mk.injEq, List.not_mem_nil, or_false] at hmem
    rcases hmem with ⟨rfl, rfl⟩ | ⟨rfl, rfl⟩ | ⟨rfl, rfl⟩ | ⟨rfl, rfl⟩ <;> decide
  · cases hmem

theorem linkedTree_node {s : Spot} (h : (linkedTree secretFile).Settled s) :
    (s.node = 0 → s = .root) ∧ (s.node = 4 → s.names = [Utf8.octets "secret"]) := by
  induction h with
  | root => exact ⟨fun _ => rfl, fun h => nomatch h⟩
  | @into s name id h hl hnode ih =>
      obtain ⟨hzero, hfour⟩ := linkedTree_entry hl
      refine ⟨fun hid => absurd hid hzero, fun hid => ?_⟩
      obtain ⟨hs, hname⟩ := hfour hid
      rw [Spot.names_into, ih.1 hs, hname]
      rfl

theorem linkedTree_sameInside :
    FileTree.SameInside linkedSite.root (linkedTree secretFile) (linkedTree otherSecret) := by
  refine ⟨rfl, fun top p place htop hplace hunder => ?_⟩
  have hsite : (linkedTree secretFile).canonical linkedSite.root =
      .ok ⟨[(⟨Utf8.octets "site", by decide⟩, 1)]⟩ := rfl
  have hstart : (linkedTree secretFile).Settled
      (FileTree.startOf (linkedTree secretFile).workingDirectory p) := .at_start .root p
  have hnames := (linkedTree_node (FileTree.settled_of_canonical hstart hplace)).2
  rw [hsite] at htop
  cases htop
  have hne : place.node ≠ 4 := by
    intro h
    rw [hnames h] at hunder
    revert hunder
    decide
  have hset : (linkedTree otherSecret).nodes = (linkedTree secretFile).nodes.set 4
      ⟨.file otherSecret.1, .forFiles, otherSecret.2⟩ := rfl
  rw [FileTree.node?, FileTree.node?, hset]
  exact (List.getElem?_set_ne hne.symm).symm

theorem answer_blind_outside_linkedTree :
    linkedTree secretFile ≠ linkedTree otherSecret ∧
      FileTree.SameInside linkedSite.root (linkedTree secretFile) (linkedTree otherSecret) ∧
      (answer (linkedTree secretFile) linkedSite (requestFor .get "/out")).sent?.map
          (Response.received (linkedTree secretFile)) =
        (answer (linkedTree otherSecret) linkedSite (requestFor .get "/out")).sent?.map
          (Response.received (linkedTree otherSecret)) :=
  ⟨by decide, linkedTree_sameInside,
    answer_blind_outside linkedTree_sameInside (requestFor .get "/out")⟩

end Site

end IsolatedSite
