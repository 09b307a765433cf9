import IsolatedSite.Proofs.Resolve
import IsolatedSite.Proofs.Serving

namespace IsolatedSite.Site

variable {t : FileTree} {site : Site} {req : Request}

def serverField (site : Site) : List (String × Bytes) :=
  if Header.isValue (Utf8.octets site.serverName) then
    [("server", Utf8.octets site.serverName)]
  else []

/-- The answer is made of one node: of its octets, unless the head alone was asked for, of their
number and of its date. The type is that of the path asked for. -/
structure ShowsNode (t : FileTree) (site : Site) (req : Request) (requested : Bytes) (n : Node)
    (r : Response) : Prop where
  body : r.body.transfer t = ⟨if req.isHead then [] else n.content.data, none⟩
  head : ∃ date, HttpDate.ofMoment? n.modified = some date ∧
    r.headers.toList =
      [("content-type", Utf8.octets (site.types.forPath requested)),
        ("content-length", Utf8.octets (Decimal.text n.content.size)),
        ("last-modified", Utf8.octets date)] ++ site.serverField

structure ShowsEntries (t : FileTree) (site : Site) (req : Request) (items : List ListingEntry)
    (r : Response) : Prop where
  body : r.body.transfer t =
    ⟨if req.isHead then [] else Utf8.octets (Listing.page (displayPath req.target.path) items), none⟩
  head : r.headers.toList =
    [("content-type", Utf8.octets Response.htmlType),
      ("content-length", Utf8.octets (Decimal.text
        (Utf8.octets (Listing.page (displayPath req.target.path) items)).length))] ++ site.serverField

theorem toList_named (site : Site) (r : Response) (h : ∀ f ∈ r.headers.fields, f.name ≠ "server") :
    (r.named site.serverName).headers.toList = r.headers.toList ++ site.serverField := by
  have hplace : ∀ (change : Field → Field) (fields : List Field), (∀ f ∈ fields, f.name ≠ "server") →
      Headers.place ⟨"server", Utf8.octets site.serverName, []⟩ change fields =
        fields ++ [⟨"server", Utf8.octets site.serverName, []⟩] := by
    intro change fields
    induction fields with
    | nil => intro _; rfl
    | cons f fields ih =>
        intro hf
        rw [Headers.place, if_neg (hf f List.mem_cons_self),
          ih (fun g hg => hf g (List.mem_cons_of_mem _ hg))]
        rfl
  unfold Response.named serverField
  split
  · simp [Headers.toList, Headers.insert, hplace _ _ h, Field.values]
  · simp

theorem showsNode_of_file? {n : Node} {place : Spot} {requested : Bytes} {date : String}
    {made : Response} (hn : t.node? place.node = some n)
    (hdate : HttpDate.ofMoment? n.modified = some date)
    (h : Response.file? (if req.isHead then .empty else .streamed (.ofLength place.node n.content.size))
      (site.types.forPath requested) n.content.size (some date) = some made) :
    ShowsNode t site req requested n (made.named site.serverName) := by
  have hbody := Response.file?_body h
  refine ⟨?_, date, hdate, ?_⟩
  · rw [Response.named_body, hbody]
    cases req.isHead with
    | true => rfl
    | false => exact Body.transfer_streamed hn
  · unfold Response.file? at h
    split at h
    · cases h
      rw [toList_named]
      · rfl
      · simp [Response.withHeader, Headers.append, Headers.place, Headers.empty]
    · cases h

theorem showsEntries_of_html (items : List ListingEntry) :
    ShowsEntries t site req items
      ((Response.html (Listing.page (displayPath req.target.path) items) req.isHead).named
        site.serverName) := by
  refine ⟨?_, ?_⟩
  · rw [Response.named_body, Response.html_transfer]
  · rw [toList_named]
    · rfl
    · simp [Response.html_headers]

/-- A path leads to a place that lies in the served directory. An absolute root makes the path of
the place lead back to it. -/
structure LeadsInside (t : FileTree) (site : Site) (requested : Bytes) (place : Spot) : Prop where
  canonical : t.canonical requested = .ok place
  under : ∃ top, t.canonical site.root = .ok top ∧ top.names <+: place.names
  own : Path.isAbsolute site.root = true → t.canonical place.path = .ok place

theorem leadsInside_of_confine {candidate requested : Bytes} {place : Spot}
    (hres : resolve site.root req.target.path = .ok candidate)
    (hreq : requested ∈ candidate :: indexNames.map (Path.push candidate))
    (h : confine t site.root requested = .ok place) : LeadsInside t site requested place := by
  obtain ⟨top, htop, hplace, hunder⟩ := confine_eq_ok.1 h
  refine ⟨hplace, ⟨top, htop, Spot.isUnder_iff.1 hunder⟩, fun hroot => ?_⟩
  have hcand := isAbsolute_of_resolve hroot hres
  have habs : Path.isAbsolute requested = true := by
    rcases List.mem_cons.1 hreq with rfl | hmem
    · exact hcand
    · obtain ⟨name, -, rfl⟩ := List.mem_map.1 hmem
      rw [Path.isAbsolute_push (Path.ne_nil_of_isAbsolute hcand), hcand]
  exact (FileTree.settled_of_isAbsolute habs hplace).canonical_path
    (FileTree.length_path_of_canonical habs hplace)

/-- The answer is made of what lies at one place of the served directory, which was asked for by its
path or stands for it as its index file. -/
def ShowsInside (t : FileTree) (site : Site) (req : Request) (r : Response) : Prop :=
  ∃ candidate requested place, resolve site.root req.target.path = .ok candidate ∧
    requested ∈ candidate :: indexNames.map (Path.push candidate) ∧
    LeadsInside t site requested place ∧
    ((∃ n, t.node? place.node = some n ∧ n.content.isDirectory = false ∧
        ShowsNode t site req requested n r) ∨
      ∃ items, Listing.read t place = .ok items ∧ ShowsEntries t site req items r)

def NamesInside (t : FileTree) (site : Site) (req : Request) : Prop :=
  ∃ candidate place entries, resolve site.root req.target.path = .ok candidate ∧
    LeadsInside t site candidate place ∧ contentAt t place = .ok (.directory entries)

theorem showsInside_of_serve {made : Reply} (h : serve t site req = .answered made)
    (hok : made.response.status = .ok) :
    ShowsInside t site req (made.response.named site.serverName) := by
  unfold serve at h
  split at h
  · next denial _ =>
      cases h
      exact absurd hok (refuse_status_ne _ _ _).1
  · next place hloc =>
      cases h
      rw [redirectReply_response] at hok
      rcases Response.redirect_status (slashed req.target) with hs | hs <;> rw [hs] at hok <;> cases hok
  · next place hloc =>
      cases h
      obtain ⟨candidate, entries, hres, hconf, -⟩ := locate_eq_listing hloc
      have hin := leadsInside_of_confine hres List.mem_cons_self hconf
      refine ⟨candidate, candidate, place, hres, List.mem_cons_self, hin, Or.inr ?_⟩
      rcases listingReply_eq t req place with ⟨fault, -, hs⟩ | ⟨items, hread, hr⟩
      · rw [hs] at hok
        cases hok
      · refine ⟨items, hread, ?_⟩
        rw [hr]
        exact showsEntries_of_html items
  · next requested place hloc =>
      obtain ⟨candidate, hres, hreq, hconf, n, hn, hdir⟩ := locate_eq_file hloc
      have hin := leadsInside_of_confine hres hreq hconf
      refine ⟨candidate, requested, place, hres, hreq, hin, Or.inl ⟨n, hn, hdir, ?_⟩⟩
      rcases fileOutcome_eq_answered hn h with hs | ⟨date, hdate, hfile⟩
      · rw [hs] at hok
        cases hok
      · exact showsNode_of_file? hn hdate hfile

theorem namesInside_of_serve {made : Reply} (h : serve t site req = .answered made)
    (hmoved : made.response.status = .movedPermanently) : NamesInside t site req := by
  have hserved := served_of_serve h
  rw [hmoved] at hserved
  obtain ⟨place, hloc⟩ := hserved.needsSlash
  obtain ⟨candidate, entries, hres, hconf, hc, -⟩ := locate_eq_needsSlash hloc
  exact ⟨candidate, place, entries, hres, leadsInside_of_confine hres List.mem_cons_self hconf, hc⟩

/-- `/www` is a link to `/site`, where the index file is a link to a page and another link leads out
to a secret. -/
def linkedTree (secret : Bytes × Moment) : FileTree where
  nodes :=
    [⟨.directory
        [⟨⟨Utf8.octets "site", by decide⟩, 1⟩, ⟨⟨Utf8.octets "secret", by decide⟩, 4⟩,
          ⟨⟨Utf8.octets "www", by decide⟩, 5⟩],
        .forDirectories, ⟨0, 0⟩⟩,
      ⟨.directory
        [⟨⟨Utf8.octets "index.html", by decide⟩, 2⟩, ⟨⟨Utf8.octets "page", by decide⟩, 3⟩,
          ⟨⟨Utf8.octets "out", by decide⟩, 6⟩, ⟨⟨Utf8.octets "docs", by decide⟩, 7⟩],
        .forDirectories, ⟨0, 0⟩⟩,
      ⟨.link (Utf8.octets "page"), .forDirectories, ⟨0, 0⟩⟩,
      ⟨.file (Utf8.octets "hello"), .forFiles, ⟨0, 0⟩⟩,
      ⟨.file secret.1, .forFiles, secret.2⟩,
      ⟨.link (Utf8.octets "site"), .forDirectories, ⟨0, 0⟩⟩,
      ⟨.link (Utf8.octets "/secret"), .forDirectories, ⟨0, 0⟩⟩,
      ⟨.directory [], .forDirectories, ⟨0, 0⟩⟩]
  workingDirectory := .root
  sound := of_decide_eq_true (Eq.refl true)

def linkedSite : Site := ⟨Utf8.octets "/www", .builtIn, "site"⟩

def secretFile : Bytes × Moment := (Utf8.octets "secret", ⟨0, 0⟩)

end IsolatedSite.Site
