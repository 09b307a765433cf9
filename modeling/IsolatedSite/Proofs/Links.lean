import IsolatedSite.Proofs.HttpDate
import IsolatedSite.Proofs.Markup
import IsolatedSite.Proofs.Resolve
import IsolatedSite.Proofs.Search
import IsolatedSite.Proofs.Serving
import IsolatedSite.Proofs.General

namespace IsolatedSite.Site

variable {t : FileTree} {site : Site} {req : Request}

theorem ofFault_ne_badRequest (fault : Fault) : Refusal.ofFault fault ≠ .badRequest := by
  unfold Refusal.ofFault
  split <;> simp

theorem confine_ne_badRequest {root candidate : Bytes} :
    confine t root candidate ≠ .error .badRequest := by
  unfold confine
  split
  · simp
  · split
    · intro h
      exact ofFault_ne_badRequest _ (Except.error.inj h)
    · split <;> simp

theorem foundAt_ne_badRequest {root candidate : Bytes} {path : String} {place : Spot} :
    foundAt t root path candidate place ≠ .error .badRequest := by
  unfold foundAt
  split
  · next refusal h =>
      unfold contentAt at h
      split at h
      · cases h
      · rw [← Except.error.inj h]
        intro h
        exact ofFault_ne_badRequest _ (Except.error.inj h)
  · split
    · simp
    · split <;> simp
  · split <;> simp

theorem refusal_ne_badRequest {root candidate : Bytes} {path : String} {denial : Denial}
    (hres : resolve root path = .ok candidate) (h : locate t root path = .error denial) :
    denial.refusal ≠ .badRequest := by
  simp only [locate, hres] at h
  split at h
  · next refusal hconf =>
      cases h
      rintro rfl
      exact confine_ne_badRequest hconf
  · split at h
    · next refusal hfound =>
        cases h
        rintro rfl
        exact foundAt_ne_badRequest hfound
    · cases h

theorem Served.status_ne_badRequest {path : String} {candidate : Bytes} {status : Status}
    (h : Served t site path status) (hres : resolve site.root path = .ok candidate) :
    status ≠ .badRequest := by
  rintro rfl
  cases h with
  | @refused denial hloc hs =>
      have hne := refusal_ne_badRequest hres hloc
      cases hr : denial.refusal with
      | badRequest => exact hne hr
      | forbidden | notFound | rootUnavailable fault | unreadable fault =>
          rw [hr] at hs
          cases hs
  | moved _ hs => rcases hs with hs | hs <;> cases hs
  | shown _ _ hs => rcases hs with hs | hs <;> cases hs

/-- A path that a listing is given for, with the directory that is listed. -/
structure Listed (t : FileTree) (site : Site) (path : String) (candidate : Bytes) (place : Spot)
    (access : Access) (entries : List DirEntry) : Prop where
  resolves : resolve site.root path = .ok candidate
  confined : confine t site.root candidate = .ok place
  endsInSlash : endsInSlash path = true
  holds : t.entriesAt place = .ok (access, entries)

theorem exists_listed {path : String} {place : Spot} {entries : List DirEntry}
    (hloc : locate t site.root path = .ok (.listing place)) (hlist : t.list place = .ok entries) :
    ∃ candidate access, Listed t site path candidate place access entries := by
  obtain ⟨candidate, _, hres, hconf, -, hend⟩ := locate_eq_listing hloc
  unfold FileTree.list at hlist
  split at hlist
  · cases hlist
  · next access held hs =>
      split at hlist
      · cases hlist
        exact ⟨candidate, access, hres, hconf, hend, hs⟩
      · cases hlist

section Entry

variable {path : String} {candidate : Bytes} {place : Spot} {access : Access}
  {entries : List DirEntry} {e : DirEntry} {cs : List Char}

theorem Listed.entry_sound (hl : Listed t site path candidate place access entries)
    (he : e ∈ entries) :
    FileTree.find? entries e.name.octets = some e ∧ ∃ n, t.node? e.node = some n := by
  have hholds := hl.holds
  unfold FileTree.entriesAt at hholds
  split at hholds
  · next held _ _ hn =>
      cases hholds
      obtain ⟨hdistinct, hpresent⟩ := FileTree.isSound_of_node? hn
      exact ⟨find?_of_nodup (fun e : DirEntry => e.name.octets) hdistinct he,
        t.nodes.get ⟨e.node, hpresent e he⟩, List.getElem?_eq_getElem (hpresent e he)⟩
  · cases hholds
  · cases hholds

theorem Listed.resolve_entry (hl : Listed t site path candidate place access entries)
    (hname : Utf8.decode? e.name.octets = some cs) :
    resolve site.root (path ++ (ListingEntry.ofDirEntry t place e).href) =
      .ok (Path.push candidate e.name.octets) :=
  resolve_href hl.endsInSlash hl.resolves hname rfl

theorem endsInSlash_entry (t : FileTree) (path : String) (place : Spot)
    (hname : Utf8.decode? e.name.octets = some cs) :
    Site.endsInSlash (path ++ (ListingEntry.ofDirEntry t place e).href) =
      (ListingEntry.ofDirEntry t place e).isDirectory := by
  refine endsInSlash_href path ?_
  have hoctets : Utf8.octets (ListingEntry.ofDirEntry t place e).name = e.name.octets :=
    Utf8.octets_lossyText hname
  rw [hoctets]
  exact e.name.ne_nil

/-- An entry that is no link has its place in the listed directory, if it can be looked up there. -/
theorem Listed.confine_entry (hl : Listed t site path candidate place access entries)
    (he : e ∈ entries) (hnode : t.targetOf? e.node = none) :
    confine t site.root (Path.push candidate e.name.octets) =
      if (Path.push place.path e.name.octets).length ≥ FileTree.pathLimit then
        .error (.ofFault .nameTooLong)
      else if access.search then .ok (place.into e.name e.node)
      else .error (.ofFault .denied) := by
  obtain ⟨top, htop, hplace, hunder⟩ := confine_eq_ok.1 hl.confined
  have hentry := FileTree.canonical_entry hplace hl.holds (hl.entry_sound he).1 hnode
  have hinto : (place.into e.name e.node).isUnder top = true := Spot.isUnder_into hunder _ _
  unfold confine
  rw [htop, hentry]
  by_cases hlimit : (Path.push place.path e.name.octets).length ≥ FileTree.pathLimit
  · simp only [hlimit, if_true]
  · cases hsearch : access.search with
    | false => simp only [hlimit, if_false, Bool.false_eq_true]
    | true => simp only [hlimit, if_false, if_true, hinto]

theorem isDirectory_entry {n : Node} (hnode : t.targetOf? e.node = none)
    (hn : t.node? e.node = some n) :
    (ListingEntry.ofDirEntry t place e).isDirectory = n.content.isDirectory := by
  simp [ListingEntry.ofDirEntry, hnode, hn]

theorem exists_foundAt (root candidate : Bytes) {content : Content}
    (hc : contentAt t place = .ok content)
    (hend : Site.endsInSlash path = content.isDirectory) :
    ∃ found, foundAt t root path candidate place = .ok found ∧
      ∀ place, found ≠ .needsSlash place := by
  unfold foundAt
  rw [hc]
  cases content with
  | directory held =>
      simp only [hend, Content.isDirectory, Bool.not_true, Bool.false_eq_true, if_false]
      split
      · exact ⟨_, rfl, by simp⟩
      · exact ⟨_, rfl, by simp⟩
  | file | link | socket | device =>
      simp only [hend, Content.isDirectory, Bool.false_eq_true, if_false]
      exact ⟨_, rfl, by simp⟩

theorem Listed.locate_entry (hl : Listed t site path candidate place access entries)
    (he : e ∈ entries) (hname : Utf8.decode? e.name.octets = some cs)
    (hnode : t.targetOf? e.node = none) :
    (∃ found, locate t site.root (path ++ (ListingEntry.ofDirEntry t place e).href) = .ok found ∧
      ∀ place, found ≠ .needsSlash place) ∨
    ∃ denial, locate t site.root (path ++ (ListingEntry.ofDirEntry t place e).href) =
      .error denial ∧ denial.refusal.status = .internalServerError := by
  obtain ⟨n, hn⟩ := (hl.entry_sound he).2
  have hend := endsInSlash_entry t path place hname
  rw [isDirectory_entry hnode hn] at hend
  simp only [locate, hl.resolve_entry hname, hl.confine_entry he hnode]
  by_cases hlimit : (Path.push place.path e.name.octets).length ≥ FileTree.pathLimit
  · simp only [hlimit, if_true]
    exact Or.inr ⟨_, rfl, rfl⟩
  · cases access.search with
    | false =>
        simp only [hlimit, if_false, Bool.false_eq_true]
        exact Or.inr ⟨_, rfl, rfl⟩
    | true =>
        have hc : contentAt t (place.into e.name e.node) = .ok n.content := by
          simp [contentAt, Spot.node, Spot.into, hn]
        obtain ⟨found, hfound, hmoved⟩ :=
          exists_foundAt site.root (Path.push candidate e.name.octets) hc hend
        simp only [hlimit, if_false, if_true, hfound]
        exact Or.inl ⟨found, rfl, hmoved⟩

theorem Listed.status_entry (hl : Listed t site path candidate place access entries)
    (he : e ∈ entries) (hname : Utf8.decode? e.name.octets = some cs)
    (hnode : t.targetOf? e.node = none) {status : Status}
    (hs : Served t site (path ++ (ListingEntry.ofDirEntry t place e).href) status) :
    status = .ok ∨ status = .internalServerError := by
  rcases hl.locate_entry he hname hnode with ⟨found, hfound, hmoved⟩ | ⟨denial, hdenied, hfault⟩
  · cases hs with
    | refused h =>
        rw [hfound] at h
        cases h
    | moved h =>
        rw [hfound] at h
        cases h
        exact absurd rfl (hmoved _)
    | shown _ _ hs => exact hs
  · cases hs with
    | refused h hs =>
        rw [hdenied] at h
        cases h
        rw [hs, hfault]
        exact Or.inr rfl
    | moved h =>
        rw [hdenied] at h
        cases h
    | shown h =>
        rw [hdenied] at h
        cases h

/-- The link of an entry is answered with a redirect only if the entry is a link that leads to a
directory through one that may not be searched: it is not shown as a directory then. -/
theorem Listed.denied_of_needsSlash (hl : Listed t site path candidate place access entries)
    (hroot : Path.isAbsolute site.root = true) (he : e ∈ entries)
    (hname : Utf8.decode? e.name.octets = some cs) {r : Spot}
    (h : locate t site.root (path ++ (ListingEntry.ofDirEntry t place e).href) =
      .ok (.needsSlash r)) :
    (∃ target, t.targetOf? e.node = some target) ∧
      t.reach (Path.push place.path e.name.octets) = .error .denied := by
  cases hnode : t.targetOf? e.node with
  | none =>
      rcases hl.locate_entry he hname hnode with ⟨found, hfound, hmoved⟩ | ⟨denial, hdenied, -⟩
      · rw [hfound] at h
        cases h
        exact absurd rfl (hmoved r)
      · rw [hdenied] at h
        cases h
  | some target =>
      refine ⟨⟨target, rfl⟩, ?_⟩
      obtain ⟨_, held, hres, hconf, hc, hend⟩ := locate_eq_needsSlash h
      rw [hl.resolve_entry hname] at hres
      cases hres
      obtain ⟨top, _, hplace, _⟩ := confine_eq_ok.1 hl.confined
      obtain ⟨_, _, hr, _⟩ := confine_eq_ok.1 hconf
      obtain ⟨m, hm, hpush⟩ := FileTree.canonical_push hplace e.name
      have hsettled := FileTree.settled_of_isAbsolute (isAbsolute_of_resolve hroot hl.resolves) hplace
      rw [hpush] at hr
      rcases hsettled.reach_of_walk hm e.name hr with hreach | hreach
      · -- The listing would have shown a directory, and its link would end in a slash.
        obtain ⟨n, hn, hcontent⟩ := node?_of_contentAt hc
        have hdir : (ListingEntry.ofDirEntry t place e).isDirectory = true := by
          simp [ListingEntry.ofDirEntry, hnode, FileTree.isDirectoryAt, FileTree.stat, hreach, hn,
            hcontent, Content.isDirectory]
        rw [endsInSlash_entry t path place hname, hdir] at hend
        cases hend
      · exact hreach

theorem Listed.delivers_entry (hl : Listed t site path candidate place access entries)
    (he : e ∈ entries) (hname : Utf8.decode? e.name.octets = some cs)
    (hlen : (Path.push place.path e.name.octets).length < FileTree.pathLimit)
    (hsearch : access.search = true) {data : Bytes} {rights : Access} {modified : Moment}
    {date : String} (hn : t.node? e.node = some ⟨.file data, rights, modified⟩)
    (hread : rights.read = true) (hdate : HttpDate.ofMoment? modified = some date)
    (htype : Header.isValue
      (Utf8.octets (site.types.forPath (Path.push candidate e.name.octets))) = true)
    (hm : req.method = .get)
    (hpath : req.target.path = path ++ (ListingEntry.ofDirEntry t place e).href) :
    ∃ reply, answer t site req = .answered reply ∧ reply.response.status = .ok ∧
      reply.response.body.transfer t = ⟨data, none⟩ := by
  have hnode : t.targetOf? e.node = none := by
    simp [FileTree.targetOf?, hn]
  have hend := endsInSlash_entry t path place hname
  rw [isDirectory_entry hnode hn] at hend
  have hinto : t.node? (place.into e.name e.node).node = some ⟨.file data, rights, modified⟩ := hn
  have hlocate : locate t site.root req.target.path =
      .ok (.file (Path.push candidate e.name.octets) (place.into e.name e.node)) := by
    rw [hpath]
    simp only [locate, hl.resolve_entry hname, hl.confine_entry he hnode, Nat.not_le.2 hlen,
      hsearch, if_false, if_true, foundAt, contentAt, hinto, hend, Content.isDirectory,
      Bool.false_eq_true]
  obtain ⟨r, hr, hok, hbody⟩ := fileOutcome_eq site req hinto hread hdate htype
    (HttpDate.isValue_of_ofMoment? hdate)
  have hhead := isHead_of_get hm
  have hserve : serve t site req = .answered ⟨r, []⟩ := by
    simp only [serve, hlocate, hr]
  refine ⟨_, answer_of_serve (Or.inl hm) hserve, ?_, ?_⟩
  · rw [Response.named_status, hok]
  · rw [Response.named_body, hbody, hhead]
    exact Body.transfer_streamed hn

end Entry

/-- What becomes of requests for a path with the link of an entry behind it. A redirect is only given
where the listing was denied the way to what a link leads to, and nothing is said of a file whose path
is too long. -/
structure LinkLeads (t : FileTree) (site : Site) (path : String) (candidate : Bytes) (place : Spot)
    (e : DirEntry) (link : String) : Prop where
  resolves : resolve site.root (path ++ link) = .ok (Path.push candidate e.name.octets)
  answers : ∀ req reply, req.method = .get ∨ req.method = .head → req.target.path = path ++ link →
    answer t site req = .answered reply →
    reply.response.status ≠ .badRequest ∧
    (reply.response.status = .movedPermanently → (∃ target, t.targetOf? e.node = some target) ∧
      t.reach (Path.push place.path e.name.octets) = .error .denied) ∧
    (t.targetOf? e.node = none →
      reply.response.status = .ok ∨ reply.response.status = .internalServerError)
  delivers : ∀ req dir file data, req.method = .get → req.target.path = path ++ link →
    t.node? place.node = some dir → dir.access.search = true →
    t.node? e.node = some file → file.content = .file data → file.access.read = true →
    (HttpDate.ofMoment? file.modified).isSome = true →
    Header.isValue (Utf8.octets (site.types.forPath (Path.push candidate e.name.octets))) = true →
    (Path.push place.path e.name.octets).length < FileTree.pathLimit →
    ∃ reply, answer t site req = .answered reply ∧ reply.response.status = .ok ∧
      reply.response.body.transfer t = ⟨data, none⟩

theorem Listed.linkLeads {path : String} {candidate : Bytes} {place : Spot} {access : Access}
    {entries : List DirEntry} {e : DirEntry} {cs : List Char}
    (hl : Listed t site path candidate place access entries)
    (hroot : Path.isAbsolute site.root = true) (he : e ∈ entries)
    (hname : Utf8.decode? e.name.octets = some cs) :
    LinkLeads t site path candidate place e (ListingEntry.ofDirEntry t place e).href := by
  refine ⟨hl.resolve_entry hname, ?_, ?_⟩
  · intro req reply hm hpath h
    obtain ⟨made, hd, hr⟩ := answer_eq_answered h
    rw [dispatch_eq_serve hm] at hd
    have hserved := served_of_serve hd
    rw [hpath] at hserved
    rw [hr, Response.named_status]
    refine ⟨hserved.status_ne_badRequest (hl.resolve_entry hname), ?_,
      fun hnode => hl.status_entry he hname hnode hserved⟩
    intro hmoved
    rw [hmoved] at hserved
    obtain ⟨r, hloc⟩ := hserved.needsSlash
    exact hl.denied_of_needsSlash hroot he hname hloc
  · intro req dir file data hm hpath hdir hsearch hfile hdata hread hdate htype hlen
    obtain ⟨content, rights, modified⟩ := file
    obtain ⟨date, hdate⟩ := Option.isSome_iff_exists.1 hdate
    cases hdata
    have haccess : access.search = true := by
      have hholds := hl.holds
      unfold FileTree.entriesAt at hholds
      rw [hdir] at hholds
      split at hholds
      · next heq =>
          cases heq
          cases hholds
          exact hsearch
      · cases hholds
      · cases hholds
    exact hl.delivers_entry he hname hlen haccess hfile hread hdate htype hm hpath

theorem page_of_listing {path : String} {place : Spot} {entries : List DirEntry}
    (hloc : locate t site.root path = .ok (.listing place)) (hlist : t.list place = .ok entries)
    (hm : req.method = .get) (hpath : req.target.path = path) :
    ∃ reply text, answer t site req = .answered reply ∧ reply.response.status = .ok ∧
      reply.response.body.transfer t = ⟨Utf8.octets text, none⟩ ∧
      (Html.links text).Perm (entries.map fun e => (ListingEntry.ofDirEntry t place e).href) := by
  have hread : Listing.read t place =
      .ok (Listing.sorted (entries.map (ListingEntry.ofDirEntry t place))) := by
    rw [Listing.read, hlist]
    rfl
  have hhead := isHead_of_get hm
  have hserve : serve t site req = .answered (listingReply t req place) := by
    simp only [serve, hpath, hloc]
  rcases listingReply_eq t req place with ⟨fault, hfault, -⟩ | ⟨items, hitems, hr⟩
  · rw [hread] at hfault
    cases hfault
  · rw [hread] at hitems
    refine ⟨_, Listing.page (displayPath req.target.path) items,
      answer_of_serve (Or.inl hm) hserve, ?_, ?_, ?_⟩
    · rw [Response.named_status, hr, Response.html_status]
    · rw [Response.named_body, hr, Response.html_transfer, hhead, if_neg Bool.false_ne_true]
    · rw [Listing.links_page, ← Except.ok.inj hitems]
      have hperm := List.mergeSort_perm (entries.map (ListingEntry.ofDirEntry t place))
        fun a b => decide (a.key ≤ b.key)
      simpa [Listing.sorted, List.map_map, Function.comp_def] using hperm.map ListingEntry.href

/-- The links of a listing lead to its entries. -/
theorem listing_links_lead {path : String} {place : Spot} {entries : List DirEntry}
    (hroot : Path.isAbsolute site.root = true)
    (hloc : locate t site.root path = .ok (.listing place)) (hlist : t.list place = .ok entries) :
    (∀ req : Request, req.method = .get → req.target.path = path →
      ∃ reply text, answer t site req = .answered reply ∧ reply.response.status = .ok ∧
        reply.response.body.transfer t = ⟨Utf8.octets text, none⟩ ∧
        (Html.links text).Perm
          (entries.map fun e => (ListingEntry.ofDirEntry t place e).href)) ∧
    ∃ candidate, resolve site.root path = .ok candidate ∧
      ∀ e ∈ entries, (Utf8.decode? e.name.octets).isSome = true →
        LinkLeads t site path candidate place e (ListingEntry.ofDirEntry t place e).href := by
  obtain ⟨candidate, access, hl⟩ := exists_listed hloc hlist
  refine ⟨fun req hm hpath => page_of_listing hloc hlist hm hpath, candidate, hl.resolves, ?_⟩
  intro e he hname
  obtain ⟨cs, hcs⟩ := Option.isSome_iff_exists.1 hname
  exact hl.linkLeads hroot he hcs

/-- A directory that may not be searched, another one, a link that leads through the first to the
second, and a file. -/
def deniedTree : FileTree where
  nodes :=
    [⟨.directory [⟨⟨Utf8.octets "home", by decide⟩, 1⟩], .forDirectories, ⟨0, 0⟩⟩,
      ⟨.directory
        [⟨⟨Utf8.octets "a", by decide⟩, 2⟩, ⟨⟨Utf8.octets "b", by decide⟩, 3⟩,
          ⟨⟨Utf8.octets "n", by decide⟩, 4⟩, ⟨⟨Utf8.octets "x y", by decide⟩, 5⟩],
        .forDirectories, ⟨0, 0⟩⟩,
      ⟨.directory [], ⟨false, false, false⟩, ⟨0, 0⟩⟩,
      ⟨.directory [], .forDirectories, ⟨0, 0⟩⟩,
      ⟨.link (Utf8.octets "a/../b"), .forDirectories, ⟨0, 0⟩⟩,
      ⟨.file (Utf8.octets "hello"), .forFiles, ⟨0, 0⟩⟩]
  workingDirectory := .root
  sound := by decide

def deniedSite : Site := ⟨Utf8.octets "/home", .builtIn, "site"⟩

def deniedPlace : Spot := ⟨[(⟨Utf8.octets "home", by decide⟩, 1)]⟩

def deniedEntries : List DirEntry :=
  [⟨⟨Utf8.octets "a", by decide⟩, 2⟩, ⟨⟨Utf8.octets "b", by decide⟩, 3⟩,
    ⟨⟨Utf8.octets "n", by decide⟩, 4⟩, ⟨⟨Utf8.octets "x y", by decide⟩, 5⟩]

theorem listing_links_lead_deniedTree :
    ofSettings (Utf8.octets "/") (settingsFor "home" "site") = .ok deniedSite ∧
      locate deniedTree deniedSite.root "/" = .ok (.listing deniedPlace) ∧
      deniedTree.list deniedPlace = .ok deniedEntries ∧
      ∃ reply, answer deniedTree deniedSite (requestFor .get "/x%20y") = .answered reply ∧
        reply.response.status = .ok ∧
        reply.response.body.transfer deniedTree = ⟨Utf8.octets "hello", none⟩ := by
  have hsite : ofSettings (Utf8.octets "/") (settingsFor "home" "site") = .ok deniedSite := rfl
  have hroot := isAbsolute_of_ofSettings rfl hsite
  have hloc : locate deniedTree deniedSite.root "/" = .ok (.listing deniedPlace) := rfl
  have hlist : deniedTree.list deniedPlace = .ok deniedEntries := rfl
  refine ⟨hsite, hloc, hlist, ?_⟩
  obtain ⟨-, candidate, hres, hleads⟩ := listing_links_lead hroot hloc hlist
  have hcandidate : resolve deniedSite.root "/" = .ok (Utf8.octets "/home") := rfl
  rw [hcandidate] at hres
  cases hres
  have hfile := hleads ⟨⟨Utf8.octets "x y", by decide⟩, 5⟩ (by simp [deniedEntries]) rfl
  have hlink : "/x%20y" = "/" ++ (ListingEntry.ofDirEntry deniedTree deniedPlace
      ⟨⟨Utf8.octets "x y", by decide⟩, 5⟩).href := by decide
  exact hfile.delivers (requestFor .get "/x%20y") _ _ _ rfl hlink rfl rfl rfl rfl rfl rfl rfl
    (by decide)

end IsolatedSite.Site
