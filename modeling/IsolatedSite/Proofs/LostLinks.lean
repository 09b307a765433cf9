import IsolatedSite.Proofs.Links

namespace IsolatedSite.Site

variable {t : FileTree} {site : Site}

theorem Listed.answer_of_pathLimit {req : Request} {path : String} {candidate : Bytes} {place : Spot}
    {access : Access} {entries : List DirEntry} {e : DirEntry} {cs : List Char}
    (hl : Listed t site path candidate place access entries) (he : e ∈ entries)
    (hname : Utf8.decode? e.name.octets = some cs) (hnode : t.targetOf? e.node = none)
    (hlen : FileTree.pathLimit ≤ (Path.push place.path e.name.octets).length)
    (hm : req.method = .get ∨ req.method = .head)
    (hpath : req.target.path = path ++ (ListingEntry.ofDirEntry t place e).href) :
    ∃ reply, answer t site req = .answered reply ∧
      reply.response.status = .internalServerError := by
  have hconf := hl.confine_entry he hnode
  rw [if_pos hlen] at hconf
  obtain ⟨denial, hdenied, hfault⟩ : ∃ denial, locate t site.root req.target.path = .error denial ∧
      denial.refusal = .ofFault .nameTooLong := by
    rw [hpath]
    simp only [locate, hl.resolve_entry hname, hconf]
    exact ⟨_, rfl, rfl⟩
  obtain ⟨reply, hreply, hstatus⟩ := answer_of_refused hm hdenied
  rw [hfault] at hstatus
  exact ⟨reply, hreply, hstatus⟩

def chainNodes (name : FileName) (depth : Nat) : List Node :=
  (List.range (depth + 1)).map (fun k => ⟨.directory [⟨name, k + 1⟩], .forDirectories, ⟨0, 0⟩⟩) ++
    [⟨.file [], .forFiles, ⟨0, 0⟩⟩]

theorem isSound_chainNodes (name : FileName) (depth : Nat) :
    ∀ n ∈ chainNodes name depth, n.content.IsSound (chainNodes name depth).length := by
  intro n hn
  have hlen : (chainNodes name depth).length = depth + 2 := by
    simp [chainNodes]
  rw [hlen]
  simp only [chainNodes, List.mem_append, List.mem_map, List.mem_range, List.mem_singleton] at hn
  rcases hn with ⟨k, hk, rfl⟩ | rfl
  · refine ⟨List.nodup_singleton _, fun e he => ?_⟩
    rw [List.mem_singleton.1 he]
    exact Nat.succ_lt_succ hk
  · trivial

/-- Directories of one name, each in the one before, and a file of that name in the last of them. -/
def chainTree (name : FileName) (depth : Nat) : FileTree where
  nodes := chainNodes name depth
  workingDirectory := .root
  sound := isSound_chainNodes name depth

def chainSite : Site := ⟨[Path.slash], .builtIn, "site"⟩

def chainSpot (name : FileName) : Nat → Spot
  | 0 => .root
  | k + 1 => (chainSpot name k).into name (k + 1)

def chainPath (name : FileName) : Nat → String
  | 0 => "/"
  | k + 1 => chainPath name k ++ (Percent.encodeText (Utf8.lossyText name.octets) ++ "/")

section Chain

variable {name : FileName} {depth : Nat} {cs : List Char}

theorem chainTree_node? {k : Nat} (hk : k ≤ depth) :
    (chainTree name depth).node? (chainSpot name k).node =
      some ⟨.directory [⟨name, k + 1⟩], .forDirectories, ⟨0, 0⟩⟩ := by
  have hnode : (chainSpot name k).node = k := by
    cases k <;> rfl
  rw [hnode]
  simp only [FileTree.node?, chainTree, chainNodes]
  rw [List.getElem?_append_left (by simp; omega), List.getElem?_map,
    List.getElem?_range (by omega)]
  rfl

theorem chainTree_entriesAt {k : Nat} (hk : k ≤ depth) :
    (chainTree name depth).entriesAt (chainSpot name k) =
      .ok (.forDirectories, [⟨name, k + 1⟩]) := by
  simp [FileTree.entriesAt, chainTree_node? hk]

theorem chainTree_file :
    (chainTree name depth).node? (depth + 1) = some ⟨.file [], .forFiles, ⟨0, 0⟩⟩ := by
  simp [FileTree.node?, chainTree, chainNodes]

theorem chainTree_targetOf? (id : NodeId) : (chainTree name depth).targetOf? id = none := by
  unfold FileTree.targetOf?
  split
  · next target access modified hn =>
      have hmem := List.mem_of_getElem? hn
      simp [chainTree, chainNodes] at hmem
  · rfl

theorem length_push_chainSpot (k : Nat) :
    (Path.push (chainSpot name k).path name.octets).length = (k + 1) * (name.octets.length + 1) := by
  induction k with
  | zero => simp [chainSpot, Spot.path, Spot.names, Spot.root, joinWith, Path.push, Path.endsInSlash]
  | succ k ih =>
      have hpath := Spot.path_into (chainSpot name k) name (k + 1)
      have hend := Spot.endsInSlash_path_into (chainSpot name k) name (k + 1)
      rw [chainSpot, Path.push_of_not_endsInSlash (Spot.path_ne_nil _) hend, hpath, List.length_append,
        ih, List.length_cons, ← Nat.succ_mul]

theorem endsInSlash_chainPath (k : Nat) : endsInSlash (chainPath name k) = true := by
  cases k with
  | zero => simp [chainPath, endsInSlash]
  | succ k => simp [chainPath, endsInSlash]

theorem chainTree_leads (hname : Utf8.decode? name.octets = some cs) {k : Nat} (hk : k ≤ depth)
    (hlen : k * (name.octets.length + 1) < FileTree.pathLimit) :
    ∃ candidate, resolve chainSite.root (chainPath name k) = .ok candidate ∧
      (chainTree name depth).canonical candidate = .ok (chainSpot name k) := by
  induction k with
  | zero =>
      refine ⟨[Path.slash], ?_, FileTree.Settled.root.canonical_path (by decide)⟩
      rw [chainPath]
      rfl
  | succ k ih =>
      rw [Nat.succ_mul] at hlen
      obtain ⟨candidate, hres, hcan⟩ := ih (by omega) (by omega)
      have hlink : Utf8.octets (Percent.encodeText (Utf8.lossyText name.octets) ++ "/") =
          Percent.encode name.octets ++ [Path.slash] := by
        rw [Utf8.octets_append, Percent.octets_encodeText, Utf8.octets_lossyText hname]
        rfl
      refine ⟨Path.push candidate name.octets,
        resolve_append (endsInSlash_chainPath k) hres hname (Or.inr rfl) hlink, ?_⟩
      have hfind : FileTree.find? [⟨name, k + 1⟩] name.octets = some ⟨name, k + 1⟩ := by
        simp [FileTree.find?]
      have hentry := FileTree.canonical_entry (e := ⟨name, k + 1⟩) hcan
        (chainTree_entriesAt (by omega)) hfind (chainTree_targetOf? (k + 1))
      rw [length_push_chainSpot, Nat.succ_mul, if_neg (by omega)] at hentry
      exact hentry

theorem indexFile?_chainTree (hindex : name.octets ∉ indexNames) {candidate : Bytes} {k : Nat}
    (hk : k ≤ depth) (hcan : (chainTree name depth).canonical candidate = .ok (chainSpot name k)) :
    indexFile? (chainTree name depth) chainSite.root candidate indexNames = none := by
  have hnone : ∀ other : FileName, other.octets ∈ indexNames → ∃ refusal,
      confine (chainTree name depth) chainSite.root (Path.push candidate other.octets) =
        .error refusal := by
    intro other hother
    have hfind : FileTree.find? [⟨name, k + 1⟩] other.octets = none := by
      have hne : name.octets ≠ other.octets := fun h => hindex (h ▸ hother)
      simp [FileTree.find?, hne]
    obtain ⟨fault, hfault⟩ := FileTree.canonical_vacant hcan (chainTree_entriesAt hk) hfind
    have htop : (chainTree name depth).canonical chainSite.root = .ok .root :=
      FileTree.Settled.root.canonical_path (by decide)
    exact ⟨.ofFault fault, by simp only [confine, htop, hfault]⟩
  obtain ⟨refusal, hfirst⟩ := hnone ⟨Utf8.octets "index.html", by decide⟩ (by decide)
  obtain ⟨refusal', hsecond⟩ := hnone ⟨Utf8.octets "index.htm", by decide⟩ (by decide)
  simp only [indexNames, indexFile?, hfirst, hsecond]

theorem locate_chainTree (hname : Utf8.decode? name.octets = some cs)
    (hindex : name.octets ∉ indexNames) {k : Nat} (hk : k ≤ depth)
    (hlen : k * (name.octets.length + 1) < FileTree.pathLimit) :
    locate (chainTree name depth) chainSite.root (chainPath name k) =
      .ok (.listing (chainSpot name k)) := by
  obtain ⟨candidate, hres, hcan⟩ := chainTree_leads hname hk hlen
  have hconf : confine (chainTree name depth) chainSite.root candidate = .ok (chainSpot name k) :=
    confine_eq_ok.2 ⟨.root, FileTree.Settled.root.canonical_path (by decide), hcan, rfl⟩
  simp only [locate, hres, hconf, foundAt, contentAt, chainTree_node? hk, endsInSlash_chainPath,
    indexFile?_chainTree hindex hk hcan, Bool.not_true, Bool.false_eq_true, if_false]

end Chain

theorem isValue_builtIn (p : Bytes) :
    Header.isValue (Utf8.octets (MediaTypes.builtIn.forPath p)) = true := by
  have hentries : ∀ e ∈ MediaTypes.builtIn.entries, Header.isValue (Utf8.octets e.2) = true := by
    decide
  have hlookup : ∀ key type, MediaTypes.builtIn.entries.lookup key = some type →
      Header.isValue (Utf8.octets type) = true := by
    intro key type h
    obtain ⟨before, after, hsplit, -⟩ := List.lookup_eq_some_iff.1 h
    exact hentries (key, type) (by rw [hsplit]; simp)
  unfold MediaTypes.forPath MediaTypes.get
  cases h : ((Path.extension? p).bind Utf8.text?).bind MediaTypes.builtIn.find? with
  | none => rfl
  | some type =>
      obtain ⟨ext, -, hext⟩ := Option.bind_eq_some_iff.1 h
      rcases Option.or_eq_some_iff.1 hext with h | ⟨-, h⟩
      · exact hlookup _ type h
      · exact hlookup _ type h

def longName : FileName := ⟨List.replicate 63 0x78, by decide⟩

/-- Where links of listings lead astray: a redirect for a link that leads through a directory which may
not be searched, and a file that is there for all to read but cannot be found. -/
theorem listing_links_lost :
    (locate deniedTree deniedSite.root "/" = .ok (.listing deniedPlace) ∧
      deniedTree.list deniedPlace = .ok deniedEntries ∧
      ∃ e ∈ deniedEntries, (Utf8.decode? e.name.octets).isSome = true ∧
        ∃ reply, answer deniedTree deniedSite (requestFor .get
            ("/" ++ (ListingEntry.ofDirEntry deniedTree deniedPlace e).href)) = .answered reply ∧
          reply.response.status = .movedPermanently) ∧
    ∃ t path place entries, locate t chainSite.root path = .ok (.listing place) ∧
      t.list place = .ok entries ∧
      ∃ e ∈ entries, (Utf8.decode? e.name.octets).isSome = true ∧
        (∃ dir, t.node? place.node = some dir ∧ dir.access.search = true) ∧
        (∃ file data, t.node? e.node = some file ∧ file.content = .file data ∧
          file.access.read = true ∧ (HttpDate.ofMoment? file.modified).isSome = true) ∧
        (∀ p, Header.isValue (Utf8.octets (chainSite.types.forPath p)) = true) ∧
        ∃ reply, answer t chainSite (requestFor .get
            (path ++ (ListingEntry.ofDirEntry t place e).href)) = .answered reply ∧
          reply.response.status = .internalServerError := by
  constructor
  · have hlink : "/" ++ (ListingEntry.ofDirEntry deniedTree deniedPlace
        ⟨⟨Utf8.octets "n", by decide⟩, 4⟩).href = "/n" := by decide
    refine ⟨rfl, rfl, ⟨⟨Utf8.octets "n", by decide⟩, 4⟩, by simp [deniedEntries], rfl, ?_⟩
    rw [hlink]
    exact ⟨_, rfl, rfl⟩
  · have hname : Utf8.decode? longName.octets = some (List.replicate 63 'x') := rfl
    have hloc := locate_chainTree hname (by decide) (Nat.le_refl 63) (by decide)
    have hlist : (chainTree longName 63).list (chainSpot longName 63) = .ok [⟨longName, 64⟩] := by
      simp only [FileTree.list, chainTree_entriesAt (Nat.le_refl 63)]
      rfl
    obtain ⟨candidate, access, hl⟩ := exists_listed hloc hlist
    refine ⟨chainTree longName 63, chainPath longName 63, chainSpot longName 63, [⟨longName, 64⟩],
      hloc, hlist, ⟨longName, 64⟩, List.mem_singleton_self _, by rw [hname]; rfl,
      ⟨_, chainTree_node? (Nat.le_refl 63), rfl⟩, ⟨⟨.file [], .forFiles, ⟨0, 0⟩⟩, [], ?_, rfl, rfl, rfl⟩,
      isValue_builtIn, ?_⟩
    · exact chainTree_file
    · exact hl.answer_of_pathLimit (List.mem_singleton_self _) hname
        (chainTree_targetOf? 64) (by rw [length_push_chainSpot]; decide) (Or.inl rfl) rfl

end IsolatedSite.Site
