import IsolatedSite.Proofs.Walk

namespace IsolatedSite.FileTree

open Relation

variable {t : FileTree} {g : Gait}

theorem entriesAt_eq_ok {s : Spot} {access : Access} {entries : List DirEntry} :
    t.entriesAt s = .ok (access, entries) ↔
      ∃ modified, t.node? s.node = some ⟨.directory entries, access, modified⟩ := by
  constructor
  · intro h
    unfold entriesAt at h
    split at h
    · next old access' modified hn =>
        cases h
        exact ⟨modified, hn⟩
    · cases h
    · cases h
  · rintro ⟨modified, hn⟩
    simp [entriesAt, hn]

theorem entriesAt_of_lookup {s : Spot} {name : Bytes} {found : Option DirEntry}
    (h : t.lookup s name = .ok found) :
    ∃ access entries, t.entriesAt s = .ok (access, entries) ∧ access.search = true ∧
      name.length ≤ 255 ∧ found = find? entries name := by
  unfold lookup at h
  split at h
  · cases h
  · next access entries hs =>
      split at h
      · cases h
      · next hsearch =>
          split at h
          · cases h
          · next hlen =>
              cases h
              exact ⟨access, entries, hs, by simpa using hsearch, by omega, rfl⟩

theorem lookup_of_entriesAt {s : Spot} {access : Access} {entries : List DirEntry}
    (hs : t.entriesAt s = .ok (access, entries)) (name : FileName) :
    t.lookup s name.octets =
      if access.search then .ok (find? entries name.octets) else .error .denied := by
  have hlen := name.sound.2.2.1
  cases h : access.search with
  | false => simp [lookup, hs, h]
  | true => simp [lookup, hs, h, Nat.not_lt.2 hlen]

theorem name_of_lookup {s : Spot} {name : Bytes} {entry : DirEntry}
    (h : t.lookup s name = .ok (some entry)) : entry.name.octets = name := by
  obtain ⟨_, entries, _, _, _, hfind⟩ := entriesAt_of_lookup h
  have hp := List.find?_some (p := fun e : DirEntry => e.name.octets == name) hfind.symm
  exact eq_of_beq hp

theorem checkSlashed_eq_ok {length : Nat} {found : Except Fault (Option DirEntry)} {entry : DirEntry}
    (h : t.checkSlashed length found = .ok (some entry)) :
    found = .ok (some entry) ∧ (t.targetOf? entry.node = none →
      ∃ entries access modified, t.node? entry.node = some ⟨.directory entries, access, modified⟩) := by
  cases found with
  | error e => simp only [checkSlashed] at h; split at h <;> cases h
  | ok found =>
      cases found with
      | none => simp only [checkSlashed] at h; split at h <;> cases h
      | some e =>
          simp only [checkSlashed] at h
          split at h
          · next target _ _ hn => cases h; simp [targetOf?, hn]
          · next entries access modified hn =>
              split at h
              · cases h
              · cases h; exact ⟨rfl, fun _ => ⟨entries, access, modified, hn⟩⟩
          · split at h <;> cases h

theorem lookup_of_lookupAlong {s : Spot} {name : Bytes} {hops : List Hop} {entry : DirEntry}
    (h : t.lookupAlong g s name hops = .ok (some entry)) : t.lookup s name = .ok (some entry) := by
  unfold lookupAlong at h
  split at h
  · exact h
  · simp only at h
    split at h
    · cases h
    · split at h
      · exact (checkSlashed_eq_ok h).1
      · exact h

theorem length_of_lookupAlong (hg : g.spelled = true) {s : Spot} {name : Bytes} {hops : List Hop}
    {entry : DirEntry} (h : t.lookupAlong g s name hops = .ok (some entry)) :
    (Path.push s.path name).length < pathLimit := by
  simp only [lookupAlong, hg, Bool.not_true, Bool.false_eq_true, if_false] at h
  split at h
  · cases h
  · omega

theorem directory_of_lookupAlong (hg : g.spelled = true) {s : Spot} {name : Bytes} {hops : List Hop}
    {entry : DirEntry} (hask : Hop.askDirectory hops = true)
    (h : t.lookupAlong g s name hops = .ok (some entry)) (hnode : t.targetOf? entry.node = none) :
    ∃ entries access modified, t.node? entry.node = some ⟨.directory entries, access, modified⟩ := by
  simp only [lookupAlong, hg, hask, Bool.not_true, Bool.false_eq_true, if_false, if_true] at h
  split at h
  · cases h
  · exact (checkSlashed_eq_ok h).2 hnode

theorem lookupAlong_of_lookup {s : Spot} {name : Bytes} {hops : List Hop}
    (hfit : g.spelled = true → (Path.push s.path name).length < pathLimit ∧
      Hop.askDirectory hops = false) : t.lookupAlong g s name hops = t.lookup s name := by
  cases hg : g.spelled with
  | false => simp [lookupAlong, hg]
  | true =>
      obtain ⟨hlen, hask⟩ := hfit hg
      simp [lookupAlong, hg, hask, Nat.not_le.2 hlen]

/-- A place with the names of its own path: each name is found in the place above, and none is that
of a link. -/
inductive Settled (t : FileTree) : Spot → Prop
  | root : Settled t .root
  | into {s name id} (h : Settled t s) (hl : t.lookup s name.octets = .ok (some ⟨name, id⟩))
      (hnode : t.targetOf? id = none) : Settled t (s.into name id)

theorem Settled.up {s : Spot} (h : t.Settled s) : t.Settled s.up := by
  cases h with
  | root => exact .root
  | into h hl hnode => exact h

theorem Settled.at_start {s : Spot} (h : t.Settled s) (p : Bytes) : t.Settled (startOf s p) := by
  unfold startOf
  split
  · exact .root
  · exact h

theorem Settled.of_moves {j k : Journey} (h : t.Moves g j k) (hs : t.Settled j.spot) :
    t.Settled k.spot := by
  cases h with
  | directory | stay => exact hs
  | up => exact hs.up
  | into h hnode =>
      have hl := lookup_of_lookupAlong h
      exact .into hs (by rw [name_of_lookup hl]; exact hl) hnode
  | link => exact hs.at_start _

theorem Settled.of_leads {j k : Journey} (h : t.Leads g j k) (hs : t.Settled j.spot) :
    t.Settled k.spot := by
  induction h with
  | refl => exact hs
  | tail _ hm ih => exact ih.of_moves hm

theorem length_path_up_le (s : Spot) : s.up.path.length ≤ s.path.length := by
  cases s with
  | mk trail =>
      cases trail with
      | nil => exact Nat.le_refl _
      | cons step trail => exact Nat.le_of_lt (Spot.length_path_into ⟨trail⟩ step.1 step.2)

theorem length_path_startOf_lt {s : Spot} (h : s.path.length < pathLimit) (p : Bytes) :
    (startOf s p).path.length < pathLimit := by
  unfold startOf
  split
  · decide
  · exact h

theorem length_path_of_moves (hg : g.spelled = true) {j k : Journey} (h : t.Moves g j k)
    (hs : j.spot.path.length < pathLimit) : k.spot.path.length < pathLimit := by
  cases h with
  | directory | stay => exact hs
  | up => exact Nat.lt_of_le_of_lt (length_path_up_le _) hs
  | into h hnode =>
      have hl := length_of_lookupAlong hg h
      rw [Spot.path_into, name_of_lookup (lookup_of_lookupAlong h)]
      exact hl
  | link => exact length_path_startOf_lt hs _

theorem length_path_of_leads (hg : g.spelled = true) {j k : Journey} (h : t.Leads g j k)
    (hs : j.spot.path.length < pathLimit) : k.spot.path.length < pathLimit := by
  induction h with
  | refl => exact hs
  | tail _ hm ih => exact length_path_of_moves hg hm ih

theorem Settled.walk_names {s : Spot} (h : t.Settled s) (n : Nat) (hops : List Hop)
    (hfit : g.spelled = true → s.path.length < pathLimit ∧ Hop.askDirectory hops = false) :
    t.walk g n .root (s.names.map .into ++ hops) = t.walk g n s hops := by
  induction h generalizing hops with
  | root => rfl
  | @into s name id h hl hnode ih =>
      have hfit' : g.spelled = true →
          s.path.length < pathLimit ∧ Hop.askDirectory (.into name.octets :: hops) = false :=
        fun hg => ⟨Nat.lt_trans (Spot.length_path_into s name id) (hfit hg).1, rfl⟩
      have hlook : t.lookupAlong g s name.octets hops = .ok (some ⟨name, id⟩) := by
        rw [lookupAlong_of_lookup (by rw [← Spot.path_into s name id]; exact hfit), hl]
      rw [Spot.names_into, List.map_append, List.append_assoc]
      exact (ih _ hfit').trans (walk_into hlook hnode)

theorem askDirectory_append {name : Bytes} {rest ends : List Hop} :
    ∀ hops : List Hop, Hop.askDirectory (hops ++ .into name :: rest) = true →
      Hop.askDirectory (hops ++ ends) = true
  | [], h => by simp [Hop.askDirectory] at h
  | .into _ :: _, h => by simp [Hop.askDirectory] at h
  | .up :: _, _ => rfl
  | .stay :: hops, h => by
      have hrest : Hop.askDirectory (hops ++ .into name :: rest) = true := by
        simpa [Hop.askDirectory] using h
      simp [Hop.askDirectory, askDirectory_append hops hrest]
  | .directory :: hops, h => by
      have hrest : Hop.askDirectory (hops ++ .into name :: rest) = true := by
        simpa [Hop.askDirectory] using h
      simp [Hop.askDirectory, askDirectory_append hops hrest]

theorem lookupAlong_of_ask {s : Spot} {name : Bytes} {hops hops' : List Hop} {entry : DirEntry}
    (hask : Hop.askDirectory hops' = true → Hop.askDirectory hops = true)
    (h : t.lookupAlong g s name hops = .ok (some entry)) :
    t.lookupAlong g s name hops' = .ok (some entry) := by
  cases hask' : Hop.askDirectory hops' with
  | true =>
      unfold lookupAlong at h ⊢
      rw [hask hask'] at h
      rw [hask']
      exact h
  | false =>
      rw [lookupAlong_of_lookup (fun hg => ⟨length_of_lookupAlong hg h, hask'⟩)]
      exact lookup_of_lookupAlong h

theorem eq_of_leads_nil {j k : Journey} (hj : j.hops = []) (h : t.Leads g j k) : k = j := by
  cases h using ReflTransGen.head_induction_on with
  | refl => rfl
  | head hm _ => cases hm <;> cases hj

theorem leads_extend {j : Journey} {m : Nat} {r : Spot} {hops ends : List Hop}
    (hends : ends = [] ∨ ends = [.directory]) (hj : j.hops = hops ++ ends)
    (h : t.Leads g j ⟨m, r, []⟩) (name : Bytes) (rest : List Hop) :
    t.Leads g ⟨j.links, j.spot, hops ++ .into name :: rest⟩ ⟨m, r, .into name :: rest⟩ := by
  induction h using ReflTransGen.head_induction_on generalizing hops with
  | refl =>
      have hnil : hops = [] := (List.append_eq_nil_iff.1 hj.symm).1
      rw [hnil]
      exact .refl
  | head hm hrest ih =>
      cases hops with
      | nil =>
          -- Only the slash at the end is left, and a slash does not change the place.
          rcases hends with rfl | rfl
          · cases hm <;> cases hj
          · cases hm <;> cases hj
            cases eq_of_leads_nil rfl hrest
            exact .refl
      | cons hop hops =>
          cases hm with
          | directory h =>
              cases hj
              exact .head (.directory h) (ih rfl)
          | stay h =>
              cases hj
              exact .head (.stay h) (ih rfl)
          | up h =>
              cases hj
              exact .head (.up h) (ih rfl)
          | into h hnode =>
              cases hj
              exact .head (.into (lookupAlong_of_ask (askDirectory_append hops) h) hnode) (ih rfl)
          | @link n s _ _ entry target h hnode =>
              cases hj
              have hlead := ih (List.append_assoc (Hop.ofPath target) hops ends).symm
              rw [List.append_assoc] at hlead
              exact .head (.link (lookupAlong_of_ask (askDirectory_append hops) h) hnode) hlead

theorem landWith_eq {p : Bytes} (hp : p ≠ []) (h0 : 0 ∉ p) :
    t.landWith g p = t.walk g linkLimit (startOf t.workingDirectory p) (Hop.ofPath p) := by
  simp [landWith, hp, h0]

theorem bind_spot_eq_ok {x : Except Fault Landing} {s : Spot} (h : x.bind Landing.spot = .ok s) :
    x = .ok (.found s) := by
  cases x with
  | error e => cases h
  | ok landing =>
      cases landing with
      | found r => cases h; rfl
      | vacant dir name => cases h

theorem bind_checkLength_eq_ok {p : Bytes} {next : Unit → Except Fault Landing} {landing : Landing} :
    (checkLength p).bind next = .ok landing ↔ checkLength p = .ok () ∧ next () = .ok landing := by
  cases checkLength p with
  | error e => simp [Except.bind]
  | ok _ => simp [Except.bind]

theorem nul_not_mem_of_checkLength {p : Bytes} (h : checkLength p = .ok ()) : 0 ∉ p := by
  intro h0
  simp [checkLength, h0] at h

theorem ends_of_land {p : Bytes} {landing : Landing} (h : t.land true p = .ok landing) :
    p ≠ [] ∧ checkLength p = .ok () ∧
      ∃ k, t.Leads ⟨true, false⟩ ⟨linkLimit, startOf t.workingDirectory p, Hop.ofPath p⟩ k ∧
        t.Ends ⟨true, false⟩ k landing := by
  obtain ⟨hc, hland⟩ := bind_checkLength_eq_ok.1 h
  have hp : p ≠ [] := by
    rintro rfl
    simp [landWith] at hland
  rw [landWith_eq hp (nul_not_mem_of_checkLength hc)] at hland
  exact ⟨hp, hc, exists_ends rfl hland⟩

theorem reach_of_leads {p : Bytes} {m : Nat} {s : Spot} (hp : p ≠ []) (hc : checkLength p = .ok ())
    (h : t.Leads ⟨true, false⟩ ⟨linkLimit, startOf t.workingDirectory p, Hop.ofPath p⟩ ⟨m, s, []⟩) :
    t.reach p = .ok s := by
  have hwalk : t.walk ⟨true, false⟩ linkLimit (startOf t.workingDirectory p) (Hop.ofPath p) =
      .ok (.found s) := (finish_of_leads rfl h).trans (walk_nil m s)
  rw [reach, land, hc, Except.bind, landWith_eq hp (nul_not_mem_of_checkLength hc), hwalk]
  rfl

theorem walk_of_canonical {p : Bytes} {s : Spot} (h : t.canonical p = .ok s) :
    p ≠ [] ∧ 0 ∉ p ∧
      t.walk ⟨true, true⟩ linkLimit (startOf t.workingDirectory p) (Hop.ofPath p) =
        .ok (.found s) := by
  have hland := bind_spot_eq_ok h
  have h0 : 0 ∉ p := by
    intro h0
    simp [landWith, h0] at hland
  have hp : p ≠ [] := by
    rintro rfl
    simp [landWith] at hland
  rw [landWith_eq hp h0] at hland
  exact ⟨hp, h0, hland⟩

theorem settled_of_canonical {p : Bytes} {s : Spot}
    (hs : t.Settled (startOf t.workingDirectory p)) (h : t.canonical p = .ok s) : t.Settled s := by
  obtain ⟨_, _, hwalk⟩ := walk_of_canonical h
  obtain ⟨m, hlead⟩ := exists_leads rfl hwalk
  exact Settled.of_leads hlead hs

theorem settled_of_isAbsolute {p : Bytes} {s : Spot} (hp : Path.isAbsolute p = true)
    (h : t.canonical p = .ok s) : t.Settled s := by
  refine settled_of_canonical ?_ h
  simpa [startOf, hp] using Settled.root

theorem length_path_of_start {p : Bytes} {s : Spot}
    (hs : (startOf t.workingDirectory p).path.length < pathLimit) (h : t.canonical p = .ok s) :
    s.path.length < pathLimit := by
  obtain ⟨_, _, hwalk⟩ := walk_of_canonical h
  obtain ⟨m, hlead⟩ := exists_leads rfl hwalk
  exact length_path_of_leads rfl hlead hs

theorem length_path_of_canonical {p : Bytes} {s : Spot} (hp : Path.isAbsolute p = true)
    (h : t.canonical p = .ok s) : s.path.length < pathLimit := by
  refine length_path_of_start ?_ h
  simp only [startOf, hp, if_true]
  decide

theorem startOf_path (from_ s : Spot) : startOf from_ s.path = .root := by
  simp [startOf, s.isAbsolute_path]

theorem Settled.landWith_path {s : Spot} (h : t.Settled s)
    (hlen : g.spelled = true → s.path.length < pathLimit) (hroot : t.passSlash g .root = .ok ()) :
    t.landWith g s.path = .ok (.found s) := by
  rw [landWith_eq s.path_ne_nil s.nul_not_mem_path, startOf_path]
  cases h with
  | root =>
      have hhops : Hop.ofPath Spot.root.path = [.directory] := rfl
      rw [hhops, walk_directory, hroot]
      exact walk_nil _ _
  | @into s name id h hl hnode =>
      have hwalk := (Settled.into h hl hnode).walk_names (g := g) linkLimit []
        (fun hg => ⟨hlen hg, rfl⟩)
      rw [Hop.ofPath_eq, Spot.endsInSlash_path_into, Spot.segments_path]
      exact hwalk.trans (walk_nil _ _)

theorem Settled.canonical_path {s : Spot} (h : t.Settled s) (hlen : s.path.length < pathLimit) :
    t.canonical s.path = .ok s := by
  rw [canonical, h.landWith_path (fun _ => hlen) rfl]
  rfl

/-- Names below a path are looked up from the place of the path on, with the links that are left. -/
theorem canonical_pushAll {p : Bytes} {s : Spot} (h : t.canonical p = .ok s) :
    ∃ m, m ≤ linkLimit ∧ ∀ names : List Bytes, names ≠ [] →
      (∀ name ∈ names, Path.IsName name) → (∀ name ∈ names, (0 : UInt8) ∉ name) →
        t.canonical (Path.pushAll p names) =
          (t.walk ⟨true, true⟩ m s (names.map .into)).bind Landing.spot := by
  obtain ⟨hp, h0, hwalk⟩ := walk_of_canonical h
  obtain ⟨m, hlead⟩ := exists_leads rfl hwalk
  have hends : (if Path.endsInSlash p then [Hop.directory] else []) = [] ∨
      (if Path.endsInSlash p then [Hop.directory] else []) = [.directory] := by
    cases Path.endsInSlash p
    · exact Or.inl rfl
    · exact Or.inr rfl
  refine ⟨m, links_le_of_leads hlead, ?_⟩
  intro names hne hnames hnul
  have hnul' : (0 : UInt8) ∉ Path.pushAll p names := by
    rw [Path.mem_pushAll (by decide), not_or]
    refine ⟨h0, ?_⟩
    rintro ⟨name, hmem, hzero⟩
    exact hnul name hmem hzero
  have hstart : startOf t.workingDirectory (Path.pushAll p names) =
      startOf t.workingDirectory p := by
    simp only [startOf, Path.isAbsolute_pushAll hp]
  rw [canonical, landWith_eq (Path.pushAll_ne_nil hp names) hnul', hstart,
    Hop.ofPath_pushAll hp hne hnames]
  cases names with
  | nil => exact absurd rfl hne
  | cons name names =>
      have hext := leads_extend hends (Hop.ofPath_eq p) hlead name (names.map .into)
      exact congrArg (·.bind Landing.spot) (finish_of_leads rfl hext)

theorem canonical_push {p : Bytes} {s : Spot} (h : t.canonical p = .ok s) (name : FileName) :
    ∃ m, m ≤ linkLimit ∧ t.canonical (Path.push p name.octets) =
      (t.walk ⟨true, true⟩ m s [.into name.octets]).bind Landing.spot := by
  obtain ⟨m, hm, hall⟩ := canonical_pushAll h
  refine ⟨m, hm, hall [name.octets] (by simp) ?_ ?_⟩
  · intro other hmem
    rw [List.mem_singleton.1 hmem]
    exact name.isName
  · intro other hmem
    rw [List.mem_singleton.1 hmem]
    exact name.sound.2.2.2.2

/-- An entry that is no link is found below the path of its directory, if the directory may be searched
and the path of the place is short enough. -/
theorem canonical_entry {p : Bytes} {s : Spot} {access : Access} {entries : List DirEntry}
    {e : DirEntry} (h : t.canonical p = .ok s) (hs : t.entriesAt s = .ok (access, entries))
    (hfind : find? entries e.name.octets = some e) (hnode : t.targetOf? e.node = none) :
    t.canonical (Path.push p e.name.octets) =
      if (Path.push s.path e.name.octets).length ≥ pathLimit then .error .nameTooLong
      else if access.search then .ok (s.into e.name e.node)
      else .error .denied := by
  obtain ⟨m, -, hpush⟩ := canonical_push h e.name
  rw [hpush, walk_name rfl]
  by_cases hlimit : (Path.push s.path e.name.octets).length ≥ pathLimit
  · simp only [lookupAlong, Bool.not_true, Bool.false_eq_true, if_false, hlimit, if_true]
    rfl
  · have hlook : t.lookupAlong ⟨true, true⟩ s e.name.octets [] = t.lookup s e.name.octets :=
      lookupAlong_of_lookup fun _ => ⟨by omega, rfl⟩
    rw [hlook, lookup_of_entriesAt hs, if_neg hlimit, hfind]
    cases access.search with
    | false => rfl
    | true => simp [hnode, walk_nil, Except.bind, Landing.spot]

theorem canonical_vacant {p : Bytes} {s : Spot} {access : Access} {entries : List DirEntry}
    {name : FileName} (h : t.canonical p = .ok s) (hs : t.entriesAt s = .ok (access, entries))
    (hfind : find? entries name.octets = none) :
    ∃ fault, t.canonical (Path.push p name.octets) = .error fault := by
  obtain ⟨m, -, hpush⟩ := canonical_push h name
  rw [hpush, walk_name rfl]
  by_cases hlimit : (Path.push s.path name.octets).length ≥ pathLimit
  · exact ⟨.nameTooLong, by simp [lookupAlong, hlimit, Except.bind]⟩
  · have hlook : t.lookupAlong ⟨true, true⟩ s name.octets [] = t.lookup s name.octets :=
      lookupAlong_of_lookup fun _ => ⟨by omega, rfl⟩
    rw [hlook, lookup_of_entriesAt hs, hfind]
    cases access.search with
    | false => exact ⟨.denied, rfl⟩
    | true => exact ⟨.noEntry, rfl⟩

theorem Settled.reach_push {s : Spot} (h : t.Settled s) (name : FileName)
    (hlen : (Path.push s.path name.octets).length < pathLimit) :
    t.reach (Path.push s.path name.octets) =
      (t.walk ⟨true, false⟩ linkLimit s [.into name.octets]).bind Landing.spot := by
  have hnul := name.nul_not_mem_push s.nul_not_mem_path
  have hstart : startOf t.workingDirectory (Path.push s.path name.octets) = .root := by
    simp only [startOf, Path.isAbsolute_push s.path_ne_nil, s.isAbsolute_path, if_true]
  have hwalk := h.walk_names (g := ⟨true, false⟩) linkLimit [.into name.octets] (by simp)
  have hcheck : checkLength (Path.push s.path name.octets) = .ok () := by
    simp [checkLength, hnul, Nat.not_le.2 hlen]
  rw [reach, land, hcheck, Except.bind, landWith_eq (Path.push_ne_nil s.path_ne_nil _) hnul, hstart,
    Hop.ofPath_push s.path_ne_nil name.isName, Spot.segments_path]
  exact congrArg (·.bind Landing.spot) hwalk

end IsolatedSite.FileTree
