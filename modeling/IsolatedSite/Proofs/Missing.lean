import Mathlib.Control.Monad.Basic
import IsolatedSite.Proofs.Search
import IsolatedSite.Proofs.Spelling

namespace IsolatedSite

namespace FileTree

def entryAt? (t : FileTree) (s : Spot) (name : Bytes) : Option DirEntry :=
  match t.entriesAt s with
  | .ok (_, entries) => find? entries name
  | .error _ => none

def enter? (t : FileTree) (s : Spot) (name : Bytes) (hops : List Hop) : Option (Spot × List Hop) :=
  (t.entryAt? s name).map fun entry =>
    match t.targetOf? entry.node with
    | some target => (startOf s target, Hop.ofPath target ++ hops)
    | none => (s.into entry.name entry.node, hops)

/-- Hops denote a place: every name on the way is there, and dots and slashes follow directories. -/
inductive Denotes (t : FileTree) : Spot → List Hop → Spot → Prop
  | ends {s} : Denotes t s [] s
  | slash {s hops r} (hd : t.HoldsEntries s) (h : Denotes t s hops r) :
      Denotes t s (.directory :: hops) r
  | stay {s hops r} (hd : t.HoldsEntries s) (h : Denotes t s hops r) : Denotes t s (.stay :: hops) r
  | up {s hops r} (hd : t.HoldsEntries s) (h : Denotes t s.up hops r) : Denotes t s (.up :: hops) r
  | name {s name hops s' hops' r} (hin : t.enter? s name hops = some (s', hops'))
      (h : Denotes t s' hops' r) : Denotes t s (.into name :: hops) r

/-- A name that cannot be looked up: it is too long, or its path is, or its path is with the slash that
follows it. -/
inductive TooLong (t : FileTree) (s : Spot) (name : Bytes) (hops : List Hop) : Prop
  | name (hd : t.HoldsEntries s) (h : 255 < name.length)
  | path (h : pathLimit ≤ (Path.push s.path name).length)
  | slashed (hask : Hop.askDirectory hops = true) (h : pathLimit ≤ (Path.push s.path name).length + 1)
      (hno : ∀ entry, t.entryAt? s name = some entry → t.targetOf? entry.node = none)

/-- Hops lead to a name that is too long. The path is spelled out before the tree is asked, so dots and
slashes on the way there need no directory, except that going up was asked for as one. -/
inductive Overlong (t : FileTree) : Spot → List Hop → Prop
  | here {s name hops} (h : t.TooLong s name hops) : Overlong t s (.into name :: hops)
  | slash {s hops} (h : Overlong t s hops) : Overlong t s (.directory :: hops)
  | stay {s hops} (h : Overlong t s hops) : Overlong t s (.stay :: hops)
  | up {s hops} (hd : t.HoldsEntries s) (h : Overlong t s.up hops) : Overlong t s (.up :: hops)
  | name {s name hops s' hops'} (hin : t.enter? s name hops = some (s', hops'))
      (h : Overlong t s' hops') : Overlong t s (.into name :: hops)

/-- A tree whose root is a directory and whose directories may all be searched. -/
structure Open (t : FileTree) : Prop where
  root : t.HoldsEntries .root
  search : ∀ n ∈ t.nodes, n.content.isDirectory = true → n.access.search = true

variable {t : FileTree} {s r : Spot} {name : Bytes} {hops : List Hop} {entry : DirEntry}

theorem entryAt?_of_lookup (h : t.lookup s name = .ok (some entry)) :
    t.entryAt? s name = some entry := by
  obtain ⟨access, entries, hs, -, -, hfind⟩ := entriesAt_of_lookup h
  simp only [entryAt?, hs, hfind]

theorem enter?_into (h : t.entryAt? s name = some entry) (hnode : t.targetOf? entry.node = none) :
    t.enter? s name hops = some (s.into entry.name entry.node, hops) := by
  simp only [enter?, h, Option.map_some, hnode]

theorem enter?_link {target : Bytes} (h : t.entryAt? s name = some entry)
    (hnode : t.targetOf? entry.node = some target) :
    t.enter? s name hops = some (startOf s target, Hop.ofPath target ++ hops) := by
  simp only [enter?, h, Option.map_some, hnode]

theorem denotes_of_leads {j : Journey} {m : Nat} (hj : t.Ready j)
    (h : t.Leads ⟨true, true⟩ j ⟨m, r, []⟩) : t.Denotes j.spot j.hops r := by
  induction h using Relation.ReflTransGen.head_induction_on with
  | refl => exact .ends
  | @head j k hm hrest ih =>
      have hk := ih (hj.of_moves hm)
      have hlead := Relation.ReflTransGen.head hm hrest
      cases hm with
      | directory => exact .slash (hj.holdsEntries hlead) hk
      | stay => exact .stay (hj.holdsEntries hlead) hk
      | up => exact .up (hj.holdsEntries hlead) hk
      | into h hnode =>
          exact .name (enter?_into (entryAt?_of_lookup (lookup_of_lookupAlong h)) hnode) hk
      | link h hnode =>
          exact .name (enter?_link (entryAt?_of_lookup (lookup_of_lookupAlong h)) hnode) hk

theorem holdsEntries_of_overlong (h : t.Overlong s hops) (hask : Hop.askDirectory hops = true) :
    t.HoldsEntries s := by
  induction h with
  | here => cases hask
  | name => cases hask
  | up hd => exact hd
  | @slash s hops h ih | @stay s hops h ih =>
      have hne : hops.isEmpty = false := by
        cases h <;> rfl
      exact ih (by simpa [Hop.askDirectory, hne] using hask)

theorem entriesAt_error {e : Fault} (h : t.entriesAt s = .error e) :
    e = .noEntry ∨ e = .notDirectory := by
  unfold entriesAt at h
  split at h
  · cases h
  · cases h; exact Or.inr rfl
  · cases h; exact Or.inl rfl

theorem Open.search_of_entriesAt (ht : t.Open) {access : Access} {entries : List DirEntry}
    (h : t.entriesAt s = .ok (access, entries)) : access.search = true := by
  obtain ⟨modified, hn⟩ := entriesAt_eq_ok.1 h
  exact ht.search _ (List.mem_of_getElem? hn) rfl

theorem lookup_of_open (ht : t.Open) {access : Access} {entries : List DirEntry}
    (h : t.entriesAt s = .ok (access, entries)) :
    t.lookup s name = if 255 < name.length then .error .nameTooLong else .ok (t.entryAt? s name) := by
  simp only [lookup, entryAt?, h, ht.search_of_entriesAt h, Bool.not_true, Bool.false_eq_true,
    if_false]

theorem lookupAlong_of_tooLong (ht : t.Open) (h : t.TooLong s name hops) :
    t.lookupAlong ⟨true, true⟩ s name hops = .error .nameTooLong := by
  simp only [lookupAlong, Bool.not_true, Bool.false_eq_true, if_false]
  by_cases hlen : (Path.push s.path name).length ≥ pathLimit
  · rw [if_pos hlen]
  · rw [if_neg hlen]
    cases h with
    | path h => exact absurd h hlen
    | name hd h =>
        obtain ⟨access, entries, hs⟩ := hd
        rw [lookup_of_open ht hs, if_pos h]
        simp [checkSlashed]
    | slashed hask h hno =>
        rw [if_pos hask]
        unfold checkSlashed
        split
        · rw [if_pos h]
        · rw [if_pos h]
        · next entry hl =>
            have hnode := hno entry (entryAt?_of_lookup hl)
            split
            · next target _ _ hn => simp [targetOf?, hn] at hnode
            · rw [if_pos h]
            · rw [if_pos h]

inductive LooksUp (t : FileTree) (s : Spot) (name : Bytes) (hops : List Hop) :
    Except Fault (Option DirEntry) → Prop
  | fails {e} (he : e = .noEntry ∨ e = .notDirectory)
      (hno : ∀ entry, t.entryAt? s name = some entry → Hop.askDirectory hops = true ∧
        t.targetOf? entry.node = none ∧ ¬ t.HoldsEntries (s.into entry.name entry.node)) :
      LooksUp t s name hops (.error e)
  | absent (hno : t.entryAt? s name = none) : LooksUp t s name hops (.ok none)
  | present {found} (hin : t.entryAt? s name = some found) : LooksUp t s name hops (.ok (some found))

theorem directory_of_holdsEntries (h : t.HoldsEntries s) :
    ∃ entries access modified, t.node? s.node = some ⟨.directory entries, access, modified⟩ := by
  obtain ⟨access, entries, hs⟩ := h
  obtain ⟨modified, hn⟩ := entriesAt_eq_ok.1 hs
  exact ⟨entries, access, modified, hn⟩

theorem LooksUp.slashed {length : Nat} {found : Except Fault (Option DirEntry)}
    (h : t.LooksUp s name hops found) (hask : Hop.askDirectory hops = true)
    (hlen : (∀ entry, t.entryAt? s name = some entry → t.targetOf? entry.node = none) →
      ¬ length ≥ pathLimit) : t.LooksUp s name hops (t.checkSlashed length found) := by
  cases h with
  | fails he hno =>
      rw [checkSlashed, if_neg (hlen fun entry hin => (hno entry hin).2.1)]
      exact .fails he hno
  | absent hno =>
      rw [checkSlashed, if_neg (hlen (by simp [hno]))]
      exact .absent hno
  | @present entry hin =>
      have hsome : ∀ other, t.entryAt? s name = some other → other = entry := fun other hother =>
        Option.some.inj (hother.symm.trans hin)
      simp only [checkSlashed]
      split
      · exact .present hin
      · next hn =>
          have hnode : t.targetOf? entry.node = none := by simp only [targetOf?, hn]
          rw [if_neg (hlen fun other hother => hsome other hother ▸ hnode)]
          exact .present hin
      · next hlink hdir =>
          have hnode : t.targetOf? entry.node = none := by
            unfold targetOf?
            split
            · next hn => exact absurd hn (hlink _ _ _)
            · rfl
          rw [if_neg (hlen fun other hother => hsome other hother ▸ hnode)]
          refine .fails (Or.inr rfl) fun other hother => ?_
          cases hsome other hother
          refine ⟨hask, hnode, fun hd => ?_⟩
          obtain ⟨entries, access, modified, hn⟩ := directory_of_holdsEntries hd
          exact hdir entries access modified hn

theorem looksUp_of_fits (ht : t.Open) (h : ¬ t.TooLong s name hops) :
    t.LooksUp s name hops (t.lookupAlong ⟨true, true⟩ s name hops) := by
  have hlen : ¬ (Path.push s.path name).length ≥ pathLimit := fun hlen => h (.path hlen)
  have hlookup : t.LooksUp s name hops (t.lookup s name) := by
    cases hs : t.entriesAt s with
    | error e =>
        have hentry : t.entryAt? s name = none := by simp only [entryAt?, hs]
        have hl : t.lookup s name = .error e := by simp only [lookup, hs]
        rw [hl]
        exact .fails (entriesAt_error hs) (by simp [hentry])
    | ok found =>
        obtain ⟨access, entries⟩ := found
        have hshort : ¬ 255 < name.length := fun hlong => h (.name ⟨access, entries, hs⟩ hlong)
        rw [lookup_of_open ht hs, if_neg hshort]
        cases hentry : t.entryAt? s name with
        | none => exact .absent hentry
        | some entry => exact .present hentry
  simp only [lookupAlong, Bool.not_true, Bool.false_eq_true, if_false, hlen]
  split
  · next hask => 
      exact hlookup.slashed hask fun hno hlong => h (.slashed hask hlong hno)
  · exact hlookup

inductive Verdict (t : FileTree) (s : Spot) (hops : List Hop) : Except Fault Landing → Prop
  | found {place} : Verdict t s hops (.ok (.found place))
  | vacant {dir last} (h : ¬ t.Overlong s hops) : Verdict t s hops (.ok (.vacant dir last))
  | lost {e} (he : e = .noEntry ∨ e = .notDirectory) (h : ¬ t.Overlong s hops) :
      Verdict t s hops (.error e)
  | overlong (h : t.Overlong s hops) : Verdict t s hops (.error .nameTooLong)
  | linkLoop : Verdict t s hops (.error .linkLoop)

theorem Verdict.congr {s' : Spot} {hops' : List Hop} {result : Except Fault Landing}
    (h : t.Verdict s hops result) (hiff : t.Overlong s' hops' ↔ t.Overlong s hops) :
    t.Verdict s' hops' result := by
  cases h with
  | found => exact .found
  | vacant h => exact .vacant (mt hiff.1 h)
  | lost he h => exact .lost he (mt hiff.1 h)
  | overlong h => exact .overlong (hiff.2 h)
  | linkLoop => exact .linkLoop

theorem overlong_directory_iff : t.Overlong s (.directory :: hops) ↔ t.Overlong s hops := by
  refine ⟨fun h => ?_, .slash⟩
  cases h with
  | slash h => exact h

theorem overlong_stay_iff : t.Overlong s (.stay :: hops) ↔ t.Overlong s hops := by
  refine ⟨fun h => ?_, .stay⟩
  cases h with
  | stay h => exact h

theorem overlong_up_iff (hd : t.HoldsEntries s) :
    t.Overlong s (.up :: hops) ↔ t.Overlong s.up hops := by
  refine ⟨fun h => ?_, .up hd⟩
  cases h with
  | up _ h => exact h

theorem overlong_name_iff {s' : Spot} {hops' : List Hop} (hfit : ¬ t.TooLong s name hops)
    (hin : t.enter? s name hops = some (s', hops')) :
    t.Overlong s (.into name :: hops) ↔ t.Overlong s' hops' := by
  refine ⟨fun h => ?_, .name hin⟩
  cases h with
  | here h => exact absurd h hfit
  | name hin' h =>
      cases hin.symm.trans hin'
      exact h

theorem not_overlong_of_fails (hfit : ¬ t.TooLong s name hops)
    (hno : ∀ entry, t.entryAt? s name = some entry → Hop.askDirectory hops = true ∧
      t.targetOf? entry.node = none ∧ ¬ t.HoldsEntries (s.into entry.name entry.node)) :
    ¬ t.Overlong s (.into name :: hops) := by
  intro h
  cases h with
  | here h => exact hfit h
  | name hin h =>
      obtain ⟨entry, hentry, -⟩ := Option.map_eq_some_iff.1 hin
      obtain ⟨hask, hnode, hfile⟩ := hno entry hentry
      cases (enter?_into hentry hnode).symm.trans hin
      -- What follows the name asks for a directory, and goes up from it before any other name.
      exact hfile (holdsEntries_of_overlong h hask)

/-- A walk in an open tree ends at a node, runs out of links, meets a name that is too long, or misses
an entry or a directory before it meets one. -/
theorem verdict_walk (ht : t.Open) {n : Nat} (hj : t.Ready ⟨n, s, hops⟩) :
    t.Verdict s hops (t.walk ⟨true, true⟩ n s hops) := by
  -- A link takes one from the links that are left and may add hops; all else takes away a hop.
  induction n using Nat.strongRecOn generalizing s hops with
  | ind n ihn =>
      induction hops generalizing s with
      | nil =>
          rw [walk_nil]
          exact .found
      | cons hop hops ih =>
          cases hop with
          | directory =>
              rw [walk_directory]
              exact (ih (hj.of_moves (.directory rfl))).congr overlong_directory_iff
          | stay =>
              rw [walk_stay]
              exact (ih (hj.of_moves (.stay rfl))).congr overlong_stay_iff
          | up =>
              rw [walk_up]
              exact (ih (hj.of_moves (.up rfl))).congr (overlong_up_iff (hj.2 rfl))
          | into name =>
              rw [walk_name rfl]
              by_cases hfit : t.TooLong s name hops
              · rw [lookupAlong_of_tooLong ht hfit]
                exact .overlong (.here hfit)
              · have hlook := looksUp_of_fits ht hfit
                generalize hl : t.lookupAlong ⟨true, true⟩ s name hops = found at hlook
                cases hlook with
                | fails he hno => exact .lost he (not_overlong_of_fails hfit hno)
                | absent hno =>
                    have hover := not_overlong_of_fails hfit (by simp [hno])
                    cases hops with
                    | nil => exact .vacant hover
                    | cons next hops => exact .lost (Or.inl rfl) hover
                | @present entry hin =>
                    cases hnode : t.targetOf? entry.node with
                    | none =>
                        simp only [hnode]
                        exact (ih (hj.of_moves (.into hl hnode))).congr
                          (overlong_name_iff hfit (enter?_into hin hnode))
                    | some target =>
                        simp only [hnode]
                        cases n with
                        | zero => exact .linkLoop
                        | succ n =>
                            exact (ihn n (Nat.lt_succ_self n) (hj.of_moves (.link hl hnode))).congr
                              (overlong_name_iff hfit (enter?_link hin hnode))

theorem denotes_name_iff {s' : Spot} {hops' : List Hop}
    (hin : t.enter? s name hops = some (s', hops')) :
    t.Denotes s (.into name :: hops) r ↔ t.Denotes s' hops' r := by
  refine ⟨fun h => ?_, .name hin⟩
  cases h with
  | name hin' h =>
      cases hin.symm.trans hin'
      exact h

theorem enter?_eq_none (h : ∀ other : FileName, other.octets ≠ name) :
    t.enter? s name hops = none := by
  have hentry : t.entryAt? s name = none := by
    unfold entryAt?
    split
    · exact List.find?_eq_none.2 fun entry _ => by simpa using h entry.name
    · rfl
  simp only [enter?, hentry, Option.map_none]

theorem not_denotes_of_enter? (h : t.enter? s name hops = none) (place : Spot) :
    ¬ t.Denotes s (.into name :: hops) place := by
  intro hd
  cases hd with
  | name hin _ =>
      rw [h] at hin
      cases hin

/-- A path that denotes no place of the tree. -/
def Nowhere (t : FileTree) (p : Bytes) : Prop :=
  ∀ place, ¬ t.Denotes (startOf t.workingDirectory p) (Hop.ofPath p) place

theorem nowhere_of_absent (hhops : Hop.ofPath (Path.slash :: name) = [.into name])
    (hno : t.enter? .root name [] = none) : t.Nowhere (Path.slash :: name) := by
  intro place
  rw [hhops]
  exact not_denotes_of_enter? hno place

theorem nowhere_of_absent_behind {p behind : Bytes} {rest : List Hop} (hp : Path.isAbsolute p = true)
    (hhops : Hop.ofPath p = .into name :: hops)
    (hin : t.enter? .root name hops = some (s, .into behind :: rest))
    (hno : t.enter? s behind rest = none) : t.Nowhere p := by
  intro place
  rw [startOf, hp, if_pos rfl, hhops, denotes_name_iff hin]
  exact not_denotes_of_enter? hno place

/-- A path that leads to a name that is too long. One with a NUL octet is never looked up. -/
def Barred (t : FileTree) (p : Bytes) : Prop :=
  0 ∉ p ∧ t.Overlong (startOf t.workingDirectory p) (Hop.ofPath p)

theorem canonical_of_nowhere (ht : t.Open) {p : Bytes} (hp : Path.isAbsolute p = true)
    (hno : t.Nowhere p) (hlinks : t.canonical p ≠ .error .linkLoop) :
    t.canonical p = .error .nameTooLong ∧ t.Barred p ∨
      ∃ fault ∈ [Fault.nulInPath, .noEntry, .notDirectory],
        t.canonical p = .error fault ∧ ¬ t.Barred p := by
  by_cases h0 : 0 ∈ p
  · exact Or.inr ⟨.nulInPath, by simp, canonical_of_nul h0, fun hbarred => hbarred.1 h0⟩
  · have hstart : startOf t.workingDirectory p = .root := by
      simp only [startOf, hp, if_true]
    have hready : t.Ready ⟨linkLimit, startOf t.workingDirectory p, Hop.ofPath p⟩ := by
      rw [hstart]
      exact ⟨.root, fun _ => ht.root⟩
    have hverdict := verdict_walk ht hready
    rw [canonical, landWith_eq (Path.ne_nil_of_isAbsolute hp) h0] at hlinks ⊢
    generalize hw : t.walk ⟨true, true⟩ linkLimit (startOf t.workingDirectory p) (Hop.ofPath p) =
      result at hverdict hlinks ⊢
    cases hverdict with
    | @found place =>
        obtain ⟨m, hlead⟩ := exists_leads rfl hw
        exact absurd (denotes_of_leads hready hlead) (hno place)
    | vacant h => exact Or.inr ⟨.noEntry, by simp, rfl, fun hbarred => h hbarred.2⟩
    | @lost e he h =>
        refine Or.inr ⟨e, ?_, rfl, fun hbarred => h hbarred.2⟩
        rcases he with rfl | rfl <;> simp
    | overlong h => exact Or.inl ⟨rfl, h0, h⟩
    | linkLoop => exact absurd rfl hlinks

end FileTree

namespace Site

variable {t : FileTree} {site : Site} {req : Request}

theorem answer_of_canonical_error {candidate : Bytes} {top : Spot} {fault : Fault}
    (hm : req.method = .get ∨ req.method = .head) (htop : t.canonical site.root = .ok top)
    (hres : resolve site.root req.target.path = .ok candidate)
    (hfault : t.canonical candidate = .error fault) :
    ∃ reply, answer t site req = .answered reply ∧
      reply.response.status = (Refusal.ofFault fault).status := by
  have hlocate : locate t site.root req.target.path =
      .error ⟨.ofFault fault, confineNotices site.root req.target.path (.ofFault fault)⟩ := by
    simp only [locate, hres, confine, htop, hfault]
  exact answer_of_refused hm hlocate

/-- A path that denotes nothing is answered as not found, unless a name on its way is too long: that is
answered as a fault of the server. -/
theorem missing_path_answered {candidate : Bytes} {top : Spot} (ht : t.Open)
    (hroot : Path.isAbsolute site.root = true) (htop : t.canonical site.root = .ok top)
    (hm : req.method = .get ∨ req.method = .head)
    (hres : resolve site.root req.target.path = .ok candidate) (hno : t.Nowhere candidate)
    (hlinks : t.canonical candidate ≠ .error .linkLoop) :
    ∃ reply, answer t site req = .answered reply ∧
      (reply.response.status = .notFound ∧ ¬ t.Barred candidate ∨
        reply.response.status = .internalServerError ∧ t.Barred candidate) := by
  have habs := isAbsolute_of_resolve hroot hres
  rcases FileTree.canonical_of_nowhere ht habs hno hlinks with
    ⟨hfault, hbarred⟩ | ⟨fault, hmem, hfault, hbarred⟩
  · obtain ⟨reply, hreply, hstatus⟩ := answer_of_canonical_error hm htop hres hfault
    exact ⟨reply, hreply, Or.inr ⟨hstatus, hbarred⟩⟩
  · obtain ⟨reply, hreply, hstatus⟩ := answer_of_canonical_error hm htop hres hfault
    refine ⟨reply, hreply, Or.inl ⟨?_, hbarred⟩⟩
    rw [hstatus]
    simp only [List.mem_cons, List.not_mem_nil, or_false] at hmem
    rcases hmem with rfl | rfl | rfl <;> rfl

def sparseTree : FileTree where
  nodes :=
    [⟨.directory [⟨⟨Utf8.octets "page", Eq.refl true⟩, 1⟩, ⟨⟨Utf8.octets "lost", Eq.refl true⟩, 2⟩],
        .forDirectories, ⟨4, 0⟩⟩,
      ⟨.file (Utf8.octets "text"), .forFiles, ⟨4, 0⟩⟩,
      ⟨.link (Utf8.octets "nothing"), .forDirectories, ⟨4, 0⟩⟩]
  workingDirectory := .root
  sound := by decide

def sparseSite : Site := ⟨Utf8.octets "/", .builtIn, "sparse"⟩

theorem sparseTree_open : sparseTree.Open := ⟨⟨_, _, rfl⟩, by decide⟩

theorem sparseTree_canonical_root : sparseTree.canonical sparseSite.root = .ok .root := by
  decide +kernel

theorem missing_path_answered_sparseTree :
    ofSettings (Utf8.octets "/") (settingsFor "." "sparse") = .ok sparseSite ∧
    ((answer sparseTree sparseSite (requestFor .head "/lost")).sent?.map Response.status =
        some .notFound ∧ ¬ sparseTree.Barred (Utf8.octets "/lost")) ∧
    ((answer sparseTree sparseSite (requestFor .get "/page/text")).sent?.map Response.status =
        some .notFound ∧ ¬ sparseTree.Barred (Utf8.octets "/page/text")) ∧
    (answer sparseTree sparseSite (requestFor .get "/%00")).sent?.map Response.status =
        some .notFound ∧ ¬ sparseTree.Barred [Path.slash, 0] := by
  have hsite : ofSettings (Utf8.octets "/") (settingsFor "." "sparse") = .ok sparseSite := rfl
  have habs := isAbsolute_of_ofSettings rfl hsite
  have hfree : ∀ {o : Outcome} {barred : Prop}, o.sent?.map Response.status = some .notFound →
      (∃ reply, o = .answered reply ∧ (reply.response.status = .notFound ∧ ¬ barred ∨
        reply.response.status = .internalServerError ∧ barred)) → ¬ barred := by
    rintro o barred hstatus ⟨reply, rfl, ⟨-, h⟩ | ⟨h, -⟩⟩
    · exact h
    · cases h.symm.trans (Option.some.inj hstatus)
  refine ⟨hsite, ⟨by decide +kernel, ?_⟩, ⟨by decide +kernel, ?_⟩, by decide +kernel, ?_⟩
  · have hres : resolve sparseSite.root (requestFor .head "/lost").target.path =
        .ok (Utf8.octets "/lost") := by decide +kernel
    have hin : sparseTree.enter? .root (Utf8.octets "lost") [] =
        some (.root, [.into (Utf8.octets "nothing")]) := by decide +kernel
    have hno : sparseTree.Nowhere (Utf8.octets "/lost") :=
      FileTree.nowhere_of_absent_behind (by decide) (by decide +kernel) hin (by decide +kernel)
    exact hfree (by decide +kernel) (missing_path_answered sparseTree_open habs
      sparseTree_canonical_root (Or.inr rfl) hres hno (by decide +kernel))
  · have hres : resolve sparseSite.root (requestFor .get "/page/text").target.path =
        .ok (Utf8.octets "/page/text") := by decide +kernel
    have hin : sparseTree.enter? .root (Utf8.octets "page") [.into (Utf8.octets "text")] =
        some (Spot.root.into ⟨Utf8.octets "page", by decide⟩ 1, [.into (Utf8.octets "text")]) := by
      decide +kernel
    have hno : sparseTree.Nowhere (Utf8.octets "/page/text") :=
      FileTree.nowhere_of_absent_behind (by decide) (by decide +kernel) hin (by decide +kernel)
    exact hfree (by decide +kernel) (missing_path_answered sparseTree_open habs
      sparseTree_canonical_root (Or.inl rfl) hres hno (by decide +kernel))
  · have hres : resolve sparseSite.root (requestFor .get "/%00").target.path =
        .ok [Path.slash, 0] := by decide +kernel
    have hno : sparseTree.Nowhere [Path.slash, 0] :=
      FileTree.nowhere_of_absent (by decide +kernel) (by decide +kernel)
    exact hfree (by decide +kernel) (missing_path_answered sparseTree_open habs
      sparseTree_canonical_root (Or.inl rfl) hres hno (by decide +kernel))

def longPath (count : Nat) : String := String.ofList ('/' :: List.replicate count 'n')

theorem octets_longPath (count : Nat) :
    Utf8.octets (longPath count) = Path.slash :: List.replicate count 110 := by
  rw [longPath, Utf8.octets_ofList, Utf8.encode, List.flatMap_cons, List.flatMap_replicate]
  exact congrArg (Path.slash :: ·) List.flatten_replicate_singleton

/-- A name that is too long is the name of nothing, and still it is answered as a fault of the
server. -/
theorem missing_path_unreadable :
    ∃ candidate, resolve sparseSite.root (longPath 256) = .ok candidate ∧
      sparseTree.Nowhere candidate ∧
      ∃ reply, answer sparseTree sparseSite (requestFor .get (longPath 256)) = .answered reply ∧
        reply.response.status = .internalServerError := by
  have hres : resolve sparseSite.root (requestFor .get (longPath 256)).target.path =
      .ok (Path.slash :: List.replicate 256 110) := by
    change resolve sparseSite.root (longPath 256) = _
    rw [resolve, octets_longPath]
    decide +kernel
  have hfault : sparseTree.canonical (Path.slash :: List.replicate 256 110) = .error .nameTooLong := by
    decide +kernel
  refine ⟨_, hres, FileTree.nowhere_of_absent (by decide +kernel) (FileTree.enter?_eq_none ?_), ?_⟩
  · intro other hother
    have hlen := other.sound.2.2.1
    rw [hother, List.length_replicate] at hlen
    omega
  · exact answer_of_canonical_error (Or.inl rfl) sparseTree_canonical_root hres hfault

end Site

end IsolatedSite
