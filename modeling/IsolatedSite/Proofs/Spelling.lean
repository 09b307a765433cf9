import Mathlib.Control.Monad.Basic
import IsolatedSite.Proofs.Candidate
import IsolatedSite.Proofs.Confinement

namespace IsolatedSite

namespace FileTree

variable {t : FileTree} {g : Gait}

theorem walkWith_congr {jump jump' : Spot → List Hop → Except Fault Landing}
    (hjump : ∀ s hops, jump s hops ≠ .error .linkLoop → jump' s hops = jump s hops) {s : Spot}
    {hops : List Hop} (h : t.walkWith g jump s hops ≠ .error .linkLoop) :
    t.walkWith g jump' s hops = t.walkWith g jump s hops := by
  induction hops generalizing s with
  | nil => rfl
  | cons hop hops ih =>
      cases hop with
      | directory =>
          simp only [walkWith] at h ⊢
          cases hp : t.passSlash g s with
          | error e => rfl
          | ok _ =>
              rw [hp] at h
              exact ih h
      | stay | up =>
          simp only [walkWith] at h ⊢
          cases hp : t.passDots g s with
          | error e => rfl
          | ok _ =>
              rw [hp] at h
              exact ih h
      | into name =>
          simp only [walkWith] at h ⊢
          cases hl : t.lookupAlong g s name hops with
          | error e => rfl
          | ok found =>
              cases found with
              | none => rfl
              | some entry =>
                  rw [hl] at h
                  cases hnode : t.targetOf? entry.node with
                  | none =>
                      simp only [hnode] at h ⊢
                      exact ih h
                  | some target =>
                      simp only [hnode] at h ⊢
                      by_cases hlast : (hops.isEmpty && !g.follow) = true
                      · rw [if_pos hlast, if_pos hlast]
                      · rw [if_neg hlast] at h
                        rw [if_neg hlast, if_neg hlast]
                        exact hjump _ _ h

theorem walk_of_more_links {n m : Nat} (hle : n ≤ m) {s : Spot} {hops : List Hop}
    (h : t.walk g n s hops ≠ .error .linkLoop) : t.walk g m s hops = t.walk g n s hops := by
  induction n generalizing m s hops with
  | zero =>
      cases m with
      | zero => rfl
      | succ m => exact walkWith_congr (fun _ _ hloop => absurd rfl hloop) h
  | succ n ih =>
      cases m with
      | zero => exact absurd hle (Nat.not_succ_le_zero n)
      | succ m =>
          exact walkWith_congr (fun _ _ hjump => ih (Nat.le_of_succ_le_succ hle) hjump) h

theorem walk_of_links {n m : Nat} {s : Spot} {hops : List Hop}
    (hn : t.walk g n s hops ≠ .error .linkLoop) (hm : t.walk g m s hops ≠ .error .linkLoop) :
    t.walk g n s hops = t.walk g m s hops := by
  rcases Nat.le_total n m with hle | hle
  · exact (walk_of_more_links hle hn).symm
  · exact walk_of_more_links hle hm

theorem canonical_of_nul {p : Bytes} (h : 0 ∈ p) : t.canonical p = .error .nulInPath := by
  simp [canonical, landWith, h, Except.bind]

theorem bind_spot_ne {x : Except Fault Landing} {e : Fault} (h : x.bind Landing.spot ≠ .error e) :
    x ≠ .error e := by
  rintro rfl
  exact h rfl

theorem canonical_pushAll_congr {p q : Bytes} {s : Spot} (hp : t.canonical p = .ok s)
    (hq : t.canonical q = .ok s) {names : List Bytes} (hnames : ∀ name ∈ names, Path.IsName name)
    (hlinks : t.canonical (Path.pushAll p names) ≠ .error .linkLoop)
    (hlinks' : t.canonical (Path.pushAll q names) ≠ .error .linkLoop) :
    t.canonical (Path.pushAll p names) = t.canonical (Path.pushAll q names) := by
  by_cases hnul : ∃ name ∈ names, (0 : UInt8) ∈ name
  · have hmem : ∀ base : Bytes, (0 : UInt8) ∈ Path.pushAll base names := fun base =>
      (Path.mem_pushAll (by decide) names).2 (Or.inr hnul)
    rw [canonical_of_nul (hmem p), canonical_of_nul (hmem q)]
  by_cases hnil : names = []
  · rw [hnil, Path.pushAll_nil, Path.pushAll_nil, hp, hq]
  have hfree : ∀ name ∈ names, (0 : UInt8) ∉ name := fun name hmem h0 => hnul ⟨name, hmem, h0⟩
  obtain ⟨m, -, hall⟩ := canonical_pushAll hp
  obtain ⟨m', -, hall'⟩ := canonical_pushAll hq
  rw [hall names hnil hnames hfree] at hlinks ⊢
  rw [hall' names hnil hnames hfree] at hlinks' ⊢
  rw [walk_of_links (bind_spot_ne hlinks) (bind_spot_ne hlinks')]

end FileTree

namespace Site

def triedIndexes (t : FileTree) (root candidate : Bytes) : List Bytes → List Bytes
  | [] => []
  | name :: names =>
    Path.push candidate name ::
      if (indexFile? t root candidate [name]).isSome then []
      else triedIndexes t root candidate names

/-- The paths below a root that are followed for a request. -/
def followed (t : FileTree) (root : Bytes) (req : Request) : List Bytes :=
  if req.method = .get ∨ req.method = .head then
    match resolve root req.target.path with
    | .error _ => []
    | .ok candidate =>
      candidate ::
        match (confine t root candidate).bind (contentAt t) with
        | .ok (.directory _) =>
          if endsInSlash req.target.path then triedIndexes t root candidate indexNames else []
        | _ => []
  else []

/-- What is found under two paths, of which only the extensions count. -/
inductive FoundAlike : Found → Found → Prop
  | needsSlash (place : Spot) : FoundAlike (.needsSlash place) (.needsSlash place)
  | listing (place : Spot) : FoundAlike (.listing place) (.listing place)
  | file {p q : Bytes} (place : Spot) (h : Path.extension? p = Path.extension? q) :
      FoundAlike (.file p place) (.file q place)

variable {t : FileTree} {root other c d : Bytes} {top : Spot}

theorem confine_congr (hroot : t.canonical root = .ok top) (hother : t.canonical other = .ok top)
    (h : t.canonical c = t.canonical d) : confine t root c = confine t other d := by
  simp only [confine, hroot, hother, h]

theorem indexFile?_cons (root c name : Bytes) (names : List Bytes) :
    indexFile? t root c (name :: names) =
      (indexFile? t root c [name]).or (indexFile? t root c names) := by
  simp only [indexFile?]
  split
  · split <;> rfl
  · rfl

theorem indexFile?_one {name : Bytes}
    (h : confine t root (Path.push c name) = confine t other (Path.push d name)) :
    indexFile? t root c [name] = none ∧ indexFile? t other d [name] = none ∨
      ∃ place, indexFile? t root c [name] = some (Path.push c name, place) ∧
        indexFile? t other d [name] = some (Path.push d name, place) := by
  simp only [indexFile?, h]
  split
  · next place _ =>
      split
      · exact Or.inr ⟨place, rfl, rfl⟩
      · exact Or.inl ⟨rfl, rfl⟩
  · exact Or.inl ⟨rfl, rfl⟩

/-- Names below the two paths lead to the same places, if no links are missing. -/
def Twins (t : FileTree) (c d : Bytes) : Prop :=
  ∀ name, Path.IsName name → t.canonical (Path.push c name) ≠ .error .linkLoop →
    t.canonical (Path.push d name) ≠ .error .linkLoop →
      t.canonical (Path.push c name) = t.canonical (Path.push d name)

theorem indexFile?_twins (hroot : t.canonical root = .ok top) (hother : t.canonical other = .ok top)
    (htwins : Twins t c d) {names : List Bytes} (hnames : ∀ name ∈ names, Path.IsName name)
    (hlinks : ∀ p ∈ triedIndexes t root c names, t.canonical p ≠ .error .linkLoop)
    (hlinks' : ∀ p ∈ triedIndexes t other d names, t.canonical p ≠ .error .linkLoop) :
    indexFile? t root c names = none ∧ indexFile? t other d names = none ∨
      ∃ p q place, indexFile? t root c names = some (p, place) ∧
        indexFile? t other d names = some (q, place) ∧ Path.extension? p = Path.extension? q := by
  induction names with
  | nil => exact Or.inl ⟨rfl, rfl⟩
  | cons name names ih =>
      have hname := hnames name List.mem_cons_self
      have hsame := htwins name hname (hlinks _ List.mem_cons_self) (hlinks' _ List.mem_cons_self)
      rw [indexFile?_cons root, indexFile?_cons other]
      rcases indexFile?_one (confine_congr hroot hother hsame) with ⟨h, h'⟩ | ⟨place, h, h'⟩
      · rw [triedIndexes, h] at hlinks
        rw [triedIndexes, h'] at hlinks'
        rw [h, h']
        exact ih (fun name hmem => hnames name (List.mem_cons_of_mem _ hmem))
          (fun p hmem => hlinks p (List.mem_cons_of_mem _ hmem))
          (fun p hmem => hlinks' p (List.mem_cons_of_mem _ hmem))
      · rw [h, h']
        exact Or.inr ⟨_, _, place, rfl, rfl, Path.extension?_push c d hname⟩

theorem isName_of_mem_indexNames {name : Bytes} (h : name ∈ indexNames) : Path.IsName name := by
  rcases List.mem_cons.1 h with rfl | h
  · exact ⟨by decide, by decide, by decide⟩
  · rw [List.mem_singleton.1 h]
    exact ⟨by decide, by decide, by decide⟩

theorem twins_pushAll (hroot : t.canonical root = .ok top) (hother : t.canonical other = .ok top)
    {names : List Bytes} (hnames : ∀ name ∈ names, Path.IsName name) :
    Twins t (Path.pushAll root names) (Path.pushAll other names) := by
  intro name hname hlinks hlinks'
  rw [← Path.pushAll_append_singleton] at hlinks hlinks' ⊢
  rw [← Path.pushAll_append_singleton]
  refine FileTree.canonical_pushAll_congr hroot hother ?_ hlinks hlinks'
  intro name' hmem
  rcases List.mem_append.1 hmem with hmem | hmem
  · exact hnames name' hmem
  · rw [List.mem_singleton.1 hmem]
    exact hname

theorem extension?_pushAll {names : List Bytes} (hne : names ≠ [])
    (hnames : ∀ name ∈ names, Path.IsName name) :
    Path.extension? (Path.pushAll root names) = Path.extension? (Path.pushAll other names) := by
  rw [← List.dropLast_concat_getLast hne, Path.pushAll_append_singleton,
    Path.pushAll_append_singleton]
  exact Path.extension?_push _ _ (hnames _ (List.getLast_mem hne))

inductive ResultsAlike {ε : Type} : Except ε Found → Except ε Found → Prop
  | refused (e : ε) : ResultsAlike (.error e) (.error e)
  | found {f f' : Found} (h : FoundAlike f f') : ResultsAlike (.ok f) (.ok f')

theorem foundAt_twins (hroot : t.canonical root = .ok top) (hother : t.canonical other = .ok top)
    (htwins : Twins t c d) {path : String} {place : Spot}
    (hext : (∀ entries, contentAt t place ≠ .ok (.directory entries)) →
      Path.extension? c = Path.extension? d)
    (hlinks : ∀ entries, contentAt t place = .ok (.directory entries) → endsInSlash path = true →
      (∀ p ∈ triedIndexes t root c indexNames, t.canonical p ≠ .error .linkLoop) ∧
      ∀ p ∈ triedIndexes t other d indexNames, t.canonical p ≠ .error .linkLoop) :
    ResultsAlike (foundAt t root path c place) (foundAt t other path d place) := by
  unfold foundAt
  split
  · exact .refused _
  · next entries hc =>
      by_cases hend : endsInSlash path = true
      · obtain ⟨htried, htried'⟩ := hlinks entries hc hend
        rw [if_neg (by simp [hend]), if_neg (by simp [hend])]
        rcases indexFile?_twins hroot hother htwins (fun _ => isName_of_mem_indexNames) htried htried'
          with ⟨h, h'⟩ | ⟨p, q, index, h, h', hpq⟩
        · rw [h, h']
          exact .found (.listing place)
        · rw [h, h']
          exact .found (.file index hpq)
      · rw [if_pos (by simp [hend]), if_pos (by simp [hend])]
        exact .found (.needsSlash place)
  · next content hnot hc =>
      split
      · exact .refused _
      · exact .found (.file place (hext fun entries h => by
          rw [hc] at h
          cases h
          exact hnot entries rfl))

/-- A root that is there is not what a refusal is put down to, so the log is not told of it. -/
theorem confineNotices_congr (hroot : t.canonical root = .ok top) {refusal : Refusal}
    (h : confine t root c = .error refusal) (path : String) (other : Bytes) :
    confineNotices root path refusal = confineNotices other path refusal := by
  cases refusal with
  | badRequest | forbidden | notFound | unreadable => rfl
  | rootUnavailable fault =>
      simp only [confine, hroot] at h
      split at h
      · next e _ =>
          unfold Refusal.ofFault at h
          split at h <;> cases h
      · split at h <;> cases h

variable {site : Site} {req : Request}

theorem foundAt_respelled (hroot : t.canonical root = .ok top)
    (hother : t.canonical other = .ok top) {entries : List DirEntry}
    (hdir : contentAt t top = .ok (.directory entries)) {names : List Bytes}
    (hnames : ∀ name ∈ names, Path.IsName name) (path : String) {place : Spot}
    (hplace : confine t other (Path.pushAll other names) = .ok place)
    (hlinks : ∀ entries, contentAt t place = .ok (.directory entries) → endsInSlash path = true →
      (∀ p ∈ triedIndexes t root (Path.pushAll root names) indexNames,
        t.canonical p ≠ .error .linkLoop) ∧
      ∀ p ∈ triedIndexes t other (Path.pushAll other names) indexNames,
        t.canonical p ≠ .error .linkLoop) :
    ResultsAlike (foundAt t root path (Path.pushAll root names) place)
      (foundAt t other path (Path.pushAll other names) place) := by
  refine foundAt_twins hroot hother (twins_pushAll hroot hother hnames) ?_ hlinks
  intro hnot
  refine extension?_pushAll ?_ hnames
  -- With no names left the path stands for the root itself, which is a directory.
  rintro rfl
  obtain ⟨_, -, hself, -⟩ := confine_eq_ok.1 hplace
  cases hother.symm.trans hself
  exact hnot entries hdir

theorem locate_respelled (hroot : t.canonical root = .ok top) (hother : t.canonical other = .ok top)
    {entries : List DirEntry} (hdir : contentAt t top = .ok (.directory entries))
    (hm : req.method = .get ∨ req.method = .head)
    (hlinks : ∀ p ∈ followed t root req, t.canonical p ≠ .error .linkLoop)
    (hlinks' : ∀ p ∈ followed t other req, t.canonical p ≠ .error .linkLoop) :
    ResultsAlike (locate t root req.target.path) (locate t other req.target.path) := by
  rcases resolve_cases req.target.path with ⟨refusal, -, hres⟩ | ⟨hnames, hres⟩
  · simp only [locate, hres]
    exact .refused _
  · simp only [followed, if_pos hm, hres] at hlinks hlinks'
    have hsame := FileTree.canonical_pushAll_congr hroot hother hnames
      (hlinks _ List.mem_cons_self) (hlinks' _ List.mem_cons_self)
    have hconf := confine_congr hroot hother hsame
    rw [hconf] at hlinks
    simp only [locate, hres, hconf]
    cases hplace : confine t other (Path.pushAll other (named (segments req.target.path))) with
    | error refusal =>
        simp only [confineNotices_congr hother hplace req.target.path root]
        exact .refused _
    | ok place =>
        have halike := foundAt_respelled hroot hother hdir hnames req.target.path hplace
          fun entries hc hend => by
            simp only [hplace, Except.bind, hc, hend, if_true] at hlinks hlinks'
            exact ⟨fun p hmem => hlinks p (List.mem_cons_of_mem _ hmem),
              fun p hmem => hlinks' p (List.mem_cons_of_mem _ hmem)⟩
        dsimp only
        revert halike
        generalize foundAt t root _ _ place = x
        generalize foundAt t other _ _ place = y
        intro halike
        cases halike with
        | refused e => exact .refused _
        | found h => exact .found h

theorem serve_respelled (h : ResultsAlike (locate t site.root req.target.path)
    (locate t other req.target.path)) :
    serve t site req = serve t { site with root := other } req := by
  simp only [serve]
  revert h
  generalize locate t site.root _ = x
  generalize locate t other _ = y
  intro h
  cases h with
  | refused e => rfl
  | found h =>
      cases h with
      | needsSlash place | listing place => rfl
      | file place hext => simp only [fileOutcome, MediaTypes.forPath, hext]

/-- A request is answered alike, whichever path of the served directory is given as the root, as long
as no path that is followed for it takes too many links. -/
theorem answer_of_respelled_root {entries : List DirEntry}
    (hroot : t.canonical site.root = .ok top) (hother : t.canonical other = .ok top)
    (hdir : contentAt t top = .ok (.directory entries))
    (hlinks : ∀ p ∈ followed t site.root req ++ followed t other req,
      t.canonical p ≠ .error .linkLoop) :
    answer t site req = answer t { site with root := other } req := by
  have hdispatch : dispatch t site req = dispatch t { site with root := other } req := by
    by_cases hm : req.method = .get ∨ req.method = .head
    · rw [dispatch_eq_serve hm, dispatch_eq_serve hm]
      refine serve_respelled (locate_respelled hroot hother hdir hm ?_ ?_)
      · exact fun p hp => hlinks p (List.mem_append_left _ hp)
      · exact fun p hp => hlinks p (List.mem_append_right _ hp)
    · simp only [dispatch, if_neg hm]
  simp only [answer, hdispatch]

theorem answer_of_respelled_root_linkedTree :
    answer (linkedTree secretFile) linkedSite (requestFor .get "/") =
      answer (linkedTree secretFile) { linkedSite with root := Utf8.octets "//site/./docs/../" }
        (requestFor .get "/") ∧
    (answer (linkedTree secretFile) linkedSite (requestFor .get "/")).sent?.map
      (fun r => (r.status, r.body.transfer (linkedTree secretFile))) =
        some (.ok, ⟨Utf8.octets "hello", none⟩) := by
  have hdir : ∃ entries, contentAt (linkedTree secretFile)
      (Spot.root.into ⟨Utf8.octets "site", by decide⟩ 1) = .ok (.directory entries) := ⟨_, rfl⟩
  obtain ⟨entries, hdir⟩ := hdir
  constructor
  · exact answer_of_respelled_root (by decide +kernel) (by decide +kernel) hdir
      (by decide +kernel)
  · decide +kernel

end Site

end IsolatedSite
