import Mathlib.Logic.Relation
import IsolatedSite.Proofs.Place

namespace IsolatedSite

open Relation

/-- A walk under way: the links it may still follow, where it is, and the hops that are left. -/
structure Journey where
  links : Nat
  spot : Spot
  hops : List Hop

namespace FileTree

variable {t : FileTree} {g : Gait}

/-- One hop that succeeds. Links that end a path are followed. -/
inductive Moves (t : FileTree) (g : Gait) : Journey → Journey → Prop
  | directory {n s hops} (h : t.passSlash g s = .ok ()) :
      Moves t g ⟨n, s, .directory :: hops⟩ ⟨n, s, hops⟩
  | stay {n s hops} (h : t.passDots g s = .ok ()) : Moves t g ⟨n, s, .stay :: hops⟩ ⟨n, s, hops⟩
  | up {n s hops} (h : t.passDots g s = .ok ()) : Moves t g ⟨n, s, .up :: hops⟩ ⟨n, s.up, hops⟩
  | into {n s name hops entry} (h : t.lookupAlong g s name hops = .ok (some entry))
      (hnode : t.targetOf? entry.node = none) :
      Moves t g ⟨n, s, .into name :: hops⟩ ⟨n, s.into entry.name entry.node, hops⟩
  | link {n s name hops entry target} (h : t.lookupAlong g s name hops = .ok (some entry))
      (hnode : t.targetOf? entry.node = some target) :
      Moves t g ⟨n + 1, s, .into name :: hops⟩ ⟨n, startOf s target, Hop.ofPath target ++ hops⟩

abbrev Leads (t : FileTree) (g : Gait) : Journey → Journey → Prop := ReflTransGen (Moves t g)

def finish (t : FileTree) (g : Gait) (j : Journey) : Except Fault Landing :=
  t.walk g j.links j.spot j.hops

theorem walk_nil (n : Nat) (s : Spot) : t.walk g n s [] = .ok (.found s) := by
  cases n <;> rfl

theorem walk_directory (n : Nat) (s : Spot) (hops : List Hop) :
    t.walk g n s (.directory :: hops) =
      match t.passSlash g s with
      | .error e => .error e
      | .ok _ => t.walk g n s hops := by
  cases n <;> rfl

theorem walk_stay (n : Nat) (s : Spot) (hops : List Hop) :
    t.walk g n s (.stay :: hops) =
      match t.passDots g s with
      | .error e => .error e
      | .ok _ => t.walk g n s hops := by
  cases n <;> rfl

theorem walk_up (n : Nat) (s : Spot) (hops : List Hop) :
    t.walk g n s (.up :: hops) =
      match t.passDots g s with
      | .error e => .error e
      | .ok _ => t.walk g n s.up hops := by
  cases n <;> rfl

theorem walk_name (hf : g.follow = true) (n : Nat) (s : Spot) (name : Bytes) (hops : List Hop) :
    t.walk g n s (.into name :: hops) =
      match t.lookupAlong g s name hops with
      | .error e => .error e
      | .ok none => if hops.isEmpty then .ok (.vacant s name) else .error .noEntry
      | .ok (some entry) =>
        match t.targetOf? entry.node with
        | some target =>
          match n with
          | 0 => .error .linkLoop
          | n + 1 => t.walk g n (startOf s target) (Hop.ofPath target ++ hops)
        | none => t.walk g n (s.into entry.name entry.node) hops := by
  have hgoes : (hops.isEmpty && !g.follow) = false := by
    rw [hf]
    exact Bool.and_false _
  cases n with
  | zero =>
      rw [walk, walkWith, hgoes]
      rfl
  | succ n =>
      rw [walk, walkWith, hgoes]
      rfl

theorem walk_into {n : Nat} {s : Spot} {name : Bytes} {hops : List Hop} {entry : DirEntry}
    (h : t.lookupAlong g s name hops = .ok (some entry)) (hnode : t.targetOf? entry.node = none) :
    t.walk g n s (.into name :: hops) = t.walk g n (s.into entry.name entry.node) hops := by
  cases n <;> simp only [walk, walkWith, h, hnode]

theorem finish_of_moves (hf : g.follow = true) {j k : Journey} (h : t.Moves g j k) :
    t.finish g j = t.finish g k := by
  cases h with
  | directory h => simp only [finish, walk_directory, h]
  | stay h => simp only [finish, walk_stay, h]
  | up h => simp only [finish, walk_up, h]
  | into h hnode => simp only [finish, walk_name hf, h, hnode]
  | link h hnode => simp only [finish, walk_name hf, h, hnode]

theorem finish_of_leads (hf : g.follow = true) {j k : Journey} (h : t.Leads g j k) :
    t.finish g j = t.finish g k := by
  induction h with
  | refl => rfl
  | tail _ hm ih => rw [ih, finish_of_moves hf hm]

/-- Where a walk ends: no hops are left, or only a name that is not there. -/
inductive Ends (t : FileTree) (g : Gait) : Journey → Landing → Prop
  | found {n s} : Ends t g ⟨n, s, []⟩ (.found s)
  | vacant {n s name} (h : t.lookupAlong g s name [] = .ok none) :
      Ends t g ⟨n, s, [.into name]⟩ (.vacant s name)

/-- A walk that succeeds has come to its end or makes a move. The move leaves fewer links, or fewer
hops. -/
theorem exists_move (hf : g.follow = true) {n : Nat} {s : Spot} {landing : Landing} {hop : Hop}
    {hops : List Hop} (h : t.walk g n s (hop :: hops) = .ok landing) :
    t.Ends g ⟨n, s, hop :: hops⟩ landing ∨
      ∃ k, t.Moves g ⟨n, s, hop :: hops⟩ k ∧ (k.links < n ∨ k.links = n ∧ k.hops = hops) := by
  cases hop with
  | directory =>
      cases hp : t.passSlash g s with
      | error e => simp [walk_directory, hp] at h
      | ok u => exact Or.inr ⟨_, .directory hp, Or.inr ⟨rfl, rfl⟩⟩
  | stay =>
      cases hp : t.passDots g s with
      | error e => simp [walk_stay, hp] at h
      | ok u => exact Or.inr ⟨_, .stay hp, Or.inr ⟨rfl, rfl⟩⟩
  | up =>
      cases hp : t.passDots g s with
      | error e => simp [walk_up, hp] at h
      | ok u => exact Or.inr ⟨_, .up hp, Or.inr ⟨rfl, rfl⟩⟩
  | into name =>
      rw [walk_name hf] at h
      cases hl : t.lookupAlong g s name hops with
      | error e => simp [hl] at h
      | ok found =>
          cases found with
          | none =>
              cases hops with
              | nil =>
                  simp only [hl, List.isEmpty_nil, if_true, Except.ok.injEq] at h
                  subst h
                  exact Or.inl (.vacant hl)
              | cons next hops => simp [hl] at h
          | some entry =>
              cases hnode : t.targetOf? entry.node with
              | none => exact Or.inr ⟨_, .into hl hnode, Or.inr ⟨rfl, rfl⟩⟩
              | some target =>
                  cases n with
                  | zero => simp [hl, hnode] at h
                  | succ n => exact Or.inr ⟨_, .link hl hnode, Or.inl (Nat.lt_succ_self n)⟩

theorem exists_ends (hf : g.follow = true) {n : Nat} {s : Spot} {landing : Landing} {hops : List Hop}
    (h : t.walk g n s hops = .ok landing) :
    ∃ k, t.Leads g ⟨n, s, hops⟩ k ∧ t.Ends g k landing := by
  induction n using Nat.strongRecOn generalizing s hops with
  | ind n ihn =>
      induction hops generalizing s with
      | nil =>
          rw [walk_nil] at h
          cases h
          exact ⟨_, .refl, .found⟩
      | cons hop hops ih =>
          rcases exists_move hf h with hend | ⟨⟨n', s', hops'⟩, hmove, hless⟩
          · exact ⟨_, .refl, hend⟩
          · have hrest : t.walk g n' s' hops' = .ok landing := by
              rw [← h]
              exact (finish_of_moves hf hmove).symm
            have hends : ∃ k, t.Leads g ⟨n', s', hops'⟩ k ∧ t.Ends g k landing := by
              rcases hless with hlt | ⟨rfl, rfl⟩
              · exact ihn n' hlt hrest
              · exact ih hrest
            obtain ⟨k, hlead, hend⟩ := hends
            exact ⟨k, .head hmove hlead, hend⟩

theorem exists_leads (hf : g.follow = true) {n : Nat} {s r : Spot} {hops : List Hop}
    (h : t.walk g n s hops = .ok (.found r)) : ∃ m, t.Leads g ⟨n, s, hops⟩ ⟨m, r, []⟩ := by
  obtain ⟨k, hlead, hend⟩ := exists_ends hf h
  cases hend
  exact ⟨_, hlead⟩

theorem links_le_of_leads {j k : Journey} (h : t.Leads g j k) : k.links ≤ j.links := by
  induction h with
  | refl => exact Nat.le_refl _
  | tail _ hm ih =>
      refine Nat.le_trans ?_ ih
      cases hm with
      | link => exact Nat.le_succ _
      | directory | stay | up | into => exact Nat.le_refl _

/-- Two trees between which no hop can tell. -/
structure SameWays (g : Gait) (t u : FileTree) : Prop where
  lookupAlong : ∀ s name hops, u.lookupAlong g s name hops = t.lookupAlong g s name hops
  targetOf? : ∀ id, u.targetOf? id = t.targetOf? id
  passSlash : ∀ s, u.passSlash g s = t.passSlash g s
  passDots : ∀ s, u.passDots g s = t.passDots g s

theorem SameWays.walkWith {u : FileTree} (h : SameWays g t u)
    (jump : Spot → List Hop → Except Fault Landing) (s : Spot) (hops : List Hop) :
    u.walkWith g jump s hops = t.walkWith g jump s hops := by
  induction hops generalizing s with
  | nil => rfl
  | cons hop hops ih =>
      cases hop with
      | directory => simp only [FileTree.walkWith, h.passSlash, ih]
      | stay => simp only [FileTree.walkWith, h.passDots, ih]
      | up => simp only [FileTree.walkWith, h.passDots, ih]
      | into name => simp only [FileTree.walkWith, h.lookupAlong, h.targetOf?, ih]

theorem SameWays.walk {u : FileTree} (h : SameWays g t u) (links : Nat) (s : Spot)
    (hops : List Hop) : u.walk g links s hops = t.walk g links s hops := by
  induction links generalizing s hops with
  | zero => exact h.walkWith _ s hops
  | succ links ih =>
      have hjump : u.walk g links = t.walk g links := by
        funext s hops
        exact ih s hops
      rw [FileTree.walk, FileTree.walk, hjump]
      exact h.walkWith _ s hops

theorem SameWays.landWith {u : FileTree} (h : SameWays g t u)
    (hw : u.workingDirectory = t.workingDirectory) (p : Bytes) :
    u.landWith g p = t.landWith g p := by
  simp only [FileTree.landWith, h.walk, hw]

end FileTree

end IsolatedSite
