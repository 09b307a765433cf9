import Mathlib.Control.Monad.Basic
import IsolatedSite.Proofs.Components
import IsolatedSite.Proofs.Search
import IsolatedSite.Proofs.Serving

namespace IsolatedSite

namespace FileTree

open Relation

variable {t : FileTree} {g g' : Gait}

theorem moves_unique {j k k' : Journey} (h : t.Moves g j k) (h' : t.Moves g' j k') : k = k' := by
  cases h with
  | directory | stay | up => cases h'; rfl
  | into h hnode =>
      have hl := lookup_of_lookupAlong h
      cases h' with
      | into h' _ =>
          cases hl.symm.trans (lookup_of_lookupAlong h')
          rfl
      | link h' hnode' =>
          cases hl.symm.trans (lookup_of_lookupAlong h')
          rw [hnode] at hnode'
          cases hnode'
  | link h hnode =>
      have hl := lookup_of_lookupAlong h
      cases h' with
      | into h' hnode' =>
          cases hl.symm.trans (lookup_of_lookupAlong h')
          rw [hnode] at hnode'
          cases hnode'
      | link h' hnode' =>
          cases hl.symm.trans (lookup_of_lookupAlong h')
          cases hnode.symm.trans hnode'
          rfl

theorem leads_unique {j : Journey} {m m' : Nat} {r r' : Spot} (h : t.Leads g j ⟨m, r, []⟩)
    (h' : t.Leads g' j ⟨m', r', []⟩) : r = r' := by
  induction h using ReflTransGen.head_induction_on with
  | refl =>
      cases eq_of_leads_nil rfl h'
      rfl
  | @head j k hm _ ih =>
      rcases ReflTransGen.cases_head h' with heq | ⟨k', hm', hrest'⟩
      · subst heq
        cases hm
      · cases moves_unique hm hm'
        exact ih hrest'

/-- Where a path can be followed step by step, it leads to its canonical place. -/
theorem reach_eq_canonical {p : Bytes} {s r : Spot} (h : t.reach p = .ok s)
    (hr : t.canonical p = .ok r) : s = r := by
  obtain ⟨_, _, hwalk⟩ := walk_of_canonical hr
  obtain ⟨_, _, k, hlead, hend⟩ := ends_of_land (bind_spot_eq_ok h)
  obtain ⟨m, hlead'⟩ := exists_leads rfl hwalk
  cases hend
  exact leads_unique hlead hlead'

theorem Settled.above {s above : Spot} (h : t.Settled s) (hsuffix : above.trail <:+ s.trail) :
    t.Settled above ∧ above.path.length ≤ s.path.length := by
  induction h with
  | root =>
      have hroot : above = .root := congrArg Spot.mk (List.suffix_nil.1 hsuffix)
      rw [hroot]
      exact ⟨.root, Nat.le_refl _⟩
  | @into s name id h hl hnode ih =>
      rcases List.suffix_cons_iff.1 hsuffix with heq | hsuffix
      · have hself : above = s.into name id := congrArg Spot.mk heq
        rw [hself]
        exact ⟨.into h hl hnode, Nat.le_refl _⟩
      · obtain ⟨hsettled, hlen⟩ := ih hsuffix
        exact ⟨hsettled, Nat.le_trans hlen (Nat.le_of_lt (Spot.length_path_into s name id))⟩

theorem Settled.not_link {s : Spot} (h : t.Settled s) (hne : s.trail ≠ []) :
    t.targetOf? s.node = none := by
  cases h with
  | root => exact absurd rfl hne
  | into _ _ hnode => exact hnode

theorem Settled.holdsEntries_root {s : Spot} (h : t.Settled s) (hne : s.trail ≠ []) :
    t.HoldsEntries .root := by
  cases h with
  | root => exact absurd rfl hne
  | into h hl _ => exact (HoldsEntries.of_lookup hl).root h

theorem Settled.land_path {s : Spot} (h : t.Settled s) (hlen : s.path.length < pathLimit)
    (hroot : t.HoldsEntries .root) (follow : Bool) : t.land follow s.path = .ok (.found s) := by
  have hcheck : checkLength s.path = .ok () := by
    simp [checkLength, s.nul_not_mem_path, Nat.not_le.2 hlen]
  have hpass : t.passSlash ⟨follow, false⟩ .root = .ok () := by
    obtain ⟨access, entries, hentries⟩ := hroot
    simp [passSlash, hentries]
  rw [land, hcheck]
  exact h.landWith_path (by simp) hpass

/-- The path is absolute, or it is read from a directory that is where its own path leads. -/
def Rooted (t : FileTree) (p : Bytes) : Prop :=
  Path.isAbsolute p = true ∨ t.canonical t.workingDirectory.path = .ok t.workingDirectory

theorem Rooted.start {p : Bytes} (h : t.Rooted p) :
    t.Settled (startOf t.workingDirectory p) ∧
      (startOf t.workingDirectory p).path.length < pathLimit := by
  unfold startOf
  by_cases hp : Path.isAbsolute p = true
  · rw [if_pos hp]
    exact ⟨.root, by decide⟩
  · have hown := h.resolve_left hp
    rw [if_neg hp]
    exact ⟨settled_of_isAbsolute (Spot.isAbsolute_path _) hown,
      length_path_of_canonical (Spot.isAbsolute_path _) hown⟩

end FileTree

namespace Site

variable {t : FileTree} {root candidate : Bytes}

/-- The path of a place goes down to it by names only, none of them that of a link, and stands for
what the candidate stands for. Paths can be followed only where the tree has a directory at its root,
and a candidate with dots in it only where the directories that they are in may be searched. -/
structure OwnPath (t : FileTree) (candidate : Bytes) (place : Spot) : Prop where
  names : ∀ c ∈ Path.components place.path, c = .root ∨ ∃ name, c = .name name
  unlinked : ∀ above : Spot, above.trail <:+ place.trail → above.trail ≠ [] →
    t.land false above.path = .ok (.found above) ∧ t.targetOf? above.node = none
  canonical : t.canonical place.path = t.canonical candidate
  reached : t.HoldsEntries .root → t.reach place.path = .ok place
  same : ∀ s, t.reach candidate = .ok s → s = place

theorem ownPath_of_canonical {place : Spot} (hrooted : t.Rooted candidate)
    (h : t.canonical candidate = .ok place) : OwnPath t candidate place := by
  obtain ⟨hstart, hstartlen⟩ := hrooted.start
  have hsettled := FileTree.settled_of_canonical hstart h
  have hlen := FileTree.length_path_of_start hstartlen h
  refine ⟨?_, ?_, ?_, ?_, ?_⟩
  · intro c hc
    rw [Spot.components_path] at hc
    rcases List.mem_cons.1 hc with rfl | hc
    · exact Or.inl rfl
    · obtain ⟨name, -, rfl⟩ := List.mem_map.1 hc
      exact Or.inr ⟨name, rfl⟩
  · intro above hsuffix hne
    obtain ⟨habove, hle⟩ := hsettled.above hsuffix
    exact ⟨habove.land_path (Nat.lt_of_le_of_lt hle hlen) (habove.holdsEntries_root hne) false,
      habove.not_link hne⟩
  · rw [hsettled.canonical_path hlen, h]
  · intro hroot
    rw [FileTree.reach, hsettled.land_path hlen hroot]
    rfl
  · intro s hs
    exact FileTree.reach_eq_canonical hs h

theorem confine_of_outside {top place : Spot} (htop : t.canonical root = .ok top)
    (hplace : t.canonical candidate = .ok place) (hout : ¬ top.names <+: place.names) :
    confine t root candidate = .error .forbidden := by
  have hunder : ¬ place.isUnder top = true := fun h => hout (Spot.isUnder_iff.1 h)
  simp [confine, htop, hplace, hunder]

/-- A candidate is confined to its canonical place, if that lies in the root component by component.
The path of the place is its own, and is confined to the place again. -/
theorem confine_gives_own_path (t : FileTree) (root candidate : Bytes) :
    (∀ place, confine t root candidate = .ok place ↔
      ∃ top, t.canonical root = .ok top ∧ t.canonical candidate = .ok place ∧
        Path.components top.path <+: Path.components place.path) ∧
    (∀ fault, t.canonical root = .error fault →
      ∀ other, confine t root other = .error (.rootUnavailable fault)) ∧
    (∀ top, t.canonical root = .ok top →
      (∀ fault, t.canonical candidate = .error fault →
        confine t root candidate = .error (.ofFault fault)) ∧
      (∀ place, t.canonical candidate = .ok place →
        ¬ Path.components top.path <+: Path.components place.path →
          confine t root candidate = .error .forbidden) ∧
      (∀ place above name other rest, t.canonical candidate = .ok place →
        top.names = above ++ [name] → place.names = above ++ other :: rest → name ≠ other →
          confine t root candidate = .error .forbidden)) ∧
    (t.Rooted candidate → ∀ place, confine t root candidate = .ok place →
      OwnPath t candidate place ∧ confine t root place.path = .ok place) := by
  refine ⟨?_, ?_, ?_, ?_⟩
  · intro place
    simp only [confine_eq_ok, Spot.isUnder_iff, Spot.components_prefix_iff]
  · intro fault hroot other
    simp [confine, hroot]
  · intro top htop
    refine ⟨?_, ?_, ?_⟩
    · intro fault hfault
      simp [confine, htop, hfault]
    · intro place hplace hout
      rw [Spot.components_prefix_iff] at hout
      exact confine_of_outside htop hplace hout
    · intro place above name other rest hplace hnames hnames' hne
      refine confine_of_outside htop hplace ?_
      rw [hnames, hnames', List.prefix_append_right_inj]
      intro hpre
      exact hne (List.cons_prefix_cons.1 hpre).1
  · intro hrooted place h
    obtain ⟨top, htop, hplace, hunder⟩ := confine_eq_ok.1 h
    have hown := ownPath_of_canonical hrooted hplace
    refine ⟨hown, confine_eq_ok.2 ⟨top, htop, ?_, hunder⟩⟩
    rw [hown.canonical, hplace]

/-- `/land` and `/land2`, the second being the working directory. In the first, one link goes through
the second and comes back, another one stays there. -/
def siblingTree : FileTree where
  nodes :=
    [⟨.directory
        [⟨⟨Utf8.octets "land", by decide⟩, 1⟩, ⟨⟨Utf8.octets "land2", by decide⟩, 2⟩],
        .forDirectories, ⟨1, 0⟩⟩,
      ⟨.directory
        [⟨⟨Utf8.octets "plan", by decide⟩, 3⟩, ⟨⟨Utf8.octets "tour", by decide⟩, 4⟩,
          ⟨⟨Utf8.octets "exit", by decide⟩, 5⟩],
        .forDirectories, ⟨1, 0⟩⟩,
      ⟨.directory [⟨⟨Utf8.octets "back", by decide⟩, 6⟩], .forDirectories, ⟨1, 0⟩⟩,
      ⟨.file (Utf8.octets "plan"), .forFiles, ⟨1, 0⟩⟩,
      ⟨.link (Utf8.octets "../land2/back/./plan"), .forDirectories, ⟨1, 0⟩⟩,
      ⟨.link (Utf8.octets "/land2"), .forDirectories, ⟨1, 0⟩⟩,
      ⟨.link (Utf8.octets "../land/"), .forDirectories, ⟨1, 0⟩⟩]
  workingDirectory := Spot.root.into ⟨Utf8.octets "land2", by decide⟩ 2
  sound := by decide

theorem confine_gives_own_path_siblings :
    (∃ place, confine siblingTree (Utf8.octets "//land/") (Utf8.octets "../land//tour") = .ok place ∧
      place.path = Utf8.octets "/land/plan" ∧
      OwnPath siblingTree (Utf8.octets "../land//tour") place ∧
      confine siblingTree (Utf8.octets "//land/") (Utf8.octets "/land/plan") = .ok place) ∧
    confine siblingTree (Utf8.octets "//land/") (Utf8.octets "/land/exit") = .error .forbidden := by
  have hlaws := confine_gives_own_path siblingTree (Utf8.octets "//land/")
  constructor
  · have hconf : confine siblingTree (Utf8.octets "//land/") (Utf8.octets "../land//tour") =
        .ok ⟨[(⟨Utf8.octets "plan", by decide⟩, 3), (⟨Utf8.octets "land", by decide⟩, 1)]⟩ := by decide +kernel
    obtain ⟨hown, hagain⟩ := (hlaws _).2.2.2 (Or.inr (by decide +kernel)) _ hconf
    exact ⟨_, hconf, by decide +kernel, hown, hagain⟩
  · have htop : siblingTree.canonical (Utf8.octets "//land/") =
        .ok (Spot.root.into ⟨Utf8.octets "land", by decide⟩ 1) := by decide +kernel
    have hplace : siblingTree.canonical (Utf8.octets "/land/exit") =
        .ok (Spot.root.into ⟨Utf8.octets "land2", by decide⟩ 2) := by decide +kernel
    exact ((hlaws _).2.2.1 _ htop).2.2 _ [] _ _ [] hplace rfl rfl (by decide)

end Site

end IsolatedSite
