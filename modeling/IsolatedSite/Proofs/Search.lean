import IsolatedSite.Proofs.Canonical

namespace IsolatedSite.FileTree

open Relation

variable {t : FileTree}

def HoldsEntries (t : FileTree) (s : Spot) : Prop := ∃ access entries, t.entriesAt s = .ok (access, entries)

theorem HoldsEntries.of_lookup {s : Spot} {name : Bytes} {found : Option DirEntry}
    (h : t.lookup s name = .ok found) : t.HoldsEntries s := by
  obtain ⟨access, entries, hs, -⟩ := entriesAt_of_lookup h
  exact ⟨access, entries, hs⟩

theorem HoldsEntries.up {s : Spot} (hs : t.Settled s) (h : t.HoldsEntries s) :
    t.HoldsEntries s.up := by
  cases hs with
  | root => exact h
  | into hs hl hnode => exact .of_lookup hl

theorem HoldsEntries.root {s : Spot} (hs : t.Settled s) (h : t.HoldsEntries s) :
    t.HoldsEntries .root := by
  induction hs with
  | root => exact h
  | into hs hl hnode ih => exact ih (.of_lookup hl)

theorem HoldsEntries.startOf {s : Spot} (hs : t.Settled s) (h : t.HoldsEntries s) (p : Bytes) :
    t.HoldsEntries (startOf s p) := by
  unfold FileTree.startOf
  split
  · exact h.root hs
  · exact h

/-- Where hops ask for a directory, there is one. -/
def Ready (t : FileTree) (j : Journey) : Prop :=
  t.Settled j.spot ∧ (Hop.askDirectory j.hops = true → t.HoldsEntries j.spot)

theorem askDirectory_cons_of {hop : Hop} (hhop : hop = .stay ∨ hop = .directory) {hops : List Hop}
    (h : Hop.askDirectory hops = true) : Hop.askDirectory (hop :: hops) = true := by
  rcases hhop with rfl | rfl <;> simp [Hop.askDirectory, h]

theorem Ready.of_moves {j k : Journey} (h : t.Moves ⟨true, true⟩ j k) (hj : t.Ready j) :
    t.Ready k := by
  refine ⟨hj.1.of_moves h, fun hask => ?_⟩
  cases h with
  | directory h => exact hj.2 (askDirectory_cons_of (Or.inr rfl) hask)
  | stay h => exact hj.2 (askDirectory_cons_of (Or.inl rfl) hask)
  | up h => exact (hj.2 rfl).up hj.1
  | into h hnode =>
      obtain ⟨entries, access, modified, hn⟩ := directory_of_lookupAlong rfl hask h hnode
      exact ⟨access, entries, by simp [entriesAt, Spot.node, Spot.into, hn]⟩
  | link h hnode => exact (HoldsEntries.of_lookup (lookup_of_lookupAlong h)).startOf hj.1 _

/-- A walk that still has hops to make and comes to an end is at a directory: the hops ask for one, or
a name is looked up there before anything else is done. -/
theorem Ready.holdsEntries {n m : Nat} {s r : Spot} {hop : Hop} {hops : List Hop}
    (hj : t.Ready ⟨n, s, hop :: hops⟩)
    (h : t.Leads ⟨true, true⟩ ⟨n, s, hop :: hops⟩ ⟨m, r, []⟩) : t.HoldsEntries s := by
  induction hops generalizing hop with
  | nil =>
      obtain ⟨k, hm, -⟩ := (ReflTransGen.cases_head h).resolve_left (by simp)
      cases hm with
      | directory | stay | up => exact hj.2 rfl
      | into h hnode => exact .of_lookup (lookup_of_lookupAlong h)
      | link h hnode => exact .of_lookup (lookup_of_lookupAlong h)
  | cons next hops ih =>
      obtain ⟨k, hm, hrest⟩ := (ReflTransGen.cases_head h).resolve_left (by simp)
      have hk := hj.of_moves hm
      cases hm with
      | directory | stay => exact ih hk hrest
      | up => exact hj.2 rfl
      | into h hnode => exact .of_lookup (lookup_of_lookupAlong h)
      | link h hnode => exact .of_lookup (lookup_of_lookupAlong h)

theorem passSlash_unspelled {s : Spot} (h : t.HoldsEntries s) :
    t.passSlash ⟨true, false⟩ s = .ok () := by
  obtain ⟨access, entries, hs⟩ := h
  simp [passSlash, hs]

theorem passDots_unspelled {s : Spot} (h : t.HoldsEntries s) :
    t.passDots ⟨true, false⟩ s = .ok () ∨ t.passDots ⟨true, false⟩ s = .error .denied := by
  obtain ⟨access, entries, hs⟩ := h
  cases ha : access.search
  · exact Or.inr (by simp [passDots, hs, ha])
  · exact Or.inl (by simp [passDots, hs, ha])

/-- Where a walk that spells out its places ends at a node, one that does not and may follow as many
links ends there too, unless dots lead it out of a directory that may not be searched. -/
theorem walk_unspelled {j : Journey} {n m : Nat} {r : Spot} (hj : t.Ready j)
    (h : t.Leads ⟨true, true⟩ j ⟨m, r, []⟩) (hn : j.links ≤ n) :
    t.walk ⟨true, false⟩ n j.spot j.hops = .ok (.found r) ∨
      t.walk ⟨true, false⟩ n j.spot j.hops = .error .denied := by
  induction h using ReflTransGen.head_induction_on generalizing n with
  | refl => exact Or.inl (walk_nil n r)
  | @head j k hm hrest ih =>
      have hk := hj.of_moves hm
      have hlead := ReflTransGen.head hm hrest
      cases hm with
      | directory h =>
          rw [walk_directory, passSlash_unspelled (hj.holdsEntries hlead)]
          exact ih hk hn
      | stay h =>
          rw [walk_stay]
          rcases passDots_unspelled (hj.holdsEntries hlead) with hp | hp
          · rw [hp]; exact ih hk hn
          · rw [hp]; exact Or.inr rfl
      | up h =>
          rw [walk_up]
          rcases passDots_unspelled (hj.holdsEntries hlead) with hp | hp
          · rw [hp]; exact ih hk hn
          · rw [hp]; exact Or.inr rfl
      | into h hnode =>
          rw [walk_name rfl, lookupAlong_of_lookup (by simp), lookup_of_lookupAlong h]
          simp only [hnode]
          exact ih hk hn
      | link h hnode =>
          obtain ⟨n, rfl⟩ := Nat.exists_eq_add_one_of_ne_zero (Nat.ne_of_gt (Nat.lt_of_lt_of_le
            (Nat.succ_pos _) hn))
          rw [walk_name rfl, lookupAlong_of_lookup (by simp), lookup_of_lookupAlong h]
          simp only [hnode]
          exact ih hk (Nat.le_of_succ_le_succ hn)

theorem Settled.reach_of_walk {s r : Spot} (hs : t.Settled s) {m : Nat} (hm : m ≤ linkLimit)
    (name : FileName)
    (h : (t.walk ⟨true, true⟩ m s [.into name.octets]).bind Landing.spot = .ok r) :
    t.reach (Path.push s.path name.octets) = .ok r ∨
      t.reach (Path.push s.path name.octets) = .error .denied := by
  obtain ⟨k, hlead⟩ := exists_leads rfl (bind_spot_eq_ok h)
  have hlen : (Path.push s.path name.octets).length < pathLimit := by
    obtain ⟨j, hm, -⟩ := (ReflTransGen.cases_head hlead).resolve_left (by simp)
    cases hm with
    | into h hnode => exact length_of_lookupAlong rfl h
    | link h hnode => exact length_of_lookupAlong rfl h
  have hready : t.Ready ⟨m, s, [.into name.octets]⟩ := ⟨hs, by simp [Hop.askDirectory]⟩
  rw [hs.reach_push name hlen]
  rcases walk_unspelled hready hlead hm with hw | hw
  · exact Or.inl (by rw [hw]; rfl)
  · exact Or.inr (by rw [hw]; rfl)

end IsolatedSite.FileTree
