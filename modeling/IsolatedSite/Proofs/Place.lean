import IsolatedSite.FileTree.Walk
import IsolatedSite.Proofs.Split

namespace IsolatedSite

namespace Path

theorem endsInSlash_append {a b : Bytes} (hb : b ≠ []) : endsInSlash (a ++ b) = endsInSlash b := by
  rw [endsInSlash, endsInSlash, List.getLast?_append, List.getLast?_eq_some_getLast hb]
  rfl

theorem endsInSlash_iff {p : Bytes} : endsInSlash p = true ↔ ∃ q, p = q ++ [slash] := by
  rw [endsInSlash, beq_iff_eq, List.getLast?_eq_some_iff]

theorem endsInSlash_of_not_mem {p : Bytes} (h : slash ∉ p) : endsInSlash p = false := by
  rw [← Bool.not_eq_true, endsInSlash_iff]
  rintro ⟨q, rfl⟩
  exact h (by simp)

theorem push_of_endsInSlash {base : Bytes} (h : endsInSlash base = true) (name : Bytes) :
    push base name = base ++ name := by
  simp [push, h]

theorem push_of_not_endsInSlash {base : Bytes} (hne : base ≠ []) (h : endsInSlash base = false)
    (name : Bytes) : push base name = base ++ slash :: name := by
  simp [push, hne, h]

theorem push_eq {base : Bytes} (hne : base ≠ []) (name : Bytes) :
    ∃ q, push base name = q ++ slash :: name ∧ (base = q ∨ base = q ++ [slash]) := by
  cases h : endsInSlash base with
  | false => exact ⟨base, push_of_not_endsInSlash hne h name, Or.inl rfl⟩
  | true =>
      obtain ⟨q, rfl⟩ := endsInSlash_iff.1 h
      exact ⟨q, by simp [push_of_endsInSlash h], Or.inr rfl⟩

theorem push_ne_nil {base : Bytes} (hne : base ≠ []) (name : Bytes) : push base name ≠ [] := by
  obtain ⟨q, hq, -⟩ := push_eq hne name
  simp [hq]

theorem isAbsolute_push {base : Bytes} (hne : base ≠ []) (name : Bytes) :
    isAbsolute (push base name) = isAbsolute base := by
  obtain ⟨b, rest, rfl⟩ := List.exists_cons_of_ne_nil hne
  cases h : endsInSlash (b :: rest) with
  | false => rw [push_of_not_endsInSlash hne h]; rfl
  | true => rw [push_of_endsInSlash h]; rfl

theorem ne_nil_of_isAbsolute {p : Bytes} (h : isAbsolute p = true) : p ≠ [] := by
  rintro rfl
  cases h

theorem mem_push {base name : Bytes} {b : UInt8} (hb : b ≠ slash) :
    b ∈ push base name ↔ b ∈ base ∨ b ∈ name := by
  rw [push]
  split <;> simp [hb]

theorem endsInSlash_push {base name : Bytes} (hne : name ≠ []) :
    endsInSlash (push base name) = endsInSlash name := by
  have hcons : slash :: name = [slash] ++ name := rfl
  rw [push]
  split
  · exact endsInSlash_append hne
  · rw [endsInSlash_append (by simp), hcons, endsInSlash_append hne]

/-- Octets that stand in a path for the name of an entry. -/
structure IsName (segment : Bytes) : Prop where
  named : isNamed segment = true
  notUp : segment ≠ upName
  slashFree : slash ∉ segment

theorem IsName.ne_nil {segment : Bytes} (h : IsName segment) : segment ≠ [] := by
  rintro rfl
  cases h.named

theorem IsName.ne_here {segment : Bytes} (h : IsName segment) : segment ≠ hereName := by
  rintro rfl
  cases h.named

def pushAll (base : Bytes) (names : List Bytes) : Bytes := names.foldl push base

@[simp] theorem pushAll_nil (base : Bytes) : pushAll base [] = base := rfl

@[simp] theorem pushAll_cons (base name : Bytes) (names : List Bytes) :
    pushAll base (name :: names) = pushAll (push base name) names := rfl

theorem pushAll_append_singleton (base : Bytes) (names : List Bytes) (name : Bytes) :
    pushAll base (names ++ [name]) = push (pushAll base names) name := by
  simp [pushAll]

theorem pushAll_ne_nil {base : Bytes} (hne : base ≠ []) (names : List Bytes) :
    pushAll base names ≠ [] := by
  induction names generalizing base with
  | nil => exact hne
  | cons name names ih => exact ih (push_ne_nil hne name)

theorem isAbsolute_pushAll {base : Bytes} (hne : base ≠ []) (names : List Bytes) :
    isAbsolute (pushAll base names) = isAbsolute base := by
  induction names generalizing base with
  | nil => rfl
  | cons name names ih => rw [pushAll_cons, ih (push_ne_nil hne name), isAbsolute_push hne]

theorem mem_pushAll {base : Bytes} {b : UInt8} (hb : b ≠ slash) (names : List Bytes) :
    b ∈ pushAll base names ↔ b ∈ base ∨ ∃ name ∈ names, b ∈ name := by
  induction names generalizing base with
  | nil => simp
  | cons name names ih =>
      rw [pushAll_cons, ih, mem_push hb, or_assoc]
      simp

end Path

namespace FileName

variable (name : FileName)

theorem sound : Path.isNamed name.octets = true ∧ name.octets ≠ Path.upName ∧
    name.octets.length ≤ 255 ∧ Path.slash ∉ name.octets ∧ 0 ∉ name.octets := by
  simpa [and_assoc] using name.valid

theorem slash_not_mem : Path.slash ∉ name.octets := name.sound.2.2.2.1

theorem isName : Path.IsName name.octets := ⟨name.sound.1, name.sound.2.1, name.slash_not_mem⟩

theorem ne_nil : name.octets ≠ [] := name.isName.ne_nil

theorem nul_not_mem_push {base : Bytes} (h : 0 ∉ base) : 0 ∉ Path.push base name.octets := by
  rw [Path.mem_push (by decide), not_or]
  exact ⟨h, name.sound.2.2.2.2⟩

end FileName

namespace Hop

def segments (p : Bytes) : List Hop := (splitOn Path.slash p).filterMap ofSegment?

theorem ofPath_eq (p : Bytes) :
    ofPath p = segments p ++ if Path.endsInSlash p then [.directory] else [] := rfl

theorem segments_append_slash (p q : Bytes) :
    segments (p ++ Path.slash :: q) = segments p ++ segments q := by
  rw [segments, splitOn_append_sep, List.filterMap_append]
  rfl

theorem segments_name {name : Bytes} (hname : Path.IsName name) : segments name = [.into name] := by
  have hhop : ofSegment? name = some (.into name) := by
    simp [ofSegment?, hname.ne_nil, hname.ne_here, hname.notUp]
  rw [segments, splitOn_of_not_mem hname.slashFree, List.filterMap_cons, hhop]
  rfl

theorem segments_push {p name : Bytes} (hp : p ≠ []) (hname : Path.IsName name) :
    segments (Path.push p name) = segments p ++ [.into name] := by
  obtain ⟨q, hq, rfl | rfl⟩ := Path.push_eq hp name
  · rw [hq, segments_append_slash, segments_name hname]
  · rw [hq, segments_append_slash, segments_append_slash, segments_name hname]
    simp [segments, splitOn, ofSegment?]

theorem ofPath_push {p name : Bytes} (hp : p ≠ []) (hname : Path.IsName name) :
    ofPath (Path.push p name) = segments p ++ [.into name] := by
  have hend : Path.endsInSlash (Path.push p name) = false := by
    rw [Path.endsInSlash_push hname.ne_nil]
    exact Path.endsInSlash_of_not_mem hname.slashFree
  rw [ofPath_eq, hend, segments_push hp hname]
  simp

theorem segments_pushAll {p : Bytes} (hp : p ≠ []) {names : List Bytes}
    (hnames : ∀ name ∈ names, Path.IsName name) :
    segments (Path.pushAll p names) = segments p ++ names.map .into := by
  induction names generalizing p with
  | nil => simp
  | cons name names ih =>
      have hfirst := hnames name List.mem_cons_self
      have hrest := ih (Path.push_ne_nil hp name) (fun n hn => hnames n (List.mem_cons_of_mem _ hn))
      rw [Path.pushAll_cons, hrest, segments_push hp hfirst]
      simp

theorem ofPath_pushAll {p : Bytes} (hp : p ≠ []) {names : List Bytes} (hne : names ≠ [])
    (hnames : ∀ name ∈ names, Path.IsName name) :
    ofPath (Path.pushAll p names) = segments p ++ names.map .into := by
  obtain ⟨before, last, rfl⟩ : ∃ before last, names = before ++ [last] :=
    ⟨_, _, (List.dropLast_concat_getLast hne).symm⟩
  have hlast := hnames last (by simp)
  have hbefore : ∀ name ∈ before, Path.IsName name := fun n hn => hnames n (by simp [hn])
  rw [Path.pushAll_append_singleton, ofPath_push (Path.pushAll_ne_nil hp before) hlast,
    segments_pushAll hp hbefore]
  simp

end Hop

namespace Spot

theorem path_ne_nil (s : Spot) : s.path ≠ [] := by simp [path]

theorem isAbsolute_path (s : Spot) : Path.isAbsolute s.path = true := by
  simp [Path.isAbsolute, path]

theorem names_into (s : Spot) (name : FileName) (id : NodeId) :
    (s.into name id).names = s.names ++ [name.octets] := by
  simp [names, into]

theorem joinWith_append_singleton {parts : List Bytes} (hp : parts ≠ []) (part : Bytes) :
    joinWith [Path.slash] (parts ++ [part]) = joinWith [Path.slash] parts ++ Path.slash :: part := by
  induction parts with
  | nil => exact absurd rfl hp
  | cons first rest ih =>
      cases rest with
      | nil => simp [joinWith]
      | cons second rest =>
          have h := ih (by simp)
          simp only [List.cons_append, joinWith] at h ⊢
          simp [h]

theorem path_into_eq (s : Spot) (name : FileName) (id : NodeId) :
    (s.into name id).path =
      (if s.trail = [] then [] else s.path) ++ Path.slash :: name.octets := by
  rw [path, names_into]
  by_cases hs : s.trail = []
  · simp [names, hs, joinWith]
  · rw [joinWith_append_singleton (by simpa [names] using hs), if_neg hs]
    rfl

theorem endsInSlash_path_into (s : Spot) (name : FileName) (id : NodeId) :
    Path.endsInSlash (s.into name id).path = false := by
  rw [path_into_eq, Path.endsInSlash_append (by simp)]
  have happ : Path.slash :: name.octets = [Path.slash] ++ name.octets := rfl
  rw [happ, Path.endsInSlash_append name.ne_nil]
  exact Path.endsInSlash_of_not_mem name.slash_not_mem

theorem path_into (s : Spot) (name : FileName) (id : NodeId) :
    (s.into name id).path = Path.push s.path name.octets := by
  rw [path_into_eq]
  cases s with
  | mk trail =>
      cases trail with
      | nil => rfl
      | cons step trail =>
          have hend : Path.endsInSlash (Spot.mk (step :: trail)).path = false :=
            endsInSlash_path_into ⟨trail⟩ step.1 step.2
          rw [if_neg (by simp), Path.push_of_not_endsInSlash (path_ne_nil _) hend]

theorem length_path_into (s : Spot) (name : FileName) (id : NodeId) :
    s.path.length < (s.into name id).path.length := by
  have hn := List.length_pos_iff.2 name.ne_nil
  rw [path_into]
  cases h : Path.endsInSlash s.path with
  | true => rw [Path.push_of_endsInSlash h, List.length_append]; omega
  | false => rw [Path.push_of_not_endsInSlash s.path_ne_nil h, List.length_append]; simp

theorem segments_path (s : Spot) : Hop.segments s.path = s.names.map .into := by
  cases s with
  | mk trail =>
      induction trail with
      | nil => rfl
      | cons step trail ih =>
          have hstep : (Spot.mk (step :: trail)) = (Spot.mk trail).into step.1 step.2 := rfl
          rw [hstep, path_into, Hop.segments_push (path_ne_nil _) step.1.isName, ih, names_into]
          simp

theorem nul_not_mem_path (s : Spot) : (0 : UInt8) ∉ s.path := by
  cases s with
  | mk trail =>
      induction trail with
      | nil => decide
      | cons step trail ih =>
          have hstep : (Spot.mk (step :: trail)) = (Spot.mk trail).into step.1 step.2 := rfl
          rw [hstep, path_into]
          exact step.1.nul_not_mem_push ih

theorem isUnder_iff {s top : Spot} : s.isUnder top = true ↔ top.names <+: s.names := by
  rw [isUnder, List.isPrefixOf_iff_prefix]

theorem isUnder_into {s top : Spot} (h : s.isUnder top = true) (name : FileName) (id : NodeId) :
    (s.into name id).isUnder top = true := by
  rw [isUnder_iff] at h ⊢
  rw [names_into]
  exact h.trans (List.prefix_append _ _)

end Spot

end IsolatedSite
