import IsolatedSite.Proofs.Place

namespace IsolatedSite

namespace Path

/-- A single dot is a component only in front of a relative path. -/
inductive Component where
  | root
  | here
  | up
  | name (octets : Bytes)
  deriving DecidableEq

def Component.ofSegment (segment : Bytes) : Component :=
  if segment = upName then .up else .name segment

def front (p : Bytes) : List Component :=
  if isAbsolute p then [.root]
  else if (splitOn slash p).head? = some hereName then [.here]
  else []

def components (p : Bytes) : List Component := front p ++ (names p).map .ofSegment

theorem names_append_slash (p q : Bytes) : names (p ++ slash :: q) = names p ++ names q := by
  rw [names, splitOn_append_sep, List.filter_append]
  rfl

theorem names_push_eq (base : Bytes) {name : Bytes} (h : slash ∉ name) :
    names (push base name) = names base ++ [name].filter isNamed := by
  have hname : names name = [name].filter isNamed := by rw [names, splitOn_of_not_mem h]
  by_cases hbase : base = []
  · subst hbase
    exact hname
  · obtain ⟨q, hq, rfl | rfl⟩ := push_eq hbase name
    · rw [hq, names_append_slash, hname]
    · rw [hq, names_append_slash, names_append_slash, hname]
      simp [names, splitOn, isNamed]

theorem names_push (base : Bytes) {name : Bytes} (h : IsName name) :
    names (push base name) = names base ++ [name] := by
  rw [names_push_eq base h.slashFree, List.filter_cons_of_pos h.named]
  rfl

theorem head?_splitOn_append (p q : Bytes) :
    (splitOn slash (p ++ slash :: q)).head? = (splitOn slash p).head? := by
  obtain ⟨part, parts, hp⟩ := List.exists_cons_of_ne_nil (splitOn_ne_nil slash p)
  rw [splitOn_append_sep, hp]
  rfl

theorem head?_splitOn_push {base : Bytes} (hne : base ≠ []) (name : Bytes) :
    (splitOn slash (push base name)).head? = (splitOn slash base).head? := by
  obtain ⟨q, hq, rfl | rfl⟩ := push_eq hne name
  · rw [hq, head?_splitOn_append]
  · rw [hq, head?_splitOn_append, head?_splitOn_append]

theorem isAbsolute_of_isName {name : Bytes} (h : IsName name) : isAbsolute name = false := by
  cases name with
  | nil => rfl
  | cons b rest =>
      have hb : b ≠ slash := by
        rintro rfl
        exact h.slashFree List.mem_cons_self
      simp [isAbsolute, hb]

theorem front_push (base : Bytes) {name : Bytes} (h : IsName name) :
    front (push base name) = front base := by
  by_cases hbase : base = []
  · subst hbase
    have hpush : push [] name = name := rfl
    have hfirst : (splitOn slash name).head? = some name := by
      rw [splitOn_of_not_mem h.slashFree]
      rfl
    rw [hpush, front, isAbsolute_of_isName h, hfirst]
    rw [if_neg (by simp), if_neg (by simpa using h.ne_here)]
    rfl
  · simp only [front, isAbsolute_push hbase, head?_splitOn_push hbase]

theorem ofSegment_of_isName {name : Bytes} (h : IsName name) :
    Component.ofSegment name = .name name :=
  if_neg h.notUp

theorem components_push (base : Bytes) {name : Bytes} (h : IsName name) :
    components (push base name) = components base ++ [.name name] := by
  simp [components, front_push base h, names_push base h, ofSegment_of_isName h]

theorem components_pushAll (base : Bytes) {names : List Bytes} (h : ∀ name ∈ names, IsName name) :
    components (pushAll base names) = components base ++ names.map .name := by
  induction names generalizing base with
  | nil => simp
  | cons name names ih =>
      have hrest := ih (push base name) (fun n hn => h n (List.mem_cons_of_mem _ hn))
      rw [pushAll_cons, hrest, components_push base (h name List.mem_cons_self)]
      simp

theorem fileName?_push (base : Bytes) {name : Bytes} (h : IsName name) :
    fileName? (push base name) = some name := by
  simp [fileName?, names_push base h, h.notUp]

theorem extension?_push (base other : Bytes) {name : Bytes} (h : IsName name) :
    extension? (push base name) = extension? (push other name) := by
  simp only [extension?, fileName?_push _ h]

end Path

theorem Spot.components_path (s : Spot) :
    Path.components s.path = .root :: s.names.map .name := by
  cases s with
  | mk trail =>
      induction trail with
      | nil => rfl
      | cons step trail ih =>
          have hstep : (Spot.mk (step :: trail)) = (Spot.mk trail).into step.1 step.2 := rfl
          rw [hstep, path_into, Path.components_push _ step.1.isName, ih, names_into]
          simp

theorem Spot.components_prefix_iff {s top : Spot} :
    Path.components top.path <+: Path.components s.path ↔ top.names <+: s.names := by
  have hinj : Function.Injective Path.Component.name := by
    intro a b h
    cases h
    rfl
  rw [components_path, components_path, List.cons_prefix_cons]
  simp only [true_and]
  exact List.prefix_map_iff_of_injective hinj

end IsolatedSite
