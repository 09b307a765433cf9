import Mathlib.Data.List.ReduceOption
import IsolatedSite.Proofs.Stream

namespace IsolatedSite

namespace FileTree

def dataOf (t : FileTree) (id : NodeId) : Bytes :=
  match t.node? id with
  | some n => n.content.data
  | none => []

/-- What one read may give: octets of the file from the offset on, at most so many, and none only where
the file has none. -/
structure Gives (t : FileTree) (id : NodeId) (offset most : Nat) (read : Bytes) : Prop where
  octets : read <+: (t.dataOf id).drop offset
  fits : read.length ≤ most
  stops : read = [] → 0 < most → (t.dataOf id).length ≤ offset

theorem readAt_eq (t : FileTree) (id : NodeId) (offset count : Nat) :
    t.readAt id offset count = ((t.dataOf id).drop offset).take count := by
  unfold readAt dataOf
  cases t.node? id with
  | none => simp
  | some n =>
      obtain ⟨content, access, modified⟩ := n
      cases content <;> simp [Content.data]

theorem gives_readAt (t : FileTree) (id : NodeId) (offset most : Nat) :
    t.Gives id offset most (t.readAt id offset most) := by
  rw [readAt_eq]
  refine ⟨List.take_prefix _ _, List.length_take_le _ _, fun hnil hpos => ?_⟩
  rw [List.take_eq_nil_iff, or_iff_right (Nat.ne_of_gt hpos), List.drop_eq_nil_iff] at hnil
  exact hnil

end FileTree

namespace FileStream

def advance (s : FileStream) (read : Bytes) : Option Frame × FileStream :=
  ((s.stream.poll read).1, ⟨s.file, s.offset + read.length, (s.stream.poll read).2⟩)

def Polled (t : FileTree) (s : FileStream) (frame : Option Frame) (s' : FileStream) : Prop :=
  ∃ read, t.Gives s.file s.offset s.stream.want read ∧ s.advance read = (frame, s')

/-- Polls one after the other, with the tree at the moment of each. -/
inductive Runs : FileStream → List FileTree → List (Option Frame) → FileStream → Prop
  | start {s} : Runs s [] [] s
  | poll {s s' s'' t trees frame frames} (h : Polled t s frame s') (hrest : Runs s' trees frames s'') :
      Runs s (t :: trees) (frame :: frames) s''

variable {t : FileTree} {trees : List FileTree} {s s' first : FileStream} {frame : Option Frame}
  {frames : List (Option Frame)}

theorem polled_poll (t : FileTree) (s : FileStream) : Polled t s (s.poll t).1 (s.poll t).2 :=
  ⟨_, t.gives_readAt s.file s.offset s.stream.want, rfl⟩

inductive Yields (t : FileTree) (s : FileStream) : Option Frame → FileStream → Prop
  | ended (h : s.stream.remaining = 0) : Yields t s none s
  | truncated (hpos : 0 < s.stream.remaining) (hgone : (t.dataOf s.file).length ≤ s.offset) :
      Yields t s (some (.failed Stream.truncated)) ⟨s.file, s.offset, ⟨0, s.stream.chunk⟩⟩
  | chunk {octets} (hpos : octets ≠ []) (hfits : octets.length ≤ s.stream.want)
      (hread : octets <+: (t.dataOf s.file).drop s.offset) :
      Yields t s (some (.data octets))
        ⟨s.file, s.offset + octets.length, ⟨s.stream.remaining - octets.length, s.stream.chunk⟩⟩

theorem want_le_remaining (s : FileStream) : s.stream.want ≤ s.stream.remaining :=
  Nat.min_le_left _ _

theorem yields_of_polled (hchunk : 0 < s.stream.chunk) (h : Polled t s frame s') :
    Yields t s frame s' := by
  obtain ⟨read, hgives, hadvance⟩ := h
  cases hadvance
  by_cases hzero : s.stream.remaining = 0
  · -- Nothing is wanted any more, so that the read gives nothing.
    have hnil : read = [] := by
      have := hgives.fits
      have := want_le_remaining s
      exact List.length_eq_zero_iff.1 (by omega)
    subst hnil
    simp only [Stream.poll, hzero, if_true]
    exact .ended hzero
  · cases read with
    | nil =>
        have hwant : 0 < s.stream.want := by
          rw [Stream.want]
          omega
        simp only [Stream.poll, hzero, if_false, List.isEmpty_nil, if_true]
        exact .truncated (Nat.pos_of_ne_zero hzero) (hgives.stops rfl hwant)
    | cons b bs =>
        simp only [Stream.poll, hzero, if_false, List.isEmpty_cons, Bool.false_eq_true]
        exact .chunk (List.cons_ne_nil b bs) hgives.fits hgives.octets

namespace Yields

theorem file_eq (h : Yields t s frame s') : s'.file = s.file := by
  cases h <;> rfl

theorem chunk_pos (h : Yields t s frame s') (hchunk : 0 < s.stream.chunk) :
    0 < s'.stream.chunk := by
  cases h <;> exact hchunk

theorem want_le (h : Yields t s frame s') : s'.stream.want ≤ s.stream.want := by
  cases h <;> simp only [Stream.want] <;> omega

theorem remaining_lt (h : Yields t s frame s') (hpos : 0 < s.stream.remaining) :
    s'.stream.remaining < s.stream.remaining := by
  cases h with
  | ended hend => omega
  | truncated => exact hpos
  | chunk hne =>
      have := List.length_pos_iff.2 hne
      change s.stream.remaining - _ < s.stream.remaining
      omega

theorem of_ended (h : Yields t s frame s') (hend : s.stream.remaining = 0) :
    frame = none ∧ s' = s := by
  cases h with
  | ended => exact ⟨rfl, rfl⟩
  | truncated hpos => omega
  | chunk hne hfits =>
      have := want_le_remaining s
      have := List.length_pos_iff.2 hne
      omega

theorem eq_none_iff (h : Yields t s frame s') : frame = none ↔ s.stream.remaining = 0 := by
  refine ⟨fun hnone => ?_, fun hend => (h.of_ended hend).1⟩
  subst hnone
  cases h with
  | ended hend => exact hend

theorem eq_truncated_iff (h : Yields t s frame s') :
    frame = some (.failed Stream.truncated) ↔
      0 < s.stream.remaining ∧ (t.dataOf s.file).length ≤ s.offset := by
  cases h with
  | ended h => simp [h]
  | truncated hpos hgone => simp [hpos, hgone]
  | chunk hne hfits hread =>
      have hle := hread.length_le
      have hpos := List.length_pos_iff.2 hne
      rw [List.length_drop] at hle
      refine iff_of_false (by simp) fun h => ?_
      omega

end Yields

theorem Runs.of_ended (h : Runs first trees frames s) (hchunk : 0 < first.stream.chunk)
    (hend : first.stream.remaining = 0) :
    s = first ∧ frames = List.replicate trees.length none := by
  induction h with
  | start => exact ⟨rfl, rfl⟩
  | poll h _ ih =>
      obtain ⟨rfl, rfl⟩ := (yields_of_polled hchunk h).of_ended hend
      obtain ⟨rfl, rfl⟩ := ih hchunk hend
      exact ⟨rfl, rfl⟩

/-- The course of a run: chunks, then nothing more; or chunks, one fault where the file had no octet
left at the moment of that poll, then nothing more. -/
inductive Course (first : FileStream) (trees : List FileTree) (s : FileStream) :
    List (Option Frame) → Prop
  | flowing (chunks : List Bytes) (quiet : Nat)
      (hsum : chunks.flatten.length + s.stream.remaining = first.stream.remaining)
      (hoffset : s.offset = first.offset + chunks.flatten.length)
      (hquiet : 0 < quiet → s.stream.remaining = 0) :
      Course first trees s
        (chunks.map (fun octets => some (.data octets)) ++ List.replicate quiet none)
  | truncated (chunks : List Bytes) (quiet : Nat) {t : FileTree}
      (hat : trees[chunks.length]? = some t)
      (hgone : (t.dataOf first.file).length ≤ first.offset + chunks.flatten.length)
      (hshort : chunks.flatten.length < first.stream.remaining)
      (hend : s.stream.remaining = 0) :
      Course first trees s (chunks.map (fun octets => some (.data octets)) ++
        some (.failed Stream.truncated) :: List.replicate quiet none)

theorem course_of_runs (h : Runs first trees frames s) (hchunk : 0 < first.stream.chunk) :
    Course first trees s frames := by
  induction h with
  | start => exact .flowing [] 0 (by simp) (by simp) (by simp)
  | @poll r r' s t trees frame frames h hrest ih =>
      have hyields := yields_of_polled hchunk h
      cases hyields with
      | ended hend =>
          obtain ⟨rfl, rfl⟩ := hrest.of_ended hchunk hend
          exact .flowing [] (trees.length + 1) (by simp) (by simp) (fun _ => hend)
      | truncated hpos hgone =>
          obtain ⟨rfl, rfl⟩ := hrest.of_ended hchunk rfl
          exact .truncated [] trees.length rfl (by simpa using hgone) (by simpa using hpos) rfl
      | @chunk octets hne hfits hread =>
          have hle := Nat.le_trans hfits (want_le_remaining r)
          have hlen : ∀ chunks : List Bytes,
              (octets :: chunks).flatten.length = octets.length + chunks.flatten.length := by simp
          cases ih hchunk with
          | flowing chunks quiet hsum hoffset hquiet =>
              dsimp only at hsum hoffset
              refine .flowing (octets :: chunks) quiet ?_ ?_ hquiet
              · rw [hlen]
                omega
              · rw [hlen]
                omega
          | truncated chunks quiet hat hgone hshort hend =>
              dsimp only at hgone hshort
              refine .truncated (octets :: chunks) quiet hat ?_ ?_ hend
              · rw [hlen]
                omega
              · rw [hlen]
                omega

theorem Runs.file_eq (h : Runs first trees frames s) (hchunk : 0 < first.stream.chunk) :
    s.file = first.file := by
  induction h with
  | start => rfl
  | poll h _ ih =>
      have hyields := yields_of_polled hchunk h
      rw [ih (hyields.chunk_pos hchunk), hyields.file_eq]

theorem Runs.chunk_pos (h : Runs first trees frames s) (hchunk : 0 < first.stream.chunk) :
    0 < s.stream.chunk := by
  induction h with
  | start => exact hchunk
  | poll h _ ih => exact ih ((yields_of_polled hchunk h).chunk_pos hchunk)

theorem Runs.remaining_le (h : Runs first trees frames s) (hchunk : 0 < first.stream.chunk) :
    s.stream.remaining ≤ first.stream.remaining - trees.length := by
  induction h with
  | start => simp
  | @poll r _ _ _ trees _ _ h hrest ih =>
      have hyields := yields_of_polled hchunk h
      have hle := ih (hyields.chunk_pos hchunk)
      rw [List.length_cons]
      by_cases hpos : 0 < r.stream.remaining
      · have := hyields.remaining_lt hpos
        omega
      · obtain ⟨-, rfl⟩ := hyields.of_ended (by omega)
        omega

theorem Runs.chunk_le (h : Runs first trees frames s) (hchunk : 0 < first.stream.chunk)
    {octets : Bytes} (hmem : some (.data octets) ∈ frames) : octets ≠ [] ∧ octets.length ≤ first.stream.want := by
  induction h with
  | start => simp at hmem
  | poll h _ ih =>
      have hyields := yields_of_polled hchunk h
      rcases List.mem_cons.1 hmem with hhead | htail
      · subst hhead
        cases hyields with
        | chunk hne hfits => exact ⟨hne, hfits⟩
      · obtain ⟨hne, hfits⟩ := ih (hyields.chunk_pos hchunk) htail
        exact ⟨hne, Nat.le_trans hfits hyields.want_le⟩

def delivered (frames : List (Option Frame)) : Bytes :=
  (frames.reduceOption.map Frame.octets).flatten

theorem delivered_cons_data (octets : Bytes) (frames : List (Option Frame)) :
    delivered (some (.data octets) :: frames) = octets ++ delivered frames := rfl

theorem delivered_flowing (chunks : List Bytes) (quiet : Nat) :
    delivered (chunks.map (fun octets => some (.data octets)) ++ List.replicate quiet none) =
      chunks.flatten := by
  induction chunks with
  | nil =>
      induction quiet with
      | zero => rfl
      | succ quiet ih => exact ih
  | cons octets chunks ih =>
      rw [List.map_cons, List.cons_append, delivered_cons_data, ih, List.flatten_cons]

/-- A file that stays as it is is delivered from the offset on, in order and without gaps. -/
theorem Runs.isPrefix_delivered {data : Bytes} (h : Runs first trees frames s)
    (hchunk : 0 < first.stream.chunk) (hsame : ∀ t ∈ trees, t.dataOf first.file = data) :
    delivered frames <+: data.drop first.offset := by
  induction h with
  | start => exact List.nil_prefix
  | @poll r r' s t trees frame frames h hrest ih =>
      have hyields := yields_of_polled hchunk h
      have hrec := ih (hyields.chunk_pos hchunk)
        (fun u hu => hyields.file_eq ▸ hsame u (List.mem_cons_of_mem _ hu))
      cases hyields with
      | ended => exact hrec
      | truncated => exact hrec
      | @chunk octets hne hfits hread =>
          rw [hsame t List.mem_cons_self] at hread
          obtain ⟨rest, hrest⟩ := hread
          rw [delivered_cons_data, ← hrest, List.prefix_append_right_inj]
          have hdrop : data.drop (r.offset + octets.length) = rest := by
            rw [← List.drop_drop, ← hrest, List.drop_left]
          rwa [← hdrop]

/-- A file that stays as it is, and is as long as was promised, is never found truncated. What was
delivered is then its beginning. -/
theorem Course.delivered_eq {data : Bytes} (hcourse : Course first trees s frames)
    (hbegins : delivered frames <+: data.drop first.offset)
    (hsame : ∀ t ∈ trees, t.dataOf first.file = data)
    (hlong : first.offset + first.stream.remaining ≤ data.length) :
    (∀ fault, some (.failed fault) ∉ frames) ∧
      delivered frames =
        (data.drop first.offset).take (first.stream.remaining - s.stream.remaining) := by
  cases hcourse with
  | flowing chunks quiet hsum =>
      refine ⟨by simp, ?_⟩
      have hlen : chunks.flatten.length = first.stream.remaining - s.stream.remaining := by omega
      rw [delivered_flowing] at hbegins ⊢
      rw [← hlen]
      exact List.prefix_iff_eq_take.1 hbegins
  | truncated chunks quiet hat hgone hshort =>
      rw [hsame _ (List.mem_of_getElem? hat)] at hgone
      omega

theorem ofLength_want_le (id : NodeId) (length : Nat) :
    (ofLength id length).stream.want ≤ min length 65536 := by
  simp only [ofLength, Stream.ofLength, Stream.want, Stream.chunkLimit]
  omega

/-- What holds of a stream of a promised length after any polls. -/
structure Accounted (id : NodeId) (length : Nat) (trees : List FileTree) (frames : List (Option Frame))
    (s : FileStream) : Prop where
  course : Course (.ofLength id length) trees s frames
  announced : (Body.streamed s).size = s.stream.remaining
  chunks : ∀ octets, some (.data octets) ∈ frames → octets ≠ [] ∧ octets.length ≤ min length 65536
  reads : ∀ (t : FileTree) (read : Bytes), t.Gives s.file s.offset s.stream.want read →
    read.length ≤ s.stream.remaining
  polls : ∀ t, Polled t s (s.poll t).1 (s.poll t).2
  ended : ∀ t frame s', Polled t s frame s' → (s.stream.isEnd = true ↔ frame = none)
  fails : ∀ t frame s', Polled t s frame s' → (frame = some (.failed Stream.truncated) ↔
    0 < s.stream.remaining ∧ (t.dataOf id).length ≤ s.offset)
  ends : length ≤ trees.length → s.stream.isEnd = true
  kept : ∀ data, (∀ t ∈ trees, t.dataOf id = data) → length ≤ data.length →
    (∀ fault, some (.failed fault) ∉ frames) ∧
      delivered frames = data.take (length - s.stream.remaining)

/-- Whatever becomes of the file while it is streamed, and however its reads are split, the stream
delivers the length it was promised or ends in one fault. -/
theorem streams_length_or_truncates {id : NodeId} {length : Nat}
    (h : Runs (.ofLength id length) trees frames s) :
    Accounted id length trees frames s ∧ Stream.truncated.kind = .unexpectedEof := by
  have hchunk : 0 < (ofLength id length).stream.chunk :=
    Nat.lt_of_lt_of_le Nat.one_pos (Nat.le_max_right _ _)
  have hcourse := course_of_runs h hchunk
  have hfile : s.file = id := h.file_eq hchunk
  refine ⟨?_, rfl⟩
  exact {
    course := hcourse
    announced := rfl
    chunks := fun octets hmem => by
      obtain ⟨hne, hle⟩ := h.chunk_le hchunk hmem
      exact ⟨hne, Nat.le_trans hle (ofLength_want_le id length)⟩
    reads := fun t read hgives => Nat.le_trans hgives.fits (want_le_remaining s)
    polls := fun t => polled_poll t s
    ended := fun t frame s' hpolled => by
      rw [(yields_of_polled (h.chunk_pos hchunk) hpolled).eq_none_iff, Stream.isEnd, beq_iff_eq]
    fails := fun t frame s' hpolled => by
      rw [(yields_of_polled (h.chunk_pos hchunk) hpolled).eq_truncated_iff, hfile]
    ends := fun hmany => by
      have hle : s.stream.remaining ≤ length - trees.length := h.remaining_le hchunk
      rw [Stream.isEnd, beq_iff_eq]
      omega
    kept := fun data hsame hlong => by
      have hbegins := h.isPrefix_delivered hchunk hsame
      exact hcourse.delivered_eq hbegins hsame (by rwa [ofLength, Nat.zero_add]) }

def loneFile (octets : Bytes) : FileTree where
  nodes := [⟨.file octets, .forFiles, ⟨3, 0⟩⟩]
  workingDirectory := .root
  sound := of_decide_eq_true (Eq.refl true)

theorem streams_length_or_truncates_loneFile :
    (∃ s, Runs (.ofLength 0 5) [loneFile [1, 2, 3, 4, 5], loneFile [1, 2], loneFile [1, 2, 3, 4, 5]]
        [some (.data [1, 2]), some (.failed Stream.truncated), none] s ∧
      Accounted 0 5 [loneFile [1, 2, 3, 4, 5], loneFile [1, 2], loneFile [1, 2, 3, 4, 5]]
        [some (.data [1, 2]), some (.failed Stream.truncated), none] s) ∧
    ∃ s, Runs (.ofLength 0 5) (List.replicate 2 (loneFile [1, 2, 3, 4, 5, 6]))
        [some (.data [1, 2]), some (.data [3, 4, 5])] s ∧
      Accounted 0 5 (List.replicate 2 (loneFile [1, 2, 3, 4, 5, 6]))
        [some (.data [1, 2]), some (.data [3, 4, 5])] s := by
  constructor
  · have hrun : Runs (.ofLength 0 5)
        [loneFile [1, 2, 3, 4, 5], loneFile [1, 2], loneFile [1, 2, 3, 4, 5]]
        [some (.data [1, 2]), some (.failed Stream.truncated), none] ⟨0, 2, ⟨0, 5⟩⟩ :=
      .poll ⟨[1, 2], ⟨⟨[3, 4, 5], rfl⟩, by decide, by decide⟩, rfl⟩
        (.poll ⟨[], ⟨⟨[], rfl⟩, by decide, by decide⟩, rfl⟩
          (.poll ⟨[], ⟨⟨[3, 4, 5], rfl⟩, by decide, by decide⟩, rfl⟩ .start))
    exact ⟨_, hrun, (streams_length_or_truncates hrun).1⟩
  · have hrun : Runs (.ofLength 0 5) (List.replicate 2 (loneFile [1, 2, 3, 4, 5, 6]))
        [some (.data [1, 2]), some (.data [3, 4, 5])] ⟨0, 5, ⟨0, 5⟩⟩ :=
      .poll ⟨[1, 2], ⟨⟨[3, 4, 5, 6], rfl⟩, by decide, by decide⟩, rfl⟩
        (.poll ⟨[3, 4, 5], ⟨⟨[6], rfl⟩, by decide, by decide⟩, rfl⟩ .start)
    exact ⟨_, hrun, (streams_length_or_truncates hrun).1⟩

end FileStream

end IsolatedSite
