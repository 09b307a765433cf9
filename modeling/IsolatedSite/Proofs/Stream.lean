import IsolatedSite.Body

namespace IsolatedSite

namespace FileStream

variable {t : FileTree}

/-- A stream at an offset of the part of a file that it was promised. More may have come behind it. -/
structure Abreast (t : FileTree) (data : Bytes) (s : FileStream) : Prop where
  file : ∃ more access modified, t.node? s.file = some ⟨.file (data ++ more), access, modified⟩
  rest : s.offset + s.stream.remaining = data.length
  chunk : 0 < s.stream.chunk

theorem Abreast.read {data : Bytes} {s : FileStream} (h : s.Abreast t data) :
    t.readAt s.file s.offset s.stream.want = (data.drop s.offset).take s.stream.want := by
  obtain ⟨more, access, modified, hn⟩ := h.file
  have hrest := h.rest
  have hwant : s.stream.want ≤ (data.drop s.offset).length := by
    rw [List.length_drop, Stream.want]
    omega
  have hread : t.readAt s.file s.offset s.stream.want =
      ((data ++ more).drop s.offset).take s.stream.want := by
    simp [FileTree.readAt, hn]
  rw [hread, List.drop_append_of_le_length (by omega), List.take_append_of_le_length hwant]

/-- One frame of a stream that is abreast of its file, and where the stream is then. -/
theorem Abreast.poll {data : Bytes} {s : FileStream} (h : s.Abreast t data)
    (hpos : 0 < s.stream.remaining) :
    ∃ s', s.poll t = (some (.data ((data.drop s.offset).take s.stream.want)), s') ∧
      s'.Abreast t data ∧ s'.offset = s.offset + s.stream.want ∧
      s'.stream.remaining < s.stream.remaining := by
  have hrest := h.rest
  have hchunk := h.chunk
  have hwant : 0 < s.stream.want ∧ s.stream.want ≤ s.stream.remaining := by
    rw [Stream.want]
    omega
  have hlen : ((data.drop s.offset).take s.stream.want).length = s.stream.want := by
    rw [List.length_take, List.length_drop]
    omega
  have hne : ((data.drop s.offset).take s.stream.want).isEmpty = false := by
    rw [List.isEmpty_eq_false_iff, ← List.length_pos_iff, hlen]
    exact hwant.1
  have hpoll : s.poll t = (some (.data ((data.drop s.offset).take s.stream.want)),
      ⟨s.file, s.offset + s.stream.want,
        ⟨s.stream.remaining - s.stream.want, s.stream.chunk⟩⟩) := by
    rw [FileStream.poll, h.read]
    simp only [Stream.poll, Nat.ne_of_gt hpos, if_false, hne, hlen, Bool.false_eq_true]
  refine ⟨_, hpoll, ⟨h.file, ?_, hchunk⟩, rfl, ?_⟩
  · change s.offset + s.stream.want + (s.stream.remaining - s.stream.want) = data.length
    omega
  · change s.stream.remaining - s.stream.want < s.stream.remaining
    omega

theorem frames_of_abreast {data : Bytes} {s : FileStream} (h : s.Abreast t data) {fuel : Nat}
    (hfuel : s.stream.remaining < fuel) :
    ((s.frames t fuel).map Frame.octets).flatten = data.drop s.offset ∧
      (s.frames t fuel).findSome? Frame.fault? = none := by
  induction fuel generalizing s with
  | zero => omega
  | succ fuel ih =>
      have hrest := h.rest
      by_cases hpos : 0 < s.stream.remaining
      · obtain ⟨s', hpoll, h', hoffset, hless⟩ := h.poll hpos
        obtain ⟨hdata, hfault⟩ := ih h' (by omega)
        rw [frames, hpoll]
        refine ⟨?_, hfault⟩
        rw [List.map_cons, List.flatten_cons, hdata, hoffset, ← List.drop_drop]
        exact List.take_append_drop _ _
      · have hzero : s.stream.remaining = 0 := by omega
        have hpoll : s.poll t = (none, (s.poll t).2) :=
          Prod.ext (by simp [FileStream.poll, Stream.poll, hzero]) rfl
        have hdrop : data.drop s.offset = [] := List.drop_eq_nil_of_le (by omega)
        rw [frames, hpoll, hdrop]
        exact ⟨rfl, rfl⟩

end FileStream

namespace Content

def data : Content → Bytes
  | .file data => data
  | _ => []

end Content

namespace Body

/-- A stream delivers the part of a file that it was promised, and nothing of what came behind it. -/
theorem transfer_streamed_append {t : FileTree} {id : NodeId} {data more : Bytes} {access : Access}
    {modified : Moment} (h : t.node? id = some ⟨.file (data ++ more), access, modified⟩) :
    (streamed (.ofLength id data.length)).transfer t = ⟨data, none⟩ := by
  have hstart : (FileStream.ofLength id data.length).Abreast t data :=
    ⟨⟨more, access, modified, h⟩, Nat.zero_add _,
      Nat.lt_of_lt_of_le Nat.one_pos (Nat.le_max_right _ _)⟩
  obtain ⟨hdata, hfault⟩ := FileStream.frames_of_abreast hstart (Nat.lt_succ_self _)
  exact Transfer.mk.injEq .. ▸ ⟨hdata, hfault⟩

theorem transfer_streamed {t : FileTree} {id : NodeId} {n : Node} (h : t.node? id = some n) :
    (streamed (.ofLength id n.content.size)).transfer t = ⟨n.content.data, none⟩ := by
  obtain ⟨content, access, modified⟩ := n
  cases content with
  | file data =>
      rw [← List.append_nil data] at h
      exact transfer_streamed_append h
  | directory | link | socket | device => rfl

theorem transfer_held (t : FileTree) (octets : Bytes) : (held octets).transfer t = ⟨octets, none⟩ := by
  cases octets with
  | nil => rfl
  | cons b bs => simp [transfer, frames, Frame.octets, Frame.fault?]

end Body

end IsolatedSite
