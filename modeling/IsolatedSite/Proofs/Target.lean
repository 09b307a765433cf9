import IsolatedSite.Proofs.Utf8
import IsolatedSite.Request.Target

namespace IsolatedSite.Target

variable {bs : Bytes} {target : Target}

structure Allowed (target : Target) : Prop where
  path : (Utf8.octets target.path).all isPathByte = true
  query : ∀ query, target.query = some query → (Utf8.octets query).all isQueryByte = true

theorem allowed_of_ofPath (h : ofPath bs = .ok target) : Allowed target := by
  simp only [ofPath] at h
  split at h
  · cases h
  · next hbytes =>
      simp only [Bool.or_eq_true, Bool.not_eq_true', not_or, Bool.not_eq_false] at hbytes
      obtain ⟨hpathBytes, hqueryBytes⟩ := hbytes
      split at h
      · next path query hpath hquery =>
          cases h
          refine ⟨?_, ?_⟩
          · dsimp only
            split
            · decide
            · rwa [Utf8.octets_of_text? hpath]
          · intro other hother
            obtain ⟨_, -, rfl⟩ := Option.map_eq_some_iff.1 hother
            rwa [Utf8.octets_of_text? hquery]
      · cases h

theorem allowed_authorityAlone : Allowed authorityAlone := ⟨rfl, fun _ h => nomatch h⟩

theorem allowed_of_ofFull (h : ofFull bs = .ok target) : Allowed target := by
  unfold ofFull at h
  split at h
  · cases h
  · split at h
    · cases h
    · split at h
      · cases h
        exact allowed_authorityAlone
      · cases h
  · split at h
    · cases h
    · split at h
      · cases h
      · split at h
        · cases h
        · exact allowed_of_ofPath h

theorem allowed_of_parse (h : parse bs = .ok target) : Allowed target := by
  unfold parse at h
  split at h
  · cases h
  · split at h
    · cases h
    · split at h
      · cases h
        exact ⟨by decide, fun _ h => nomatch h⟩
      · split at h
        · cases h
          exact ⟨by decide, fun _ h => nomatch h⟩
        · split at h
          · cases h
          · split at h
            · cases h
              exact allowed_authorityAlone
            · cases h
    · split at h
      · exact allowed_of_ofPath h
      · exact allowed_of_ofFull h

theorem not_mem_of_all_octets {class? : UInt8 → Bool} {s : String}
    (h : (Utf8.octets s).all class? = true) {c : Char} {b : UInt8} (hb : Utf8.encodeChar c = [b])
    (hclass : class? b = false) : c ∉ s.toList := by
  intro hmem
  have hoctet : b ∈ Utf8.octets s := List.mem_flatMap.2 ⟨c, hmem, hb ▸ List.mem_singleton_self b⟩
  rw [List.all_eq_true.1 h b hoctet] at hclass
  cases hclass

/-- The path of a target that was read ends before the mark that begins the query. -/
theorem question_not_mem_path (h : parse bs = .ok target) : '?' ∉ target.path.toList :=
  not_mem_of_all_octets (allowed_of_parse h).path (b := question) rfl rfl

theorem blank_not_mem_path (h : parse bs = .ok target) : ' ' ∉ target.path.toList :=
  not_mem_of_all_octets (allowed_of_parse h).path (b := 0x20) rfl rfl

theorem blank_not_mem_query (h : parse bs = .ok target) {query : String}
    (hquery : target.query = some query) : ' ' ∉ query.toList :=
  not_mem_of_all_octets ((allowed_of_parse h).query query hquery) (b := 0x20) rfl rfl

end IsolatedSite.Target
