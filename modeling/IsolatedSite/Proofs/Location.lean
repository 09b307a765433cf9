import Mathlib.Control.Monad.Basic
import Mathlib.Data.List.TakeWhile
import IsolatedSite.Proofs.Slash

namespace IsolatedSite

namespace Target

variable {bs rest : Bytes} {target : Target}

/-- Octets without any of the marks that end an authority. A single star is read as a path. -/
structure IsAuthority (bs : Bytes) : Prop where
  notStar : bs ≠ [0x2A]
  noSlash : slash ∉ bs
  noQuestion : question ∉ bs
  noHash : hash ∉ bs

theorem path_ne_empty_of_ofPath (h : ofPath bs = .ok target) : target.path ≠ "" := by
  simp only [ofPath] at h
  split at h
  · cases h
  · split at h
    · cases h
      dsimp only
      split
      · decide
      · assumption
    · cases h

theorem slash_mem_of_lowered {bs : Bytes} (h : slash ∈ bs.map lowerByte) : slash ∈ bs := by
  obtain ⟨b, hb, hlower⟩ := List.mem_map.1 h
  unfold lowerByte at hlower
  split at hlower
  · next hletter =>
      rw [UInt8.le_iff_toNat_le, UInt8.le_iff_toNat_le] at hletter
      have hnat := congrArg UInt8.toNat hlower
      rw [UInt8.toNat_add] at hnat
      simp [slash] at hletter hnat
      omega
  · rwa [← hlower]

theorem eq_none_of_afterScheme? {found : Option Bytes} (hs : slash ∉ bs)
    (h : afterScheme? bs = .ok found) : found = none := by
  unfold afterScheme? at h
  split at h
  · next hhttp =>
      have hmem : slash ∈ (bs.take 7).map lowerByte := by
        rw [hhttp]
        decide
      exact absurd (List.mem_of_mem_take (slash_mem_of_lowered hmem)) hs
  · split at h
    · next hhttps =>
        have hmem : slash ∈ (bs.take 8).map lowerByte := by
          rw [hhttps]
          decide
        exact absurd (List.mem_of_mem_take (slash_mem_of_lowered hmem)) hs
    · split at h
      · cases h
        rfl
      · dsimp only at h
        split at h
        · next hmarks =>
            have hmem : slash ∈ (bs.drop (bs.takeWhile isSchemeByte).length).take 3 := by
              rw [hmarks]
              decide
            exact absurd (List.mem_of_mem_drop (List.mem_of_mem_take hmem)) hs
        · cases h
          rfl

theorem rest_of_splitAuthority {authority : Bytes} (h : splitAuthority bs = .ok (authority, rest)) :
    rest = bs.dropWhile (!endsAuthority ·) := by
  simp only [splitAuthority] at h
  split at h
  · cases h
  · split at h
    · cases h
      rfl
    · cases h

theorem isAuthority_of_splitAuthority {authority : Bytes} (hstar : bs ≠ [0x2A])
    (h : splitAuthority bs = .ok (authority, rest)) (hrest : rest.isEmpty = true) :
    IsAuthority bs := by
  have hall : ∀ b ∈ bs, endsAuthority b = false := by
    rw [List.isEmpty_iff, rest_of_splitAuthority h, List.dropWhile_eq_nil_iff] at hrest
    simpa using hrest
  refine ⟨hstar, fun hmem => ?_, fun hmem => ?_, fun hmem => ?_⟩
  · exact absurd (hall _ hmem) (by decide)
  · exact absurd (hall _ hmem) (by decide)
  · exact absurd (hall _ hmem) (by decide)

theorem ofFull_cases (hstar : bs ≠ [0x2A]) (h : ofFull bs = .ok target) :
    IsAuthority bs ∧ target = authorityAlone ∨ ¬IsAuthority bs ∧ target.path ≠ "" := by
  unfold ofFull at h
  split at h
  · cases h
  · split at h
    · cases h
    · next authority rest hsplit =>
        split at h
        · next hrest =>
            cases h
            exact Or.inl ⟨isAuthority_of_splitAuthority hstar hsplit hrest, rfl⟩
        · cases h
  · next rest hscheme =>
      have hnot : ¬IsAuthority bs := by
        intro hauthority
        cases eq_none_of_afterScheme? hauthority.noSlash hscheme
      split at h
      · cases h
      · split at h
        · cases h
        · split at h
          · cases h
          · exact Or.inr ⟨hnot, path_ne_empty_of_ofPath h⟩

theorem not_isAuthority_of_slash (rest : Bytes) : ¬IsAuthority (slash :: rest) :=
  fun h => h.noSlash List.mem_cons_self

/-- Every target has a path but an authority alone, which is all there is then. -/
theorem parse_cases (h : parse bs = .ok target) :
    IsAuthority bs ∧ target = authorityAlone ∨ ¬IsAuthority bs ∧ target.path ≠ "" := by
  unfold parse at h
  split at h
  · cases h
  · match bs, h with
    | [], h => cases h
    | [b], h =>
        dsimp only at h
        split at h
        · next hb =>
            cases h
            rw [hb]
            exact Or.inr ⟨not_isAuthority_of_slash [], by decide⟩
        · split at h
          · next hb =>
              cases h
              rw [hb]
              exact Or.inr ⟨fun hauthority => hauthority.notStar rfl, by decide⟩
          · next hstar =>
              split at h
              · cases h
              · next authority rest hsplit =>
                  split at h
                  · next hrest =>
                      cases h
                      have hne : [b] ≠ [0x2A] := by simpa using hstar
                      exact Or.inl ⟨isAuthority_of_splitAuthority hne hsplit hrest, rfl⟩
                  · cases h
    | b :: c :: rest, h =>
        dsimp only at h
        split at h
        · next hb =>
            rw [hb] at h ⊢
            exact Or.inr ⟨not_isAuthority_of_slash _, path_ne_empty_of_ofPath h⟩
        · exact ofFull_cases (by simp) h

end Target

namespace Site

variable {t : FileTree} {site : Site} {req : Request}

/-- One slash begins the location. Two would begin the name of a host. -/
def StaysOnHost (location : String) : Prop :=
  ∃ c rest, location.toList = '/' :: c :: rest ∧ c ≠ '/'

theorem not_staysOnHost : ¬StaysOnHost "//" := by
  rintro ⟨c, rest, hcons, hc⟩
  cases hcons
  exact hc rfl

theorem exists_cons_dropWhile {cs : List Char} (hne : cs ≠ []) (hlast : cs.getLast? ≠ some '/') :
    ∃ c rest, cs.dropWhile (· == '/') = c :: rest ∧ c ≠ '/' := by
  have hdrop : cs.dropWhile (· == '/') ≠ [] := by
    intro hnil
    rw [List.dropWhile_eq_nil_iff] at hnil
    have hmem := hnil _ (List.getLast_mem hne)
    rw [List.getLast?_eq_some_getLast hne] at hlast
    exact hlast (congrArg some (eq_of_beq hmem))
  obtain ⟨c, rest, hcons⟩ := List.exists_cons_of_ne_nil hdrop
  refine ⟨c, rest, hcons, ?_⟩
  have hhead := List.head?_dropWhile_not (· == '/') cs
  rw [hcons] at hhead
  simpa using hhead

/-- The path of a redirect ends in no slash, so that something is left of it without the slashes in
front. -/
theorem staysOnHost_slashed {target : Target} (hpath : target.path ≠ "")
    (hend : endsInSlash target.path = false) : StaysOnHost (slashed target) := by
  have hlast : target.path.toList.getLast? ≠ some '/' := by
    intro h
    rw [endsInSlash, h] at hend
    cases hend
  obtain ⟨c, rest, hcons, hc⟩ := exists_cons_dropWhile (by simpa using hpath) hlast
  have hcs : ∃ behind, (slashed target).toList = '/' :: c :: behind := by
    rw [slashed_eq, slashedPath, hcons]
    simp
  obtain ⟨behind, hbehind⟩ := hcs
  exact ⟨c, behind, hbehind, hc⟩

/-- A redirect stays on the host that was asked, unless nothing but a host was asked for. -/
theorem redirect_stays_on_host {bs : Bytes} {reply : Reply} (hparse : Target.parse bs = .ok req.target)
    (hm : req.method = .get ∨ req.method = .head) (h : answer t site req = .answered reply)
    (hmoved : reply.response.status = .movedPermanently) :
    ∃ location, reply.response.isolated.headers.under "location" = [Utf8.octets location] ∧
      (StaysOnHost location ↔ ¬Target.IsAuthority bs) ∧
      (Target.IsAuthority bs → location = "//") := by
  refine ⟨slashed req.target, location_of_answer h hmoved, ?_⟩
  rcases Target.parse_cases hparse with ⟨hauthority, htarget⟩ | ⟨hnot, hpath⟩
  · have hlocation : slashed req.target = "//" := by
      rw [htarget]
      decide
    rw [hlocation]
    exact ⟨iff_of_false not_staysOnHost (not_not_intro hauthority), fun _ => rfl⟩
  · obtain ⟨made, hd, hr⟩ := answer_eq_answered h
    rw [dispatch_eq_serve hm] at hd
    rw [hr, Response.named_status] at hmoved
    have hserved := served_of_serve hd
    rw [hmoved] at hserved
    obtain ⟨place, hloc⟩ := hserved.needsSlash
    obtain ⟨_, _, -, -, -, hend⟩ := locate_eq_needsSlash hloc
    exact ⟨iff_of_true (staysOnHost_slashed hpath hend) hnot, fun hauthority => absurd hauthority hnot⟩

theorem redirect_stays_on_host_docs :
    Target.parse (Utf8.octets "http://h///docs?x=1") = .ok ⟨"///docs", some "x=1"⟩ ∧
    ∃ reply, answer (linkedTree secretFile) linkedSite ⟨.head, ⟨"///docs", some "x=1"⟩, .v11, .empty⟩ =
        .answered reply ∧
      reply.response.status = .movedPermanently ∧
      ∃ location, reply.response.isolated.headers.under "location" = [Utf8.octets location] ∧
        StaysOnHost location := by
  have hparse : Target.parse (Utf8.octets "http://h///docs?x=1") = .ok ⟨"///docs", some "x=1"⟩ := by
    decide +kernel
  have hnot : ¬Target.IsAuthority (Utf8.octets "http://h///docs?x=1") :=
    fun h => h.noSlash (by decide)
  obtain ⟨reply, hreply, hs⟩ := Outcome.answered_of_status
    (o := answer (linkedTree secretFile) linkedSite ⟨.head, ⟨"///docs", some "x=1"⟩, .v11, .empty⟩)
    (s := .movedPermanently) (by decide +kernel)
  obtain ⟨location, hunder, hstays, -⟩ := redirect_stays_on_host hparse (Or.inr rfl) hreply hs
  exact ⟨hparse, reply, hreply, hs, location, hunder, hstays.2 hnot⟩

/-- Two slashes without a host behind them, for a request that names nothing but a host. -/
theorem redirect_leaves_host :
    Target.parse (Utf8.octets "example.com") = .ok (requestFor .get "").target ∧
    ∃ reply, answer (linkedTree secretFile) linkedSite (requestFor .get "") = .answered reply ∧
      reply.response.status = .movedPermanently ∧
      reply.response.isolated.headers.under "location" = [Utf8.octets "//"] ∧ ¬StaysOnHost "//" := by
  obtain ⟨reply, hreply, hs⟩ := Outcome.answered_of_status
    (o := answer (linkedTree secretFile) linkedSite (requestFor .get "")) (s := .movedPermanently)
    (by decide +kernel)
  have hlocation : slashed (requestFor .get "").target = "//" := by decide
  have hunder := location_of_answer hreply hs
  rw [hlocation] at hunder
  exact ⟨by decide +kernel, reply, hreply, hs, hunder, not_staysOnHost⟩

end Site

end IsolatedSite
