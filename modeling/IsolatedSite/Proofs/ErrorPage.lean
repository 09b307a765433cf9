import IsolatedSite.Proofs.Decimal
import IsolatedSite.Proofs.Markup
import IsolatedSite.Response

namespace IsolatedSite

namespace Html

def entities : List String := ["&amp;", "&lt;", "&gt;", "&quot;", "&#x27;"]

/-- Characters that no reader of markup takes for anything but text. -/
structure Safe (cs : List Char) : Prop where
  unmarked : ∀ c ∈ ['<', '>', '"', '\''], c ∉ cs
  ampersand : ∀ before after, cs = before ++ '&' :: after → ∃ e ∈ entities, e.toList <+: '&' :: after

theorem entity_of_escapeChar {c : Char} {before after : List Char}
    (h : escapeChar c = before ++ '&' :: after) : before = [] ∧ ∃ e ∈ entities, e.toList = escapeChar c := by
  have hfirst : ∀ tail, '&' ∉ tail → '&' :: tail = before ++ '&' :: after → before = [] := by
    intro tail htail heq
    cases before with
    | nil => rfl
    | cons b before =>
        rw [List.cons_append, List.cons.injEq] at heq
        exact absurd (heq.2 ▸ List.mem_append_right before List.mem_cons_self) htail
  by_cases hspecial : c ∈ ['&', '<', '>', '"', '\'']
  · simp only [List.mem_cons, List.not_mem_nil, or_false] at hspecial
    rcases hspecial with rfl | rfl | rfl | rfl | rfl
    · exact ⟨hfirst "amp;".toList (by decide) h, "&amp;", by decide, rfl⟩
    · exact ⟨hfirst "lt;".toList (by decide) h, "&lt;", by decide, rfl⟩
    · exact ⟨hfirst "gt;".toList (by decide) h, "&gt;", by decide, rfl⟩
    · exact ⟨hfirst "quot;".toList (by decide) h, "&quot;", by decide, rfl⟩
    · exact ⟨hfirst "#x27;".toList (by decide) h, "&#x27;", by decide, rfl⟩
  · have hmem : '&' ∈ escapeChar c := h ▸ List.mem_append_right before List.mem_cons_self
    rw [escapeChar_of_ne hspecial, List.mem_singleton] at hmem
    exact absurd (hmem ▸ List.mem_cons_self) hspecial

theorem entity_of_escape {cs before after : List Char} (h : escape cs = before ++ '&' :: after) :
    ∃ e ∈ entities, e.toList <+: '&' :: after := by
  induction cs generalizing before with
  | nil => simp [escape] at h
  | cons c cs ih =>
      have hcons : escape (c :: cs) = escapeChar c ++ escape cs := List.flatMap_cons
      rw [hcons, List.append_eq_append_iff] at h
      rcases h with ⟨rest, -, hrest⟩ | ⟨rest, hchar, hrest⟩
      · exact ih hrest
      · cases rest with
        | nil =>
            have hnext : escape cs = [] ++ '&' :: after := hrest.symm
            exact ih hnext
        | cons d rest =>
            -- The ampersand is the first character of what `c` is written as.
            rw [List.cons_append, List.cons.injEq] at hrest
            obtain ⟨rfl, rfl⟩ := hrest
            obtain ⟨rfl, e, he, hentity⟩ := entity_of_escapeChar hchar
            rw [hchar, List.nil_append] at hentity
            exact ⟨e, he, hentity ▸ List.prefix_append _ _⟩

theorem safe_escape (cs : List Char) : Safe (escape cs) where
  unmarked _ hc := not_mem_escape hc cs
  ampersand _ _ h := entity_of_escape h

def Mark.isTag : Mark → Bool
  | .text _ => false
  | .tag _ _ => true

def tagsFrom (scan : Scan) (cs : List Char) : List Mark := (marksFrom scan cs).filter Mark.isTag

def tags (page : String) : List Mark := tagsFrom (.text []) page.toList

theorem tagsFrom_read (read cs : List Char) : tagsFrom (.text read) cs = tagsFrom (.text []) cs := by
  induction cs generalizing read with
  | nil => rfl
  | cons c cs ih =>
      by_cases hc : c = '<'
      · simp [tagsFrom, marksFrom, hc, Mark.isTag]
      · have hstep : ∀ read, tagsFrom (.text read) (c :: cs) = tagsFrom (.text (read ++ [c])) cs := by
          intro read
          rw [tagsFrom, marksFrom, if_neg hc, tagsFrom]
        rw [hstep, hstep, ih, ih ([] ++ [c])]

theorem tagsFrom_text {text : List Char} (h : '<' ∉ text) (cs : List Char) :
    tagsFrom (.text []) (text ++ cs) = tagsFrom (.text []) cs := by
  induction text with
  | nil => rfl
  | cons c text ih =>
      rw [List.mem_cons, not_or] at h
      rw [List.cons_append, tagsFrom, marksFrom, if_neg (Ne.symm h.1), ← tagsFrom, tagsFrom_read]
      exact ih h.2

end Html

namespace Response

open Html

variable (status : Status) (message : String)

def beforeMessage : String :=
  "<!DOCTYPE HTML>\n<html lang=\"en\">\n<head>\n<meta charset=\"utf-8\">\n" ++
  "<title>Error response</title>\n</head>\n<body>\n<h1>Error response</h1>\n<p>Error code: " ++
  Decimal.text status.code ++ "</p>\n<p>Message: "

def afterMessage : String :=
  ".</p>\n<p>Error code explanation: " ++ Decimal.text status.code ++ " - " ++
  status.reason?.getD "Unknown" ++ ".</p>\n</body>\n</html>\n"

theorem toList_errorPage :
    (errorPage status message).toList =
      (beforeMessage status).toList ++ (escape message.toList ++ (afterMessage status).toList) := by
  have hpage : ∀ head title code between rest dash reason foot : String,
      (head ++ title ++ code ++ between ++ escapeText message ++ rest ++ code ++ dash ++ reason ++
          foot).toList =
        (head ++ title ++ code ++ between).toList ++
          (escape message.toList ++ (rest ++ code ++ dash ++ reason ++ foot).toList) := by
    intros
    simp only [escapeText, String.toList_append, String.toList_ofList, List.append_assoc]
  exact hpage _ _ _ _ _ _ _ _

theorem errorPage_injective {message message' : String}
    (h : errorPage status message = errorPage status message') : message = message' := by
  have hlist := congrArg String.toList h
  rw [toList_errorPage, toList_errorPage, List.append_right_inj, List.append_left_inj] at hlist
  have hread := congrArg unescape hlist
  rw [unescape_escape, unescape_escape] at hread
  exact String.ext hread

def errorTags : List Mark :=
  [.tag "!DOCTYPE HTML" [], .tag "html lang=" ["en"], .tag "head" [], .tag "meta charset=" ["utf-8"],
    .tag "title" [], .tag "/title" [], .tag "/head" [], .tag "body" [], .tag "h1" [], .tag "/h1" [],
    .tag "p" [], .tag "/p" [], .tag "p" [], .tag "/p" [], .tag "p" [], .tag "/p" [], .tag "/body" [],
    .tag "/html" []]

theorem unmarked_code : '<' ∉ (Decimal.text status.code).toList := by
  rw [Decimal.text, String.toList_ofList]
  exact fun h => absurd (Decimal.isDigit_of_mem_digits h) (by decide)

theorem unmarked_reason : '<' ∉ (status.reason?.getD "Unknown").toList := by
  have hall : Status.reasons.all (fun e => !e.2.toList.contains '<') = true := by decide +kernel
  cases hreason : status.reason? with
  | none => exact (by decide : '<' ∉ "Unknown".toList)
  | some reason =>
      obtain ⟨before, after, hmem, -⟩ := List.lookup_eq_some_iff.1 hreason
      have hunmarked := List.all_eq_true.1 hall (status.code, reason) (by rw [hmem]; simp)
      simpa using hunmarked

theorem tagsFrom_beforeMessage (cs : List Char) :
    tagsFrom (.text []) ((beforeMessage status).toList ++ cs) =
      errorTags.take 13 ++ tagsFrom (.text []) cs := by
  have hhead : ∀ cs, tagsFrom (.text [])
      ("<!DOCTYPE HTML>\n<html lang=\"en\">\n<head>\n<meta charset=\"utf-8\">\n".toList ++ cs) =
        errorTags.take 4 ++ tagsFrom (.text ['\n']) cs := fun _ => rfl
  have htitle : ∀ cs, tagsFrom (.text [])
      ("<title>Error response</title>\n</head>\n<body>\n<h1>Error response</h1>\n<p>Error code: ".toList ++
        cs) = (errorTags.drop 4).take 7 ++ tagsFrom (.text "Error code: ".toList) cs := fun _ => rfl
  have hmessage : ∀ cs, tagsFrom (.text []) ("</p>\n<p>Message: ".toList ++ cs) =
      (errorTags.drop 11).take 2 ++ tagsFrom (.text "Message: ".toList) cs := fun _ => rfl
  have hbefore : ∀ head title code between : String,
      (head ++ title ++ code ++ between).toList ++ cs =
        head.toList ++ (title.toList ++ (code.toList ++ (between.toList ++ cs))) := by
    intros
    simp only [String.toList_append, List.append_assoc]
  have htext : (beforeMessage status).toList ++ cs = _ := hbefore _ _ _ _
  rw [htext, hhead, tagsFrom_read, htitle, tagsFrom_read, tagsFrom_text (unmarked_code status), hmessage,
    tagsFrom_read]
  rfl

theorem tagsFrom_afterMessage : tagsFrom (.text []) (afterMessage status).toList = errorTags.drop 13 := by
  have hexplain : ∀ cs, tagsFrom (.text []) (".</p>\n<p>Error code explanation: ".toList ++ cs) =
      (errorTags.drop 13).take 2 ++ tagsFrom (.text "Error code explanation: ".toList) cs := fun _ => rfl
  have hfoot : tagsFrom (.text []) ".</p>\n</body>\n</html>\n".toList = errorTags.drop 15 := rfl
  have hafter : ∀ explain code dash reason foot : String,
      (explain ++ code ++ dash ++ reason ++ foot).toList =
        explain.toList ++ (code.toList ++ (dash.toList ++ (reason.toList ++ foot.toList))) := by
    intros
    simp only [String.toList_append, List.append_assoc]
  have htext : (afterMessage status).toList = _ := hafter _ _ _ _ _
  rw [htext, hexplain, tagsFrom_read, tagsFrom_text (unmarked_code status),
    tagsFrom_text (by decide : '<' ∉ " - ".toList), tagsFrom_text (unmarked_reason status), hfoot]
  rfl

theorem tags_errorPage : tags (errorPage status message) = errorTags := by
  rw [tags, toList_errorPage, tagsFrom_beforeMessage,
    tagsFrom_text (not_mem_escape (by decide) message.toList), tagsFrom_afterMessage]
  rfl

/-- Escaped text is safe and can be read back, so that a page of an error has one message, and its tags
do not depend on it. -/
theorem escaping_safe_and_reversible (text : String) :
    Safe (escapeText text).toList ∧ unescape (escapeText text).toList = text.toList ∧
      ∀ (status : Status) (other : String),
        (errorPage status text = errorPage status other ↔ text = other) ∧
          tags (errorPage status text) = errorTags := by
  have htext : (escapeText text).toList = escape text.toList := String.toList_ofList
  rw [htext]
  refine ⟨safe_escape _, unescape_escape _, fun status other => ⟨?_, tags_errorPage status text⟩⟩
  constructor
  · exact errorPage_injective status
  · rintro rfl
    rfl

end Response

end IsolatedSite
