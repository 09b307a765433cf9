import IsolatedSite.Proofs.TextLine

namespace IsolatedSite

def quoteMarks : List Char := ['"', ' ', '"']

theorem quote_mem_of_longer {more bs bs' : List Char} (hmore : more ≠ [])
    (h : quoteMarks ++ bs = more ++ (quoteMarks ++ bs')) : '"' ∈ more ∧ '"' ∈ bs := by
  -- The marks overlap with what is added to the text, if that is shorter than they are.
  match more, hmore, h with
  | [a], _, h =>
      simp [quoteMarks] at h
  | [a, b], _, h =>
      simp only [quoteMarks, List.cons_append, List.nil_append, List.cons.injEq] at h
      obtain ⟨rfl, rfl, -, rfl⟩ := h
      simp
  | a :: b :: c :: more, _, h =>
      simp only [quoteMarks, List.cons_append, List.nil_append, List.cons.injEq] at h
      obtain ⟨rfl, rfl, rfl, rfl⟩ := h
      simp

/-- Two pairs of texts in quotes that look the same are the same, unless there are quotes in the first
text of one pair and in the second of the other. -/
theorem quoted_texts_cases {as bs as' bs' : List Char}
    (h : as ++ (quoteMarks ++ bs) = as' ++ (quoteMarks ++ bs')) :
    as = as' ∧ bs = bs' ∨ '"' ∈ as ∧ '"' ∈ bs' ∨ '"' ∈ as' ∧ '"' ∈ bs := by
  by_cases heq : as = as'
  · subst heq
    exact Or.inl ⟨rfl, List.append_cancel_left (List.append_cancel_left h)⟩
  · rcases List.append_eq_append_iff.1 h with ⟨more, rfl, hrest⟩ | ⟨more, rfl, hrest⟩
    · have hmore : more ≠ [] := by
        rintro rfl
        exact heq (List.append_nil _).symm
      obtain ⟨hfirst, hsecond⟩ := quote_mem_of_longer hmore hrest
      exact Or.inr (Or.inr ⟨List.mem_append_right _ hfirst, hsecond⟩)
    · have hmore : more ≠ [] := by
        rintro rfl
        exact heq (List.append_nil _)
      obtain ⟨hfirst, hsecond⟩ := quote_mem_of_longer hmore hrest
      exact Or.inr (Or.inl ⟨List.mem_append_right _ hfirst, hsecond⟩)

theorem Status.eq_of_code {s s' : Status} (h : s.code = s'.code) : s = s' := by
  obtain ⟨code, inRange⟩ := s
  cases h
  rfl

theorem Target.eq_of_parts {target target' : Target} (hpath : target.path = target'.path)
    (hquery : target.query = target'.query) : target = target' := by
  obtain ⟨path, query⟩ := target
  cases hpath
  cases hquery
  rfl

namespace AccessEntry

variable {e e' : AccessEntry}

theorem toList_combinedLine (e : AccessEntry) :
    e.combinedLine.toList = e.commonLine.toList ++ ' ' :: '"' :: ((e.referer.getD "-").toList ++
      (quoteMarks ++ ((e.userAgent.getD "-").toList ++ ['"']))) := by
  simp [combinedLine, quoteMarks]

theorem agree_of_combinedLine (he : e.InWords) (he' : e'.InWords)
    (h : e.combinedLine = e'.combinedLine) :
    e.Agree e' ∧ (e.referer.getD "-").toList ++ (quoteMarks ++ (e.userAgent.getD "-").toList) =
      (e'.referer.getD "-").toList ++ (quoteMarks ++ (e'.userAgent.getD "-").toList) := by
  have hlines := congrArg String.toList h
  rw [toList_combinedLine, toList_combinedLine] at hlines
  have hlength : (splitOn ' ' e.commonLine.toList).length = (splitOn ' ' e'.commonLine.toList).length := by
    rw [splitOn_commonLine he, splitOn_commonLine he']
    rfl
  obtain ⟨hcommon, htexts⟩ := append_sep_inj hlength hlines
  constructor
  · apply agree_of_words he.unasked he'.unasked
    rw [← splitOn_commonLine he, ← splitOn_commonLine he', hcommon]
  · have hquoted := (List.cons.inj htexts).2
    simp only [← List.append_assoc] at hquoted ⊢
    exact List.append_cancel_right hquoted

end AccessEntry

namespace Site

/-- A combined line tells the request, the status and the size. It tells the referer and the user agent,
where a dash stands for none, unless one request has a quote in its referer and the other one a quote in
its user agent. -/
theorem combined_line_tells {req req' : Request} (hreq : req.Received) (hreq' : req'.Received)
    {peer peer' : IpAddress} {time time' : Stamp} {micros micros' : Nat} {r r' : Response}
    (h : (accessEntry peer.text time micros req r).line .combined =
      (accessEntry peer'.text time' micros' req' r').line .combined) :
    req.method = req'.method ∧ req.target = req'.target ∧ r.status = r'.status ∧
      r.body.size = r'.body.size ∧
      ((req.text? "referer").getD "-" = (req'.text? "referer").getD "-" ∧
          (req.text? "user-agent").getD "-" = (req'.text? "user-agent").getD "-" ∨
        '"' ∈ ((req.text? "referer").getD "-").toList ∧
          '"' ∈ ((req'.text? "user-agent").getD "-").toList ∨
        '"' ∈ ((req'.text? "referer").getD "-").toList ∧
          '"' ∈ ((req.text? "user-agent").getD "-").toList) := by
  obtain ⟨hagree, htexts⟩ := AccessEntry.agree_of_combinedLine
    (inWords_accessEntry hreq peer time micros r) (inWords_accessEntry hreq' peer' time' micros' r') h
  refine ⟨congrArg Method.mk hagree.method, Target.eq_of_parts hagree.path hagree.query,
    Status.eq_of_code hagree.status, hagree.bodyBytes, ?_⟩
  rcases quoted_texts_cases htexts with ⟨hreferer, huserAgent⟩ | hquotes
  · exact Or.inl ⟨String.toList_inj.1 hreferer, String.toList_inj.1 huserAgent⟩
  · exact Or.inr hquotes

def introducedRequest (referer : Option String) (userAgent : String) : Request where
  method := .get
  target := ⟨"/", none⟩
  version := .v11
  headers :=
    match referer with
    | some text => (Headers.empty.append "referer" (Utf8.octets text)).append "user-agent"
        (Utf8.octets userAgent)
    | none => Headers.empty.append "user-agent" (Utf8.octets userAgent)

theorem introducedRequest_received (referer : Option String) (userAgent : String) :
    (introducedRequest referer userAgent).Received :=
  ⟨⟨Utf8.octets "GET", rfl⟩, ⟨Utf8.octets "/", rfl⟩⟩

def introducedLine (referer : Option String) (userAgent : String) : String :=
  (accessEntry (IpAddress.text (.v4 [127, 0, 0, 1])) ⟨⟨0, 0⟩, 0⟩ 0
    (introducedRequest referer userAgent) (.bare .ok)).line .combined

theorem combined_line_tells_dash :
    (introducedRequest (some "-") "a\" \"b").Received ∧ (introducedRequest none "a\" \"b").Received ∧
      introducedLine (some "-") "a\" \"b" = introducedLine none "a\" \"b" ∧
      ((introducedRequest (some "-") "a\" \"b").text? "user-agent").getD "-" =
        ((introducedRequest none "a\" \"b").text? "user-agent").getD "-" := by
  have hline : introducedLine (some "-") "a\" \"b" = introducedLine none "a\" \"b" := by decide +kernel
  obtain ⟨-, -, -, -, ⟨-, hsame⟩ | ⟨hquote, -⟩ | ⟨hquote, -⟩⟩ := combined_line_tells
    (introducedRequest_received (some "-") "a\" \"b") (introducedRequest_received none "a\" \"b") hline
  · exact ⟨introducedRequest_received _ _, introducedRequest_received _ _, hline, hsame⟩
  · exact absurd hquote (by decide +kernel)
  · exact absurd hquote (by decide +kernel)

/-- Two requests that differ in both texts and have the same line. -/
theorem combined_line_forged :
    (introducedRequest (some "a\" \"b") "c").Received ∧
      (introducedRequest (some "a") "b\" \"c").Received ∧
      introducedLine (some "a\" \"b") "c" = introducedLine (some "a") "b\" \"c" ∧
      ((introducedRequest (some "a\" \"b") "c").text? "referer").getD "-" ≠
        ((introducedRequest (some "a") "b\" \"c").text? "referer").getD "-" ∧
      ((introducedRequest (some "a\" \"b") "c").text? "user-agent").getD "-" ≠
        ((introducedRequest (some "a") "b\" \"c").text? "user-agent").getD "-" :=
  ⟨introducedRequest_received _ _, introducedRequest_received _ _, by decide +kernel,
    by decide +kernel, by decide +kernel⟩

end Site

end IsolatedSite
