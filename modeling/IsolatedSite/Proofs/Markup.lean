import Mathlib.Data.List.Forall2
import IsolatedSite.Listing
import IsolatedSite.Proofs.Percent

namespace IsolatedSite

namespace Html

def unescape : List Char → List Char
  | '&' :: 'a' :: 'm' :: 'p' :: ';' :: cs => '&' :: unescape cs
  | '&' :: 'l' :: 't' :: ';' :: cs => '<' :: unescape cs
  | '&' :: 'g' :: 't' :: ';' :: cs => '>' :: unescape cs
  | '&' :: 'q' :: 'u' :: 'o' :: 't' :: ';' :: cs => '"' :: unescape cs
  | '&' :: '#' :: 'x' :: '2' :: '7' :: ';' :: cs => '\'' :: unescape cs
  | c :: cs => c :: unescape cs
  | [] => []

theorem unescape_cons_of_ne {c : Char} (h : c ≠ '&') (cs : List Char) :
    unescape (c :: cs) = c :: unescape cs := by
  rw [unescape]
  all_goals simp [h]

theorem escapeChar_of_ne {c : Char} (h : c ∉ ['&', '<', '>', '"', '\'']) : escapeChar c = [c] := by
  unfold escapeChar
  split <;> simp_all

theorem unescape_escapeChar (c : Char) (cs : List Char) :
    unescape (escapeChar c ++ cs) = c :: unescape cs := by
  by_cases h : c ∈ ['&', '<', '>', '"', '\'']
  · simp only [List.mem_cons, List.not_mem_nil, or_false] at h
    rcases h with rfl | rfl | rfl | rfl | rfl <;> rfl
  · rw [escapeChar_of_ne h, List.singleton_append, unescape_cons_of_ne]
    rintro rfl
    simp at h

theorem unescape_escape (cs : List Char) : unescape (escape cs) = cs := by
  induction cs with
  | nil => rfl
  | cons c cs ih =>
      rw [escape, List.flatMap_cons, unescape_escapeChar]
      exact congrArg (c :: ·) ih

theorem not_mem_escape {c : Char} (h : c ∈ ['<', '>', '"', '\'']) (cs : List Char) :
    c ∉ escape cs := by
  intro hc
  obtain ⟨d, -, hd⟩ := List.mem_flatMap.1 hc
  by_cases hspecial : d ∈ ['&', '<', '>', '"', '\'']
  · simp only [List.mem_cons, List.not_mem_nil, or_false] at h hspecial
    rcases h with rfl | rfl | rfl | rfl <;>
      rcases hspecial with rfl | rfl | rfl | rfl | rfl <;> revert hd <;> decide
  · rw [escapeChar_of_ne hspecial, List.mem_singleton] at hd
    subst hd
    exact hspecial (List.mem_cons_of_mem _ h)

/-- A tag is kept without its quoted values, which stand behind it in their order. -/
inductive Mark where
  | text (content : String)
  | tag (frame : String) (values : List String)
  deriving DecidableEq

inductive Scan where
  | text (read : List Char)
  | tag (frame : List Char) (values : List String)
  | value (frame : List Char) (values : List String) (read : List Char)

def plain (read : List Char) : String := String.ofList (unescape read)

def marksFrom : Scan → List Char → List Mark
  | .text read, [] => [.text (plain read)]
  | .tag _ _, [] => []
  | .value _ _ _, [] => []
  | .text read, c :: cs =>
    if c = '<' then .text (plain read) :: marksFrom (.tag [] []) cs
    else marksFrom (.text (read ++ [c])) cs
  | .tag frame values, c :: cs =>
    if c = '>' then .tag (String.ofList frame) values :: marksFrom (.text []) cs
    else if c = '"' then marksFrom (.value frame values []) cs
    else marksFrom (.tag (frame ++ [c]) values) cs
  | .value frame values read, c :: cs =>
    if c = '"' then marksFrom (.tag frame (values ++ [plain read])) cs
    else marksFrom (.value frame values (read ++ [c])) cs

def marks (page : String) : List Mark := marksFrom (.text []) page.toList

/-- The links of a tag, all of whose attributes are quoted. -/
def Mark.links : Mark → List String
  | .text _ => []
  | .tag frame values =>
    ((splitOn '=' frame.toList).zip values).filterMap fun (name, value) =>
      if " href".toList.isSuffixOf name then some value else none

def links (page : String) : List String := (marks page).flatMap Mark.links

theorem plain_escape (s : String) : plain (escape s.toList) = s := by
  rw [plain, unescape_escape, String.ofList_toList]

theorem marksFrom_text {text : List Char} (h : '<' ∉ text) (read cs : List Char) :
    marksFrom (.text read) (text ++ '<' :: cs) =
      .text (plain (read ++ text)) :: marksFrom (.tag [] []) cs := by
  induction text generalizing read with
  | nil => simp [marksFrom]
  | cons c text ih =>
      rw [List.mem_cons, not_or] at h
      rw [List.cons_append, marksFrom, if_neg (Ne.symm h.1), ih h.2, List.append_assoc]
      rfl

theorem marksFrom_value {value : List Char} (h : '"' ∉ value) (frame : List Char)
    (values : List String) (read cs : List Char) :
    marksFrom (.value frame values read) (value ++ '"' :: cs) =
      marksFrom (.tag frame (values ++ [plain (read ++ value)])) cs := by
  induction value generalizing read with
  | nil => simp [marksFrom]
  | cons c value ih =>
      rw [List.mem_cons, not_or] at h
      rw [List.cons_append, marksFrom, if_neg (Ne.symm h.1), ih h.2, List.append_assoc]
      rfl

/-- Escaped text is one text, whatever it says. -/
theorem marksFrom_escape (s : String) (cs : List Char) :
    marksFrom (.text []) (escape s.toList ++ '<' :: cs) =
      .text s :: marksFrom (.tag [] []) cs := by
  rw [marksFrom_text (not_mem_escape (by decide) s.toList), List.nil_append, plain_escape]

theorem marksFrom_value_escape (frame : List Char) (values : List String) (s : String)
    (cs : List Char) :
    marksFrom (.value frame values []) (escape s.toList ++ '"' :: cs) =
      marksFrom (.tag frame (values ++ [s])) cs := by
  rw [marksFrom_value (not_mem_escape (by decide) s.toList), List.nil_append, plain_escape]

theorem escapeText_append (s t : String) : escapeText (s ++ t) = escapeText s ++ escapeText t := by
  simp only [escapeText, escape, String.toList_append, List.flatMap_append, String.ofList_append]

theorem escape_of_all {cs : List Char}
    (h : cs.all (fun c => c ∉ ['&', '<', '>', '"', '\'']) = true) : escape cs = cs := by
  induction cs with
  | nil => rfl
  | cons c cs ih =>
      rw [List.all_cons, Bool.and_eq_true, decide_eq_true_iff] at h
      rw [escape, List.flatMap_cons, escapeChar_of_ne h.1]
      exact congrArg (c :: ·) (ih h.2)

theorem escapeText_of_all {s : String}
    (h : s.toList.all (fun c => c ∉ ['&', '<', '>', '"', '\'']) = true) : escapeText s = s := by
  rw [escapeText, escape_of_all h, String.ofList_toList]

theorem toList_escaped (before text between label after : String) (rest : List Char) :
    (before ++ escapeText text ++ between ++ escapeText label ++ after).toList ++ rest =
      before.toList ++ (escape text.toList ++ (between.toList ++ (escape label.toList ++
        (after.toList ++ rest)))) := by
  simp only [escapeText, String.toList_append, String.toList_ofList, List.append_assoc]

end Html

namespace ListingEntry

/-- Entries that a reader of the page cannot tell apart. A directory does not show whether a link leads
to it. -/
structure Alike (e f : ListingEntry) : Prop where
  name : e.name = f.name
  isDirectory : e.isDirectory = f.isDirectory
  isLink : e.isDirectory = false → e.isLink = f.isLink

variable {e f : ListingEntry}

theorem slash_mem_href : '/' ∈ e.href.toList ↔ e.isDirectory = true := by
  have hname : '/' ∉ (Percent.encodeText e.name).toList := Percent.slash_not_mem_encodeText e.name
  cases hdir : e.isDirectory with
  | false => simp [href, hdir, hname]
  | true => simp [href, hdir]

theorem label_of_not_directory (h : e.isDirectory = false) :
    e.label = e.name ++ if e.isLink then "@" else "" := by
  cases hlink : e.isLink <;> simp [label, h, hlink]

theorem Alike.of_href_label (hhref : e.href = f.href) (hlabel : e.label = f.label) : e.Alike f := by
  have hdir : e.isDirectory = f.isDirectory := by
    rw [Bool.eq_iff_iff, ← slash_mem_href, ← slash_mem_href, hhref]
  have hname : e.name = f.name := by
    apply Percent.encodeText_injective
    cases hd : f.isDirectory with
    | false => simpa [href, hdir, hd] using hhref
    | true => simpa [href, hdir, hd] using hhref
  refine ⟨hname, hdir, fun hd => ?_⟩
  rw [label_of_not_directory hd, label_of_not_directory (hdir ▸ hd), hname,
    String.append_right_inj] at hlabel
  cases he : e.isLink <;> cases hf : f.isLink <;> simp [he, hf] at hlabel ⊢

theorem Alike.href_eq (h : e.Alike f) : e.href = f.href := by
  simp only [href, h.name, h.isDirectory]

theorem Alike.label_eq (h : e.Alike f) : e.label = f.label := by
  cases hdir : e.isDirectory with
  | true => simp only [label, h.name, ← h.isDirectory, hdir, if_true]
  | false =>
      have hdir' : f.isDirectory = false := by rw [← h.isDirectory, hdir]
      calc e.label
        _ = e.name ++ if e.isLink then "@" else "" := label_of_not_directory hdir
        _ = f.name ++ if f.isLink then "@" else "" := by rw [h.name, h.isLink hdir]
        _ = f.label := (label_of_not_directory hdir').symm

theorem Alike.item_eq (h : e.Alike f) : e.item = f.item :=
  congrArg₂ (fun href label => "<li><a href=\"" ++ Html.escapeText href ++ "\">" ++
    Html.escapeText label ++ "</a></li>\n") h.href_eq h.label_eq

end ListingEntry

namespace Listing

open Html

def heading (path : String) : String := "Directory listing for " ++ path

theorem title_eq (path : String) : title path = escapeText (heading path) := by
  have hlead : escapeText "Directory listing for " = "Directory listing for " :=
    escapeText_of_all (by decide)
  exact ((escapeText_append _ path).trans (congrArg (· ++ escapeText path) hlead)).symm

/-- One entry as it is read: a link with its label, in an item of its own. -/
def itemMarks (e : ListingEntry) : List Mark :=
  [.text "\n", .tag "li" [], .text "", .tag "a href=" [e.href], .text e.label, .tag "/a" [], .text "",
    .tag "/li" []]

def openMarks : List Mark :=
  [.text "", .tag "!DOCTYPE HTML" [], .text "\n", .tag "html lang=" ["en"], .text "\n",
    .tag "head" [], .text "\n", .tag "meta charset=" ["utf-8"], .text "\n", .tag "title" []]

def bodyMarks : List Mark :=
  [.tag "/title" [], .text "\n", .tag "/head" [], .text "\n", .tag "body" [], .text "\n",
    .tag "h1" []]

def listMarks : List Mark :=
  [.tag "/h1" [], .text "\n", .tag "hr" [], .text "\n", .tag "ul" []]

def footMarks : List Mark :=
  [.text "\n", .tag "/ul" [], .text "\n", .tag "hr" [], .text "\n", .tag "/body" [], .text "\n",
    .tag "/html" [], .text "\n"]

def pageMarks (path : String) (items : List ListingEntry) : List Mark :=
  openMarks ++ .text (heading path) :: bodyMarks ++ .text (heading path) :: listMarks ++
    items.flatMap itemMarks ++ footMarks

theorem marksFrom_item (e : ListingEntry) (rest : List Char) :
    marksFrom (.text ['\n']) (e.item.toList ++ rest) =
      itemMarks e ++ marksFrom (.text ['\n']) rest := by
  have hitem : e.item.toList ++ rest = "<li><a href=\"".toList ++ (escape e.href.toList ++
      ("\">".toList ++ (escape e.label.toList ++ ("</a></li>\n".toList ++ rest)))) := by
    exact toList_escaped _ _ _ _ _ rest
  have hopen : ∀ cs, marksFrom (.text ['\n']) ("<li><a href=\"".toList ++ cs) =
      [.text "\n", .tag "li" [], .text ""] ++ marksFrom (.value "a href=".toList [] []) cs :=
    fun _ => rfl
  have hlink : ∀ cs, marksFrom (.tag "a href=".toList [e.href]) ('>' :: cs) =
      .tag "a href=" [e.href] :: marksFrom (.text []) cs := fun _ => rfl
  have hclose : ∀ cs, marksFrom (.tag [] []) ("/a></li>\n".toList ++ cs) =
      [.tag "/a" [], .text "", .tag "/li" []] ++ marksFrom (.text ['\n']) cs := fun _ => rfl
  have htail : marksFrom (.text []) (escape e.label.toList ++ ("</a></li>\n".toList ++ rest)) =
      .text e.label :: marksFrom (.tag [] []) ("/a></li>\n".toList ++ rest) := by
    exact marksFrom_escape _ _
  calc marksFrom (.text ['\n']) (e.item.toList ++ rest)
    _ = [.text "\n", .tag "li" [], .text ""] ++ marksFrom (.value "a href=".toList [] [])
          (escape e.href.toList ++ ("\">".toList ++ (escape e.label.toList ++
            ("</a></li>\n".toList ++ rest)))) := by
        rw [hitem]
        exact hopen _
    _ = [.text "\n", .tag "li" [], .text ""] ++ marksFrom (.tag "a href=".toList [e.href])
          ('>' :: (escape e.label.toList ++ ("</a></li>\n".toList ++ rest))) :=
        congrArg (_ ++ ·) (marksFrom_value_escape _ _ _ _)
    _ = [.text "\n", .tag "li" [], .text "", .tag "a href=" [e.href], .text e.label] ++
          marksFrom (.tag [] []) ("/a></li>\n".toList ++ rest) :=
        congrArg (_ ++ ·) ((hlink _).trans (congrArg (_ :: ·) htail))
    _ = itemMarks e ++ marksFrom (.text ['\n']) rest := congrArg (_ ++ ·) (hclose rest)

theorem marksFrom_items (items : List ListingEntry) (rest : List Char) :
    marksFrom (.text ['\n']) ((String.join (items.map ListingEntry.item)).toList ++ rest) =
      items.flatMap itemMarks ++ marksFrom (.text ['\n']) rest := by
  induction items with
  | nil => rfl
  | cons e items ih =>
      rw [List.map_cons, String.join_cons, String.toList_append, List.append_assoc, marksFrom_item, ih,
        List.flatMap_cons, List.append_assoc]

theorem marksFrom_open (rest : List Char) :
    marksFrom (.text [])
        ("<!DOCTYPE HTML>\n<html lang=\"en\">\n<head>\n<meta charset=\"utf-8\">\n<title>".toList ++
          rest) =
      openMarks ++ marksFrom (.text []) rest := by
  -- Read in one go, the tags would be unfolded too deep.
  have hsplit :
      "<!DOCTYPE HTML>\n<html lang=\"en\">\n<head>\n<meta charset=\"utf-8\">\n<title>".toList =
        "<!DOCTYPE HTML>\n<html lang=\"en\">\n".toList ++
          "<head>\n<meta charset=\"utf-8\">\n<title>".toList := by decide +kernel
  have hstart : ∀ cs, marksFrom (.text [])
      ("<!DOCTYPE HTML>\n<html lang=\"en\">\n".toList ++ cs) =
        openMarks.take 4 ++ marksFrom (.text ['\n']) cs := fun _ => rfl
  have hhead : ∀ cs, marksFrom (.text ['\n'])
      ("<head>\n<meta charset=\"utf-8\">\n<title>".toList ++ cs) =
        openMarks.drop 4 ++ marksFrom (.text []) cs := fun _ => rfl
  rw [hsplit, List.append_assoc]
  exact (hstart _).trans (congrArg (_ ++ ·) (hhead rest))

theorem marksFrom_title (path : String) (rest : List Char) :
    marksFrom (.text []) ((title path).toList ++ '<' :: rest) =
      .text (heading path) :: marksFrom (.tag [] []) rest := by
  have htext : (title path).toList = escape (heading path).toList := by
    rw [title_eq, escapeText, String.toList_ofList]
  rw [htext, marksFrom_escape]

theorem marks_page (path : String) (items : List ListingEntry) :
    marks (page path items) = pageMarks path items := by
  have hbody : ∀ cs, marksFrom (.text [])
      ((title path).toList ++ ("</title>\n</head>\n<body>\n<h1>".toList ++ cs)) =
        .text (heading path) :: bodyMarks ++ marksFrom (.text []) cs :=
    fun _ => marksFrom_title path _
  have hlist : ∀ cs, marksFrom (.text [])
      ((title path).toList ++ ("</h1>\n<hr>\n<ul>\n".toList ++ cs)) =
        .text (heading path) :: listMarks ++ marksFrom (.text ['\n']) cs :=
    fun _ => marksFrom_title path _
  have hfoot : marksFrom (.text ['\n']) "</ul>\n<hr>\n</body>\n</html>\n".toList = footMarks := rfl
  have hpage : ∀ head title middle list items foot : String,
      (head ++ title ++ middle ++ title ++ list ++ items ++ foot).toList =
        head.toList ++ (title.toList ++ (middle.toList ++ (title.toList ++ (list.toList ++
          (items.toList ++ foot.toList))))) := by
    intros
    simp only [String.toList_append, List.append_assoc]
  have htext : (page path items).toList = _ := hpage _ _ _ _ _ _
  rw [marks, htext, marksFrom_open, hbody, hlist, marksFrom_items, hfoot]
  simp only [pageMarks, List.append_assoc]

theorem links_page (path : String) (items : List ListingEntry) :
    links (page path items) = items.map ListingEntry.href := by
  have hitem : ∀ e, (itemMarks e).flatMap Mark.links = [e.href] := fun _ => rfl
  have hitems : (items.flatMap itemMarks).flatMap Mark.links = items.map ListingEntry.href := by
    rw [List.flatMap_assoc, List.map_eq_flatMap]
    simp only [hitem]
  have hopen : openMarks.flatMap Mark.links = [] := by decide
  have hbody : bodyMarks.flatMap Mark.links = [] := by decide
  have hlist : listMarks.flatMap Mark.links = [] := by decide
  have hfoot : footMarks.flatMap Mark.links = [] := by decide
  have htext : ∀ text marks, (Mark.text text :: marks).flatMap Mark.links = marks.flatMap Mark.links :=
    fun _ _ => rfl
  simp only [links, marks_page, pageMarks, List.flatMap_append, htext, hopen, hbody, hlist, hitems,
    hfoot, List.nil_append, List.append_nil]

theorem alike_of_itemMarks {items items' : List ListingEntry}
    (h : items.flatMap itemMarks = items'.flatMap itemMarks) :
    List.Forall₂ ListingEntry.Alike items items' := by
  induction items generalizing items' with
  | nil =>
      cases items' with
      | nil => exact .nil
      | cons f items' => simp [itemMarks] at h
  | cons e items ih =>
      cases items' with
      | nil => simp [itemMarks] at h
      | cons f items' =>
          simp only [List.flatMap_cons, itemMarks, List.cons_append, List.nil_append, List.cons.injEq,
            Mark.tag.injEq, Mark.text.injEq, true_and, and_true] at h
          obtain ⟨hhref, hlabel, hrest⟩ := h
          exact .cons (.of_href_label hhref hlabel) (ih hrest)

theorem of_pageMarks {path path' : String} {items items' : List ListingEntry}
    (h : pageMarks path items = pageMarks path' items') :
    path = path' ∧ List.Forall₂ ListingEntry.Alike items items' := by
  simp only [pageMarks, List.append_left_inj, List.append_assoc, List.append_right_inj,
    List.cons_append, List.cons.injEq, Mark.text.injEq] at h
  obtain ⟨hpath, -, hitems⟩ := h
  exact ⟨(String.append_right_inj _).1 hpath, alike_of_itemMarks hitems⟩

theorem items_of_alike {items items' : List ListingEntry}
    (h : List.Forall₂ ListingEntry.Alike items items') :
    items.map ListingEntry.item = items'.map ListingEntry.item := by
  induction h with
  | nil => rfl
  | cons hfirst _ ih => rw [List.map_cons, List.map_cons, hfirst.item_eq, ih]

/-- A page says of a listing all that is shown of it: the path, and the entries one by one. What is
read from it are the tags of the page, whatever the path and the names, with one link for each entry. -/
theorem page_tells_listing (path path' : String) (items items' : List ListingEntry) :
    (page path items = page path' items' ↔
      path = path' ∧ List.Forall₂ ListingEntry.Alike items items') ∧
    marks (page path items) = pageMarks path items := by
  refine ⟨⟨fun h => ?_, ?_⟩, marks_page path items⟩
  · apply of_pageMarks
    rw [← marks_page, h, marks_page]
  · rintro ⟨rfl, h⟩
    exact congrArg (fun items => _ ++ String.join items ++ _) (items_of_alike h)

end Listing

end IsolatedSite
