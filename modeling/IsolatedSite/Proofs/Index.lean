import Mathlib.Control.Monad.Basic
import IsolatedSite.Proofs.Spelling

namespace IsolatedSite

def Outcome.response? : Outcome → Option Response
  | .answered reply => some reply.response
  | .crashed => none

theorem Outcome.sent?_eq (o : Outcome) : o.sent? = o.response?.map Response.isolated := by
  cases o <;> rfl

namespace Site

variable {t : FileTree} {root candidate : Bytes} {site : Site} {req : Request}

theorem response?_answer (hm : req.method = .get ∨ req.method = .head) :
    (answer t site req).response? =
      (serve t site req).response?.map (Response.named · site.serverName) := by
  rw [answer, dispatch_eq_serve hm]
  cases serve t site req <;> rfl

/-- The name leads to a regular file of the served directory. -/
def IsIndex (t : FileTree) (root candidate : Bytes) (name : String) : Prop :=
  ∃ file data, confine t root (Path.push candidate (Utf8.octets name)) = .ok file ∧
    contentAt t file = .ok (.file data)

theorem indexFile?_of_isIndex {name : String} {file : Spot} {data : Bytes}
    (hconf : confine t root (Path.push candidate (Utf8.octets name)) = .ok file)
    (hfile : contentAt t file = .ok (.file data)) :
    indexFile? t root candidate [Utf8.octets name] =
      some (Path.push candidate (Utf8.octets name), file) := by
  simp only [indexFile?, hconf, hfile]

theorem isIndex_iff (t : FileTree) (root candidate : Bytes) (name : String) :
    (indexFile? t root candidate [Utf8.octets name]).isSome = true ↔
      IsIndex t root candidate name := by
  constructor
  · intro h
    obtain ⟨⟨requested, file⟩, hindex⟩ := Option.isSome_iff_exists.1 h
    obtain ⟨⟨other, hmem, rfl⟩, hconf, data, hfile⟩ := indexFile?_eq_some hindex
    rw [List.mem_singleton.1 hmem] at hconf
    exact ⟨file, data, hconf, hfile⟩
  · rintro ⟨file, data, hconf, hfile⟩
    rw [indexFile?_of_isIndex hconf hfile]
    rfl

instance (name : String) : Decidable (IsIndex t root candidate name) :=
  decidable_of_iff _ (isIndex_iff t root candidate name)

theorem indexFile?_eq_find? (names : List String) :
    indexFile? t root candidate (names.map Utf8.octets) =
      (names.find? fun name => IsIndex t root candidate name).bind fun name =>
        indexFile? t root candidate [Utf8.octets name] := by
  induction names with
  | nil => rfl
  | cons name names ih =>
      rw [List.map_cons, indexFile?_cons, ih]
      by_cases hname : IsIndex t root candidate name
      · obtain ⟨found, hfound⟩ :=
          Option.isSome_iff_exists.1 ((isIndex_iff t root candidate name).2 hname)
        rw [List.find?_cons_of_pos (by simpa using hname), hfound, Option.some_or, Option.bind_some,
          hfound]
      · have hnone : indexFile? t root candidate [Utf8.octets name] = none := by
          rw [← Option.not_isSome_iff_eq_none, isIndex_iff]
          exact hname
        rw [List.find?_cons_of_neg (by simpa using hname), hnone, Option.none_or]

def indexTexts : List String := ["index.html", "index.htm"]

theorem indexNames_eq : indexNames = indexTexts.map Utf8.octets := rfl

theorem resolve_index {path name : String} (hend : endsInSlash path = true)
    (h : resolve root path = .ok candidate) (hname : name ∈ indexTexts) :
    resolve root (path ++ name) = .ok (Path.push candidate (Utf8.octets name)) := by
  rcases List.mem_cons.1 hname with rfl | hname
  · have htext : Utf8.decode? (FileName.mk (Utf8.octets "index.html") (by decide)).octets =
        some "index.html".toList := by decide
    exact resolve_append hend h htext (Or.inl rfl) (by decide)
  · rw [List.mem_singleton.1 hname]
    have htext : Utf8.decode? (FileName.mk (Utf8.octets "index.htm") (by decide)).octets =
        some "index.htm".toList := by decide
    exact resolve_append hend h htext (Or.inl rfl) (by decide)

theorem endsInSlash_index (path : String) {name : String} (hname : name ∈ indexTexts) :
    endsInSlash (path ++ name) = false := by
  rcases List.mem_cons.1 hname with rfl | hname
  · simp [endsInSlash]
  · rw [List.mem_singleton.1 hname]
    simp [endsInSlash]

theorem response?_fileOutcome {other : Request} (hhead : req.isHead = other.isHead) (requested : Bytes)
    (place : Spot) :
    (fileOutcome t site req requested place).response? =
      (fileOutcome t site other requested place).response? := by
  simp only [fileOutcome, hhead]
  cases t.node? place.node with
  | none => rfl
  | some n =>
      dsimp only
      cases HttpDate.ofMoment? n.modified with
      | none => rfl
      | some date =>
          cases t.openForReading place.node with
          | error fault => rfl
          | ok id => rfl

structure Opens (t : FileTree) (root : Bytes) (path : String) (candidate : Bytes) (place : Spot) :
    Prop where
  resolves : resolve root path = .ok candidate
  confined : confine t root candidate = .ok place
  endsInSlash : endsInSlash path = true
  directory : ∃ entries, contentAt t place = .ok (.directory entries)

variable {path : String} {place : Spot}

theorem Opens.locate_eq (h : Opens t root path candidate place) :
    locate t root path =
      match indexFile? t root candidate indexNames with
      | some (requested, file) => .ok (.file requested file)
      | none => .ok (.listing place) := by
  obtain ⟨entries, hdir⟩ := h.directory
  simp only [locate, h.resolves, h.confined, foundAt, hdir, h.endsInSlash, Bool.not_true,
    Bool.false_eq_true, if_false]
  cases indexFile? t root candidate indexNames <;> rfl

theorem Opens.locate_of_index (h : Opens t root path candidate place) {name : String}
    (hfirst : indexTexts.find? (fun name => IsIndex t root candidate name) = some name) :
    ∃ file data, contentAt t file = .ok (.file data) ∧
      locate t root path = .ok (.file (Path.push candidate (Utf8.octets name)) file) ∧
      locate t root (path ++ name) = .ok (.file (Path.push candidate (Utf8.octets name)) file) := by
  have hmem := List.mem_of_find?_eq_some hfirst
  obtain ⟨file, data, hconf, hfile⟩ : IsIndex t root candidate name := by
    simpa using List.find?_some hfirst
  refine ⟨file, data, hfile, ?_, ?_⟩
  · rw [h.locate_eq, indexNames_eq, indexFile?_eq_find?, hfirst, Option.bind_some,
      indexFile?_of_isIndex hconf hfile]
  · simp only [locate, resolve_index h.endsInSlash h.resolves hmem, hconf, foundAt, hfile,
      endsInSlash_index path hmem, Bool.false_eq_true, if_false]

theorem Opens.locate_of_none (h : Opens t root path candidate place)
    (hnone : indexTexts.find? (fun name => IsIndex t root candidate name) = none) :
    locate t root path = .ok (.listing place) := by
  rw [h.locate_eq, indexNames_eq, indexFile?_eq_find?, hnone, Option.bind_none]

inductive AnswersListing (t : FileTree) (site : Site) (req : Request) (place : Spot) : Response → Prop
  | listed {items} (h : Listing.read t place = .ok items) : AnswersListing t site req place
      ((Response.html (Listing.page (displayPath req.target.path) items) req.isHead).named
        site.serverName).isolated
  | unread {fault} (h : Listing.read t place = .error fault) : AnswersListing t site req place
      ((Response.error .internalServerError "Unable to read file").named site.serverName).isolated

theorem AnswersListing.status {r : Response} (h : AnswersListing t site req place r) :
    r.status = .ok ∨ r.status = .internalServerError := by
  cases h with
  | listed =>
      exact Or.inl (by rw [Response.isolated_status, Response.named_status, Response.html_status])
  | unread => exact Or.inr (by rw [Response.isolated_status, Response.named_status]; rfl)

theorem answersListing_of_locate (hm : req.method = .get ∨ req.method = .head)
    (h : locate t site.root req.target.path = .ok (.listing place)) :
    ∃ r, (answer t site req).sent? = some r ∧ AnswersListing t site req place r := by
  have hserve : serve t site req = .answered (listingReply t req place) := by
    simp only [serve, h]
  rw [Outcome.sent?_eq, response?_answer hm, hserve]
  refine ⟨_, rfl, ?_⟩
  dsimp only
  cases hread : Listing.read t place with
  | ok items =>
      simp only [listingReply, hread]
      exact .listed hread
  | error fault =>
      simp only [listingReply, hread]
      exact .unread hread

/-- `/site` has an index file that leads out and one that may not be read. In `/site/home` a link stands
for the index file, in `/site/docs` there are a directory and a socket of these names. -/
def indexedTree : FileTree where
  nodes :=
    [⟨.directory
        [⟨⟨Utf8.octets "site", Eq.refl true⟩, 1⟩, ⟨⟨Utf8.octets "private", Eq.refl true⟩, 2⟩],
        .forDirectories, ⟨2, 0⟩⟩,
      ⟨.directory
        [⟨⟨Utf8.octets "index.html", Eq.refl true⟩, 3⟩, ⟨⟨Utf8.octets "index.htm", Eq.refl true⟩, 4⟩,
          ⟨⟨Utf8.octets "home", Eq.refl true⟩, 5⟩, ⟨⟨Utf8.octets "docs", Eq.refl true⟩, 6⟩,
          ⟨⟨Utf8.octets "welcome", Eq.refl true⟩, 7⟩],
        .forDirectories, ⟨2, 0⟩⟩,
      ⟨.file (Utf8.octets "private"), .forFiles, ⟨2, 0⟩⟩,
      ⟨.link (Utf8.octets "../private"), .forDirectories, ⟨2, 0⟩⟩,
      ⟨.file (Utf8.octets "sealed"), ⟨false, false, false⟩, ⟨2, 0⟩⟩,
      ⟨.directory [⟨⟨Utf8.octets "index.html", Eq.refl true⟩, 8⟩], .forDirectories, ⟨2, 0⟩⟩,
      ⟨.directory
        [⟨⟨Utf8.octets "index.html", Eq.refl true⟩, 9⟩, ⟨⟨Utf8.octets "index.htm", Eq.refl true⟩, 10⟩],
        .forDirectories, ⟨2, 0⟩⟩,
      ⟨.file (Utf8.octets "welcome"), .forFiles, ⟨2, 0⟩⟩,
      ⟨.link (Utf8.octets "../welcome"), .forDirectories, ⟨2, 0⟩⟩,
      ⟨.directory [], .forDirectories, ⟨2, 0⟩⟩,
      ⟨.socket, .forFiles, ⟨2, 0⟩⟩]
  workingDirectory := .root
  sound := by decide

def indexedSite : Site := ⟨Utf8.octets "/site", .builtIn, "site"⟩

end Site

end IsolatedSite
