import IsolatedSite.Log.AccessEntry
import IsolatedSite.Proofs.JsonText
import IsolatedSite.Proofs.Split
import IsolatedSite.Proofs.Utf8

namespace IsolatedSite

def Json.natural? : Json → Option Nat
  | .number ⟨false, whole, [], none⟩ => Decimal.read? whole
  | _ => none

theorem Json.natural?_natural (n : Nat) : (Json.natural n).natural? = some n := Decimal.read?_digits n

theorem Json.fits_natural {depth : Nat} (n : Nat) : Json.Fits depth (.natural n) :=
  .number (Numeral.sound_ofNat n)

theorem Json.fits_ofText? {depth : Nat} (text : Option String) : Json.Fits depth (.ofText? text) := by
  cases text with
  | none => exact .null
  | some s => exact .string s

theorem Utf8.le_of_mem_encode {cs : List Char} (h : cs.all Json.isShown = true) {b : UInt8}
    (hb : b ∈ encode cs) : 0x20 ≤ b := by
  obtain ⟨c, hc, hbc⟩ := List.mem_flatMap.1 hb
  have hshown : 0x20 ≤ c.toNat := of_decide_eq_true (List.all_eq_true.1 h c hc)
  rw [UInt8.le_iff_toNat_le]
  by_cases hlow : b.toNat < 0x80
  · rw [eq_of_mem_encodeChar hlow hbc, toNat_ofNat (Or.inl (by omega))] at hshown
    exact hshown
  · exact Nat.le_trans (by decide) (Nat.le_of_not_lt hlow)

namespace AccessEntry

variable (e : AccessEntry)

def fieldNames : List String :=
  ["remote_addr", "time", "method", "path", "query", "http_version", "status", "body_bytes", "referer",
    "user_agent", "request_time_us"]

/-- An object with one field for each field of an entry and no others. A text that is missing stands as
null, and a number as its numeral. -/
structure ToldBy (fields : List (String × Json)) : Prop where
  names : (fields.map Prod.fst).Perm fieldNames
  remoteAddress : fields.lookup "remote_addr" = some (.string e.remoteAddress)
  time : fields.lookup "time" = some (.string (String.ofList e.time.standard))
  method : fields.lookup "method" = some (.string e.method)
  path : fields.lookup "path" = some (.string e.path)
  query : fields.lookup "query" = some (e.query.elim .null .string)
  httpVersion : fields.lookup "http_version" = some (.string e.httpVersion)
  status : (fields.lookup "status").bind Json.natural? = some e.status
  bodyBytes : (fields.lookup "body_bytes").bind Json.natural? = some e.bodyBytes
  referer : fields.lookup "referer" = some (e.referer.elim .null .string)
  userAgent : fields.lookup "user_agent" = some (e.userAgent.elim .null .string)
  micros : (fields.lookup "request_time_us").bind Json.natural? = some e.micros

def jsonFields : List (String × Json) :=
  [
    ("body_bytes", .natural e.bodyBytes), ("http_version", .string e.httpVersion),
    ("method", .string e.method), ("path", .string e.path), ("query", .ofText? e.query),
    ("referer", .ofText? e.referer), ("remote_addr", .string e.remoteAddress),
    ("request_time_us", .natural e.micros), ("status", .natural e.status),
    ("time", .string (String.ofList e.time.standard)), ("user_agent", .ofText? e.userAgent)]

theorem toJson_eq : e.toJson = .object e.jsonFields := rfl

theorem toldBy_jsonFields : e.ToldBy e.jsonFields := by
  have htext : ∀ text : Option String, Json.ofText? text = text.elim .null .string := by
    intro text
    cases text <;> rfl
  constructor
  case names =>
    change List.Perm ["body_bytes", "http_version", "method", "path", "query", "referer", "remote_addr",
      "request_time_us", "status", "time", "user_agent"] fieldNames
    decide
  all_goals simp [jsonFields, List.lookup_cons, htext, Json.natural?_natural]

theorem fits_toJson : Json.Fits Json.depthLimit e.toJson := by
  rw [toJson_eq]
  refine .object ?_
  simp only [jsonFields, List.forall_mem_cons]
  refine ⟨Json.fits_natural _, .string _, .string _, .string _, Json.fits_ofText? _,
    Json.fits_ofText? _, .string _, Json.fits_natural _, Json.fits_natural _, .string _,
    Json.fits_ofText? _, ?_⟩
  exact fun _ h => absurd h List.not_mem_nil

/-- A line in JSON has no control octet in it, so that it is one line, and it is read as an object that
tells its entry. -/
theorem json_line_tells_entry :
    (∀ b ∈ Utf8.octets (e.line .json), 0x20 ≤ b) ∧
      splitOn 0x0A (Utf8.octets (e.line .json)) = [Utf8.octets (e.line .json)] ∧
      ∃ fields, Json.parse (e.line .json).toList = some (.object fields) ∧ e.ToldBy fields := by
  have hline : e.line .json = String.ofList e.toJson.write := rfl
  have hlow : ∀ b ∈ Utf8.octets (e.line .json), 0x20 ≤ b := by
    intro b hb
    rw [hline, Utf8.octets_ofList] at hb
    exact Utf8.le_of_mem_encode (Json.all_isShown_write e.fits_toJson) hb
  refine ⟨hlow, splitOn_of_not_mem fun hmem => absurd (hlow _ hmem) (by decide), e.jsonFields, ?_,
    e.toldBy_jsonFields⟩
  rw [hline, String.toList_ofList, Json.parse_write e.fits_toJson, toJson_eq]

end AccessEntry

end IsolatedSite
