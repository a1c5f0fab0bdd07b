import RwaControlPlane.Library.JsonText
import RwaControlPlane.Storage.Canonical

open js_value

namespace rwa.storage

section ReadModel

variable (platform : Platform)

mutual

/-- `canonicalize` of the read model. It writes a date as its ISO text. -/
def readModelCanonicalize : JsValue → Except String (Option String)
  | .date time => .ok (some (quote (platform.isoText time)))
  | .array items => do
    let texts ← readModelItems items
    return some ("[" ++ ",".intercalate (texts.map (·.getD "")) ++ "]")
  | .object members => do
    let texts ← readModelMembers members
    let sorted := texts.insertionSort fun first second => keyLe first.1 second.1
    return some ("\x7b" ++ ",".intercalate (sorted.map fun member =>
      quote member.1 ++ ":" ++ member.2.getD "undefined") ++ "\x7d")
  | value => canonicalize platform.numberText value
termination_by structural value => value

def readModelItems : List JsValue → Except String (List (Option String))
  | [] => .ok []
  | item :: rest => do
    let text ← readModelCanonicalize item
    let texts ← readModelItems rest
    return text :: texts
termination_by structural items => items

def readModelMembers : List (String × JsValue) → Except String (List (String × Option String))
  | [] => .ok []
  | (key, value) :: rest => do
    let text ← readModelCanonicalize value
    let texts ← readModelMembers rest
    return (key, text) :: texts
termination_by structural members => members

end

end ReadModel

/-- The files that have their own `canonicalize`. -/
inductive CanonicalizeCopy
  | postgresStore | controlPlane | envelopeCrypto | proofAdapter | institutionCallbackService | economicCommitment
  | productEvidence | postgresReadModel

/-- `canonicalize`, as each file writes it. -/
def CanonicalizeCopy.canonicalize (platform : Platform) : CanonicalizeCopy → JsValue → Except String (Option String)
  | .postgresStore | .controlPlane | .envelopeCrypto | .proofAdapter | .institutionCallbackService
  | .economicCommitment | .productEvidence => js_value.canonicalize platform.numberText
  | .postgresReadModel => readModelCanonicalize platform

variable {platform : Platform} {numbers : Set Rat} {readNumber : String → Option Rat}

private theorem readModelItems_eq {items : List JsValue}
    (h : ∀ item ∈ items, readModelCanonicalize platform item = canonicalize platform.numberText item) :
    readModelItems platform items = canonicalizeItems platform.numberText items := by
  induction items with
  | nil => rfl
  | cons item rest ih =>
    obtain ⟨hitem, hrest⟩ := List.forall_mem_cons.mp h
    rw [readModelItems, canonicalizeItems, hitem, ih hrest]

private theorem readModelMembers_eq {members : List (String × JsValue)}
    (h : ∀ member ∈ members, readModelCanonicalize platform member.2 = canonicalize platform.numberText member.2) :
    readModelMembers platform members = canonicalizeMembers platform.numberText members := by
  induction members with
  | nil => rfl
  | cons member rest ih =>
    obtain ⟨hmember, hrest⟩ := List.forall_mem_cons.mp h
    rw [readModelMembers, canonicalizeMembers, hmember, ih hrest]

/-- Without dates the read model writes what the other copies write. -/
theorem readModelCanonicalize_eq {value : JsValue} (h : IsJson numbers value) :
    readModelCanonicalize platform value = canonicalize platform.numberText value := by
  induction h with
  | null | bool | number | string => rfl
  | array hitems ih => rw [readModelCanonicalize, canonicalize, readModelItems_eq ih]
  | object hkeys hmembers ih => rw [readModelCanonicalize, canonicalize, readModelMembers_eq ih]

/-- All copies agree on JSON values. -/
theorem copies_agree {value : JsValue} (h : IsJson numbers value) (copy : CanonicalizeCopy) :
    copy.canonicalize platform value = canonicalize platform.numberText value := by
  cases copy with
  | postgresReadModel => exact readModelCanonicalize_eq h
  | _ => rfl

/-- Canonical texts of JSON values are the same exactly for values that are equal
up to the order of keys, they are parsed back to the value up to the order of keys,
and every copy of `canonicalize` writes the same text. -/
theorem canonical_encoding_faithful (platform : Platform)
    (htexts : NumberTexts numbers platform.numberText readNumber) (copy : CanonicalizeCopy) :
    (∀ value other, IsJson numbers value → IsJson numbers other →
      (copy.canonicalize platform value = copy.canonicalize platform other ↔ SameJson value other)) ∧
    (∀ value, IsJson numbers value → ∃ text parsed, copy.canonicalize platform value = .ok (some text) ∧
      jsonParse readNumber text = some parsed ∧ SameJson value parsed) ∧
    ∀ value, IsJson numbers value → ∀ other : CanonicalizeCopy,
      copy.canonicalize platform value = other.canonicalize platform value := by
  refine ⟨fun value other hvalue hother => ?_, fun value hvalue => ?_, fun value hvalue other => ?_⟩
  · rw [copies_agree hvalue, copies_agree hother]
    exact canonicalize_eq_iff htexts hvalue hother
  · obtain ⟨text, htext, hparse⟩ := hvalue.parse_canonicalize htexts
    exact ⟨text, sortKeys value, (copies_agree hvalue copy).trans htext, hparse, hvalue.same_sortKeys⟩
  · rw [copies_agree hvalue, copies_agree hvalue]

section Sample

/-- A runtime whose numbers are zero and one. -/
private def sampleEncodingPlatform : Platform where
  sha256 := id
  numberText value := if value = 0 then "0" else "1"
  isoText _ := ""

private def sampleReadNumber (text : String) : Option Rat :=
  if text = "0" then some 0 else if text = "1" then some 1 else none

private theorem sampleNumberTexts :
    NumberTexts {0, 1} sampleEncodingPlatform.numberText sampleReadNumber where
  nonempty := by
    rintro value (rfl | rfl) <;> decide
  chars := by
    rintro value (rfl | rfl) <;> simp [sampleEncodingPlatform, isNumberChar]
  reads := by
    rintro value (rfl | rfl) <;> simp [sampleEncodingPlatform, sampleReadNumber]

private def sampleParties : String × JsValue := ("parties", .array [.string "alice", .null])

private def sampleUnits : String × JsValue := ("units", .number 1)

private theorem sampleObject_json {members : List (String × JsValue)} (h : members.Perm [sampleUnits, sampleParties]) :
    IsJson {0, 1} (.object members) := by
  refine .object ((h.map Prod.fst).nodup_iff.mpr (by decide)) fun member hmember => ?_
  obtain rfl | rfl : member = sampleUnits ∨ member = sampleParties := by simpa using h.mem_iff.mp hmember
  · exact .number (by simp)
  · exact .array (by simpa using ⟨IsJson.string, IsJson.null⟩)

/-- Two orders of the same members have one canonical text in every copy, which is
parsed back. -/
theorem canonical_encoding_faithful_sample :
    let value : JsValue := .object [sampleUnits, sampleParties]
    let other : JsValue := .object [sampleParties, sampleUnits]
    let copy := CanonicalizeCopy.postgresReadModel
    (copy.canonicalize sampleEncodingPlatform value = copy.canonicalize sampleEncodingPlatform other ↔
      SameJson value other) ∧
    (∃ text parsed, copy.canonicalize sampleEncodingPlatform value = .ok (some text) ∧
      jsonParse sampleReadNumber text = some parsed ∧ SameJson value parsed) ∧
    ∀ other : CanonicalizeCopy,
      copy.canonicalize sampleEncodingPlatform value = other.canonicalize sampleEncodingPlatform value := by
  have hvalue := sampleObject_json (List.Perm.refl [sampleUnits, sampleParties])
  have hother := sampleObject_json (List.Perm.swap sampleUnits sampleParties [])
  obtain ⟨hsame, hparse, hcopies⟩ :=
    canonical_encoding_faithful sampleEncodingPlatform sampleNumberTexts .postgresReadModel
  exact ⟨hsame _ _ hvalue hother, hparse _ hvalue, hcopies _ hvalue⟩

end Sample

end rwa.storage
