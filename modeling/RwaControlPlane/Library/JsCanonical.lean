import RwaControlPlane.Library.JsValue
import Mathlib.Tactic.IntervalCases

namespace js_value

section Order

/-- A character is determined by the first of its code units, or by both. -/
private theorem codeUnits_chars_inj {first second : List Char}
    (h : codeUnits (String.ofList first) = codeUnits (String.ofList second)) : first = second := by
  unfold codeUnits at h
  rw [String.toList_ofList, String.toList_ofList] at h
  induction first generalizing second with
  | nil =>
    cases second with
    | nil => rfl
    | cons char second =>
      rw [List.flatMap_nil, List.flatMap_cons] at h
      split at h <;> cases h
  | cons char first ih =>
    cases second with
    | nil =>
      rw [List.flatMap_nil, List.flatMap_cons] at h
      split at h <;> cases h
    | cons other second =>
      have hchar : char.toNat < 0xd800 ∨ 0xdfff < char.toNat ∧ char.toNat < 0x110000 := char.valid
      have hother : other.toNat < 0xd800 ∨ 0xdfff < other.toNat ∧ other.toNat < 0x110000 := other.valid
      rw [List.flatMap_cons, List.flatMap_cons] at h
      split at h <;> split at h <;> simp only [List.cons_append, List.nil_append, List.cons.injEq] at h
      · obtain rfl := Char.toNat_inj.mp h.1
        rw [ih h.2]
      · omega
      · omega
      · obtain rfl : char = other := Char.toNat_inj.mp (by omega)
        rw [ih h.2.2]

theorem codeUnits_injective : Function.Injective codeUnits := by
  intro first second h
  apply String.toList_injective
  apply codeUnits_chars_inj
  rwa [String.ofList_toList, String.ofList_toList]

theorem keyLe_trans {first second third : String} (hfirst : keyLe first second) (hsecond : keyLe second third) :
    keyLe first third :=
  List.le_trans (List.not_lt.mp hfirst) (List.not_lt.mp hsecond)

theorem keyLe_total (first second : String) : keyLe first second ∨ keyLe second first :=
  List.le_total (codeUnits first) (codeUnits second)

theorem keyLe_antisymm {first second : String} (h : keyLe first second) (h' : keyLe second first) : first = second :=
  codeUnits_injective (List.le_antisymm (List.not_lt.mp h) (List.not_lt.mp h'))

end Order

section Quote

/-- Value of a hexadecimal digit. -/
private def hexValue (char : Char) : Nat := if char.isDigit then char.toNat - 48 else char.toNat - 87

/-- Read one character of a quoted text back. -/
private def readChar : List Char → Option (Char × List Char)
  | [] => none
  | char :: rest =>
    if char = '\\' then
      match rest with
      | 'b' :: rest => some (Char.ofNat 8, rest)
      | 't' :: rest => some (Char.ofNat 9, rest)
      | 'n' :: rest => some (Char.ofNat 10, rest)
      | 'f' :: rest => some (Char.ofNat 12, rest)
      | 'r' :: rest => some (Char.ofNat 13, rest)
      | 'u' :: _ :: _ :: high :: low :: rest => some (Char.ofNat (16 * hexValue high + hexValue low), rest)
      | char :: rest => some (char, rest)
      | [] => none
    else if char = Char.ofNat 34 then none
    else some (char, rest)

private theorem readChar_quoteChar {char : Char} {rest : List Char} :
    readChar (quoteChar char ++ rest) = some (char, rest) := by
  have hchar : char = Char.ofNat char.toNat := (Char.ofNat_toNat char).symm
  by_cases hcontrol : char.toNat < 32
  · generalize char.toNat = code at hchar hcontrol
    subst hchar
    interval_cases code <;> rfl
  · by_cases hquote : char.toNat = 34
    · rw [hquote] at hchar
      subst hchar
      rfl
    · by_cases hslash : char.toNat = 92
      · rw [hslash] at hchar
        subst hchar
        rfl
      · have hplain : quoteChar char = [char] := by
          unfold quoteChar
          split <;> first | omega | skip
          rw [if_neg hcontrol]
        have hneSlash : char ≠ '\\' := by
          rintro rfl
          exact hslash rfl
        have hneQuote : char ≠ Char.ofNat 34 := by
          rintro rfl
          exact hquote rfl
        rw [hplain, List.singleton_append, readChar.eq_def]
        simp only [if_neg hneSlash, if_neg hneQuote]

/-- No character is written so that it starts with a quotation mark. -/
private theorem readChar_quote {rest : List Char} : readChar (Char.ofNat 34 :: rest) = none := rfl

/-- A quoted text ends at its own quotation mark. -/
private theorem quoted_inj {first second rest other : List Char}
    (h : first.flatMap quoteChar ++ Char.ofNat 34 :: rest = second.flatMap quoteChar ++ Char.ofNat 34 :: other) :
    first = second ∧ rest = other := by
  induction first generalizing second with
  | nil =>
    cases second with
    | nil => exact ⟨rfl, (List.cons.inj h).2⟩
    | cons char second =>
      have hread := congrArg readChar h
      rw [List.flatMap_nil, List.nil_append, readChar_quote, List.flatMap_cons, List.append_assoc,
        readChar_quoteChar] at hread
      cases hread
  | cons char first ih =>
    have hread := congrArg readChar h
    rw [List.flatMap_cons, List.append_assoc, readChar_quoteChar] at hread
    cases second with
    | nil =>
      rw [List.flatMap_nil, List.nil_append, readChar_quote] at hread
      cases hread
    | cons other second =>
      rw [List.flatMap_cons, List.append_assoc, readChar_quoteChar] at hread
      obtain ⟨rfl, hrest⟩ := Prod.mk.inj (Option.some.inj hread)
      obtain ⟨rfl, hother⟩ := ih hrest
      exact ⟨rfl, hother⟩

private theorem toList_quote {text : String} :
    (quote text).toList = Char.ofNat 34 :: (text.toList.flatMap quoteChar ++ [Char.ofNat 34]) := by
  rw [quote, String.toList_ofList, List.cons_append]

/-- A quoted text is read back from the front of any text. -/
theorem quote_append_inj {first second : String} {rest other : List Char}
    (h : (quote first).toList ++ rest = (quote second).toList ++ other) : first = second ∧ rest = other := by
  rw [toList_quote, toList_quote, List.cons_append, List.cons_append, List.append_assoc, List.append_assoc] at h
  obtain ⟨htexts, hrest⟩ := quoted_inj (List.cons.inj h).2
  exact ⟨String.toList_injective htexts, hrest⟩

end Quote

section Members

/-- Text of a member whose value is a text. -/
private def memberText (member : String × String) : String := quote member.1 ++ ":" ++ quote member.2

private theorem memberText_append_inj {first second : String × String} {rest other : List Char}
    (h : (memberText first).toList ++ rest = (memberText second).toList ++ other) : first = second ∧ rest = other := by
  simp only [memberText, String.toList_append, List.append_assoc] at h
  obtain ⟨hkey, htail⟩ := quote_append_inj h
  obtain ⟨hvalue, hrest⟩ := quote_append_inj (List.append_cancel_left htail)
  exact ⟨Prod.ext hkey hvalue, hrest⟩

/-- Member texts after the first, each after a comma, and a closing brace. -/
private def joinedTail : List (String × String) → List Char
  | [] => ['\x7d']
  | member :: rest => ',' :: ((memberText member).toList ++ joinedTail rest)

private theorem joined_member_cons {member : String × String} {rest : List (String × String)} :
    (",".intercalate ((member :: rest).map memberText) ++ "\x7d").toList =
      (memberText member).toList ++ joinedTail rest := by
  induction rest generalizing member with
  | nil => simp [joinedTail]
  | cons next rest ih =>
    rw [joinedTail, ← ih]
    simp

private theorem joinedTail_inj {first second : List (String × String)} (h : joinedTail first = joinedTail second) :
    first = second := by
  induction first generalizing second with
  | nil =>
    cases second with
    | nil => rfl
    | cons member second => exact absurd (List.cons.inj h).1 (by decide)
  | cons member first ih =>
    cases second with
    | nil => exact absurd (List.cons.inj h).1 (by decide)
    | cons other second =>
      obtain ⟨rfl, htail⟩ := memberText_append_inj (List.cons.inj h).2
      rw [ih htail]

private theorem brace_ne_memberText {member : String × String} {rest : List Char} :
    ['\x7d'] ≠ (memberText member).toList ++ rest := by
  intro h
  rw [memberText, String.toList_append, String.toList_append, toList_quote] at h
  exact absurd (List.cons.inj h).1 (by decide)

/-- The text of the members determines them and their order. -/
private theorem joined_inj {first second : List (String × String)}
    (h : (",".intercalate (first.map memberText) ++ "\x7d").toList =
      (",".intercalate (second.map memberText) ++ "\x7d").toList) : first = second := by
  cases first with
  | nil =>
    cases second with
    | nil => rfl
    | cons member second =>
      rw [joined_member_cons] at h
      exact absurd h brace_ne_memberText
  | cons member first =>
    cases second with
    | nil =>
      rw [joined_member_cons] at h
      exact absurd h.symm brace_ne_memberText
    | cons other second =>
      rw [joined_member_cons, joined_member_cons] at h
      obtain ⟨rfl, htail⟩ := memberText_append_inj h
      rw [joinedTail_inj htail]

end Members

section Object

variable {numberText : Rat → String} {first second : List (String × String)}

/-- An object whose members are texts. -/
def texts (members : List (String × String)) : JsValue :=
  .object (members.map fun member => (member.1, .string member.2))

private theorem canonicalizeMembers_texts : canonicalizeMembers numberText
    (first.map fun member => (member.1, .string member.2)) =
      .ok (first.map fun member => (member.1, some (quote member.2))) := by
  induction first with
  | nil => rfl
  | cons member rest ih =>
    simp only [List.map_cons, canonicalizeMembers, canonicalize, ih]
    rfl

/-- The canonical text of an object of texts joins its members in the order of
their keys. -/
private theorem canonicalize_texts : canonicalize numberText (texts first) = .ok (some ("\x7b" ++
    (",".intercalate ((first.insertionSort fun member other => keyLe member.1 other.1).map memberText) ++
      "\x7d"))) := by
  have hsorted : (first.map fun member => (member.1, some (quote member.2))).insertionSort
      (fun member other => keyLe member.1 other.1) =
      (first.insertionSort fun member other => keyLe member.1 other.1).map
        fun member => (member.1, some (quote member.2)) := by
    symm
    exact List.map_insertionSort _ _ _ _ fun _ _ _ _ => Iff.rfl
  simp only [texts, canonicalize, canonicalizeMembers_texts, bind, Except.bind, pure, Except.pure]
  rw [hsorted, List.map_map, String.append_assoc]
  rfl

/-- Objects of texts with one canonical text have the same members. -/
theorem canonicalize_texts_inj (h : canonicalize numberText (texts first) = canonicalize numberText (texts second)) :
    first.Perm second := by
  rw [canonicalize_texts, canonicalize_texts] at h
  have htexts := congrArg String.toList (Option.some.inj (Except.ok.inj h))
  rw [@String.toList_append "\x7b", @String.toList_append "\x7b"] at htexts
  have hsorted := joined_inj (List.append_cancel_left htexts)
  have hperm := List.perm_insertionSort (fun member other : String × String => keyLe member.1 other.1)
  exact (hperm first).symm.trans (hsorted ▸ hperm second)

end Object

/-- Members with the same keys in the same order are the same when they are a
permutation of each other. -/
theorem eq_of_perm_of_keys {first second : List (String × String)} (hkeys : first.map Prod.fst = second.map Prod.fst)
    (hnodup : (first.map Prod.fst).Nodup) (h : first.Perm second) : first = second := by
  induction first generalizing second with
  | nil => exact h.nil_eq
  | cons member rest ih =>
    cases second with
    | nil => exact absurd hkeys (by simp)
    | cons other second =>
      simp only [List.map_cons, List.cons.injEq] at hkeys
      simp only [List.map_cons, List.nodup_cons] at hnodup
      have hmember : member = other := by
        rcases List.mem_cons.mp (h.subset List.mem_cons_self) with hmember | hlater
        · exact hmember
        · exact absurd (hkeys.2 ▸ List.mem_map_of_mem hlater) hnodup.1
      subst hmember
      rw [ih hkeys.2 hnodup.2 h.cons_inv]

end js_value
