import RwaControlPlane.Library.JsCanonical
import RwaControlPlane.Library.JsText
import Mathlib.Tactic.IntervalCases

namespace js_value

section Parse

/-- White space of JSON. -/
def isJsonSpace (char : Char) : Bool := [32, 9, 10, 13].contains char.toNat

def skipSpace (chars : List Char) : List Char := chars.dropWhile isJsonSpace

/-- Characters of the text of a number. -/
def isNumberChar (char : Char) : Bool := char.isDigit || ['-', '+', '.', 'e', 'E'].contains char

/-- Four hexadecimal digits. -/
def readCodeUnit : List Char → Option (Nat × List Char)
  | first :: second :: third :: fourth :: rest => do
    let number ← js_text.digitsFrom 16 0 [first, second, third, fourth]
    some (number, rest)
  | _ => none

/-- What follows a backslash. A surrogate stands in a pair. -/
def readEscape : List Char → Option (Char × List Char)
  | [] => none
  | char :: rest =>
    match char.toNat with
    | 34 | 47 | 92 => some (char, rest)
    | 98 => some (Char.ofNat 8, rest)
    | 102 => some (Char.ofNat 12, rest)
    | 110 => some (Char.ofNat 10, rest)
    | 114 => some (Char.ofNat 13, rest)
    | 116 => some (Char.ofNat 9, rest)
    | 117 => do
      let (unit, rest) ← readCodeUnit rest
      if unit < 0xd800 ∨ 0xdfff < unit then some (Char.ofNat unit, rest)
      else
        match rest with
        | '\\' :: 'u' :: rest => do
          let (low, rest) ← readCodeUnit rest
          if unit < 0xdc00 ∧ 0xdc00 ≤ low ∧ low ≤ 0xdfff then
            some (Char.ofNat (0x10000 + 0x400 * (unit - 0xd800) + (low - 0xdc00)), rest)
          else none
        | _ => none
    | _ => none

/-- A text up to its closing quotation mark. The fuel bounds its characters. -/
def readText : Nat → List Char → Option (List Char × List Char)
  | 0, _ => none
  | _ + 1, [] => none
  | fuel + 1, char :: rest =>
    if char.toNat = 34 then some ([], rest)
    else if char.toNat < 32 then none
    else do
      let (char, rest) ← if char = '\\' then readEscape rest else some (char, rest)
      let (chars, rest) ← readText fuel rest
      some (char :: chars, rest)

/-- A member of an object is assigned. -/
def assign (members : List (String × JsValue)) (member : String × JsValue) : List (String × JsValue) :=
  if member.1 ∈ members.map Prod.fst then
    members.map fun other => if other.1 = member.1 then member else other
  else members ++ [member]

-- the reading of a number is left open
variable (readNumber : String → Option Rat)

mutual

/-- A value at the front of a text, and the rest. The fuel bounds the calls. -/
def parseValue : Nat → List Char → Option (JsValue × List Char)
  | 0, _ => none
  | fuel + 1, chars =>
    match skipSpace chars with
    | [] => none
    | char :: rest =>
      if char = '[' then
        match skipSpace rest with
        | ']' :: rest => some (.array [], rest)
        | _ => (parseItems fuel rest).map fun (items, rest) => (.array items, rest)
      else if char = '\x7b' then
        match skipSpace rest with
        | '\x7d' :: rest => some (.object [], rest)
        | _ => (parseMembers fuel rest).map fun (members, rest) => (.object (members.foldl assign []), rest)
      else if char.toNat = 34 then
        (readText (rest.length + 1) rest).map fun (chars, rest) => (.string (String.ofList chars), rest)
      else if isNumberChar char = true then
        (readNumber (String.ofList (char :: rest.takeWhile isNumberChar))).map fun value =>
          (.number value, rest.dropWhile isNumberChar)
      else
        match char :: rest with
        | 't' :: 'r' :: 'u' :: 'e' :: rest => some (.bool true, rest)
        | 'f' :: 'a' :: 'l' :: 's' :: 'e' :: rest => some (.bool false, rest)
        | 'n' :: 'u' :: 'l' :: 'l' :: rest => some (.null, rest)
        | _ => none

/-- The items of an array up to its closing bracket. -/
def parseItems : Nat → List Char → Option (List JsValue × List Char)
  | 0, _ => none
  | fuel + 1, chars => do
    let (item, rest) ← parseValue fuel chars
    match skipSpace rest with
    | ',' :: rest => (parseItems fuel rest).map fun (items, rest) => (item :: items, rest)
    | ']' :: rest => some ([item], rest)
    | _ => none

/-- The members of an object up to its closing brace. -/
def parseMembers : Nat → List Char → Option (List (String × JsValue) × List Char)
  | 0, _ => none
  | fuel + 1, chars =>
    match skipSpace chars with
    | [] => none
    | char :: rest =>
      if char.toNat = 34 then do
        let (key, rest) ← readText (rest.length + 1) rest
        match skipSpace rest with
        | ':' :: rest => do
          let (value, rest) ← parseValue fuel rest
          match skipSpace rest with
          | ',' :: rest =>
            (parseMembers fuel rest).map fun (members, rest) => ((String.ofList key, value) :: members, rest)
          | '\x7d' :: rest => some ([(String.ofList key, value)], rest)
          | _ => none
        | _ => none
      else none

end

/-- `JSON.parse(text)` -/
def jsonParse (text : String) : Option JsValue :=
  match parseValue readNumber (2 * text.toList.length + 1) text.toList with
  | some (value, rest) => if skipSpace rest = [] then some value else none
  | none => none

end Parse

section Json

/-- JSON values, whose numbers are those of the runtime. -/
inductive IsJson (numbers : Set Rat) : JsValue → Prop
  | null : IsJson numbers .null
  | bool {value : Bool} : IsJson numbers (.bool value)
  | number {value : Rat} (hvalue : value ∈ numbers) : IsJson numbers (.number value)
  | string {text : String} : IsJson numbers (.string text)
  | array {items : List JsValue} (hitems : ∀ item ∈ items, IsJson numbers item) : IsJson numbers (.array items)
  | object {members : List (String × JsValue)} (hkeys : (members.map Prod.fst).Nodup)
      (hmembers : ∀ member ∈ members, IsJson numbers member.2) : IsJson numbers (.object members)

theorem isJson_empty {numbers : Set Rat} : IsJson numbers (.object []) :=
  .object List.nodup_nil (List.forall_mem_nil _)

/-- Values that are equal up to the order of the members of objects. -/
inductive SameJson : JsValue → JsValue → Prop
  | null : SameJson .null .null
  | bool {value : Bool} : SameJson (.bool value) (.bool value)
  | number {value : Rat} : SameJson (.number value) (.number value)
  | string {text : String} : SameJson (.string text) (.string text)
  | array {items others : List JsValue} (hlength : items.length = others.length)
      (hitems : ∀ pair ∈ items.zip others, SameJson pair.1 pair.2) : SameJson (.array items) (.array others)
  | object {members others first second : List (String × JsValue)} (hfirst : first.Perm members)
      (hsecond : second.Perm others) (hkeys : first.map Prod.fst = second.map Prod.fst)
      (hvalues : ∀ pair ∈ first.zip second, SameJson pair.1.2 pair.2.2) : SameJson (.object members) (.object others)

/-- The members of an object in the order of their keys. -/
def sortMembers (members : List (String × JsValue)) : List (String × JsValue) :=
  members.insertionSort fun first second => keyLe first.1 second.1

mutual

/-- A value with the members of its objects in the order of their keys. -/
def sortKeys : JsValue → JsValue
  | .array items => .array (sortItems items)
  | .object members => .object (sortMembers (sortValues members))
  | value => value
termination_by structural value => value

def sortItems : List JsValue → List JsValue
  | [] => []
  | item :: rest => sortKeys item :: sortItems rest
termination_by structural items => items

def sortValues : List (String × JsValue) → List (String × JsValue)
  | [] => []
  | (key, value) :: rest => (key, sortKeys value) :: sortValues rest
termination_by structural members => members

end

theorem sortItems_eq {items : List JsValue} : sortItems items = items.map sortKeys := by
  induction items with
  | nil => rfl
  | cons item rest ih => rw [sortItems, ih, List.map_cons]

theorem sortValues_eq {members : List (String × JsValue)} :
    sortValues members = members.map fun member => (member.1, sortKeys member.2) := by
  induction members with
  | nil => rfl
  | cons member rest ih => rw [sortValues, ih, List.map_cons]

theorem sortMembers_perm {members : List (String × JsValue)} : (sortMembers members).Perm members :=
  List.perm_insertionSort _ _

/-- Sorting looks at keys only. -/
theorem sortMembers_sortValues {members : List (String × JsValue)} :
    sortMembers (sortValues members) = sortValues (sortMembers members) := by
  rw [sortValues_eq, sortValues_eq, sortMembers, sortMembers]
  symm
  exact List.map_insertionSort _ _ _ _ fun _ _ _ _ => Iff.rfl

/-- Members with distinct keys are sorted in one way. -/
theorem sortMembers_of_perm {first second : List (String × JsValue)} (hkeys : (first.map Prod.fst).Nodup)
    (h : first.Perm second) : sortMembers first = sortMembers second := by
  have htotal : Std.Total fun member other : String × JsValue => keyLe member.1 other.1 :=
    ⟨fun _ _ => keyLe_total _ _⟩
  have htrans : IsTrans (String × JsValue) fun member other => keyLe member.1 other.1 :=
    ⟨fun _ _ _ => keyLe_trans⟩
  have hperm : (sortMembers first).Perm (sortMembers second) :=
    sortMembers_perm.trans (h.trans sortMembers_perm.symm)
  refine hperm.eq_of_pairwise ?_ (List.pairwise_insertionSort _ first) (List.pairwise_insertionSort _ second)
  intro member other hmember hother hle hge
  exact List.inj_on_of_nodup_map hkeys (sortMembers_perm.mem_iff.mp hmember)
    (h.mem_iff.mpr (sortMembers_perm.mem_iff.mp hother)) (keyLe_antisymm hle hge)

variable {numbers : Set Rat}

theorem keys_sortValues {members : List (String × JsValue)} :
    (sortValues members).map Prod.fst = members.map Prod.fst := by
  rw [sortValues_eq, List.map_map]
  rfl

/-- Sorting keeps JSON values. -/
theorem IsJson.sortKeys {value : JsValue} (h : IsJson numbers value) : IsJson numbers (sortKeys value) := by
  induction h with
  | null => exact .null
  | bool => exact .bool
  | number hvalue => exact .number hvalue
  | string => exact .string
  | array hitems ih =>
    rw [js_value.sortKeys, sortItems_eq]
    exact .array (List.forall_mem_map.mpr ih)
  | object hkeys hmembers ih =>
    rw [js_value.sortKeys, sortMembers_sortValues, sortValues_eq]
    refine .object ?_ (List.forall_mem_map.mpr fun member hmember => ih member (sortMembers_perm.mem_iff.mp hmember))
    rw [← sortValues_eq, keys_sortValues]
    exact (sortMembers_perm.map Prod.fst).nodup_iff.mpr hkeys

private theorem mem_zip_map {α β : Type} {rows : List α} {change : α → β} {pair : α × β}
    (h : pair ∈ rows.zip (rows.map change)) : pair.1 ∈ rows ∧ pair.2 = change pair.1 := by
  induction rows with
  | nil => cases h
  | cons row rest ih =>
    obtain rfl | hlater := List.mem_cons.mp h
    · exact ⟨List.mem_cons_self, rfl⟩
    · exact ⟨List.mem_cons_of_mem _ (ih hlater).1, (ih hlater).2⟩

private theorem mem_zip_getElem {α β : Type} {first : List α} {second : List β} {index : Nat}
    (hfirst : index < first.length) (hsecond : index < second.length) :
    (first[index], second[index]) ∈ first.zip second := by
  rw [← List.getElem_zip (h := by rw [List.length_zip]; omega)]
  exact List.getElem_mem _

/-- A JSON value is equal to itself up to the order of keys, however it is sorted. -/
theorem IsJson.same_sortKeys {value : JsValue} (h : IsJson numbers value) :
    SameJson value (js_value.sortKeys value) := by
  induction h with
  | null => exact .null
  | bool => exact .bool
  | number hvalue => exact .number
  | string => exact .string
  | @array items hitems ih =>
    rw [js_value.sortKeys, sortItems_eq]
    refine .array (List.length_map _).symm fun pair hpair => ?_
    obtain ⟨hitem, hsorted⟩ := mem_zip_map hpair
    rw [hsorted]
    exact ih pair.1 hitem
  | @object members hkeys hmembers ih =>
    rw [js_value.sortKeys]
    refine .object (List.Perm.refl members) sortMembers_perm.symm keys_sortValues.symm fun pair hpair => ?_
    rw [sortValues_eq] at hpair
    obtain ⟨hmember, hsorted⟩ := mem_zip_map hpair
    rw [hsorted]
    exact ih pair.1 hmember

/-- Values that are equal up to the order of keys are sorted alike. -/
theorem SameJson.sortKeys_eq {value other : JsValue} (h : SameJson value other) (hvalue : IsJson numbers value) :
    sortKeys value = sortKeys other := by
  induction h with
  | null | bool | number | string => rfl
  | @array items others hlength hsame ih =>
    cases hvalue with | array hitems =>
    rw [sortKeys, sortKeys, sortItems_eq, sortItems_eq]
    refine congrArg JsValue.array (List.ext_getElem (by simpa using hlength) fun index hindex hother => ?_)
    rw [List.length_map] at hindex hother
    rw [List.getElem_map, List.getElem_map]
    exact ih _ (mem_zip_getElem hindex hother) (hitems _ (List.getElem_mem _))
  | @object members others first second hfirst hsecond hkeys hvalues ih =>
    cases hvalue with | object hdistinct hmembers =>
    have hsame : sortValues first = sortValues second := by
      rw [sortValues_eq, sortValues_eq]
      have hlength : first.length = second.length := by simpa using congrArg List.length hkeys
      refine List.ext_getElem (by simpa using hlength) fun index hindex hother => ?_
      rw [List.length_map] at hindex hother
      rw [List.getElem_map, List.getElem_map]
      have hkey : first[index].1 = second[index].1 := by
        have hget := congrArg (fun keys => keys[index]?) hkeys
        simpa [hindex, hother] using hget
      rw [hkey, ih _ (mem_zip_getElem hindex hother) (hmembers _ (hfirst.mem_iff.mp (List.getElem_mem _)))]
    have hperm : (sortValues members).Perm (sortValues others) := by
      have hmapped := hfirst.symm.map fun member : String × JsValue => (member.1, sortKeys member.2)
      have hmappedToo := hsecond.map fun member : String × JsValue => (member.1, sortKeys member.2)
      rw [← sortValues_eq, ← sortValues_eq] at hmapped hmappedToo
      exact hmapped.trans (hsame ▸ hmappedToo)
    rw [sortKeys, sortKeys, sortMembers_of_perm (by rwa [keys_sortValues]) hperm]

/-- Values that are sorted alike are equal up to the order of keys. -/
theorem same_of_sortKeys {value other : JsValue} (hvalue : IsJson numbers value) (hother : IsJson numbers other)
    (h : sortKeys value = sortKeys other) : SameJson value other := by
  induction hvalue generalizing other with
  | null => cases hother <;> first | exact .null | cases h
  | bool => cases hother <;> first | (cases h; exact .bool) | cases h
  | number hvalue => cases hother <;> first | (cases h; exact .number) | cases h
  | string => cases hother <;> first | (cases h; exact .string) | cases h
  | @array items hitems ih =>
    cases hother with
    | @array others hothers =>
      simp only [sortKeys, sortItems_eq, JsValue.array.injEq] at h
      have hlength : items.length = others.length := by simpa using congrArg List.length h
      refine .array hlength fun pair hpair => ?_
      obtain ⟨index, hindex, rfl⟩ := List.getElem_of_mem hpair
      rw [List.length_zip] at hindex
      rw [List.getElem_zip]
      refine ih _ (List.getElem_mem _) (hothers _ (List.getElem_mem _)) ?_
      have hget := congrArg (fun values => values[index]?) h
      simpa [show index < items.length by omega, show index < others.length by omega] using hget
    | _ => cases h
  | @object members hkeys hmembers ih =>
    cases hother with
    | @object others hotherKeys hothers =>
      simp only [sortKeys, sortMembers_sortValues, JsValue.object.injEq] at h
      have hkeysSame := congrArg (List.map Prod.fst) h
      rw [keys_sortValues, keys_sortValues] at hkeysSame
      have hlength : (sortMembers members).length = (sortMembers others).length := by
        simpa using congrArg List.length hkeysSame
      refine .object sortMembers_perm sortMembers_perm hkeysSame fun pair hpair => ?_
      obtain ⟨index, hindex, rfl⟩ := List.getElem_of_mem hpair
      rw [List.length_zip] at hindex
      rw [List.getElem_zip]
      refine ih _ (sortMembers_perm.mem_iff.mp (List.getElem_mem _))
        (hothers _ (sortMembers_perm.mem_iff.mp (List.getElem_mem _))) ?_
      rw [sortValues_eq, sortValues_eq] at h
      have hget := congrArg (fun values => values[index]?) h
      simp [show index < (sortMembers members).length by omega, show index < (sortMembers others).length by omega]
        at hget
      exact hget.2
    | _ => cases h

end Json

section Text

/-- Texts with commas between them and a closing character behind them. -/
def joined (close : Char) : List (List Char) → List Char
  | [] => [close]
  | [text] => text ++ [close]
  | text :: next :: rest => text ++ ',' :: joined close (next :: rest)

theorem joined_cons {close : Char} {text : List Char} {rest : List (List Char)} :
    ∃ later, joined close (text :: rest) = text ++ later := by
  cases rest with
  | nil => exact ⟨[close], rfl⟩
  | cons next rest => exact ⟨',' :: joined close (next :: rest), rfl⟩

theorem joined_eq {close : String} {closeChar : Char} (hclose : close.toList = [closeChar]) {texts : List (List Char)} :
    (",".intercalate (texts.map String.ofList) ++ close).toList = joined closeChar texts := by
  induction texts with
  | nil => simp [joined, hclose]
  | cons text rest ih =>
    cases rest with
    | nil => simp [joined, hclose]
    | cons next rest =>
      rw [joined, ← ih]
      simp

variable (numberText : Rat → String)

mutual

/-- The text of a JSON value. -/
def jsonText : JsValue → List Char
  | .null => ['n', 'u', 'l', 'l']
  | .bool true => ['t', 'r', 'u', 'e']
  | .bool false => ['f', 'a', 'l', 's', 'e']
  | .number value => (numberText value).toList
  | .string text => (quote text).toList
  | .array items => '[' :: joined ']' (itemTexts items)
  | .object members => '\x7b' :: joined '\x7d' (memberTexts members)
  | _ => []
termination_by structural value => value

def itemTexts : List JsValue → List (List Char)
  | [] => []
  | item :: rest => jsonText item :: itemTexts rest
termination_by structural items => items

def memberTexts : List (String × JsValue) → List (List Char)
  | [] => []
  | (key, value) :: rest => ((quote key).toList ++ ':' :: jsonText value) :: memberTexts rest
termination_by structural members => members

end

variable {numberText} {numbers : Set Rat}

theorem itemTexts_eq {items : List JsValue} : itemTexts numberText items = items.map (jsonText numberText) := by
  induction items with
  | nil => rfl
  | cons item rest ih => rw [itemTexts, ih, List.map_cons]

theorem memberTexts_eq {members : List (String × JsValue)} : memberTexts numberText members =
    members.map fun member => (quote member.1).toList ++ ':' :: jsonText numberText member.2 := by
  induction members with
  | nil => rfl
  | cons member rest ih => rw [memberTexts, ih, List.map_cons]

private theorem canonicalizeItems_eq {items : List JsValue} {text : JsValue → String}
    (h : ∀ item ∈ items, canonicalize numberText item = .ok (some (text item))) :
    canonicalizeItems numberText items = .ok (items.map fun item => some (text item)) := by
  induction items with
  | nil => rfl
  | cons item rest ih =>
    obtain ⟨hitem, hrest⟩ := List.forall_mem_cons.mp h
    rw [canonicalizeItems, hitem, ih hrest]
    rfl

private theorem canonicalizeMembers_eq {members : List (String × JsValue)} {text : JsValue → String}
    (h : ∀ member ∈ members, canonicalize numberText member.2 = .ok (some (text member.2))) :
    canonicalizeMembers numberText members = .ok (members.map fun member => (member.1, some (text member.2))) := by
  induction members with
  | nil => rfl
  | cons member rest ih =>
    obtain ⟨hmember, hrest⟩ := List.forall_mem_cons.mp h
    rw [canonicalizeMembers, hmember, ih hrest]
    rfl

/-- The canonical text is the text of the sorted value. -/
theorem IsJson.canonicalize_eq {value : JsValue} (h : IsJson numbers value) :
    canonicalize numberText value = .ok (some (String.ofList (jsonText numberText (js_value.sortKeys value)))) := by
  induction h with
  | null => rfl
  | @bool value => cases value <;> rfl
  | number hvalue =>
    rw [canonicalize, js_value.sortKeys, jsonText, String.ofList_toList]
    · nofun
    · nofun
  | string =>
    rw [canonicalize, js_value.sortKeys, jsonText, String.ofList_toList]
    · nofun
    · nofun
  | @array items hitems ih =>
    rw [canonicalize, canonicalizeItems_eq ih, js_value.sortKeys, jsonText, itemTexts_eq, sortItems_eq]
    refine congrArg (fun text => Except.ok (some text)) (String.toList_injective ?_)
    rw [String.append_assoc, String.toList_append, List.map_map, List.map_map, ← @joined_eq "]" ']' rfl, List.map_map]
    simp [Function.comp_def]
  | @object members hkeys hmembers ih =>
    rw [canonicalize, @canonicalizeMembers_eq numberText members
      (fun value => String.ofList (jsonText numberText (js_value.sortKeys value))) ih, js_value.sortKeys, jsonText,
        memberTexts_eq, sortMembers_sortValues,
      sortValues_eq]
    have hsorted : (members.map fun member => (member.1, some (String.ofList
        (jsonText numberText (js_value.sortKeys member.2))))).insertionSort
          (fun first second => keyLe first.1 second.1) =
        (sortMembers members).map fun member => (member.1, some (String.ofList
          (jsonText numberText (js_value.sortKeys member.2)))) := by
      symm
      exact List.map_insertionSort _ _ _ _ fun _ _ _ _ => Iff.rfl
    refine congrArg (fun text => Except.ok (some text)) (String.toList_injective ?_)
    rw [hsorted, String.append_assoc, String.toList_append, List.map_map, List.map_map, String.toList_ofList,
      ← @joined_eq "\x7d" '\x7d' rfl, List.map_map]
    simp [Function.comp_def, String.ofList_append]

end Text

section RoundTrip

private theorem readText_quoteChar {fuel : Nat} {char : Char} {rest : List Char} :
    readText (fuel + 1) (quoteChar char ++ rest) =
      (readText fuel rest).bind fun (chars, rest) => some (char :: chars, rest) := by
  have hchar : char = Char.ofNat char.toNat := (Char.ofNat_toNat char).symm
  by_cases hcontrol : char.toNat < 32
  · generalize char.toNat = code at hchar hcontrol
    subst hchar
    interval_cases code <;> rfl
  · by_cases hquote : char.toNat = 34
    · rw [hquote] at hchar
      subst hchar
      rfl
    · by_cases hslash : char.toNat = 92
      · rw [hslash] at hchar
        subst hchar
        rfl
      · have hplain : quoteChar char = [char] := by
          unfold quoteChar
          split <;> first | omega | skip
          rw [if_neg hcontrol]
        have hneSlash : char ≠ '\\' := by
          rintro rfl
          exact hslash rfl
        rw [hplain, List.singleton_append, readText, if_neg hquote, if_neg hcontrol, if_neg hneSlash]
        rfl

/-- A quoted text is read back up to its own quotation mark. -/
theorem readText_quote {text : List Char} {fuel : Nat} {rest : List Char} (hfuel : text.length < fuel) :
    readText fuel (text.flatMap quoteChar ++ Char.ofNat 34 :: rest) = some (text, rest) := by
  induction text generalizing fuel with
  | nil =>
    obtain ⟨fuel, rfl⟩ := Nat.exists_eq_succ_of_ne_zero (Nat.ne_of_gt hfuel)
    rfl
  | cons char text ih =>
    obtain ⟨fuel, rfl⟩ := Nat.exists_eq_succ_of_ne_zero (Nat.ne_of_gt (Nat.zero_lt_of_lt hfuel))
    rw [List.flatMap_cons, List.append_assoc, readText_quoteChar, ih (Nat.lt_of_succ_lt_succ hfuel)]
    rfl

/-- How the runtime writes numbers, and that it reads them back. -/
structure NumberTexts (numbers : Set Rat) (numberText : Rat → String) (readNumber : String → Option Rat) : Prop where
  nonempty : ∀ value ∈ numbers, (numberText value).toList ≠ []
  chars : ∀ value ∈ numbers, ∀ char ∈ (numberText value).toList, isNumberChar char = true
  reads : ∀ value ∈ numbers, readNumber (numberText value) = some value

/-- A text that no number goes on in. -/
def Ends (rest : List Char) : Prop := ∀ char ∈ rest.head?, isNumberChar char = false

variable {numbers : Set Rat} {numberText : Rat → String} {readNumber : String → Option Rat}

private theorem skipSpace_cons {char : Char} {rest : List Char} (h : isJsonSpace char = false) :
    skipSpace (char :: rest) = char :: rest :=
  List.dropWhile_cons_of_neg (by simp [h])

private theorem span_number {chars rest : List Char} (hchars : ∀ char ∈ chars, isNumberChar char = true)
    (hrest : Ends rest) :
    (chars ++ rest).takeWhile isNumberChar = chars ∧ (chars ++ rest).dropWhile isNumberChar = rest := by
  have hnone : rest.takeWhile isNumberChar = [] ∧ rest.dropWhile isNumberChar = rest := by
    cases rest with
    | nil => exact ⟨rfl, rfl⟩
    | cons char rest =>
      have hchar := hrest char rfl
      exact ⟨List.takeWhile_cons_of_neg (by simp [hchar]), List.dropWhile_cons_of_neg (by simp [hchar])⟩
  rw [List.takeWhile_append_of_pos hchars, List.dropWhile_append_of_pos hchars, hnone.1, hnone.2, List.append_nil]
  exact ⟨rfl, rfl⟩

private theorem isNumberChar_facts {char : Char} (h : isNumberChar char = true) :
    isJsonSpace char = false ∧ char ≠ '[' ∧ char ≠ ']' ∧ char ≠ '\x7b' ∧ char.toNat ≠ 34 := by
  simp only [isNumberChar, Char.isDigit, Bool.or_eq_true, Bool.and_eq_true, decide_eq_true_eq, List.contains_cons,
    List.contains_nil, Bool.or_false, beq_iff_eq] at h
  obtain ⟨hlow, hhigh⟩ | rfl | rfl | rfl | rfl | rfl := h
  · have hlowNat : 48 ≤ char.toNat := hlow
    have hhighNat : char.toNat ≤ 57 := hhigh
    refine ⟨?_, ?_, ?_, ?_, by omega⟩
    · simp [isJsonSpace]
      omega
    · rintro rfl
      exact absurd hhighNat (by decide)
    · rintro rfl
      exact absurd hhighNat (by decide)
    · rintro rfl
      exact absurd hhighNat (by decide)
  all_goals decide

/-- The text of a JSON value starts with no space and no closing bracket. -/
theorem IsJson.head_jsonText (htexts : NumberTexts numbers numberText readNumber) {value : JsValue}
    (h : IsJson numbers value) :
    ∃ char rest, jsonText numberText value = char :: rest ∧ isJsonSpace char = false ∧ char ≠ ']' := by
  cases h with
  | null => exact ⟨_, _, rfl, rfl, by decide⟩
  | @bool value => cases value <;> exact ⟨_, _, rfl, rfl, by decide⟩
  | @number value hvalue =>
    rw [jsonText]
    cases htext : (numberText value).toList with
    | nil => exact absurd htext (htexts.nonempty value hvalue)
    | cons char rest =>
      obtain ⟨hspace, -, hclosing, -⟩ := isNumberChar_facts (htexts.chars value hvalue char (by rw [htext]; simp))
      exact ⟨char, rest, rfl, hspace, hclosing⟩
  | @string text =>
    rw [jsonText, quote, String.toList_ofList]
    exact ⟨_, _, rfl, rfl, by decide⟩
  | array hitems => exact ⟨_, _, rfl, rfl, by decide⟩
  | object hkeys hmembers => exact ⟨_, _, rfl, rfl, by decide⟩

/-- A value is read back from the front of a text that ends it. -/
def ReadBack (numberText : Rat → String) (readNumber : String → Option Rat) (value : JsValue) : Prop :=
  ∀ fuel rest, 2 * (jsonText numberText value).length + 1 ≤ fuel → Ends rest →
    parseValue readNumber fuel (jsonText numberText value ++ rest) = some (value, rest)

private theorem parseItems_joined {item : JsValue} {items : List JsValue}
    (h : ∀ other ∈ item :: items, ReadBack numberText readNumber other) {fuel : Nat} {rest : List Char}
    (hfuel : 2 * (joined ']' (itemTexts numberText (item :: items))).length + 2 ≤ fuel) :
    parseItems readNumber fuel (joined ']' (itemTexts numberText (item :: items)) ++ rest) =
      some (item :: items, rest) := by
  obtain ⟨hitem, hitems⟩ := List.forall_mem_cons.mp h
  obtain ⟨fuel, rfl⟩ := Nat.exists_eq_add_of_le' (Nat.le_of_add_left_le hfuel)
  induction items generalizing item fuel with
  | nil =>
    simp only [itemTexts, joined, List.length_append, List.length_singleton] at hfuel
    have hends : Ends (']' :: rest) := fun char hchar => by
      cases hchar
      rfl
    have hread := hitem (fuel + 1) (']' :: rest) (by omega) hends
    simp only [itemTexts, joined, List.append_assoc, List.singleton_append, parseItems, hread, bind, Option.bind,
      skipSpace_cons (show isJsonSpace ']' = false from rfl)]
  | cons next items ih =>
    obtain ⟨hnext, hrest⟩ := List.forall_mem_cons.mp hitems
    simp only [itemTexts, joined, List.length_append, List.length_cons] at hfuel
    have hends : Ends (',' :: (joined ']' (itemTexts numberText (next :: items)) ++ rest)) := fun char hchar => by
      cases hchar
      rfl
    have hread := hitem (fuel + 1) _ (by omega) hends
    have hlater : parseItems readNumber (fuel + 1) (joined ']' (itemTexts numberText (next :: items)) ++ rest) =
        some (next :: items, rest) := by
      obtain ⟨more, hmore⟩ := Nat.exists_eq_add_of_le' (show 1 ≤ fuel by omega)
      rw [hmore]
      refine ih hitems hnext hrest more ?_
      simp only [itemTexts]
      omega
    simp only [itemTexts] at hread hlater ⊢
    rw [joined, List.append_assoc, List.cons_append, parseItems, hread]
    simp only [bind, Option.bind, skipSpace_cons (show isJsonSpace ',' = false from rfl), hlater, Option.map_some]

private theorem length_quoteChars {chars : List Char} : chars.length ≤ (chars.flatMap quoteChar).length := by
  induction chars with
  | nil => exact Nat.le_refl _
  | cons char rest ih =>
    have hpositive : 1 ≤ (quoteChar char).length := by
      unfold quoteChar
      split <;> first | exact Nat.succ_le_succ (Nat.zero_le _) | split <;> exact Nat.succ_le_succ (Nat.zero_le _)
    rw [List.flatMap_cons, List.length_append, List.length_cons]
    omega

/-- A member is read up to what follows its value. -/
private theorem parseMembers_member {key : String} {value : JsValue} {fuel : Nat} {rest : List Char}
    (h : ReadBack numberText readNumber value) (hfuel : 2 * (jsonText numberText value).length + 1 ≤ fuel)
    (hrest : Ends rest) :
    parseMembers readNumber (fuel + 1) ((quote key).toList ++ ':' :: (jsonText numberText value ++ rest)) =
      match skipSpace rest with
      | ',' :: rest => (parseMembers readNumber fuel rest).map fun (members, rest) => ((key, value) :: members, rest)
      | '\x7d' :: rest => some ([(key, value)], rest)
      | _ => none := by
  have htext : (quote key).toList ++ ':' :: (jsonText numberText value ++ rest) = Char.ofNat 34 ::
      (key.toList.flatMap quoteChar ++ Char.ofNat 34 :: ':' :: (jsonText numberText value ++ rest)) := by
    simp [quote]
  have hkey (size : Nat) (hsize : key.toList.length ≤ size) : readText (size + 1) (key.toList.flatMap quoteChar ++
      Char.ofNat 34 :: ':' :: (jsonText numberText value ++ rest)) =
        some (key.toList, ':' :: (jsonText numberText value ++ rest)) :=
    readText_quote (Nat.lt_succ_of_le hsize)
  have hlength : key.toList.length ≤ (key.toList.flatMap quoteChar ++ Char.ofNat 34 :: ':' ::
      (jsonText numberText value ++ rest)).length := by
    rw [List.length_append]
    exact Nat.le_add_right_of_le length_quoteChars
  rw [htext, parseMembers, skipSpace_cons (show isJsonSpace (Char.ofNat 34) = false from rfl)]
  simp only [if_pos (show (Char.ofNat 34).toNat = 34 from rfl), hkey _ hlength, bind, Option.bind,
    skipSpace_cons (show isJsonSpace ':' = false from rfl), h fuel rest hfuel hrest, String.ofList_toList]

private theorem parseMembers_joined {member : String × JsValue} {members : List (String × JsValue)}
    (h : ∀ other ∈ member :: members, ReadBack numberText readNumber other.2) {fuel : Nat} {rest : List Char}
    (hfuel : 2 * (joined '\x7d' (memberTexts numberText (member :: members))).length + 2 ≤ fuel) :
    parseMembers readNumber fuel (joined '\x7d' (memberTexts numberText (member :: members)) ++ rest) =
      some (member :: members, rest) := by
  obtain ⟨hmember, hmembers⟩ := List.forall_mem_cons.mp h
  obtain ⟨fuel, rfl⟩ := Nat.exists_eq_add_of_le' (Nat.le_of_add_left_le hfuel)
  obtain ⟨key, value⟩ := member
  change ReadBack numberText readNumber value at hmember
  induction members generalizing key value fuel with
  | nil =>
    simp only [memberTexts, joined, List.length_append, List.length_cons] at hfuel
    have hends : Ends ('\x7d' :: rest) := fun char hchar => by
      cases hchar
      rfl
    simp only [memberTexts, joined, List.append_assoc, List.cons_append, List.nil_append]
    rw [parseMembers_member hmember (by omega) hends, skipSpace_cons (show isJsonSpace '\x7d' = false from rfl)]
    rfl
  | cons next members ih =>
    obtain ⟨hnext, hrest⟩ := List.forall_mem_cons.mp hmembers
    obtain ⟨nextKey, nextValue⟩ := next
    simp only [memberTexts, joined, List.length_append, List.length_cons] at hfuel
    have hends : Ends (',' :: (joined '\x7d' (memberTexts numberText ((nextKey, nextValue) :: members)) ++ rest)) :=
      fun char hchar => by
        cases hchar
        rfl
    have hlater : parseMembers readNumber (fuel + 1)
        (joined '\x7d' (memberTexts numberText ((nextKey, nextValue) :: members)) ++ rest) =
          some ((nextKey, nextValue) :: members, rest) := by
      obtain ⟨more, hmore⟩ := Nat.exists_eq_add_of_le' (show 1 ≤ fuel by omega)
      rw [hmore]
      refine ih hrest more nextKey nextValue hmembers ?_ hnext
      simp only [memberTexts]
      omega
    simp only [memberTexts] at hends hlater ⊢
    rw [joined]
    simp only [List.append_assoc, List.cons_append]
    rw [parseMembers_member hmember (by omega) hends, skipSpace_cons (show isJsonSpace ',' = false from rfl)]
    simp only [hlater, Option.map_some]

private theorem foldl_assign {members before : List (String × JsValue)}
    (hkeys : ((before ++ members).map Prod.fst).Nodup) : members.foldl assign before = before ++ members := by
  induction members generalizing before with
  | nil => rw [List.foldl_nil, List.append_nil]
  | cons member rest ih =>
    have hfresh : member.1 ∉ before.map Prod.fst := by
      rw [List.map_append, List.nodup_append] at hkeys
      intro hmem
      exact hkeys.2.2 _ hmem member.1 (by simp) rfl
    rw [List.foldl_cons, assign, if_neg hfresh, ih (by simpa using hkeys), List.append_assoc, List.singleton_append]

/-- The text of a JSON value is read back as the value. -/
theorem IsJson.readBack (htexts : NumberTexts numbers numberText readNumber) {value : JsValue}
    (h : IsJson numbers value) : ReadBack numberText readNumber value := by
  induction h with
  | null =>
    intro fuel rest hfuel hrest
    obtain ⟨fuel, rfl⟩ := Nat.exists_eq_add_of_le' (Nat.le_of_add_left_le hfuel)
    rfl
  | @bool value =>
    intro fuel rest hfuel hrest
    obtain ⟨fuel, rfl⟩ := Nat.exists_eq_add_of_le' (Nat.le_of_add_left_le hfuel)
    cases value <;> rfl
  | @number value hvalue =>
    intro fuel rest hfuel hrest
    obtain ⟨fuel, rfl⟩ := Nat.exists_eq_add_of_le' (Nat.le_of_add_left_le hfuel)
    have hchars := htexts.chars value hvalue
    have hreads := htexts.reads value hvalue
    rw [jsonText]
    cases htext : (numberText value).toList with
    | nil => exact absurd htext (htexts.nonempty value hvalue)
    | cons char chars =>
      rw [htext] at hchars
      obtain ⟨hchar, htail⟩ := List.forall_mem_cons.mp hchars
      obtain ⟨hspace, hbracket, -, hbrace, hquote⟩ := isNumberChar_facts hchar
      obtain ⟨htake, hdrop⟩ := span_number htail hrest
      have hsame : String.ofList (char :: chars) = numberText value := by rw [← htext, String.ofList_toList]
      rw [List.cons_append, parseValue, skipSpace_cons hspace]
      simp only [if_neg hbracket, if_neg hbrace, if_neg hquote, if_pos hchar, htake, hdrop, hsame, hreads,
        Option.map_some]
  | @string text =>
    intro fuel rest hfuel hrest
    obtain ⟨fuel, rfl⟩ := Nat.exists_eq_add_of_le' (Nat.le_of_add_left_le hfuel)
    have htext : jsonText numberText (.string text) ++ rest =
        Char.ofNat 34 :: (text.toList.flatMap quoteChar ++ Char.ofNat 34 :: rest) := by
      simp [jsonText, quote]
    have hlength : text.toList.length < (text.toList.flatMap quoteChar ++ Char.ofNat 34 :: rest).length + 1 := by
      rw [List.length_append]
      exact Nat.lt_succ_of_le (Nat.le_add_right_of_le length_quoteChars)
    rw [htext, parseValue, skipSpace_cons (show isJsonSpace (Char.ofNat 34) = false from rfl)]
    simp only [if_neg (show Char.ofNat 34 ≠ '[' by decide), if_neg (show Char.ofNat 34 ≠ '\x7b' by decide),
      if_pos (show (Char.ofNat 34).toNat = 34 from rfl), readText_quote hlength, Option.map_some, String.ofList_toList]
  | @array items hitems ih =>
    intro fuel rest hfuel hrest
    obtain ⟨fuel, rfl⟩ := Nat.exists_eq_add_of_le' (Nat.le_of_add_left_le hfuel)
    rw [jsonText, List.cons_append, parseValue, skipSpace_cons (show isJsonSpace '[' = false from rfl)]
    cases items with
    | nil => rfl
    | cons item items =>
      simp only [jsonText, List.length_cons] at hfuel
      have hread := @parseItems_joined _ _ item items ih fuel rest (by omega)
      obtain ⟨char, tail, htext, hspace, hclosing⟩ := (hitems item List.mem_cons_self).head_jsonText htexts
      obtain ⟨more, hmore⟩ : ∃ more, joined ']' (itemTexts numberText (item :: items)) ++ rest = char :: more := by
        obtain ⟨later, hlater⟩ := @joined_cons ']' (jsonText numberText item) (itemTexts numberText items)
        exact ⟨tail ++ later ++ rest, by rw [itemTexts, hlater, htext]; rfl⟩
      rw [hmore] at hread ⊢
      simp only [skipSpace_cons hspace, if_true]
      split
      · next hclosed => exact absurd (List.cons.inj hclosed).1 hclosing
      · rw [hread, Option.map_some]
  | @object members hkeys hmembers ih =>
    intro fuel rest hfuel hrest
    obtain ⟨fuel, rfl⟩ := Nat.exists_eq_add_of_le' (Nat.le_of_add_left_le hfuel)
    rw [jsonText, List.cons_append, parseValue, skipSpace_cons (show isJsonSpace '\x7b' = false from rfl)]
    cases members with
    | nil => rfl
    | cons member members =>
      simp only [jsonText, List.length_cons] at hfuel
      have hread := @parseMembers_joined _ _ member members ih fuel rest (by omega)
      obtain ⟨more, hmore⟩ : ∃ more,
          joined '\x7d' (memberTexts numberText (member :: members)) ++ rest = Char.ofNat 34 :: more := by
        obtain ⟨later, hlater⟩ := @joined_cons '\x7d' ((quote member.1).toList ++ ':' :: jsonText numberText member.2)
          (memberTexts numberText members)
        rw [memberTexts, hlater, quote, String.toList_ofList]
        exact ⟨_, rfl⟩
      rw [hmore] at hread ⊢
      simp only [if_neg (show '\x7b' ≠ '[' by decide), if_true,
        skipSpace_cons (show isJsonSpace (Char.ofNat 34) = false from rfl)]
      split
      · next hclosed => exact absurd (List.cons.inj hclosed).1 (by decide)
      · rw [hread, Option.map_some, foldl_assign (by simpa using hkeys), List.nil_append]

/-- `JSON.parse` of a canonical text is the value with its keys sorted. -/
theorem IsJson.parse_canonicalize (htexts : NumberTexts numbers numberText readNumber) {value : JsValue}
    (h : IsJson numbers value) :
    ∃ text, canonicalize numberText value = .ok (some text) ∧
      jsonParse readNumber text = some (js_value.sortKeys value) := by
  refine ⟨_, h.canonicalize_eq, ?_⟩
  have hread := h.sortKeys.readBack htexts _ [] (Nat.le_refl _) nofun
  rw [List.append_nil] at hread
  rw [jsonParse, String.toList_ofList, hread]
  rfl

/-- Two JSON values have one canonical text exactly if they are equal up to the
order of keys. -/
theorem canonicalize_eq_iff (htexts : NumberTexts numbers numberText readNumber) {value other : JsValue}
    (hvalue : IsJson numbers value) (hother : IsJson numbers other) :
    canonicalize numberText value = canonicalize numberText other ↔ SameJson value other := by
  constructor
  · intro h
    obtain ⟨text, htext, hparse⟩ := hvalue.parse_canonicalize htexts
    obtain ⟨otherText, hotherText, hotherParse⟩ := hother.parse_canonicalize htexts
    rw [htext, hotherText] at h
    obtain rfl := Option.some.inj (Except.ok.inj h)
    exact same_of_sortKeys hvalue hother (Option.some.inj (hparse.symm.trans hotherParse))
  · intro h
    rw [hvalue.canonicalize_eq, hother.canonicalize_eq, h.sortKeys_eq hvalue]

end RoundTrip

end js_value
