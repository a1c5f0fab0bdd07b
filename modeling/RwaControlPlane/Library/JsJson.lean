import RwaControlPlane.Library.Checked
import RwaControlPlane.Library.JsCanonical

open checked

namespace js_value

section Copy

-- `toISOString` of a date is left open
variable (isoText : Int → String)

mutual

/-- `JSON.parse(JSON.stringify(value))`. It is undefined for a value without JSON
text. -/
def jsonCopy : JsValue → Option JsValue
  | .undefined => none
  | .null => some .null
  | .notFinite => some .null
  | .bool value => some (.bool value)
  | .number value => some (.number value)
  | .bigint _ => none
  | .string text => some (.string text)
  | .date time => some (.string (isoText time))
  | .array items => some (.array (jsonItems items))
  | .object members => some (.object (jsonMembers members))
termination_by structural value => value

/-- An item without JSON text becomes null. -/
def jsonItems : List JsValue → List JsValue
  | [] => []
  | item :: rest => (jsonCopy item).getD .null :: jsonItems rest
termination_by structural items => items

/-- A member without JSON text is dropped. -/
def jsonMembers : List (String × JsValue) → List (String × JsValue)
  | [] => []
  | (key, value) :: rest =>
    match jsonCopy value with
    | some copy => (key, copy) :: jsonMembers rest
    | none => jsonMembers rest
termination_by structural members => members

end

/-- Store a value as JSON. A BigInt cannot be written. -/
def stored (value : JsValue) : Except String (Option JsValue) :=
  if hasBigInt value = true then .error "Do not know how to serialize a BigInt" else .ok (jsonCopy isoText value)

end Copy

mutual

/-- Whether no date, and no undefined item or member, stands anywhere in a
value. -/
def jsonStable : JsValue → Bool
  | .undefined => false
  | .date _ => false
  | .bigint _ => false
  | .array items => jsonStableItems items
  | .object members => jsonStableMembers members
  | _ => true
termination_by structural value => value

def jsonStableItems : List JsValue → Bool
  | [] => true
  | item :: rest => jsonStable item && jsonStableItems rest
termination_by structural items => items

def jsonStableMembers : List (String × JsValue) → Bool
  | [] => true
  | (_, value) :: rest => jsonStable value && jsonStableMembers rest
termination_by structural members => members

end

mutual

/-- Whether no object in a value has a key twice. -/
def distinctKeys : JsValue → Bool
  | .array items => distinctKeysItems items
  | .object members => decide (members.map Prod.fst).Nodup && distinctKeysMembers members
  | _ => true
termination_by structural value => value

def distinctKeysItems : List JsValue → Bool
  | [] => true
  | item :: rest => distinctKeys item && distinctKeysItems rest
termination_by structural items => items

def distinctKeysMembers : List (String × JsValue) → Bool
  | [] => true
  | (_, value) :: rest => distinctKeys value && distinctKeysMembers rest
termination_by structural members => members

end

theorem distinctKeys_empty : distinctKeys (.object []) = true := rfl

section Sorted

variable {α : Type} {r : α → α → Prop} [DecidableRel r] {keep : α → Bool}

/-- A row that is dropped can be inserted or not. -/
private theorem filter_orderedInsert_of_not {row : α} {rows : List α} (h : keep row = false) :
    (rows.orderedInsert r row).filter keep = rows.filter keep := by
  induction rows with
  | nil => simp [h]
  | cons other rest ih =>
    rw [List.orderedInsert_cons]
    by_cases hle : r row other
    · rw [if_pos hle, List.filter_cons_of_neg (by simp [h])]
    · rw [if_neg hle, List.filter_cons, ih, List.filter_cons]

/-- A row that comes before all others is inserted in front. -/
private theorem orderedInsert_of_forall {row : α} {rows : List α} (h : ∀ other ∈ rows, r row other) :
    rows.orderedInsert r row = row :: rows := by
  cases rows with
  | nil => rfl
  | cons other rest => exact List.orderedInsert_cons_of_le r rest (h other List.mem_cons_self)

private theorem filter_orderedInsert_of_keep (htrans : ∀ first second third, r first second → r second third →
    r first third) {row : α} {rows : List α} (hrows : rows.Pairwise r) (h : keep row = true) :
    (rows.orderedInsert r row).filter keep = (rows.filter keep).orderedInsert r row := by
  induction rows with
  | nil => simp [h]
  | cons other rest ih =>
    obtain ⟨hother, hrest⟩ := List.pairwise_cons.mp hrows
    rw [List.orderedInsert_cons]
    by_cases hle : r row other
    · have hall : ∀ later ∈ (other :: rest).filter keep, r row later := by
        intro later hlater
        obtain rfl | hmem := List.mem_cons.mp (List.mem_filter.mp hlater).1
        · exact hle
        · exact htrans _ _ _ hle (hother later hmem)
      rw [if_pos hle, List.filter_cons_of_pos h, orderedInsert_of_forall hall]
    · rw [if_neg hle, List.filter_cons, List.filter_cons, ih hrest]
      by_cases hkeep : keep other = true
      · rw [if_pos hkeep, if_pos hkeep, List.orderedInsert_of_not_le r _ hle]
      · rw [if_neg hkeep, if_neg hkeep]

/-- Sorting and dropping rows can be done in either order. -/
theorem filter_insertionSort (htotal : ∀ first second, r first second ∨ r second first)
    (htrans : ∀ first second third, r first second → r second third → r first third) {rows : List α} :
    (rows.insertionSort r).filter keep = (rows.filter keep).insertionSort r := by
  have htotal' : Std.Total r := ⟨htotal⟩
  have htrans' : IsTrans α r := ⟨htrans⟩
  induction rows with
  | nil => rfl
  | cons row rest ih =>
    rw [List.insertionSort_cons]
    by_cases hkeep : keep row = true
    · rw [filter_orderedInsert_of_keep htrans (List.pairwise_insertionSort r rest) hkeep, ih,
        List.filter_cons_of_pos hkeep, List.insertionSort_cons]
    · rw [filter_orderedInsert_of_not (by simpa using hkeep), ih, List.filter_cons_of_neg hkeep]

end Sorted

section Survives

/-- Texts after the first, each after a comma, and the closing character. -/
private def closedTail (close : Char) : List (List Char) → List Char
  | [] => [close]
  | text :: rest => ',' :: (text ++ closedTail close rest)

private theorem closed_cons {close : Char} {text : String} {rest : List String} :
    (",".intercalate (text :: rest)).toList ++ [close] = text.toList ++ closedTail close (rest.map String.toList) := by
  induction rest generalizing text with
  | nil => simp [closedTail]
  | cons next rest ih =>
    rw [List.map_cons, closedTail, ← ih]
    simp

/-- A text gives away whether what it stands for is stable, when the text of the
copy stands in its place: nothing else can be written behind the two. -/
private def Betrays (text copy : List Char) (stable : Bool) : Prop :=
  ∀ rest other, text ++ rest = copy ++ other → stable = true ∧ rest = other

private theorem betrays_self {text : List Char} : Betrays text text true :=
  fun _ _ h => ⟨rfl, List.append_cancel_left h⟩

/-- An item with its text, the text of its copy and whether it is stable. -/
private structure CopiedItem where
  text : Option String
  copy : String
  stable : Bool

private def CopiedItem.Ok (item : CopiedItem) : Prop :=
  (item.text = none ∧ item.copy = "null") ∨
    ∃ text, item.text = some text ∧ Betrays text.toList item.copy.toList item.stable

private def itemChars (item : CopiedItem) : List Char := (item.text.getD "").toList

private theorem closedTail_head {close : Char} {texts : List (List Char)} {rest : List Char} (h : close ≠ 'n') :
    ∀ other, closedTail close texts ++ rest ≠ 'n' :: other := by
  intro other heq
  cases texts with
  | nil => exact h (List.cons.inj heq).1
  | cons text texts => exact absurd (List.cons.inj heq).1 (by decide)

private theorem betrays_items {items : List CopiedItem} (hitems : ∀ item ∈ items, item.Ok) :
    Betrays (closedTail ']' (items.map itemChars)) (closedTail ']' (items.map fun item => item.copy.toList))
      (items.all (·.stable)) := by
  induction items with
  | nil => exact betrays_self
  | cons item items ih =>
    intro rest other h
    have hrest := ih fun later hlater => hitems later (List.mem_cons_of_mem item hlater)
    simp only [List.map_cons, closedTail, List.cons_append, List.append_assoc] at h
    have htail := (List.cons.inj h).2
    obtain ⟨hnone, hcopy⟩ | ⟨text, htext, hbetrays⟩ := hitems item List.mem_cons_self
    · rw [itemChars, hnone, hcopy] at htail
      exact absurd htail (closedTail_head (by decide) _)
    · rw [itemChars, htext] at htail
      obtain ⟨hstable, hafter⟩ := hbetrays _ _ htail
      obtain ⟨hall, hsame⟩ := hrest _ _ hafter
      exact ⟨by rw [List.all_cons, hstable, hall]; rfl, hsame⟩

/-- A member with its text, the text of its copy, if there is one, and whether
it is stable. -/
private structure CopiedMember where
  key : String
  text : Option String
  copy : Option String
  stable : Bool

private def CopiedMember.Ok (member : CopiedMember) : Prop :=
  (member.text = none ∧ member.copy = none) ∨
    ∃ text copy, member.text = some text ∧ member.copy = some copy ∧ Betrays text.toList copy.toList member.stable

private def keyChars (key : String) (text : Option String) : List Char :=
  (quote key).toList ++ ':' :: (text.getD "undefined").toList

private def memberChars (member : CopiedMember) : List Char := keyChars member.key member.text

private def copyChars (member : CopiedMember) : List Char := keyChars member.key member.copy

private theorem quote_head {text : String} {rest : List Char} {char : Char} {other : List Char}
    (h : (quote text).toList ++ rest = char :: other) : char = Char.ofNat 34 := by
  rw [quote, String.toList_ofList] at h
  exact (List.cons.inj h).1.symm

private theorem betrays_members {members : List CopiedMember} (hmembers : ∀ member ∈ members, member.Ok)
    (hkeys : (members.map (·.key)).Nodup) :
    Betrays (closedTail '\x7d' (members.map memberChars))
      (closedTail '\x7d' ((members.filter (·.copy.isSome)).map copyChars)) (members.all (·.stable)) := by
  induction members with
  | nil => exact betrays_self
  | cons member members ih =>
    intro rest other h
    rw [List.map_cons, List.nodup_cons] at hkeys
    have hrest := ih (fun later hlater => hmembers later (List.mem_cons_of_mem member hlater)) hkeys.2
    obtain ⟨hnone, hcopy⟩ | ⟨text, copy, htext, hcopy, hbetrays⟩ := hmembers member List.mem_cons_self
    · -- the key of a dropped member is followed by no other
      rw [List.filter_cons_of_neg (by simp [hcopy]), List.map_cons, closedTail, List.cons_append] at h
      cases hkept : members.filter (·.copy.isSome) with
      | nil =>
        rw [hkept] at h
        exact absurd (List.cons.inj h).1 (by decide)
      | cons next kept =>
        have hnext : next ∈ members := (List.mem_filter.mp (hkept ▸ List.mem_cons_self)).1
        rw [hkept, List.map_cons, closedTail, List.cons_append] at h
        have htail := (List.cons.inj h).2
        simp only [memberChars, copyChars, keyChars, List.append_assoc] at htail
        have hkey := (quote_append_inj htail).1
        exact absurd (hkey ▸ List.mem_map_of_mem hnext) hkeys.1
    · rw [List.filter_cons_of_pos (by simp [hcopy])] at h
      simp only [List.map_cons, closedTail, memberChars, copyChars, keyChars, htext, hcopy, Option.getD_some,
        List.cons_append, List.append_assoc] at h
      have htail := (quote_append_inj (List.cons.inj h).2).2
      obtain ⟨hstable, hafter⟩ := hbetrays _ _ (List.cons.inj htail).2
      obtain ⟨hall, hsame⟩ := hrest _ _ hafter
      exact ⟨by rw [List.all_cons, hstable, hall]; rfl, hsame⟩

private theorem betrays_array {items : List CopiedItem} (hitems : ∀ item ∈ items, item.Ok) :
    Betrays ("[" ++ ",".intercalate (items.map fun item => item.text.getD "") ++ "]").toList
      ("[" ++ ",".intercalate (items.map (·.copy)) ++ "]").toList (items.all (·.stable)) := by
  cases items with
  | nil => exact betrays_self
  | cons item items =>
    intro rest other h
    have hclosed := betrays_items hitems rest other
    simp only [String.toList_append, List.append_assoc] at h
    have hjoined := List.append_cancel_left h
    have hbracket : "]".toList = [']'] := rfl
    rw [← List.append_assoc, ← List.append_assoc, hbracket, List.map_cons, List.map_cons, closed_cons, closed_cons]
      at hjoined
    have hchars : itemChars = fun item => (item.text.getD "").toList := rfl
    apply hclosed
    simpa [closedTail, hchars, Function.comp_def] using hjoined

private theorem toList_member {key : String} {text : Option String} :
    (quote key ++ ":" ++ text.getD "undefined").toList = keyChars key text := by
  simp [keyChars]

private theorem betrays_object {members : List CopiedMember} (hmembers : ∀ member ∈ members, member.Ok)
    (hkeys : (members.map (·.key)).Nodup) :
    Betrays
      ("\x7b" ++ ",".intercalate (members.map fun member =>
        quote member.key ++ ":" ++ member.text.getD "undefined") ++ "\x7d").toList
      ("\x7b" ++ ",".intercalate ((members.filter (·.copy.isSome)).map fun member =>
        quote member.key ++ ":" ++ member.copy.getD "undefined") ++ "\x7d").toList (members.all (·.stable)) := by
  cases members with
  | nil => exact betrays_self
  | cons member members =>
    intro rest other h
    have hclosed := betrays_members hmembers hkeys rest other
    simp only [String.toList_append, List.append_assoc] at h
    have hjoined := List.append_cancel_left h
    have hbrace : "\x7d".toList = ['\x7d'] := rfl
    rw [← List.append_assoc, ← List.append_assoc, hbrace, List.map_cons, closed_cons] at hjoined
    cases hkept : (member :: members).filter (·.copy.isSome) with
    | nil =>
      rw [hkept, toList_member, keyChars, List.append_assoc, List.append_assoc] at hjoined
      exact absurd (quote_head hjoined) (by decide)
    | cons next kept =>
      rw [hkept] at hclosed
      rw [hkept, List.map_cons, closed_cons] at hjoined
      have htext : memberChars = fun member => keyChars member.key member.text := rfl
      have hcopy : copyChars = fun member => keyChars member.key member.copy := rfl
      apply hclosed
      simpa [closedTail, htext, hcopy, keyChars, Function.comp_def] using hjoined

variable {numberText : Rat → String} {isoText : Int → String}

private theorem eq_undefined_of_canonicalize {value : JsValue} (h : canonicalize numberText value = .ok none) :
    value = .undefined := by
  cases value with
  | undefined => rfl
  | null | notFinite | bool | number | bigint | string | date => cases h
  | array items =>
    obtain ⟨texts, -, hnone⟩ := bind_eq_ok_iff.mp h
    cases hnone
  | object members =>
    obtain ⟨texts, -, hnone⟩ := bind_eq_ok_iff.mp h
    cases hnone

private def sortCopied (members : List CopiedMember) : List CopiedMember :=
  members.insertionSort fun member other => keyLe member.key other.key

private theorem sort_texts {members : List CopiedMember} :
    (members.map fun member => (member.key, member.text)).insertionSort (fun first second => keyLe first.1 second.1) =
      (sortCopied members).map fun member => (member.key, member.text) := by
  symm
  exact List.map_insertionSort _ _ _ _ fun _ _ _ _ => Iff.rfl

private theorem sort_copies {members : List CopiedMember} :
    ((members.filter (·.copy.isSome)).map fun member => (member.key, member.copy)).insertionSort
        (fun first second => keyLe first.1 second.1) =
      ((sortCopied members).filter (·.copy.isSome)).map fun member => (member.key, member.copy) := by
  have htotal (first second : CopiedMember) := keyLe_total first.key second.key
  have htrans (first second third : CopiedMember) := @keyLe_trans first.key second.key third.key
  rw [sortCopied, filter_insertionSort htotal htrans]
  symm
  exact List.map_insertionSort _ _ _ _ fun _ _ _ _ => Iff.rfl

mutual

/-- The copy of a value has a canonical text, which is that of the value only if
the value is stable. -/
private theorem canonicalize_copy : ∀ (value : JsValue), distinctKeys value = true → ∀ text,
    canonicalize numberText value = .ok (some text) →
    ∃ copy copyText, jsonCopy isoText value = some copy ∧ canonicalize numberText copy = .ok (some copyText) ∧
      Betrays text.toList copyText.toList (jsonStable value)
  | .undefined, _, _, h => by cases h
  | .bigint _, _, _, h => by cases h
  | .null, _, _, h => by
    cases h
    exact ⟨.null, _, rfl, rfl, betrays_self⟩
  | .notFinite, _, _, h => by
    cases h
    exact ⟨.null, _, rfl, rfl, betrays_self⟩
  | .bool value, _, _, h => by
    cases h
    exact ⟨.bool value, _, rfl, rfl, betrays_self⟩
  | .number value, _, _, h => by
    cases h
    exact ⟨.number value, _, rfl, rfl, betrays_self⟩
  | .string text, _, _, h => by
    cases h
    exact ⟨.string text, _, rfl, rfl, betrays_self⟩
  | .date time, _, _, h => by
    cases h
    refine ⟨.string (isoText time), _, rfl, rfl, fun rest other heq => ?_⟩
    exact absurd (quote_head heq.symm) (by decide)
  | .array items, hkeys, text, h => by
    obtain ⟨texts, htexts, htext⟩ := bind_eq_ok_iff.mp h
    obtain ⟨copied, rfl, hcopies, hok, hstable⟩ := canonicalizeItems_copy items hkeys texts htexts
    obtain rfl := Option.some.inj (pure_eq_ok_iff.mp htext)
    have hcopy : canonicalize numberText (.array (jsonItems isoText items)) =
        .ok (some ("[" ++ ",".intercalate (copied.map (·.copy)) ++ "]")) := by
      rw [canonicalize, hcopies]
      simp [bind, Except.bind, pure, Except.pure, Function.comp_def]
    have hbetrays := betrays_array hok
    rw [hstable] at hbetrays
    refine ⟨.array (jsonItems isoText items), _, rfl, hcopy, ?_⟩
    simpa [Function.comp_def, jsonStable] using hbetrays
  | .object members, hkeys, text, h => by
    obtain ⟨texts, htexts, htext⟩ := bind_eq_ok_iff.mp h
    rw [distinctKeys, Bool.and_eq_true, decide_eq_true_eq] at hkeys
    obtain ⟨copied, rfl, hnames, hcopies, hok, hstable⟩ := canonicalizeMembers_copy members hkeys.2 texts htexts
    obtain rfl := Option.some.inj (pure_eq_ok_iff.mp htext)
    have hperm := List.perm_insertionSort (fun member other : CopiedMember => keyLe member.key other.key) copied
    have hcopy : canonicalize numberText (.object (jsonMembers isoText members)) =
        .ok (some ("\x7b" ++ ",".intercalate ((sortCopied copied).filter (·.copy.isSome) |>.map fun member =>
          quote member.key ++ ":" ++ member.copy.getD "undefined") ++ "\x7d")) := by
      rw [canonicalize, hcopies]
      simp only [bind, Except.bind, pure, Except.pure, sort_copies, List.map_map, Function.comp_def]
    have hbetrays := betrays_object (fun member hmember => hok member (hperm.mem_iff.mp hmember))
      ((hperm.map (·.key)).nodup_iff.mpr (hnames ▸ hkeys.1))
    rw [hperm.all_eq, hstable] at hbetrays
    refine ⟨.object (jsonMembers isoText members), _, rfl, hcopy, ?_⟩
    rw [sort_texts, List.map_map]
    exact hbetrays
termination_by structural value => value

private theorem canonicalizeItems_copy : ∀ (items : List JsValue), distinctKeysItems items = true → ∀ texts,
    canonicalizeItems numberText items = .ok texts →
    ∃ copied : List CopiedItem, texts = copied.map (·.text) ∧
      canonicalizeItems numberText (jsonItems isoText items) = .ok (copied.map fun item => some item.copy) ∧
      (∀ item ∈ copied, item.Ok) ∧ copied.all (·.stable) = jsonStableItems items
  | [], _, _, h => by
    cases h
    exact ⟨[], rfl, rfl, by simp, rfl⟩
  | item :: rest, hkeys, _, h => by
    obtain ⟨text, htext, h⟩ := bind_eq_ok_iff.mp h
    obtain ⟨texts, htexts, h⟩ := bind_eq_ok_iff.mp h
    obtain rfl := pure_eq_ok_iff.mp h
    rw [distinctKeysItems, Bool.and_eq_true] at hkeys
    obtain ⟨copied, rfl, hcopies, hok, hstable⟩ := canonicalizeItems_copy rest hkeys.2 texts htexts
    cases text with
    | none =>
      obtain rfl := eq_undefined_of_canonicalize htext
      refine ⟨⟨none, "null", false⟩ :: copied, rfl, ?_, ?_, rfl⟩
      · rw [jsonItems, canonicalizeItems, hcopies]
        rfl
      · exact List.forall_mem_cons.mpr ⟨Or.inl ⟨rfl, rfl⟩, hok⟩
    | some text =>
      obtain ⟨copy, copyText, hcopy, hcanonical, hbetrays⟩ := canonicalize_copy item hkeys.1 text htext
      refine ⟨⟨some text, copyText, jsonStable item⟩ :: copied, rfl, ?_, ?_, ?_⟩
      · rw [jsonItems, hcopy, Option.getD_some, canonicalizeItems, hcanonical, hcopies]
        rfl
      · exact List.forall_mem_cons.mpr ⟨Or.inr ⟨text, rfl, hbetrays⟩, hok⟩
      · rw [List.all_cons, hstable, jsonStableItems]
termination_by structural items => items

private theorem canonicalizeMembers_copy : ∀ (members : List (String × JsValue)), distinctKeysMembers members = true →
    ∀ texts, canonicalizeMembers numberText members = .ok texts →
    ∃ copied : List CopiedMember, texts = copied.map (fun member => (member.key, member.text)) ∧
      copied.map (·.key) = members.map Prod.fst ∧
      canonicalizeMembers numberText (jsonMembers isoText members) =
        .ok ((copied.filter (·.copy.isSome)).map fun member => (member.key, member.copy)) ∧
      (∀ member ∈ copied, member.Ok) ∧ copied.all (·.stable) = jsonStableMembers members
  | [], _, _, h => by
    cases h
    exact ⟨[], rfl, rfl, rfl, by simp, rfl⟩
  | (key, value) :: rest, hkeys, _, h => by
    obtain ⟨text, htext, h⟩ := bind_eq_ok_iff.mp h
    obtain ⟨texts, htexts, h⟩ := bind_eq_ok_iff.mp h
    obtain rfl := pure_eq_ok_iff.mp h
    rw [distinctKeysMembers, Bool.and_eq_true] at hkeys
    obtain ⟨copied, rfl, hnames, hcopies, hok, hstable⟩ := canonicalizeMembers_copy rest hkeys.2 texts htexts
    cases text with
    | none =>
      obtain rfl := eq_undefined_of_canonicalize htext
      refine ⟨⟨key, none, none, false⟩ :: copied, rfl, by simp [hnames], hcopies, ?_, rfl⟩
      exact List.forall_mem_cons.mpr ⟨Or.inl ⟨rfl, rfl⟩, hok⟩
    | some text =>
      obtain ⟨copy, copyText, hcopy, hcanonical, hbetrays⟩ := canonicalize_copy value hkeys.1 text htext
      refine ⟨⟨key, some text, some copyText, jsonStable value⟩ :: copied, rfl, by simp [hnames], ?_, ?_, ?_⟩
      · rw [jsonMembers, hcopy]
        simp only [canonicalizeMembers, hcanonical, hcopies]
        rfl
      · exact List.forall_mem_cons.mpr ⟨Or.inr ⟨text, copyText, rfl, rfl, hbetrays⟩, hok⟩
      · rw [List.all_cons, hstable, jsonStableMembers]
termination_by structural members => members

end

mutual

/-- A stable value keeps its canonical text. -/
private theorem canonicalize_stable : ∀ value : JsValue, jsonStable value = true →
    ∃ copy, jsonCopy isoText value = some copy ∧ canonicalize numberText copy = canonicalize numberText value
  | .null, _ | .bool _, _ | .number _, _ | .string _, _ => ⟨_, rfl, rfl⟩
  | .notFinite, _ => ⟨.null, rfl, rfl⟩
  | .array items, h => by
    refine ⟨_, rfl, ?_⟩
    rw [canonicalize, canonicalize, canonicalizeItems_stable items h]
  | .object members, h => by
    refine ⟨_, rfl, ?_⟩
    rw [canonicalize, canonicalize, canonicalizeMembers_stable members h]
termination_by structural value => value

private theorem canonicalizeItems_stable : ∀ items : List JsValue, jsonStableItems items = true →
    canonicalizeItems numberText (jsonItems isoText items) = canonicalizeItems numberText items
  | [], _ => rfl
  | item :: rest, h => by
    rw [jsonStableItems, Bool.and_eq_true] at h
    obtain ⟨copy, hcopy, hcanonical⟩ := canonicalize_stable item h.1
    rw [jsonItems, hcopy, Option.getD_some, canonicalizeItems, canonicalizeItems, hcanonical,
      canonicalizeItems_stable rest h.2]
termination_by structural items => items

private theorem canonicalizeMembers_stable : ∀ members : List (String × JsValue), jsonStableMembers members = true →
    canonicalizeMembers numberText (jsonMembers isoText members) = canonicalizeMembers numberText members
  | [], _ => rfl
  | (key, value) :: rest, h => by
    rw [jsonStableMembers, Bool.and_eq_true] at h
    obtain ⟨copy, hcopy, hcanonical⟩ := canonicalize_stable value h.1
    rw [jsonMembers, hcopy]
    simp only [canonicalizeMembers, hcanonical, canonicalizeMembers_stable rest h.2]
termination_by structural members => members

end

/-- A value with a canonical text is read back from JSON with a canonical text,
which is the same exactly for a stable value. -/
theorem canonicalize_jsonCopy {value : JsValue} {text : String} (hkeys : distinctKeys value = true)
    (h : canonicalize numberText value = .ok (some text)) :
    ∃ copy copyText, jsonCopy isoText value = some copy ∧ canonicalize numberText copy = .ok (some copyText) ∧
      (copyText = text ↔ jsonStable value = true) := by
  obtain ⟨copy, copyText, hcopy, hcanonical, hbetrays⟩ := @canonicalize_copy numberText isoText value hkeys text h
  refine ⟨copy, copyText, hcopy, hcanonical, fun heq => ?_, fun hstable => ?_⟩
  · exact (hbetrays [] [] (by rw [heq])).1
  · obtain ⟨stable, hstored, hsame⟩ := @canonicalize_stable numberText isoText value hstable
    obtain rfl := Option.some.inj (hcopy.symm.trans hstored)
    rw [hcanonical, h] at hsame
    exact Option.some.inj (Except.ok.inj hsame)

end Survives

section Idempotent

variable {isoText : Int → String}

private theorem length_jsonMembers {members : List (String × JsValue)} :
    (jsonMembers isoText members).length ≤ members.length := by
  induction members with
  | nil => exact le_refl _
  | cons member rest ih =>
    obtain ⟨key, value⟩ := member
    rw [jsonMembers]
    cases jsonCopy isoText value with
    | none => exact ih.trans (Nat.le_succ _)
    | some copy => exact Nat.succ_le_succ ih

/-- The members of an object that is read back as it is are, too. -/
theorem jsonCopy_member {members : List (String × JsValue)} {member : String × JsValue}
    (h : jsonCopy isoText (.object members) = some (.object members)) (hmember : member ∈ members) :
    jsonCopy isoText member.2 = some member.2 := by
  have hmembers := JsValue.object.inj (Option.some.inj h)
  induction members with
  | nil => cases hmember
  | cons first rest ih =>
    obtain ⟨key, value⟩ := first
    rw [jsonMembers] at hmembers
    cases hcopy : jsonCopy isoText value with
    | none =>
      rw [hcopy] at hmembers
      have hlength := congrArg List.length hmembers
      have hle := @length_jsonMembers isoText rest
      simp only [List.length_cons] at hlength
      omega
    | some copy =>
      rw [hcopy, List.cons.injEq, Prod.mk.injEq] at hmembers
      obtain ⟨⟨-, rfl⟩, hrest⟩ := hmembers
      rcases List.mem_cons.mp hmember with rfl | hlater
      · exact hcopy
      · exact ih (by rw [jsonCopy, hrest]) hlater hrest

end Idempotent

section StableMembers

variable {isoText : Int → String} {members : List (String × JsValue)}

/-- A stable value has a copy. -/
theorem exists_copy_of_stable {value : JsValue} (h : jsonStable value = true) :
    ∃ copy, jsonCopy isoText value = some copy := by
  cases value with
  | undefined | date | bigint => cases h
  | null | notFinite | bool | number | string | array | object => exact ⟨_, rfl⟩

/-- No member of a stable object is dropped. -/
theorem keys_jsonMembers (h : jsonStableMembers members = true) :
    (jsonMembers isoText members).map Prod.fst = members.map Prod.fst := by
  induction members with
  | nil => rfl
  | cons member rest ih =>
    obtain ⟨key, value⟩ := member
    rw [jsonStableMembers, Bool.and_eq_true] at h
    obtain ⟨copy, hcopy⟩ := @exists_copy_of_stable isoText value h.1
    rw [jsonMembers, hcopy]
    simp only [List.map_cons, ih h.2]

/-- A member of a stable object is read from the copy as its own copy. -/
theorem find_jsonMembers (h : jsonStableMembers members = true) {key : String} :
    ((jsonMembers isoText members).find? (·.1 = key)).map Prod.snd =
      ((members.find? (·.1 = key)).map Prod.snd).bind (jsonCopy isoText) := by
  induction members with
  | nil => rfl
  | cons member rest ih =>
    obtain ⟨name, value⟩ := member
    rw [jsonStableMembers, Bool.and_eq_true] at h
    obtain ⟨copy, hcopy⟩ := @exists_copy_of_stable isoText value h.1
    rw [jsonMembers, hcopy]
    by_cases hname : name = key
    · simp [hname, hcopy]
    · simpa [hname] using ih h.2

theorem stable_of_mem (h : jsonStableMembers members = true) {member : String × JsValue} (hmember : member ∈ members) :
    jsonStable member.2 = true := by
  induction members with
  | nil => cases hmember
  | cons first rest ih =>
    rw [jsonStableMembers, Bool.and_eq_true] at h
    obtain rfl | hrest := List.mem_cons.mp hmember
    · exact h.1
    · exact ih h.2 hrest

end StableMembers

section NoBigInt

variable {isoText : Int → String}

mutual

/-- JSON has no BigInt. -/
theorem hasBigInt_jsonCopy : ∀ {value copy : JsValue}, jsonCopy isoText value = some copy → hasBigInt copy = false
  | .undefined, _, h | .bigint _, _, h => by cases h
  | .null, _, h | .notFinite, _, h | .bool _, _, h | .number _, _, h | .string _, _, h | .date _, _, h => by
    cases h
    rfl
  | .array items, _, h => by
    cases h
    exact hasBigIntItems_jsonItems items
  | .object members, _, h => by
    cases h
    exact hasBigIntMembers_jsonMembers members
termination_by structural value => value

private theorem hasBigIntItems_jsonItems : ∀ items : List JsValue, hasBigIntItems (jsonItems isoText items) = false
  | [] => rfl
  | item :: rest => by
    rw [jsonItems, hasBigIntItems, hasBigIntItems_jsonItems rest, Bool.or_false]
    cases h : jsonCopy isoText item with
    | none => rfl
    | some copy => exact hasBigInt_jsonCopy h
termination_by structural items => items

private theorem hasBigIntMembers_jsonMembers : ∀ members : List (String × JsValue),
    hasBigIntMembers (jsonMembers isoText members) = false
  | [] => rfl
  | (key, value) :: rest => by
    have hrest := hasBigIntMembers_jsonMembers rest
    rw [jsonMembers]
    cases h : jsonCopy isoText value with
    | none => exact hrest
    | some copy => rw [hasBigIntMembers, hasBigInt_jsonCopy h, hrest, Bool.or_false]
termination_by structural members => members

end

end NoBigInt

end js_value
