import RwaControlPlane.Library.JsJson
import RwaControlPlane.Library.JsonText

namespace js_value

/-- JSON values, in which dates can stand for values. -/
inductive IsDatedJson (numbers : Set Rat) : JsValue → Prop
  | null : IsDatedJson numbers .null
  | bool {value : Bool} : IsDatedJson numbers (.bool value)
  | number {value : Rat} (hvalue : value ∈ numbers) : IsDatedJson numbers (.number value)
  | string {text : String} : IsDatedJson numbers (.string text)
  | date {time : Int} : IsDatedJson numbers (.date time)
  | array {items : List JsValue} (hitems : ∀ item ∈ items, IsDatedJson numbers item) :
      IsDatedJson numbers (.array items)
  | object {members : List (String × JsValue)} (hkeys : (members.map Prod.fst).Nodup)
      (hmembers : ∀ member ∈ members, IsDatedJson numbers member.2) : IsDatedJson numbers (.object members)

mutual

/-- Whether a date stands anywhere in a value. -/
def hasDate : JsValue → Bool
  | .date _ => true
  | .array items => hasDateItems items
  | .object members => hasDateMembers members
  | _ => false
termination_by structural value => value

def hasDateItems : List JsValue → Bool
  | [] => false
  | item :: rest => hasDate item || hasDateItems rest
termination_by structural items => items

def hasDateMembers : List (String × JsValue) → Bool
  | [] => false
  | (_, value) :: rest => hasDate value || hasDateMembers rest
termination_by structural members => members

end

section Map

-- what is written for a date
variable (write : Int → JsValue)

mutual

def mapDates : JsValue → JsValue
  | .date time => write time
  | .array items => .array (mapDatesItems items)
  | .object members => .object (mapDatesMembers members)
  | value => value
termination_by structural value => value

def mapDatesItems : List JsValue → List JsValue
  | [] => []
  | item :: rest => mapDates item :: mapDatesItems rest
termination_by structural items => items

def mapDatesMembers : List (String × JsValue) → List (String × JsValue)
  | [] => []
  | (key, value) :: rest => (key, mapDates value) :: mapDatesMembers rest
termination_by structural members => members

end

end Map

variable {write other : Int → JsValue} {numbers : Set Rat} {numberText : Rat → String} {isoText : Int → String}

theorem hasDateItems_eq {items : List JsValue} : hasDateItems items = items.any hasDate := by
  induction items with
  | nil => rfl
  | cons item rest ih => rw [hasDateItems, ih, List.any_cons]

theorem hasDateMembers_eq {members : List (String × JsValue)} :
    hasDateMembers members = members.any fun member => hasDate member.2 := by
  induction members with
  | nil => rfl
  | cons member rest ih => rw [hasDateMembers, ih, List.any_cons]

theorem mapDatesItems_eq {items : List JsValue} : mapDatesItems write items = items.map (mapDates write) := by
  induction items with
  | nil => rfl
  | cons item rest ih => rw [mapDatesItems, ih, List.map_cons]

theorem mapDatesMembers_eq {members : List (String × JsValue)} :
    mapDatesMembers write members = members.map fun member => (member.1, mapDates write member.2) := by
  induction members with
  | nil => rfl
  | cons member rest ih => rw [mapDatesMembers, ih, List.map_cons]

/-- JSON values have no dates. -/
theorem IsJson.dated {value : JsValue} (h : IsJson numbers value) :
    IsDatedJson numbers value ∧ hasDate value = false := by
  induction h with
  | null => exact ⟨.null, rfl⟩
  | bool => exact ⟨.bool, rfl⟩
  | number hvalue => exact ⟨.number hvalue, rfl⟩
  | string => exact ⟨.string, rfl⟩
  | array hitems ih =>
    refine ⟨.array fun item hmem => (ih item hmem).1, ?_⟩
    rw [hasDate, hasDateItems_eq, List.any_eq_false]
    exact fun item hmem => by simp [(ih item hmem).2]
  | object hkeys hmembers ih =>
    refine ⟨.object hkeys fun member hmem => (ih member hmem).1, ?_⟩
    rw [hasDate, hasDateMembers_eq, List.any_eq_false]
    exact fun member hmem => by simp [(ih member hmem).2]

/-- With JSON written for its dates, a value becomes a JSON value. -/
theorem IsDatedJson.map {value : JsValue} (h : IsDatedJson numbers value)
    (hwrite : ∀ time, IsJson numbers (write time)) :
    IsJson numbers (mapDates write value) := by
  induction h with
  | null => exact .null
  | bool => exact .bool
  | number hvalue => exact .number hvalue
  | string => exact .string
  | date => exact hwrite _
  | array hitems ih =>
    rw [mapDates, mapDatesItems_eq]
    refine .array fun item hmem => ?_
    obtain ⟨source, hsource, rfl⟩ := List.mem_map.mp hmem
    exact ih source hsource
  | object hkeys hmembers ih =>
    rw [mapDates, mapDatesMembers_eq]
    refine .object (by rwa [List.map_map]) fun member hmem => ?_
    obtain ⟨source, hsource, rfl⟩ := List.mem_map.mp hmem
    exact ih source hsource

/-- A value without dates stays. -/
theorem IsDatedJson.map_eq_self {value : JsValue} (h : IsDatedJson numbers value) (hdate : hasDate value = false) :
    mapDates write value = value := by
  induction h with
  | null | bool | number | string => rfl
  | date => cases hdate
  | array hitems ih =>
    rw [hasDate, hasDateItems_eq, List.any_eq_false] at hdate
    rw [mapDates, mapDatesItems_eq]
    refine congrArg JsValue.array ((List.map_congr_left fun item hmem => ?_).trans (List.map_id _))
    exact ih item hmem (by simpa using hdate item hmem)
  | object hkeys hmembers ih =>
    rw [hasDate, hasDateMembers_eq, List.any_eq_false] at hdate
    rw [mapDates, mapDatesMembers_eq]
    refine congrArg JsValue.object ((List.map_congr_left fun member hmem => ?_).trans (List.map_id _))
    exact Prod.ext rfl (ih member hmem (by simpa using hdate member hmem))

/-- Stored as JSON and read back, a value has the texts of its dates. -/
theorem IsDatedJson.jsonCopy {value : JsValue} (h : IsDatedJson numbers value) :
    jsonCopy isoText value = some (mapDates (fun time => .string (isoText time)) value) := by
  induction h with
  | null | bool | number | string | date => rfl
  | @array items hitems ih =>
    rw [js_value.jsonCopy, mapDates, mapDatesItems_eq]
    refine congrArg (some ∘ JsValue.array) ?_
    clear hitems
    induction items with
    | nil => rfl
    | cons item rest ihrest =>
      obtain ⟨hitem, hrest⟩ := List.forall_mem_cons.mp ih
      rw [jsonItems, hitem, Option.getD_some, ihrest hrest, List.map_cons]
  | @object members hkeys hmembers ih =>
    rw [js_value.jsonCopy, mapDates, mapDatesMembers_eq]
    refine congrArg (some ∘ JsValue.object) ?_
    clear hkeys hmembers
    induction members with
    | nil => rfl
    | cons member rest ihrest =>
      obtain ⟨hmember, hrest⟩ := List.forall_mem_cons.mp ih
      rw [jsonMembers, hmember]
      exact congrArg _ (ihrest hrest)

/-- The canonical text of a value is the one with an empty object for every date. -/
theorem IsDatedJson.canonicalize_blank {value : JsValue} (h : IsDatedJson numbers value) :
    canonicalize numberText (mapDates (fun _ => .object []) value) = canonicalize numberText value := by
  induction h with
  | null | bool | number | string => rfl
  | date => rfl
  | @array items hitems ih =>
    have htexts : canonicalizeItems numberText (items.map (mapDates fun _ => .object [])) =
        canonicalizeItems numberText items := by
      clear hitems
      induction items with
      | nil => rfl
      | cons item rest ihrest =>
        obtain ⟨hitem, hrest⟩ := List.forall_mem_cons.mp ih
        rw [List.map_cons, canonicalizeItems, canonicalizeItems, hitem, ihrest hrest]
    rw [mapDates, mapDatesItems_eq, canonicalize, canonicalize, htexts]
  | @object members hkeys hmembers ih =>
    have htexts : canonicalizeMembers numberText
        (members.map fun member => (member.1, mapDates (fun _ => .object []) member.2)) =
        canonicalizeMembers numberText members := by
      clear hkeys hmembers
      induction members with
      | nil => rfl
      | cons member rest ihrest =>
        obtain ⟨hmember, hrest⟩ := List.forall_mem_cons.mp ih
        rw [List.map_cons, canonicalizeMembers, canonicalizeMembers, hmember, ihrest hrest]
    rw [mapDates, mapDatesMembers_eq, canonicalize, canonicalize, htexts]

/-- The members of two values that are the same have the same values. -/
theorem SameJson.member {members others : List (String × JsValue)} {key : String} {value : JsValue}
    (h : SameJson (.object members) (.object others)) (hmem : (key, value) ∈ members) :
    ∃ same, (key, same) ∈ others ∧ SameJson value same := by
  cases h with
  | @object _ _ first second hfirst hsecond hkeys hvalues =>
    obtain ⟨position, hposition, hget⟩ := List.getElem_of_mem (hfirst.mem_iff.mpr hmem)
    have hlength : first.length = second.length := by
      have := congrArg List.length hkeys
      rwa [List.length_map, List.length_map] at this
    have hsame : position < second.length := hlength ▸ hposition
    have hkey : second[position].1 = key := by
      have hget' := List.getElem_of_eq hkeys (by rwa [List.length_map] : position < (first.map Prod.fst).length)
      rw [List.getElem_map, List.getElem_map, hget] at hget'
      exact hget'.symm
    have hzip : position < (first.zip second).length := by
      rw [List.length_zip]
      exact lt_min hposition hsame
    have hvalue := hvalues _ (List.getElem_mem hzip)
    rw [List.getElem_zip, hget] at hvalue
    refine ⟨second[position].2, hsecond.mem_iff.mp ?_, hvalue⟩
    rw [← hkey]
    exact List.getElem_mem hsame

theorem SameJson.text_eq {text same : String} (h : SameJson (.string text) (.string same)) : text = same := by
  cases h
  rfl

/-- What is written for the dates of a value can be told apart, unless it has none. -/
theorem IsDatedJson.same_map_iff {value : JsValue} (h : IsDatedJson numbers value)
    (hwrite : ∀ time, IsJson numbers (write time)) (hother : ∀ time, ¬SameJson (write time) (other time)) :
    SameJson (mapDates write value) (mapDates other value) ↔ hasDate value = false := by
  constructor
  · intro hsame
    induction h with
    | null | bool | number | string => rfl
    | date => exact absurd hsame (hother _)
    | @array items hitems ih =>
      rw [mapDates, mapDates, mapDatesItems_eq, mapDatesItems_eq] at hsame
      rw [hasDate, hasDateItems_eq, List.any_eq_false]
      intro item hmem
      have hpair : (mapDates write item, mapDates other item) ∈
          (items.map (mapDates write)).zip (items.map (mapDates other)) := by
        rw [List.zip_map']
        exact List.mem_map.mpr ⟨item, hmem, rfl⟩
      cases hsame with
      | array hlength hall =>
        rw [ih item hmem (hall _ hpair)]
        exact Bool.false_ne_true
    | @object members hkeys hmembers ih =>
      rw [mapDates, mapDates, mapDatesMembers_eq, mapDatesMembers_eq] at hsame
      rw [hasDate, hasDateMembers_eq, List.any_eq_false]
      rintro ⟨key, value⟩ hmem
      obtain ⟨same, hsameMem, hvalue⟩ := hsame.member (List.mem_map.mpr ⟨_, hmem, rfl⟩)
      obtain ⟨⟨key', source⟩, hsource, hpair⟩ := List.mem_map.mp hsameMem
      obtain ⟨rfl, rfl⟩ := Prod.mk.inj hpair
      -- a key has one value
      obtain rfl : source = value := by
        have := List.inj_on_of_nodup_map hkeys hsource hmem rfl
        exact (Prod.mk.inj this).2
      rw [ih _ hmem hvalue]
      exact Bool.false_ne_true
  · intro hdate
    rw [h.map_eq_self hdate, h.map_eq_self hdate]
    have hjson := h.map hwrite
    rw [h.map_eq_self hdate] at hjson
    exact same_of_sortKeys hjson hjson rfl

end js_value
