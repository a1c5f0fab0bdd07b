import Mathlib
import RwaControlPlane.Library.JsonText

namespace js_value

variable {readNumber : String → Option Rat} {value : JsValue} {spaces : List Char}

private theorem not_isNumberChar_of_space {char : Char} (h : isJsonSpace char = true) : isNumberChar char = false := by
  have hchar := Char.ofNat_toNat char
  simp only [isJsonSpace, List.contains_eq_mem, List.mem_cons, List.not_mem_nil, or_false, decide_eq_true_eq] at h
  obtain hspace | htab | hline | hreturn := h
  · rw [← hchar, hspace]
    decide
  · rw [← hchar, htab]
    decide
  · rw [← hchar, hline]
    decide
  · rw [← hchar, hreturn]
    decide

/-- The text of a value without numbers is read back as the value, with any white space
after it. -/
theorem parse_jsonText (h : IsJson ∅ value) (hspaces : ∀ char ∈ spaces, isJsonSpace char = true) :
    jsonParse readNumber (String.ofList (jsonText (fun _ => "") value ++ spaces)) = some value := by
  have htexts : NumberTexts ∅ (fun _ => "") readNumber :=
    ⟨fun _ hmem => absurd hmem (Set.notMem_empty _), fun _ hmem => absurd hmem (Set.notMem_empty _),
      fun _ hmem => absurd hmem (Set.notMem_empty _)⟩
  have hends : Ends spaces := by
    intro char hchar
    exact not_isNumberChar_of_space (hspaces char (List.mem_of_mem_head? hchar))
  have hskip : skipSpace spaces = [] := List.dropWhile_eq_nil_iff.mpr hspaces
  have hread := h.readBack htexts (2 * (jsonText (fun _ => "") value ++ spaces).length + 1) spaces
    (by rw [List.length_append]; omega) hends
  rw [jsonParse, String.toList_ofList, hread]
  exact if_pos hskip

end js_value
