import Courier.Header
/-! Header fields by name. A list of fields has values for a name exactly when one of its fields has
that name in letters of some case. -/

namespace Courier.Header

theorem sameIgnoringCase_iff (left right : String) :
    sameIgnoringCase left right = true ↔ asciiLowerText left = asciiLowerText right := by
  simp only [sameIgnoringCase, beq_iff_eq, asciiLowerText, String.ofList_inj]

theorem values_eq_nil_iff (name : String) (headers : List Header) :
    values name headers = [] ↔
      ∀ header ∈ headers, asciiLowerText header.1 ≠ asciiLowerText name := by
  simp only [values, List.map_eq_nil_iff, List.filter_eq_nil_iff, sameIgnoringCase_iff, ne_eq]

theorem mem_values_iff (name value : String) (headers : List Header) :
    value ∈ values name headers ↔
      ∃ header ∈ headers, asciiLowerText header.1 = asciiLowerText name ∧ header.2 = value := by
  simp only [values, List.mem_map, List.mem_filter, sameIgnoringCase_iff, and_assoc]

theorem asciiLowerText_idem (text : String) :
    asciiLowerText (asciiLowerText text) = asciiLowerText text := by
  simp only [asciiLowerText, String.toList_ofList, List.map_map, String.ofList_inj]
  exact List.map_congr_left fun c _ => asciiLower_idem c

def Bare (headers : List Header) : Prop :=
  ∀ header ∈ headers, asciiLowerText header.1 ≠ "authorization"

/-! ### Legal values -/

theorem isValueChar_of_isReadableChar {c : Char} (readable : isReadableChar c = true) :
    isValueChar c = true := by
  simp only [isReadableChar, isValueChar, Bool.or_eq_true, Bool.and_eq_true, decide_eq_true_eq] at *
  rcases readable with range | tab
  · exact Or.inl ⟨range.1, by omega⟩
  · exact Or.inr tab

theorem all_of_isReadable {kind : Char → Bool} (printable : ∀ c, isReadableChar c = true → kind c = true)
    {text : String} (readable : isReadable text = true) : text.toList.all kind = true := by
  rw [isReadable, List.all_eq_true] at readable
  exact List.all_eq_true.mpr fun c member => printable c (readable c member)

theorem isValue_of_isReadable {text : String} (readable : isReadable text = true) :
    isValue text = true := all_of_isReadable (fun _ => isValueChar_of_isReadableChar) readable

theorem isReadable_append (first second : String) :
    isReadable (first ++ second) = (isReadable first && isReadable second) := by
  simp only [isReadable, String.toList_append, List.all_append]

theorem isReadable_ofList (text : List Char) :
    isReadable (String.ofList text) = text.all isReadableChar := by
  rw [isReadable, String.toList_ofList]

end Courier.Header
