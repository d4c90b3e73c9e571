import Courier.Validation
/-! What counts as success, said of the ranges and of the text alone. -/

namespace Courier

theorem occursIn_iff (sought text : List Char) :
    occursIn sought text = true ↔ sought <:+: text := by
  induction text with
  | nil => simp [occursIn]
  | cons c rest ih =>
    rw [occursIn, Bool.or_eq_true, ih, List.isPrefixOf_iff_prefix, List.infix_cons_iff]

def StandsIn (sought text : String) : Prop := ∃ before after, text = before ++ sought ++ after

theorem standsIn_iff (sought text : String) :
    StandsIn sought text ↔ occursIn sought.toList text.toList = true := by
  rw [occursIn_iff]
  constructor
  · rintro ⟨before, after, rfl⟩
    exact ⟨before.toList, after.toList, by simp only [String.toList_append]⟩
  · rintro ⟨before, after, whole⟩
    refine ⟨String.ofList before, String.ofList after, String.toList_inj.mp ?_⟩
    simp only [String.toList_append, String.toList_ofList, whole]

namespace RangeSet

def Excludes (set : RangeSet) (status : Nat) : Prop :=
  ∀ range ∈ set.ranges, ¬(range.low ≤ status ∧ status ≤ range.high)

theorem matching?_eq_none_iff (set : RangeSet) (status : Nat) :
    set.matching? status = none ↔ set.Excludes status := by
  simp only [matching?, Excludes, List.find?_eq_none, StatusRange.contains, Bool.and_eq_true,
    decide_eq_true_eq]

end RangeSet

namespace Validation

theorem checkStatus_of_excluded {accepted : RangeSet} {status : Nat}
    (outside : accepted.Excludes status) :
    checkStatus accepted status = .error (.status status accepted) := by
  simp only [checkStatus, (accepted.matching?_eq_none_iff status).mpr outside]

theorem checkStatus_of_included {accepted : RangeSet} {status : Nat}
    (inside : ¬accepted.Excludes status) : ∃ range, checkStatus accepted status = .ok range := by
  rw [← accepted.matching?_eq_none_iff status, ← ne_eq, Option.ne_none_iff_exists'] at inside
  obtain ⟨range, matched⟩ := inside
  exact ⟨range, by simp only [checkStatus, matched]⟩

theorem requirement?_eq_some_iff (required : Option String) (text : String) :
    requirement? required = some text ↔ required = some text ∧ text ≠ "" := by
  simp only [requirement?, Option.filter_eq_some_iff, Bool.not_eq_true', String.isEmpty_eq_false_iff]

def Lacks (required : Option String) (content text : String) : Prop :=
  required = some text ∧ text ≠ "" ∧ ¬StandsIn text content

theorem checkContent_of_lacking {required : Option String} {content text : String}
    (lacks : Lacks required content text) :
    checkContent required content = .error (.content content.length text) := by
  obtain ⟨asked, nonempty, missing⟩ := lacks
  simp only [checkContent, (requirement?_eq_some_iff required text).mpr ⟨asked, nonempty⟩,
    mt (standsIn_iff text content).mpr missing, Bool.false_eq_true, ↓reduceIte]

theorem checkContent_of_full {required : Option String} {content : String}
    (full : ∀ text, ¬Lacks required content text) : checkContent required content = .ok () := by
  cases asked : requirement? required with
  | none => simp only [checkContent, asked]
  | some text =>
    obtain ⟨given, nonempty⟩ := (requirement?_eq_some_iff required text).mp asked
    have stands : StandsIn text content :=
      Classical.byContradiction fun missing => full text ⟨given, nonempty, missing⟩
    simp only [checkContent, asked, (standsIn_iff text content).mp stands, ↓reduceIte]

end Validation
end Courier
