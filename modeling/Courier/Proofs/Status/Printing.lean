import Courier.Proofs.Status.Grammar
/-! Range lists that were written. What is read from a text is written so that it is read again, and
so is every list of ranges that has one and stays within the statuses. -/

namespace Courier

theorem isBlank_of_isAsciiDigit {c : Char} (digit : isAsciiDigit c = true) : isBlank c = false := by
  have low : ∀ n < 128, isAsciiDigit (Char.ofNat n) = true → isBlank (Char.ofNat n) = false := by
    decide
  exact forall_isAscii (fun c => isAsciiDigit c = true → isBlank c = false) low
    (isAscii_of_isAsciiDigit digit) digit

/-! ### Ranges -/

namespace RangeSet

theorem isCode_decimal (code : Nat) : IsCode (decimal code) code := by
  have digits : ∀ c ∈ decimal code, isAsciiDigit c = true :=
    fun c member => isAsciiDigit_of_mem_decimal member
  have trimmed : trim (decimal code) = decimal code :=
    trim_of_solid fun c member => isBlank_of_isAsciiDigit (digits c member)
  have read : readDigits 10 (decimal code) 0 = some code :=
    readDigits_toDigits (by decide) (by decide) code
  rw [readDigits_eq digits, Nat.zero_mul, Nat.zero_add] at read
  refine ⟨?_, ?_, ?_⟩
  · rw [trimmed]
    exact Nat.toDigits_ne_nil
  · rwa [trimmed]
  · rw [trimmed]
    exact Option.some.inj read

theorem mem_write {range : StatusRange} {c : Char} (member : c ∈ range.write) :
    isAsciiDigit c = true ∨ c = ':' := by
  unfold StatusRange.write at member
  split at member
  · exact Or.inl (isAsciiDigit_of_mem_decimal member)
  · rcases List.mem_append.mp member with low | rest
    · exact Or.inl (isAsciiDigit_of_mem_decimal low)
    · rcases List.mem_cons.mp rest with colon | high
      · exact Or.inr colon
      · exact Or.inl (isAsciiDigit_of_mem_decimal high)

theorem trim_write (range : StatusRange) : trim range.write = range.write := by
  apply trim_of_solid
  intro c member
  rcases mem_write member with digit | rfl
  · exact isBlank_of_isAsciiDigit digit
  · decide

theorem comma_not_mem_write (range : StatusRange) : ',' ∉ range.write := by
  intro member
  rcases mem_write member with digit | colon
  · cases digit
  · exact absurd colon (by decide)

theorem means_write {range : StatusRange} (most : range.high ≤ 599) : Means range.write range := by
  obtain ⟨low, high, ordered⟩ := range
  unfold StatusRange.write
  split
  next same =>
    dsimp only at same most
    subst same
    exact .code (isCode_decimal low) most
  next => exact .range rfl (isCode_decimal low) (isCode_decimal high) ordered most

/-! ### Lists of ranges -/

structure IsGiven (set : RangeSet) : Prop where
  nonempty : set.ranges ≠ []
  bounded : ∀ range ∈ set.ranges, range.high ≤ 599

theorem entries_text {set : RangeSet} (nonempty : set.ranges ≠ []) :
    entries set.text = set.ranges.map StatusRange.write := by
  have cut : splitAt ',' set.write = set.ranges.map StatusRange.write :=
    splitAt_joinWith (by simpa using nonempty) (by simpa using fun range _ => comma_not_mem_write range)
  rw [entries, text, String.toList_ofList, ← splitAt_eq_splitOn, cut, List.map_map]
  exact List.map_congr_left fun range _ => trim_write range

theorem ofText_text {set : RangeSet} (given : set.IsGiven) : ofText set.text = .ok set := by
  rw [ofText_eq_ok_iff, entries_text given.nonempty, List.forall₂_map_left_iff, List.forall₂_same]
  exact fun range member => means_write (given.bounded range member)

theorem isGiven_of_ofText {text : String} {set : RangeSet} (taken : ofText text = .ok set) :
    set.IsGiven := by
  have each := (ofText_eq_ok_iff text set).mp taken
  refine ⟨?_, ?_⟩
  · intro none
    rw [none, List.forall₂_nil_right_iff, entries, List.map_eq_nil_iff] at each
    exact List.splitOn_ne_nil ',' text.toList each
  · intro range member
    obtain ⟨entry, _, means⟩ := Outcome.exists_of_mem_forall₂ each.flip member
    exact means.bounded.2

theorem isGiven_of_parse {text : Option String} {set : RangeSet} (taken : parse text = .ok set) :
    set.IsGiven := by
  have standard : default.IsGiven := ⟨by decide, by decide⟩
  cases text with
  | none => exact Except.ok.inj taken ▸ standard
  | some text =>
    rw [parse_some] at taken
    split at taken
    · exact Except.ok.inj taken ▸ standard
    · exact isGiven_of_ofText taken

theorem isBlank_of_mem_text {set : RangeSet} {c : Char} (member : c ∈ set.text.toList) :
    isBlank c = false := by
  have ranges : (set.ranges.map StatusRange.write).all (·.all (!isBlank ·)) = true := by
    simp only [List.all_map, List.all_eq_true, Function.comp_apply, Bool.not_eq_true']
    intro range _ c member
    rcases mem_write member with digit | rfl
    · exact isBlank_of_isAsciiDigit digit
    · decide
  have comma : [','].all (!isBlank ·) = true := by decide
  rw [text, String.toList_ofList] at member
  rw [← all_joinWith comma, List.all_eq_true] at ranges
  simpa using ranges c member

theorem parse_text {set : RangeSet} (given : set.IsGiven) : parse (some set.text) = .ok set := by
  have read := ofText_text given
  have trimmed : trim set.text.toList = set.text.toList :=
    trim_of_solid fun c member => isBlank_of_mem_text member
  have shown : set.text.toList ≠ [] := by
    intro nothing
    rw [String.toList_eq_nil_iff.mp nothing] at read
    cases read
  rw [parse_some, trimmed, if_neg shown, String.ofList_toList, read]

end RangeSet
end Courier
