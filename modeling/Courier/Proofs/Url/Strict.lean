import Courier.Proofs.Outcome
import Courier.Text.Blank
import Courier.Url.Parser
import Courier.Url.Strict
/-! Texts that may be sent as URLs. What stands before their path has only characters that every
reader of URLs takes as they are, and no bracket is left open there. -/

namespace Courier

def isSolid (c : Char) : Bool := 0x20 < c.toNat && c.toNat < 0x7F && c ≠ '\\'

theorem isSolid_range {c : Char} (solid : isSolid c = true) :
    0x20 < c.toNat ∧ c.toNat < 0x7F ∧ c ≠ '\\' := by
  simpa [isSolid, and_assoc] using solid

theorem isBlank_of_isSolid {c : Char} (solid : isSolid c = true) : isBlank c = false := by
  have range := isSolid_range solid
  simp only [isBlank, Bool.or_eq_false_iff, Bool.and_eq_false_iff, decide_eq_false_iff_not,
    beq_eq_false_iff_ne]
  omega

theorem isEdge_of_isSolid {c : Char} (solid : isSolid c = true) : Url.isEdge c = false := by
  have range := isSolid_range solid
  simp only [Url.isEdge, decide_eq_false_iff_not]
  omega

theorem isBreak_of_isSolid {c : Char} (solid : isSolid c = true) : Url.isBreak c = false := by
  have range := isSolid_range solid
  simp only [Url.isBreak, Bool.or_eq_false_iff, decide_eq_false_iff_not]
  refine ⟨⟨?_, ?_⟩, ?_⟩ <;> rintro rfl <;> revert range <;> decide

theorem isSolid_of_isAsciiAlphanum {c : Char} (plain : isAsciiAlphanum c = true) :
    isSolid c = true := by
  have range : ((65 ≤ c.toNat ∧ c.toNat ≤ 90) ∨ (97 ≤ c.toNat ∧ c.toNat ≤ 122)) ∨
      (48 ≤ c.toNat ∧ c.toNat ≤ 57) := by
    simpa [isAsciiAlphanum, isAsciiAlpha, isAsciiUpper, isAsciiDigit, Char.le_def,
      UInt32.le_iff_toNat_le] using plain
  have other : c ≠ '\\' := by
    rintro rfl
    revert range
    decide
  simp only [isSolid, other, ne_eq, not_false_eq_true, decide_true, Bool.and_true, Bool.and_eq_true,
    decide_eq_true_eq]
  omega

namespace Strict

theorem isSolid_of_isUriChar {c : Char} (allowed : isUriChar c = true) : isSolid c = true := by
  simp only [isUriChar, Bool.or_eq_true, List.contains_eq_mem, decide_eq_true_eq] at allowed
  rcases allowed with plain | mark
  · exact isSolid_of_isAsciiAlphanum plain
  · have marks : ['!', '#', '$', '&', '\'', '(', ')', '*', '+', ',', '-', '.', '/', ':', ';',
        '=', '?', '@', '[', ']', '_', '~'].all isSolid = true := by decide +kernel
    exact List.all_eq_true.mp marks c mark

def openAfter (inside : Bool) (text : List Char) : Bool :=
  text.foldl (fun inside c => c = '[' || (inside && c ≠ ']')) inside

theorem openAfter_cons (inside : Bool) (c : Char) (rest : List Char) :
    openAfter inside (c :: rest) = openAfter (c = '[' || (inside && c ≠ ']')) rest := rfl

theorem openAfter_append (inside : Bool) (first second : List Char) :
    openAfter inside (first ++ second) = openAfter (openAfter inside first) second :=
  List.foldl_append

theorem openAfter_of_plain {inside : Bool} {text : List Char}
    (plain : ∀ c ∈ text, c ≠ '[' ∧ c ≠ ']') : openAfter inside text = inside := by
  induction text with
  | nil => rfl
  | cons c rest ih =>
    obtain ⟨here, others⟩ := List.forall_mem_cons.mp plain
    simpa [openAfter_cons, here] using ih others

theorem openAfter_of_unclosed {text : List Char} (unclosed : ']' ∉ text) :
    openAfter true text = true := by
  induction text with
  | nil => rfl
  | cons c rest ih =>
    have other : c ≠ ']' := fun same => unclosed (by simp [same])
    have more : ']' ∉ rest := fun member => unclosed (List.mem_cons_of_mem _ member)
    simpa [openAfter_cons, other] using ih more

theorem add_eq_ok {s after : Survey} {c : Char} (added : s.add c = .ok after)
    (nested : s.closed = true → s.opened = true) :
    isSolid c = true ∧ (after.closed = true → after.opened = true) ∧
      (after.opened && !after.closed) = (c = '[' || ((s.opened && !s.closed) && c ≠ ']')) := by
  -- Only the three cases of a colon and of the brackets touch what `nested` and the last part say.
  unfold Survey.add at added
  by_cases colon : c = ':'
  · subst colon
    simp only [↓reduceIte] at added
    split at added
    · cases added
    · cases added
      exact ⟨by decide, nested, by simp⟩
  by_cases opening : c = '['
  · subst opening
    simp only [↓reduceIte, Char.reduceEq] at added
    split at added
    · cases added
    next closed =>
      cases added
      have unopened : s.opened = false := by simp_all
      refine ⟨by decide, fun _ => rfl, ?_⟩
      cases unclosed : s.closed with
      | false => simp
      | true => exact absurd (nested unclosed) (by simp [unopened])
  by_cases closing : c = ']'
  · subst closing
    simp only [↓reduceIte, Char.reduceEq] at added
    split at added
    · cases added
    next fine =>
      cases added
      have opened : s.opened = true := by simp_all
      exact ⟨by decide, fun _ => opened, by simp⟩
  simp only [colon, opening, closing, ↓reduceIte] at added
  have same : ∀ inside : Bool, (c = '[' || (inside && c ≠ ']')) = inside := by
    intro inside
    simp [opening, closing]
  rw [same]
  by_cases sign : c = '@'
  · subst sign
    simp only [↓reduceIte] at added
    cases added
    exact ⟨by decide, nested, rfl⟩
  by_cases percent : c = '%'
  · subst percent
    simp only [↓reduceIte, Char.reduceEq] at added
    cases added
    exact ⟨by decide, nested, rfl⟩
  simp only [sign, percent, ↓reduceIte] at added
  split at added
  next allowed =>
    cases added
    exact ⟨isSolid_of_isUriChar allowed, nested, rfl⟩
  next => cases added

theorem survey_eq_ok {text : List Char} {s after : Survey}
    (surveyed : text.foldlM Survey.add s = .ok after) (nested : s.closed = true → s.opened = true) :
    (∀ c ∈ text, isSolid c = true) ∧
      (after.opened && !after.closed) = openAfter (s.opened && !s.closed) text ∧
      (after.closed = true → after.opened = true) := by
  induction text generalizing s with
  | nil =>
    cases surveyed
    exact ⟨by simp, rfl, nested⟩
  | cons c rest ih =>
    rw [List.foldlM_cons, Outcome.bind_eq_ok_iff] at surveyed
    obtain ⟨next, added, surveyed⟩ := surveyed
    obtain ⟨solid, stillNested, brackets⟩ := add_eq_ok added nested
    obtain ⟨others, more, ends⟩ := ih surveyed stillNested
    exact ⟨List.forall_mem_cons.mpr ⟨solid, others⟩, by rw [more, brackets, openAfter_cons], ends⟩

/-- What stands before the path of a text that may be sent: no characters that readers of URLs would
drop, and no bracket left open. -/
theorem checkAuthority_eq_ok {text rest : List Char} (checked : checkAuthority text = .ok rest) :
    (∀ c ∈ text.takeWhile (!endsAuthority ·), isSolid c = true) ∧
      openAfter false (text.takeWhile (!endsAuthority ·)) = false ∧
      rest = text.dropWhile (!endsAuthority ·) := by
  rw [checkAuthority, Outcome.bind_eq_ok_iff] at checked
  obtain ⟨survey, surveyed, checked⟩ := checked
  obtain ⟨_, verdict, same⟩ := (Outcome.bind_eq_ok_iff _ _ _).mp checked
  obtain ⟨solid, brackets, _⟩ := survey_eq_ok surveyed (by simp)
  have even : survey.opened = survey.closed := by
    unfold Survey.check at verdict
    split at verdict
    · cases verdict
    next fine =>
      simp only [ne_eq, Bool.or_eq_true, decide_eq_true_eq, not_or, not_not] at fine
      exact fine.1.1.1
  have balanced : (survey.opened && !survey.closed) = false := by simp [even]
  exact ⟨solid, brackets.symm.trans balanced, (Except.ok.inj same).symm⟩

end Strict
end Courier
