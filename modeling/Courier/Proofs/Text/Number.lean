import Courier.Text.Ascii
import Mathlib.Algebra.Group.Nat.Defs
/-! Numbers in digits. A number that was written is read again, and what is read lies below the power
of the base that the number of digits allows. -/

namespace Courier

theorem digitValue?_digitChar : ∀ value < 16, digitValue? value.digitChar = some value := by decide

theorem readDigits_append (base : Nat) (front back : List Char) (read : Nat) :
    readDigits base (front ++ back) read =
      (readDigits base front read).bind (readDigits base back) := by
  induction front generalizing read with
  | nil => rfl
  | cons c rest ih =>
    rw [List.cons_append, readDigits, readDigits]
    split
    · split
      · exact ih _
      · rfl
    · rfl

theorem readDigits_toDigits {base : Nat} (several : 2 ≤ base) (few : base ≤ 16) (n : Nat) :
    readDigits base (Nat.toDigits base n) 0 = some n := by
  induction n using Nat.strongRecOn with
  | _ n ih =>
    have last : n % base < base := Nat.mod_lt _ (by omega)
    rcases Nat.lt_or_ge n base with single | more
    · rw [Nat.toDigits_of_lt_base single]
      simp only [readDigits, digitValue?_digitChar n (by omega), if_pos single, Nat.zero_mul,
        Nat.zero_add]
    · have shorter : n / base < n := Nat.div_lt_self (by omega) (by omega)
      rw [Nat.toDigits_of_base_le (by omega) more, readDigits_append, ih _ shorter, Option.bind_some]
      simp only [readDigits, digitValue?_digitChar (n % base) (by omega), if_pos last]
      rw [Nat.mul_comm, Nat.div_add_mod]

theorem number?_toDigits {base : Nat} (several : 2 ≤ base) (few : base ≤ 16) (n : Nat) :
    number? base (Nat.toDigits base n) = some n := by
  have given : (Nat.toDigits base n).isEmpty = false := by
    rw [List.isEmpty_eq_false_iff]
    exact Nat.toDigits_ne_nil
  rw [number?, given]
  exact readDigits_toDigits several few n

theorem isAsciiDigit_of_mem_decimal {n : Nat} {c : Char} (member : c ∈ decimal n) :
    isAsciiDigit c = true := by
  simpa [isAsciiDigit, Char.isDigit, Char.le_def] using
    Nat.isDigit_of_mem_toDigits (by omega) (by omega) member

theorem exists_decimal_eq_cons {n : Nat} (positive : 0 < n) :
    ∃ c more, decimal n = c :: more ∧ c ≠ '0' := by
  induction n using Nat.strongRecOn with
  | _ n ih =>
    rcases Nat.lt_or_ge n 10 with single | more
    · have digits : ∀ value < 10, 0 < value → value.digitChar ≠ '0' := by decide
      rw [decimal, Nat.toDigits_of_lt_base single]
      exact ⟨_, [], rfl, digits n single positive⟩
    · obtain ⟨c, front, shown, other⟩ := ih (n / 10) (by omega) (by omega)
      rw [decimal, Nat.toDigits_of_base_le (by omega) more, ← decimal, shown]
      exact ⟨c, _, rfl, other⟩

theorem readDigits_ge {base read n : Nat} {text : List Char} (positive : 0 < base)
    (given : readDigits base text read = some n) : read ≤ n := by
  induction text generalizing read with
  | nil => exact Nat.le_of_eq (Option.some.inj given)
  | cons c rest ih =>
    rw [readDigits] at given
    split at given
    next value _ =>
      obtain ⟨_, given⟩ := Option.ite_none_right_eq_some.mp given
      calc read ≤ read * base := Nat.le_mul_of_pos_right read positive
        _ ≤ read * base + value := Nat.le_add_right _ _
        _ ≤ n := ih given
    next => cases given

theorem readDigits_lt {base read n : Nat} {text : List Char}
    (given : readDigits base text read = some n) : n < (read + 1) * base ^ text.length := by
  induction text generalizing read with
  | nil =>
    obtain rfl := Option.some.inj given
    simp
  | cons c rest ih =>
    rw [readDigits] at given
    split at given
    next value _ =>
      rw [Option.ite_none_right_eq_some] at given
      obtain ⟨small, given⟩ := given
      calc n < (read * base + value + 1) * base ^ rest.length := ih given
        _ ≤ ((read + 1) * base) * base ^ rest.length :=
          Nat.mul_le_mul_right _ (by rw [Nat.add_mul]; omega)
        _ = (read + 1) * base ^ (c :: rest).length := by
          rw [List.length_cons, Nat.pow_succ, Nat.mul_assoc, Nat.mul_comm base]
    next => cases given

end Courier
