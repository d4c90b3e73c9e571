import Courier.Proofs.Outcome
import Courier.Proofs.Text
import Courier.Proofs.Text.Number
import Courier.Url.Ipv4
/-! IPv4 addresses there and back. An address has 32 bits; it is read again from its four numbers. -/

namespace Courier.Ipv4

def bytes (address : Nat) : List Nat := [16777216, 65536, 256, 1].map (address / · % 256)

theorem lt_of_mem_bytes {address n : Nat} (member : n ∈ bytes address) : n < 256 := by
  obtain ⟨unit, _, rfl⟩ := List.mem_map.mp member
  exact Nat.mod_lt _ (by omega)

theorem write_eq (address : Nat) : write address = joinWith ['.'] ((bytes address).map decimal) := rfl

theorem decimal_of_byte {n : Nat} (small : n < 256) :
    number? (decimal n) = some n ∧ (decimal n).all isAsciiDigit = true ∧ decimal n ≠ [] := by
  have table : ∀ n < 256, number? (decimal n) = some n ∧ (decimal n).all isAsciiDigit = true ∧
    decimal n ≠ [] := by decide +kernel
  exact table n small

theorem splitAt_write (address : Nat) : splitAt '.' (write address) = (bytes address).map decimal := by
  rw [write_eq, splitAt_joinWith (by simp [bytes])]
  intro piece member point
  obtain ⟨n, own, rfl⟩ := List.mem_map.mp member
  have digit := List.all_eq_true.mp (decimal_of_byte (lt_of_mem_bytes own)).2.1 '.' point
  exact absurd digit (by decide)

theorem labels_write (address : Nat) : labels (write address) = (bytes address).map decimal := by
  have last : ((bytes address).map decimal).getLast? = some (decimal (address / 1 % 256)) := rfl
  have given : decimal (address / 1 % 256) ≠ [] :=
    (decimal_of_byte (Nat.mod_lt _ (by omega))).2.2
  have unequal : (some (decimal (address / 1 % 256)) == some []) = false := by simpa using given
  simp only [labels, splitAt_write, last, unequal, Bool.and_false, Bool.false_eq_true, ↓reduceIte]

theorem endsInNumber_write (address : Nat) : endsInNumber (write address) = true := by
  have last : ((bytes address).map decimal).getLast? = some (decimal (address / 1 % 256)) := rfl
  have table := decimal_of_byte (n := address / 1 % 256) (Nat.mod_lt _ (by omega))
  rw [endsInNumber, labels_write, last]
  split
  next gone => cases gone
  next empty => exact absurd (Option.some.inj empty) table.2.2
  next label shown =>
    obtain rfl := Option.some.inj shown
    rw [table.2.1, Bool.true_or]

theorem parse?_write {address : Nat} (bounded : address < 4294967296) :
    parse? (write address) = some address := by
  have numbers : ((bytes address).map decimal).mapM number? = some (bytes address) := by
    rw [Outcome.mapM_eq_some_iff, List.forall₂_map_left_iff, List.forall₂_same]
    exact fun n member => (decimal_of_byte (lt_of_mem_bytes member)).1
  have whole : assemble? (bytes address) 4 = some address := by
    have weights : Nat.pow 256 3 = 16777216 ∧ Nat.pow 256 2 = 65536 ∧ Nat.pow 256 1 = 256 := by
      decide
    simp only [bytes, List.map_cons, List.map_nil, assemble?, Nat.reduceSub, weights]
    rw [if_pos (by omega), if_pos (by omega), if_pos (by omega), if_pos (by omega)]
    simp only [Option.map_some, Option.some.injEq]
    omega
  rw [parse?, labels_write, numbers]
  exact whole

theorem assemble?_lt {numbers : List Nat} (width : Nat) {value : Nat}
    (assembled : assemble? numbers width = some value) (fits : numbers.length ≤ width) :
    value < 256 ^ width := by
  induction numbers generalizing width value with
  | nil => cases assembled
  | cons first rest ih =>
    cases rest with
    | nil =>
      simp only [assemble?, Option.ite_none_right_eq_some, Option.some.injEq] at assembled
      obtain ⟨small, rfl⟩ := assembled
      exact small
    | cons second more =>
      simp only [assemble?, Option.ite_none_right_eq_some, Option.map_eq_some_iff] at assembled
      obtain ⟨byte, low, shown, rfl⟩ := assembled
      obtain ⟨width, rfl⟩ : ∃ less, width = less + 1 := ⟨width - 1, by simp at fits; omega⟩
      have below := ih width (by simpa using shown) (by simpa using fits)
      have step : (first + 1) * 256 ^ width ≤ 256 * 256 ^ width := Nat.mul_le_mul_right _ byte
      rw [Nat.add_mul, Nat.one_mul] at step
      rw [Nat.pow_succ, Nat.mul_comm _ 256]
      simp only [Nat.add_sub_cancel]
      exact Nat.lt_of_lt_of_le (Nat.add_lt_add_left below _) step

theorem parse?_lt {host : List Char} {address : Nat} (parsed : parse? host = some address) :
    address < 4294967296 := by
  simp only [parse?, Option.bind_eq_bind, Option.bind_eq_some_iff,
    Option.ite_none_left_eq_some] at parsed
  obtain ⟨numbers, _, few, assembled⟩ := parsed
  exact assemble?_lt 4 assembled (by omega)

end Courier.Ipv4
