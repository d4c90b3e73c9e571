import Courier.Proofs.Text.Utf8
import Courier.Text.Split
import Courier.Url.Percent
/-! Percent-encoding what is encoded already. The percent sign and the digits after it stand for
themselves in every component, so that encoding a component twice changes nothing. -/

namespace Courier.Percent

def IsKept (inSet : Char → Bool) (c : Char) : Prop := isAscii c = true ∧ inSet c = false

instance (inSet : Char → Bool) : DecidablePred (IsKept inSet) :=
  fun _ => inferInstanceAs (Decidable (_ ∧ _))

def Spares (inSet : Char → Bool) : Prop :=
  inSet '%' = false ∧ ∀ value < 16, inSet (upperHexDigit value) = false

variable {inSet : Char → Bool}

theorem encode_of_isKept {text : List Char} (kept : ∀ c ∈ text, IsKept inSet c) :
    encode inSet text = text := by
  induction text with
  | nil => rfl
  | cons c rest ih =>
    obtain ⟨⟨ascii, outside⟩, later⟩ := List.forall_mem_cons.mp kept
    rw [encode, List.flatMap_cons, ← encode, ih later]
    simp only [encodeChar, ascii, outside, Bool.not_true, Bool.or_self, Bool.false_eq_true,
      ↓reduceIte, List.singleton_append]

theorem isAscii_upperHexDigit {value : Nat} (small : value < 16) :
    isAscii (upperHexDigit value) = true := by
  have digits : ∀ n < 16, isAscii (upperHexDigit n) = true := by decide
  exact digits value small

theorem isKept_of_mem_encodeByte (spares : Spares inSet) (b : UInt8) :
    ∀ c ∈ encodeByte b, IsKept inSet c := by
  have bound : b.toNat < 256 := b.toNat_lt
  intro c member
  simp only [encodeByte, List.mem_cons, List.not_mem_nil, or_false] at member
  rcases member with rfl | rfl | rfl
  · exact ⟨rfl, spares.1⟩
  · exact ⟨isAscii_upperHexDigit (by omega), spares.2 _ (by omega)⟩
  · exact ⟨isAscii_upperHexDigit (by omega), spares.2 _ (by omega)⟩

theorem isKept_of_mem_encode (spares : Spares inSet) {text : List Char} :
    ∀ c ∈ encode inSet text, IsKept inSet c := by
  intro c member
  obtain ⟨d, _, inside⟩ := List.mem_flatMap.mp member
  unfold encodeChar at inside
  split at inside
  · obtain ⟨b, _, digit⟩ := List.mem_flatMap.mp inside
    exact isKept_of_mem_encodeByte spares b c digit
  next plain =>
    rw [List.mem_singleton.mp inside]
    simpa [IsKept, and_comm] using plain

theorem spares_inUserinfo : Spares inUserinfo := by unfold Spares; decide +kernel

theorem spares_inPath : Spares inPath := by unfold Spares; decide +kernel

theorem spares_inSpecialQuery : Spares inSpecialQuery := by unfold Spares; decide +kernel

theorem spares_inFragment : Spares inFragment := by unfold Spares; decide +kernel

theorem decode_of_clear {text : List Char} (clear : '%' ∉ text) : decode text = Utf8.encode text := by
  fun_induction decode text with
  | case1 => rfl
  | case2 high low rest => simp at clear
  | case3 high low rest => simp at clear
  | case4 c rest _ ih =>
    rw [ih fun member => clear (List.mem_cons_of_mem c member), Utf8.encode, Utf8.encode,
      List.flatMap_cons]

end Courier.Percent
