import Courier.Bytes.Base64
import Courier.Bytes.Md5
import Courier.Proofs.Header
import Courier.Proofs.Text.Parts
import Courier.Url.Percent
/-! Bytes as texts. Digits, the alphabet of Base64 and percent-encoded components are printable, so
that a header field can hold them, and bytes are read back from their digits and from Base64. -/

namespace Courier

open Header (isReadableChar)

theorem isReadableChar_lowerHexDigit {value : Nat} (small : value < 16) :
    isReadableChar (lowerHexDigit value) = true := by
  have digits : ∀ n < 16, isReadableChar (lowerHexDigit n) = true := by decide
  exact digits value small

theorem isReadableChar_upperHexDigit {value : Nat} (small : value < 16) :
    isReadableChar (upperHexDigit value) = true := by
  have digits : ∀ n < 16, isReadableChar (upperHexDigit n) = true := by decide
  exact digits value small

theorem Hex.all_encode {kind : Char → Bool} (digits : ∀ n < 16, kind (lowerHexDigit n) = true)
    (input : List UInt8) : (encode input).all kind = true := by
  rw [encode, List.all_flatMap, List.all_eq_true]
  intro b _
  have bound : b.toNat < 256 := b.toNat_lt
  have high : kind (lowerHexDigit (b.toNat / 16)) = true := digits _ (by omega)
  have low : kind (lowerHexDigit (b.toNat % 16)) = true := digits _ (by omega)
  simp only [encodeByte, List.all_cons, high, low, List.all_nil, Bool.and_self]

theorem Hex.readable_encode (input : List UInt8) : (encode input).all isReadableChar = true :=
  all_encode (fun _ small => isReadableChar_lowerHexDigit small) input

theorem Hex.decode?_encode (input : List UInt8) : decode? (encode input) = some input := by
  have digits : ∀ n < 16, digitValue? (lowerHexDigit n) = some n := by decide
  induction input with
  | nil => rfl
  | cons b rest ih =>
    have bound : b.toNat < 256 := b.toNat_lt
    have high : digitValue? (lowerHexDigit (b.toNat / 16)) = some (b.toNat / 16) :=
      digits _ (by omega)
    have low : digitValue? (lowerHexDigit (b.toNat % 16)) = some (b.toNat % 16) :=
      digits _ (by omega)
    have whole : UInt8.ofNat (b.toNat / 16 * 16 + b.toNat % 16) = b := by
      have sum : b.toNat / 16 * 16 + b.toNat % 16 = b.toNat := by omega
      rw [sum, UInt8.ofNat_toNat]
    have shape : encode (b :: rest) =
        lowerHexDigit (b.toNat / 16) :: lowerHexDigit (b.toNat % 16) :: encode rest := rfl
    rw [shape, decode?, high, low, ih]
    exact congrArg (fun byte => some (byte :: rest)) whole

theorem Base64.isReadableChar_symbol {value : Nat} (small : value < 64) :
    isReadableChar (symbol value) = true := by
  have symbols : ∀ n < 64, isReadableChar (symbol n) = true := by decide
  exact symbols value small

theorem Base64.readable_encode (input : List UInt8) : (encode input).all isReadableChar = true := by
  have filler : isReadableChar '=' = true := by decide
  fun_induction encode input with
  | case1 => rfl
  | case2 a n =>
    have bound : n < 256 := a.toNat_lt
    have first : isReadableChar (symbol (n / 4)) = true := isReadableChar_symbol (by omega)
    have second : isReadableChar (symbol (n % 4 * 16)) = true := isReadableChar_symbol (by omega)
    simp only [List.all_cons, first, second, filler, List.all_nil, Bool.and_self]
  | case3 a b n =>
    have bound : n < 65536 := by
      have high : a.toNat < 256 := a.toNat_lt
      have low : b.toNat < 256 := b.toNat_lt
      omega
    have first : isReadableChar (symbol (n / 1024)) = true := isReadableChar_symbol (by omega)
    have second : isReadableChar (symbol (n / 16 % 64)) = true := isReadableChar_symbol (by omega)
    have third : isReadableChar (symbol (n % 16 * 4)) = true := isReadableChar_symbol (by omega)
    simp only [List.all_cons, first, second, third, filler, List.all_nil, Bool.and_self]
  | case4 a b c rest n ih =>
    have bound : n < 16777216 := by
      have high : a.toNat < 256 := a.toNat_lt
      have middle : b.toNat < 256 := b.toNat_lt
      have low : c.toNat < 256 := c.toNat_lt
      omega
    have first : isReadableChar (symbol (n / 262144)) = true := isReadableChar_symbol (by omega)
    have second : isReadableChar (symbol (n / 4096 % 64)) = true := isReadableChar_symbol (by omega)
    have third : isReadableChar (symbol (n / 64 % 64)) = true := isReadableChar_symbol (by omega)
    have fourth : isReadableChar (symbol (n % 64)) = true := isReadableChar_symbol (by omega)
    simp only [List.all_cons, first, second, third, fourth, ih, Bool.and_self]

theorem Base64.value?_symbol {value : Nat} (small : value < 64) : value? (symbol value) = some value := by
  have symbols : ∀ n < 64, value? (symbol n) = some n := by decide
  exact symbols value small

theorem Base64.symbol_ne_filler {value : Nat} (small : value < 64) : symbol value ≠ '=' := by
  have symbols : ∀ n < 64, symbol n ≠ '=' := by decide
  exact symbols value small

theorem Base64.decode?_group {first second third fourth : Nat} (one : first < 64) (two : second < 64)
    (three : third < 64) (four : fourth < 64) (rest : List Char) :
    decode? (symbol first :: symbol second :: symbol third :: symbol fourth :: rest) =
      (decode? rest).map fun bytes =>
        let n := ((first * 64 + second) * 64 + third) * 64 + fourth
        UInt8.ofNat (n / 65536) :: UInt8.ofNat (n / 256 % 256) :: UInt8.ofNat (n % 256) :: bytes := by
  have third_filler := symbol_ne_filler three
  have fourth_filler := symbol_ne_filler four
  rw [decode?]
  · rw [value?_symbol one, value?_symbol two, value?_symbol three, value?_symbol four]
    cases decode? rest <;> rfl
  · intro same _
    exact absurd same third_filler
  · intro same _
    exact absurd same fourth_filler

/-- Bytes are read back from their symbols, also where the last group is filled up. -/
theorem Base64.decode?_encode (input : List UInt8) : decode? (encode input) = some input := by
  fun_induction encode input with
  | case1 => rfl
  | case2 a n =>
    have bound : n < 256 := a.toNat_lt
    have first : value? (symbol (n / 4)) = some (n / 4) := value?_symbol (by omega)
    have second : value? (symbol (n % 4 * 16)) = some (n % 4 * 16) := value?_symbol (by omega)
    have whole : UInt8.ofNat (n / 4 * 4 + n % 4 * 16 / 16) = a := Utf8.ofNat_eq (by omega)
    rw [decode?, decodeLast?, first, second]
    simp only [Option.bind_eq_bind, Option.bind_some, Nat.mul_mod_left, ↓reduceIte, whole]
  | case3 a b n =>
    have high : a.toNat < 256 := a.toNat_lt
    have low : b.toNat < 256 := b.toNat_lt
    have bound : n = a.toNat * 256 + b.toNat := rfl
    have first : value? (symbol (n / 1024)) = some (n / 1024) := value?_symbol (by omega)
    have second : value? (symbol (n / 16 % 64)) = some (n / 16 % 64) := value?_symbol (by omega)
    have third : value? (symbol (n % 16 * 4)) = some (n % 16 * 4) := value?_symbol (by omega)
    have joined : (n / 1024 * 64 + n / 16 % 64) * 16 + n % 16 * 4 / 4 = n := by omega
    have left : UInt8.ofNat (n / 256) = a := Utf8.ofNat_eq (by omega)
    have right : UInt8.ofNat (n % 256) = b := Utf8.ofNat_eq (by omega)
    rw [decode?, decodeLast?, first, second]
    · simp only [Option.bind_eq_bind, Option.bind_some, third, Nat.mul_mod_left, ↓reduceIte, joined,
        left, right]
    · exact symbol_ne_filler (by omega)
  | case4 a b c rest n ih =>
    have high : a.toNat < 256 := a.toNat_lt
    have middle : b.toNat < 256 := b.toNat_lt
    have low : c.toNat < 256 := c.toNat_lt
    have bound : n = (a.toNat * 256 + b.toNat) * 256 + c.toNat := rfl
    have joined : ((n / 262144 * 64 + n / 4096 % 64) * 64 + n / 64 % 64) * 64 + n % 64 = n := by
      omega
    have left : UInt8.ofNat (n / 65536) = a := Utf8.ofNat_eq (by omega)
    have between : UInt8.ofNat (n / 256 % 256) = b := Utf8.ofNat_eq (by omega)
    have right : UInt8.ofNat (n % 256) = c := Utf8.ofNat_eq (by omega)
    rw [decode?_group (by omega) (by omega) (by omega) (by omega), ih]
    simp only [Option.map_some, joined, left, between, right]

/-- What tells a name and a password outright is readable, whatever they are. -/
theorem Base64.isReadable_basic (input : List UInt8) :
    Header.isReadable ("Basic " ++ String.ofList (encode input)) = true := by
  have scheme : Header.isReadable "Basic " = true := by decide
  rw [Header.isReadable_append, scheme, Header.isReadable_ofList, readable_encode]
  rfl

/-- A component is printable when its control characters are encoded. -/
theorem Percent.readable_encode {inSet : Char → Bool}
    (controls : ∀ c, isControl c = true → inSet c = true) (text : List Char) :
    (encode inSet text).all isReadableChar = true := by
  rw [encode, List.all_flatMap, List.all_eq_true]
  intro c _
  unfold encodeChar
  split
  · rw [List.all_flatMap, List.all_eq_true]
    intro b _
    have bound : b.toNat < 256 := b.toNat_lt
    have high : isReadableChar (upperHexDigit (b.toNat / 16)) = true :=
      isReadableChar_upperHexDigit (by omega)
    have low : isReadableChar (upperHexDigit (b.toNat % 16)) = true :=
      isReadableChar_upperHexDigit (by omega)
    have sign : isReadableChar '%' = true := by decide
    simp only [encodeByte, List.all_cons, sign, high, low, List.all_nil, Bool.and_self]
  next plain =>
    simp only [Bool.or_eq_true, Bool.not_eq_true', not_or, Bool.not_eq_true, Bool.not_eq_false]
      at plain
    have visible : isControl c = false := by
      cases control : isControl c with
      | false => rfl
      | true => exact absurd (controls c control) (by simp [plain.1])
    have ascii : c.toNat < 128 := by simpa [isAscii] using plain.2
    simp only [isControl, Bool.or_eq_false_iff, decide_eq_false_iff_not, beq_eq_false_iff_ne]
      at visible
    simp only [List.all_cons, isReadableChar, List.all_nil, Bool.and_true, Bool.or_eq_true,
      Bool.and_eq_true, decide_eq_true_eq]
    exact Or.inl (by omega)

end Courier
