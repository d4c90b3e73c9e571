/-!
ASCII letters and digits: case folding, equality up to ASCII case, and numbers written in a base.
Characters above 0x7F are never folded and never count as digits.
-/
namespace Courier

def isAsciiDigit (c : Char) : Bool := '0' ≤ c && c ≤ '9'

def isAsciiUpper (c : Char) : Bool := 'A' ≤ c && c ≤ 'Z'

def isAsciiAlpha (c : Char) : Bool := isAsciiUpper c || ('a' ≤ c && c ≤ 'z')

def isAsciiAlphanum (c : Char) : Bool := isAsciiAlpha c || isAsciiDigit c

def isAscii (c : Char) : Bool := c.toNat < 0x80

def asciiLower (c : Char) : Char := if isAsciiUpper c then Char.ofNat (c.toNat + 32) else c

def asciiLowerText (text : String) : String := String.ofList (text.toList.map asciiLower)

def sameIgnoringCase (left right : String) : Bool :=
  left.toList.map asciiLower == right.toList.map asciiLower

def digitValue? (c : Char) : Option Nat :=
  if isAsciiDigit c then some (c.toNat - '0'.toNat)
  else if 'a' ≤ c && c ≤ 'f' then some (c.toNat - 'a'.toNat + 10)
  else if 'A' ≤ c && c ≤ 'F' then some (c.toNat - 'A'.toNat + 10)
  else none

def lowerHexDigit (value : Nat) : Char :=
  if value < 10 then Char.ofNat (value + '0'.toNat) else Char.ofNat (value - 10 + 'a'.toNat)

def upperHexDigit (value : Nat) : Char :=
  if value < 10 then Char.ofNat (value + '0'.toNat) else Char.ofNat (value - 10 + 'A'.toNat)

def readDigits (base : Nat) : List Char → Nat → Option Nat
  | [], read => some read
  | c :: rest, read =>
    match digitValue? c with
    | some value => if value < base then readDigits base rest (read * base + value) else none
    | none => none

def number? (base : Nat) (text : List Char) : Option Nat :=
  if text.isEmpty then none else readDigits base text 0

def decimal (n : Nat) : List Char := Nat.toDigits 10 n

def lowerHex (n : Nat) : List Char := Nat.toDigits 16 n

theorem asciiLower_idem (c : Char) : asciiLower (asciiLower c) = asciiLower c := by
  have bound : ∀ n < 26, asciiLower (asciiLower (Char.ofNat (n + 65))) =
      asciiLower (Char.ofNat (n + 65)) := by decide
  by_cases h : isAsciiUpper c
  · have range : 65 ≤ c.toNat ∧ c.toNat ≤ 90 := by
      simpa [isAsciiUpper, Char.le_def, UInt32.le_iff_toNat_le] using h
    have := bound (c.toNat - 65) (by omega)
    rwa [show c.toNat - 65 + 65 = c.toNat by omega, Char.ofNat_toNat] at this
  · simp [asciiLower, h]

theorem isAscii_asciiLower {c : Char} (h : isAscii c) : isAscii (asciiLower c) := by
  have bound : ∀ n < 26, isAscii (Char.ofNat (n + 65 + 32)) := by decide
  by_cases upper : isAsciiUpper c
  · have range : 65 ≤ c.toNat ∧ c.toNat ≤ 90 := by
      simpa [isAsciiUpper, Char.le_def, UInt32.le_iff_toNat_le] using upper
    have := bound (c.toNat - 65) (by omega)
    rw [show c.toNat - 65 + 65 = c.toNat by omega] at this
    simpa [asciiLower, upper] using this
  · simpa [asciiLower, upper] using h

end Courier
