import Courier.Text.Ascii
/-! Bytes as pairs of lower-case hexadecimal digits. -/
namespace Courier.Hex

def encodeByte (b : UInt8) : List Char := [lowerHexDigit (b.toNat / 16), lowerHexDigit (b.toNat % 16)]

def encode (input : List UInt8) : List Char := input.flatMap encodeByte

def text (input : List UInt8) : String := String.ofList (encode input)

def decode? : List Char → Option (List UInt8)
  | [] => some []
  | [_] => none
  | high :: low :: rest => do
    let h ← digitValue? high
    let l ← digitValue? low
    let bytes ← decode? rest
    return UInt8.ofNat (h * 16 + l) :: bytes

end Courier.Hex
