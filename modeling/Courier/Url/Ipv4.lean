import Courier.Text.Ascii
import Courier.Text.Split
/-!
IPv4 addresses as hosts. An address has up to four numbers, decimal, octal or hexadecimal; the last
one fills all bytes the others leave. It is written as four decimal numbers.
-/
namespace Courier.Ipv4

/-- A number with its base shown by how it starts; an empty hexadecimal or octal number is zero. -/
def number? (text : List Char) : Option Nat :=
  match text with
  | [] => none
  | ['0'] => some 0
  | '0' :: c :: digits =>
    if c = 'x' || c = 'X' then readDigits 16 digits 0 else readDigits 8 (c :: digits) 0
  | digits => readDigits 10 digits 0

def labels (host : List Char) : List (List Char) :=
  let pieces := splitAt '.' host
  if pieces.length > 1 && pieces.getLast? == some [] then pieces.dropLast else pieces

def endsInNumber (host : List Char) : Bool :=
  match (labels host).getLast? with
  | none => false
  | some [] => false
  | some label => label.all isAsciiDigit || (number? label).isSome

/-- The value of numbers of one byte each, the first one highest, followed by one that fills the
remaining bytes. -/
def assemble? : List Nat → Nat → Option Nat
  | [], _ => none
  | [last], bytes => if last < Nat.pow 256 bytes then some last else none
  | first :: rest, bytes =>
    if first < 256 then (assemble? rest (bytes - 1)).map (first * Nat.pow 256 (bytes - 1) + ·) else none

def parse? (host : List Char) : Option Nat := do
  let numbers ← (labels host).mapM number?
  if numbers.length > 4 then none else assemble? numbers 4

def write (address : Nat) : List Char :=
  joinWith ['.'] ([16777216, 65536, 256, 1].map fun unit => decimal (address / unit % 256))

end Courier.Ipv4
