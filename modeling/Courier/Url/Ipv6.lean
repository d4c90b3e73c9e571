import Courier.Text.Ascii
import Courier.Text.Split
/-!
IPv6 addresses: eight pieces of sixteen bits in hexadecimal, of which one run of zeros may be left
out as `::`, and the last two of which may be written as an IPv4 address. The longest run of at
least two zeros is left out when an address is written, the first such run if there are several.
-/
namespace Courier.Ipv6

def byte? (text : List Char) : Option Nat :=
  match text with
  | ['0'] => some 0
  | '0' :: _ => none
  | digits => if digits.length > 3 then none else do
    let value ← number? 10 digits
    if digits.all isAsciiDigit && value < 256 then some value else none

def dotted? (text : List Char) : Option (List Nat) := do
  match ← (splitAt '.' text).mapM byte? with
  | [a, b, c, d] => some [a * 256 + b, c * 256 + d]
  | _ => none

def piece? (text : List Char) : Option Nat :=
  if text.length > 4 then none else number? 16 text

def pieces? : List (List Char) → Option (List Nat)
  | [] => some []
  | [last] => if last.contains '.' then dotted? last else (piece? last).map ([·])
  | first :: rest => do
    let piece ← piece? first
    let more ← pieces? rest
    return piece :: more

def side? (text : List Char) : Option (List Nat) :=
  if text.isEmpty then some [] else pieces? (splitAt ':' text)

def cutGap? : List Char → Option (List Char × List Char)
  | ':' :: ':' :: rest => some ([], rest)
  | c :: rest => (cutGap? rest).map fun (left, right) => (c :: left, right)
  | [] => none

def parse? (text : List Char) : Option (List Nat) :=
  match cutGap? text with
  | none => do
    let pieces ← side? text
    if pieces.length = 8 then some pieces else none
  | some (left, right) => do
    if left.contains '.' then none
    else
      let before ← side? left
      let after ← side? right
      if before.length + after.length < 8 then
        some (before ++ List.replicate (8 - before.length - after.length) 0 ++ after)
      else none

def zeros (pieces : List Nat) : Nat := (pieces.takeWhile (· = 0)).length

def longestGap : List Nat → Nat → Nat × Nat
  | [], start => (start, 0)
  | piece :: rest, start =>
    let here := zeros (piece :: rest)
    let (found, length) := longestGap rest (start + 1)
    if here ≥ length then (start, here) else (found, length)

def writePieces (pieces : List Nat) : List Char := joinWith [':'] (pieces.map lowerHex)

def write (pieces : List Nat) : List Char :=
  let (start, length) := longestGap pieces 0
  if length < 2 then writePieces pieces
  else writePieces (pieces.take start) ++ [':', ':'] ++ writePieces (pieces.drop (start + length))

end Courier.Ipv6
