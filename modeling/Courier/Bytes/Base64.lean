import Courier.Text.Ascii
/-!
Base64 with the standard alphabet: three bytes become four characters, and a last group of one or
two bytes is filled up with `=`.
-/
namespace Courier.Base64

def symbol (value : Nat) : Char :=
  if value < 26 then Char.ofNat (value + 65)
  else if value < 52 then Char.ofNat (value - 26 + 97)
  else if value < 62 then Char.ofNat (value - 52 + 48)
  else if value = 62 then '+' else '/'

def value? (c : Char) : Option Nat :=
  if isAsciiUpper c then some (c.toNat - 65)
  else if isAsciiAlpha c then some (c.toNat - 97 + 26)
  else if isAsciiDigit c then some (c.toNat - 48 + 52)
  else if c = '+' then some 62
  else if c = '/' then some 63
  else none

def encode : List UInt8 → List Char
  | [] => []
  | [a] =>
    let n := a.toNat
    [symbol (n / 4), symbol (n % 4 * 16), '=', '=']
  | [a, b] =>
    let n := a.toNat * 256 + b.toNat
    [symbol (n / 1024), symbol (n / 16 % 64), symbol (n % 16 * 4), '=']
  | a :: b :: c :: rest =>
    let n := (a.toNat * 256 + b.toNat) * 256 + c.toNat
    symbol (n / 262144) :: symbol (n / 4096 % 64) :: symbol (n / 64 % 64) :: symbol (n % 64) :: encode rest

def decodeLast? (w x : Char) (y : Option Char) : Option (List UInt8) := do
  let first ← value? w
  let second ← value? x
  match y with
  | none => if second % 16 = 0 then some [UInt8.ofNat (first * 4 + second / 16)] else none
  | some y =>
    let third ← value? y
    if third % 4 = 0 then
      let n := (first * 64 + second) * 16 + third / 4
      some [UInt8.ofNat (n / 256), UInt8.ofNat (n % 256)]
    else none

def decode? : List Char → Option (List UInt8)
  | [] => some []
  | [w, x, '=', '='] => decodeLast? w x none
  | [w, x, y, '='] => decodeLast? w x (some y)
  | w :: x :: y :: z :: rest => do
    let first ← value? w
    let second ← value? x
    let third ← value? y
    let fourth ← value? z
    let n := ((first * 64 + second) * 64 + third) * 64 + fourth
    let bytes ← decode? rest
    return UInt8.ofNat (n / 65536) :: UInt8.ofNat (n / 256 % 256) :: UInt8.ofNat (n % 256) :: bytes
  | _ => none

end Courier.Base64
