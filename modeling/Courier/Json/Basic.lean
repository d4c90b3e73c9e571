import Courier.Decimal.Shortest
/-!
JSON values. A number keeps what its text says: a natural number, a negative integer, or a real
number as its decimal digits and power of ten. Objects keep their fields in the order written.
-/
namespace Courier

namespace Json

inductive Number where
  /-- A natural number below `2 ^ 64`. -/
  | natural (n : Nat)
  /-- The integer `-n`, down to `-2 ^ 63`. -/
  | negative (n : Nat)
  /-- The real number `digits * 10 ^ exponent`, or its negation. -/
  | real (minus : Bool) (digits : Nat) (exponent : Int)
  deriving DecidableEq, Repr

def greatestPower : Nat := 308

def powerOfTen (exponent : Nat) : Float := Float.ofScientific 1 false exponent

/-- Scales a floating-point number by a power of ten, giving nothing when it grows out of range.
Each step takes away as many negative powers as one division can. -/
def scale? : Nat → Float → Int → Option Float
  | 0, value, _ => some value
  | steps + 1, value, exponent =>
    if exponent.natAbs ≤ greatestPower then
      if exponent ≥ 0 then
        let scaled := value * powerOfTen exponent.toNat
        if scaled.isInf then none else some scaled
      else some (value / powerOfTen (-exponent).toNat)
    else if value == 0 then some value
    else if exponent ≥ 0 then none
    else scale? steps (value / powerOfTen greatestPower) (exponent + greatestPower)

def float? (minus : Bool) (digits : Nat) (exponent : Int) : Option Float :=
  (scale? 4 (Float.ofNat digits) exponent).map fun value => if minus then -value else value

def Number.text : Number → List Char
  | .natural n => decimal n
  | .negative n => '-' :: decimal n
  | .real minus digits exponent =>
    match float? minus digits exponent with
    | some value => Decimal.ofFloat value
    | none => ['0', '.', '0']

end Json

inductive Json where
  | null
  | bool (value : Bool)
  | number (value : Json.Number)
  | string (value : String)
  | array (items : List Json)
  | object (fields : List (String × Json))

namespace Json

def nat (n : Nat) : Json := .number (.natural n)

def field? (name : String) : Json → Option Json
  | .object fields => (fields.find? fun (key, _) => key == name).map Prod.snd
  | _ => none

def ofText? : Option String → Json
  | some text => .string text
  | none => .null

end Json
end Courier
