import Courier.Text.Ascii
/-!
Decimal text of a binary floating-point number: the fewest digits that read back as the same
number, and of those the nearest to it. Positional notation is kept from 0.00001 up to sixteen
digits before the point, with at least one digit after it; beyond that an exponent follows, with
its sign.
-/
namespace Courier.Decimal

/-- A positive binary number `significand * 2 ^ exponent`. -/
structure Binary where
  significand : Nat
  exponent : Int

structure Ratio where
  top : Nat
  bottom : Nat

def Ratio.scaled (n base : Nat) (exponent : Int) : Ratio :=
  ⟨n * Nat.pow base exponent.toNat, Nat.pow base (-exponent).toNat⟩

def Ratio.compare (left right : Ratio) : Ordering :=
  Ord.compare (left.top * right.bottom) (right.top * left.bottom)

/-- The numbers that round to a binary number lie between these quarters of its unit. -/
structure Interval where
  low : Ratio
  high : Ratio
  closed : Bool

def significands : Nat := 4503599627370496

/-- The numbers that round to a binary number. Below a power of two they reach half as far. -/
def Binary.interval (b : Binary) : Interval :=
  let below := if b.significand = significands && b.exponent > -1074 then 1 else 2
  { low := .scaled (4 * b.significand - below) 2 (b.exponent - 2)
    high := .scaled (4 * b.significand + 2) 2 (b.exponent - 2)
    closed := b.significand % 2 == 0 }

def Interval.contains (i : Interval) (r : Ratio) : Bool :=
  match i.low.compare r, r.compare i.high with
  | .lt, .lt => true
  | .eq, .lt => i.closed
  | .lt, .eq => i.closed
  | _, _ => false

/-- The least `places` above `tried` for which the fraction times `10 ^ places` reaches one. -/
def leadingPlaces (r : Ratio) : Nat → Nat → Nat
  | 0, tried => tried
  | fuel + 1, tried => if r.top * Nat.pow 10 tried ≥ r.bottom then tried else leadingPlaces r fuel (tried + 1)

def Ratio.leading (r : Ratio) : Int :=
  if r.top ≥ r.bottom then ((decimal (r.top / r.bottom)).length : Int) - 1
  else - (leadingPlaces r 400 1 : Int)

structure Digits where
  digits : Nat
  exponent : Int

def Ratio.neighbours (r : Ratio) (exponent : Int) : List Nat :=
  let grid := Ratio.scaled 1 10 exponent
  let top := r.top * grid.bottom
  let bottom := r.bottom * grid.top
  let floor := top / bottom
  if 2 * (top % bottom) < bottom || (2 * (top % bottom) == bottom && floor % 2 == 0)
  then [floor, floor + 1] else [floor + 1, floor]

def searchDigits (r : Ratio) (i : Interval) (leading : Int) : Nat → Nat → Digits
  | 0, count => ⟨(r.neighbours (leading - count)).headD 0, leading - count⟩
  | fuel + 1, count =>
    let exponent := leading - count
    match (r.neighbours exponent).find? fun n => i.contains (.scaled n 10 exponent) with
    | some digits => ⟨digits, exponent⟩
    | none => searchDigits r i leading fuel (count + 1)

def Binary.shortest (b : Binary) : Digits :=
  let r := Ratio.scaled b.significand 2 b.exponent
  searchDigits r b.interval r.leading 17 0

def dropZeros (text : List Char) : List Char := (text.reverse.dropWhile (· == '0')).reverse

def Digits.layout (d : Digits) : List Char :=
  let all := decimal d.digits
  let shown := dropZeros all
  let leading : Int := d.exponent + all.length - 1
  if 0 ≤ leading && leading < 16 then
    let whole := leading.toNat + 1
    let fraction := shown.drop whole
    shown.take whole ++ List.replicate (whole - shown.length) '0' ++
      '.' :: (if fraction.isEmpty then ['0'] else fraction)
  else if -5 ≤ leading && leading < 0 then
    '0' :: '.' :: List.replicate ((-leading).toNat - 1) '0' ++ shown
  else
    let power := decimal leading.natAbs
    shown.take 1 ++ (if shown.length > 1 then '.' :: shown.drop 1 else []) ++
      ['e', if leading < 0 then '-' else '+'] ++ power

def ofFloat (value : Float) : List Char :=
  let bits := value.toBits.toNat
  let sign := if bits / (significands * 2048) = 1 then ['-'] else []
  let fraction : Nat := bits % significands
  let power : Nat := bits / significands % 2048
  if power = 0 && fraction = 0 then sign ++ ['0', '.', '0']
  else
    let binary : Binary :=
      if power = 0 then ⟨fraction, -1074⟩ else ⟨significands + fraction, (power : Int) - 1075⟩
    sign ++ binary.shortest.layout

end Courier.Decimal
