import Courier.Text.Ascii
/-!
Punycode: labels beyond ASCII written with ASCII letters and digits. The ASCII characters come
first; the others follow as the distances between their insertions, in increasing order of code
points, each distance a number of variable length whose digit bounds adapt to the ones before.
-/
namespace Courier.Punycode

def digit (value : Nat) : Char :=
  if value < 26 then Char.ofNat (value + 'a'.toNat) else Char.ofNat (value - 26 + '0'.toNat)

def value? (c : Char) : Option Nat :=
  if 'a' ≤ c && c ≤ 'z' then some (c.toNat - 'a'.toNat)
  else if isAsciiUpper c then some (c.toNat - 'A'.toNat)
  else if isAsciiDigit c then some (c.toNat - '0'.toNat + 26)
  else none

def bound (place bias : Nat) : Nat :=
  if place ≤ bias then 1 else if place ≥ bias + 26 then 26 else place - bias

theorem bound_pos (place bias : Nat) : 1 ≤ bound place bias := by
  unfold bound
  split
  · omega
  · split <;> omega

theorem bound_le (place bias : Nat) : bound place bias ≤ 26 := by
  unfold bound
  split
  · omega
  · split <;> omega

def settle (distance bias : Nat) : Nat :=
  if distance > 455 then settle (distance / 35) (bias + 36)
  else bias + 36 * distance / (distance + 38)
termination_by distance
decreasing_by exact Nat.div_lt_self (by omega) (by omega)

def adapt (distance count : Nat) (first : Bool) : Nat :=
  let scaled := if first then distance / 700 else distance / 2
  settle (scaled + scaled / count) 0

def writeDistance (bias place distance : Nat) : List Char :=
  let least := bound place bias
  if distance < least then [digit distance]
  else
    digit (least + (distance - least) % (36 - least)) ::
      writeDistance bias (place + 36) ((distance - least) / (36 - least))
termination_by distance
decreasing_by
  have := bound_pos place bias
  exact Nat.lt_of_le_of_lt (Nat.div_le_self _ _) (by omega)

structure Progress where
  written : List Char
  distance : Nat
  bias : Nat
  placed : Nat

def pass (basic code : Nat) (p : Progress) (c : Char) : Progress :=
  if c.toNat < code then { p with distance := p.distance + 1 }
  else if c.toNat = code then
    { written := p.written ++ writeDistance p.bias 36 p.distance
      distance := 0
      bias := adapt p.distance (p.placed + 1) (p.placed == basic)
      placed := p.placed + 1 }
  else p

/-- The rounds of the code points in increasing order, `next` being the least not yet reached. -/
def rounds (label : List Char) (basic : Nat) : List Nat → Nat → Progress → Progress
  | [], _, p => p
  | code :: codes, next, p =>
    let start := { p with distance := p.distance + (code - next) * (p.placed + 1) }
    let done := label.foldl (pass basic code) start
    rounds label basic codes (code + 1) { done with distance := done.distance + 1 }

def insertCode (code : Nat) : List Nat → List Nat
  | [] => [code]
  | least :: codes =>
    if code < least then code :: least :: codes
    else if code = least then least :: codes
    else least :: insertCode code codes

def codesBeyondAscii (label : List Char) : List Nat :=
  (label.filter (!isAscii ·)).foldr (fun c codes => insertCode c.toNat codes) []

def encode (label : List Char) : List Char :=
  let basic := label.filter isAscii
  let count := basic.length
  let done := rounds label count (codesBeyondAscii label) 128 ⟨[], 0, 72, count⟩
  basic ++ (if count > 0 then ['-'] else []) ++ done.written

def distanceBound : Nat := 4294967296

/-- Reads a distance: the total so far grows by each digit times its weight until one is below its
bound. -/
def readDistance (bias : Nat) : List Char → Nat → Nat → Nat → Option (Nat × List Char)
  | [], _, _, _ => none
  | c :: rest, place, weight, total => do
    let value ← value? c
    let least := bound place bias
    let total := total + value * weight
    if total ≥ distanceBound then none
    else if value < least then some (total, rest)
    else readDistance bias rest (place + 36) (weight * (36 - least)) total

def insertAll : Nat → List Char → Nat → Nat → Nat → List Char → Bool → Option (List Char)
  | 0, _, _, _, _, _, _ => none
  | fuel + 1, digits, code, position, bias, placed, first =>
    if digits.isEmpty then some placed
    else do
      let (distance, rest) ← readDistance bias digits 36 1 0
      let count := placed.length + 1
      let index := position + distance
      let next := code + index / count
      if next ≥ 0x110000 || (0xD800 ≤ next && next < 0xE000) then none
      else
        insertAll fuel rest next (index % count + 1) (adapt distance count first)
          (placed.insertIdx (index % count) (Char.ofNat next)) false

/-- The parts before and after the last hyphen. A hyphen with nothing before it separates nothing. -/
def cutLastHyphen (text : List Char) : List Char × List Char :=
  let tail := (text.reverse.takeWhile (· ≠ '-')).reverse
  let front := text.take (text.length - tail.length - 1)
  if front.isEmpty then ([], text) else (front, tail)

def decode? (text : List Char) : Option (List Char) :=
  let (basic, digits) := cutLastHyphen text
  if basic.all isAscii then insertAll (digits.length + 1) digits 128 0 72 basic true else none

end Courier.Punycode
