import Courier.Text.Ascii
import Courier.Text.Blank
import Courier.Text.Split
/-!
Ranges of status codes and their text. A text is a list of entries separated by commas, each a
code `N` or a range `N:M` with both ends included; blanks around entries and codes do not count.
The first bad entry decides the error.
-/
namespace Courier

structure StatusRange where
  low : Nat
  high : Nat
  ordered : low ≤ high
  deriving DecidableEq, Repr

namespace StatusRange

def new? (low high : Nat) : Option StatusRange :=
  if ordered : low ≤ high then some ⟨low, high, ordered⟩ else none

def single (code : Nat) : StatusRange := ⟨code, code, Nat.le_refl code⟩

def contains (range : StatusRange) (status : Nat) : Bool :=
  range.low ≤ status && status ≤ range.high

def write (range : StatusRange) : List Char :=
  if range.low = range.high then decimal range.low
  else decimal range.low ++ ':' :: decimal range.high

def text (range : StatusRange) : String := String.ofList range.write

end StatusRange

inductive RangeError where
  /-- An entry of the text is blank. -/
  | empty (text : String)
  /-- An entry has not the form of a code or a range. -/
  | malformed (entry : String)
  /-- A code is greater than any status. -/
  | outOfBounds (code : Nat)
  /-- The ends of an entry are in the wrong order. -/
  | inverted (entry : String)
  deriving DecidableEq, Repr

def greatestStatus : Nat := 599

def RangeError.message : RangeError → String
  | .empty text => "empty status range entry in '" ++ text ++ "'"
  | .malformed entry => "invalid status range '" ++ entry ++ "': expected N or N:M"
  | .outOfBounds code =>
    "status code " ++ toString code ++ " out of range 0..=" ++ toString greatestStatus
  | .inverted entry => "invalid status range '" ++ entry ++ "': lower bound exceeds upper bound"

structure RangeSet where
  ranges : List StatusRange
  deriving DecidableEq, Repr

namespace RangeSet

def matching? (set : RangeSet) (status : Nat) : Option StatusRange :=
  set.ranges.find? (·.contains status)

def contains (set : RangeSet) (status : Nat) : Bool := (set.matching? status).isSome

def write (set : RangeSet) : List Char := joinWith [','] (set.ranges.map StatusRange.write)

def text (set : RangeSet) : String := String.ofList set.write

/-- Numbers from `2 ^ 32` on are no codes at all. -/
def codeBound : Nat := 4294967296

def readCode (entry : List Char) (part : List Char) : Except RangeError Nat :=
  let digits := trim part
  if digits.isEmpty || !digits.all isAsciiDigit then .error (.malformed (String.ofList entry))
  else
    match readDigits 10 digits 0 with
    | some code =>
      if code ≥ codeBound then .error (.malformed (String.ofList entry))
      else if code > greatestStatus then .error (.outOfBounds code)
      else .ok code
    | none => .error (.malformed (String.ofList entry))

def readEntry (whole entry : List Char) : Except RangeError StatusRange := do
  if entry.isEmpty then .error (.empty (String.ofList whole))
  else
    let (low, high) ←
      match splitAt ':' entry with
      | [code] => do
        let code ← readCode entry code
        pure (code, code)
      | [low, high] => do
        let low ← readCode entry low
        let high ← readCode entry high
        pure (low, high)
      | _ => .error (.malformed (String.ofList entry))
    match StatusRange.new? low high with
    | some range => .ok range
    | none => .error (.inverted (String.ofList entry))

def read (text : List Char) : Except RangeError RangeSet :=
  ((splitAt ',' text).mapM fun entry => readEntry text (trim entry)).map RangeSet.mk

def ofText (text : String) : Except RangeError RangeSet := read text.toList

def default : RangeSet := ⟨[⟨100, 399, by decide⟩]⟩

def parse (text : Option String) : Except RangeError RangeSet :=
  match text.map fun text => trim text.toList with
  | none => .ok default
  | some [] => .ok default
  | some kept => read kept

end RangeSet
end Courier
