import Courier.Json.Basic
import Courier.Text.Utf8
/-!
JSON text as far as it can be read. A reading is a tree in the order of the text that may end in a
flaw: the text stops too early, or something stands where it cannot. Strings and numbers can carry
a flaw of their own, which counts when their value is wanted and not when they are passed over;
so the first flaw of a text depends on which of its values are wanted.
-/
namespace Courier

inductive Flaw where
  /-- The text stops too early. -/
  | ended
  /-- Something stands where it cannot. -/
  | malformed
  deriving DecidableEq, Repr

inductive Closing where
  | closed
  /-- Neither a comma nor the closing bracket follows. -/
  | missing (flaw : Flaw)
  /-- After a comma nothing begins. -/
  | dangling (flaw : Flaw)
  deriving DecidableEq, Repr

def Closing.flaw? : Closing → Option Flaw
  | .closed => none
  | .missing flaw => some flaw
  | .dangling flaw => some flaw

inductive Reading where
  | null
  | bool (value : Bool)
  | number (value : Except Flaw Json.Number)
  | string (value : Except Flaw String)
  | array (items : List Reading) (closing : Closing)
  | object (fields : List (Except Flaw String × Reading)) (closing : Closing)
  /-- The text ends before the value begins. -/
  | absent
  /-- A string without a proper end: the flaw met by reading it, and by passing over it. -/
  | brokenString (whenRead whenPassed : Flaw)
  /-- Any other broken value: the flaw met by reading it, and by passing over it. -/
  | broken (whenRead whenPassed : Flaw)

namespace Reading

/-! ### Strings -/

inductive Piece where
  | char (c : Char)
  | unit (code : Nat)
  deriving DecidableEq, Repr

def escaped? (c : Char) : Option Char :=
  match c with
  | '"' => some '"'
  | '\\' => some '\\'
  | '/' => some '/'
  | 'b' => some '\x08'
  | 'f' => some '\x0c'
  | 'n' => some '\n'
  | 'r' => some '\r'
  | 't' => some '\t'
  | _ => none

def hex4? (a b c d : Char) : Option Nat := do
  let a ← digitValue? a
  let b ← digitValue? b
  let c ← digitValue? c
  let d ← digitValue? d
  return ((a * 16 + b) * 16 + c) * 16 + d

/-- An escape of four digits stops too early when fewer than four bytes are left. -/
def shortEscape (rest : List Char) : Flaw :=
  if (Utf8.encode (rest.take 4)).length < 4 then .ended else .malformed

def pieces : List Char → List Piece × Except Flaw (List Char)
  | [] => ([], .error .ended)
  | '"' :: rest => ([], .ok rest)
  | ['\\'] => ([], .error .ended)
  | '\\' :: 'u' :: a :: b :: c :: d :: rest =>
    match hex4? a b c d with
    | some code =>
      let (more, after) := pieces rest
      (.unit code :: more, after)
    | none => ([], .error .malformed)
  | '\\' :: 'u' :: rest => ([], .error (shortEscape rest))
  | '\\' :: c :: rest =>
    match escaped? c with
    | some value =>
      let (more, after) := pieces rest
      (.char value :: more, after)
    | none => ([], .error .malformed)
  | c :: rest =>
    if c.toNat < 0x20 then ([], .error .malformed)
    else
      let (more, after) := pieces rest
      (.char c :: more, after)

def isHighSurrogate (code : Nat) : Bool := 0xD800 ≤ code && code < 0xDC00

def isLowSurrogate (code : Nat) : Bool := 0xDC00 ≤ code && code < 0xE000

/-- The characters of the pieces. A surrogate without its partner has none, except that the first
half of a pair may stand at an `openEnd`. -/
def assemble (openEnd : Bool) : List Piece → Option (List Char)
  | [] => some []
  | .char c :: rest => (assemble openEnd rest).map (c :: ·)
  | [.unit code] =>
    if isHighSurrogate code then if openEnd then some [] else none
    else if isLowSurrogate code then none
    else some [Char.ofNat code]
  | .unit code :: .unit next :: rest =>
    if isHighSurrogate code then
      if isLowSurrogate next then
        (assemble openEnd rest).map
          (Char.ofNat (0x10000 + (code - 0xD800) * 0x400 + (next - 0xDC00)) :: ·)
      else none
    else if isLowSurrogate code then none
    else (assemble openEnd (.unit next :: rest)).map (Char.ofNat code :: ·)
  | .unit code :: .char c :: rest =>
    if isHighSurrogate code || isLowSurrogate code then none
    else (assemble openEnd rest).map fun more => Char.ofNat code :: c :: more

def readString (text : List Char) : Except (Flaw × Flaw) (Except Flaw String × List Char) :=
  match pieces text with
  | (found, .ok rest) =>
    match assemble false found with
    | some value => .ok (.ok (String.ofList value), rest)
    | none => .ok (.error .malformed, rest)
  | (found, .error flaw) =>
    .error (if (assemble true found).isSome then flaw else .malformed, flaw)

/-! ### Numbers -/

def greatestNatural : Nat := 18446744073709551615

def greatestNegation : Nat := 9223372036854775808

def takeExact : List Char → Nat → Nat × List Char
  | [], n => (n, [])
  | c :: rest, n =>
    let next := n * 10 + (c.toNat - '0'.toNat)
    if next > greatestNatural then (n, c :: rest) else takeExact rest next

def numberOf (minus : Bool) (whole : List Char) (fraction : List Char) (exponent : Option Int) :
    Except Flaw Json.Number :=
  let (digits, left) := takeExact whole 0
  if left.isEmpty && fraction.isEmpty && exponent.isNone then
    if !minus then .ok (.natural digits)
    else if 0 < digits && digits ≤ greatestNegation then .ok (.negative digits)
    else .ok (.real true digits 0)
  else
    let (digits, dropped) := takeExact fraction digits
    let power : Int := (left.length : Int) - ((fraction.length : Int) - dropped.length) +
      exponent.getD 0
    match Json.float? minus digits power with
    | some _ => .ok (.real minus digits power)
    | none => .error .malformed

def wantDigit (text : List Char) : Reading :=
  .broken (if text.isEmpty then .ended else .malformed) .malformed

def readExponent (text : List Char) : Except Reading (Option Int × List Char) :=
  match text with
  | e :: rest =>
    if e = 'e' || e = 'E' then
      let (minus, rest) : Bool × List Char :=
        match rest with
        | '+' :: more => (false, more)
        | '-' :: more => (true, more)
        | _ => (false, rest)
      let digits := rest.takeWhile isAsciiDigit
      if digits.isEmpty then .error (wantDigit rest)
      else
        let power : Int := (readDigits 10 digits 0).getD 0
        .ok (some (if minus then -power else power), rest.dropWhile isAsciiDigit)
    else .ok (none, text)
  | [] => .ok (none, [])

def readNumber (minus : Bool) (text : List Char) : Reading × Option (List Char) :=
  let whole := text.takeWhile isAsciiDigit
  let rest := text.dropWhile isAsciiDigit
  match whole with
  | [] => (wantDigit text, none)
  | '0' :: _ :: _ => (.broken .malformed .malformed, none)
  | _ =>
    let fraction : Except Reading (List Char × List Char) :=
      match rest with
      | '.' :: more =>
        let digits := more.takeWhile isAsciiDigit
        if digits.isEmpty then .error (wantDigit more) else .ok (digits, more.dropWhile isAsciiDigit)
      | _ => .ok ([], rest)
    match fraction with
    | .error flawed => (flawed, none)
    | .ok (fraction, rest) =>
      match readExponent rest with
      | .error flawed => (flawed, none)
      | .ok (exponent, rest) => (.number (numberOf minus whole fraction exponent), some rest)

/-! ### Values -/

def isSpace (c : Char) : Bool := c = ' ' || c = '\n' || c = '\t' || c = '\r'

def skipSpace (text : List Char) : List Char := text.dropWhile isSpace

def readWord : List Char → List Char → Except Flaw (List Char)
  | [], text => .ok text
  | _ :: _, [] => .error .ended
  | w :: word, c :: text => if w = c then readWord word text else .error .malformed

def wordValue (value : Reading) (word text : List Char) : Reading × Option (List Char) :=
  match readWord word text with
  | .ok rest => (value, some rest)
  | .error flaw => (.broken flaw flaw, none)

mutual

/-- A value and the text after it, or no text when the value is broken. Each character of
the text takes at most two steps of fuel. -/
def readValue : Nat → List Char → Reading × Option (List Char)
  | 0, _ => (.absent, none)
  | fuel + 1, text =>
    match skipSpace text with
    | [] => (.absent, none)
    | '"' :: rest =>
      match readString rest with
      | .ok (value, rest) => (.string value, some rest)
      | .error (whenRead, whenPassed) => (.brokenString whenRead whenPassed, none)
    | '[' :: rest =>
      match skipSpace rest with
      | [] => (.array [] (.missing .ended), none)
      | ']' :: rest => (.array [] .closed, some rest)
      | rest =>
        let (items, closing, rest) := readItems fuel rest
        (.array items closing, rest)
    | '\x7b' :: rest =>
      match skipSpace rest with
      | [] => (.object [] (.missing .ended), none)
      | '\x7d' :: rest => (.object [] .closed, some rest)
      | rest =>
        let (fields, closing, rest) := readFields fuel rest
        (.object fields closing, rest)
    | 'n' :: rest => wordValue .null ['u', 'l', 'l'] rest
    | 't' :: rest => wordValue (.bool true) ['r', 'u', 'e'] rest
    | 'f' :: rest => wordValue (.bool false) ['a', 'l', 's', 'e'] rest
    | '-' :: rest => readNumber true rest
    | c :: rest =>
      if isAsciiDigit c then readNumber false (c :: rest) else (.broken .malformed .malformed, none)

def readItems : Nat → List Char → List Reading × Closing × Option (List Char)
  | 0, _ => ([], .missing .ended, none)
  | fuel + 1, text =>
    match readValue fuel text with
    | (item, none) => ([item], .missing .malformed, none)
    | (item, some rest) =>
      match skipSpace rest with
      | [] => ([item], .missing .ended, none)
      | ']' :: rest => ([item], .closed, some rest)
      | ',' :: rest =>
        match skipSpace rest with
        | [] => ([item], .dangling .ended, none)
        | ']' :: _ => ([item], .dangling .malformed, none)
        | rest =>
          let (items, closing, rest) := readItems fuel rest
          (item :: items, closing, rest)
      | _ => ([item], .missing .malformed, none)

def readFields : Nat → List Char →
    List (Except Flaw String × Reading) × Closing × Option (List Char)
  | 0, _ => ([], .missing .ended, none)
  | fuel + 1, text =>
    match text with
    | '"' :: rest =>
      match readString rest with
      | .error (whenRead, whenPassed) =>
        ([(.error whenRead, .broken whenPassed whenPassed)], .missing .malformed, none)
      | .ok (key, rest) =>
        match skipSpace rest with
        | [] => ([(key, .absent)], .missing .malformed, none)
        | ':' :: rest =>
          match readValue fuel rest with
          | (value, none) => ([(key, value)], .missing .malformed, none)
          | (value, some rest) =>
            match skipSpace rest with
            | [] => ([(key, value)], .missing .ended, none)
            | '\x7d' :: rest => ([(key, value)], .closed, some rest)
            | ',' :: rest =>
              match skipSpace rest with
              | [] => ([(key, value)], .dangling .ended, none)
              | '\x7d' :: _ => ([(key, value)], .dangling .malformed, none)
              | rest =>
                let (fields, closing, rest) := readFields fuel rest
                ((key, value) :: fields, closing, rest)
            | _ => ([(key, value)], .missing .malformed, none)
        | _ => ([(key, .broken .malformed .malformed)], .missing .malformed, none)
    | _ => ([], .missing .malformed, none)

end

def ofText (text : List Char) : Reading × Option Flaw :=
  match readValue (2 * text.length + 2) text with
  | (value, none) => (value, none)
  | (value, some rest) => (value, if (skipSpace rest).isEmpty then none else some .malformed)

/-! ### Passing over and keeping values -/

mutual

def passFlaw? : Reading → Option Flaw
  | .array items closing => passItemsFlaw? items closing
  | .object fields closing => passFieldsFlaw? fields closing
  | .absent => some .ended
  | .brokenString _ whenPassed => some whenPassed
  | .broken _ whenPassed => some whenPassed
  | _ => none

def passItemsFlaw? : List Reading → Closing → Option Flaw
  | [], closing => closing.flaw?
  | item :: items, closing =>
    match passFlaw? item with
    | some flaw => some flaw
    | none => passItemsFlaw? items closing

def passFieldsFlaw? : List (Except Flaw String × Reading) → Closing → Option Flaw
  | [], closing => closing.flaw?
  | (_, value) :: fields, closing =>
    match passFlaw? value with
    | some flaw => some flaw
    | none => passFieldsFlaw? fields closing

end

mutual

/-- The flaw met by keeping a value whole. Arrays and objects may be nested up to `depth`. -/
def keepFlaw? (depth : Nat) : Reading → Option Flaw
  | .null => none
  | .bool _ => none
  | .number (.error flaw) => some flaw
  | .number (.ok _) => none
  | .string (.error flaw) => some flaw
  | .string (.ok _) => none
  | .array items closing =>
    match depth with
    | 0 => some .malformed
    | depth + 1 => keepItemsFlaw? depth items closing
  | .object fields closing =>
    match depth with
    | 0 => some .malformed
    | depth + 1 => keepFieldsFlaw? depth fields closing
  | .absent => some .ended
  | .brokenString whenRead _ => some whenRead
  | .broken whenRead _ => some whenRead

def keepItemsFlaw? (depth : Nat) : List Reading → Closing → Option Flaw
  | [], closing => closing.flaw?
  | item :: items, closing =>
    match keepFlaw? depth item with
    | some flaw => some flaw
    | none => keepItemsFlaw? depth items closing

def keepFieldsFlaw? (depth : Nat) :
    List (Except Flaw String × Reading) → Closing → Option Flaw
  | [], closing => closing.flaw?
  | (.error flaw, _) :: _, _ => some flaw
  | (.ok _, value) :: fields, closing =>
    match keepFlaw? depth value with
    | some flaw => some flaw
    | none => keepFieldsFlaw? depth fields closing

end

/-! ### Readings without flaws -/

mutual

def ofJson : Json → Reading
  | .null => .null
  | .bool value => .bool value
  | .number value => .number (.ok value)
  | .string value => .string (.ok value)
  | .array items => .array (ofItems items) .closed
  | .object fields => .object (ofFields fields) .closed

def ofItems : List Json → List Reading
  | [] => []
  | item :: items => ofJson item :: ofItems items

def ofFields : List (String × Json) → List (Except Flaw String × Reading)
  | [] => []
  | (key, value) :: fields => (.ok key, ofJson value) :: ofFields fields

end

mutual

def toJson? : Reading → Option Json
  | .null => some .null
  | .bool value => some (.bool value)
  | .number (.ok value) => some (.number value)
  | .string (.ok value) => some (.string value)
  | .array items .closed => (toItems? items).map .array
  | .object fields .closed => (toFields? fields).map .object
  | _ => none

def toItems? : List Reading → Option (List Json)
  | [] => some []
  | item :: items =>
    match toJson? item, toItems? items with
    | some item, some items => some (item :: items)
    | _, _ => none

def toFields? : List (Except Flaw String × Reading) → Option (List (String × Json))
  | [] => some []
  | (.ok key, value) :: fields =>
    match toJson? value, toFields? fields with
    | some value, some fields => some ((key, value) :: fields)
    | _, _ => none
  | (.error _, _) :: _ => none

end

end Reading

def Json.parse? (text : String) : Option Json :=
  match Reading.ofText text.toList with
  | (reading, none) => reading.toJson?
  | (_, some _) => none

end Courier
