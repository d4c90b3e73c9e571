/-!
UTF-8. Bytes are cut into parts from left to right: a part is a character with its well-formed
sequence, or the longest start of a sequence that cannot be completed. Lossy decoding shows a
replacement character for each part of the second kind, strict decoding refuses them.
-/
namespace Courier.Utf8

def encodeChar (c : Char) : List UInt8 := String.utf8EncodeChar c

def encode (text : List Char) : List UInt8 := text.flatMap encodeChar

def bytes (text : String) : List UInt8 := encode text.toList

/-- A character, or bytes that begin a sequence without completing one. -/
inductive Part where
  | char (c : Char)
  | invalid (taken : List UInt8)
  deriving DecidableEq, Repr

/-- A sequence whose last `missing` bytes are still to come, the next one between `low` and `high`. -/
structure Pending where
  taken : List UInt8
  value : Nat
  missing : Nat
  low : UInt8 := 0x80
  high : UInt8 := 0xBF

def first (b : UInt8) : List Part × Option Pending :=
  if b < 0x80 then ([.char (Char.ofNat b.toNat)], none)
  else if b < 0xC2 then ([.invalid [b]], none)
  else if b < 0xE0 then ([], some { taken := [b], value := b.toNat - 0xC0, missing := 1 })
  else if b == 0xE0 then ([], some { taken := [b], value := 0, missing := 2, low := 0xA0 })
  else if b == 0xED then ([], some { taken := [b], value := 0xD, missing := 2, high := 0x9F })
  else if b < 0xF0 then ([], some { taken := [b], value := b.toNat - 0xE0, missing := 2 })
  else if b == 0xF0 then ([], some { taken := [b], value := 0, missing := 3, low := 0x90 })
  else if b < 0xF4 then ([], some { taken := [b], value := b.toNat - 0xF0, missing := 3 })
  else if b == 0xF4 then ([], some { taken := [b], value := 4, missing := 3, high := 0x8F })
  else ([.invalid [b]], none)

def step (pending : Option Pending) (b : UInt8) : List Part × Option Pending :=
  match pending with
  | none => first b
  | some p =>
    if p.low ≤ b && b ≤ p.high then
      let value := p.value * 64 + (b.toNat - 0x80)
      match p.missing with
      | missing + 2 => ([], some { taken := p.taken ++ [b], value, missing := missing + 1 })
      | _ => ([.char (Char.ofNat value)], none)
    else
      let (parts, next) := first b
      (.invalid p.taken :: parts, next)

def partsAfter (pending : Option Pending) : List UInt8 → List Part
  | [] =>
    match pending with
    | none => []
    | some p => [.invalid p.taken]
  | b :: rest =>
    let (parts, next) := step pending b
    parts ++ partsAfter next rest

def parts (input : List UInt8) : List Part := partsAfter none input

def Part.shown : Part → Char
  | .char c => c
  | .invalid _ => Char.ofNat 0xFFFD

def Part.char? : Part → Option Char
  | .char c => some c
  | .invalid _ => none

/-- Decodes any bytes, with one replacement character for each part that is not a character. -/
def decodeLossy (input : List UInt8) : List Char := (parts input).map Part.shown

def decode? (input : List UInt8) : Option (List Char) := (parts input).mapM Part.char?

def lossyText (input : List UInt8) : String := String.ofList (decodeLossy input)

def text? (input : List UInt8) : Option String := (decode? input).map String.ofList

/-- Where bytes stop being text, and the length of what stands there; no length when the bytes end
within a sequence that could be completed. -/
structure Flaw where
  index : Nat
  length : Option Nat
  deriving DecidableEq, Repr

def isOpen (taken : List UInt8) : Bool :=
  (taken.foldl (fun pending b => (step pending b).2) none).isSome

def flawFrom? (index : Nat) : List Part → Option Flaw
  | [] => none
  | .char c :: rest => flawFrom? (index + (encodeChar c).length) rest
  | [.invalid taken] =>
    some { index, length := if isOpen taken then none else some taken.length }
  | .invalid taken :: _ => some { index, length := some taken.length }

def flaw? (input : List UInt8) : Option Flaw := flawFrom? 0 (parts input)

def Flaw.message (flaw : Flaw) : String :=
  match flaw.length with
  | some length =>
    "invalid utf-8 sequence of " ++ toString length ++ " bytes from index " ++ toString flaw.index
  | none => "incomplete utf-8 byte sequence from index " ++ toString flaw.index

end Courier.Utf8
