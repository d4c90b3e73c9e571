import Courier.Url.Percent
import Courier.Text.Split
import Courier.Job
/-!
Form encoding of named values: `name=value` pairs joined by `&`, where letters, digits and four
marks stand for themselves, a space is a plus and every other byte is percent-encoded. Decoding
passes over empty pieces, and a piece without `=` is a name with an empty value.
-/
namespace Courier.Form

def isPlain (c : Char) : Bool :=
  isAsciiAlphanum c || c = '*' || c = '-' || c = '.' || c = '_'

def encodeChar (c : Char) : List Char :=
  if isPlain c then [c]
  else if c = ' ' then ['+']
  else (Utf8.encodeChar c).flatMap Percent.encodeByte

def encodeText (text : String) : List Char := text.toList.flatMap encodeChar

def encodePair (pair : Pair) : List Char := encodeText pair.name ++ '=' :: encodeText pair.value

def encode (pairs : List Pair) : List Char := joinWith ['&'] (pairs.map encodePair)

def text (pairs : List Pair) : String := String.ofList (encode pairs)

def append (text : List Char) (pairs : List Pair) : List Char :=
  joinWith ['&'] ((if text.isEmpty then [] else [text]) ++ pairs.map encodePair)

def spaced (part : List UInt8) : List UInt8 := part.map fun b => if b == 0x2B then 0x20 else b

def byteDigit? (b : UInt8) : Option Nat :=
  if b < 0x80 then digitValue? (Char.ofNat b.toNat) else none

def unescape : List UInt8 → List UInt8
  | [] => []
  | 0x25 :: high :: low :: rest =>
    match byteDigit? high, byteDigit? low with
    | some h, some l => UInt8.ofNat (h * 16 + l) :: unescape rest
    | _, _ => 0x25 :: unescape (high :: low :: rest)
  | b :: rest => b :: unescape rest

def decodeText (part : List UInt8) : String := Utf8.lossyText (unescape (spaced part))

def pieces (separator : UInt8) : List UInt8 → List (List UInt8)
  | [] => [[]]
  | b :: rest =>
    if b = separator then [] :: pieces separator rest
    else
      match pieces separator rest with
      | [] => [[b]]
      | piece :: more => (b :: piece) :: more

def decodePair (piece : List UInt8) : Pair :=
  ⟨decodeText (piece.takeWhile (· ≠ 0x3D)), decodeText ((piece.dropWhile (· ≠ 0x3D)).drop 1)⟩

def decode (input : List UInt8) : List Pair :=
  ((pieces 0x26 input).filter (!·.isEmpty)).map decodePair

end Courier.Form
