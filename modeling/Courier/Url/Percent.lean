import Courier.Text.Ascii
import Courier.Text.Utf8
/-!
Percent-encoding. Each component of a URL has its set of characters that must not stand for
themselves; those and all characters beyond ASCII are written as the hexadecimal values of their
bytes. Signs already written as `%` are left alone.
-/
namespace Courier.Percent

def encodeByte (b : UInt8) : List Char :=
  ['%', upperHexDigit (b.toNat / 16), upperHexDigit (b.toNat % 16)]

def isControl (c : Char) : Bool := c.toNat < 0x20 || c.toNat == 0x7F

def inFragment (c : Char) : Bool :=
  isControl c || c = ' ' || c = '"' || c = '<' || c = '>' || c = '\x60'

def inPath (c : Char) : Bool :=
  inFragment c || c = '#' || c = '?' || c = '\x7b' || c = '\x7d'

def inUserinfo (c : Char) : Bool :=
  inPath c || c = '/' || c = ':' || c = ';' || c = '=' || c = '@' || c = '[' || c = '\\' ||
    c = ']' || c = '^' || c = '|'

def inQuery (c : Char) : Bool :=
  isControl c || c = ' ' || c = '"' || c = '#' || c = '<' || c = '>'

def inSpecialQuery (c : Char) : Bool := inQuery c || c = '\''

def encodeChar (inSet : Char → Bool) (c : Char) : List Char :=
  if inSet c || !isAscii c then (Utf8.encodeChar c).flatMap encodeByte else [c]

def encode (inSet : Char → Bool) (text : List Char) : List Char := text.flatMap (encodeChar inSet)

def decode : List Char → List UInt8
  | [] => []
  | '%' :: high :: low :: rest =>
    match digitValue? high, digitValue? low with
    | some h, some l => UInt8.ofNat (h * 16 + l) :: decode rest
    | _, _ => 0x25 :: decode (high :: low :: rest)
  | c :: rest => Utf8.encodeChar c ++ decode rest

end Courier.Percent
