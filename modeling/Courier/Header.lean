import Courier.Text.Ascii
import Courier.Text.Utf8
/-!
Header fields. A name is a token; a value may hold anything but control characters other than the
tab. Names are equal up to the case of ASCII letters. A value counts as readable text only when it
is printable ASCII and tabs.
-/
namespace Courier

abbrev Header := String × String

namespace Header

def isTokenChar (c : Char) : Bool :=
  isAsciiAlphanum c ||
    ['!', '#', '$', '%', '&', '\'', '*', '+', '-', '.', '^', '_', '\x60', '|', '~'].contains c

def greatestNameLength : Nat := 65535

def isName (text : String) : Bool :=
  let name := text.toList
  !name.isEmpty && name.all isTokenChar && name.length ≤ greatestNameLength

def isValueChar (c : Char) : Bool := (c.toNat ≥ 0x20 && c.toNat ≠ 0x7F) || c = '\t'

def isValue (text : String) : Bool := text.toList.all isValueChar

def isReadableChar (c : Char) : Bool := (c.toNat ≥ 0x20 && c.toNat < 0x7F) || c = '\t'

def isReadable (text : String) : Bool := text.toList.all isReadableChar

def values (name : String) (headers : List Header) : List String :=
  (headers.filter fun header => sameIgnoringCase header.1 name).map Prod.snd

def value? (name : String) (headers : List Header) : Option String :=
  (headers.find? fun header => sameIgnoringCase header.1 name).map Prod.snd

def sorted (headers : List Header) : List Header :=
  headers.mergeSort fun left right => left.1 ≤ right.1

inductive Fault where
  | name
  | value
  deriving DecidableEq, Repr

def Fault.message : Fault → String
  | .name => "invalid HTTP header name"
  | .value => "failed to parse header value"

def fault? (header : Header) : Option Fault :=
  if !isName header.1 then some .name
  else if !isValue header.2 then some .value
  else none

end Header
end Courier
