import Courier.Text.Ascii
import Courier.Text.Utf8
/-!
The form a URL must have to be sent as it is written: only characters that need no encoding before
the path, no stray brackets, colons or percent signs in the place of the host, and a bounded
length. Whatever stands after `#` does not count.
-/
namespace Courier.Strict

inductive Fault where
  | tooLong
  | noText
  | character
  | authority
  | format
  | schemeTooLong
  deriving DecidableEq, Repr

def Fault.message : Fault → String
  | .tooLong => "uri too long"
  | .noText => "empty string"
  | .character => "invalid uri character"
  | .authority => "invalid authority"
  | .format => "invalid format"
  | .schemeTooLong => "scheme too long"

def greatestLength : Nat := 65534

def greatestSchemeLength : Nat := 64

def isUriChar (c : Char) : Bool :=
  isAsciiAlphanum c ||
    ['!', '#', '$', '&', '\'', '(', ')', '*', '+', ',', '-', '.', '/', ':', ';', '=', '?', '@', '[',
      ']', '_', '~'].contains c

structure Survey where
  colons : Nat := 0
  opened : Bool := false
  closed : Bool := false
  percent : Bool := false
  /-- The last character was an `@`. -/
  atEnd : Bool := false

def Survey.add (s : Survey) (c : Char) : Except Fault Survey :=
  let s := { s with atEnd := false }
  if c = ':' then
    if s.colons ≥ 8 then .error .authority else .ok { s with colons := s.colons + 1 }
  else if c = '[' then
    if s.percent || s.opened then .error .authority else .ok { s with opened := true }
  else if c = ']' then
    if !s.opened || s.closed then .error .authority
    else .ok { s with closed := true, colons := 0, percent := false }
  else if c = '@' then .ok { s with atEnd := true, colons := 0, percent := false }
  else if c = '%' then .ok { s with percent := true }
  else if isUriChar c then .ok s
  else .error .character

def Survey.check (s : Survey) : Except Fault Unit :=
  if s.opened ≠ s.closed || s.colons > 1 || s.atEnd || s.percent then .error .authority else .ok ()

def endsAuthority (c : Char) : Bool := c = '/' || c = '?' || c = '#'

def checkAuthority (text : List Char) : Except Fault (List Char) := do
  let survey ← (text.takeWhile (!endsAuthority ·)).foldlM Survey.add {}
  survey.check
  return text.dropWhile (!endsAuthority ·)

def isPathChar (c : Char) : Bool :=
  c.toNat > 0x20 && !(['#', '<', '>', '?', '\x60', '\x7f'].contains c)

def isQueryChar (c : Char) : Bool :=
  c.toNat > 0x20 && !(['"', '#', '<', '>', '\x7f'].contains c)

def checkPath (text : List Char) : Except Fault Unit :=
  let shown := text.takeWhile (· ≠ '#')
  let path := shown.takeWhile (· ≠ '?')
  let query := (shown.dropWhile (· ≠ '?')).drop 1
  if path.all isPathChar && query.all isQueryChar then .ok () else .error .character

def isSchemeChar (c : Char) : Bool := isAsciiAlphanum c || c = '+' || c = '-' || c = '.'

def cutScheme? (text : List Char) : Except Fault (Option (List Char)) :=
  let scheme := text.takeWhile isSchemeChar
  match text.drop scheme.length with
  | ':' :: '/' :: '/' :: rest =>
    if scheme.length > greatestSchemeLength then .error .schemeTooLong else .ok (some rest)
  | _ => .ok none

def check (url : String) : Except Fault Unit := do
  let text := url.toList
  if (Utf8.encode text).length > greatestLength then .error .tooLong
  else
    match text with
    | [] => .error .noText
    | ['*'] => .ok ()
    | '/' :: _ => checkPath text
    | _ =>
      match ← cutScheme? text with
      | none =>
        let rest ← checkAuthority text
        if rest.isEmpty then .ok () else .error .format
      | some place =>
        let rest ← checkAuthority place
        if rest.length = place.length then .error .format else checkPath rest

end Courier.Strict
