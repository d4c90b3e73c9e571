import Courier.Url.Basic
import Courier.Url.Domain
import Courier.Url.Percent
/-!
Reading URLs the way browsers do. Blanks and control characters around a text and line breaks and
tabs in it do not count; for the web's own schemes any number of slashes may stand before the host
and a backslash is a slash; dot segments are resolved; every component is percent-encoded.
-/
namespace Courier.Url

inductive SchemeKind where
  /-- The web's own schemes, which always have a host. -/
  | special
  | file
  | other
  deriving DecidableEq, Repr

def schemeKind (scheme : String) : SchemeKind :=
  match scheme with
  | "http" | "https" | "ws" | "wss" | "ftp" => .special
  | "file" => .file
  | _ => .other

/-! ### The text as a whole -/

def isEdge (c : Char) : Bool := c.toNat ≤ 0x20

def isBreak (c : Char) : Bool := c = '\t' || c = '\n' || c = '\r'

def clean (text : List Char) : List Char :=
  (((text.dropWhile isEdge).reverse.dropWhile isEdge).reverse).filter (!isBreak ·)

def isSchemeChar (c : Char) : Bool := isAsciiAlphanum c || c = '+' || c = '-' || c = '.'

def cutScheme? (text : List Char) : Option (String × List Char) :=
  match text.dropWhile isSchemeChar with
  | ':' :: rest =>
    let scheme := text.takeWhile isSchemeChar
    match scheme with
    | first :: _ =>
      if isAsciiAlpha first then some (String.ofList (scheme.map asciiLower), rest) else none
    | [] => none
  | _ => none

/-! ### Hosts and ports -/

def isForbiddenHostChar (c : Char) : Bool :=
  ['\x00', '\t', '\n', '\r', ' ', '#', '/', ':', '<', '>', '?', '@', '[', '\\', ']', '^', '|'].contains c

def bracketHost (inner : List Char) : Except UrlError Host :=
  if inner.getLast? == some ']' then
    match Ipv6.parse? inner.dropLast with
    | some pieces => .ok (.ipv6 pieces)
    | none => .error .invalidIpv6
  else .error .invalidIpv6

def readHost (text : List Char) : Except UrlError Host :=
  match text with
  | '[' :: inner => bracketHost inner
  | _ =>
    match Utf8.decode? (Percent.decode text) >>= Domain.toAscii? with
    | none => .error .invalidDomain
    | some [] => .error .emptyHost
    | some name =>
      if Ipv4.endsInNumber name then
        match Ipv4.parse? name with
        | some address => .ok (.ipv4 address)
        | none => .error .invalidIpv4
      else .ok (.domain (String.ofList name))

def readPlainHost (text : List Char) : Except UrlError Host :=
  match text with
  | '[' :: inner => bracketHost inner
  | _ =>
    if text.any isForbiddenHostChar then .error .forbiddenHostCharacter
    else .ok (.domain (String.ofList (Percent.encode Percent.isControl text)))

def cutHost (inBrackets : Bool) : List Char → List Char × List Char
  | [] => ([], [])
  | c :: rest =>
    if c = ':' && !inBrackets then ([], c :: rest)
    else
      let (host, after) := cutHost (c = '[' || (inBrackets && c ≠ ']')) rest
      (c :: host, after)

def readPort (scheme : String) (text : List Char) : Except UrlError (Option Nat) :=
  if text.isEmpty then .ok none
  else
    match number? 10 text with
    | some port =>
      if port > 65535 then .error .invalidPort
      else .ok (if usualPort? scheme = some port then none else some port)
    | none => .error .invalidPort

def cutLastAt? : List Char → Option (List Char × List Char)
  | [] => none
  | c :: rest =>
    match cutLastAt? rest with
    | some (left, right) => some (c :: left, right)
    | none => if c = '@' then some ([], rest) else none

def readUserinfo (text : List Char) : String × Option String :=
  let encoded := fun part => String.ofList (Percent.encode Percent.inUserinfo part)
  match cutAt? (· = ':') text with
  | none => (encoded text, none)
  | some (user, []) => (encoded user, none)
  | some (user, password) => (encoded user, some (encoded password))

structure Authority where
  username : String
  password : Option String
  host : Option Host
  port : Option Nat

/-- Reads an authority that ends where the path, the query, the fragment or the text begins or ends.
A backslash ends the port; what follows it is given back as part of the path. -/
def readAuthority (scheme : String) (kind : SchemeKind) (text after : List Char) :
    Except UrlError (Authority × List Char) := do
  let (before, place) := (cutLastAt? text).elim ([], text) id
  if before.isEmpty && place.isEmpty && !text.isEmpty && !after.isEmpty then .error .emptyHost
  else
    let (username, password) := readUserinfo before
    let (hostPart, portPart) := cutHost false place
    let host ←
      match hostPart, kind with
      | [], .other =>
        if portPart.isEmpty && username.isEmpty && password.isNone then pure none
        else .error .emptyHost
      | [], _ => .error .emptyHost
      | _, .other => (readPlainHost hostPart).map some
      | _, _ => (readHost hostPart).map some
    let port ← readPort scheme ((portPart.drop 1).takeWhile (· ≠ '\\'))
    let path := portPart.dropWhile (· ≠ '\\')
    return ({ username, password, host, port }, if path.isEmpty then after else '/' :: path ++ after)

/-! ### Paths -/

def isDoubleDot (segment : List Char) : Bool :=
  [['.', '.'], ['.', '%', '2', 'e'], ['%', '2', 'e', '.'],
    ['%', '2', 'e', '%', '2', 'e']].contains (segment.map asciiLower)

def isSingleDot (segment : List Char) : Bool :=
  [['.'], ['%', '2', 'e']].contains (segment.map asciiLower)

/-- A letter and a colon or bar, which no parent segment removes. -/
def isDriveLetter (segment : List Char) : Bool :=
  match segment with
  | [letter, mark] => isAsciiAlpha letter && (mark = ':' || mark = '|')
  | _ => false

def dropSegment : List (List Char) → List (List Char)
  | [] => []
  | last :: earlier => if isDriveLetter last then last :: earlier else earlier

/-- Resolves dot segments. The segments already `done` come last one first; a dot segment at the
end leaves an empty one. -/
def resolve : List (List Char) → List (List Char) → List (List Char)
  | [], done => done.reverse
  | segment :: rest, done =>
    let kept :=
      if isDoubleDot segment then dropSegment done
      else if isSingleDot segment then done
      else Percent.encode Percent.inPath segment :: done
    if rest.isEmpty && (isDoubleDot segment || isSingleDot segment) then ([] :: kept).reverse
    else resolve rest kept

def slashed (kind : SchemeKind) (c : Char) : Char := if c = '\\' && kind ≠ .other then '/' else c

def readPath (kind : SchemeKind) (text : List Char) : UrlPath :=
  let text := text.map (slashed kind)
  match text, kind with
  | '/' :: rest, _ => .rooted ((resolve (splitAt '/' rest) []).map String.ofList)
  | _, .other => .bare (String.ofList (Percent.encode Percent.isControl text))
  | _, _ => .rooted ((resolve (splitAt '/' text) []).map String.ofList)

/-! ### Whole URLs -/

def cutTail (text : List Char) : List Char × Option (List Char) × Option (List Char) :=
  let (front, fragment) :=
    match cutAt? (· = '#') text with
    | some (front, fragment) => (front, some fragment)
    | none => (text, none)
  match cutAt? (· = '?') front with
  | some (path, query) => (path, some query, fragment)
  | none => (front, none, fragment)

def queryTable (kind : SchemeKind) : Char → Bool :=
  if kind = .other then Percent.inQuery else Percent.inSpecialQuery

def assemble (scheme : String) (kind : SchemeKind) (authority : Authority) (text : List Char) : Url :=
  let (path, query, fragment) := cutTail text
  { scheme
    username := authority.username
    password := authority.password
    host := authority.host
    port := authority.port
    path := readPath kind path
    query := query.map fun query => String.ofList (Percent.encode (queryTable kind) query)
    fragment := fragment.map fun fragment =>
      String.ofList (Percent.encode Percent.inFragment fragment) }

def endsAuthority (kind : SchemeKind) (c : Char) : Bool :=
  c = '/' || c = '?' || c = '#' || (c = '\\' && kind ≠ .other)

def readFromAuthority (scheme : String) (kind : SchemeKind) (text : List Char) :
    Except UrlError Url := do
  let place := text.takeWhile (!endsAuthority kind ·)
  let after := text.dropWhile (!endsAuthority kind ·)
  let (authority, path) ← readAuthority scheme kind place after
  return assemble scheme kind authority path

def withoutAuthority (scheme : String) (kind : SchemeKind) (text : List Char) : Url :=
  assemble scheme kind ⟨"", none, none, none⟩ text

def isSlash (c : Char) : Bool := c = '/' || c = '\\'

def readFile (text : List Char) : Except UrlError Url :=
  match text with
  | a :: b :: rest =>
    if isSlash a && isSlash b then do
      let place := rest.takeWhile (!endsAuthority .file ·)
      let after := rest.dropWhile (!endsAuthority .file ·)
      if place.isEmpty || isDriveLetter place then
        return withoutAuthority "file" .file (if place.isEmpty then after else rest)
      else
        let host ← readHost place
        let host := if host = .domain "localhost" then none else some host
        return assemble "file" .file ⟨"", none, host, none⟩ after
    else .ok (withoutAuthority "file" .file text)
  | _ => .ok (withoutAuthority "file" .file text)

def parse (text : String) : Except UrlError Url :=
  match cutScheme? (clean text.toList) with
  | none => .error .relativeWithoutBase
  | some (scheme, rest) =>
    match schemeKind scheme with
    | .special => readFromAuthority scheme .special (rest.dropWhile isSlash)
    | .file => readFile rest
    | .other =>
      match rest with
      | '/' :: '/' :: place => readFromAuthority scheme .other place
      | _ => .ok (withoutAuthority scheme .other rest)

end Courier.Url
