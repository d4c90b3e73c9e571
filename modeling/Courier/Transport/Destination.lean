import Courier.Bytes.Base64
import Courier.Cookie.Jar
import Courier.Text.Utf8
import Courier.Url.Strict
/-!
Where a request goes: what the text of a URL says about the connection and the target, as the text
stands and without decoding anything. A redirect names the next destination relative to the last.
-/
namespace Courier

structure Destination where
  secure : Bool
  userinfo : Option String
  host : String
  port : Nat
  path : String
  query : Option String
  deriving DecidableEq, Repr

namespace Destination

def usualPort (secure : Bool) : Nat := if secure then 443 else 80

def cutUserinfo (authority : List Char) : Option (List Char) × List Char :=
  match cutAt? (· = '@') authority.reverse with
  | some (place, info) => (some info.reverse, place.reverse)
  | none => (none, authority)

def cutHost (place : List Char) : List Char × List Char :=
  match place with
  | '[' :: _ =>
    let inside := place.takeWhile (· ≠ ']')
    (inside ++ (place.drop inside.length).take 1, place.drop (inside.length + 1))
  | _ => (place.takeWhile (· ≠ ':'), place.dropWhile (· ≠ ':'))

def cutTarget (text : List Char) : List Char × Option (List Char) :=
  let shown := text.takeWhile (· ≠ '#')
  let path := shown.takeWhile (· ≠ '?')
  (if path.isEmpty then ['/'] else path, (cutAt? (· = '?') shown).map Prod.snd)

def portBound : Nat := 65536

def ofPlace? (secure : Bool) (text : List Char) : Option Destination := do
  let (userinfo, place) := cutUserinfo (text.takeWhile (!Strict.endsAuthority ·))
  let (host, rest) := cutHost place
  let port ←
    match rest with
    | [] | [':'] => some (usualPort secure)
    | ':' :: digits => number? 10 digits
    | _ => none
  let (path, query) := cutTarget (text.dropWhile (!Strict.endsAuthority ·))
  if host.isEmpty || port ≥ portBound then none
  else
    return {
      secure
      userinfo := userinfo.map String.ofList
      host := String.ofList host
      port
      path := String.ofList path
      query := query.map String.ofList }

def ofText? (text : String) : Option Destination := do
  let (scheme, rest) ← cutAt? (· = ':') text.toList
  match rest with
  | '/' :: '/' :: place =>
    match String.ofList (scheme.map asciiLower) with
    | "http" => ofPlace? false place
    | "https" => ofPlace? true place
    | _ => none
  | _ => none

def fullPlaceText (destination : Destination) : String :=
  destination.host ++ ":" ++ toString destination.port

def placeText (destination : Destination) : String :=
  destination.host ++ (if destination.port = 80 then "" else ":" ++ toString destination.port)

def targetText (destination : Destination) : String :=
  destination.path ++
    (match destination.query with
     | some query => "?" ++ query
     | none => "")

def text (destination : Destination) : String :=
  "http://" ++ destination.placeText ++ destination.targetText

def cookiePlace (destination : Destination) : CookiePlace :=
  ⟨asciiLowerText destination.host, destination.path⟩

def authorization? (destination : Destination) : Option String :=
  destination.userinfo.map fun info =>
    let pair := if info.toList.contains ':' then info else info ++ ":"
    "Basic " ++ String.ofList (Base64.encode (Utf8.bytes pair))

def directory (path : String) : List Char := (path.toList.reverse.dropWhile (· ≠ '/')).reverse

def withTarget (destination : Destination) (target : List Char) : Destination :=
  let (path, query) := cutTarget target
  { destination with
    userinfo := none
    path := String.ofList path
    query := query.map String.ofList }

def hasScheme (text : List Char) : Bool :=
  let scheme := text.takeWhile Strict.isSchemeChar
  !scheme.isEmpty && [':', '/', '/'].isPrefixOf (text.drop scheme.length)

/-- The destination that a redirect names: a whole address, one without its scheme, a path, or a
path below the directory of the last one. -/
def redirect? (destination : Destination) (location : String) : Option Destination :=
  match trim location.toList with
  | '/' :: '/' :: place => ofPlace? destination.secure place
  | '/' :: target => some (destination.withTarget ('/' :: target))
  | relative =>
    if hasScheme relative then ofText? (String.ofList relative)
    else some (destination.withTarget (directory destination.path ++ relative))

end Destination
end Courier
