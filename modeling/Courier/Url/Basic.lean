import Courier.Url.Ipv4
import Courier.Url.Ipv6
/-!
URLs by their components. User name, password, path, query and fragment are held as they stand in
the text of a URL, percent-encoded; the port is held only when it is not the usual one of the
scheme.
-/
namespace Courier

inductive Host where
  | domain (name : String)
  | ipv4 (address : Nat)
  | ipv6 (pieces : List Nat)
  deriving DecidableEq, Repr

def Host.text : Host → String
  | .domain name => name
  | .ipv4 address => String.ofList (Ipv4.write address)
  | .ipv6 pieces => String.ofList ('[' :: Ipv6.write pieces ++ [']'])

inductive UrlPath where
  /-- Segments, each after a slash. -/
  | rooted (segments : List String)
  /-- A path that does not start with a slash. -/
  | bare (text : String)
  deriving DecidableEq, Repr

def UrlPath.text : UrlPath → String
  | .rooted segments => String.ofList (segments.flatMap fun segment => '/' :: segment.toList)
  | .bare text => text

structure Url where
  scheme : String
  username : String := ""
  password : Option String := none
  host : Option Host := none
  port : Option Nat := none
  path : UrlPath
  query : Option String := none
  fragment : Option String := none
  deriving DecidableEq, Repr

inductive UrlError where
  | relativeWithoutBase
  | emptyHost
  | invalidPort
  | invalidIpv4
  | invalidIpv6
  | invalidDomain
  | forbiddenHostCharacter
  deriving DecidableEq, Repr

def UrlError.message : UrlError → String
  | .relativeWithoutBase => "relative URL without a base"
  | .emptyHost => "empty host"
  | .invalidPort => "invalid port number"
  | .invalidIpv4 => "invalid IPv4 address"
  | .invalidIpv6 => "invalid IPv6 address"
  | .invalidDomain => "invalid international domain name"
  | .forbiddenHostCharacter => "invalid domain character"

namespace Url

def usualPort? (scheme : String) : Option Nat :=
  match scheme with
  | "http" | "ws" => some 80
  | "https" | "wss" => some 443
  | "ftp" => some 21
  | _ => none

def effectivePort? (url : Url) : Option Nat := url.port <|> usualPort? url.scheme

def hostText? (url : Url) : Option String := url.host.map Host.text

def pathText (url : Url) : String := url.path.text

def target (url : Url) : String :=
  match url.query with
  | some query => url.pathText ++ "?" ++ query
  | none => url.pathText

def userinfo (url : Url) : String :=
  match url.password with
  | some password => url.username ++ ":" ++ password ++ "@"
  | none => if url.username.isEmpty then "" else url.username ++ "@"

def authority (url : Url) : String :=
  match url.host with
  | some host =>
    "//" ++ url.userinfo ++ host.text ++
      (match url.port with
       | some port => ":" ++ toString port
       | none => "")
  | none => ""

def text (url : Url) : String :=
  url.scheme ++ ":" ++ url.authority ++ url.target ++
    (match url.fragment with
     | some fragment => "#" ++ fragment
     | none => "")

end Url
end Courier
