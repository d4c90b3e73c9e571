import Courier.Text.Ascii
/-!
Request methods and media types. Parameters of a request travel in the body for some methods and
in the query for the others; a media type that is not set means no header at all.
-/
namespace Courier

inductive Method where
  | get | post | put | delete | head | patch | options
  deriving DecidableEq, Repr

namespace Method

def name : Method → String
  | .get => "GET"
  | .post => "POST"
  | .put => "PUT"
  | .delete => "DELETE"
  | .head => "HEAD"
  | .patch => "PATCH"
  | .options => "OPTIONS"

def label : Method → String
  | .get => "Get"
  | .post => "Post"
  | .put => "Put"
  | .delete => "Delete"
  | .head => "Head"
  | .patch => "Patch"
  | .options => "Options"

def sendsBody : Method → Bool
  | .post | .put | .patch => true
  | _ => false

def named : List (String × Method) :=
  [.get, .post, .put, .delete, .head, .patch, .options].map fun method => (method.name, method)

end Method

inductive MediaType where
  | notSet
  | html
  | plain
  | json
  | jsonUtf8
  | tar
  | zip
  | octets
  | form
  deriving DecidableEq, Repr

namespace MediaType

def value? : MediaType → Option String
  | .notSet => none
  | .html => some "text/html"
  | .plain => some "text/plain"
  | .json => some "application/json"
  | .jsonUtf8 => some "application/json; charset=UTF-8"
  | .tar => some "application/x-tar"
  | .zip => some "application/zip"
  | .octets => some "application/octet-stream"
  | .form => some "application/x-www-form-urlencoded"

def name : MediaType → String
  | .notSet => "NOT_SET"
  | .html => "TEXT_HTML"
  | .plain => "TEXT_PLAIN"
  | .json => "APPLICATION_JSON"
  | .jsonUtf8 => "APPLICATION_JSON_UTF8"
  | .tar => "APPLICATION_TAR"
  | .zip => "APPLICATION_ZIP"
  | .octets => "APPLICATION_OCTETSTREAM"
  | .form => "APPLICATION_FORM"

def isSet (media : MediaType) : Bool := media != .notSet

def text (media : MediaType) : String := media.value?.getD media.name

def named : List (String × MediaType) :=
  [.notSet, .html, .plain, .json, .jsonUtf8, .tar, .zip, .octets, .form].map fun media =>
    (media.name, media)

end MediaType
end Courier
