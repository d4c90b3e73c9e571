import Courier.Job.Document
/-!
Configured authentications: a user name and password, or a login by form requests. Each has a key
by which jobs refer to it. Passwords are never shown to developers.
-/
namespace Courier

inductive Authentication where
  | password (key username password : String)
  | form (key : String) (steps : List LoginStep)
  deriving DecidableEq, Repr

namespace Authentication

def key : Authentication → String
  | .password key _ _ => key
  | .form key _ => key

/-! ### As shown to a developer -/

def debugRecord (name : String) (fields : List (String × String)) : String :=
  name ++ " \x7b " ++ joinTexts ", " (fields.map fun (name, value) => name ++ ": " ++ value) ++ " \x7d"

def debugList (items : List String) : String := "[" ++ joinTexts ", " items ++ "]"

def debugPair (pair : Pair) : String :=
  debugRecord "NameValuePair" [("name", Quoted.text pair.name), ("value", Quoted.text pair.value)]

def debugStep (step : LoginStep) : String :=
  debugRecord "RequestAction" [("url", Quoted.text step.url), ("method", step.method.label),
    ("params", debugList (step.params.map debugPair))]

def debugText : Authentication → String
  | .password key username _ =>
    "BasicDigest(" ++ debugRecord "BasicDigestAuth" [("key_name", Quoted.text key),
      ("username", Quoted.text username), ("password", Quoted.text "[REDACTED]")] ++ ")"
  | .form key steps =>
    "Form(" ++ debugRecord "FormAuth" [("key_name", Quoted.text key),
      ("actions", debugList (steps.map debugStep))] ++ ")"

/-! ### As documents -/

inductive Kind where
  | password
  | form
  deriving DecidableEq, Repr

def Kind.named : List (String × Kind) := [("basic_digest", .password), ("form", .form)]

def passwordShape : Shape (String × String × String) where
  name := "BasicDigestAuth"
  start := ("", "", "")
  fields := [
    .of "key_name" true (Decode.string "a string") fun key (_, rest) => (key, rest),
    .of "username" true (Decode.string "a string") fun username (key, _, secret) =>
      (key, username, secret),
    .of "password" true (Decode.string "a string") fun secret (key, username, _) =>
      (key, username, secret)]

def formShape : Shape (String × List LoginStep) where
  name := "FormAuth"
  start := ("", [])
  fields := [
    .of "key_name" true (Decode.string "a string") fun key (_, steps) => (key, steps),
    .by "actions" (fun source => Decode.list (LoginStep.decode source)) fun steps (key, _) =>
      (key, steps)]

def ofKept (kind : Kind) (rest : Reading) : Except DecodeError Authentication :=
  match kind with
  | .password => (passwordShape.decode .kept rest).map fun (key, username, secret) =>
    .password key username secret
  | .form => (formShape.decode .kept rest).map fun (key, steps) => .form key steps

def tag : String := "type"

def decodeKind (reading : Reading) : Except DecodeError Kind := do
  Decode.variantNamed Kind.named (← Decode.string "variant identifier" reading)

def keep (depth : Nat) (reading : Reading) : Except DecodeError Unit :=
  match reading.keepFlaw? depth with
  | some flaw => .error (.flaw flaw)
  | none => .ok ()

def splitFields (depth : Nat) (closing : Closing) :
    List (Except Flaw String × Reading) → Option Kind → List (Except Flaw String × Reading) →
    Except DecodeError (Option Kind × List (Except Flaw String × Reading))
  | [], kind, others =>
    match closing.flaw? with
    | some flaw => .error (.flaw flaw)
    | none => .ok (kind, others.reverse)
  | (key, value) :: rest, kind, others => do
    let name ← Decode.key key
    if name = tag then
      if kind.isSome then .error (.mismatch (.duplicateField tag))
      else
        let kind ← decodeKind value
        splitFields depth closing rest (some kind) others
    else
      keep depth value
      splitFields depth closing rest kind ((.ok name, value) :: others)

def splitItems (depth : Nat) (closing : Closing) :
    List Reading → Except DecodeError (Option Kind × List Reading)
  | [] =>
    match closing.flaw? with
    | some flaw => .error (.flaw flaw)
    | none => .ok (none, [])
  | first :: rest => do
    let kind ← decodeKind first
    rest.forM (keep depth)
    match closing.flaw? with
    | some flaw => .error (.flaw flaw)
    | none => return (some kind, rest)

def greatestDepth : Nat := 127

/-- An authentication inside `outer` arrays or objects. Its fields are kept until its kind is known,
wherever the kind stands among them; in an array the kind comes first. -/
def decode (outer : Nat) (reading : Reading) : Except DecodeError Authentication := do
  let depth := greatestDepth - outer - 1
  match reading with
  | .object fields closing =>
    match ← splitFields depth closing fields none [] with
    | (some kind, others) => ofKept kind (.object others .closed)
    | (none, _) => .error (.mismatch (.missingField tag))
  | .array items closing =>
    match ← splitItems depth closing items with
    | (some kind, others) => ofKept kind (.array others .closed)
    | (none, _) => .error (.mismatch (.missingField tag))
  | other => .error (other.unlike "internally tagged enum AuthenticationEntry")

def toJson : Authentication → Json
  | .password key username secret =>
    .object [(tag, .string "basic_digest"), ("key_name", .string key),
      ("username", .string username), ("password", .string secret)]
  | .form key steps =>
    .object [(tag, .string "form"), ("key_name", .string key),
      ("actions", .array (steps.map LoginStep.toJson))]

end Authentication
end Courier
