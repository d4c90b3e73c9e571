import Courier.Json.Mismatch
/-!
Decoding readings into records. A shape lists the fields of a record; an object may name them in
any order, unknown names are passed over, and an array may give them by position. What is
malformed text and what is a wrong shape depends a little on where a reading comes from, so each
decoder is told its source.
-/
namespace Courier

inductive Source where
  /-- JSON text, read from left to right. -/
  | text
  /-- A JSON value. -/
  | value
  /-- A value that was kept whole before its kind was known. -/
  | kept
  deriving DecidableEq, Repr

namespace Decode

def string (expected : String) : Reading → Except DecodeError String
  | .string (.ok value) => .ok value
  | other => .error (other.unlike expected)

def bool : Reading → Except DecodeError Bool
  | .bool value => .ok value
  | other => .error (other.unlike "a boolean")

def natural : Reading → Except DecodeError Nat
  | .number (.ok (.natural n)) => .ok n
  | .number (.ok (.negative n)) => .error (.mismatch (.wrongValue (.number (.negative n)) "u64"))
  | other => .error (other.unlike "u64")

def optional (decode : Reading → Except DecodeError α) : Reading → Except DecodeError (Option α)
  | .null => .ok none
  | other => (decode other).map some

def list (decode : Reading → Except DecodeError α) : Reading → Except DecodeError (List α)
  | .array items closing => do
    let values ← items.mapM decode
    match closing.flaw? with
    | some flaw => .error (.flaw flaw)
    | none => .ok values
  | other => .error (other.unlike "a sequence")

def unit (source : Source) : Reading → Except DecodeError Unit
  | .null => .ok ()
  | .object [] .closed =>
    if source = .kept then .ok () else .error (.mismatch (.wrongType .map "unit"))
  | other => .error (other.unlike "unit")

def variantNamed (known : List (String × α)) (name : String) : Except DecodeError α :=
  match known.find? fun (key, _) => key == name with
  | some (_, value) => .ok value
  | none => .error (.mismatch (.unknownVariant name (known.map Prod.fst)))

def key (read : Except Flaw String) : Except DecodeError String := read.mapError .flaw

def variantInText (known : List (String × α)) : Reading → Except DecodeError α
  | .string (.ok name) => variantNamed known name
  | .string (.error flaw) => .error (.flaw flaw)
  | .brokenString flaw _ => .error (.flaw flaw)
  | .absent => .error (.flaw .ended)
  | .object [] (.missing flaw) => .error (.flaw flaw)
  | .object ((name, payload) :: more) closing => do
    let value ← variantNamed known (← key name)
    unit .text payload
    match more, closing with
    | [], .closed => .ok value
    | [], .missing flaw => .error (.flaw flaw)
    | _, _ => .error (.flaw .malformed)
  | _ => .error (.flaw .malformed)

def variantInValue (source : Source) (known : List (String × α)) : Reading → Except DecodeError α
  | .string (.ok name) => variantNamed known name
  | .object [(name, payload)] _ => do
    let value ← variantNamed known (← key name)
    unit source payload
    return value
  | .object _ _ => .error (.mismatch (.wrongValue .map "map with a single key"))
  | other => .error (other.unlike "string or map")

def variant (source : Source) (known : List (String × α)) (reading : Reading) :
    Except DecodeError α :=
  match source with
  | .text => variantInText known reading
  | .value => variantInValue .value known reading
  | .kept => variantInValue .kept known reading

end Decode

structure Field (α : Type) where
  name : String
  required : Bool
  decode : Source → Reading → Except DecodeError (α → α)

structure Shape (α : Type) where
  name : String
  start : α
  fields : List (Field α)

namespace Shape

def decodeFields (shape : Shape α) (source : Source) (closing : Closing) :
    List (Except Flaw String × Reading) → List String → α → Except DecodeError (List String × α)
  | [], seen, record =>
    match closing.flaw? with
    | some flaw => .error (.flaw flaw)
    | none => .ok (seen, record)
  | (key, reading) :: rest, seen, record => do
    let name ← Decode.key key
    match shape.fields.find? fun field => field.name == name with
    | none =>
      match reading.passFlaw? with
      | some flaw => .error (.flaw flaw)
      | none => decodeFields shape source closing rest seen record
    | some field =>
      if seen.contains name then .error (.mismatch (.duplicateField name))
      else
        let change ← field.decode source reading
        decodeFields shape source closing rest (name :: seen) (change record)

def surplus (source : Source) (count : Nat) (items : List Reading) (closing : Closing) :
    Option DecodeError :=
  match source, items, closing with
  | _, [], .closed => none
  | _, [], .missing flaw => some (.flaw flaw)
  | _, [], .dangling _ => some (.flaw .malformed)
  | .text, _ :: _, _ => some (.flaw .malformed)
  | .value, _ :: _, _ =>
    some (.mismatch (.wrongLength (count + items.length) "fewer elements in array"))
  | .kept, _ :: _, _ =>
    some (.mismatch (.wrongLength (count + items.length)
      (toString count ++ (if count = 1 then " element" else " elements") ++ " in sequence")))

def decodeItems (shape : Shape α) (source : Source) (closing : Closing) :
    List (Field α) → List Reading → Nat → α → Except DecodeError α
  | [], items, count, record =>
    match surplus source count items closing with
    | some error => .error error
    | none => .ok record
  | field :: fields, item :: items, count, record => do
    let change ← field.decode source item
    decodeItems shape source closing fields items (count + 1) (change record)
  | field :: fields, [], count, record =>
    match closing.flaw? with
    | some flaw => .error (.flaw flaw)
    | none =>
      if field.required then
        .error (.mismatch (.wrongLength count ("struct " ++ shape.name ++ " with " ++
          toString shape.fields.length ++ " elements")))
      else decodeItems shape source closing fields [] count record

def decode (shape : Shape α) (source : Source) : Reading → Except DecodeError α
  | .object fields closing => do
    let (seen, record) ← shape.decodeFields source closing fields [] shape.start
    match shape.fields.find? fun field => field.required && !seen.contains field.name with
    | some field => .error (.mismatch (.missingField field.name))
    | none => .ok record
  | .array items closing => shape.decodeItems source closing shape.fields items 0 shape.start
  | other => .error (other.unlike ("struct " ++ shape.name))

end Shape

def decodeText (decode : Source → Reading → Except DecodeError α) (text : String) :
    Except DecodeError α := do
  let (reading, after) := Reading.ofText text.toList
  let value ← decode .text reading
  match after with
  | some flaw => .error (.flaw flaw)
  | none => .ok value

def decodeValue (decode : Source → Reading → Except DecodeError α) (json : Json) :
    Except DecodeError α := decode .value (Reading.ofJson json)

end Courier
