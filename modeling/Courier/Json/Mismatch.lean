import Courier.Json.Reading
import Courier.Text.Quoted
import Courier.Text.Split
/-!
Why a JSON value has not the shape that was wanted of it. A mismatch is named by its cause; the
wording of each cause is in one place.
-/
namespace Courier

inductive Found where
  | null
  | bool (value : Bool)
  | number (value : Json.Number)
  | string (value : String)
  | sequence
  | map
  deriving DecidableEq, Repr

inductive Mismatch where
  | wrongType (found : Found) (expected : String)
  | wrongValue (found : Found) (expected : String)
  | wrongLength (length : Nat) (expected : String)
  | missingField (name : String)
  | duplicateField (name : String)
  | unknownVariant (name : String) (known : List String)
  deriving DecidableEq, Repr

inductive DecodeError where
  | flaw (flaw : Flaw)
  | mismatch (mismatch : Mismatch)
  deriving DecidableEq, Repr

def ticked (text : String) : String := "\x60" ++ text ++ "\x60"

def Found.describe : Found → String
  | .null => "null"
  | .bool value => "boolean " ++ ticked (if value then "true" else "false")
  | .number (.real minus digits exponent) =>
    "floating point " ++ ticked (String.ofList (Json.Number.real minus digits exponent).text)
  | .number value => "integer " ++ ticked (String.ofList value.text)
  | .string value => "string " ++ Quoted.text value
  | .sequence => "sequence"
  | .map => "map"

def describeKnown : List String → String
  | [] => "there are no variants"
  | [only] => "expected " ++ ticked only
  | [one, other] => "expected " ++ ticked one ++ " or " ++ ticked other
  | known => "expected one of " ++ joinTexts ", " (known.map ticked)

def Mismatch.message : Mismatch → String
  | .wrongType found expected => "invalid type: " ++ found.describe ++ ", expected " ++ expected
  | .wrongValue found expected => "invalid value: " ++ found.describe ++ ", expected " ++ expected
  | .wrongLength length expected => "invalid length " ++ toString length ++ ", expected " ++ expected
  | .missingField name => "missing field " ++ ticked name
  | .duplicateField name => "duplicate field " ++ ticked name
  | .unknownVariant name known => "unknown variant " ++ ticked name ++ ", " ++ describeKnown known

def Reading.unlike (expected : String) : Reading → DecodeError
  | .null => .mismatch (.wrongType .null expected)
  | .bool value => .mismatch (.wrongType (.bool value) expected)
  | .number (.ok value) => .mismatch (.wrongType (.number value) expected)
  | .number (.error flaw) => .flaw flaw
  | .string (.ok value) => .mismatch (.wrongType (.string value) expected)
  | .string (.error flaw) => .flaw flaw
  | .array .. => .mismatch (.wrongType .sequence expected)
  | .object .. => .mismatch (.wrongType .map expected)
  | .absent => .flaw .ended
  | .brokenString whenRead _ => .flaw whenRead
  | .broken whenRead _ => .flaw whenRead

end Courier
