import Courier.Capture
import Courier.Files
/-!
Everything that can keep a job from succeeding. Only a validation error still holds the response
that was captured.
-/
namespace Courier

inductive Error where
  | configuration (error : ConfigurationError)
  | stepFailed (failure : StepFailure)
  | transport (error : TransportError)
  | validation (error : ValidationError) (response : Capture)
  | output (path : String) (cause : FileError)
  deriving DecidableEq, Repr

namespace Error

def message : Error → String
  | .configuration error => error.message
  | .stepFailed failure => failure.message
  | .transport error => error.message
  | .validation error _ => error.message
  | .output path cause => "failed to write response to " ++ path ++ ": " ++ cause.message

def response? : Error → Option Capture
  | .validation _ response => some response
  | _ => none

def isTimeout? : Error → Option Bool
  | .transport error => some error.isTimeout
  | _ => none

end Error
end Courier
