import Courier.Failure
/-!
What counts as success: the status is in one of the accepted ranges, and the body contains the
required text as it stands.
-/
namespace Courier.Validation

def checkStatus (accepted : RangeSet) (status : Nat) : Except ValidationError StatusRange :=
  match accepted.matching? status with
  | some range => .ok range
  | none => .error (.status status accepted)

def requirement? (required : Option String) : Option String := required.filter (!·.isEmpty)

def checkContent (required : Option String) (content : String) : Except ValidationError Unit :=
  match requirement? required with
  | none => .ok ()
  | some sought =>
    if occursIn sought.toList content.toList then .ok ()
    else .error (.content content.length sought)

end Courier.Validation
