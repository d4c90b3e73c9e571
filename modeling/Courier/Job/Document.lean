import Courier.Job
import Courier.Json.Shape
/-!
Job definitions as JSON documents. Only the URL must be given; unknown fields are passed over, and
the fields may also be given as an array in their order.
-/
namespace Courier

def Field.of (name : String) (required : Bool) (decode : Reading → Except DecodeError β)
    (set : β → α → α) : Field α :=
  { name, required, decode := fun _ reading => (decode reading).map set }

def Field.by (name : String) (decode : Source → Reading → Except DecodeError β)
    (set : β → α → α) : Field α :=
  { name, required := false, decode := fun source reading => (decode source reading).map set }

namespace Pair

def shape : Shape Pair where
  name := "NameValuePair"
  start := ⟨"", ""⟩
  fields := [
    .of "name" true (Decode.string "a string") fun name pair => { pair with name },
    .of "value" true (Decode.string "a string") fun value pair => { pair with value }]

def decode (source : Source) (reading : Reading) : Except DecodeError Pair :=
  shape.decode source reading

def decodeList (source : Source) (reading : Reading) : Except DecodeError (List Pair) :=
  Decode.list (decode source) reading

def toJson (pair : Pair) : Json := .object [("name", .string pair.name), ("value", .string pair.value)]

end Pair

namespace LoginStep

def shape : Shape LoginStep where
  name := "RequestAction"
  start := { url := "" }
  fields := [
    .of "url" true (Decode.string "a string") fun url step => { step with url },
    .by "method" (Decode.variant · Method.named) fun method step => { step with method },
    .by "params" Pair.decodeList fun params step => { step with params }]

def decode (source : Source) (reading : Reading) : Except DecodeError LoginStep :=
  shape.decode source reading

def toJson (step : LoginStep) : Json :=
  .object [
    ("url", .string step.url),
    ("method", .string step.method.name),
    ("params", .array (step.params.map Pair.toJson))]

end LoginStep

namespace Job

def shape : Shape Job where
  name := "RequestSpec"
  start := { url := "" }
  fields := [
    .of "url" true (Decode.string "a string") fun url job => { job with url },
    .by "method" (Decode.variant · Method.named) fun method job => { job with method },
    .by "content_type" (Decode.variant · MediaType.named) fun contentType job =>
      { job with contentType },
    .by "accept_type" (Decode.variant · MediaType.named) fun acceptType job =>
      { job with acceptType },
    .by "custom_headers" Pair.decodeList fun headers job => { job with headers },
    .by "body_params" Pair.decodeList fun params job => { job with params },
    .of "timeout_secs" false Decode.natural fun timeoutSeconds job => { job with timeoutSeconds },
    .of "authentication_key" false (Decode.optional (Decode.string "a string"))
      fun authenticationKey job => { job with authenticationKey },
    .of "valid_response_codes" false (Decode.string "a string") fun acceptedCodes job =>
      { job with acceptedCodes },
    .of "valid_response_content" false (Decode.optional (Decode.string "a string"))
      fun requiredContent job => { job with requiredContent },
    .of "console_log_response_body" false Decode.bool fun logBody job => { job with logBody },
    .of "capture_body" false Decode.bool fun captureBody job => { job with captureBody },
    .of "output_file" false (Decode.optional (Decode.string "path string"))
      fun outputFile job => { job with outputFile },
    .of "max_body_bytes" false Decode.natural fun maxBodyBytes job => { job with maxBodyBytes }]

def decode (source : Source) (reading : Reading) : Except DecodeError Job :=
  shape.decode source reading

def toJson (job : Job) : Json :=
  .object [
    ("url", .string job.url),
    ("method", .string job.method.name),
    ("content_type", .string job.contentType.name),
    ("accept_type", .string job.acceptType.name),
    ("custom_headers", .array (job.headers.map Pair.toJson)),
    ("body_params", .array (job.params.map Pair.toJson)),
    ("timeout_secs", .nat job.timeoutSeconds),
    ("authentication_key", .ofText? job.authenticationKey),
    ("valid_response_codes", .string job.acceptedCodes),
    ("valid_response_content", .ofText? job.requiredContent),
    ("console_log_response_body", .bool job.logBody),
    ("capture_body", .bool job.captureBody),
    ("output_file", .ofText? job.outputFile),
    ("max_body_bytes", .nat job.maxBodyBytes)]

end Job
end Courier
