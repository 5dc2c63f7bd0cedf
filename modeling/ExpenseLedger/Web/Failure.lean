import ExpenseLedger.Error
import ExpenseLedger.Json.Basic

/-!
# Failures told to clients

Every error reaches a client as a failure with a status, a type and a message. Business rules and
the rules of requests are told as they are. What goes wrong behind the service is told as one of two
fixed messages, whatever its detail.
-/

namespace ExpenseLedger.Web

/-- Why a request has no regular answer. -/
inductive Failure where
  /-- The database failed. -/
  | database (detail : String)
  /-- The database could not be brought up to date. -/
  | migration (detail : String)
  /-- The connection to the remote cache failed. -/
  | remoteCache (detail : String)
  /-- The request breaks a rule. -/
  | validation (detail : String)
  /-- Something that the request names is absent. -/
  | notFound (detail : String)
  /-- The caller may not do this. -/
  | forbidden (detail : String)
  /-- The caller is not known. -/
  | unauthorized
  /-- The deadline of the request passed. -/
  | timeout
  /-- Something else went wrong behind the service. -/
  | internal (detail : String)
deriving DecidableEq

namespace Failure

/-- The failure that an error of the engine becomes. -/
def ofError (e : Error) : Failure :=
  match e.kind with
  | .notFound => notFound e.detail
  | .forbidden => forbidden e.detail
  | .badRequest => validation e.detail
  | .timeout => timeout
  | .storage | .cache | .corrupted => internal e.message

/-- The status of the answer. -/
def status : Failure → Nat
  | database _ | migration _ | remoteCache _ | internal _ => 500
  | validation _ => 400
  | notFound _ => 404
  | forbidden _ => 403
  | unauthorized => 401
  | timeout => 504

/-- The type named in the answer. -/
def type : Failure → String
  | database _ | migration _ => "database_error"
  | remoteCache _ => "cache_error"
  | validation _ => "validation_error"
  | notFound _ => "not_found"
  | forbidden _ => "forbidden"
  | unauthorized => "unauthorized"
  | timeout => "timeout"
  | internal _ => "internal_error"

/-- The whole text of a failure, for those who run the service. -/
def text : Failure → String
  | database d => "Database error: " ++ d
  | migration d => "Migration error: " ++ d
  | remoteCache d => "Redis error: " ++ d
  | validation d => "Validation error: " ++ d
  | notFound d => "Not found: " ++ d
  | forbidden d => "Forbidden: " ++ d
  | unauthorized => "Unauthorized access"
  | timeout => "Request timed out"
  | internal d => "Internal server error: " ++ d

/-- The message told to the client, which hides what goes on behind the service. -/
def message : Failure → String
  | database _ | migration _ | remoteCache _ | internal _ => "Internal server error"
  | f => f.text

/-- The body of the answer. -/
def body (f : Failure) : Json :=
  Json.record [("error", Json.record
    [("code", Json.nat f.status), ("message", Json.text f.message), ("type", Json.text f.type)])]

end Failure

end ExpenseLedger.Web
