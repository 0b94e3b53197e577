import SafetyConfirmation.Data.Value

/-!
# Requests and responses of the API lambdas

What `_parse_body` makes of the body of an API Gateway event, and the part of a proxy response that differs between
answers.
-/

namespace SafetyConfirmation

/-- The body of an event: absent or empty, no JSON, or a JSON value. -/
inductive RawBody where
  | missing
  | invalid (message : String)
  | json (value : Value)

def parseBody : RawBody → Except PyError Value
  | .missing => .error (.valueError "Request body is required")
  | .invalid message => .error (.valueError ("Invalid JSON body: " ++ message))
  | .json (.dict items) => .ok (.dict items)
  | .json _ => .error (.valueError "Request body must be a JSON object")

structure HttpResponse where
  statusCode : Nat
  body : Value

def HttpResponse.IsClientError (response : HttpResponse) : Prop := 400 ≤ response.statusCode ∧ response.statusCode < 500

def HttpResponse.IsSuccess (response : HttpResponse) : Prop := 200 ≤ response.statusCode ∧ response.statusCode < 300

def HttpResponse.version? (response : HttpResponse) : Option Int := (response.body.get? "version").bind Value.asInt?

def HttpResponse.error (statusCode : Nat) (message : String) : HttpResponse where
  statusCode := statusCode
  body := .dict [("error", .str message)]

end SafetyConfirmation
