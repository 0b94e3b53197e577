import SafetyConfirmation.Lib.Pattern
import SafetyConfirmation.Data.Value

/-!
# The administrator role

`is_authorized` on the claims of a token, and how the handlers get at the claims of an event.
-/

namespace SafetyConfirmation

namespace Auth

def administratorGroup : String := "Administrator"

def cognitoGroupsClaim : String := "cognito:groups"

/-- The groups of a claim: the words of a string, or the strings of a list. -/
def groupsOf : Value → List String
  | .str raw => (Pattern.words raw.toList).map String.ofList
  | .list items => items.filterMap Value.asStr?
  | _ => []

def isAuthorized (claims requiredGroup : Value) : Bool :=
  match requiredGroup with
  | .str group =>
    group != "" && match claims with
      | .dict items => (groupsOf ((items.lookup cognitoGroupsClaim).getD .none)).contains group
      | _ => false
  | _ => false

/-- `d.get(key, {})`, which raises where `d` is no dictionary. -/
def getDict (v : Value) (key : String) : Except PyError Value :=
  match v with
  | .dict items => .ok ((items.lookup key).getD (.dict []))
  | _ => .error (.other "AttributeError")

/-- `event.get("requestContext", {}).get("authorizer", {}).get("claims", {})`. -/
def claimsOf (requestContext : Option Value) : Except PyError Value := do
  let authorizer ← getDict (requestContext.getD (.dict [])) "authorizer"
  getDict authorizer "claims"

/-- `_principal`: the subject goes to the audit log only. -/
def principal (requestContext : Option Value) : Except PyError Value := do
  let claims ← claimsOf requestContext
  match claims with
  | .dict items => return (items.lookup "sub").getD (.str "<unknown>")
  | _ => .error (.other "AttributeError")

/-- `is_authorized(claims, ADMINISTRATOR_GROUP)` on the claims of an event. -/
def isAdministrator (requestContext : Option Value) : Bool :=
  match claimsOf requestContext with
  | .ok claims => isAuthorized claims (.str administratorGroup)
  | .error _ => false

example : isAuthorized (.dict [("cognito:groups", .str " Staff  Administrator ")]) (.str administratorGroup) = true := by decide

end Auth

end SafetyConfirmation
