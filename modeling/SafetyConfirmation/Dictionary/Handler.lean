import SafetyConfirmation.Auth.Authorization
import SafetyConfirmation.Data.Http
import SafetyConfirmation.Dictionary.Table

/-!
# The DictionaryApi lambda

The checks of a request and its run from the first DynamoDB call to the last with nothing in between. A `ValueError`
is answered 400 and a failed condition 409, whichever call it came from.
-/

namespace SafetyConfirmation

namespace Dictionary

open KeyedStore

structure Request where
  httpMethod : String
  resource : String
  pathParameters : Value := .dict []
  body : RawBody := .missing

/-- The checks `_create_keyword`, `_update_keyword` and `_delete_keyword` begin with: the keyword comes from `source`,
and the two texts differ between them. -/
def parseWrite (op : Op) (source body : Value) (keywordMessage versionMessage : String) :
    Except PyError (KeywordWrite × ExpectedVersion) :=
  match ((source.get? "category").bind Value.asStr?).bind Category.ofName? with
  | none => .error (.valueError "category must be one of ['INJURED', 'SAFE', 'UNAVAILABLE']")
  | some category =>
    match (source.get? "keyword").bind Value.asStr? with
    | none => .error (.valueError keywordMessage)
    | some keyword =>
      if hkeyword : keyword = "" then .error (.valueError keywordMessage)
      else
        match (body.get? "expectedVersion").bind ExpectedVersion.ofValue? with
        | none => .error (.valueError versionMessage)
        | some expected => .ok ({ op, category, keyword, keyword_ne := hkeyword }, expected)

def parseCreate (request : Request) : Except PyError (KeywordWrite × ExpectedVersion) := do
  let body ← parseBody request.body
  parseWrite .create body body "keyword must be a non-empty string" "expectedVersion must be an integer"

def parseItem (op : Op) (request : Request) : Except PyError (KeywordWrite × ExpectedVersion) := do
  let body ← parseBody request.body
  parseWrite op request.pathParameters body "keyword path parameter must be a non-empty string"
    "expectedVersion must be an integer in the body"

/-- The write a request asks for, `none` for the routes that write nothing. -/
def parseRequest (request : Request) : Option (Except PyError (KeywordWrite × ExpectedVersion)) :=
  match request.httpMethod, request.resource with
  | "POST", "/keyword-dictionary" => some (parseCreate request)
  | "PATCH", "/keyword-dictionary/{category}/{keyword}" => some (parseItem .update request)
  | "DELETE", "/keyword-dictionary/{category}/{keyword}" => some (parseItem .delete request)
  | _, _ => none

/-! ### Answers -/

def conflict : HttpResponse :=
  .error 409 "Concurrent modification detected; refresh the dictionary version and retry"

def keywordNotFound (key : Key) : HttpResponse := .error 400 ("Keyword not found: " ++ categoryKeyword key)

def success (w : KeywordWrite) (newVersion : Int) : HttpResponse where
  statusCode := if w.op = .create then 201 else 200
  body := .dict [("category", .str w.category.name), ("keyword", .str w.keyword), ("version", .int newVersion)]

def listAll (dictionary : Store Key Row) : Value :=
  .dict ([Category.safe, .injured, .unavailable].map fun category =>
    (category.name, .list (((scanAllActive dictionary).filter fun key => key.1 == category.name).map fun key =>
      .str key.2)))

def readOnly (request : Request) (dictionary : Store Key Row) : HttpResponse :=
  match request.httpMethod, request.resource with
  | "GET", "/keyword-dictionary" => { statusCode := 200, body := listAll dictionary }
  | "GET", "/keyword-dictionary/version" =>
    { statusCode := 200, body := .dict [("version", .int (currentVersion dictionary))] }
  | method, resource => .error 405 ("Method " ++ method ++ " not allowed on " ++ resource)

/-! ### A request run alone -/

/-- `_create_keyword`, `_update_keyword` and `_delete_keyword` after their checks. -/
def applyWrite (w : KeywordWrite) (expected : ExpectedVersion) (tables : Tables) : HttpResponse × Tables :=
  -- Only PATCH reads the row before it asks for the version.
  if w.op = .update ∧ (tables.dictionary.lookup w.key).isNone then (keywordNotFound w.key, tables)
  else if (incrementVersion expected).condition (tables.dictionary.lookup metaKey) then
    let newVersion := expected.toInt + 1
    let dictionary := tables.dictionary.write metaKey (incrementVersion expected)
    if (w.write newVersion).condition (dictionary.lookup w.key) then
      (success w newVersion,
        writeHistorySnapshot { tables with dictionary := dictionary.write w.key (w.write newVersion) } newVersion)
    else (conflict, { tables with dictionary })
  else (conflict, tables)

def lambdaHandler (request : Request) (tables : Tables) : HttpResponse × Tables :=
  match parseRequest request with
  | some (.ok (w, expected)) => applyWrite w expected tables
  | some (.error e) => (.error 400 e.message, tables)
  | none => (readOnly request tables.dictionary, tables)

/-- The event of a request, whose subject is read before its route. -/
structure Event extends Request where
  requestContext : Option Value := none

def Event.lambdaHandler (event : Event) (tables : Tables) : Except PyError HttpResponse × Tables :=
  match Auth.principal event.requestContext with
  | .error e => (.error e, tables)
  | .ok _ => (.ok (Dictionary.lambdaHandler event.toRequest tables).1, (Dictionary.lambdaHandler event.toRequest tables).2)

def post (keyword : String) (expectedVersion : Value) : Request where
  httpMethod := "POST"
  resource := "/keyword-dictionary"
  body := .json (.dict [("category", .str "SAFE"), ("keyword", .str keyword), ("expectedVersion", expectedVersion)])

end Dictionary

end SafetyConfirmation
