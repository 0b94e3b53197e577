import SafetyConfirmation.Recording.Keys
import SafetyConfirmation.Response.Row

/-!
# The RecordingRelocator lambda

One run for the S3 event of a Connect-native recording: find the Response row that carries the contact, derive the key
of the design from the row, copy the recording there and delete the original.
-/

namespace SafetyConfirmation

namespace RecordingRelocator

open KeyedStore Checks Recording

/-- A Response row with its `cycleId` and `employeeId`. -/
abbrev Row := (String × String) × Response

/-! ### Input -/

def requireBlock (message key : String) : Option Value → Except PyError Value
  | some (.dict fields) =>
    match fields.lookup key with
    | some v => if v.truthy then .ok v else .error (.valueError message)
    | none => .error (.valueError message)
  | _ => .error (.valueError message)

def parseEvent : Value → Except PyError (Value × Value)
  | .dict fields =>
    match fields.lookup "detail" with
    | some (.dict detail) => do
      let name ← requireBlock "event.detail.bucket.name is required" "name" (detail.lookup "bucket")
      let key ← requireBlock "event.detail.object.key is required" "key" (detail.lookup "object")
      return (name, key)
    | _ => .error (.valueError "event.detail must be a JSON object")
  | _ => .error (.valueError "event must be a JSON object")

/-- A string where the code goes on to use one: `name` is the error that anything else meets there. -/
def requireStr (name : String) : Value → Except PyError String
  | .str s => .ok s
  | _ => .error (.other name)

theorem requireStr_eq_ok {name s : String} {v : Value} (h : requireStr name v = .ok s) : v = .str s := by
  cases v with
  | str t =>
    cases h
    rfl
  | _ => cases h

/-! ### The index -/

def maxGsiAttempts : Nat := 3

def retryableDdbErrorCodes : List String := ["ThrottlingException", "ProvisionedThroughputExceededException"]

def gsiLookupExhaustedError : PyError := .other "_GsiLookupExhaustedError"

/-- The loop of `_lookup_response_by_contact_id`, with `left` tries to go from `tryIdx` on. A query answers with a row,
with none, or with the code of a `ClientError`. -/
def lookupFrom (query : Nat → Except String (Option Row)) (tryIdx : Nat) : Nat → Except PyError Row
  | 0 => .error gsiLookupExhaustedError
  | left + 1 =>
    match query tryIdx with
    | .error code =>
      if retryableDdbErrorCodes.contains code then lookupFrom query (tryIdx + 1) left else .error (.clientError code)
    | .ok none => lookupFrom query (tryIdx + 1) left
    | .ok (some row) => .ok row

def lookupResponseByContactId (query : Nat → Except String (Option Row)) : Except PyError Row :=
  lookupFrom query 0 maxGsiAttempts

/-- `ContactIdIndex`, as it is once it has caught up with the table. -/
def contactIdIndex (responses : Store (String × String) Response) (contactId : String) : Option Row :=
  responses.rows.find? fun row => row.2.contactId == some contactId

/-! ### The objects -/

variable {β : Type}

/-- CopyObject, which fails where the source is gone, and DeleteObject, which does not. -/
def copyAndDelete (objects : Store (String × String) β) (bucket sourceKey targetKey : String) :
    Except PyError (Store (String × String) β) :=
  match objects.lookup (bucket, sourceKey) with
  | some object => .ok ((objects.set (bucket, targetKey) (some object)).set (bucket, sourceKey) none)
  | none => .error (.clientError "NoSuchKey")

theorem isSome_of_copyAndDelete {objects objects' : Store (String × String) β} {bucket sourceKey targetKey : String}
    (h : copyAndDelete objects bucket sourceKey targetKey = .ok objects') :
    (objects.lookup (bucket, sourceKey)).isSome = true := by
  cases hobject : objects.lookup (bucket, sourceKey) with
  | none =>
    rw [copyAndDelete, hobject] at h
    cases h
  | some object => rfl

/-- What the lambda returns. -/
structure Relocation where
  contactId : String
  cycleId : String
  employeeId : String
  seq : Int
  sourceKey : String
  targetKey : String
  deriving DecidableEq

def lambdaHandler (connectRecordingsPrefix : String) (query : String → Nat → Except String (Option Row))
    (objects : Store (String × String) β) (event : Value) :
    Except PyError (Relocation × Store (String × String) β) := do
  let (bucket, sourceKey) ← parseEvent event
  let sourceKey ← requireStr "AttributeError" sourceKey
  require (connectRecordingsPrefix.toList <+: sourceKey.toList) (.valueError
    ("recording key does not start with CONNECT_RECORDINGS_PREFIX='" ++ connectRecordingsPrefix ++ "': key=")
    (some (.str sourceKey)))
  match parseConnectNativeKey sourceKey with
  | none => .error (.valueError "recording key did not match Connect-native schema: key=" (some (.str sourceKey)))
  | some info => do
    let ((cycleId, employeeId), row) ← lookupResponseByContactId (query info.contactId)
    require (cycleId ≠ "") (.valueError "Response row missing cycleId; contactId=" (some (.str info.contactId)))
    require (employeeId ≠ "") (.valueError "Response row missing employeeId; contactId=" (some (.str info.contactId)))
    match row.callAttempts with
    | none => .error (.valueError "Response row missing callAttempts; contactId=" (some (.str info.contactId)))
    | some seq => do
      let targetKey ← deriveTargetOutboundKey cycleId employeeId seq
      let bucket ← requireStr "ParamValidationError" bucket
      let objects ← copyAndDelete objects bucket sourceKey targetKey
      return ({ contactId := info.contactId, cycleId, employeeId, seq, sourceKey, targetKey }, objects)

/-! ### What a run does -/

/-- The event of S3 for an object. -/
def objectCreated (bucket key : String) : Value :=
  .dict [("detail", .dict [("bucket", .dict [("name", .str bucket)]), ("object", .dict [("key", .str key)])])]

theorem parseEvent_objectCreated {bucket key : String} (hbucket : bucket ≠ "") (hkey : key ≠ "") :
    parseEvent (objectCreated bucket key) = .ok (.str bucket, .str key) := by
  have hname : (Value.str bucket).truthy = true := bne_iff_ne.2 hbucket
  have hobject : (Value.str key).truthy = true := bne_iff_ne.2 hkey
  simp [parseEvent, objectCreated, requireBlock, List.lookup_cons, hname, hobject]

theorem ne_empty_of_parse {key : String} {info : ConnectNativeKeyInfo} (h : parseConnectNativeKey key = some info) :
    key ≠ "" := by
  rintro rfl
  cases h

theorem lookup_of_contactIdIndex {responses : Store (String × String) Response} {contactId : String} {entry : Row}
    (h : contactIdIndex responses contactId = some entry) :
    responses.lookup entry.1 = some entry.2 ∧ entry.2.contactId = some contactId := by
  have hcontact : (entry.2.contactId == some contactId) = true :=
    List.find?_some (p := fun row : Row => row.2.contactId == some contactId) h
  exact ⟨Store.mem_rows.1 (List.mem_of_find?_eq_some h), beq_iff_eq.1 hcontact⟩

/-- The index finds the row that carries the contact when no other row does. -/
theorem contactIdIndex_eq_some {responses : Store (String × String) Response} {contactId : String} {key : String × String}
    {row : Response} (hrow : responses.lookup key = some row) (hcontact : row.contactId = some contactId)
    (honly : ∀ key' row', responses.lookup key' = some row' → row'.contactId = some contactId → key' = key) :
    contactIdIndex responses contactId = some (key, row) := by
  cases hfound : contactIdIndex responses contactId with
  | none =>
    have hnot := List.find?_eq_none.1 hfound (key, row) (Store.mem_rows.2 hrow)
    exact absurd (beq_iff_eq.2 hcontact) hnot
  | some entry =>
    obtain ⟨key', row'⟩ := entry
    obtain ⟨hrow', hcontact'⟩ := lookup_of_contactIdIndex hfound
    have hkey := honly key' row' hrow' hcontact'
    subst key'
    rw [hrow] at hrow'
    cases hrow'
    rfl

/-- The queries of a run that finds the index as it is. -/
def caughtUp (responses : Store (String × String) Response) (contactId : String) (_tryIdx : Nat) :
    Except String (Option Row) := .ok (contactIdIndex responses contactId)

theorem lookup_caughtUp_of_some {responses : Store (String × String) Response} {contactId : String} {row : Row}
    (h : contactIdIndex responses contactId = some row) :
    lookupResponseByContactId (caughtUp responses contactId) = .ok row := by
  rw [lookupResponseByContactId, maxGsiAttempts, lookupFrom, caughtUp, h]

theorem lookup_caughtUp_eq_ok {responses : Store (String × String) Response} {contactId : String} {row : Row}
    (h : lookupResponseByContactId (caughtUp responses contactId) = .ok row) :
    contactIdIndex responses contactId = some row := by
  cases hfound : contactIdIndex responses contactId with
  | none =>
    rw [lookupResponseByContactId, maxGsiAttempts] at h
    simp only [lookupFrom, caughtUp, hfound] at h
    cases h
  | some entry =>
    rw [lookup_caughtUp_of_some hfound] at h
    cases h
    rfl

variable {connectRecordingsPrefix bucket key : String} {responses : Store (String × String) Response}
  {objects : Store (String × String) β} {info : ConnectNativeKeyInfo}

/-- A run on the row that carries the contact moves the recording to the key of that row's `callAttempts`. -/
theorem lambdaHandler_eq_ok {cycleId employeeId : String} {row : Response} {seq : Nat} {object : β} (hbucket : bucket ≠ "")
    (hstarts : connectRecordingsPrefix.toList <+: key.toList) (hparse : parseConnectNativeKey key = some info)
    (hindex : contactIdIndex responses info.contactId = some ((cycleId, employeeId), row))
    (hcycle : IsSegment cycleId) (hemployee : IsSegment employeeId) (hattempts : row.callAttempts = some seq)
    (hobject : objects.lookup (bucket, key) = some object) :
    lambdaHandler connectRecordingsPrefix (caughtUp responses) objects (objectCreated bucket key) = .ok (
      { contactId := info.contactId, cycleId, employeeId, seq, sourceKey := key
        targetKey := outboundKey cycleId employeeId (toString seq) },
      (objects.set (bucket, outboundKey cycleId employeeId (toString seq)) (some object)).set (bucket, key) none) := by
  rw [lambdaHandler, parseEvent_objectCreated hbucket (ne_empty_of_parse hparse), ok_bind]
  simp only [requireStr, ok_bind, require_of hstarts, hparse, lookup_caughtUp_of_some hindex, require_of hcycle.1,
    require_of hemployee.1, hattempts, deriveTargetOutboundKey_eq_ok.2 ⟨hcycle, hemployee, rfl⟩, copyAndDelete, hobject]
  rfl

/-- What a run that succeeds has read and done. -/
theorem exists_of_lambdaHandler {query : String → Nat → Except String (Option Row)} {event : Value} {relocation : Relocation}
    {objects' : Store (String × String) β}
    (h : lambdaHandler connectRecordingsPrefix query objects event = .ok (relocation, objects')) :
    ∃ bucket sourceKey info cycleId employeeId row seq targetKey,
      parseEvent event = .ok (.str bucket, .str sourceKey) ∧ connectRecordingsPrefix.toList <+: sourceKey.toList ∧
      parseConnectNativeKey sourceKey = some info ∧
      lookupResponseByContactId (query info.contactId) = .ok ((cycleId, employeeId), row) ∧
      row.callAttempts = some seq ∧ deriveTargetOutboundKey cycleId employeeId seq = .ok targetKey ∧
      copyAndDelete objects bucket sourceKey targetKey = .ok objects' ∧
      relocation = { contactId := info.contactId, cycleId, employeeId, seq, sourceKey, targetKey } := by
  rw [lambdaHandler] at h
  obtain ⟨⟨name, source⟩, hevent, h⟩ := bind_eq_ok.1 h
  obtain ⟨sourceKey, hsource, h⟩ := bind_eq_ok.1 h
  obtain ⟨_, hstarts, h⟩ := bind_eq_ok.1 h
  cases hparse : parseConnectNativeKey sourceKey with
  | none =>
    simp only [hparse] at h
    cases h
  | some info =>
    simp only [hparse] at h
    obtain ⟨⟨⟨cycleId, employeeId⟩, row⟩, hlookup, h⟩ := bind_eq_ok.1 h
    -- An empty key of the row is refused again where the target is derived.
    obtain ⟨_, -, h⟩ := bind_eq_ok.1 h
    obtain ⟨_, -, h⟩ := bind_eq_ok.1 h
    cases hattempts : row.callAttempts with
    | none =>
      simp only [hattempts] at h
      cases h
    | some seq =>
      simp only [hattempts] at h
      obtain ⟨targetKey, htarget, h⟩ := bind_eq_ok.1 h
      obtain ⟨bucket, hbucket, h⟩ := bind_eq_ok.1 h
      obtain ⟨objects'', hcopy, h⟩ := bind_eq_ok.1 h
      cases h
      cases requireStr_eq_ok hsource
      cases requireStr_eq_ok hbucket
      exact ⟨bucket, sourceKey, info, cycleId, employeeId, row, seq, targetKey, hevent, require_eq_ok.1 hstarts, hparse,
        hlookup, hattempts, htarget, hcopy, rfl⟩

theorem row_of_lambdaHandler {relocation : Relocation} {objects' : Store (String × String) β} (hbucket : bucket ≠ "")
    (hparse : parseConnectNativeKey key = some info)
    (h : lambdaHandler connectRecordingsPrefix (caughtUp responses) objects (objectCreated bucket key) =
      .ok (relocation, objects')) :
    ∃ call row seq, responses.lookup call = some row ∧ row.contactId = some info.contactId ∧
      row.callAttempts = some seq ∧ relocation.targetKey = outboundKey call.1 call.2 (toString seq) ∧
      (objects.lookup (bucket, key)).isSome = true := by
  obtain ⟨bucket', sourceKey, info', cycleId, employeeId, row, seq, targetKey, hevent, -, hparse', hlookup, hattempts,
    htarget, hcopy, rfl⟩ := exists_of_lambdaHandler h
  rw [parseEvent_objectCreated hbucket (ne_empty_of_parse hparse)] at hevent
  cases hevent
  rw [hparse] at hparse'
  cases hparse'
  obtain ⟨hrow, hcontact⟩ := lookup_of_contactIdIndex (lookup_caughtUp_eq_ok hlookup)
  exact ⟨(cycleId, employeeId), row, seq, hrow, hcontact, hattempts, (deriveTargetOutboundKey_eq_ok.1 htarget).2.2,
    isSome_of_copyAndDelete hcopy⟩

end RecordingRelocator

end SafetyConfirmation
