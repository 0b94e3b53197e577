import Mathlib.Data.List.Sort
import SafetyConfirmation.Data.Http
import SafetyConfirmation.Employee.Validate
import SafetyConfirmation.Lib.KeyedStore

/-!
# The lockout of an account

`is_locked`, and the three lambdas at the Lockout table: AuthFailureReporter appends the time of a failure, AuthPreAuth
reads the times before Cognito checks a password, and AuthPostAuth clears them after a login.
-/

namespace SafetyConfirmation

namespace Lockout

open KeyedStore

def defaultThreshold : Nat := 5

def defaultWindowSec : Int := 30 * 60

/-- `xs[-n:]`. -/
def lastOf (n : Nat) (xs : List Int) : List Int := if n = 0 then xs else xs.drop (xs.length - n)

def isLocked (failedAts : List Int) (nowEpochSec : Int) (threshold : Nat) (windowSec : Int) : Bool :=
  if failedAts.length < threshold then false
  else (lastOf threshold (failedAts.insertionSort (· ≤ ·))).all fun t => decide (nowEpochSec - windowSec < t)

/-- A row of the Lockout table. -/
structure Row where
  failedAts : List Int := []
  expireAt : Int
  deriving DecidableEq

abbrev Table := Store String Row

/-- The times in the row of a user, none where there is no row. -/
def failedAts (table : Table) (userIdentifier : String) : List Int := ((table.lookup userIdentifier).map Row.failedAts).getD []

/-! ### AuthFailureReporter -/

structure ReportEvent where
  httpMethod : String
  resource : String
  body : RawBody := .missing

/-- The update of a report, as `list_append(if_not_exists(failedAts, :empty), :ts)`. -/
def recordFailure (nowEpoch : Int) : Write Row where
  update row := some {
    failedAts := (row.map Row.failedAts).getD [] ++ [nowEpoch]
    expireAt := nowEpoch + defaultWindowSec }

def recordedAnswer (recorded : Bool) : HttpResponse where
  statusCode := 202
  body := .dict [("recorded", .bool recorded)]

/-- The identifier that a report names, where it has passed the checks. -/
def ReportEvent.userIdentifier? (event : ReportEvent) : Option String :=
  if event.httpMethod = "POST" ∧ event.resource = "/auth/record-failure" then
    match parseBody event.body with
    | .ok body => ((body.get? "userIdentifier").bind Value.asStr?).filter Employee.emailRe
    | .error _ => none
  else none

/-- `lambda_handler` of AuthFailureReporter. A `ClientError` of the update is answered like an identifier that is none. -/
def reportFailure (table : Table) (nowEpoch : Int) (clientError : Bool) (event : ReportEvent) : HttpResponse × Table :=
  if event.httpMethod ≠ "POST" ∨ event.resource ≠ "/auth/record-failure" then
    (.error 405 ("Method " ++ event.httpMethod ++ " not allowed on " ++ event.resource), table)
  else
    match parseBody event.body with
    | .error e => (.error 400 e.message, table)
    | .ok body =>
      match ((body.get? "userIdentifier").bind Value.asStr?).filter Employee.emailRe with
      | none => (recordedAnswer false, table)
      | some userIdentifier =>
        if clientError then (recordedAnswer false, table)
        else (recordedAnswer true, table.write userIdentifier (recordFailure nowEpoch))

/-! ### The two triggers -/

/-- The event of a Cognito trigger. -/
structure TriggerEvent where
  userName : Value
  userAttributes : List (String × String) := []

def TriggerEvent.userIdentifier (event : TriggerEvent) : Except PyError String :=
  match event.userName with
  | .str userName =>
    if userName = "" then .error (.valueError "event.userName is missing or not a non-empty string") else .ok userName
  | _ => .error (.valueError "event.userName is missing or not a non-empty string")

def permissionError : PyError := .other "PermissionError"

/-- `lambda_handler` of AuthPreAuth, after a GetItem that has not failed: a `ClientError` of it is raised again. -/
def preAuth (table : Table) (nowEpoch : Int) (event : TriggerEvent) : Except PyError TriggerEvent := do
  let userIdentifier ← event.userIdentifier
  if isLocked (failedAts table userIdentifier) nowEpoch defaultThreshold defaultWindowSec then .error permissionError
  else return event

/-- `_clear_lockout`: a row that is not there is not made. -/
def clearLockout (nowEpoch : Int) : Write Row where
  condition row := row.isSome
  update row := row.map fun _ => { failedAts := [], expireAt := nowEpoch - 1 }

/-- `lambda_handler` of AuthPostAuth. -/
def postAuth (table : Table) (nowEpoch : Int) (event : TriggerEvent) : Table :=
  match event.userIdentifier with
  | .ok userIdentifier => table.write userIdentifier (clearLockout nowEpoch)
  | .error _ => table

/-! ### Locked is a matter of how many -/

theorem lastOf_eq_drop {n : Nat} (hn : 0 < n) (xs : List Int) : lastOf n xs = xs.drop (xs.length - n) :=
  if_neg (Nat.pos_iff_ne_zero.1 hn)

/-- The last `n` of a sorted list are above a bound when `n` of its elements are. -/
theorem forall_lastOf_iff {xs : List Int} (hsorted : xs.Pairwise (· ≤ ·)) {n : Nat} (hn : 0 < n) (hlength : n ≤ xs.length)
    (cutoff : Int) : (∀ t ∈ lastOf n xs, cutoff < t) ↔ n ≤ xs.countP fun t => decide (cutoff < t) := by
  rw [lastOf_eq_drop hn]
  have hsplit : xs.countP (fun t => decide (cutoff < t)) = (xs.take (xs.length - n)).countP (fun t => decide (cutoff < t)) +
      (xs.drop (xs.length - n)).countP fun t => decide (cutoff < t) := by
    rw [← List.countP_append, List.take_append_drop]
  have htail : (xs.drop (xs.length - n)).length = n := by
    rw [List.length_drop]
    omega
  constructor
  · intro hall
    have hcount : (xs.drop (xs.length - n)).countP (fun t => decide (cutoff < t)) = n := by
      rw [List.countP_eq_length.2 fun t ht => decide_eq_true (hall t ht), htail]
    omega
  · intro hcount t ht
    by_contra hold
    have hhead : (xs.take (xs.length - n)).countP (fun t => decide (cutoff < t)) = 0 := by
      apply List.countP_eq_zero.2
      intro x hx
      have hle : x ≤ t := by
        rw [← List.take_append_drop (xs.length - n) xs, List.pairwise_append] at hsorted
        exact hsorted.2.2 x hx t ht
      simp only [decide_eq_true_eq]
      omega
    have hless : (xs.drop (xs.length - n)).countP (fun t => decide (cutoff < t)) < (xs.drop (xs.length - n)).length := by
      apply lt_of_le_of_ne List.countP_le_length
      intro heq
      exact hold (of_decide_eq_true (List.countP_eq_length.1 heq t ht))
    omega

/-- An account is locked while the threshold of its failures lies in the window. -/
theorem isLocked_iff {failedAts : List Int} {nowEpochSec windowSec : Int} {threshold : Nat} (hthreshold : 0 < threshold) :
    isLocked failedAts nowEpochSec threshold windowSec = true ↔
      threshold ≤ failedAts.countP fun t => decide (nowEpochSec - windowSec < t) := by
  have hsame : (failedAts.insertionSort (· ≤ ·)).length = failedAts.length := List.length_insertionSort ..
  have hcount : (failedAts.insertionSort (· ≤ ·)).countP (fun t => decide (nowEpochSec - windowSec < t)) =
      failedAts.countP fun t => decide (nowEpochSec - windowSec < t) := (List.perm_insertionSort _ _).countP_eq _
  rw [isLocked]
  split
  · rename_i hshort
    have hle : failedAts.countP (fun t => decide (nowEpochSec - windowSec < t)) ≤ failedAts.length := List.countP_le_length
    refine iff_of_false Bool.false_ne_true ?_
    omega
  · rename_i hlong
    rw [List.all_eq_true, ← hcount, ← forall_lastOf_iff (List.pairwise_insertionSort _ _) hthreshold (by omega)]
    simp only [decide_eq_true_eq]

/-- An attempt is denied for the lock when its identifier is there and locked. -/
theorem preAuth_eq_denied_iff {table : Table} {nowEpoch : Int} {event : TriggerEvent} {userIdentifier : String}
    (hid : event.userIdentifier = .ok userIdentifier) : preAuth table nowEpoch event = .error permissionError ↔
      5 ≤ (failedAts table userIdentifier).countP fun t => decide (nowEpoch - 1800 < t) := by
  show _ ↔ defaultThreshold ≤ (failedAts table userIdentifier).countP fun t => decide (nowEpoch - defaultWindowSec < t)
  rw [← isLocked_iff (by decide), preAuth, hid]
  show (if _ then _ else _ : Except PyError TriggerEvent) = _ ↔ _
  split
  · exact iff_of_true rfl ‹_›
  · rename_i hopen
    exact iff_of_false (fun h => by cases h) hopen

end Lockout

end SafetyConfirmation
