import SafetyConfirmation.Lib.PagedRead
import SafetyConfirmation.Employee.LoadTargets

/-!
# LoadTargets, call by call

The two tables are read page by page, and the employees of a former cycle in batches of 25 whose unprocessed keys are
asked for again. Whatever the pages and whatever each batch returns unprocessed, as long as it processes one key, the
loops end with the rows they would have got at once, in some order, so that the targets are exactly the employees they
are meant to be. Of a row only the key is sure to be there: a `voiceStatus` that is a list or a map cannot be looked up
among the statuses, and a visible employee without a `name` cannot be projected.
-/

namespace SafetyConfirmation

namespace LoadTargets

open KeyedStore Checks PagedRead

/-- An item of the Employee table, keyed by `employeeId`. -/
structure Item where
  name : Option Value := none
  phoneNumber : Option Value := none
  deleted : Option Value := none

/-- `is_visible`, which does not look at the name. -/
def Item.isVisible (item : Item) : Bool :=
  SafetyConfirmation.isVisible { name := "", phoneNumber := item.phoneNumber, deleted := item.deleted }

structure TargetItem where
  employeeId : String
  name : Value
  phoneNumber : Value

/-- `_project_target`, on a row with its key. -/
def Item.projectTarget (entry : String × Item) : Except PyError TargetItem := do
  let name ← demand entry.2.name (.other "KeyError")
  let phoneNumber ← demand entry.2.phoneNumber (.other "KeyError")
  return { employeeId := entry.1, name, phoneNumber }

/-- What DynamoDB answers to each call, with keys of its own to read on from. Of a Response row the query needs the
`voiceStatus`, any value or none. -/
structure Calls (κ : Type) where
  scanEmployees : Option κ → Page κ (String × Item)
  queryResponses : String → Option κ → Page κ (String × Option Value)
  batchGetItem : Nat → List String → Batch String (String × Item)

def batchGetChunk : Nat := 25

/-- The most keys a BatchGetItem takes. -/
def batchGetLimit : Nat := 100

def unreachableVoiceStatuses : List String := [VoiceStatus.unreachable.name, VoiceStatus.other.name]

/-- `voice_status in UNREACHABLE_VOICE_STATUSES`. -/
def isUnreached (voiceStatus : Option Value) : Except PyError Bool := do
  (voiceStatus.getD .none).requireHashable
  return (voiceStatus.bind Value.asStr?).any unreachableVoiceStatuses.contains

/-- The `employeeId` of a row that counts as not reached. The status is not looked at where the key is empty. -/
def unreachedId (entry : String × Option Value) : Except PyError (Option String) := do
  let unreached ← if entry.1 = "" then .ok false else isUnreached entry.2
  return if unreached then some entry.1 else none

def unreachedIds (rows : List (String × Option Value)) : Except PyError (List String) := do
  return (← rows.mapM unreachedId).filterMap id

structure Output where
  cycleId : String
  mode : Mode
  targetCount : Nat
  targets : List TargetItem

section Loops

variable {κ : Type} (calls : Calls κ) (fuel : Nat)

/-- `_scan_all_employees`. -/
def Calls.scanAllEmployees : Option (List (String × Item)) := drain calls.scanEmployees id fuel none []

/-- `_query_unreachable_response_ids`. -/
def Calls.queryUnreachableResponseIds (referencedCycleId : String) : Option (Except PyError (List String)) :=
  drainExcept (calls.queryResponses referencedCycleId) unreachedIds fuel none []

/-- `_batch_get_employees`. -/
def Calls.batchGetEmployees (employeeIds : List String) : Option (List (String × Item)) :=
  drainBatches calls.batchGetItem fuel 0 (chunks batchGetChunk employeeIds) []

def Calls.loadCandidates : Option String → Option (Except PyError (List (String × Item)))
  | none => (calls.scanAllEmployees fuel).map .ok
  | some referencedCycleId =>
    (calls.queryUnreachableResponseIds fuel referencedCycleId).bind fun
      | .error e => some (.error e)
      | .ok [] => some (.error
          (.noTargetsError ("No UNREACHABLE/OTHER responses found in referencedCycleId=" ++ referencedCycleId)))
      | .ok employeeIds => (calls.batchGetEmployees fuel employeeIds).map .ok

def selectTargets (cycleId : String) (mode : Mode) (candidates : List (String × Item)) : Except PyError Output := do
  let visible := candidates.filter fun entry => entry.2.isVisible
  require (visible ≠ []) (.noTargetsError ("No visible employees for cycleId=" ++ cycleId ++ " mode=" ++ mode.name))
  let targets ← visible.mapM Item.projectTarget
  return { cycleId, mode, targetCount := targets.length, targets }

/-- `lambda_handler`, `none` where a loop does not end within the fuel. -/
def Calls.lambdaHandler (event : Event) : Option (Except PyError Output) :=
  match parseEvent event with
  | .error e => some (.error e)
  | .ok (cycleId, mode, referencedCycleId) =>
    (calls.loadCandidates fuel referencedCycleId).map fun candidates => candidates.bind (selectTargets cycleId mode)

end Loops

/-- The calls read these two tables: in whatever pages, and with any of the keys of a batch left unprocessed but not all.
A key attribute is never the empty string. -/
structure Calls.Reads {κ : Type} (calls : Calls κ) (employees : Store String Item)
    (responses : String → Store String (Option Value)) : Prop where
  scan : ∃ pages, Serves calls.scanEmployees none pages ∧ pages.flatten.Perm employees.rows
  query : ∀ referencedCycleId, ∃ pages, Serves (calls.queryResponses referencedCycleId) none pages ∧
    pages.flatten.Perm (responses referencedCycleId).rows
  batch : Answering (fun employeeId => (employees.lookup employeeId).map fun row => (employeeId, row)) batchGetLimit
    calls.batchGetItem
  ne_empty : ∀ referencedCycleId, ∀ employeeId ∈ (responses referencedCycleId).keys, employeeId ≠ ""

/-! ### Who is selected, and how it ends -/

/-- A valid event, and the cycle it refers to where it is about the unreached. -/
inductive Asks (event : Event) : Option String → Prop
  | all (hmode : event.mode = some (.str "ALL")) : Asks event none
  | unreachableOnly {referencedCycleId : String} (hmode : event.mode = some (.str "UNREACHABLE_ONLY"))
      (hreferenced : event.referencedCycleId = some (.str referencedCycleId)) (hne : referencedCycleId ≠ "") :
      Asks event (some referencedCycleId)

/-- What cannot be looked up in a set. -/
def IsUnhashable (voiceStatus : Option Value) : Prop :=
  (∃ items, voiceStatus = some (.list items)) ∨ ∃ items, voiceStatus = some (.dict items)

section Selection

variable (employees : Store String Item) (responses : String → Store String (Option Value))

/-- The cycle did not reach the employee. -/
def NotReached (referencedCycleId employeeId : String) : Prop :=
  (responses referencedCycleId).lookup employeeId = some (some (.str "UNREACHABLE")) ∨
    (responses referencedCycleId).lookup employeeId = some (some (.str "OTHER"))

/-- A visible employee, whom the referenced cycle did not reach where there is one. -/
def Selected (referencedCycleId : Option String) (employeeId : String) : Prop :=
  ∃ item, employees.lookup employeeId = some item ∧ item.isVisible = true ∧
    ∀ r ∈ referencedCycleId, NotReached responses r employeeId

/-- The referenced cycle has a row whose status cannot be looked up. -/
def HasUnhashable (referencedCycleId : Option String) : Prop :=
  ∃ r ∈ referencedCycleId, ∃ employeeId voiceStatus,
    (responses r).lookup employeeId = some voiceStatus ∧ IsUnhashable voiceStatus

structure Exact (referencedCycleId : Option String) (targets : List TargetItem) : Prop where
  nodup : (targets.map TargetItem.employeeId).Nodup
  selected : ∀ employeeId,
    employeeId ∈ targets.map TargetItem.employeeId ↔ Selected employees responses referencedCycleId employeeId
  projected : ∀ target ∈ targets, ∃ item, employees.lookup target.employeeId = some item ∧
    item.name = some target.name ∧ item.phoneNumber = some target.phoneNumber
  notDeleted : ∀ employeeId item, employees.lookup employeeId = some item → item.deleted = some (.bool true) →
    employeeId ∉ targets.map TargetItem.employeeId

/-- The four ways an invocation ends. What each asks of the tables rules the others out. -/
inductive Ends (referencedCycleId : Option String) : Except PyError Output → Prop
  | unhashable {message : String} (hunhashable : HasUnhashable responses referencedCycleId) :
      Ends referencedCycleId (.error (.typeError message))
  | nobody {message : String} (hhashable : ¬ HasUnhashable responses referencedCycleId)
      (hnobody : ∀ employeeId, ¬ Selected employees responses referencedCycleId employeeId) :
      Ends referencedCycleId (.error (.noTargetsError message))
  | nameless {employeeId : String} {item : Item} (hhashable : ¬ HasUnhashable responses referencedCycleId)
      (hselected : Selected employees responses referencedCycleId employeeId)
      (hitem : employees.lookup employeeId = some item) (hname : item.name = none) :
      Ends referencedCycleId (.error (.other "KeyError"))
  | found {output : Output} (hhashable : ¬ HasUnhashable responses referencedCycleId)
      (hnamed : ∀ employeeId item, Selected employees responses referencedCycleId employeeId →
        employees.lookup employeeId = some item → item.name ≠ none)
      (hsome : output.targets ≠ []) (hcount : output.targetCount = output.targets.length)
      (hexact : Exact employees responses referencedCycleId output.targets) :
      Ends referencedCycleId (.ok output)

end Selection

section Tables

variable {κ : Type} {calls : Calls κ} {employees : Store String Item}
  {responses : String → Store String (Option Value)}

/-! ### The loops and the tables -/

theorem isUnreached_of_isUnhashable {voiceStatus : Option Value} (h : IsUnhashable voiceStatus) :
    ∃ message, isUnreached voiceStatus = .error (.typeError message) := by
  obtain ⟨items, rfl⟩ | ⟨items, rfl⟩ := h
  · exact ⟨_, rfl⟩
  · exact ⟨_, rfl⟩

theorem isUnreached_eq_ok {voiceStatus : Option Value} (h : ¬ IsUnhashable voiceStatus) :
    isUnreached voiceStatus = .ok ((voiceStatus.bind Value.asStr?).any unreachableVoiceStatuses.contains) := by
  cases voiceStatus with
  | none => rfl
  | some voiceStatus =>
    cases voiceStatus with
    | list items => exact absurd (.inl ⟨items, rfl⟩) h
    | dict items => exact absurd (.inr ⟨items, rfl⟩) h
    | _ => rfl

theorem any_contains_iff {voiceStatus : Option Value} :
    (voiceStatus.bind Value.asStr?).any unreachableVoiceStatuses.contains = true ↔
      voiceStatus = some (.str "UNREACHABLE") ∨ voiceStatus = some (.str "OTHER") := by
  cases voiceStatus with
  | none => simp
  | some voiceStatus =>
    cases voiceStatus <;> simp [unreachableVoiceStatuses, Value.asStr?, VoiceStatus.name]

/-- The ids of the rows that were not reached. -/
def idsNotReached (rows : List (String × Option Value)) : List String :=
  (rows.filter fun entry => (entry.2.bind Value.asStr?).any unreachableVoiceStatuses.contains).map Prod.fst

theorem flatten_map_idsNotReached (pages : List (List (String × Option Value))) :
    (pages.map idsNotReached).flatten = idsNotReached pages.flatten := by
  rw [idsNotReached, List.filter_flatten, List.map_flatten, List.map_map]
  rfl

theorem mem_idsNotReached {referencedCycleId employeeId : String} :
    employeeId ∈ idsNotReached (responses referencedCycleId).rows ↔ NotReached responses referencedCycleId employeeId := by
  rw [idsNotReached, List.mem_map]
  constructor
  · intro hmem
    obtain ⟨⟨id, voiceStatus⟩, hentry, rfl⟩ := hmem
    obtain ⟨hrow, hstatus⟩ := List.mem_filter.1 hentry
    have hlookup := Store.mem_rows.1 hrow
    obtain hunreachable | hother := any_contains_iff.1 hstatus
    · exact .inl (hlookup.trans (congrArg some hunreachable))
    · exact .inr (hlookup.trans (congrArg some hother))
  · intro hnot
    obtain ⟨voiceStatus, hrow, hstatus⟩ : ∃ voiceStatus, (responses referencedCycleId).lookup employeeId =
        some voiceStatus ∧ (voiceStatus = some (.str "UNREACHABLE") ∨ voiceStatus = some (.str "OTHER")) := by
      obtain hrow | hrow := hnot
      · exact ⟨_, hrow, .inl rfl⟩
      · exact ⟨_, hrow, .inr rfl⟩
    exact ⟨(employeeId, voiceStatus), List.mem_filter.2 ⟨Store.mem_rows.2 hrow, any_contains_iff.2 hstatus⟩, rfl⟩

/-- Where every status can be looked up, no row raises. -/
theorem unreachedIds_eq_ok {rows : List (String × Option Value)}
    (h : ∀ entry ∈ rows, entry.1 ≠ "" ∧ ¬ IsUnhashable entry.2) : unreachedIds rows = .ok (idsNotReached rows) := by
  have hrows : rows.mapM unreachedId = .ok (rows.map fun entry =>
      if (entry.2.bind Value.asStr?).any unreachableVoiceStatuses.contains then some entry.1 else none) := by
    rw [mapM_eq_ok_map]
    intro entry hentry
    rw [unreachedId, if_neg (h entry hentry).1, isUnreached_eq_ok (h entry hentry).2]
    rfl
  rw [unreachedIds, hrows, ok_bind, pure_eq_ok, List.filterMap_map, idsNotReached,
    ← List.filterMap_eq_map, List.filterMap_filter]
  rfl

/-- It is the status of a row that raises. -/
theorem unreachedIds_eq_error {rows : List (String × Option Value)} {e : PyError} (h : unreachedIds rows = .error e) :
    ∃ entry ∈ rows, isUnreached entry.2 = .error e := by
  obtain hrows | ⟨_, -, h⟩ := bind_eq_error.1 h
  · obtain ⟨entry, hentry, herror⟩ := exists_of_mapM_eq_error hrows
    refine ⟨entry, hentry, ?_⟩
    rw [unreachedId] at herror
    split at herror
    · cases herror
    · obtain hstatus | ⟨_, -, h⟩ := bind_eq_error.1 herror
      · exact hstatus
      · cases h
  · cases h

theorem not_isUnhashable_of_unreachedIds {rows : List (String × Option Value)} {employeeIds : List String}
    (h : unreachedIds rows = .ok employeeIds) {entry : String × Option Value} (hentry : entry ∈ rows)
    (hne : entry.1 ≠ "") : ¬ IsUnhashable entry.2 := by
  intro hunhashable
  obtain ⟨ids, hids, -⟩ := bind_eq_ok.1 h
  obtain ⟨employeeId, hid⟩ := exists_eq_ok_of_mapM hids hentry
  obtain ⟨message, herror⟩ := isUnreached_of_isUnhashable hunhashable
  rw [unreachedId, if_neg hne, herror, error_bind] at hid
  cases hid

theorem scanAllEmployees_spec (hreads : calls.Reads employees responses) : ∃ enough rows, rows.Perm employees.rows ∧
    ∀ fuel, enough ≤ fuel → calls.scanAllEmployees fuel = some rows := by
  obtain ⟨pages, hserves, hperm⟩ := hreads.scan
  refine ⟨pages.length, pages.flatten, hperm, fun fuel hfuel => ?_⟩
  rw [Calls.scanAllEmployees, drain_eq id hserves hfuel, List.nil_append, List.flatMap_id]

/-- What the query of a referenced cycle comes to. -/
inductive Queried (responses : String → Store String (Option Value)) (referencedCycleId : String) :
    Except PyError (List String) → Prop
  | unhashable {message : String} (h : HasUnhashable responses (some referencedCycleId)) :
      Queried responses referencedCycleId (.error (.typeError message))
  | ids {employeeIds : List String} (hhashable : ¬ HasUnhashable responses (some referencedCycleId))
      (hnodup : employeeIds.Nodup)
      (hmem : ∀ employeeId, employeeId ∈ employeeIds ↔ NotReached responses referencedCycleId employeeId) :
      Queried responses referencedCycleId (.ok employeeIds)

theorem not_hasUnhashable_iff {referencedCycleId : String} : ¬ HasUnhashable responses (some referencedCycleId) ↔
    ∀ entry ∈ (responses referencedCycleId).rows, ¬ IsUnhashable entry.2 := by
  constructor
  · intro h entry hentry hunhashable
    exact h ⟨referencedCycleId, rfl, entry.1, entry.2, Store.mem_rows.1 hentry, hunhashable⟩
  · intro h hhas
    obtain ⟨r, hr, employeeId, voiceStatus, hrow, hunhashable⟩ := hhas
    obtain rfl := Option.some.inj hr
    exact h (employeeId, voiceStatus) (Store.mem_rows.2 hrow) hunhashable

section Pages

variable {referencedCycleId : String} {pages : List (List (String × Option Value))}
  (hperm : pages.flatten.Perm (responses referencedCycleId).rows)
  (hne : ∀ entry ∈ (responses referencedCycleId).rows, entry.1 ≠ "")

include hperm hne

/-- The page with the status that cannot be looked up raises, if none before it has. -/
theorem mapM_unreachedIds_of_hasUnhashable (hhas : HasUnhashable responses (some referencedCycleId)) :
    ∃ message, pages.mapM unreachedIds = .error (.typeError message) := by
  cases hpages : pages.mapM unreachedIds with
  | ok items =>
    obtain ⟨r, hr, employeeId, voiceStatus, hrow, hunhashable⟩ := hhas
    obtain rfl := Option.some.inj hr
    obtain ⟨page, hmem, hentry⟩ := List.mem_flatten.1 (hperm.mem_iff.2 (Store.mem_rows.2 hrow))
    obtain ⟨employeeIds, hids⟩ := exists_eq_ok_of_mapM hpages hmem
    exact absurd hunhashable (not_isUnhashable_of_unreachedIds hids hentry (hne _ (Store.mem_rows.2 hrow)))
  | error e =>
    obtain ⟨page, hmem, herror⟩ := exists_of_mapM_eq_error hpages
    obtain ⟨entry, -, hstatus⟩ := unreachedIds_eq_error herror
    by_cases hunhashable : IsUnhashable entry.2
    · obtain ⟨message, htype⟩ := isUnreached_of_isUnhashable hunhashable
      rw [htype] at hstatus
      cases hstatus
      exact ⟨message, rfl⟩
    · rw [isUnreached_eq_ok hunhashable] at hstatus
      cases hstatus

theorem mapM_unreachedIds_of_not_hasUnhashable (hhas : ¬ HasUnhashable responses (some referencedCycleId)) :
    pages.mapM unreachedIds = .ok (pages.map idsNotReached) := by
  apply mapM_eq_ok_map.2
  intro page hpage
  apply unreachedIds_eq_ok
  intro entry hentry
  have hrow := hperm.mem_iff.1 (List.mem_flatten_of_mem hpage hentry)
  exact ⟨hne entry hrow, not_hasUnhashable_iff.1 hhas entry hrow⟩

end Pages

theorem queryUnreachableResponseIds_spec (hreads : calls.Reads employees responses) (referencedCycleId : String) :
    ∃ enough result, Queried responses referencedCycleId result ∧
      ∀ fuel, enough ≤ fuel → calls.queryUnreachableResponseIds fuel referencedCycleId = some result := by
  obtain ⟨pages, hserves, hperm⟩ := hreads.query referencedCycleId
  have hne : ∀ entry ∈ (responses referencedCycleId).rows, entry.1 ≠ "" := fun entry hentry =>
    hreads.ne_empty _ _ (Store.mem_keys_iff.2 ⟨entry.2, Store.mem_rows.1 hentry⟩)
  refine ⟨pages.length, (pages.mapM unreachedIds).map fun items => [] ++ items.flatten, ?_, fun fuel hfuel => ?_⟩
  · by_cases hhas : HasUnhashable responses (some referencedCycleId)
    · obtain ⟨message, hpages⟩ := mapM_unreachedIds_of_hasUnhashable hperm hne hhas
      rw [hpages]
      exact .unhashable hhas
    · have hpages := mapM_unreachedIds_of_not_hasUnhashable hperm hne hhas
      have hids : (pages.map idsNotReached).flatten.Perm (idsNotReached (responses referencedCycleId).rows) := by
        rw [flatten_map_idsNotReached]
        exact (hperm.filter _).map Prod.fst
      rw [hpages]
      refine .ids hhas ?_ fun employeeId => ?_
      · exact hids.nodup_iff.2 ((responses referencedCycleId).nodup_map_fst_rows.sublist (List.filter_sublist.map Prod.fst))
      · exact hids.mem_iff.trans mem_idsNotReached
  · rw [Calls.queryUnreachableResponseIds, drainExcept_eq unreachedIds hserves hfuel]

theorem batchGetEmployees_spec (hreads : calls.Reads employees responses) {employeeIds : List String}
    (hnodup : employeeIds.Nodup) : ∃ enough rows,
      rows.Perm (employeeIds.filterMap fun employeeId => (employees.lookup employeeId).map fun item => (employeeId, item)) ∧
        ∀ fuel, enough ≤ fuel → calls.batchGetEmployees fuel employeeIds = some rows := by
  have hsize : ∀ chunk ∈ chunks batchGetChunk employeeIds, chunk.length ≤ batchGetChunk := fun chunk hchunk =>
    length_le_of_mem_chunks (by decide) hchunk
  have hflatten := flatten_chunks batchGetChunk employeeIds
  obtain ⟨rows, hdrain, hperm⟩ := drainBatches_spec hreads.batch (hflatten.symm ▸ hnodup)
    (fun chunk hchunk => (hsize chunk hchunk).trans (by decide)) hsize 0 []
  rw [hflatten] at hperm
  exact ⟨batchGetChunk, rows, hperm, fun fuel hfuel => drainBatches_mono hdrain hfuel⟩

/-- The rows are those of the table that the mode starts from, each once. -/
structure AreCandidates (employees : Store String Item) (responses : String → Store String (Option Value))
    (referencedCycleId : Option String) (rows : List (String × Item)) : Prop where
  nodup : (rows.map Prod.fst).Nodup
  mem_iff : ∀ employeeId item, (employeeId, item) ∈ rows ↔ employees.lookup employeeId = some item ∧
    ∀ r ∈ referencedCycleId, NotReached responses r employeeId

theorem areCandidates_of_perm {referencedCycleId : Option String} {rows others : List (String × Item)}
    (h : AreCandidates employees responses referencedCycleId rows) (hperm : others.Perm rows) :
    AreCandidates employees responses referencedCycleId others where
  nodup := (hperm.map Prod.fst).nodup_iff.2 h.nodup
  mem_iff employeeId item := hperm.mem_iff.trans (h.mem_iff employeeId item)

theorem areCandidates_all : AreCandidates employees responses none employees.rows where
  nodup := employees.nodup_map_fst_rows
  mem_iff employeeId item := by simp [Store.mem_rows]

theorem map_fst_sublist {employeeIds : List String} :
    ((employeeIds.filterMap fun employeeId => (employees.lookup employeeId).map fun item =>
      (employeeId, item)).map Prod.fst).Sublist employeeIds := by
  induction employeeIds with
  | nil => exact .slnil
  | cons employeeId rest ih =>
    rw [List.filterMap_cons]
    cases employees.lookup employeeId with
    | none => exact ih.cons _
    | some item => exact ih.cons_cons _

theorem areCandidates_of_ids {referencedCycleId : String} {employeeIds : List String} (hnodup : employeeIds.Nodup)
    (hmem : ∀ employeeId, employeeId ∈ employeeIds ↔ NotReached responses referencedCycleId employeeId) :
    AreCandidates employees responses (some referencedCycleId)
      (employeeIds.filterMap fun employeeId => (employees.lookup employeeId).map fun item => (employeeId, item)) where
  nodup := hnodup.sublist map_fst_sublist
  mem_iff employeeId item := by
    simp only [Option.mem_def, Option.some.injEq, forall_eq', ← hmem, List.mem_filterMap, Option.map_eq_some_iff,
      Prod.mk.injEq]
    constructor
    · intro h
      obtain ⟨id, hid, other, hother, rfl, rfl⟩ := h
      exact ⟨hother, hid⟩
    · intro h
      exact ⟨employeeId, h.2, item, h.1, rfl, rfl⟩

/-- What the loops give LoadTargets to select from. -/
inductive Loaded (employees : Store String Item) (responses : String → Store String (Option Value))
    (referencedCycleId : Option String) : Except PyError (List (String × Item)) → Prop
  | unhashable {message : String} (h : HasUnhashable responses referencedCycleId) :
      Loaded employees responses referencedCycleId (.error (.typeError message))
  | nobody {r : String} (hr : r ∈ referencedCycleId) (hhashable : ¬ HasUnhashable responses referencedCycleId)
      (hnobody : ∀ employeeId, ¬ NotReached responses r employeeId) :
      Loaded employees responses referencedCycleId
        (.error (.noTargetsError ("No UNREACHABLE/OTHER responses found in referencedCycleId=" ++ r)))
  | rows {rows : List (String × Item)} (hhashable : ¬ HasUnhashable responses referencedCycleId)
      (hsome : ∀ r ∈ referencedCycleId, ∃ employeeId, NotReached responses r employeeId)
      (hrows : AreCandidates employees responses referencedCycleId rows) :
      Loaded employees responses referencedCycleId (.ok rows)

theorem loadCandidates_spec_calls (hreads : calls.Reads employees responses) (referencedCycleId : Option String) :
    ∃ enough result, Loaded employees responses referencedCycleId result ∧
      ∀ fuel, enough ≤ fuel → calls.loadCandidates fuel referencedCycleId = some result := by
  cases referencedCycleId with
  | none =>
    obtain ⟨enough, rows, hperm, hscan⟩ := scanAllEmployees_spec hreads
    refine ⟨enough, .ok rows, .rows (by simp [HasUnhashable]) (by simp) (areCandidates_of_perm areCandidates_all hperm), ?_⟩
    intro fuel hfuel
    rw [Calls.loadCandidates, hscan fuel hfuel, Option.map_some]
  | some referencedCycleId =>
    obtain ⟨enough, result, hqueried, hquery⟩ := queryUnreachableResponseIds_spec hreads referencedCycleId
    cases hqueried with
    | @unhashable message hunhashable =>
      refine ⟨enough, .error (.typeError message), .unhashable hunhashable, fun fuel hfuel => ?_⟩
      rw [Calls.loadCandidates, hquery fuel hfuel, Option.bind_some]
    | @ids employeeIds hhashable hnodup hmem =>
      cases employeeIds with
      | nil =>
        refine ⟨enough, _, .nobody rfl hhashable fun employeeId hnot => ?_, fun fuel hfuel => ?_⟩
        · exact List.not_mem_nil ((hmem employeeId).2 hnot)
        · rw [Calls.loadCandidates, hquery fuel hfuel, Option.bind_some]
      | cons employeeId rest =>
        obtain ⟨enough', rows, hperm, hbatch⟩ := batchGetEmployees_spec hreads hnodup
        have hcandidates := areCandidates_of_perm (areCandidates_of_ids hnodup hmem) hperm
        refine ⟨max enough enough', .ok rows, .rows hhashable ?_ hcandidates, fun fuel hfuel => ?_⟩
        · intro r hr
          obtain rfl := Option.some.inj hr
          exact ⟨employeeId, (hmem employeeId).1 List.mem_cons_self⟩
        · rw [Calls.loadCandidates, hquery fuel ((Nat.le_max_left _ _).trans hfuel), Option.bind_some]
          dsimp only
          rw [hbatch fuel ((Nat.le_max_right _ _).trans hfuel), Option.map_some]

/-! ### The selection -/

theorem Item.projectTarget_eq_ok {entry : String × Item} {target : TargetItem} :
    Item.projectTarget entry = .ok target ↔ target.employeeId = entry.1 ∧ entry.2.name = some target.name ∧
      entry.2.phoneNumber = some target.phoneNumber := by
  rw [Item.projectTarget, bind_eq_ok]
  simp only [bind_eq_ok, demand_eq_ok, pure_eq_ok, Except.ok.injEq]
  constructor
  · intro h
    obtain ⟨name, hname, phoneNumber, hphone, rfl⟩ := h
    exact ⟨rfl, hname, hphone⟩
  · intro h
    obtain ⟨hid, hname, hphone⟩ := h
    exact ⟨target.name, hname, target.phoneNumber, hphone, by rw [← hid]⟩

/-- A visible employee has a phone number, so it is the name that is missing. -/
theorem Item.projectTarget_eq_error {entry : String × Item} {e : PyError} (hvisible : entry.2.isVisible = true)
    (h : Item.projectTarget entry = .error e) : e = .other "KeyError" ∧ entry.2.name = none := by
  rw [Item.projectTarget] at h
  cases hname : entry.2.name with
  | none =>
    rw [hname] at h
    cases h
    exact ⟨rfl, rfl⟩
  | some name =>
    obtain ⟨number, hphone⟩ := phoneNumber_of_isVisible hvisible
    dsimp only at hphone
    rw [hname, hphone] at h
    cases h

section Rows

variable {referencedCycleId : Option String} {rows : List (String × Item)}

theorem selected_iff (h : AreCandidates employees responses referencedCycleId rows) {employeeId : String} :
    employeeId ∈ (rows.filter fun entry => entry.2.isVisible).map Prod.fst ↔
      Selected employees responses referencedCycleId employeeId := by
  rw [List.mem_map]
  constructor
  · intro hmem
    obtain ⟨⟨id, item⟩, hentry, rfl⟩ := hmem
    obtain ⟨hrow, hvisible⟩ := List.mem_filter.1 hentry
    obtain ⟨hlookup, hnot⟩ := (h.mem_iff id item).1 hrow
    exact ⟨item, hlookup, hvisible, hnot⟩
  · intro hselected
    obtain ⟨item, hlookup, hvisible, hnot⟩ := hselected
    exact ⟨(employeeId, item), List.mem_filter.2 ⟨(h.mem_iff employeeId item).2 ⟨hlookup, hnot⟩, hvisible⟩, rfl⟩

theorem map_employeeId_of_mapM {targets : List TargetItem} (h : rows.mapM Item.projectTarget = .ok targets) :
    targets.map TargetItem.employeeId = rows.map Prod.fst := by
  have hall := forall₂_of_mapM_eq_ok h
  clear h
  induction hall with
  | nil => rfl
  | cons hhead _ ih => rw [List.map_cons, List.map_cons, ih, (Item.projectTarget_eq_ok.1 hhead).1]

theorem exact_of_mapM (h : AreCandidates employees responses referencedCycleId rows) {targets : List TargetItem}
    (htargets : (rows.filter fun entry => entry.2.isVisible).mapM Item.projectTarget = .ok targets) :
    Exact employees responses referencedCycleId targets := by
  have hids := map_employeeId_of_mapM htargets
  refine ⟨?_, ?_, ?_, ?_⟩
  · rw [hids]
    exact h.nodup.sublist (List.filter_sublist.map Prod.fst)
  · intro employeeId
    rw [hids]
    exact selected_iff h
  · intro target htarget
    obtain ⟨entry, hentry, hproject⟩ := exists_of_mem_mapM htargets htarget
    obtain ⟨hid, hname, hphone⟩ := Item.projectTarget_eq_ok.1 hproject
    rw [hid]
    exact ⟨entry.2, ((h.mem_iff entry.1 entry.2).1 (List.mem_filter.1 hentry).1).1, hname, hphone⟩
  · intro employeeId item hlookup hdeleted hmem
    rw [hids] at hmem
    obtain ⟨other, hother, hvisible, -⟩ := (selected_iff h).1 hmem
    rw [hlookup] at hother
    cases hother
    simp [Item.isVisible, SafetyConfirmation.isVisible, hdeleted] at hvisible

/-- Selecting from the candidates ends in one of the ways there are. -/
theorem ends_selectTargets (hhashable : ¬ HasUnhashable responses referencedCycleId)
    (h : AreCandidates employees responses referencedCycleId rows) (cycleId : String) (mode : Mode) :
    Ends employees responses referencedCycleId (selectTargets cycleId mode rows) := by
  rw [selectTargets]
  by_cases hnone : (rows.filter fun entry => entry.2.isVisible) = []
  · rw [hnone, require, if_neg (not_not_intro rfl), error_bind]
    apply Ends.nobody hhashable
    intro employeeId hselected
    have hmem := (selected_iff h).2 hselected
    rw [hnone] at hmem
    exact List.not_mem_nil hmem
  rw [require_of hnone, ok_bind]
  cases htargets : (rows.filter fun entry => entry.2.isVisible).mapM Item.projectTarget with
  | error e =>
    obtain ⟨entry, hentry, herror⟩ := exists_of_mapM_eq_error htargets
    obtain ⟨hrow, hvisible⟩ := List.mem_filter.1 hentry
    obtain ⟨rfl, hname⟩ := Item.projectTarget_eq_error hvisible herror
    have hlookup := ((h.mem_iff entry.1 entry.2).1 hrow).1
    exact .nameless hhashable ((selected_iff h).1 (List.mem_map_of_mem hentry)) hlookup hname
  | ok targets =>
    rw [ok_bind, pure_eq_ok]
    have hids := map_employeeId_of_mapM htargets
    refine .found hhashable ?_ ?_ rfl (exact_of_mapM h htargets)
    · intro employeeId item hselected hlookup hname
      obtain ⟨other, hother, hvisible, hnot⟩ := hselected
      rw [hlookup] at hother
      cases hother
      have hentry : (employeeId, item) ∈ rows.filter fun entry => entry.2.isVisible :=
        List.mem_filter.2 ⟨(h.mem_iff employeeId item).2 ⟨hlookup, hnot⟩, hvisible⟩
      obtain ⟨target, htarget⟩ := exists_eq_ok_of_mapM htargets hentry
      rw [(Item.projectTarget_eq_ok.1 htarget).2.1] at hname
      cases hname
    · intro hempty
      rw [show targets = [] from hempty, List.map_nil] at hids
      exact hnone (List.map_eq_nil_iff.1 hids.symm)

end Rows

/-- With enough fuel a valid event comes to the selection from the candidates. -/
theorem lambdaHandler_of_loaded (hreads : calls.Reads employees responses) {event : Event} {cycleId : String} {mode : Mode}
    {referencedCycleId : Option String} (hparse : parseEvent event = .ok (cycleId, mode, referencedCycleId)) :
    ∃ enough result, Loaded employees responses referencedCycleId result ∧
      ∀ fuel, enough ≤ fuel → calls.lambdaHandler fuel event = some (result.bind (selectTargets cycleId mode)) := by
  obtain ⟨enough, result, hloaded, hload⟩ := loadCandidates_spec_calls hreads referencedCycleId
  refine ⟨enough, result, hloaded, fun fuel hfuel => ?_⟩
  rw [Calls.lambdaHandler, hparse]
  dsimp only
  rw [hload fuel hfuel, Option.map_some]

/-- An invocation ends, in one of the ways there are. -/
theorem lambdaHandler_ends (hreads : calls.Reads employees responses) {event : Event} {cycleId : String} {mode : Mode}
    {referencedCycleId : Option String} (hparse : parseEvent event = .ok (cycleId, mode, referencedCycleId)) :
    ∃ enough result, (∀ fuel, enough ≤ fuel → calls.lambdaHandler fuel event = some result) ∧
      Ends employees responses referencedCycleId result := by
  obtain ⟨enough, result, hloaded, hresult⟩ := lambdaHandler_of_loaded hreads hparse
  refine ⟨enough, _, hresult, ?_⟩
  cases hloaded with
  | unhashable hunhashable => exact .unhashable hunhashable
  | nobody hr hhashable hnobody =>
    apply Ends.nobody hhashable
    intro employeeId hselected
    obtain ⟨item, -, -, hnot⟩ := hselected
    exact hnobody employeeId (hnot _ hr)
  | rows hhashable _ hrows => exact ends_selectTargets hhashable hrows cycleId mode

end Tables

/-! ### Rows as they are written -/

section Written

variable {κ : Type} {calls : Calls κ} {employees : Store String Employee} {responses : String → Store String Response}

def Item.ofEmployee (employee : Employee) : Item where
  name := some (.str employee.name)
  phoneNumber := employee.phoneNumber
  deleted := employee.deleted

def TargetItem.ofTarget (target : Target) : TargetItem where
  employeeId := target.employeeId
  name := .str target.name
  phoneNumber := .str target.phoneNumber

def employeeItems (employees : Store String Employee) : Store String Item := employees.mapRows Item.ofEmployee

def statusItems (responses : String → Store String Response) (referencedCycleId : String) : Store String (Option Value) :=
  (responses referencedCycleId).mapRows fun row => row.voiceStatus.map fun status => .str status.name

theorem lookup_employeeItems {employeeId : String} {item : Item} :
    (employeeItems employees).lookup employeeId = some item ↔
      ∃ employee, employees.lookup employeeId = some employee ∧ Item.ofEmployee employee = item :=
  Store.lookup_mapRows

theorem lookup_statusItems {referencedCycleId employeeId : String} {voiceStatus : Option Value} :
    (statusItems responses referencedCycleId).lookup employeeId = some voiceStatus ↔
      ∃ row, (responses referencedCycleId).lookup employeeId = some row ∧
        (row.voiceStatus.map fun status => Value.str status.name) = voiceStatus := Store.lookup_mapRows

theorem not_hasUnhashable_statusItems (referencedCycleId : Option String) :
    ¬ HasUnhashable (statusItems responses) referencedCycleId := by
  intro h
  obtain ⟨r, -, employeeId, voiceStatus, hrow, hunhashable⟩ := h
  obtain ⟨row, -, rfl⟩ := lookup_statusItems.1 hrow
  cases hstatus : row.voiceStatus <;> simp [IsUnhashable, hstatus] at hunhashable

theorem notReached_statusItems {referencedCycleId employeeId : String} :
    NotReached (statusItems responses) referencedCycleId employeeId ↔
      ∃ row, (responses referencedCycleId).lookup employeeId = some row ∧ row.voiceStatus.any isUnreachedStatus = true := by
  have hname : ∀ (status : VoiceStatus), isUnreachedStatus status = true ↔
      status.name = "UNREACHABLE" ∨ status.name = "OTHER" := by
    intro status
    cases status <;> simp [isUnreachedStatus, VoiceStatus.name]
  simp only [NotReached, lookup_statusItems, Option.any_eq_true, hname, Option.map_eq_some_iff, Value.str.injEq]
  constructor
  · intro h
    obtain ⟨row, hrow, status, hstatus, hunreachable⟩ | ⟨row, hrow, status, hstatus, hother⟩ := h
    · exact ⟨row, hrow, status, hstatus, .inl hunreachable⟩
    · exact ⟨row, hrow, status, hstatus, .inr hother⟩
  · intro h
    obtain ⟨row, hrow, status, hstatus, hunreachable | hother⟩ := h
    · exact .inl ⟨row, hrow, status, hstatus, hunreachable⟩
    · exact .inr ⟨row, hrow, status, hstatus, hother⟩

theorem mem_queryUnreachableResponseIds {referencedCycleId employeeId : String} (hne : employeeId ≠ "") :
    employeeId ∈ queryUnreachableResponseIds (responses referencedCycleId) ↔
      NotReached (statusItems responses) referencedCycleId employeeId := by
  rw [notReached_statusItems, queryUnreachableResponseIds, List.mem_map]
  constructor
  · intro hmem
    obtain ⟨⟨id, row⟩, hentry, rfl⟩ := hmem
    obtain ⟨hrow, htest⟩ := List.mem_filter.1 hentry
    exact ⟨row, Store.mem_rows.1 hrow, (Bool.and_eq_true .. ▸ htest).2⟩
  · intro h
    obtain ⟨row, hrow, hstatus⟩ := h
    refine ⟨(employeeId, row), List.mem_filter.2 ⟨Store.mem_rows.2 hrow, ?_⟩, rfl⟩
    rw [Bool.and_eq_true, bne_iff_ne]
    exact ⟨hne, hstatus⟩

/-- The items of the candidates, whichever way they are read. -/
def candidateItems (candidates : List (String × Employee)) : List (String × Item) :=
  candidates.map fun entry => (entry.1, Item.ofEmployee entry.2)

theorem mem_of_loadCandidates (hkeys : ∀ r, ∀ employeeId ∈ (responses r).keys, employeeId ≠ "")
    {referencedCycleId : Option String} {candidates : List (String × Employee)}
    (h : loadCandidates employees responses referencedCycleId = .ok candidates) {employeeId : String} {employee : Employee} :
    (employeeId, employee) ∈ candidates ↔ employees.lookup employeeId = some employee ∧
      ∀ r ∈ referencedCycleId, NotReached (statusItems responses) r employeeId := by
  cases referencedCycleId with
  | none =>
    rw [← Except.ok.inj h, Store.mem_rows]
    simp
  | some r =>
    obtain ⟨_, -, hrows⟩ := bind_eq_ok.1 h
    rw [← Except.ok.inj hrows, batchGetEmployees, List.mem_filterMap]
    simp only [Option.mem_def, Option.some.injEq, forall_eq', Option.map_eq_some_iff, Prod.mk.injEq]
    constructor
    · intro hid
      obtain ⟨id, hlisted, other, hother, rfl, rfl⟩ := hid
      have hkey : id ∈ (responses r).keys := by
        obtain ⟨entry, hentry, rfl⟩ := List.mem_map.1 hlisted
        exact Store.mem_keys_iff.2 ⟨entry.2, Store.mem_rows.1 (List.mem_filter.1 hentry).1⟩
      exact ⟨hother, (mem_queryUnreachableResponseIds (hkeys r id hkey)).1 hlisted⟩
    · intro hrow
      obtain ⟨row, hresponse, -⟩ := notReached_statusItems.1 hrow.2
      have hne := hkeys r employeeId (Store.mem_keys_iff.2 ⟨row, hresponse⟩)
      exact ⟨employeeId, (mem_queryUnreachableResponseIds hne).2 hrow.2, employee, hrow.1, rfl, rfl⟩

theorem areCandidates_candidateItems (hkeys : ∀ r, ∀ employeeId ∈ (responses r).keys, employeeId ≠ "")
    {referencedCycleId : Option String} {candidates : List (String × Employee)}
    (h : loadCandidates employees responses referencedCycleId = .ok candidates) :
    AreCandidates (employeeItems employees) (statusItems responses) referencedCycleId (candidateItems candidates) := by
  have hspec := loadCandidates_spec h
  refine ⟨?_, fun employeeId item => ?_⟩
  · rw [candidateItems, List.map_map]
    exact hspec.1
  · rw [candidateItems, List.mem_map, lookup_employeeItems]
    constructor
    · intro hentry
      obtain ⟨⟨id, employee⟩, hentry, heq⟩ := hentry
      cases heq
      obtain ⟨hlookup, hnot⟩ := (mem_of_loadCandidates hkeys h).1 hentry
      exact ⟨⟨employee, hlookup, rfl⟩, hnot⟩
    · intro hrow
      obtain ⟨⟨employee, hlookup, rfl⟩, hnot⟩ := hrow
      exact ⟨(employeeId, employee), (mem_of_loadCandidates hkeys h).2 ⟨hlookup, hnot⟩, rfl⟩

theorem AreCandidates.perm {employees : Store String Item} {responses : String → Store String (Option Value)}
    {referencedCycleId : Option String} {rows others : List (String × Item)}
    (h : AreCandidates employees responses referencedCycleId rows)
    (hothers : AreCandidates employees responses referencedCycleId others) : rows.Perm others := by
  rw [List.perm_ext_iff_of_nodup (h.nodup.of_map _) (hothers.nodup.of_map _)]
  rintro ⟨employeeId, item⟩
  rw [h.mem_iff, hothers.mem_iff]

/-- The candidates a cycle starts from are missing when nobody was found unreached. -/
theorem loadCandidates_of_nobody {r : String}
    (hnobody : ∀ employeeId, ¬ NotReached (statusItems responses) r employeeId) :
    loadCandidates employees responses (some r) =
      .error (.noTargetsError ("No UNREACHABLE/OTHER responses found in referencedCycleId=" ++ r)) := by
  have hnone : queryUnreachableResponseIds (responses r) = [] := by
    rw [queryUnreachableResponseIds, List.map_eq_nil_iff, List.filter_eq_nil_iff]
    intro entry hentry htest
    rw [Bool.and_eq_true] at htest
    exact hnobody entry.1 (notReached_statusItems.2 ⟨entry.2, Store.mem_rows.1 hentry, htest.2⟩)
  rw [loadCandidates, require, if_neg (not_not_intro hnone), error_bind]

theorem loadCandidates_of_some (hkeys : ∀ r, ∀ employeeId ∈ (responses r).keys, employeeId ≠ "")
    {referencedCycleId : Option String}
    (hsome : ∀ r ∈ referencedCycleId, ∃ employeeId, NotReached (statusItems responses) r employeeId) :
    ∃ candidates, loadCandidates employees responses referencedCycleId = .ok candidates := by
  cases referencedCycleId with
  | none => exact ⟨_, rfl⟩
  | some r =>
    obtain ⟨employeeId, hnot⟩ := hsome r rfl
    obtain ⟨row, hrow, -⟩ := notReached_statusItems.1 hnot
    have hmem := (mem_queryUnreachableResponseIds (hkeys r employeeId (Store.mem_keys_iff.2 ⟨row, hrow⟩))).2 hnot
    exact ⟨_, bind_eq_ok.2 ⟨⟨⟩, require_eq_ok.2 (List.ne_nil_of_mem hmem), rfl⟩⟩

theorem filter_isVisible_perm {rows : List (String × Item)} {candidates : List (String × Employee)}
    (hperm : rows.Perm (candidateItems candidates)) : (rows.filter fun entry => entry.2.isVisible).Perm
      (candidateItems (candidates.filter fun entry => isVisible entry.2)) := by
  have hvisible := hperm.filter fun entry => entry.2.isVisible
  rw [candidateItems, List.filter_map] at hvisible
  exact hvisible

theorem mapM_projectTarget_of_perm {rows : List (String × Item)} {visible : List (String × Employee)}
    (hperm : rows.Perm (candidateItems visible)) (hvisible : ∀ entry ∈ visible, isVisible entry.2 = true) :
    ∃ targets, rows.mapM Item.projectTarget = .ok targets ∧
      targets.Perm ((visible.map projectTarget).map TargetItem.ofTarget) := by
  refine ⟨rows.map fun entry => ⟨entry.1, entry.2.name.getD .none,
    .str ((entry.2.phoneNumber.bind Value.asStr?).getD "")⟩, mapM_eq_ok_map.2 fun entry hentry => ?_, ?_⟩
  · obtain ⟨⟨id, employee⟩, hemployee, rfl⟩ := List.mem_map.1 (hperm.mem_iff.1 hentry)
    obtain ⟨number, hnumber⟩ := phoneNumber_of_isVisible (hvisible _ hemployee)
    rw [Item.projectTarget_eq_ok]
    refine ⟨rfl, rfl, ?_⟩
    dsimp only at hnumber
    simp [Item.ofEmployee, hnumber, Value.asStr?]
  · refine (hperm.map _).trans (List.Perm.of_eq ?_)
    rw [candidateItems, List.map_map, List.map_map]
    rfl

/-- On rows as their writers leave them the answer is that of an invocation which reads the tables at once, up to the
order of the targets. -/
theorem lambdaHandler_refines (hreads : calls.Reads (employeeItems employees) (statusItems responses)) (event : Event) :
    ∃ enough result, (∀ fuel, enough ≤ fuel → calls.lambdaHandler fuel event = some result) ∧
      ((∃ output targets, result = .ok output ∧ lambdaHandler employees responses event = .ok targets ∧
          output.targets.Perm (targets.map TargetItem.ofTarget) ∧ output.targetCount = output.targets.length) ∨
        ∃ e, result = .error e ∧ lambdaHandler employees responses event = .error e) := by
  cases hparse : parseEvent event with
  | error e =>
    refine ⟨0, .error e, fun fuel _ => ?_, .inr ⟨e, rfl, ?_⟩⟩
    · rw [Calls.lambdaHandler, hparse]
    · rw [lambdaHandler, hparse, error_bind]
  | ok parsed =>
    obtain ⟨cycleId, mode, referencedCycleId⟩ := parsed
    obtain ⟨enough, result, hloaded, hresult⟩ := lambdaHandler_of_loaded hreads hparse
    refine ⟨enough, _, hresult, ?_⟩
    rw [lambdaHandler, hparse, ok_bind]
    dsimp only
    have hkeys : ∀ r, ∀ employeeId ∈ (responses r).keys, employeeId ≠ "" := by
      intro r employeeId hmem
      obtain ⟨row, hrow⟩ := Store.mem_keys_iff.1 hmem
      exact hreads.ne_empty r employeeId (Store.mem_keys_iff.2 ⟨_, lookup_statusItems.2 ⟨row, hrow, rfl⟩⟩)
    cases hloaded with
    | unhashable hunhashable => exact absurd hunhashable (not_hasUnhashable_statusItems _)
    | nobody hr _ hnobody =>
      obtain rfl := Option.mem_def.1 hr
      rw [loadCandidates_of_nobody hnobody]
      exact .inr ⟨_, rfl, rfl⟩
    | @rows rows _ hsome hrows =>
      obtain ⟨candidates, hcandidates⟩ := @loadCandidates_of_some employees responses hkeys _ hsome
      have hvisible := filter_isVisible_perm (hrows.perm (areCandidates_candidateItems hkeys hcandidates))
      obtain ⟨targets, hmapM, htargets⟩ :=
        mapM_projectTarget_of_perm hvisible fun entry hentry => (List.mem_filter.1 hentry).2
      rw [hcandidates, ok_bind]
      by_cases hnone : (candidates.filter fun entry => isVisible entry.2) = []
      · rw [hnone] at hvisible
        refine .inr ⟨.noTargetsError ("No visible employees for cycleId=" ++ cycleId ++ " mode=" ++ mode.name), ?_, ?_⟩
        · show selectTargets cycleId mode rows = _
          rw [selectTargets, hvisible.eq_nil, require, if_neg (not_not_intro rfl), error_bind]
        · rw [hnone, List.map_nil, require, if_neg (not_not_intro rfl), error_bind]
      · have hsome' : (rows.filter fun entry => entry.2.isVisible) ≠ [] := by
          intro hempty
          rw [hempty] at hvisible
          exact hnone (List.map_eq_nil_iff.1 hvisible.nil_eq.symm)
        refine .inl ⟨{ cycleId, mode, targetCount := targets.length, targets }, _, ?_, ?_, htargets, rfl⟩
        · show selectTargets cycleId mode rows = _
          rw [selectTargets, require_of hsome', ok_bind, hmapM, ok_bind, pure_eq_ok]
        · rw [require_of (mt List.map_eq_nil_iff.1 hnone), ok_bind, pure_eq_ok]

end Written

/-! ### The targets are exact -/

section Exactness

variable {employees : Store String Item} {responses : String → Store String (Option Value)}

theorem parseEvent_of_asks {event : Event} {cycleId : String} {referencedCycleId : Option String}
    (hcycleId : event.cycleId = some (.str cycleId)) (hne : cycleId ≠ "") (hasks : Asks event referencedCycleId) :
    ∃ mode, parseEvent event = .ok (cycleId, mode, referencedCycleId) := by
  have hcycle : (event.cycleId.bind Value.asStr?).getD "" = cycleId := by
    rw [hcycleId]
    rfl
  rw [parseEvent, hcycle, require_of hne, ok_bind]
  cases hasks with
  | all hmode => exact ⟨.all, by rw [hmode]; rfl⟩
  | unreachableOnly hmode hreferenced hr =>
    refine ⟨.unreachableOnly, ?_⟩
    rw [hmode, hreferenced]
    exact bind_eq_ok.2 ⟨(), rfl, bind_eq_ok.2 ⟨(), require_eq_ok.2 hr, rfl⟩⟩

/-- LoadTargets ends. It raises where a status of the referenced cycle cannot be looked up, where nobody is selected and
where someone selected has no name; otherwise its targets are exactly the employees the event asks for. -/
theorem targets_exact {κ : Type} {calls : Calls κ} (hreads : calls.Reads employees responses) {event : Event}
    {cycleId : String} {referencedCycleId : Option String} (hcycleId : event.cycleId = some (.str cycleId))
    (hne : cycleId ≠ "") (hasks : Asks event referencedCycleId) :
    ∃ enough result, (∀ fuel, enough ≤ fuel → calls.lambdaHandler fuel event = some result) ∧
      Ends employees responses referencedCycleId result := by
  obtain ⟨mode, hparse⟩ := parseEvent_of_asks hcycleId hne hasks
  exact lambdaHandler_ends hreads hparse

/-- A service that gives a table out at once and processes one key of a batch at a time. -/
def oneKeyCalls (employees : Store String Item) (responses : String → Store String (Option Value)) : Calls Unit where
  scanEmployees _ := ⟨employees.rows, none⟩
  queryResponses referencedCycleId _ := ⟨(responses referencedCycleId).rows, none⟩
  batchGetItem _ employeeIds :=
    ⟨(employeeIds.take 1).filterMap fun employeeId => (employees.lookup employeeId).map fun item => (employeeId, item),
      employeeIds.drop 1⟩

theorem reads_oneKeyCalls (hkeys : ∀ r, ∀ employeeId ∈ (responses r).keys, employeeId ≠ "") :
    (oneKeyCalls employees responses).Reads employees responses where
  scan := ⟨_, .last rfl, by rw [List.flatten_singleton]⟩
  query := fun _ => ⟨_, .last rfl, by rw [List.flatten_singleton]⟩
  batch := by
    intro call keys hsome _ _
    cases keys with
    | nil => exact absurd rfl hsome
    | cons key keys => exact ⟨[key], List.cons_ne_nil _ _, List.Perm.refl _, List.Perm.refl _⟩
  ne_empty := hkeys

/-- One employee that was not reached, one that was deleted since, and one that answered. -/
def threeEmployees : Store String Item :=
  (((∅ : Store String Item).insert "e1" { name := some (.str "A"), phoneNumber := some (.str "+819012345678") }).insert "e2"
    { name := some (.str "B"), phoneNumber := some (.str "+819012345679"), deleted := some (.bool true) }).insert "e3"
    { name := some (.str "C"), phoneNumber := some (.str "+819012345670") }

def threeResponses (_ : String) : Store String (Option Value) :=
  (((∅ : Store String (Option Value)).insert "e1" (some (.str "UNREACHABLE"))).insert "e2" (some (.str "OTHER"))).insert "e3"
    (some (.str "SAFE"))

def redialEvent : Event where
  cycleId := some (.str "c2")
  mode := some (.str "UNREACHABLE_ONLY")
  referencedCycleId := some (.str "c1")

theorem ne_empty_of_mem_threeResponses (r : String) (employeeId : String) (hmem : employeeId ∈ (threeResponses r).keys) :
    employeeId ≠ "" := by
  have hlist : employeeId ∈ ["e3", "e2", "e1"] := hmem
  intro hempty
  rw [hempty] at hlist
  exact absurd hlist (by decide)

theorem targets_exact_threeEmployees : ∃ fuel output,
    (oneKeyCalls threeEmployees threeResponses).lambdaHandler fuel redialEvent = some (.ok output) ∧
    "e1" ∈ output.targets.map TargetItem.employeeId ∧ "e2" ∉ output.targets.map TargetItem.employeeId := by
  have hselected : Selected threeEmployees threeResponses (some "c1") "e1" := by
    refine ⟨{ name := some (.str "A"), phoneNumber := some (.str "+819012345678") }, rfl, by decide, ?_⟩
    intro r hr
    exact .inl rfl
  obtain ⟨enough, result, hends, hresult⟩ :=
    @targets_exact threeEmployees threeResponses Unit _ (reads_oneKeyCalls ne_empty_of_mem_threeResponses) redialEvent
      "c2" (some "c1") rfl (by decide) (.unreachableOnly rfl rfl (by decide))
  cases hresult with
  | unhashable hunhashable =>
    obtain ⟨r, -, employeeId, voiceStatus, hrow, hstatus⟩ := hunhashable
    have hlist : (employeeId, voiceStatus) ∈ [("e3", some (Value.str "SAFE")), ("e2", some (Value.str "OTHER")),
        ("e1", some (Value.str "UNREACHABLE"))] := Store.mem_rows.2 hrow
    simp only [List.mem_cons, Prod.mk.injEq, List.not_mem_nil, or_false] at hlist
    obtain ⟨-, rfl⟩ | ⟨-, rfl⟩ | ⟨-, rfl⟩ := hlist <;> simp [IsUnhashable] at hstatus
  | nobody _ hnobody => exact absurd hselected (hnobody "e1")
  | @nameless employeeId item _ _ hitem hname =>
    have hlist : (employeeId, item) ∈ threeEmployees.rows := Store.mem_rows.2 hitem
    have hrows : (threeEmployees.rows.all fun entry => entry.2.name.isSome) = true := rfl
    have hsome := List.all_eq_true.1 hrows _ hlist
    rw [hname] at hsome
    cases hsome
  | @found output _ _ _ _ hexact =>
    refine ⟨enough, output, hends enough (Nat.le_refl _), (hexact.selected "e1").2 hselected, ?_⟩
    exact hexact.notDeleted "e2" _ rfl rfl

/-- A visible employee without a name. -/
def namelessEmployee : Store String Item :=
  (∅ : Store String Item).insert "e1" { phoneNumber := some (.str "+819012345678") }

/-- A row of the referenced cycle whose status is a list. -/
def listedResponses (_ : String) : Store String (Option Value) := (threeResponses "c1").insert "e3" (some (.list []))

def allEvent : Event where
  cycleId := some (.str "c2")
  mode := some (.str "ALL")

/-- Somebody is selected, and no target comes back: for want of a name, and for a status that cannot be looked up. -/
theorem raises_though_selected :
    (Selected namelessEmployee threeResponses none "e1" ∧ ∀ fuel, 0 < fuel →
      (oneKeyCalls namelessEmployee threeResponses).lambdaHandler fuel allEvent = some (.error (.other "KeyError"))) ∧
    Selected threeEmployees listedResponses (some "c1") "e1" ∧ ∀ fuel, 0 < fuel →
      (oneKeyCalls threeEmployees listedResponses).lambdaHandler fuel redialEvent =
        some (.error (.typeError "unhashable type: 'list'")) := by
  refine ⟨⟨?_, fun fuel hfuel => ?_⟩, ?_, fun fuel hfuel => ?_⟩
  · exact ⟨{ phoneNumber := some (.str "+819012345678") }, rfl, by decide, by simp⟩
  · obtain ⟨fuel, rfl⟩ := Nat.exists_eq_add_one.2 hfuel
    rfl
  · refine ⟨{ name := some (.str "A"), phoneNumber := some (.str "+819012345678") }, rfl, by decide, fun r _ => ?_⟩
    exact .inl rfl
  · obtain ⟨fuel, rfl⟩ := Nat.exists_eq_add_one.2 hfuel
    rfl

end Exactness

end LoadTargets

end SafetyConfirmation
