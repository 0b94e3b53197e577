import SafetyConfirmation.Lib.StepMachine
import SafetyConfirmation.Cycle.Api
import SafetyConfirmation.Dictionary.Handler

/-!
# Concurrent writers and cycle starts

DictionaryApi requests and CycleApi starts that run at the same time, one DynamoDB call of one of them at a step.
A scan reads page after page in the order of the table, a batch puts its rows one by one in any order, and `wins`
records who won which version.
-/

namespace SafetyConfirmation

namespace Dictionary

open KeyedStore StepMachine

/-! ### A DictionaryApi request -/

/-- A request at its next DynamoDB call. `ι` is the order in which a scan returns keys. -/
inductive Writer (ι : Type) where
  | lookup (w : KeywordWrite) (expected : ExpectedVersion)
  | increment (w : KeywordWrite) (expected : ExpectedVersion)
  | row (w : KeywordWrite) (version : Int)
  | scan (w : KeywordWrite) (version : Int) (cursor : Option ι) (found : List Key)
  | batch (w : KeywordWrite) (version : Int) (pending : List Key)
  | answered (response : HttpResponse)

/-- What DynamoDB chooses: how far a page of a scan reaches (`none` for the last one) and which row of a batch is put
next. -/
inductive Call (ι : Type) where
  | next
  | page (upTo : Option ι)
  | put (key : Key)

namespace Writer

variable {ι : Type}

def start (request : Request) : Option (Writer ι) :=
  match parseRequest request with
  | some (.ok (w, expected)) => some (if w.op = .update then lookup w expected else increment w expected)
  | some (.error e) => some (answered (.error 400 e.message))
  | none => none

/-- The request when `pending` is what its batch still has to put. -/
def afterPut (w : KeywordWrite) (version : Int) (pending : List Key) : Writer ι :=
  if pending = [] then answered (success w version) else batch w version pending

/-- The write and the version of a request that has won one and has not been answered. -/
def held : Writer ι → Option (KeywordWrite × Int)
  | row w version | scan w version _ _ | batch w version _ => some (w, version)
  | _ => none

variable [LinearOrder ι] (position : Key → ι)

/-- The keys of a page: those after the cursor, as far as the page reaches. -/
def page (dictionary : Store Key Row) (cursor upTo : Option ι) : List Key :=
  (scanAllActive dictionary).filter fun key =>
    cursor.all (fun c => decide (c < position key)) && upTo.all fun u => decide (position key ≤ u)

def call (tables : Tables) : Writer ι → Call ι → Option (Writer ι × Tables)
  | lookup w expected, .next =>
    if (tables.dictionary.lookup w.key).isNone then some (answered (keywordNotFound w.key), tables)
    else some (increment w expected, tables)
  | increment w expected, .next =>
    if (incrementVersion expected).condition (tables.dictionary.lookup metaKey) then
      some (row w (expected.toInt + 1),
        { tables with dictionary := tables.dictionary.write metaKey (incrementVersion expected) })
    else some (answered conflict, tables)
  | row w version, .next =>
    if (w.write version).condition (tables.dictionary.lookup w.key) then
      some (scan w version none [], { tables with dictionary := tables.dictionary.write w.key (w.write version) })
    else some (answered conflict, tables)
  | scan w version cursor found, .page (some upTo) =>
    if cursor.all (fun c => decide (c < upTo)) then
      some (scan w version (some upTo) (found ++ page position tables.dictionary cursor (some upTo)), tables)
    else none
  | scan w version cursor found, .page none =>
    some (afterPut w version (found ++ page position tables.dictionary cursor none), tables)
  | batch w version pending, .put key =>
    if key ∈ pending then
      some (afterPut w version (pending.erase key), { tables with history := putHistoryRow tables.history version key })
    else none
  | _, _ => none

inductive Moves (tables : Tables) : Writer ι → Call ι → Writer ι → Tables → Prop where
  | refused {writer : Writer ι} {response : HttpResponse} (h : response = conflict ∨ ∃ key, response = keywordNotFound key)
      (hheld : ∀ w version, writer.held = some (w, version) →
        writer = row w version ∧ (w.write version).condition (tables.dictionary.lookup w.key) = false) :
      Moves tables writer .next (answered response) tables
  | found {w : KeywordWrite} {expected : ExpectedVersion} :
      Moves tables (lookup w expected) .next (increment w expected) tables
  | won {w : KeywordWrite} {expected : ExpectedVersion}
      (h : (incrementVersion expected).condition (tables.dictionary.lookup metaKey) = true) :
      Moves tables (increment w expected) .next (row w (expected.toInt + 1))
        { tables with dictionary := tables.dictionary.write metaKey (incrementVersion expected) }
  | written {w : KeywordWrite} {version : Int}
      (h : (w.write version).condition (tables.dictionary.lookup w.key) = true) :
      Moves tables (row w version) .next (scan w version none [])
        { tables with dictionary := tables.dictionary.write w.key (w.write version) }
  | paged {w : KeywordWrite} {version : Int} {cursor : Option ι} {found : List Key} {upTo : ι}
      (h : cursor.all (fun c => decide (c < upTo)) = true) :
      Moves tables (scan w version cursor found) (.page (some upTo))
        (scan w version (some upTo) (found ++ page position tables.dictionary cursor (some upTo))) tables
  | scanned {w : KeywordWrite} {version : Int} {cursor : Option ι} {found : List Key} :
      Moves tables (scan w version cursor found) (.page none)
        (afterPut w version (found ++ page position tables.dictionary cursor none)) tables
  | put {w : KeywordWrite} {version : Int} {pending : List Key} {key : Key} (h : key ∈ pending) :
      Moves tables (batch w version pending) (.put key) (afterPut w version (pending.erase key))
        { tables with history := putHistoryRow tables.history version key }

variable {position}

theorem moves_of_call {tables tables' : Tables} {writer writer' : Writer ι} {c : Call ι}
    (h : writer.call position tables c = some (writer', tables')) : Moves position tables writer c writer' tables' := by
  unfold call at h
  split at h
  · split at h
    · cases h
      exact .refused (.inr ⟨_, rfl⟩) (fun _ _ hheld => by cases hheld)
    · cases h
      exact .found
  · split at h
    · rename_i hcondition
      cases h
      exact .won hcondition
    · cases h
      exact .refused (.inl rfl) (fun _ _ hheld => by cases hheld)
  · split at h
    · rename_i hcondition
      cases h
      exact .written hcondition
    · rename_i hcondition
      cases h
      refine .refused (.inl rfl) ?_
      intro w version hheld
      cases hheld
      exact ⟨rfl, Bool.eq_false_of_not_eq_true hcondition⟩
  · split at h
    · rename_i hcursor
      cases h
      exact .paged hcursor
    · cases h
  · cases h
    exact .scanned
  · split at h
    · rename_i hpending
      cases h
      exact .put hpending
    · cases h
  · cases h

/-! ### A request with nothing in between -/

def alone (position : Key → ι) (s : Writer ι × Tables) (c : Call ι) : Option (Writer ι × Tables) :=
  s.1.call position s.2 c

theorem exec_puts (w : KeywordWrite) (version : Int) (pending : List Key) (tables : Tables) :
    exec (alone position) (afterPut w version pending, tables) (pending.map .put) =
      some (answered (success w version), { tables with
        history := pending.foldl (fun history key => putHistoryRow history version key) tables.history }) := by
  induction pending generalizing tables with
  | nil => rfl
  | cons key rest ih =>
    have hput : alone position (afterPut w version (key :: rest), tables) (.put key) =
        some (afterPut w version rest, { tables with history := putHistoryRow tables.history version key }) := by
      rw [afterPut, if_neg (List.cons_ne_nil key rest), alone, call, if_pos List.mem_cons_self, List.erase_cons_head]
    rw [List.map_cons, exec_cons, hput]
    exact ih _

/-- A request whose calls follow one another does what the handler does. -/
theorem exec_alone (w : KeywordWrite) (expected : ExpectedVersion) (tables : Tables) :
    ∃ calls, exec (alone position) (if w.op = .update then lookup w expected else increment w expected, tables) calls =
      some (answered (applyWrite w expected tables).1, (applyWrite w expected tables).2) := by
  have hincrement : ¬ (w.op = .update ∧ (tables.dictionary.lookup w.key).isNone = true) →
      ∃ calls, exec (alone position) (increment w expected, tables) calls =
        some (answered (applyWrite w expected tables).1, (applyWrite w expected tables).2) := by
    intro hpatch
    rw [applyWrite, if_neg hpatch]
    by_cases hwins : (incrementVersion expected).condition (tables.dictionary.lookup metaKey) = true
    · rw [if_pos hwins]
      let dictionary := tables.dictionary.write metaKey (incrementVersion expected)
      have hwon : alone position (increment w expected, tables) .next =
          some (row w (expected.toInt + 1), { tables with dictionary }) := by
        rw [alone, call, if_pos hwins]
      by_cases hrow : (w.write (expected.toInt + 1)).condition (dictionary.lookup w.key) = true
      · let written : Tables := { tables with dictionary := dictionary.write w.key (w.write (expected.toInt + 1)) }
        have hwritten : alone position (row w (expected.toInt + 1), { tables with dictionary }) .next =
            some (scan w (expected.toInt + 1) none [], written) := by
          rw [alone, call, if_pos hrow]
        have hpage : page position written.dictionary none none = scanAllActive written.dictionary := by
          simp [page]
        have hscanned : alone position (scan w (expected.toInt + 1) none [], written) (.page none) =
            some (afterPut w (expected.toInt + 1) (scanAllActive written.dictionary), written) := by
          rw [alone, call, List.nil_append, hpage]
        refine ⟨.next :: .next :: .page none :: (scanAllActive written.dictionary).map .put, ?_⟩
        dsimp only
        rw [if_pos hrow, exec_cons, hwon, Option.bind_some, exec_cons, hwritten, Option.bind_some, exec_cons, hscanned,
          Option.bind_some, exec_puts]
        rfl
      · have hlost : alone position (row w (expected.toInt + 1), { tables with dictionary }) .next =
            some (answered conflict, { tables with dictionary }) := by
          rw [alone, call, if_neg hrow]
        refine ⟨[.next, .next], ?_⟩
        dsimp only
        rw [if_neg hrow, exec_cons, hwon, Option.bind_some, exec_singleton, hlost]
    · refine ⟨[.next], ?_⟩
      rw [if_neg hwins, exec_singleton, alone, call, if_neg hwins]
  by_cases hop : w.op = .update
  · rw [if_pos hop]
    by_cases hnone : (tables.dictionary.lookup w.key).isNone = true
    · refine ⟨[.next], ?_⟩
      rw [exec_singleton, alone, call, if_pos hnone, applyWrite, if_pos ⟨hop, hnone⟩]
    · obtain ⟨calls, hcalls⟩ := hincrement fun hpatch => hnone hpatch.2
      refine ⟨.next :: calls, ?_⟩
      have hfound : alone position (lookup w expected, tables) .next = some (increment w expected, tables) := by
        rw [alone, call, if_neg hnone]
      rw [exec_cons, hfound]
      exact hcalls
  · rw [if_neg hop]
    exact hincrement fun hpatch => hop hpatch.1

end Writer

/-! ### A CycleApi start -/

/-- A POST of a cycle at its next DynamoDB call. -/
inductive Start where
  | probe (request : CycleApi.Request) (categories : List Category) (found : Bool)
  | queryRunning (request : CycleApi.Request)
  | readVersion (request : CycleApi.Request)
  | put (request : CycleApi.Request) (dictVersion : Int)
  | accepted (cycleId : String)
  | refused (answer : CycleApi.Answer)

def Start.call (tables : Tables) (cycles : Store String Cycle) (cycleId : String) (startedAt : Instant) :
    Start → Option (Start × Store String Cycle)
  | probe request (category :: categories) found =>
    let found := found || (scanAllActive tables.dictionary).any fun key => key.1 == category.name
    match categories with
    | [] => some (if found then queryRunning request else refused .dictionaryEmpty, cycles)
    | _ => some (probe request categories found, cycles)
  | queryRunning request =>
    match CycleApi.refuse request false cycles with
    | some answer => some (refused answer, cycles)
    | none => some (readVersion request, cycles)
  | readVersion request => some (put request (currentVersion tables.dictionary), cycles)
  | put request dictVersion =>
    if (cycles.lookup cycleId).isNone then
      some (accepted cycleId, cycles.write cycleId (.put (CycleApi.newCycle request dictVersion startedAt)))
    else none
  | _ => none

/-! ### The interleavings -/

structure Win where
  request : Nat
  version : Int
  write : KeywordWrite
  deriving DecidableEq

structure State (ι : Type) where
  tables : Tables := {}
  cycles : Store String Cycle := ∅
  writers : Store Nat (Writer ι) := ∅
  starts : Store Nat Start := ∅
  wins : List Win := []

inductive Label (ι : Type) where
  | request (i : Nat) (request : Request)
  | writer (i : Nat) (call : Call ι)
  | cycle (j : Nat) (request : CycleApi.Request)
  | start (j : Nat) (cycleId : String) (startedAt : Instant)
  | startFailed (cycleId : String)
  | finish (cycleId : String) (newStatus : CycleStatus) (now : Instant)

variable {ι : Type}

def winOf (i : Nat) : Writer ι → Writer ι → List Win
  | .increment w _, .row _ version => [{ request := i, version, write := w }]
  | _, _ => []

variable [LinearOrder ι]

def step (position : Key → ι) (s : State ι) : Label ι → Option (State ι)
  | .request i request =>
    if (s.writers.lookup i).isNone then
      (Writer.start request).map fun writer => { s with writers := s.writers.set i (some writer) }
    else none
  | .writer i call =>
    (s.writers.lookup i).bind fun writer =>
      (writer.call position s.tables call).map fun next =>
        { s with
          tables := next.2
          writers := s.writers.set i (some next.1)
          wins := s.wins ++ winOf i writer next.1 }
  | .cycle j request =>
    if (s.starts.lookup j).isNone then
      some { s with starts := s.starts.set j (some (.probe request [.safe, .injured, .unavailable] false)) }
    else none
  | .start j cycleId startedAt =>
    (s.starts.lookup j).bind fun start =>
      (start.call s.tables s.cycles cycleId startedAt).map fun next =>
        { s with starts := s.starts.set j (some next.1), cycles := next.2 }
  | .startFailed cycleId => some { s with cycles := s.cycles.write cycleId Cycle.setStartFailed }
  | .finish cycleId newStatus now => some { s with cycles := s.cycles.write cycleId (Cycle.setCycleStatus newStatus now) }

end Dictionary

end SafetyConfirmation
