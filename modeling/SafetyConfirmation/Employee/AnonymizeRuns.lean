import SafetyConfirmation.Employee.Anonymize
import SafetyConfirmation.Employee.CognitoRemoval

/-!
# What an anonymisation keeps

The row that the writes of all components alone make for a cycle is, under the guard, the row under the old id or the one
under the new id, and each copy that a request still holds is that row. A request that finds nothing more to rewrite has then
left all of them under the new id.
-/

namespace SafetyConfirmation

namespace EmployeeApi

open KeyedStore StepMachine Interleaving

namespace Anonymizing

section

variable (library : Library) (employeeId salt : String)

def anonymizedId : String := library.anonymizeEmployeeId employeeId salt

/-- The row of a cycle before anything is done, under the one id or the other. -/
def firstRow (start : World) (cycleId : String) : Option Response :=
  (start.responses.lookup (cycleId, employeeId)).or (start.responses.lookup (cycleId, anonymizedId library employeeId salt))

/-- The row of a cycle with every write that was carried out, as if nothing were rewritten. -/
def expected (start : World) (log : List WorkEntry) (cycleId : String) : Option Response :=
  log.foldr (fun entry row =>
    match entry.call with
    | .inl _ => row
    | .inr c => if c.cycleId = cycleId ∧ entry.environment.carriesOut = true then c.write.run row else row)
    (firstRow library employeeId salt start cycleId)

abbrev anyRewriting : Program.Spec AnyCall AnyResult PyError Copies := (rewriting library employeeId salt).inl

def copiesOf (log : List WorkEntry) (i : Nat) : Copies := reached (anyRewriting library employeeId salt) {} i log

variable {employeeId salt} in
/-- A request that has not ended has a copy of the row. -/
def held (p : Works employeeId salt) (cycleId : String) : Bool :=
  p.threads.zipIdx.any fun thread =>
    thread.1.call?.isSome && (copiesOf library employeeId salt p.log thread.2).rows.any fun row => row.1.1 == cycleId

variable {employeeId salt} in
/-- The write that a thread is at. -/
def writeAt (p : Works employeeId salt) (i : Nat) : Option ResponseWrite :=
  (p.threads[i]?.bind Thread.call?).bind Sum.getRight?

variable {employeeId salt} in
/-- No row is written that a request is about to put back from a copy, that has been rewritten, or whose cycle is unknown. -/
def Undisturbed (p : Works employeeId salt) : WorkLabel employeeId salt → Prop
  | .start _ => True
  | .call i _ => ∀ c ∈ writeAt p i, c.cycleId ∈ p.world.cycles.keys ∧
      p.world.responses.lookup (c.cycleId, anonymizedId library employeeId salt) = none ∧ held library p c.cycleId = false

variable {employeeId salt} in
/-- The other components write nothing more. -/
def Quiet (p : Works employeeId salt) : WorkLabel employeeId salt → Prop
  | .start _ => True
  | .call i _ => writeAt p i = none

instance (p : Works employeeId salt) : DecidablePred (Undisturbed library p)
  | .start _ => .isTrue trivial
  | .call i _ => inferInstanceAs (Decidable (∀ c ∈ writeAt p i, _))

instance (p : Works employeeId salt) : DecidablePred (Quiet p)
  | .start _ => .isTrue trivial
  | .call i _ => inferInstanceAs (Decidable (writeAt p i = none))

/-- Each row of the employee has its cycle in the Cycle table, and no cycle has a row under both ids. -/
structure Ready (start : World) : Prop where
  known : ∀ cycleId row, start.responses.lookup (cycleId, employeeId) = some row → cycleId ∈ start.cycles.keys
  one : ∀ cycleId, start.responses.lookup (cycleId, employeeId) = none ∨
    start.responses.lookup (cycleId, anonymizedId library employeeId salt) = none

variable {employeeId salt} in
/-- No row is left under the old id, each row is under the new id with all that was written, and no transaction was too
large. -/
structure Anonymized (start : World) (t : Works employeeId salt) : Prop where
  gone : ∀ cycleId, t.world.responses.lookup (cycleId, employeeId) = none
  lossless : ∀ cycleId, t.world.responses.lookup (cycleId, anonymizedId library employeeId salt) =
    expected library employeeId salt start t.log cycleId
  small : ∀ entry ∈ t.log, ∀ rows anonymizedId, entry.call = .inl (.transactRewrite rows anonymizedId) →
    2 * rows.length ≤ transactMaxItems

variable {employeeId salt} in
/-- The thread has answered 200 and rewritten nothing. -/
def NothingLeft (t : Works employeeId salt) (i : Nat) : Prop :=
  ∃ thread response, t.threads[i]? = some thread ∧ thread.result? = some (.ok (some response)) ∧
    response.statusCode = 200 ∧ response.body.get? "responseCountUpdated" = some (.int 0)

end

/-! ### What the threads do -/

section

variable (library : Library) {employeeId salt : String}

/-- A request keeps to `rewriting`, and the other components write rows of the employee. -/
def workSpec (work : Work employeeId salt) : Program.Spec AnyCall AnyResult PyError Copies where
  allowed copies c :=
    match work with
    | .anonymize _ => (anyRewriting library employeeId salt).allowed copies c
    | _ => ∃ r : ResponseWrite, c = .inr r ∧ r.employeeId = employeeId
  possible := (anyRewriting library employeeId salt).possible
  advance := (anyRewriting library employeeId salt).advance

def CountedIf (result : Except PyError (Option HttpResponse)) (copies : Copies) : Prop :=
  ∀ response, result = .ok (some response) → Counted (.ok response) copies

variable {library}

theorem wp_writeRows {work : Work employeeId salt} (hallowed : ∀ copies c, (workSpec library work).allowed copies c ↔
      ∃ r : ResponseWrite, c = .inr r ∧ r.employeeId = employeeId) (cycleId : String) (writes : List (Write Response)) :
    (writeRows employeeId cycleId writes).wp (workSpec library work) CountedIf {} := by
  refine Program.wp_bind.2 (@Program.wp_forEach _ _ _ _ _ _ _ _ _ (fun _ _ => True) _ trivial ?_ ?_)
  · intro write rest copies _
    refine Program.wp_perform.2 ⟨(hallowed _ _).2 ⟨_, rfl, rfl⟩, fun answer _ => ?_⟩
    cases answer with
    | ok _ => trivial
    | error e => exact fun response h => nomatch h
  · exact fun copies _ response h => nomatch h

theorem wp_program (work : Work employeeId salt) :
    (work.program library).wp (workSpec library work) (fun result copies => CountedIf result copies) {} := by
  cases work with
  | anonymize request =>
    refine Program.wp_bind.2 (Program.wp_mono ?_ (Program.wp_inl.2 (wp_lambdaHandler_rewriting request)))
    intro result copies hcounted
    cases result with
    | error e => exact fun response h => nomatch h
    | ok response =>
      intro response' h
      cases h
      exact hcounted
  | recordResponse cycleId c | recordOtherFallback cycleId | appendInboundToResponse cycleId
  | finalizeOne cycleId finalStatus now => exact wp_writeRows (fun _ _ => Iff.rfl) _ _

theorem possible_workSpec (work : Work employeeId salt) (copies : Copies) (c : AnyCall) (answer : Except PyError (AnyResult c)) :
    (workSpec library work).possible copies c answer := by
  cases c <;> trivial

abbrev Followed (library : Library) (p : Works employeeId salt) : Prop :=
  Follows (workSpec library) (fun _ => {}) (fun _ => CountedIf) p

theorem followed_step {p t : Works employeeId salt} {label : WorkLabel employeeId salt} (hp : Followed library p)
    (h : step (workService library employeeId salt) p label = some t) : Followed library t :=
  follows_step hp wp_program (fun _ _ _ _ _ _ _ => possible_workSpec _ _ _ _) h

/-! ### One row for each cycle -/

/-- Under one of the ids each cycle has the row that it should have, and the rows under the old id are to be found. -/
structure Kept (library : Library) (employeeId salt : String) (w : World) (row : String → Option Response) : Prop where
  one : ∀ cycleId, w.responses.lookup (cycleId, employeeId) = none ∨
    w.responses.lookup (cycleId, anonymizedId library employeeId salt) = none
  either : ∀ cycleId, (w.responses.lookup (cycleId, employeeId)).or
    (w.responses.lookup (cycleId, anonymizedId library employeeId salt)) = row cycleId
  known : ∀ cycleId r, w.responses.lookup (cycleId, employeeId) = some r → cycleId ∈ w.cycles.keys

variable {w : World} {row : String → Option Response}

theorem Kept.write (h : Kept library employeeId salt w row) (hne : anonymizedId library employeeId salt ≠ employeeId)
    {cycleId : String} (hknown : cycleId ∈ w.cycles.keys)
    (hfresh : w.responses.lookup (cycleId, anonymizedId library employeeId salt) = none) (change : Write Response) :
    Kept library employeeId salt { w with responses := w.responses.write (cycleId, employeeId) change }
      fun c => if cycleId = c then change.run (row c) else row c := by
  have hnew : ∀ c, (w.responses.write (cycleId, employeeId) change).lookup (c, anonymizedId library employeeId salt) =
      w.responses.lookup (c, anonymizedId library employeeId salt) := fun c =>
    Store.lookup_write_ne _ _ fun heq => hne (Prod.mk.inj heq).2
  have hold : ∀ c, c ≠ cycleId → (w.responses.write (cycleId, employeeId) change).lookup (c, employeeId) =
      w.responses.lookup (c, employeeId) := fun c hc =>
    Store.lookup_write_ne _ _ fun heq => hc (Prod.mk.inj heq).1
  have hrow : w.responses.lookup (cycleId, employeeId) = row cycleId := by
    rw [← h.either, hfresh, Option.or_none]
  refine ⟨fun c => ?_, fun c => ?_, fun c r hr => ?_⟩
  · dsimp only
    rw [hnew]
    by_cases hc : c = cycleId
    · subst c
      exact .inr hfresh
    · rw [hold c hc]
      exact h.one c
  · dsimp only
    rw [hnew]
    by_cases hc : c = cycleId
    · subst c
      rw [if_pos rfl, Store.lookup_write_self, hfresh, Option.or_none, hrow]
    · rw [if_neg (Ne.symm hc), hold c hc]
      exact h.either c
  · by_cases hc : c = cycleId
    · subst c
      exact hknown
    · dsimp only at hr
      rw [hold c hc] at hr
      exact h.known c r hr

/-- A row that is put back from a copy is there as it should be. -/
theorem Kept.rewrite (h : Kept library employeeId salt w row) (hne : anonymizedId library employeeId salt ≠ employeeId)
    {copy : (String × String) × Response} (hid : copy.1.2 = employeeId) (hcopy : row copy.1.1 = some copy.2) :
    Kept library employeeId salt
      { w with responses := EmployeeApi.rewrite (anonymizedId library employeeId salt) w.responses copy } row := by
  obtain ⟨⟨cycleId, id⟩, r⟩ := copy
  dsimp only at hid hcopy
  subst id
  have hlookup : ∀ key, (EmployeeApi.rewrite (anonymizedId library employeeId salt) w.responses
      ((cycleId, employeeId), r)).lookup key =
        if key = (cycleId, anonymizedId library employeeId salt) then some r
        else if key = (cycleId, employeeId) then none else w.responses.lookup key := by
    intro key
    rw [EmployeeApi.rewrite, Store.lookup_set, Store.lookup_set]
  have hself : (cycleId, employeeId) ≠ (cycleId, anonymizedId library employeeId salt) := fun heq =>
    hne (Prod.mk.inj heq).2.symm
  refine ⟨fun c => ?_, fun c => ?_, fun c r' hr => ?_⟩
  · dsimp only
    rw [hlookup, hlookup]
    by_cases hc : c = cycleId
    · subst c
      rw [if_neg hself, if_pos rfl]
      exact .inl rfl
    · simp only [Prod.mk.injEq, hc, false_and, if_false]
      exact h.one c
  · dsimp only
    rw [hlookup, hlookup]
    by_cases hc : c = cycleId
    · subst c
      rw [if_neg hself, if_pos rfl, if_pos rfl, hcopy]
      rfl
    · simp only [Prod.mk.injEq, hc, false_and, if_false]
      exact h.either c
  · dsimp only at hr
    rw [hlookup] at hr
    by_cases hc : c = cycleId
    · subst c
      rw [if_neg hself, if_pos rfl] at hr
      cases hr
    · simp only [Prod.mk.injEq, hc, false_and, if_false] at hr
      exact h.known c r' hr

theorem Kept.foldl_rewrite (h : Kept library employeeId salt w row)
    (hne : anonymizedId library employeeId salt ≠ employeeId) {copies : List ((String × String) × Response)}
    (hcopies : ∀ copy ∈ copies, copy.1.2 = employeeId ∧ row copy.1.1 = some copy.2) :
    Kept library employeeId salt
      { w with responses := copies.foldl (EmployeeApi.rewrite (anonymizedId library employeeId salt)) w.responses } row := by
  induction copies generalizing w with
  | nil => exact h
  | cons copy copies ih =>
    obtain ⟨hid, hcopy⟩ := hcopies copy List.mem_cons_self
    exact ih (h.rewrite hne hid hcopy) fun copy' hmem => hcopies copy' (List.mem_cons_of_mem _ hmem)

/-! ### What a call does -/

theorem respond_tables (w : World) (environment : Environment) (c : Call) :
    (respond w environment c).2.cycles = w.cycles ∧
      ((respond w environment c).2.responses = w.responses ∨ ∃ rows anonymizedId, c = .transactRewrite rows anonymizedId ∧
        (respond w environment c).2.responses = rows.foldl (EmployeeApi.rewrite anonymizedId) w.responses) := by
  have hact : (act w environment c).2.cycles = w.cycles ∧
      ((act w environment c).2.responses = w.responses ∨ ∃ rows anonymizedId, c = .transactRewrite rows anonymizedId ∧
        (act w environment c).2.responses = rows.foldl (EmployeeApi.rewrite anonymizedId) w.responses) := by
    cases c with
    | transactRewrite rows anonymizedId => exact ⟨rfl, .inr ⟨rows, anonymizedId, rfl, rfl⟩⟩
    | adminCreateUser email name | adminAddUserToGroup email groupName | adminDeleteUser username =>
      rw [act]
      split <;> exact ⟨rfl, .inl rfl⟩
    | _ => exact ⟨rfl, .inl rfl⟩
  rw [respond]
  cases environment.fault with
  | none => exact hact
  | some fault =>
    dsimp only
    split
    · exact hact
    · exact ⟨rfl, .inl rfl⟩

theorem respondAny_inr (w : World) (environment : Environment) (c : ResponseWrite) :
    (respondAny w environment (.inr c)).2 = if environment.carriesOut then
      { w with responses := w.responses.write (c.cycleId, c.employeeId) c.write } else w := by
  rw [respondAny, Environment.carriesOut]
  cases environment.fault with
  | none => rfl
  | some fault => rfl

/-- A query answers with the row of the employee, if it answers. -/
theorem respond_queryResponses {w : World} {environment : Environment} {cycleId : String}
    {rows : List ((String × String) × Response)}
    (h : (respond w environment (.queryResponses cycleId employeeId)).1 = .ok rows) :
    rows = ((w.responses.lookup (cycleId, employeeId)).map fun row => ((cycleId, employeeId), row)).toList := by
  rw [respond] at h
  cases hfault : environment.fault with
  | none =>
    rw [hfault] at h
    cases h
    rfl
  | some fault =>
    rw [hfault] at h
    cases h

theorem respond_scanCycleIds {w : World} {environment : Environment} {cycleIds : List String}
    (h : (respond w environment .scanCycleIds).1 = .ok cycleIds) : cycleIds = w.cycles.keys := by
  rw [respond] at h
  cases hfault : environment.fault with
  | none =>
    rw [hfault] at h
    cases h
    rfl
  | some fault =>
    rw [hfault] at h
    cases h

theorem copiesOf_inr (log : List WorkEntry) (i j : Nat) (environment : Environment) (c : ResponseWrite)
    (answer : Except PyError Unit) :
    copiesOf library employeeId salt ({ thread := i, environment, call := .inr c, answer } :: log) j =
      copiesOf library employeeId salt log j :=
  ite_self _

theorem copiesOf_inl_self (log : List WorkEntry) (i : Nat) (environment : Environment) (c : Call)
    (answer : Except PyError (Result c)) :
    copiesOf library employeeId salt ({ thread := i, environment, call := .inl c, answer } :: log) i =
      (copiesOf library employeeId salt log i).advance c answer :=
  if_pos rfl

theorem copiesOf_inl_ne (log : List WorkEntry) {i j : Nat} (h : i ≠ j) (environment : Environment) (c : Call)
    (answer : Except PyError (Result c)) :
    copiesOf library employeeId salt ({ thread := i, environment, call := .inl c, answer } :: log) j =
      copiesOf library employeeId salt log j :=
  if_neg h

theorem expected_inr (start : World) (log : List WorkEntry) (i : Nat) (environment : Environment) (c : ResponseWrite)
    (answer : Except PyError Unit) :
    expected library employeeId salt start ({ thread := i, environment, call := .inr c, answer } :: log) = fun cycleId =>
      if c.cycleId = cycleId ∧ environment.carriesOut = true then
        c.write.run (expected library employeeId salt start log cycleId)
      else expected library employeeId salt start log cycleId := rfl

theorem not_held {p : Works employeeId salt} {cycleId : String} (h : held library p cycleId = false) {i : Nat}
    {thread : Thread (Work employeeId salt) AnyCall AnyResult PyError (Option HttpResponse)}
    (hthread : p.threads[i]? = some thread) (hrunning : thread.call?.isSome = true) {copy : (String × String) × Response}
    (hcopy : copy ∈ (copiesOf library employeeId salt p.log i).rows) : copy.1.1 ≠ cycleId := by
  rintro rfl
  rw [held, List.any_eq_false] at h
  refine h (thread, i) (List.mem_zipIdx_iff_getElem?.2 hthread) ?_
  rw [hrunning, Bool.true_and, List.any_eq_true]
  exact ⟨copy, hcopy, beq_self_eq_true _⟩

variable {start : World} {p t : Works employeeId salt}

theorem Followed.inl {i : Nat} {request : Work employeeId salt} {c : Call}
    {next : Except PyError (Result c) → Program AnyCall AnyResult PyError (Option HttpResponse)} (h : Followed library p)
    (hthread : p.threads[i]? = some { request, program := .call (.inl c) next }) :
    (rewriting library employeeId salt).allowed (copiesOf library employeeId salt p.log i) c := by
  have hallowed := h.allowed hthread
  cases request with
  | anonymize request => exact hallowed
  | _ =>
    obtain ⟨r, hr, -⟩ := hallowed
    cases hr

theorem Followed.inr {i : Nat} {request : Work employeeId salt} {c : ResponseWrite}
    {next : Except PyError Unit → Program AnyCall AnyResult PyError (Option HttpResponse)} (h : Followed library p)
    (hthread : p.threads[i]? = some { request, program := .call (.inr c) next }) : c.employeeId = employeeId := by
  have hallowed := h.allowed hthread
  cases request with
  | anonymize request => exact hallowed.elim
  | _ =>
    obtain ⟨r, hr, hid⟩ := hallowed
    cases hr
    exact hid

/-! ### Every run -/

structure Sound (library : Library) (start : World) (p : Works employeeId salt) : Prop where
  followed : Followed library p
  kept : Kept library employeeId salt p.world (expected library employeeId salt start p.log)
  copies : ∀ i thread, p.threads[i]? = some thread → thread.call?.isSome = true →
    ∀ copy ∈ (copiesOf library employeeId salt p.log i).rows,
      copy.1.2 = employeeId ∧ expected library employeeId salt start p.log copy.1.1 = some copy.2
  scanned : ∀ i cycleIds, (copiesOf library employeeId salt p.log i).cycleIds = some cycleIds → cycleIds = start.cycles.keys
  cycles : p.world.cycles = start.cycles
  small : ∀ entry ∈ p.log, ∀ rows anonymizedId, entry.call = .inl (.transactRewrite rows anonymizedId) →
    2 * rows.length ≤ transactMaxItems

theorem sound_start (h : Ready library employeeId salt start) :
    Sound library start ({ world := start } : Works employeeId salt) where
  followed := follows_start start
  kept := ⟨h.one, fun _ => rfl, h.known⟩
  copies _ _ hthread := (Option.some_ne_none _ hthread.symm).elim
  scanned _ _ h := (Option.some_ne_none _ h.symm).elim
  cycles := rfl
  small _ hmem := (List.not_mem_nil hmem).elim

theorem copiesOf_of_length_le (h : Followed library p) {i : Nat} (hi : p.threads.length ≤ i) :
    copiesOf library employeeId salt p.log i = {} :=
  reached_of_forall_ne _ _ fun entry hmem => by
    have hlogged := h.logged entry hmem
    omega

theorem sound_arrival (hp : Sound library start p) {work : Work employeeId salt}
    (h : step (workService library employeeId salt) p (.start work) = some t) : Sound library start t := by
  have hfollowed := followed_step hp.followed h
  cases step_cases h with
  | start request hadmits =>
    refine ⟨hfollowed, hp.kept, fun i thread hthread hrunning copy hcopy => ?_, hp.scanned, hp.cycles, hp.small⟩
    by_cases hi : i < p.threads.length
    · rw [List.getElem?_append_left hi] at hthread
      exact hp.copies i thread hthread hrunning copy hcopy
    · have hnone : copy ∈ (copiesOf library employeeId salt p.log i).rows := hcopy
      rw [copiesOf_of_length_le hp.followed (not_lt.1 hi)] at hnone
      exact (List.not_mem_nil hnone).elim

/-- A thread that is running after a call was running before it. -/
theorem running_before {i j : Nat} {environment : Environment} {request : Work employeeId salt} {c : AnyCall}
    {next : Except PyError (AnyResult c) → Program AnyCall AnyResult PyError (Option HttpResponse)}
    {thread : Thread (Work employeeId salt) AnyCall AnyResult PyError (Option HttpResponse)}
    (hi : p.threads[i]? = some { request, program := .call c next })
    (hj : (afterCall (workService library employeeId salt) p i environment request c next).threads[j]? = some thread)
    (hrunning : thread.call?.isSome = true) :
    ∃ before, p.threads[j]? = some before ∧ before.call?.isSome = true := by
  rw [afterCall, List.getElem?_set] at hj
  by_cases hij : i = j
  · subst j
    exact ⟨_, hi, rfl⟩
  · rw [if_neg hij] at hj
    exact ⟨thread, hj, hrunning⟩

theorem sound_write (hne : anonymizedId library employeeId salt ≠ employeeId) (hp : Sound library start p) {i : Nat}
    {environment : Environment} {request : Work employeeId salt} {c : ResponseWrite}
    {next : Except PyError Unit → Program AnyCall AnyResult PyError (Option HttpResponse)}
    (hi : p.threads[i]? = some { request, program := .call (.inr c) next })
    (hguard : Undisturbed library p (.call i environment))
    (hfollowed : Followed library (afterCall (workService library employeeId salt) p i environment request (.inr c) next)) :
    Sound library start (afterCall (workService library employeeId salt) p i environment request (.inr c) next) := by
  obtain ⟨hknown, hfresh, hfree⟩ : c.cycleId ∈ p.world.cycles.keys ∧ _ := by
    refine hguard c ?_
    rw [writeAt, hi]
    rfl
  have hid := hp.followed.inr hi
  have hrow : expected library employeeId salt start
      (afterCall (workService library employeeId salt) p i environment request (.inr c) next).log = fun cycleId =>
        if c.cycleId = cycleId ∧ environment.carriesOut = true then
          c.write.run (expected library employeeId salt start p.log cycleId)
        else expected library employeeId salt start p.log cycleId := expected_inr start p.log i environment c _
  have hworld : (afterCall (workService library employeeId salt) p i environment request (.inr c) next).world =
      if environment.carriesOut then { p.world with responses := p.world.responses.write (c.cycleId, employeeId) c.write }
      else p.world := hid ▸ respondAny_inr p.world environment c
  refine ⟨hfollowed, ?_, fun j thread hthread hrunning copy hcopy => ?_, fun j cycleIds hcycleIds => ?_, ?_,
    fun entry hmem rows id hcall => ?_⟩
  · rw [hworld, hrow]
    by_cases hout : environment.carriesOut = true
    · simp only [hout, and_true, if_true]
      exact hp.kept.write hne hknown hfresh c.write
    · simp only [hout, Bool.false_eq_true, and_false, if_false]
      exact hp.kept
  · obtain ⟨before, hbefore, hwas⟩ := running_before hi hthread hrunning
    have hcopy' : copy ∈ (copiesOf library employeeId salt p.log j).rows := by
      rw [← copiesOf_inr p.log i j environment c]
      exact hcopy
    obtain ⟨hcopyId, hsame⟩ := hp.copies j before hbefore hwas copy hcopy'
    refine ⟨hcopyId, ?_⟩
    rw [hrow]
    exact (if_neg fun h => not_held hfree hbefore hwas hcopy' h.1.symm).trans hsame
  · refine hp.scanned j cycleIds ?_
    rw [← copiesOf_inr p.log i j environment c]
    exact hcycleIds
  · rw [hworld, ← hp.cycles]
    split <;> rfl
  · obtain rfl | hmem := List.mem_cons.1 hmem
    · cases hcall
    · exact hp.small entry hmem rows id hcall

/-- What a call adds to the copies of its thread is a row that is there. -/
theorem mem_advance {w : World} {environment : Environment} {c : Call} {copies : Copies}
    (hallowed : (rewriting library employeeId salt).allowed copies c) {copy : (String × String) × Response}
    (hcopy : copy ∈ (copies.advance c (respond w environment c).1).rows) :
    copy ∈ copies.rows ∨ copy.1.2 = employeeId ∧ w.responses.lookup (copy.1.1, employeeId) = some copy.2 := by
  cases hanswer : (respond w environment c).1 with
  | error e =>
    rw [hanswer] at hcopy
    cases c <;> exact .inl hcopy
  | ok answer =>
    rw [hanswer] at hcopy
    cases c with
    | queryResponses cycleId id =>
      obtain rfl : id = employeeId := hallowed
      obtain hcopy | hcopy := List.mem_append.1 hcopy
      · exact .inl hcopy
      · rw [respond_queryResponses hanswer, Option.mem_toList, Option.map_eq_some_iff] at hcopy
        obtain ⟨row, hrow, rfl⟩ := hcopy
        exact .inr ⟨rfl, hrow⟩
    | _ => exact .inl hcopy

theorem cycleIds_advance {w : World} {environment : Environment} {c : Call} {copies : Copies} {cycleIds : List String}
    (h : (copies.advance c (respond w environment c).1).cycleIds = some cycleIds) :
    copies.cycleIds = some cycleIds ∨ cycleIds = w.cycles.keys := by
  cases hanswer : (respond w environment c).1 with
  | error e =>
    rw [hanswer] at h
    cases c <;> exact .inl h
  | ok answer =>
    rw [hanswer] at h
    cases c with
    | scanCycleIds =>
      cases h
      exact .inr (respond_scanCycleIds hanswer)
    | _ => exact .inl h

theorem sound_request (hne : anonymizedId library employeeId salt ≠ employeeId) (hp : Sound library start p) {i : Nat}
    {environment : Environment} {request : Work employeeId salt} {c : Call}
    {next : Except PyError (Result c) → Program AnyCall AnyResult PyError (Option HttpResponse)}
    (hi : p.threads[i]? = some { request, program := .call (.inl c) next })
    (hfollowed : Followed library (afterCall (workService library employeeId salt) p i environment request (.inl c) next)) :
    Sound library start (afterCall (workService library employeeId salt) p i environment request (.inl c) next) := by
  have hallowed := hp.followed.inl hi
  obtain ⟨hcycles, hresponses⟩ := respond_tables p.world environment c
  have hkept : Kept library employeeId salt (respond p.world environment c).2
      (expected library employeeId salt start p.log) := by
    obtain hsame | ⟨rows, id, rfl, hrewritten⟩ := hresponses
    · exact ⟨hsame ▸ hp.kept.one, hsame ▸ hp.kept.either, hsame ▸ hcycles ▸ hp.kept.known⟩
    · obtain ⟨rfl, hsubset, -⟩ := hallowed
      have hall := hp.kept.foldl_rewrite hne fun copy hmem => hp.copies i _ hi rfl copy (hsubset hmem)
      exact ⟨hrewritten ▸ hall.one, hrewritten ▸ hall.either, hrewritten ▸ hcycles ▸ hall.known⟩
  refine ⟨hfollowed, hkept, fun j thread hthread hrunning copy hcopy => ?_, fun j cycleIds hcycleIds => ?_,
    hcycles.trans hp.cycles, fun entry hmem rows id hcall => ?_⟩
  · obtain ⟨before, hbefore, hwas⟩ := running_before hi hthread hrunning
    by_cases hij : i = j
    · subst j
      have hcopy' : copy ∈ ((copiesOf library employeeId salt p.log i).advance c (respond p.world environment c).1).rows := by
        rw [← copiesOf_inl_self p.log i environment c]
        exact hcopy
      obtain hold | ⟨hid, hrow⟩ := mem_advance hallowed hcopy'
      · exact hp.copies i before hbefore hwas copy hold
      · refine ⟨hid, ?_⟩
        show expected library employeeId salt start p.log copy.1.1 = _
        rw [← hp.kept.either, hrow]
        rfl
    · refine hp.copies j before hbefore hwas copy ?_
      rw [← copiesOf_inl_ne p.log hij environment c]
      exact hcopy
  · by_cases hij : i = j
    · subst j
      have hcycleIds' : ((copiesOf library employeeId salt p.log i).advance c (respond p.world environment c).1).cycleIds =
          some cycleIds := by
        rw [← copiesOf_inl_self p.log i environment c]
        exact hcycleIds
      obtain hold | hnew := cycleIds_advance hcycleIds'
      · exact hp.scanned i cycleIds hold
      · rw [hnew, hp.cycles]
    · refine hp.scanned j cycleIds ?_
      rw [← copiesOf_inl_ne p.log hij environment c]
      exact hcycleIds
  · obtain rfl | hmem := List.mem_cons.1 hmem
    · cases hcall
      have hlength : rows.length ≤ 12 := hallowed.2.2
      show 2 * rows.length ≤ 25
      omega
    · exact hp.small entry hmem rows id hcall

theorem sound_step (hne : anonymizedId library employeeId salt ≠ employeeId) {label : WorkLabel employeeId salt}
    (hp : Sound library start p) (hguard : Undisturbed library p label)
    (h : step (workService library employeeId salt) p label = some t) : Sound library start t := by
  have hfollowed := followed_step hp.followed h
  cases step_cases h with
  | start request hadmits => exact sound_arrival hp h
  | call i environment request c next hi =>
    cases c with
    | inl c => exact sound_request hne hp hi hfollowed
    | inr c => exact sound_write hne hp hi hguard hfollowed

/-! ### The last request -/

/-- The request has found a row, or none is left under the old id in the cycles that it has queried. -/
def Swept (library : Library) (n : Nat) (p : Works employeeId salt) : Prop :=
  ∀ cycleId ∈ (copiesOf library employeeId salt p.log n).queried,
    (copiesOf library employeeId salt p.log n).rows ≠ [] ∨ p.world.responses.lookup (cycleId, employeeId) = none

theorem lookup_foldl_rewrite {id : String} (hne : id ≠ employeeId) {cycleId : String}
    {rows : List ((String × String) × Response)} {responses : Store (String × String) Response}
    (h : responses.lookup (cycleId, employeeId) = none) :
    (rows.foldl (rewrite id) responses).lookup (cycleId, employeeId) = none := by
  induction rows generalizing responses with
  | nil => exact h
  | cons row rows ih =>
    refine ih ?_
    rw [rewrite, Store.lookup_set, if_neg fun heq => hne (Prod.mk.inj heq).2.symm, Store.lookup_set]
    split
    · rfl
    · exact h

theorem swept_request (hne : anonymizedId library employeeId salt ≠ employeeId) (hp : Sound library start p) {n i : Nat}
    (hswept : Swept library n p) {environment : Environment} {request : Work employeeId salt} {c : Call}
    {next : Except PyError (Result c) → Program AnyCall AnyResult PyError (Option HttpResponse)}
    (hi : p.threads[i]? = some { request, program := .call (.inl c) next }) :
    Swept library n (afterCall (workService library employeeId salt) p i environment request (.inl c) next) := by
  have hallowed := hp.followed.inl hi
  have hgone : ∀ cycleId, p.world.responses.lookup (cycleId, employeeId) = none →
      (respond p.world environment c).2.responses.lookup (cycleId, employeeId) = none := by
    intro cycleId hnone
    obtain hsame | ⟨rows, id, rfl, hrewritten⟩ := (respond_tables p.world environment c).2
    · rw [hsame]
      exact hnone
    · obtain ⟨rfl, -⟩ := hallowed
      rw [hrewritten]
      exact lookup_foldl_rewrite hne hnone
  intro cycleId hqueried
  change cycleId ∈ (copiesOf library employeeId salt (⟨i, environment, .inl c, (respond p.world environment c).1⟩ :: p.log)
    n).queried at hqueried
  show (copiesOf library employeeId salt (⟨i, environment, .inl c, (respond p.world environment c).1⟩ :: p.log) n).rows ≠ [] ∨
    (respond p.world environment c).2.responses.lookup (cycleId, employeeId) = none
  by_cases hin : i = n
  · subst i
    rw [copiesOf_inl_self] at hqueried ⊢
    have hold : cycleId ∈ (copiesOf library employeeId salt p.log n).queried →
        (copiesOf library employeeId salt p.log n).rows ≠ [] ∨
          (respond p.world environment c).2.responses.lookup (cycleId, employeeId) = none :=
      fun hmem => (hswept cycleId hmem).imp_right (hgone cycleId)
    cases hanswer : (respond p.world environment c).1 with
    | error e =>
      rw [hanswer] at hqueried
      cases c <;> exact hold hqueried
    | ok answer =>
      rw [hanswer] at hqueried
      cases c with
      | queryResponses cycleId' id =>
        obtain rfl : id = employeeId := hallowed
        show (copiesOf library id salt p.log n).rows ++ answer ≠ [] ∨ _
        obtain rfl | hmem := List.mem_cons.1 hqueried
        · cases hrow : p.world.responses.lookup (cycleId, id) with
          | none => exact .inr (hgone cycleId hrow)
          | some row =>
            rw [respond_queryResponses hanswer, hrow]
            exact .inl (List.append_ne_nil_of_right_ne_nil _ (List.cons_ne_nil _ _))
        · exact (hold hmem).imp_left fun h => List.append_ne_nil_of_left_ne_nil h _
      | _ => exact hold hqueried
  · rw [copiesOf_inl_ne _ hin] at hqueried ⊢
    exact (hswept cycleId hqueried).imp_right (hgone cycleId)

theorem undisturbed_of_quiet {label : WorkLabel employeeId salt} (h : Quiet p label) : Undisturbed library p label := by
  cases label with
  | start work => trivial
  | call i environment =>
    intro c hc
    rw [show writeAt p i = none from h] at hc
    cases hc

/-- Once the other components have written all that they write, and none of it was to a row that a request was about to
rewrite or had rewritten, a request that finds nothing more to rewrite has left every row under the new id, whole. -/
theorem anonymized_of_undisturbed (hne : anonymizedId library employeeId salt ≠ employeeId)
    (hready : Ready library employeeId salt start) {before after : List (WorkLabel employeeId salt)}
    {request : Anonymization employeeId salt} {m : Works employeeId salt}
    (hbefore : exec (step (workService library employeeId salt)) { world := start } before = some m)
    (hguard : Guarded (step (workService library employeeId salt)) (Undisturbed library) { world := start } before)
    (hafter : exec (step (workService library employeeId salt)) m (.start (.anonymize request) :: after) = some t)
    (hquiet : Guarded (step (workService library employeeId salt)) Quiet m (.start (.anonymize request) :: after))
    (hlast : NothingLeft t m.threads.length) : Anonymized library start t := by
  have hm : Sound library start m :=
    invariant_of_guarded (fun _ _ _ hp hguard h => sound_step hne hp hguard h) (sound_start hready) hguard hbefore
  obtain ⟨first, hstart, hrest⟩ := exec_cons_eq_some.1 hafter
  have hfirst : Sound library start first ∧ Swept library m.threads.length first := by
    refine ⟨sound_arrival hm hstart, ?_⟩
    cases step_cases hstart with
    | start _ _ =>
      intro cycleId hqueried
      have hnone : cycleId ∈ (copiesOf library employeeId salt m.log m.threads.length).queried := hqueried
      rw [copiesOf_of_length_le hm.followed le_rfl] at hnone
      exact (List.not_mem_nil hnone).elim
  have hkeep : ∀ p label t, Sound library start p ∧ Swept library m.threads.length p → Quiet p label →
      step (workService library employeeId salt) p label = some t →
        Sound library start t ∧ Swept library m.threads.length t := by
    rintro p label t ⟨hp, hswept⟩ hquiet h
    refine ⟨sound_step hne hp (undisturbed_of_quiet hquiet) h, ?_⟩
    cases step_cases h with
    | start _ _ => exact hswept
    | call i environment request c next hi =>
      cases c with
      | inl c => exact swept_request hne hp hswept hi
      | inr c =>
        have hwrite : writeAt p i = some c := by
          rw [writeAt, hi]
          rfl
        rw [show writeAt p i = none from hquiet] at hwrite
        cases hwrite
  obtain ⟨ht, hswept⟩ := invariant_of_guarded hkeep hfirst (hquiet.2 first hstart) hrest
  obtain ⟨thread, response, hthread, hresult, hstatus, hcount⟩ := hlast
  obtain ⟨⟨cycleIds, hcycleIds, hqueried⟩, hlength⟩ := ht.followed.result hthread hresult response rfl response rfl hstatus
  rw [hcount] at hlength
  have hnone : (copiesOf library employeeId salt t.log m.threads.length).rows = [] := by
    apply List.eq_nil_of_length_eq_zero
    injection hlength with hlength
    injection hlength with hlength
    exact (Int.ofNat.inj hlength).symm
  have hgone : ∀ cycleId, t.world.responses.lookup (cycleId, employeeId) = none := by
    intro cycleId
    cases hrow : t.world.responses.lookup (cycleId, employeeId) with
    | none => rfl
    | some row =>
      have hknown := ht.kept.known cycleId row hrow
      rw [ht.cycles, ← ht.scanned _ cycleIds hcycleIds] at hknown
      obtain hrows | hlookup := hswept cycleId (hqueried hknown)
      · exact absurd hnone hrows
      · rw [hrow] at hlookup
        cases hlookup
  refine ⟨hgone, fun cycleId => ?_, ht.small⟩
  rw [← ht.kept.either, hgone, Option.none_or]

end

/-! ### Requests to try -/

/-- SHA-256 of the one text that is hashed below. -/
def hashingLibrary : Library := { markedLibrary with anonymizeEmployeeId _ _ := "ANON_e89da2bf20180b256ddd03dc0c05213c" }

def request : Anonymization "e1" "salt" :=
  ⟨{ CognitoRemoval.onEmployee "POST" "/employees/{id}/anonymize" with anonymizeSalt := "salt" }, by decide, rfl, rfl⟩

/-- The employee is deleted, and has a row in the only cycle. -/
def world : World where
  employees := (∅ : Store String EmployeeItem).set "e1" (some { deleted := some true })
  cycles := (∅ : Store String Cycle).set "c1" (some {
    status := .completed
    mode := .all
    retryCount := .int 0
    retryIntervalMinutes := .int 1
    dictionaryVersion := 1
    startedAt := 0 })
  responses := (∅ : Store (String × String) Response).set ("c1", "e1") (some { callAttempts := some 1 })

def safe : Classification := ⟨.safe, ["safe"], "safe", 1, by decide⟩

abbrev workStep := step (workService hashingLibrary "e1" "salt")

def newId : String := anonymizedId hashingLibrary "e1" "salt"

def arrival : WorkLabel "e1" "salt" := .start (.anonymize request)

/-- Calls of a thread that do not fail: a request reads three times, and then writes a batch if it found a row. -/
def calls (thread n : Nat) : List (WorkLabel "e1" "salt") := List.replicate n (.call thread {})

/-- KeywordMatcher writes its row, and then the row is rewritten. -/
def early : List (WorkLabel "e1" "salt") := [.start (.recordResponse "c1" safe)] ++ calls 0 1 ++ [arrival] ++ calls 1 4

theorem ready_world : Ready hashingLibrary "e1" "salt" world := by
  have hrow : ∀ key, world.responses.lookup key = if key = ("c1", "e1") then some { callAttempts := some 1 } else none :=
    fun key => Store.lookup_set ..
  refine ⟨fun cycleId row h => ?_, fun cycleId => .inr ?_⟩
  · rw [hrow] at h
    split at h
    · rename_i hkey
      rw [(Prod.mk.inj hkey).1]
      decide
    · cases h
  · rw [hrow]
    exact if_neg fun hkey => absurd (Prod.mk.inj hkey).2 (by decide)

theorem anonymized_early : ∃ m t, exec workStep { world } early = some m ∧ exec workStep m (arrival :: calls 2 3) = some t ∧
    Anonymized hashingLibrary world t := by
  have hguard : Guarded workStep (Undisturbed hashingLibrary) { world } early := by decide
  refine ⟨_, _, rfl, rfl, ?_⟩
  refine @anonymized_of_undisturbed _ _ _ _ _ (by decide) ready_world early (calls 2 3) request _ rfl hguard rfl ?_
    ⟨_, _, rfl, rfl, rfl, rfl⟩
  exact ⟨trivial, by decide⟩

/-- KeywordMatcher writes between the query and the rewrite: the copy is put back without what it wrote. -/
def stale : List (WorkLabel "e1" "salt") :=
  [arrival] ++ calls 0 3 ++ [.start (.recordResponse "c1" safe)] ++ calls 1 1 ++ calls 0 1 ++ [arrival] ++ calls 2 3

/-- FinalizeOne writes after the rewrite and makes a row that the next request puts over the rewritten one. -/
def late : List (WorkLabel "e1" "salt") :=
  early ++ [.start (.finalizeOne "c1" .safe 5)] ++ calls 2 1 ++ [arrival] ++ calls 3 4 ++ [arrival] ++ calls 4 3

/-- Each of the last requests answers 200 and finds nothing. What KeywordMatcher wrote is gone after the first two runs, and
where the Cycle table does not have the cycle the row stays under the old id. -/
theorem loses_and_leaves_rows :
    (∃ t, exec workStep { world } stale = some t ∧ NothingLeft t 2 ∧
      (t.world.responses.lookup ("c1", newId)).map Response.voiceStatus = some none ∧ ¬ Anonymized hashingLibrary world t) ∧
    (∃ t, exec workStep { world } late = some t ∧ NothingLeft t 4 ∧
      (t.world.responses.lookup ("c1", newId)).map Response.matchedKeywords = some none ∧
      ¬ Anonymized hashingLibrary world t) ∧
    ∃ t, exec workStep { world := { world with cycles := ∅ } } (arrival :: calls 0 2) = some t ∧ NothingLeft t 0 ∧
      (t.world.responses.lookup ("c1", "e1")).isSome = true ∧ ¬ Anonymized hashingLibrary { world with cycles := ∅ } t := by
  refine ⟨⟨_, rfl, ⟨_, _, rfl, rfl, rfl, rfl⟩, by decide, fun h => ?_⟩,
    ⟨_, rfl, ⟨_, _, rfl, rfl, rfl, rfl⟩, by decide, fun h => ?_⟩, ⟨_, rfl, ⟨_, _, rfl, rfl, rfl, rfl⟩, by decide, fun h => ?_⟩⟩
  · exact absurd (h.lossless "c1") (by decide)
  · exact absurd (h.lossless "c1") (by decide)
  · exact absurd (h.gone "c1") (by decide)

end Anonymizing

end EmployeeApi

end SafetyConfirmation
