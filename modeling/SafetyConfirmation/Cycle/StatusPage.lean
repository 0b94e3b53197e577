import SafetyConfirmation.Lib.StepMachine
import SafetyConfirmation.Cycle.Row

/-!
# The status page

`CycleStatusPage` is its reducer and one effect, which polls for the cycle in the URL until the reducer has met a
terminal status. A page whose cycle changes without being unmounted keeps the reducer's state: what it shows is the
snapshot of the cycle before, and where that one had ended the new one is never polled. The page follows its URL in the
runs where the cycle changes only while nothing is shown yet.
-/

namespace SafetyConfirmation

namespace StatusPage

open StepMachine

/-! ### The reducer -/

/-- What `getStatus` answers with: the summary, the rows and the degraded components are the `body`. -/
structure CycleStatusSnapshot (β : Type) where
  cycleId : String
  status : CycleStatus
  body : β

structure StatusViewerState (β : Type) where
  lastSuccess : Option (CycleStatusSnapshot β) := none
  errorFlag : Bool := false
  pollingStopped : Bool := false

inductive StatusViewerEvent (β : Type) where
  | success (snapshot : CycleStatusSnapshot β)
  | failure

def isTerminalStatus : CycleStatus → Bool
  | .completed | .timeout | .startFailed => true
  | .running => false

variable {β : Type}

def statusViewerReducer (state : StatusViewerState β) : StatusViewerEvent β → StatusViewerState β
  | .success snapshot =>
    { lastSuccess := some snapshot, errorFlag := false, pollingStopped := isTerminalStatus snapshot.status }
  | .failure => { state with errorFlag := true }

/-! ### The polling effect -/

/-- A call of `getStatus`, by the run of the effect that made it. -/
structure Request where
  cycleId : String
  effectRun : Nat
  aborted : Bool := false
  settled : Bool := false

/-- What the page asked for, and which answers it took. -/
inductive Entry (β : Type) where
  | issued (cycleId : String)
  | received (cycleId : String) (snapshot : CycleStatusSnapshot β)

/-- The page between two events. `interval` is the cycle that the timer of the effect polls for, `none` where no timer
is set, and a request of an earlier run of the effect finds its `cancelled` set. The `log` is what an observer of the
page writes down. -/
structure Page (β : Type) where
  cycleId : String
  viewer : StatusViewerState β := {}
  effectRun : Nat := 0
  interval : Option String := none
  abortRef : Option Nat := none
  requests : List Request := []
  log : List (Entry β) := []

namespace Page

/-- `abortRef.current?.abort()`. -/
def abort (page : Page β) : Page β :=
  match page.abortRef.bind fun n => page.requests[n]?.map fun request => (n, request) with
  | none => page
  | some (n, request) => { page with requests := page.requests.set n { request with aborted := true } }

/-- Abort the request before, and ask for the status of the cycle. -/
def tick (cycleId : String) (page : Page β) : Page β :=
  let aborted := page.abort
  { aborted with
    abortRef := some aborted.requests.length
    requests := aborted.requests ++ [{ cycleId, effectRun := page.effectRun }]
    log := page.log ++ [.issued cycleId] }

/-- The body of the effect: an immediate tick and the timer, unless no cycle is named or polling has stopped. -/
def startEffect (page : Page β) : Page β :=
  if page.cycleId = "" ∨ page.viewer.pollingStopped = true then page
  else { page.tick page.cycleId with interval := some page.cycleId }

/-- What the run of the effect before left to be called, where it had set a timer; the next run gets a number of its own. -/
def cleanup (page : Page β) : Page β :=
  let next := { page with effectRun := page.effectRun + 1, interval := none }
  if page.interval.isSome then next.abort else next

/-- React renders the new state and, where a dependency of the effect changed, runs the effect again. -/
def commit (before after : Page β) : Page β :=
  if before.cycleId = after.cycleId ∧ before.viewer.pollingStopped = after.viewer.pollingStopped then after
  else after.cleanup.startEffect

def dispatch (event : StatusViewerEvent β) (page : Page β) : Page β :=
  page.commit { page with viewer := statusViewerReducer page.viewer event }

end Page

def mount (cycleId : String) : Page β := Page.startEffect { cycleId }

/-- How a call of `getStatus` ends. -/
inductive Outcome (β : Type) where
  | success (snapshot : CycleStatusSnapshot β)
  | failure
  | abortError

/-- The timer fires, a request ends, or the `cycleId` of the route changes. -/
inductive Event (β : Type) where
  | tick
  | arrive (request : Nat) (outcome : Outcome β)
  | navigate (cycleId : String)

/-- What the page makes of the end of a request that was not cancelled. -/
def Page.receive (cycleId : String) (page : Page β) : Outcome β → Page β
  | .success snapshot => Page.dispatch (.success snapshot) { page with log := page.log ++ [.received cycleId snapshot] }
  | .failure => page.dispatch .failure
  | .abortError => page

def Page.settle (n : Nat) (request : Request) (page : Page β) : Page β :=
  { page with requests := page.requests.set n { request with settled := true } }

def step (page : Page β) : Event β → Option (Page β)
  | .tick => page.interval.map fun cycleId => page.tick cycleId
  | .arrive n outcome =>
    match page.requests[n]? with
    | none => none
    | some request =>
      if request.settled then none
      else if request.effectRun = page.effectRun then some ((page.settle n request).receive request.cycleId outcome)
      else some (page.settle n request)
  | .navigate cycleId => some (page.commit { page with cycleId })

/-! ### What it means to follow the URL -/

def Entry.IsTerminalOf (cycleId : String) (entry : Entry β) : Prop :=
  ∃ snapshot, entry = .received cycleId snapshot ∧ isTerminalStatus snapshot.status = true

structure FollowsUrl (page : Page β) : Prop where
  shown : ∀ snapshot, page.viewer.lastSuccess = some snapshot → .received page.cycleId snapshot ∈ page.log
  kept : ∀ n page', step page (.arrive n .failure) = some page' → page'.viewer.lastSuccess = page.viewer.lastSuccess
  stopped : page.log.Pairwise fun earlier later => ∀ cycleId, earlier.IsTerminalOf cycleId → later ≠ .issued cycleId
  polled : page.cycleId ≠ "" → (¬ ∃ entry ∈ page.log, entry.IsTerminalOf page.cycleId) →
    ∃ page', step page .tick = some page' ∧ page'.log = page.log ++ [.issued page.cycleId]

/-- The cycle changes only while no snapshot is shown. -/
def NavigatesEarly (page : Page β) : Event β → Prop
  | .navigate cycleId => cycleId = page.cycleId ∨ page.viewer.lastSuccess = none
  | _ => True

instance (page : Page β) : ∀ event, Decidable (NavigatesEarly page event)
  | .navigate _ => inferInstanceAs (Decidable (_ ∨ _))
  | .tick | .arrive _ _ => .isTrue trivial

/-! ### What a step leaves of the requests -/

namespace Page

/-- An abort touches the requests only, and of those only whether they were aborted. -/
structure SameBut (page page' : Page β) : Prop where
  cycleId : page'.cycleId = page.cycleId
  viewer : page'.viewer = page.viewer
  effectRun : page'.effectRun = page.effectRun
  interval : page'.interval = page.interval
  log : page'.log = page.log
  requests : ∀ request' ∈ page'.requests, ∃ request ∈ page.requests, request'.cycleId = request.cycleId ∧
    request'.effectRun = request.effectRun ∧ (request'.settled = false → request.settled = false)

theorem SameBut.refl (page : Page β) : page.SameBut page where
  cycleId := rfl
  viewer := rfl
  effectRun := rfl
  interval := rfl
  log := rfl
  requests := fun request hrequest => ⟨request, hrequest, rfl, rfl, id⟩

/-- One request is replaced by one of the same call that is settled where it was. -/
theorem sameBut_set {page : Page β} {n : Nat} {request request' : Request} (hget : page.requests[n]? = some request)
    (hcycle : request'.cycleId = request.cycleId) (hrun : request'.effectRun = request.effectRun)
    (hsettled : request'.settled = false → request.settled = false) :
    page.SameBut { page with requests := page.requests.set n request' } where
  cycleId := rfl
  viewer := rfl
  effectRun := rfl
  interval := rfl
  log := rfl
  requests := by
    intro found hfound
    rcases List.mem_or_eq_of_mem_set hfound with hmem | rfl
    · exact ⟨found, hmem, rfl, rfl, id⟩
    · exact ⟨request, List.mem_of_getElem? hget, hcycle, hrun, hsettled⟩

theorem sameBut_settle {page : Page β} {n : Nat} {request : Request} (hget : page.requests[n]? = some request) :
    page.SameBut (page.settle n request) := sameBut_set hget rfl rfl fun hsettled => Bool.noConfusion hsettled

theorem sameBut_abort (page : Page β) : page.SameBut page.abort := by
  rw [abort]
  split
  · exact SameBut.refl page
  · rename_i n request hsome
    obtain ⟨m, -, hget⟩ := Option.bind_eq_some_iff.1 hsome
    obtain ⟨found, hfound, heq⟩ := Option.map_eq_some_iff.1 hget
    obtain ⟨rfl, rfl⟩ := Prod.mk.inj heq
    exact sameBut_set hfound rfl rfl id

/-- The timer is set where there is something to poll for, and the requests of this run are for the cycle in the URL. -/
structure Wired (page : Page β) : Prop where
  interval : page.interval =
    if page.cycleId = "" ∨ page.viewer.pollingStopped = true then none else some page.cycleId
  runs : ∀ request ∈ page.requests, request.effectRun ≤ page.effectRun
  live : ∀ request ∈ page.requests, request.settled = false → request.effectRun = page.effectRun →
    request.cycleId = page.cycleId ∧ page.interval = some page.cycleId

/-- What the viewer shows came for the cycle in the URL, as did all that ever came. -/
structure Recorded (page : Page β) : Prop where
  shown : ∀ snapshot, page.viewer.lastSuccess = some snapshot → .received page.cycleId snapshot ∈ page.log ∧
    page.viewer.pollingStopped = isTerminalStatus snapshot.status
  unshown : page.viewer.lastSuccess = none → page.viewer.pollingStopped = false
  received : ∀ cycleId snapshot, .received cycleId snapshot ∈ page.log →
    cycleId = page.cycleId ∧ page.viewer.lastSuccess ≠ none
  ended : ∀ entry ∈ page.log, ∀ cycleId, entry.IsTerminalOf cycleId → page.viewer.pollingStopped = true
  order : page.log.Pairwise fun earlier later => ∀ cycleId, earlier.IsTerminalOf cycleId → later ≠ .issued cycleId

theorem Wired.sameBut {page page' : Page β} (h : page.Wired) (hsame : page.SameBut page') : page'.Wired where
  interval := by rw [hsame.interval, hsame.cycleId, hsame.viewer, h.interval]
  runs := by
    intro request hrequest
    obtain ⟨before, hbefore, -, hrun, -⟩ := hsame.requests request hrequest
    rw [hrun, hsame.effectRun]
    exact h.runs before hbefore
  live := by
    intro request hrequest hopen hcurrent
    obtain ⟨before, hbefore, hcycle, hrun, hsettled⟩ := hsame.requests request hrequest
    rw [hrun, hsame.effectRun] at hcurrent
    obtain ⟨hsameCycle, hinterval⟩ := h.live before hbefore (hsettled hopen) hcurrent
    rw [hcycle, hsame.cycleId, hsame.interval]
    exact ⟨hsameCycle, hinterval⟩

theorem Recorded.congr {page page' : Page β} (h : page.Recorded) (hcycle : page'.cycleId = page.cycleId)
    (hshown : page'.viewer.lastSuccess = page.viewer.lastSuccess)
    (hstopped : page'.viewer.pollingStopped = page.viewer.pollingStopped) (hlog : page'.log = page.log) :
    page'.Recorded where
  shown := by
    rw [hshown, hcycle, hlog, hstopped]
    exact h.shown
  unshown := by
    rw [hshown, hstopped]
    exact h.unshown
  received := by
    rw [hlog, hcycle, hshown]
    exact h.received
  ended := by
    rw [hlog, hstopped]
    exact h.ended
  order := by
    rw [hlog]
    exact h.order

theorem Recorded.not_terminal {page : Page β} (h : page.Recorded) (hstopped : page.viewer.pollingStopped = false) :
    ∀ entry ∈ page.log, ∀ cycleId, ¬ entry.IsTerminalOf cycleId := by
  intro entry hentry cycleId hterminal
  rw [h.ended entry hentry cycleId hterminal] at hstopped
  cases hstopped

/-- Asking once more is recorded as well, as long as polling has not stopped. -/
theorem Recorded.tick {page : Page β} (h : page.Recorded) (hstopped : page.viewer.pollingStopped = false)
    (cycleId : String) : (page.tick cycleId).Recorded := by
  have hsame := page.sameBut_abort
  have hviewer : (page.tick cycleId).viewer = page.viewer := hsame.viewer
  have hcycle : (page.tick cycleId).cycleId = page.cycleId := hsame.cycleId
  have hlog : (page.tick cycleId).log = page.log ++ [.issued cycleId] := rfl
  have hnone := h.not_terminal hstopped
  refine ⟨?_, ?_, ?_, ?_, ?_⟩
  · intro snapshot hshown
    rw [hviewer] at hshown
    obtain ⟨hmem, hstatus⟩ := h.shown snapshot hshown
    rw [hviewer, hcycle, hlog]
    exact ⟨List.mem_append_left _ hmem, hstatus⟩
  · rw [hviewer]
    exact h.unshown
  · intro other snapshot hmem
    rw [hlog] at hmem
    rw [hviewer, hcycle]
    rcases List.mem_append.1 hmem with hmem | hmem
    · exact h.received other snapshot hmem
    · cases List.mem_singleton.1 hmem
  · intro entry hentry other hterminal
    rw [hlog] at hentry
    rcases List.mem_append.1 hentry with hentry | hentry
    · exact absurd hterminal (hnone entry hentry other)
    · obtain ⟨snapshot, heq, -⟩ := hterminal
      rw [List.mem_singleton.1 hentry] at heq
      cases heq
  · rw [hlog, List.pairwise_append]
    refine ⟨h.order, List.pairwise_singleton _ _, fun entry hentry later _ other hterminal => ?_⟩
    exact absurd hterminal (hnone entry hentry other)

theorem Wired.tick {page : Page β} (h : page.Wired) (hinterval : page.interval = some page.cycleId) :
    (page.tick page.cycleId).Wired := by
  have hsame := page.sameBut_abort
  have habort := h.sameBut hsame
  refine ⟨habort.interval, ?_, ?_⟩
  · intro request hrequest
    rcases List.mem_append.1 hrequest with hrequest | hrequest
    · exact habort.runs request hrequest
    · rw [List.mem_singleton.1 hrequest]
      exact le_of_eq hsame.effectRun.symm
  · intro request hrequest hopen hcurrent
    rcases List.mem_append.1 hrequest with hrequest | hrequest
    · exact habort.live request hrequest hopen hcurrent
    · rw [List.mem_singleton.1 hrequest]
      refine ⟨hsame.cycleId.symm, ?_⟩
      show page.abort.interval = some page.abort.cycleId
      rw [hsame.interval, hsame.cycleId, hinterval]

/-- The effect sets up what it needs from requests that are all of earlier runs. -/
theorem wired_startEffect {page : Page β} (hinterval : page.interval = none)
    (hruns : ∀ request ∈ page.requests, request.effectRun < page.effectRun) : page.startEffect.Wired := by
  rw [startEffect]
  split
  · rename_i hidle
    refine ⟨?_, fun request hrequest => (hruns request hrequest).le, fun request hrequest _ hcurrent => ?_⟩
    · rw [if_pos hidle, hinterval]
    · exact absurd hcurrent (hruns request hrequest).ne
  · rename_i hpolling
    have hsame := page.sameBut_abort
    refine ⟨?_, ?_, ?_⟩
    · show some page.cycleId = if page.abort.cycleId = "" ∨ page.abort.viewer.pollingStopped = true then none
        else some page.abort.cycleId
      rw [hsame.cycleId, hsame.viewer, if_neg hpolling]
    · intro request hrequest
      rcases List.mem_append.1 hrequest with hrequest | hrequest
      · obtain ⟨before, hbefore, -, hrun, -⟩ := hsame.requests request hrequest
        rw [hrun]
        exact ((hruns before hbefore).le).trans (le_of_eq hsame.effectRun.symm)
      · rw [List.mem_singleton.1 hrequest]
        exact le_of_eq hsame.effectRun.symm
    · intro request hrequest hopen hcurrent
      have hcycle : page.abort.cycleId = page.cycleId := hsame.cycleId
      rcases List.mem_append.1 hrequest with hrequest | hrequest
      · obtain ⟨before, hbefore, -, hrun, -⟩ := hsame.requests request hrequest
        have hcurrent' : before.effectRun = page.effectRun := by
          rw [← hrun, hcurrent]
          exact hsame.effectRun
        exact absurd hcurrent' (hruns before hbefore).ne
      · rw [List.mem_singleton.1 hrequest]
        exact ⟨hcycle.symm, congrArg some hcycle.symm⟩

theorem recorded_startEffect {page : Page β} (h : page.Recorded) : page.startEffect.Recorded := by
  rw [startEffect]
  split
  · exact h
  · rename_i hpolling
    have hstopped : page.viewer.pollingStopped = false := Bool.eq_false_iff.2 fun hstop => hpolling (.inr hstop)
    exact (h.tick hstopped page.cycleId).congr rfl rfl rfl rfl

theorem cleanup_spec (page : Page β) :
    page.cleanup.cycleId = page.cycleId ∧ page.cleanup.viewer = page.viewer ∧ page.cleanup.log = page.log ∧
      page.cleanup.interval = none ∧ page.cleanup.effectRun = page.effectRun + 1 ∧
      ∀ request' ∈ page.cleanup.requests, ∃ request ∈ page.requests, request'.effectRun = request.effectRun := by
  rw [cleanup]
  split
  · have hsame := sameBut_abort { page with effectRun := page.effectRun + 1, interval := none }
    refine ⟨hsame.cycleId, hsame.viewer, hsame.log, hsame.interval, hsame.effectRun, fun request' hrequest' => ?_⟩
    obtain ⟨request, hrequest, -, hrun, -⟩ := hsame.requests request' hrequest'
    exact ⟨request, hrequest, hrun⟩
  · exact ⟨rfl, rfl, rfl, rfl, rfl, fun request hrequest => ⟨request, hrequest, rfl⟩⟩

theorem viewer_startEffect (page : Page β) : page.startEffect.viewer = page.viewer := by
  rw [startEffect]
  split
  · rfl
  · exact page.sameBut_abort.viewer

theorem viewer_commit (before after : Page β) : (before.commit after).viewer = after.viewer := by
  rw [commit]
  split
  · rfl
  · rw [viewer_startEffect, after.cleanup_spec.2.1]

theorem cycleId_startEffect (page : Page β) : page.startEffect.cycleId = page.cycleId := by
  rw [startEffect]
  split
  · rfl
  · exact page.sameBut_abort.cycleId

theorem cycleId_commit (before after : Page β) : (before.commit after).cycleId = after.cycleId := by
  rw [commit]
  split
  · rfl
  · rw [cycleId_startEffect, after.cleanup_spec.1]

/-- The effect asks, and receives nothing by itself. -/
theorem received_commit {before after : Page β} {cycleId : String} {snapshot : CycleStatusSnapshot β}
    (h : .received cycleId snapshot ∈ (before.commit after).log) : .received cycleId snapshot ∈ after.log := by
  rw [commit] at h
  split at h
  · exact h
  · rw [startEffect] at h
    split at h
    · rwa [after.cleanup_spec.2.2.1] at h
    · rcases List.mem_append.1 h with h | h
      · rwa [after.cleanup_spec.2.2.1] at h
      · cases List.mem_singleton.1 h

/-- The invariant of the runs in which the page follows its URL. -/
structure Inv (page : Page β) : Prop where
  wired : page.Wired
  recorded : page.Recorded

theorem inv_commit {before after : Page β} (hwired : before.Wired) (hrecorded : after.Recorded)
    (hrequests : after.requests = before.requests) (hrun : after.effectRun = before.effectRun)
    (hinterval : after.interval = before.interval) : (before.commit after).Inv := by
  rw [commit]
  split
  · rename_i hsame
    refine ⟨⟨?_, ?_, ?_⟩, hrecorded⟩
    · rw [hinterval, ← hsame.1, ← hsame.2, hwired.interval]
    · rw [hrequests, hrun]
      exact hwired.runs
    · rw [hrequests, hrun, hinterval, ← hsame.1]
      exact hwired.live
  · obtain ⟨hcycle, hviewer, hlog, hcleared, hnext, hold⟩ := after.cleanup_spec
    refine ⟨wired_startEffect hcleared ?_, recorded_startEffect (hrecorded.congr hcycle ?_ ?_ hlog)⟩
    · intro request' hrequest'
      obtain ⟨request, hrequest, heq⟩ := hold request' hrequest'
      rw [hrequests] at hrequest
      have hle := hwired.runs request hrequest
      omega
    · rw [hviewer]
    · rw [hviewer]

/-- A live request is for the cycle in the URL, and polling has not stopped. -/
theorem Wired.polling {page : Page β} (h : page.Wired) (hinterval : page.interval = some page.cycleId) :
    page.cycleId ≠ "" ∧ page.viewer.pollingStopped = false := by
  have hidle : ¬ (page.cycleId = "" ∨ page.viewer.pollingStopped = true) := by
    intro hidle
    rw [h.interval, if_pos hidle] at hinterval
    cases hinterval
  rw [not_or, Bool.not_eq_true] at hidle
  exact hidle

theorem inv_receive {page : Page β} (h : page.Inv) (hinterval : page.interval = some page.cycleId)
    (outcome : Outcome β) : (page.receive page.cycleId outcome).Inv := by
  obtain ⟨-, hstopped⟩ := h.wired.polling hinterval
  have hrecorded := h.recorded
  cases outcome with
  | abortError => exact h
  | failure => exact inv_commit h.wired (hrecorded.congr rfl rfl rfl rfl) rfl rfl rfl
  | success snapshot =>
    have hnone := hrecorded.not_terminal hstopped
    have hwired : ({ page with log := page.log ++ [.received page.cycleId snapshot] } : Page β).Wired :=
      ⟨h.wired.interval, h.wired.runs, h.wired.live⟩
    refine inv_commit hwired ⟨?_, nofun, ?_, ?_, ?_⟩ rfl rfl rfl
    · intro shown hshown
      cases hshown
      exact ⟨List.mem_append_right _ List.mem_cons_self, rfl⟩
    · intro cycleId other hmem
      refine ⟨?_, nofun⟩
      rcases List.mem_append.1 hmem with hmem | hmem
      · exact (hrecorded.received cycleId other hmem).1
      · cases List.mem_singleton.1 hmem
        rfl
    · intro entry hentry cycleId hterminal
      rcases List.mem_append.1 hentry with hentry | hentry
      · exact absurd hterminal (hnone entry hentry cycleId)
      · obtain ⟨other, heq, hstatus⟩ := hterminal
        rw [List.mem_singleton.1 hentry] at heq
        cases heq
        exact hstatus
    · show (page.log ++ _).Pairwise _
      rw [List.pairwise_append]
      refine ⟨hrecorded.order, List.pairwise_singleton _ _, fun entry hentry later hlater cycleId hterminal => ?_⟩
      exact absurd hterminal (hnone entry hentry cycleId)

theorem Inv.sameBut {page page' : Page β} (h : page.Inv) (hsame : page.SameBut page') : page'.Inv where
  wired := h.wired.sameBut hsame
  recorded := h.recorded.congr hsame.cycleId (by rw [hsame.viewer]) (by rw [hsame.viewer]) hsame.log

end Page

open Page

theorem inv_mount (cycleId : String) : (mount cycleId : Page β).Inv where
  wired := wired_startEffect rfl fun _ hrequest => (List.not_mem_nil hrequest).elim
  recorded := recorded_startEffect
    ⟨nofun, fun _ => rfl, fun _ _ hmem => (List.not_mem_nil hmem).elim,
      fun _ hmem => (List.not_mem_nil hmem).elim, List.Pairwise.nil⟩

/-- A request that ends is one that had not, and only one of the present run of the effect is heard. -/
theorem step_arrive {page page' : Page β} {n : Nat} {outcome : Outcome β}
    (hstep : step page (.arrive n outcome) = some page') :
    ∃ request, page.requests[n]? = some request ∧ request.settled = false ∧
      ((request.effectRun = page.effectRun ∧ page' = (page.settle n request).receive request.cycleId outcome) ∨
        page' = page.settle n request) := by
  rw [step] at hstep
  cases hget : page.requests[n]? with
  | none =>
    rw [hget] at hstep
    cases hstep
  | some request =>
    rw [hget] at hstep
    dsimp only at hstep
    split at hstep
    · cases hstep
    rename_i hopen
    refine ⟨request, rfl, Bool.eq_false_iff.2 hopen, ?_⟩
    split at hstep
    · exact .inl ⟨‹_›, (Option.some.inj hstep).symm⟩
    · exact .inr (Option.some.inj hstep).symm

theorem inv_step {page page' : Page β} {event : Event β} (h : page.Inv) (hguard : NavigatesEarly page event)
    (hstep : step page event = some page') : page'.Inv := by
  cases event with
  | tick =>
    obtain ⟨cycleId, hinterval, rfl⟩ := Option.map_eq_some_iff.1 hstep
    obtain rfl : page.cycleId = cycleId := by
      have hset := h.wired.interval
      rw [hinterval] at hset
      split at hset
      · cases hset
      · exact (Option.some.inj hset).symm
    exact ⟨h.wired.tick hinterval, h.recorded.tick (h.wired.polling hinterval).2 _⟩
  | arrive n outcome =>
    obtain ⟨request, hget, hopen, ⟨hcurrent, rfl⟩ | rfl⟩ := step_arrive hstep
    · obtain ⟨hcycle, hinterval⟩ := h.wired.live request (List.mem_of_getElem? hget) hopen hcurrent
      rw [hcycle]
      exact inv_receive (h.sameBut (sameBut_settle hget)) hinterval outcome
    · exact h.sameBut (sameBut_settle hget)
  | navigate cycleId =>
    rw [← Option.some.inj hstep]
    refine inv_commit h.wired ?_ rfl rfl rfl
    rcases hguard with rfl | hunshown
    · exact h.recorded.congr rfl rfl rfl rfl
    · have hempty : ∀ other snapshot, ¬ .received other snapshot ∈ page.log := fun other snapshot hmem =>
        (h.recorded.received other snapshot hmem).2 hunshown
      refine ⟨?_, h.recorded.unshown, fun other snapshot hmem => absurd hmem (hempty other snapshot), h.recorded.ended,
        h.recorded.order⟩
      intro snapshot hshown
      rw [hunshown] at hshown
      cases hshown

theorem followsUrl_of_inv {page : Page β} (h : page.Inv) : FollowsUrl page where
  shown := fun snapshot hshown => (h.recorded.shown snapshot hshown).1
  kept := by
    intro n page' hstep
    obtain ⟨request, -, -, ⟨-, rfl⟩ | rfl⟩ := step_arrive hstep
    · rw [Page.receive, Page.dispatch, viewer_commit]
      rfl
    · rfl
  stopped := h.recorded.order
  polled := by
    intro hcycle hopen
    have hstopped : page.viewer.pollingStopped = false := by
      by_contra hstop
      rw [Bool.not_eq_false] at hstop
      cases hshown : page.viewer.lastSuccess with
      | none =>
        rw [h.recorded.unshown hshown] at hstop
        cases hstop
      | some snapshot =>
        obtain ⟨hmem, hstatus⟩ := h.recorded.shown snapshot hshown
        exact hopen ⟨_, hmem, snapshot, rfl, hstatus.symm.trans hstop⟩
    have hinterval : page.interval = some page.cycleId := by
      rw [h.wired.interval, if_neg]
      rintro (hempty | hstop)
      · exact hcycle hempty
      · rw [hstopped] at hstop
        cases hstop
    exact ⟨_, by rw [step, hinterval]; rfl, rfl⟩

/-- A page that shows something and turns to another cycle shows what did not come for it. -/
theorem not_followsUrl_of_late {page page' : Page β} {event : Event β} (h : page.Inv)
    (hlate : ¬ NavigatesEarly page event) (hstep : step page event = some page') : ¬ FollowsUrl page' := by
  cases event with
  | tick => exact absurd trivial hlate
  | arrive n outcome => exact absurd trivial hlate
  | navigate cycleId =>
    rw [NavigatesEarly, not_or] at hlate
    obtain ⟨hother, hshows⟩ := hlate
    obtain ⟨snapshot, hshown⟩ := Option.ne_none_iff_exists'.1 hshows
    rw [← Option.some.inj hstep]
    intro hfollows
    have hmem := hfollows.shown snapshot (by rw [viewer_commit]; exact hshown)
    rw [cycleId_commit] at hmem
    have hold : .received cycleId snapshot ∈ page.log := @received_commit _ page { page with cycleId } _ _ hmem
    exact hother (h.recorded.received cycleId snapshot hold).1

/-- The runs in every state of which the page follows its URL are those in which the cycle changes only while nothing is
shown. -/
theorem followsUrl_iff (cycleId : String) {events : List (Event β)} {page : Page β}
    (hrun : exec step (mount cycleId) events = some page) :
    Guarded step NavigatesEarly (mount cycleId) events ↔
      ∀ before after m, events = before ++ after → exec step (mount cycleId) before = some m → FollowsUrl m :=
  guarded_iff_everywhere (fun _ _ _ hinv _ hguard hstep =>
      have hnext := inv_step hinv hguard hstep
      ⟨hnext, followsUrl_of_inv hnext⟩)
    (fun _ _ _ hinv _ hlate hstep => not_followsUrl_of_late hinv hlate hstep)
    (inv_mount cycleId) (followsUrl_of_inv (inv_mount cycleId)) hrun

/-- The cycle changes while its first request is under way: the answer to that one is dropped. -/
def earlyTurn : List (Event Unit) :=
  [.navigate "c2", .arrive 0 (.success ⟨"c1", .completed, ()⟩), .tick, .arrive 2 (.success ⟨"c2", .running, ()⟩)]

theorem followsUrl_earlyTurn : ∃ page, exec step (mount "c1") earlyTurn = some page ∧ FollowsUrl page := by
  obtain ⟨page, hrun⟩ := Option.isSome_iff_exists.1 (show (exec step (mount "c1") earlyTurn).isSome = true by decide)
  have hguard : Guarded step NavigatesEarly (mount "c1") earlyTurn := by decide
  exact ⟨page, hrun, (followsUrl_iff "c1" hrun).1 hguard earlyTurn [] page (List.append_nil _).symm hrun⟩

/-- The cycle changes after the one before has ended. -/
def lateTurn : List (Event Unit) := [.arrive 0 (.success ⟨"c1", .completed, ()⟩), .navigate "c2"]

/-- Then the page shows the old cycle under the new URL, and its timer never fires again. -/
theorem not_followsUrl_lateTurn : ∃ page, exec step (mount "c1") lateTurn = some page ∧ page.cycleId = "c2" ∧
    page.viewer.lastSuccess = some ⟨"c1", .completed, ()⟩ ∧ step page .tick = none ∧ ¬ FollowsUrl page := by
  refine ⟨_, rfl, rfl, rfl, rfl, fun hfollows => ?_⟩
  have hmem : Entry.received "c2" (⟨"c1", .completed, ()⟩ : CycleStatusSnapshot Unit) ∈
      [.issued "c1", .received "c1" ⟨"c1", .completed, ()⟩] := hfollows.shown _ rfl
  simp at hmem

end StatusPage

end SafetyConfirmation
