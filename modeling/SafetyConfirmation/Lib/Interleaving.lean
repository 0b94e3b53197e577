import SafetyConfirmation.Lib.Program
import SafetyConfirmation.Lib.StepMachine

/-!
# Programs that run at the same time

Requests arrive at any time, each starts a thread with the program of its handler, and in one step one thread makes one
call. The world is what the calls act on; how a call goes is up to its environment, and the log keeps all of them.

A thread that was started with a program that meets a specification meets it to its end, at the knowledge that the calls
it has made itself give it.
-/

universe u v w

namespace Interleaving

open StepMachine

/-- A service: its calls, the handler of a request, and the requests that may still come after others. -/
structure Service (ι : Type u) (κ : Type) (ρ : κ → Type) (ε α : Type) (η : Type v) (σ : Type w) where
  respond : σ → η → (c : κ) → Except ε (ρ c) × σ
  handler : ι → Program κ ρ ε α
  admits : List ι → ι → Bool := fun _ _ => true

structure Thread (ι : Type u) (κ : Type) (ρ : κ → Type) (ε α : Type) where
  request : ι
  program : Program κ ρ ε α

/-- A call that was made. -/
structure Entry (κ : Type) (ρ : κ → Type) (ε : Type) (η : Type v) where
  thread : Nat
  environment : η
  call : κ
  answer : Except ε (ρ call)

/-- The threads are in the order in which their requests arrived, and the last call is the first of the log. -/
structure Pool (ι : Type u) (κ : Type) (ρ : κ → Type) (ε α : Type) (η : Type v) (σ : Type w) where
  world : σ
  threads : List (Thread ι κ ρ ε α) := []
  log : List (Entry κ ρ ε η) := []

inductive Label (ι : Type u) (η : Type v) where
  | start (request : ι)
  | call (thread : Nat) (environment : η)

variable {ι : Type u} {κ : Type} {ρ : κ → Type} {ε α : Type} {η : Type v} {σ : Type w}

/-- The call a thread is at. -/
def Thread.call? (thread : Thread ι κ ρ ε α) : Option κ :=
  match thread.program with
  | .call c _ => some c
  | _ => none

/-- What a thread that has ended returned or raised. -/
def Thread.result? (thread : Thread ι κ ρ ε α) : Option (Except ε α) :=
  match thread.program with
  | .done a => some (.ok a)
  | .raise e => some (.error e)
  | .call .. => none

namespace Pool

def requests (p : Pool ι κ ρ ε α η σ) : List ι := p.threads.map Thread.request

end Pool

section

variable (service : Service ι κ ρ ε α η σ)

def afterCall (p : Pool ι κ ρ ε α η σ) (i : Nat) (environment : η) (request : ι) (c : κ)
    (next : Except ε (ρ c) → Program κ ρ ε α) : Pool ι κ ρ ε α η σ where
  world := (service.respond p.world environment c).2
  threads := p.threads.set i { request, program := next (service.respond p.world environment c).1 }
  log := { thread := i, environment, call := c, answer := (service.respond p.world environment c).1 } :: p.log

def step (p : Pool ι κ ρ ε α η σ) : Label ι η → Option (Pool ι κ ρ ε α η σ)
  | .start request =>
    if service.admits p.requests request then
      some { p with threads := p.threads ++ [{ request, program := service.handler request }] }
    else none
  | .call i environment =>
    match p.threads[i]? with
    | some { request, program := .call c next } => some (afterCall service p i environment request c next)
    | _ => none

/-- The world after the calls of a log. -/
def replay (world : σ) (log : List (Entry κ ρ ε η)) : σ :=
  log.foldr (fun entry world => (service.respond world entry.environment entry.call).2) world

end

variable {service : Service ι κ ρ ε α η σ} {p t : Pool ι κ ρ ε α η σ}

/-- What a step does. -/
inductive StepCases (service : Service ι κ ρ ε α η σ) (p : Pool ι κ ρ ε α η σ) :
    Label ι η → Pool ι κ ρ ε α η σ → Prop where
  | start (request : ι) (hadmits : service.admits p.requests request = true) : StepCases service p (.start request)
      { p with threads := p.threads ++ [{ request, program := service.handler request }] }
  | call (i : Nat) (environment : η) (request : ι) (c : κ) (next : Except ε (ρ c) → Program κ ρ ε α)
      (hthread : p.threads[i]? = some { request, program := .call c next }) :
      StepCases service p (.call i environment) (afterCall service p i environment request c next)

theorem step_cases {label : Label ι η} (h : step service p label = some t) : StepCases service p label t := by
  cases label with
  | start request =>
    rw [step] at h
    split at h
    · cases h
      exact .start request ‹_›
    · cases h
  | call i environment =>
    rw [step] at h
    split at h
    · cases h
      exact .call i environment _ _ _ ‹_›
    · cases h

theorem replay_step {start : σ} {label : Label ι η} (hp : p.world = replay service start p.log)
    (h : step service p label = some t) : t.world = replay service start t.log := by
  cases step_cases h with
  | start request hadmits => exact hp
  | call i environment request c next hthread =>
    show (service.respond p.world environment c).2 = (service.respond (replay service start p.log) environment c).2
    rw [hp]

/-! ### What a thread knows -/

section

variable {τ : Type*}

/-- The knowledge of a thread from the calls of the log that are its own. -/
def reached (spec : Program.Spec κ ρ ε τ) (init : τ) (i : Nat) (log : List (Entry κ ρ ε η)) : τ :=
  log.foldr (fun entry t => if entry.thread = i then spec.advance t entry.call entry.answer else t) init

theorem reached_cons_self (spec : Program.Spec κ ρ ε τ) (init : τ) (entry : Entry κ ρ ε η) (log : List (Entry κ ρ ε η)) :
    reached spec init entry.thread (entry :: log) =
      spec.advance (reached spec init entry.thread log) entry.call entry.answer := if_pos rfl

theorem reached_cons_ne (spec : Program.Spec κ ρ ε τ) (init : τ) {i : Nat} {entry : Entry κ ρ ε η}
    (h : entry.thread ≠ i) (log : List (Entry κ ρ ε η)) :
    reached spec init i (entry :: log) = reached spec init i log := if_neg h

theorem reached_of_forall_ne (spec : Program.Spec κ ρ ε τ) (init : τ) {i : Nat} {log : List (Entry κ ρ ε η)}
    (h : ∀ entry ∈ log, entry.thread ≠ i) : reached spec init i log = init := by
  induction log with
  | nil => rfl
  | cons entry log ih =>
    rw [reached_cons_ne spec init (h entry List.mem_cons_self)]
    exact ih fun entry' hmem => h entry' (List.mem_cons_of_mem _ hmem)

theorem Thread.post_of_result {spec : Program.Spec κ ρ ε τ} {post : Except ε α → τ → Prop} {knowledge : τ}
    {thread : Thread ι κ ρ ε α} {result : Except ε α} (h : thread.program.wp spec post knowledge)
    (hresult : thread.result? = some result) : post result knowledge := by
  obtain ⟨request, program⟩ := thread
  cases program with
  | done a | raise e =>
    cases hresult
    exact h
  | call c next => cases hresult

/-- Every thread meets the specification of its request from where it is. -/
structure Follows (spec : ι → Program.Spec κ ρ ε τ) (init : ι → τ) (post : ι → Except ε α → τ → Prop)
    (p : Pool ι κ ρ ε α η σ) : Prop where
  logged : ∀ entry ∈ p.log, entry.thread < p.threads.length
  follows : ∀ i (thread : Thread ι κ ρ ε α), p.threads[i]? = some thread → thread.program.wp (spec thread.request) (post thread.request)
    (reached (spec thread.request) (init thread.request) i p.log)

variable {spec : ι → Program.Spec κ ρ ε τ} {init : ι → τ} {post : ι → Except ε α → τ → Prop}

theorem follows_start (world : σ) : Follows spec init post ({ world } : Pool ι κ ρ ε α η σ) :=
  ⟨fun _ h => (List.not_mem_nil h).elim, fun _ _ h => (Option.some_ne_none _ h.symm).elim⟩

theorem Follows.result {i : Nat} {thread : Thread ι κ ρ ε α} {result : Except ε α} (h : Follows spec init post p)
    (hthread : p.threads[i]? = some thread) (hresult : thread.result? = some result) :
    post thread.request result (reached (spec thread.request) (init thread.request) i p.log) :=
  Thread.post_of_result (h.follows i thread hthread) hresult

theorem Follows.allowed {i : Nat} {request : ι} {c : κ} {next : Except ε (ρ c) → Program κ ρ ε α}
    (h : Follows spec init post p) (hthread : p.threads[i]? = some { request, program := .call c next }) :
    (spec request).allowed (reached (spec request) (init request) i p.log) c :=
  (h.follows i _ hthread).1

/-- A step keeps the specifications, when the answer to the call is one that was to be expected. -/
theorem follows_step {label : Label ι η} (hp : Follows spec init post p)
    (hhandler : ∀ request, (service.handler request).wp (spec request) (post request) (init request))
    (hpossible : ∀ i environment request c next, label = .call i environment →
      p.threads[i]? = some { request, program := .call c next } →
        (spec request).possible (reached (spec request) (init request) i p.log) c (service.respond p.world environment c).1)
    (h : step service p label = some t) : Follows spec init post t := by
  cases step_cases h with
  | start request hadmits =>
    refine ⟨fun entry hmem => ?_, fun i thread hthread => ?_⟩
    · refine Nat.lt_of_lt_of_le (hp.logged entry hmem) ?_
      rw [List.length_append]
      exact Nat.le_add_right _ _
    · rcases Nat.lt_or_ge i p.threads.length with hlt | hge
      · rw [List.getElem?_append_left hlt] at hthread
        exact hp.follows i thread hthread
      · rw [List.getElem?_append_right hge] at hthread
        obtain ⟨hzero, hsame⟩ : i - p.threads.length = 0 ∧ thread = { request, program := service.handler request } := by
          cases hindex : i - p.threads.length with
          | zero =>
            rw [hindex] at hthread
            cases hthread
            exact ⟨rfl, rfl⟩
          | succ n =>
            rw [hindex] at hthread
            cases hthread
        subst hsame
        rw [reached_of_forall_ne]
        · exact hhandler request
        · intro entry hmem
          have hlogged := hp.logged entry hmem
          omega
  | call i environment request c next hthread =>
    have hlt : i < p.threads.length := (List.getElem?_eq_some_iff.1 hthread).1
    refine ⟨fun entry hmem => ?_, fun j thread hj => ?_⟩
    · rw [afterCall, List.length_set]
      rcases List.mem_cons.1 hmem with rfl | hmem
      · exact hlt
      · exact hp.logged entry hmem
    · rw [afterCall, List.getElem?_set] at hj
      by_cases hij : i = j
      · subst j
        rw [if_pos rfl, if_pos hlt] at hj
        cases hj
        have hnext := (hp.follows i _ hthread).2 _ (hpossible i environment request c next rfl hthread)
        rw [show reached (spec request) (init request) i (afterCall service p i environment request c next).log = _ from
          reached_cons_self (spec request) (init request) _ p.log]
        exact hnext
      · rw [if_neg hij] at hj
        rw [show reached (spec thread.request) (init thread.request) j
          (afterCall service p i environment request c next).log = _ from
            reached_cons_ne (spec thread.request) (init thread.request) (by exact hij) p.log]
        exact hp.follows j thread hj

/-- Where every answer is to be expected, all threads of all runs meet their specifications. -/
theorem follows_run {labels : List (Label ι η)} {world : σ}
    (hhandler : ∀ request, (service.handler request).wp (spec request) (post request) (init request))
    (hpossible : ∀ request t c answer, (spec request).possible t c answer)
    (hrun : exec (step service) { world } labels = some t) : Follows spec init post t :=
  invariant (fun _ _ _ hp h => follows_step hp hhandler (fun _ _ _ _ _ _ _ => hpossible _ _ _ _) h)
    (follows_start world) hrun

/-! ### One thread among others -/

/-- One thread meets a specification of its own from where it is. -/
def FollowsAt (spec : Program.Spec κ ρ ε τ) (init : τ) (post : Except ε α → τ → Prop) (i : Nat)
    (p : Pool ι κ ρ ε α η σ) : Prop :=
  ∃ thread : Thread ι κ ρ ε α, p.threads[i]? = some thread ∧ thread.program.wp spec post (reached spec init i p.log)

theorem followsAt_step {spec : Program.Spec κ ρ ε τ} {init : τ} {post : Except ε α → τ → Prop} {i : Nat}
    {label : Label ι η} (hp : FollowsAt spec init post i p)
    (hpossible : ∀ environment request c next, label = .call i environment →
      p.threads[i]? = some { request, program := .call c next } →
        spec.possible (reached spec init i p.log) c (service.respond p.world environment c).1)
    (h : step service p label = some t) : FollowsAt spec init post i t := by
  obtain ⟨thread, hthread, hwp⟩ := hp
  cases step_cases h with
  | start request hadmits =>
    refine ⟨thread, ?_, hwp⟩
    show (p.threads ++ _)[i]? = some thread
    rw [List.getElem?_append_left (List.getElem?_eq_some_iff.1 hthread).1]
    exact hthread
  | call j environment request c next hj =>
    by_cases hij : j = i
    · subst j
      rw [hthread] at hj
      cases hj
      have hlt : i < p.threads.length := (List.getElem?_eq_some_iff.1 hthread).1
      refine ⟨{ request, program := next (service.respond p.world environment c).1 }, ?_, ?_⟩
      · rw [afterCall, List.getElem?_set, if_pos rfl, if_pos hlt]
      · rw [show reached spec init i (afterCall service p i environment request c next).log = _ from
          reached_cons_self spec init _ p.log]
        exact hwp.2 _ (hpossible environment request c next rfl hthread)
    · refine ⟨thread, ?_, ?_⟩
      · rw [afterCall, List.getElem?_set, if_neg hij]
        exact hthread
      · rw [show reached spec init i (afterCall service p j environment request c next).log = _ from
          reached_cons_ne spec init hij p.log]
        exact hwp

theorem FollowsAt.result {spec : Program.Spec κ ρ ε τ} {init : τ} {post : Except ε α → τ → Prop} {i : Nat}
    {thread : Thread ι κ ρ ε α} {result : Except ε α} (h : FollowsAt spec init post i p)
    (hthread : p.threads[i]? = some thread) (hresult : thread.result? = some result) :
    post result (reached spec init i p.log) := by
  obtain ⟨thread', hthread', hwp⟩ := h
  rw [hthread] at hthread'
  cases hthread'
  exact Thread.post_of_result hwp hresult

theorem FollowsAt.allowed {spec : Program.Spec κ ρ ε τ} {init : τ} {post : Except ε α → τ → Prop} {i : Nat} {request : ι}
    {c : κ} {next : Except ε (ρ c) → Program κ ρ ε α} (h : FollowsAt spec init post i p)
    (hthread : p.threads[i]? = some { request, program := .call c next }) :
    spec.allowed (reached spec init i p.log) c := by
  obtain ⟨thread', hthread', hwp⟩ := h
  rw [hthread] at hthread'
  cases hthread'
  exact hwp.1

end

end Interleaving
