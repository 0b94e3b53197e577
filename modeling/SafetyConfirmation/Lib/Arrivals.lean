import SafetyConfirmation.Lib.Interleaving

/-!
# Requests that the world lets in

A service in a world that moves by itself: a request comes in where the world allows it, and leaves its mark there, and the
world takes steps of its own between the calls of the threads. What the threads follow is untouched by that.
-/

universe u v w x

namespace Arrivals

open Interleaving StepMachine

/-- A service, what a request does to the world as it comes in, and the moves of the world. -/
structure System (ι : Type u) (κ : Type) (ρ : κ → Type) (ε α : Type) (η : Type v) (σ : Type w) (μ : Type x) where
  service : Service ι κ ρ ε α η σ
  arrive : σ → ι → Option σ
  move : σ → μ → Option σ

inductive Label (ι : Type u) (η : Type v) (μ : Type x) where
  | arrive (request : ι)
  | call (thread : Nat) (environment : η)
  | move (m : μ)

variable {ι : Type u} {κ : Type} {ρ : κ → Type} {ε α : Type} {η : Type v} {σ : Type w} {μ : Type x}

def Label.request? : Label ι η μ → Option ι
  | arrive request => some request
  | _ => none

def step (system : System ι κ ρ ε α η σ μ) (p : Pool ι κ ρ ε α η σ) : Label ι η μ → Option (Pool ι κ ρ ε α η σ)
  | .arrive request =>
    (system.arrive p.world request).bind fun world => Interleaving.step system.service { p with world } (.start request)
  | .call i environment => Interleaving.step system.service p (.call i environment)
  | .move m => (system.move p.world m).map fun world => { p with world }

variable {system : System ι κ ρ ε α η σ μ} {p t : Pool ι κ ρ ε α η σ}

/-- What a step does. -/
inductive StepCases (system : System ι κ ρ ε α η σ μ) (p : Pool ι κ ρ ε α η σ) : Pool ι κ ρ ε α η σ → Prop where
  | arrive (request : ι) (world : σ) (harrive : system.arrive p.world request = some world) : StepCases system p
      { p with world, threads := p.threads ++ [{ request, program := system.service.handler request }] }
  | call (i : Nat) (environment : η) (request : ι) (c : κ) (next : Except ε (ρ c) → Program κ ρ ε α)
      (hthread : p.threads[i]? = some { request, program := .call c next }) :
      StepCases system p (afterCall system.service p i environment request c next)
  | move (m : μ) (world : σ) (hmove : system.move p.world m = some world) : StepCases system p { p with world }

theorem step_cases {label : Label ι η μ} (h : step system p label = some t) : StepCases system p t := by
  cases label with
  | arrive request =>
    obtain ⟨world, harrive, hstart⟩ := Option.bind_eq_some_iff.1 h
    cases Interleaving.step_cases hstart with
    | start _ _ => exact .arrive request world harrive
  | call i environment =>
    rw [step] at h
    cases Interleaving.step_cases h with
    | call _ _ request c next hthread => exact .call i environment request c next hthread
  | move m =>
    obtain ⟨world, hmove, rfl⟩ := Option.map_eq_some_iff.1 h
    exact .move m world hmove

section Follows

variable {τ : Type*} {spec : ι → Program.Spec κ ρ ε τ} {init : ι → τ} {post : ι → Except ε α → τ → Prop}

/-- The world may change under the threads. -/
theorem follows_of_world (hp : Follows spec init post p) (world : σ) : Follows spec init post { p with world } :=
  ⟨hp.logged, hp.follows⟩

theorem follows_step {label : Label ι η μ} (hp : Follows spec init post p)
    (hhandler : ∀ request, (system.service.handler request).wp (spec request) (post request) (init request))
    (hpossible : ∀ request t c answer, (spec request).possible t c answer) (h : step system p label = some t) :
    Follows spec init post t := by
  cases label with
  | arrive request =>
    obtain ⟨world, -, hstart⟩ := Option.bind_eq_some_iff.1 h
    exact Interleaving.follows_step (follows_of_world hp world) hhandler (fun _ _ _ _ _ _ _ => hpossible _ _ _ _) hstart
  | call i environment =>
    rw [step] at h
    exact Interleaving.follows_step hp hhandler (fun _ _ _ _ _ _ _ => hpossible _ _ _ _) h
  | move m =>
    obtain ⟨world, -, rfl⟩ := Option.map_eq_some_iff.1 h
    exact follows_of_world hp world

/-- All threads of all runs meet their specifications. -/
theorem follows_run {labels : List (Label ι η μ)} {world : σ}
    (hhandler : ∀ request, (system.service.handler request).wp (spec request) (post request) (init request))
    (hpossible : ∀ request t c answer, (spec request).possible t c answer)
    (hrun : exec (step system) { world } labels = some t) : Follows spec init post t :=
  invariant (fun _ _ _ hp h => follows_step hp hhandler hpossible h) (follows_start world) hrun

/-- What holds of a state whose threads follow their specifications, and is kept by each kind of step there, holds after
every run. -/
theorem invariant_run {inv : Pool ι κ ρ ε α η σ → Prop} {labels : List (Label ι η μ)} {world : σ}
    (hhandler : ∀ request, (system.service.handler request).wp (spec request) (post request) (init request))
    (hpossible : ∀ request t c answer, (spec request).possible t c answer)
    (hkeep : ∀ p t, Follows spec init post p → Follows spec init post t → inv p → StepCases system p t → inv t)
    (hinit : inv { world }) (hrun : exec (step system) { world } labels = some t) : inv t := by
  have hboth := @invariant _ _ (step system) (fun p => Follows spec init post p ∧ inv p)
    (fun p _ t hp h => by
      have ht := follows_step hp.1 hhandler hpossible h
      exact ⟨ht, hkeep p t hp.1 ht hp.2 (step_cases h)⟩)
    _ _ _ ⟨follows_start world, hinit⟩ hrun
  exact hboth.2

end Follows

section Requests

theorem requests_arrive (world : σ) (request : ι) (program : Program κ ρ ε α) :
    ({ p with world, threads := p.threads ++ [{ request, program }] } : Pool ι κ ρ ε α η σ).requests =
      p.requests ++ [request] := by
  simp [Pool.requests]

theorem requests_afterCall {i : Nat} {environment : η} {request : ι} {c : κ} {next : Except ε (ρ c) → Program κ ρ ε α}
    (hthread : p.threads[i]? = some { request, program := .call c next }) :
    (afterCall system.service p i environment request c next).requests = p.requests := by
  apply List.ext_getElem?
  intro j
  simp only [Pool.requests, afterCall, List.getElem?_map, List.getElem?_set]
  by_cases hij : i = j
  · subst j
    rw [if_pos rfl, if_pos (List.getElem?_eq_some_iff.1 hthread).1, hthread]
    rfl
  · rw [if_neg hij]

/-- The threads of a run are the requests that have come in. -/
theorem requests_run {labels : List (Label ι η μ)} (hrun : exec (step system) p labels = some t) :
    t.requests = p.requests ++ labels.filterMap Label.request? := by
  induction labels generalizing p with
  | nil =>
    cases hrun
    rw [List.filterMap_nil, List.append_nil]
  | cons label labels ih =>
    obtain ⟨m, hstep, hrest⟩ := exec_cons_eq_some.1 hrun
    rw [ih hrest]
    cases label with
    | arrive request =>
      obtain ⟨world, -, hstart⟩ := Option.bind_eq_some_iff.1 hstep
      cases Interleaving.step_cases hstart with
      | start _ _ =>
        rw [requests_arrive, List.append_assoc]
        rfl
    | call i environment =>
      rw [step] at hstep
      cases Interleaving.step_cases hstep with
      | call _ _ request c next hthread =>
        rw [requests_afterCall hthread]
        rfl
    | move m =>
      obtain ⟨world, -, rfl⟩ := Option.map_eq_some_iff.1 hstep
      rfl

theorem request_of_thread {i : Nat} {thread : Thread ι κ ρ ε α} (hthread : p.threads[i]? = some thread) :
    p.requests[i]? = some thread.request := by
  rw [Pool.requests, List.getElem?_map, hthread, Option.map_some]

/-- A request that has come in stays where it is. -/
theorem getElem?_requests_append {request : ι} {i : Nat} {request' : ι} (h : p.requests[i]? = some request') :
    (p.requests ++ [request])[i]? = some request' := by
  rw [List.getElem?_append_left (List.getElem?_eq_some_iff.1 h).1]
  exact h

/-- The request of a thread is an old one, or the new one. -/
theorem getElem?_requests_append_eq_some {request : ι} {i : Nat} {request' : ι}
    (h : (p.requests ++ [request])[i]? = some request') :
    p.requests[i]? = some request' ∨ (i = p.threads.length ∧ request' = request) := by
  have hlength : p.requests.length = p.threads.length := List.length_map _
  rcases Nat.lt_or_ge i p.requests.length with hlt | hge
  · rw [List.getElem?_append_left hlt] at h
    exact .inl h
  · rw [List.getElem?_append_right hge] at h
    cases hindex : i - p.requests.length with
    | zero =>
      rw [hindex] at h
      cases h
      exact .inr ⟨by omega, rfl⟩
    | succ n =>
      rw [hindex] at h
      cases h

end Requests

end Arrivals

namespace Program

variable {κ : Type} {ρ : κ → Type} {ε α : Type} {τ : Type v} {τ' : Type w}

/-- A specification that is met where only a part of what is known is looked at. -/
theorem wp_of_view {spec : Spec κ ρ ε τ} {spec' : Spec κ ρ ε τ'} (view : τ' → τ)
    (hallowed : ∀ t c, spec.allowed (view t) c → spec'.allowed t c)
    (hpossible : ∀ t c answer, spec'.possible t c answer → spec.possible (view t) c answer)
    (hadvance : ∀ t c answer, view (spec'.advance t c answer) = spec.advance (view t) c answer)
    {post : Except ε α → τ → Prop} {program : Program κ ρ ε α} {t : τ'} (h : program.wp spec post (view t)) :
    program.wp spec' (fun result t => post result (view t)) t := by
  induction program generalizing t with
  | done a => exact h
  | raise e => exact h
  | call c next ih =>
    refine ⟨hallowed t c h.1, fun answer hanswer => ih answer ?_⟩
    rw [hadvance]
    exact h.2 answer (hpossible t c answer hanswer)

end Program
