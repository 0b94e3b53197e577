import SafetyConfirmation.Lib.Arrivals

/-!
# What the log of a run tells

Two rules for the calls that were made in a run. What a thread has called and what it knows go together, whatever the other
threads do in between. And what an answer tells of the world stays true of it, when no step takes it back.
-/

universe u v w x

/-- A call and how it went. -/
structure Made (κ : Type) (ρ : κ → Type) (ε : Type) where
  call : κ
  answer : Except ε (ρ call)

namespace Arrivals

open Interleaving StepMachine

variable {ι : Type u} {κ : Type} {ρ : κ → Type} {ε α : Type} {η : Type v} {σ : Type w} {μ : Type x}

/-- The calls of thread `i`, the last one first. -/
def made (i : Nat) (log : List (Entry κ ρ ε η)) : List (Made κ ρ ε) :=
  log.filterMap fun entry => if entry.thread = i then some ⟨entry.call, entry.answer⟩ else none

theorem mem_made {i : Nat} {log : List (Entry κ ρ ε η)} {m : Made κ ρ ε} :
    m ∈ made i log ↔ ∃ entry ∈ log, entry.thread = i ∧ m = ⟨entry.call, entry.answer⟩ := by
  rw [made, List.mem_filterMap]
  apply exists_congr
  intro entry
  rw [Option.ite_none_right_eq_some, Option.some.injEq, eq_comm (a := m)]

theorem made_cons_self (entry : Entry κ ρ ε η) (log : List (Entry κ ρ ε η)) :
    made entry.thread (entry :: log) = ⟨entry.call, entry.answer⟩ :: made entry.thread log := by
  apply List.filterMap_cons_some
  exact if_pos rfl

theorem made_cons_ne {i : Nat} {entry : Entry κ ρ ε η} (h : entry.thread ≠ i) (log : List (Entry κ ρ ε η)) :
    made i (entry :: log) = made i log := by
  apply List.filterMap_cons_none
  exact if_neg h

theorem made_eq_nil {i : Nat} {log : List (Entry κ ρ ε η)} (h : ∀ entry ∈ log, entry.thread ≠ i) : made i log = [] := by
  rw [made, List.filterMap_eq_nil_iff]
  intro entry hmem
  exact if_neg (h entry hmem)

variable {system : System ι κ ρ ε α η σ μ} {p t : Pool ι κ ρ ε α η σ}

section Made

variable {τ : Type*} {spec : ι → Program.Spec κ ρ ε τ} {init : ι → τ} {post : ι → Except ε α → τ → Prop}

/-- What is said of the calls of a thread and of what it knows. -/
def Traced (spec : ι → Program.Spec κ ρ ε τ) (init : ι → τ) (inv : ι → List (Made κ ρ ε) → τ → Prop)
    (p : Pool ι κ ρ ε α η σ) : Prop :=
  ∀ (i : Nat) (request : ι), p.requests[i]? = some request →
    inv request (made i p.log) (reached (spec request) (init request) i p.log)

theorem traced_call {inv : ι → List (Made κ ρ ε) → τ → Prop} (hp : Follows spec init post p)
    (ht : Traced spec init inv p)
    (hcall : ∀ request calls t c answer, inv request calls t → (spec request).allowed t c →
      inv request (⟨c, answer⟩ :: calls) ((spec request).advance t c answer))
    {i : Nat} {environment : η} {request : ι} {c : κ} {next : Except ε (ρ c) → Program κ ρ ε α}
    (hthread : p.threads[i]? = some { request, program := .call c next }) :
    Traced spec init inv (afterCall system.service p i environment request c next) := by
  intro j request' hj
  rw [requests_afterCall hthread] at hj
  by_cases hij : i = j
  · subst j
    have hsame : request = request' := Option.some.inj ((request_of_thread hthread).symm.trans hj)
    subst hsame
    have hmade : made i (afterCall system.service p i environment request c next).log =
        ⟨c, (system.service.respond p.world environment c).1⟩ :: made i p.log := made_cons_self _ p.log
    have hreached : reached (spec request) (init request) i (afterCall system.service p i environment request c next).log =
        (spec request).advance (reached (spec request) (init request) i p.log) c
          (system.service.respond p.world environment c).1 := reached_cons_self _ _ _ p.log
    rw [hmade, hreached]
    exact hcall request _ _ c _ (ht i request hj) (hp.allowed hthread)
  · have hmade : made j (afterCall system.service p i environment request c next).log = made j p.log :=
      made_cons_ne (by exact hij) p.log
    have hreached : reached (spec request') (init request') j
        (afterCall system.service p i environment request c next).log =
          reached (spec request') (init request') j p.log := reached_cons_ne _ _ (by exact hij) p.log
    rw [hmade, hreached]
    exact ht j request' hj

/-- What holds of a thread that has made no call, and is kept by each call it may make, holds of every thread. -/
theorem traced_run {inv : ι → List (Made κ ρ ε) → τ → Prop} {labels : List (Label ι η μ)} {world : σ}
    (hhandler : ∀ request, (system.service.handler request).wp (spec request) (post request) (init request))
    (hpossible : ∀ request t c answer, (spec request).possible t c answer)
    (hstart : ∀ request, inv request [] (init request))
    (hcall : ∀ request calls t c answer, inv request calls t → (spec request).allowed t c →
      inv request (⟨c, answer⟩ :: calls) ((spec request).advance t c answer))
    (hrun : exec (step system) { world } labels = some t) : Traced spec init inv t := by
  apply invariant_run hhandler hpossible _ _ hrun
  · intro p t hp _ ht hstep
    cases hstep with
    | arrive request world harrive =>
      intro i request' hi
      rw [requests_arrive] at hi
      rcases getElem?_requests_append_eq_some hi with hold | ⟨rfl, hsame⟩
      · exact ht i request' hold
      · subst hsame
        have hnew : ∀ entry ∈ p.log, entry.thread ≠ p.threads.length := fun entry hmem => Nat.ne_of_lt (hp.logged entry hmem)
        rw [made_eq_nil hnew, reached_of_forall_ne _ _ hnew]
        exact hstart _
    | call i environment request c next hthread => exact traced_call hp ht hcall hthread
    | move m world hmove => exact ht
  · intro i request hi
    simp [Pool.requests] at hi

theorem exists_suffix_of_mem {γ : Type*} {x : γ} {xs : List γ} (h : x ∈ xs) : ∃ earlier, (x :: earlier) <:+ xs := by
  obtain ⟨later, earlier, rfl⟩ := List.append_of_mem h
  exact ⟨earlier, later, rfl⟩

/-- A call of the log was made by a thread that was allowed to, with what was said of it at the time. -/
structure MadeBy (spec : ι → Program.Spec κ ρ ε τ) (facts : ι → List (Made κ ρ ε) → τ → Prop)
    (p : Pool ι κ ρ ε α η σ) (i : Nat) (request : ι) (c : κ) (answer : Except ε (ρ c)) (earlier : List (Made κ ρ ε))
    (t : τ) : Prop where
  asked : p.requests[i]? = some request
  suffix : (⟨c, answer⟩ :: earlier) <:+ made i p.log
  known : facts request earlier t
  allowed : (spec request).allowed t c

/-- What is said of a thread now, and was said of it before each of its calls. -/
def Reasoned (spec : ι → Program.Spec κ ρ ε τ) (facts : ι → List (Made κ ρ ε) → τ → Prop) (request : ι)
    (calls : List (Made κ ρ ε)) (t : τ) : Prop :=
  facts request calls t ∧ ∀ m earlier, (m :: earlier) <:+ calls →
    ∃ t', facts request earlier t' ∧ (spec request).allowed t' m.call

theorem madeBy_run {facts : ι → List (Made κ ρ ε) → τ → Prop} {labels : List (Label ι η μ)} {world : σ}
    (hhandler : ∀ request, (system.service.handler request).wp (spec request) (post request) (init request))
    (hpossible : ∀ request t c answer, (spec request).possible t c answer)
    (hstart : ∀ request, facts request [] (init request))
    (hcall : ∀ request calls t c answer, facts request calls t → (spec request).allowed t c →
      facts request (⟨c, answer⟩ :: calls) ((spec request).advance t c answer))
    (hrun : exec (step system) { world } labels = some p) {entry : Entry κ ρ ε η} (hentry : entry ∈ p.log) :
    ∃ request earlier t, MadeBy spec facts p entry.thread request entry.call entry.answer earlier t := by
  have htraced : Traced spec init (Reasoned spec facts) p := by
    refine traced_run hhandler hpossible ?_ ?_ hrun
    · intro request
      refine ⟨hstart request, fun m earlier hsuffix => ?_⟩
      cases List.suffix_nil.1 hsuffix
    · intro request calls t c answer hfacts hallowed
      refine ⟨hcall request calls t c answer hfacts.1 hallowed, fun m earlier hsuffix => ?_⟩
      rcases List.suffix_cons_iff.1 hsuffix with hsame | hsuffix
      · cases hsame
        exact ⟨t, hfacts.1, hallowed⟩
      · exact hfacts.2 m earlier hsuffix
  have hlogged := (follows_run hhandler hpossible hrun).logged entry hentry
  have hlength : p.requests.length = p.threads.length := List.length_map _
  have hrequest := List.getElem?_eq_getElem (hlength ▸ hlogged)
  obtain ⟨earlier, hsuffix⟩ := exists_suffix_of_mem (mem_made.2 ⟨entry, hentry, rfl, rfl⟩)
  obtain ⟨t, hfacts, hallowed⟩ := (htraced _ _ hrequest).2 _ earlier hsuffix
  exact ⟨_, earlier, t, hrequest, hsuffix, hfacts, hallowed⟩

end Made

section Truth

/-- A relation between what the world was and what it is later. -/
structure Kept (system : System ι κ ρ ε α η σ μ) (later : σ → σ → Prop) : Prop where
  refl : ∀ world, later world world
  trans : ∀ {world world' world''}, later world world' → later world' world'' → later world world''
  respond : ∀ world environment c, later world (system.service.respond world environment c).2
  arrive : ∀ {world request world'}, system.arrive world request = some world' → later world world'
  move : ∀ {world m world'}, system.move world m = some world' → later world world'

variable {later : σ → σ → Prop}

theorem Kept.step (hlater : Kept system later) {label : Label ι η μ} (h : Arrivals.step system p label = some t) :
    later p.world t.world := by
  cases step_cases h with
  | arrive request world harrive => exact hlater.arrive harrive
  | call i environment request c next hthread => exact hlater.respond p.world environment c
  | move m world hmove => exact hlater.move hmove

/-- What every step keeps, every run keeps. -/
theorem Kept.run (hlater : Kept system later) {labels : List (Label ι η μ)} (hrun : exec (Arrivals.step system) p labels = some t) :
    later p.world t.world := by
  induction labels generalizing p with
  | nil =>
    cases hrun
    exact hlater.refl _
  | cons label labels ih =>
    obtain ⟨m, hstep, hrest⟩ := exec_cons_eq_some.1 hrun
    exact hlater.trans (hlater.step hstep) (ih hrest)

/-- What an answer says of the world it was given in, and of every later one, is true of all answers of the log. -/
theorem told_run {tells : σ → (c : κ) → Except ε (ρ c) → Prop} {labels : List (Label ι η μ)} {world : σ}
    (hlater : Kept system later)
    (hnew : ∀ world environment c,
      tells (system.service.respond world environment c).2 c (system.service.respond world environment c).1)
    (hkeep : ∀ world world' c answer, later world world' → tells world c answer → tells world' c answer)
    (hrun : exec (step system) { world } labels = some t) : ∀ entry ∈ t.log, tells t.world entry.call entry.answer := by
  apply @invariant _ _ (step system) (fun p => ∀ entry ∈ p.log, tells p.world entry.call entry.answer) _ _ _ _ _ hrun
  · intro p label t hp hstep
    have hworld := hlater.step hstep
    cases step_cases hstep with
    | arrive request world harrive => exact fun entry hmem => hkeep _ _ _ _ hworld (hp entry hmem)
    | call i environment request c next hthread =>
      intro entry hmem
      rcases List.mem_cons.1 hmem with rfl | hmem
      · exact hnew p.world environment c
      · exact hkeep _ _ _ _ hworld (hp entry hmem)
    | move m world hmove => exact fun entry hmem => hkeep _ _ _ _ hworld (hp entry hmem)
  · intro entry hmem
    cases hmem

end Truth

end Arrivals
