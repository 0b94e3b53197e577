import Mathlib.Logic.Basic

/-!
# Programs that call a service

A program is a tree of calls: it ends, raises, or makes a call and goes on with what the call answers or raises. Being
data it can be run alone, or one call at a time among others.

What a program may call, and what it knows when it ends, is said with a specification: a state of knowledge that every
answer moves on. The rules of `wp` take such a statement through the constructs that programs are written with.
-/

universe v w

/-- `ρ c` is what the call `c` answers with, and `ε` are the exceptions. -/
inductive Program (κ : Type) (ρ : κ → Type) (ε α : Type) : Type where
  | done (a : α)
  | raise (e : ε)
  | call (c : κ) (next : Except ε (ρ c) → Program κ ρ ε α)

namespace Program

variable {κ : Type} {ρ : κ → Type} {ε α β : Type}

def bind : Program κ ρ ε α → (α → Program κ ρ ε β) → Program κ ρ ε β
  | done a, f => f a
  | raise e, _ => raise e
  | call c next, f => call c fun answer => (next answer).bind f

def tryCatch : Program κ ρ ε α → (ε → Program κ ρ ε α) → Program κ ρ ε α
  | done a, _ => done a
  | raise e, handle => handle e
  | call c next, handle => call c fun answer => (next answer).tryCatch handle

instance : Monad (Program κ ρ ε) where
  pure := done
  bind := bind

theorem bind_done (program : Program κ ρ ε α) : program.bind done = program := by
  induction program with
  | done a => rfl
  | raise e => rfl
  | call c next ih => exact congrArg (call c) (funext ih)

theorem bind_assoc {γ : Type} (program : Program κ ρ ε α) (f : α → Program κ ρ ε β) (g : β → Program κ ρ ε γ) :
    (program.bind f).bind g = program.bind fun a => (f a).bind g := by
  induction program with
  | done a => rfl
  | raise e => rfl
  | call c next ih => exact congrArg (call c) (funext ih)

instance : LawfulMonad (Program κ ρ ε) := LawfulMonad.mk' _ bind_done (fun _ _ => rfl) bind_assoc

instance : MonadExceptOf ε (Program κ ρ ε) where
  throw := raise
  tryCatch := tryCatch

/-- A result that is already there. -/
def ofExcept : Except ε α → Program κ ρ ε α
  | .ok a => done a
  | .error e => raise e

theorem ofExcept_bind (result : Except ε α) (f : α → Except ε β) :
    (ofExcept (result >>= f) : Program κ ρ ε β) = ofExcept result >>= fun a => ofExcept (f a) := by
  cases result <;> rfl

def perform (c : κ) : Program κ ρ ε (ρ c) := call c ofExcept

/-- The elements of a list that a test is made for, one after another. -/
def filterList {γ : Type} (test : γ → Program κ ρ ε Bool) : List γ → Program κ ρ ε (List γ)
  | [] => done []
  | x :: xs => do
    let found ← test x
    let rest ← filterList test xs
    return if found then x :: rest else rest

/-- One program for each element of a list, the first one to raise ends it. -/
def forEach {γ : Type v} (body : γ → Program κ ρ ε Unit) : List γ → Program κ ρ ε Unit
  | [] => return ()
  | x :: xs => do
    body x
    forEach body xs

/-- A program over one of two services. -/
def inl {κ' : Type} {ρ' : κ' → Type} : Program κ ρ ε α → Program (κ ⊕ κ') (Sum.elim ρ ρ') ε α
  | done a => done a
  | raise e => raise e
  | call c next => call (.inl c) fun answer => (next answer).inl

/-- A program that goes on from how another one ended. -/
def andThen : Program κ ρ ε α → (Except ε α → Program κ ρ ε β) → Program κ ρ ε β
  | done a, f => f (.ok a)
  | raise e, f => f (.error e)
  | call c next, f => call c fun answer => (next answer).andThen f

/-- The program with the calls to the second of two services carried out by `handle`. -/
def resolve {κ' : Type} {ρ' : κ' → Type} (handle : (c : κ') → Program κ ρ ε (ρ' c)) :
    Program (κ ⊕ κ') (Sum.elim ρ ρ') ε α → Program κ ρ ε α
  | done a => done a
  | raise e => raise e
  | call (.inl c) next => call c fun answer => (next answer).resolve handle
  | call (.inr c) next => (handle c).andThen fun answer => (next answer).resolve handle

theorem andThen_ofExcept (program : Program κ ρ ε α) : program.andThen ofExcept = program := by
  induction program with
  | done a => rfl
  | raise e => rfl
  | call c next ih => exact congrArg (call c) (funext ih)

theorem andThen_bind {γ : Type} (program : Program κ ρ ε α) (f : Except ε α → Program κ ρ ε β) (g : β → Program κ ρ ε γ) :
    program.andThen f >>= g = program.andThen fun result => f result >>= g := by
  induction program with
  | done a => rfl
  | raise e => rfl
  | call c next ih => exact congrArg (call c) (funext ih)

theorem andThen_tryCatch (program : Program κ ρ ε α) (f : Except ε α → Program κ ρ ε β) (handle : ε → Program κ ρ ε β) :
    (program.andThen f).tryCatch handle = program.andThen fun result => (f result).tryCatch handle := by
  induction program with
  | done a => rfl
  | raise e => rfl
  | call c next ih => exact congrArg (call c) (funext ih)

section Resolve

variable {κ' : Type} {ρ' : κ' → Type} (handle : (c : κ') → Program κ ρ ε (ρ' c))

theorem resolve_bind (program : Program (κ ⊕ κ') (Sum.elim ρ ρ') ε α) (f : α → Program (κ ⊕ κ') (Sum.elim ρ ρ') ε β) :
    (program >>= f).resolve handle = program.resolve handle >>= fun a => (f a).resolve handle := by
  induction program with
  | done a => rfl
  | raise e => rfl
  | call c next ih =>
    cases c with
    | inl c => exact congrArg (call c) (funext ih)
    | inr c =>
      show (handle c).andThen _ = (handle c).andThen _ >>= _
      rw [andThen_bind]
      exact congrArg _ (funext ih)

theorem resolve_tryCatch (program : Program (κ ⊕ κ') (Sum.elim ρ ρ') ε α)
    (catcher : ε → Program (κ ⊕ κ') (Sum.elim ρ ρ') ε α) :
    (program.tryCatch catcher).resolve handle = (program.resolve handle).tryCatch fun e => (catcher e).resolve handle := by
  induction program with
  | done a => rfl
  | raise e => rfl
  | call c next ih =>
    cases c with
    | inl c => exact congrArg (call c) (funext ih)
    | inr c =>
      show (handle c).andThen _ = ((handle c).andThen _).tryCatch _
      rw [andThen_tryCatch]
      exact congrArg _ (funext ih)

theorem resolve_inl (program : Program κ ρ ε α) : (program.inl.resolve handle : Program κ ρ ε α) = program := by
  induction program with
  | done a => rfl
  | raise e => rfl
  | call c next ih => exact congrArg (call c) (funext ih)

theorem resolve_ofExcept (result : Except ε α) : (ofExcept result).resolve handle = ofExcept result := by
  cases result <;> rfl

theorem resolve_perform_inr (c : κ') : (perform (.inr c) : Program (κ ⊕ κ') (Sum.elim ρ ρ') ε _).resolve handle = handle c := by
  show (handle c).andThen (fun answer => (ofExcept answer).resolve handle) = handle c
  simp only [resolve_ofExcept]
  exact andThen_ofExcept (handle c)

theorem resolve_forEach {γ : Type v} (body : γ → Program (κ ⊕ κ') (Sum.elim ρ ρ') ε Unit) (xs : List γ) :
    (forEach body xs).resolve handle = forEach (fun x => (body x).resolve handle) xs := by
  induction xs with
  | nil => rfl
  | cons x xs ih =>
    rw [forEach, forEach, resolve_bind, ih]

end Resolve

/-! ### Alone -/

section Run

variable {σ : Type w} (respond : σ → (c : κ) → Except ε (ρ c) × σ)

/-- The program run by itself. -/
def run : Program κ ρ ε α → σ → Except ε α × σ
  | done a, world => (.ok a, world)
  | raise e, world => (.error e, world)
  | call c next, world => (next (respond world c).1).run (respond world c).2

theorem run_bind (program : Program κ ρ ε α) (f : α → Program κ ρ ε β) (world : σ) :
    (program >>= f).run respond world = match program.run respond world with
      | (.ok a, world') => (f a).run respond world'
      | (.error e, world') => (.error e, world') := by
  induction program generalizing world with
  | done a => rfl
  | raise e => rfl
  | call c next ih => exact ih _ _

theorem run_tryCatch (program : Program κ ρ ε α) (handle : ε → Program κ ρ ε α) (world : σ) :
    (program.tryCatch handle).run respond world = match program.run respond world with
      | (.ok a, world') => (.ok a, world')
      | (.error e, world') => (handle e).run respond world' := by
  induction program generalizing world with
  | done a => rfl
  | raise e => rfl
  | call c next ih => exact ih _ _

theorem run_ofExcept (result : Except ε α) (world : σ) :
    (ofExcept result : Program κ ρ ε α).run respond world = (result, world) := by
  cases result <;> rfl

theorem run_perform (c : κ) (world : σ) : (perform c : Program κ ρ ε (ρ c)).run respond world = respond world c := by
  show (ofExcept (respond world c).1 : Program κ ρ ε (ρ c)).run respond (respond world c).2 = _
  rw [run_ofExcept]

theorem run_filterList_eq_nil {γ : Type} {test : γ → Program κ ρ ε Bool} {world : σ}
    (htest : ∀ x, (test x).run respond world = (.ok false, world)) (xs : List γ) :
    (filterList test xs).run respond world = (.ok [], world) := by
  induction xs with
  | nil => rfl
  | cons x xs ih =>
    rw [filterList, run_bind, htest]
    dsimp only
    rw [run_bind, ih]
    rfl

end Run

/-! ### Noninterference -/

/-- What says nothing about the state it meets and leaves it as it is. -/
structure Inert {σ : Type w} {γ : Type v} (f : σ → γ × σ) : Prop where
  unchanged : ∀ s, (f s).2 = s
  same_answer : ∀ s s', (f s).1 = (f s').1

theorem inert_of_forall_eq {σ : Type w} {γ : Type v} {f : σ → γ × σ} (answer : γ) (h : ∀ s, f s = (answer, s)) : Inert f where
  unchanged s := by rw [h]
  same_answer s s' := by rw [h, h]

/-- What is inert exactly where a check fails or the request is refused. -/
theorem inert_iff_of_check {σ : Type w} {γ ε' δ : Type v} {f : σ → γ × σ} {check : Except ε' δ} {refused : Bool}
    (herror : ∀ e, check = .error e → Inert f) (hserved : ∀ a, check = .ok a → refused = false → ¬ Inert f)
    (hrefused : ∀ a, check = .ok a → refused = true → Inert f) : Inert f ↔ (!check.isOk || refused) = true := by
  cases check with
  | error e => exact iff_of_true (herror e rfl) rfl
  | ok a =>
    cases refused with
    | true => exact iff_of_true (hrefused a rfl rfl) rfl
    | false => exact iff_of_false (hserved a rfl rfl) Bool.false_ne_true

theorem not_inert_of_changed {σ : Type w} {γ δ : Type v} {f : σ → γ × σ} (observe : σ → δ) {s : σ}
    (h : observe (f s).2 ≠ observe s) : ¬ Inert f := by
  intro hinert
  rw [hinert.unchanged] at h
  exact h rfl

theorem not_inert_of_answers {σ : Type w} {γ δ : Type v} {f : σ → γ × σ} (observe : γ → δ) {s s' : σ}
    (h : observe (f s).1 ≠ observe (f s').1) : ¬ Inert f := by
  intro hinert
  rw [hinert.same_answer s s'] at h
  exact h rfl

/-- The program is at its end, without a call. -/
def Ended (program : Program κ ρ ε α) : Prop := ∃ result, program = ofExcept result

theorem ended_return (a : α) : (return a : Program κ ρ ε α).Ended := ⟨.ok a, rfl⟩

theorem ended_throw (e : ε) : (throw e : Program κ ρ ε α).Ended := ⟨.error e, rfl⟩

theorem ended_ofExcept_bind {result : Except ε α} {f : α → Program κ ρ ε β} (h : ∀ a, result = .ok a → (f a).Ended) :
    (ofExcept result >>= f).Ended := by
  cases result with
  | ok a => exact h a rfl
  | error e => exact ended_throw e

theorem Ended.tryCatch {program : Program κ ρ ε α} {handle : ε → Program κ ρ ε α} (h : program.Ended)
    (hhandle : ∀ e, (handle e).Ended) : (program.tryCatch handle).Ended := by
  obtain ⟨result, rfl⟩ := h
  cases result with
  | ok a => exact ended_return a
  | error e => exact hhandle e

/-- A program that calls nothing says nothing about the state. -/
theorem Ended.inert {σ : Type w} {program : Program κ ρ ε α} (h : program.Ended)
    (respond : σ → (c : κ) → Except ε (ρ c) × σ) : Inert (program.run respond) := by
  obtain ⟨result, rfl⟩ := h
  exact inert_of_forall_eq result fun world => run_ofExcept respond result world

/-! ### Knowledge -/

/-- What may be called, which answers are to be expected, and what an answer adds to what is known. -/
structure Spec (κ : Type) (ρ : κ → Type) (ε : Type) (τ : Type v) where
  allowed : τ → κ → Prop
  possible : τ → (c : κ) → Except ε (ρ c) → Prop := fun _ _ _ => True
  advance : τ → (c : κ) → Except ε (ρ c) → τ

section

variable {τ : Type v} (spec : Spec κ ρ ε τ)

/-- Whatever is answered, as far as it is to be expected, every call is an allowed one and the end is as `post` says. -/
def wp : Program κ ρ ε α → (Except ε α → τ → Prop) → τ → Prop
  | done a, post, t => post (.ok a) t
  | raise e, post, t => post (.error e) t
  | call c next, post, t => spec.allowed t c ∧
      ∀ answer, spec.possible t c answer → (next answer).wp post (spec.advance t c answer)

variable {spec} {post post' : Except ε α → τ → Prop} {t : τ}

theorem wp_mono (hpost : ∀ result t, post result t → post' result t) {program : Program κ ρ ε α}
    (h : program.wp spec post t) : program.wp spec post' t := by
  induction program generalizing t with
  | done a => exact hpost _ _ h
  | raise e => exact hpost _ _ h
  | call c next ih => exact ⟨h.1, fun answer hanswer => ih answer (h.2 answer hanswer)⟩

theorem wp_bind {program : Program κ ρ ε α} {f : α → Program κ ρ ε β} {post : Except ε β → τ → Prop} :
    (program >>= f).wp spec post t ↔ program.wp spec (fun result t' => match result with
      | .ok a => (f a).wp spec post t'
      | .error e => post (.error e) t') t := by
  induction program generalizing t with
  | done a => exact Iff.rfl
  | raise e => exact Iff.rfl
  | call c next ih =>
    exact and_congr_right fun _ => forall_congr' fun answer => imp_congr_right fun _ => ih answer

theorem wp_tryCatch {program : Program κ ρ ε α} {handle : ε → Program κ ρ ε α} :
    (program.tryCatch handle).wp spec post t ↔ program.wp spec (fun result t' => match result with
      | .ok a => post (.ok a) t'
      | .error e => (handle e).wp spec post t') t := by
  induction program generalizing t with
  | done a => exact Iff.rfl
  | raise e => exact Iff.rfl
  | call c next ih =>
    exact and_congr_right fun _ => forall_congr' fun answer => imp_congr_right fun _ => ih answer

theorem wp_perform {c : κ} {post : Except ε (ρ c) → τ → Prop} : (perform c : Program κ ρ ε (ρ c)).wp spec post t ↔
    spec.allowed t c ∧ ∀ answer, spec.possible t c answer → post answer (spec.advance t c answer) := by
  refine and_congr_right fun _ => forall_congr' fun answer => imp_congr_right fun _ => ?_
  cases answer <;> exact Iff.rfl

theorem wp_ofExcept_bind {result : Except ε α} {f : α → Program κ ρ ε β} {post : Except ε β → τ → Prop}
    (herror : ∀ e, result = .error e → post (.error e) t) (hok : ∀ a, result = .ok a → (f a).wp spec post t) :
    (ofExcept result >>= f).wp spec post t := by
  cases result with
  | error e => exact herror e rfl
  | ok a => exact hok a rfl

theorem wp_perform_bind {c : κ} {f : ρ c → Program κ ρ ε β} {post : Except ε β → τ → Prop} (hallowed : spec.allowed t c)
    (herror : ∀ e, spec.possible t c (.error e) → post (.error e) (spec.advance t c (.error e)))
    (hok : ∀ r, spec.possible t c (.ok r) → (f r).wp spec post (spec.advance t c (.ok r))) :
    (perform c >>= f).wp spec post t := by
  refine ⟨hallowed, fun answer hanswer => ?_⟩
  cases answer with
  | error e => exact herror e hanswer
  | ok r => exact hok r hanswer

/-- What holds before a loop and is kept by each round holds where it ends. -/
theorem wp_forEach {γ : Type w} {body : γ → Program κ ρ ε Unit} {xs : List γ} {inv : List γ → τ → Prop}
    {post : Except ε Unit → τ → Prop} (hstart : inv xs t)
    (hbody : ∀ x rest t, inv (x :: rest) t → (body x).wp spec (fun result t' => match result with
      | .ok _ => inv rest t'
      | .error e => post (.error e) t') t)
    (hend : ∀ t, inv [] t → post (.ok ()) t) : (forEach body xs).wp spec post t := by
  induction xs generalizing t with
  | nil => exact hend t hstart
  | cons x xs ih =>
    refine wp_bind.2 (wp_mono ?_ (hbody x xs t hstart))
    intro result t' hresult
    cases result with
    | ok _ => exact ih hresult
    | error e => exact hresult

/-- What the allowed calls keep holds to the end. -/
theorem wp_of_allowed {τ' : Type w} {spec' : Spec κ ρ ε τ'} {inv : τ' → Prop}
    (hpossible : ∀ t c answer, spec.possible t c answer)
    (hkeep : ∀ t c t' answer, spec.allowed t c → inv t' → spec'.possible t' c answer → inv (spec'.advance t' c answer))
    (hallowed : ∀ t c t', spec.allowed t c → spec'.allowed t' c) {program : Program κ ρ ε α} (h : program.wp spec post t)
    {t' : τ'} (hinv : inv t') : program.wp spec' (fun _ t' => inv t') t' := by
  induction program generalizing t t' with
  | done a => exact hinv
  | raise e => exact hinv
  | call c next ih =>
    refine ⟨hallowed t c t' h.1, fun answer hanswer => ?_⟩
    exact ih answer (h.2 answer (hpossible t c answer)) (hkeep t c t' answer h.1 hinv hanswer)

/-- Every call is an allowed one, whatever is known and however the program ends. -/
def Abides (spec : Spec κ ρ ε τ) (program : Program κ ρ ε α) : Prop := ∀ t, program.wp spec (fun _ _ => True) t

theorem abides_return (a : α) : (return a : Program κ ρ ε α).Abides spec := fun _ => trivial

theorem abides_throw (e : ε) : (throw e : Program κ ρ ε α).Abides spec := fun _ => trivial

theorem abides_perform {c : κ} (hallowed : ∀ t, spec.allowed t c) : (perform c : Program κ ρ ε (ρ c)).Abides spec :=
  fun t => wp_perform.2 ⟨hallowed t, fun _ _ => trivial⟩

theorem Abides.bind {program : Program κ ρ ε α} {f : α → Program κ ρ ε β} (h : program.Abides spec)
    (hf : ∀ a, (f a).Abides spec) : (program >>= f).Abides spec := by
  refine fun t => wp_bind.2 (wp_mono (fun result t' _ => ?_) (h t))
  cases result with
  | ok a => exact hf a t'
  | error e => trivial

theorem Abides.tryCatch {program : Program κ ρ ε α} {handle : ε → Program κ ρ ε α} (h : program.Abides spec)
    (hhandle : ∀ e, (handle e).Abides spec) : (program.tryCatch handle).Abides spec := by
  refine fun t => wp_tryCatch.2 (wp_mono (fun result t' _ => ?_) (h t))
  cases result with
  | ok a => trivial
  | error e => exact hhandle e t'

theorem abides_ofExcept_bind {result : Except ε α} {f : α → Program κ ρ ε β}
    (hok : ∀ a, result = .ok a → (f a).Abides spec) : (ofExcept result >>= f).Abides spec :=
  fun t => wp_ofExcept_bind (fun _ _ => trivial) fun a ha => hok a ha t

/-- A call, and what comes after the answers that are to be expected. -/
theorem abides_perform_bind {c : κ} {f : ρ c → Program κ ρ ε β} (hallowed : ∀ t, spec.allowed t c)
    (hok : ∀ t r, spec.possible t c (.ok r) → (f r).Abides spec) : (perform c >>= f).Abides spec :=
  fun t => wp_perform_bind (hallowed t) (fun _ _ => trivial) fun r hr => hok t r hr _

theorem abides_forEach {γ : Type w} {body : γ → Program κ ρ ε Unit} {xs : List γ} (h : ∀ x ∈ xs, (body x).Abides spec) :
    (forEach body xs).Abides spec := by
  induction xs with
  | nil => exact abides_return ()
  | cons x xs ih =>
    obtain ⟨hx, hxs⟩ := List.forall_mem_cons.1 h
    exact hx.bind fun _ => ih hxs

theorem abides_filterList {γ : Type} {test : γ → Program κ ρ ε Bool} (h : ∀ x, (test x).Abides spec) (xs : List γ) :
    (filterList test xs).Abides spec := by
  induction xs with
  | nil => exact abides_return []
  | cons x xs ih => exact (h x).bind fun _ => ih.bind fun _ => abides_return _

/-- A program that meets a specification makes no other calls than those this one allows. -/
theorem abides_of_wp {τ' : Type w} {spec' : Spec κ ρ ε τ'} (hpossible : ∀ t c answer, spec.possible t c answer)
    (hallowed : ∀ t c t', spec.allowed t c → spec'.allowed t' c) {program : Program κ ρ ε α} (h : program.wp spec post t) :
    program.Abides spec' :=
  fun _ => @wp_of_allowed _ _ _ _ _ spec post t _ spec' (fun _ => True) hpossible (fun _ _ _ _ _ _ _ => trivial) hallowed _ h _
    trivial

/-- A program that meets a specification, run alone where the answers are to be expected, ends as it says. -/
theorem run_of_wp {σ : Type w} {respond : σ → (c : κ) → Except ε (ρ c) × σ} (view : σ → τ)
    (hpossible : ∀ world c, spec.possible (view world) c (respond world c).1)
    (hadvance : ∀ world c, view (respond world c).2 = spec.advance (view world) c (respond world c).1)
    {program : Program κ ρ ε α} {world : σ} (h : program.wp spec post (view world)) :
    post (program.run respond world).1 (view (program.run respond world).2) := by
  induction program generalizing world with
  | done a => exact h
  | raise e => exact h
  | call c next ih =>
    refine ih (respond world c).1 ?_
    rw [hadvance]
    exact h.2 _ (hpossible world c)

/-- The calls to the first of two services, and none to the other. -/
def Spec.inl {κ' : Type} {ρ' : κ' → Type} (spec : Spec κ ρ ε τ) : Spec (κ ⊕ κ') (Sum.elim ρ ρ') ε τ where
  allowed
    | t, .inl c => spec.allowed t c
    | _, .inr _ => False
  possible
    | t, .inl c, answer => spec.possible t c answer
    | _, .inr _, _ => True
  advance
    | t, .inl c, answer => spec.advance t c answer
    | t, .inr _, _ => t

theorem wp_inl {κ' : Type} {ρ' : κ' → Type} {program : Program κ ρ ε α} :
    (program.inl : Program (κ ⊕ κ') (Sum.elim ρ ρ') ε α).wp spec.inl post t ↔ program.wp spec post t := by
  induction program generalizing t with
  | done a => exact Iff.rfl
  | raise e => exact Iff.rfl
  | call c next ih =>
    exact and_congr_right fun _ => forall_congr' fun answer => imp_congr_right fun _ => ih answer

end

end Program
