import Mathlib.Data.List.Forall2
import SafetyConfirmation.Lib.Program

/-!
# Two programs in lockstep

Two programs that make calls which go together for as long as the answers go together. What they do to two states that
are alike is alike, whatever is answered.
-/

universe u v w

/-- Results that go together: related values, or the same exception. -/
inductive ResultRel {ε : Type u} {α : Type v} {β : Type w} (R : α → β → Prop) : Except ε α → Except ε β → Prop where
  | ok {a : α} {b : β} (h : R a b) : ResultRel R (.ok a) (.ok b)
  | error (e : ε) : ResultRel R (.error e) (.error e)

namespace ResultRel

variable {ε : Type} {α β α' β' : Type} {R : α → β → Prop} {R' : α' → β' → Prop}

theorem mono {R' : α → β → Prop} (hR : ∀ a b, R a b → R' a b) {result : Except ε α} {result' : Except ε β}
    (h : ResultRel R result result') : ResultRel R' result result' := by
  cases h with
  | ok h => exact .ok (hR _ _ h)
  | error e => exact .error e

theorem refl {S : α → α → Prop} (hS : ∀ a, S a a) (result : Except ε α) : ResultRel S result result := by
  cases result with
  | ok a => exact .ok (hS a)
  | error e => exact .error e

theorem bind {result : Except ε α} {result' : Except ε β} {f : α → Except ε α'} {f' : β → Except ε β'}
    (h : ResultRel R result result') (hf : ∀ a b, R a b → ResultRel R' (f a) (f' b)) :
    ResultRel R' (result >>= f) (result' >>= f') := by
  cases h with
  | ok h => exact hf _ _ h
  | error e => exact .error e

/-- One computation for each element, the first exception ends both lists. -/
theorem mapM {S : α → β → Prop} {f : α → Except ε α'} {f' : β → Except ε β'} {xs : List α} {ys : List β}
    (h : List.Forall₂ S xs ys) (hf : ∀ x y, S x y → ResultRel R' (f x) (f' y)) :
    ResultRel (List.Forall₂ R') (xs.mapM f) (ys.mapM f') := by
  induction h with
  | nil => exact .ok .nil
  | cons hxy _ ih =>
    rw [List.mapM_cons, List.mapM_cons]
    exact (hf _ _ hxy).bind fun _ _ hhead => ih.bind fun _ _ htail => .ok (.cons hhead htail)

end ResultRel

namespace Program

/-- Which calls go together, and what they answer with when they do. -/
structure Coupling (κ : Type) (ρ : κ → Type) where
  calls : κ → κ → Prop
  answers : (c c' : κ) → ρ c → ρ c' → Prop

variable {κ : Type} {ρ : κ → Type} {ε α β α' β' : Type}

inductive Lockstep (coupling : Coupling κ ρ) (R : α → β → Prop) : Program κ ρ ε α → Program κ ρ ε β → Prop where
  | done {a : α} {b : β} (h : R a b) : Lockstep coupling R (.done a) (.done b)
  | raise (e : ε) : Lockstep coupling R (.raise e) (.raise e)
  | call {c c' : κ} {next : Except ε (ρ c) → Program κ ρ ε α} {next' : Except ε (ρ c') → Program κ ρ ε β}
      (hcall : coupling.calls c c')
      (hnext : ∀ answer answer', ResultRel (coupling.answers c c') answer answer' →
        Lockstep coupling R (next answer) (next' answer')) : Lockstep coupling R (.call c next) (.call c' next')

namespace Lockstep

variable {coupling : Coupling κ ρ} {R : α → β → Prop} {R' : α' → β' → Prop}

theorem mono {R' : α → β → Prop} (hR : ∀ a b, R a b → R' a b) {program : Program κ ρ ε α} {program' : Program κ ρ ε β}
    (h : Lockstep coupling R program program') : Lockstep coupling R' program program' := by
  induction h with
  | done h => exact .done (hR _ _ h)
  | raise e => exact .raise e
  | call hcall _ ih => exact .call hcall ih

theorem bind {program : Program κ ρ ε α} {program' : Program κ ρ ε β} {f : α → Program κ ρ ε α'}
    {f' : β → Program κ ρ ε β'} (h : Lockstep coupling R program program')
    (hf : ∀ a b, R a b → Lockstep coupling R' (f a) (f' b)) : Lockstep coupling R' (program >>= f) (program' >>= f') := by
  induction h with
  | done h => exact hf _ _ h
  | raise e => exact .raise e
  | call hcall _ ih => exact .call hcall ih

theorem tryCatch {program : Program κ ρ ε α} {program' : Program κ ρ ε β} {handle : ε → Program κ ρ ε α}
    {handle' : ε → Program κ ρ ε β} (h : Lockstep coupling R program program')
    (hhandle : ∀ e, Lockstep coupling R (handle e) (handle' e)) :
    Lockstep coupling R (program.tryCatch handle) (program'.tryCatch handle') := by
  induction h with
  | done h => exact .done h
  | raise e => exact hhandle e
  | call hcall _ ih => exact .call hcall ih

theorem ofExcept {result : Except ε α} {result' : Except ε β} (h : ResultRel R result result') :
    Lockstep coupling R (.ofExcept result : Program κ ρ ε α) (.ofExcept result') := by
  cases h with
  | ok h => exact .done h
  | error e => exact .raise e

/-- The same value is passed on to both. -/
theorem bind_eq {program program' : Program κ ρ ε α} {f : α → Program κ ρ ε α'} {f' : α → Program κ ρ ε β'}
    (h : Lockstep coupling Eq program program') (hf : ∀ a, Lockstep coupling R' (f a) (f' a)) :
    Lockstep coupling R' (program >>= f) (program' >>= f') := by
  refine h.bind fun a b hab => ?_
  subst hab
  exact hf a

theorem ofExcept_bind (result : Except ε α) {f : α → Program κ ρ ε α'} {f' : α → Program κ ρ ε β'}
    (hf : ∀ a, Lockstep coupling R' (f a) (f' a)) :
    Lockstep coupling R' (.ofExcept result >>= f) (.ofExcept result >>= f') :=
  (ofExcept (.refl (fun _ => rfl) result)).bind_eq hf

theorem perform {c c' : κ} (hcall : coupling.calls c c') : Lockstep coupling (coupling.answers c c')
    (.perform c : Program κ ρ ε (ρ c)) (.perform c') :=
  .call hcall fun _ _ h => .ofExcept h

/-- Bodies in lockstep for elements that go together. -/
theorem forEach {γ δ : Type} {S : γ → δ → Prop} {body : γ → Program κ ρ ε Unit} {body' : δ → Program κ ρ ε Unit}
    {xs : List γ} {ys : List δ} (h : List.Forall₂ S xs ys)
    (hbody : ∀ x y, S x y → Lockstep coupling (fun _ _ => True) (body x) (body' y)) :
    Lockstep coupling (fun _ _ => True) (Program.forEach body xs) (Program.forEach body' ys) := by
  induction h with
  | nil => exact .done trivial
  | cons hxy _ ih => exact (hbody _ _ hxy).bind fun _ _ _ => ih

theorem filterList {γ δ : Type} {S : γ → δ → Prop} {test : γ → Program κ ρ ε Bool} {test' : δ → Program κ ρ ε Bool}
    {xs : List γ} {ys : List δ} (h : List.Forall₂ S xs ys)
    (htest : ∀ x y, S x y → Lockstep coupling Eq (test x) (test' y)) :
    Lockstep coupling (List.Forall₂ S) (Program.filterList test xs) (Program.filterList test' ys) := by
  induction h with
  | nil => exact .done .nil
  | cons hxy _ ih =>
    refine (htest _ _ hxy).bind fun found _ hfound => ih.bind fun rest rest' hrest => .done ?_
    subst hfound
    split
    · exact .cons hxy hrest
    · exact hrest

/-- A step for each pair of calls is a run for each pair of programs. -/
theorem run {σ σ' : Type w} {respond : σ → (c : κ) → Except ε (ρ c) × σ} {respond' : σ' → (c : κ) → Except ε (ρ c) × σ'}
    {alike : σ → σ' → Prop}
    (hstep : ∀ s s' c c', alike s s' → coupling.calls c c' →
      ResultRel (coupling.answers c c') (respond s c).1 (respond' s' c').1 ∧ alike (respond s c).2 (respond' s' c').2)
    {program : Program κ ρ ε α} {program' : Program κ ρ ε β} (h : Lockstep coupling R program program') {s : σ} {s' : σ'}
    (hs : alike s s') :
    ResultRel R (program.run respond s).1 (program'.run respond' s').1 ∧
      alike (program.run respond s).2 (program'.run respond' s').2 := by
  induction h generalizing s s' with
  | done h => exact ⟨.ok h, hs⟩
  | raise e => exact ⟨.error e, hs⟩
  | call hcall _ ih =>
    obtain ⟨hanswer, hafter⟩ := hstep _ _ _ _ hs hcall
    exact ih _ _ hanswer hafter

end Lockstep

/-! ### Programs over two services -/

section

variable {κ₂ : Type} {ρ₂ : κ₂ → Type}

/-- Two couplings side by side: a call goes with none to the other service. -/
def Coupling.sum (left : Coupling κ ρ) (right : Coupling κ₂ ρ₂) : Coupling (κ ⊕ κ₂) (Sum.elim ρ ρ₂) where
  calls
    | .inl c, .inl c' => left.calls c c'
    | .inr c, .inr c' => right.calls c c'
    | _, _ => False
  answers
    | .inl c, .inl c', answer, answer' => left.answers c c' answer answer'
    | .inr c, .inr c', answer, answer' => right.answers c c' answer answer'
    | _, _, _, _ => False

theorem Lockstep.inl {left : Coupling κ ρ} {right : Coupling κ₂ ρ₂} {R : α → β → Prop} {program : Program κ ρ ε α}
    {program' : Program κ ρ ε β} (h : Lockstep left R program program') :
    Lockstep (left.sum right) R program.inl program'.inl := by
  induction h with
  | done h => exact .done h
  | raise e => exact .raise e
  | @call c c' next next' hcall _ ih =>
    refine @Lockstep.call _ _ _ _ _ (left.sum right) R (.inl c) (.inl c') _ _ hcall fun answer answer' h => ?_
    exact ih answer answer' h

end

end Program
