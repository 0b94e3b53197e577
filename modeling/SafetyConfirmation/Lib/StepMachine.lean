import Mathlib.Data.List.Basic
import Mathlib.Data.List.Induction
import Mathlib.Logic.Basic

/-!
# Step machines

A system that takes labelled steps is a partial function `step : σ → α → Option σ`: the label says which
party acts and what its environment answers, and `none` means the label is not enabled. An interleaving is
a list of labels, so a property of all interleavings is a statement about all lists, and a concrete one can
be evaluated.

The rules below are the induction over such a list, once and for all: a property kept by every step holds
after every run, and a property kept by every step that meets a guard holds after every run whose steps
meet it.
-/

universe u v

namespace StepMachine

variable {σ : Type u} {α : Type v}

section

variable (step : σ → α → Option σ)

/-- The state a list of labels leads to, `none` when one of them is not enabled where it is taken. -/
def exec : σ → List α → Option σ
  | s, [] => some s
  | s, a :: as => (step s a).bind fun t => exec t as

@[simp] theorem exec_nil (s : σ) : exec step s [] = some s := rfl

theorem exec_cons (s : σ) (a : α) (as : List α) :
    exec step s (a :: as) = (step s a).bind fun t => exec step t as := rfl

theorem exec_append (s : σ) (as bs : List α) :
    exec step s (as ++ bs) = (exec step s as).bind fun t => exec step t bs := by
  induction as generalizing s with
  | nil => rfl
  | cons a as ih =>
    rw [List.cons_append, exec_cons, exec_cons, Option.bind_assoc]
    exact congrArg _ (funext ih)

/-- Every label of the run meets the guard in the state it is taken in. -/
def Guarded (guard : σ → α → Prop) : σ → List α → Prop
  | _, [] => True
  | s, a :: as => guard s a ∧ ∀ t ∈ step s a, Guarded guard t as

instance Guarded.decidable (guard : σ → α → Prop) [∀ s a, Decidable (guard s a)] :
    ∀ s as, Decidable (Guarded step guard s as)
  | _, [] => .isTrue trivial
  | s, a :: as =>
    match hstep : step s a with
    | none => decidable_of_iff (guard s a) (by simp [Guarded, hstep])
    | some t =>
      have := Guarded.decidable guard t as
      decidable_of_iff (guard s a ∧ Guarded step guard t as) (by simp [Guarded, hstep])

end

variable {step : σ → α → Option σ}

theorem exec_cons_eq_some {s t : σ} {a : α} {as : List α} :
    exec step s (a :: as) = some t ↔ ∃ m, step s a = some m ∧ exec step m as = some t := by
  rw [exec_cons, Option.bind_eq_some_iff]

theorem exec_cons_of_eq {s m : σ} {a : α} (h : step s a = some m) (as : List α) :
    exec step s (a :: as) = exec step m as := by
  rw [exec_cons, h, Option.bind_some]

theorem exec_append_of_eq {s m : σ} {as : List α} (h : exec step s as = some m) (bs : List α) :
    exec step s (as ++ bs) = exec step m bs := by
  rw [exec_append, h, Option.bind_some]

theorem exec_singleton (s : σ) (a : α) : exec step s [a] = step s a := by
  rw [exec_cons]
  exact Option.bind_fun_some (step s a)

@[simp] theorem guarded_nil {guard : σ → α → Prop} (s : σ) : Guarded step guard s [] := trivial

theorem guarded_cons {guard : σ → α → Prop} {s : σ} {a : α} {as : List α} :
    Guarded step guard s (a :: as) ↔ guard s a ∧ ∀ t, step s a = some t → Guarded step guard t as := Iff.rfl

theorem guarded_of_forall {guard : σ → α → Prop} (h : ∀ s a, guard s a) {s : σ} {as : List α} :
    Guarded step guard s as := by
  induction as generalizing s with
  | nil => trivial
  | cons a as ih => exact ⟨h s a, fun t _ => ih⟩

/-- A guard that reads the action only. -/
theorem guarded_of_forall_mem {guard : α → Prop} {s : σ} {as : List α} (h : ∀ a ∈ as, guard a) :
    Guarded step (fun _ => guard) s as := by
  induction as generalizing s with
  | nil => trivial
  | cons a as ih => exact ⟨h a List.mem_cons_self, fun t _ => ih fun b hb => h b (List.mem_cons_of_mem a hb)⟩

/-- The guard of a run is the guard of its first part and, from where that leads, of its second. -/
theorem guarded_append {guard : σ → α → Prop} {s m : σ} {as bs : List α} (hrun : exec step s as = some m) :
    Guarded step guard s (as ++ bs) ↔ Guarded step guard s as ∧ Guarded step guard m bs := by
  induction as generalizing s with
  | nil =>
    cases hrun
    simp
  | cons a as ih =>
    obtain ⟨t, hstep, hrest⟩ := exec_cons_eq_some.1 hrun
    have htail : ∀ {as' : List α}, (∀ t', step s a = some t' → Guarded step guard t' as') ↔
        Guarded step guard t as' := by
      intro as'
      simp [hstep]
    rw [List.cons_append, guarded_cons, guarded_cons, htail, htail, ih hrest, and_assoc]

/-- A property that every step meeting the guard keeps holds after every run whose steps meet it. -/
theorem invariant_of_guarded {guard : σ → α → Prop} {inv : σ → Prop}
    (hkeep : ∀ s a t, inv s → guard s a → step s a = some t → inv t) {s t : σ} {as : List α}
    (hinit : inv s) (hguard : Guarded step guard s as) (hrun : exec step s as = some t) : inv t := by
  induction as generalizing s with
  | nil =>
    cases hrun
    exact hinit
  | cons a as ih =>
    obtain ⟨m, hstep, hrest⟩ := exec_cons_eq_some.1 hrun
    exact ih (hkeep s a m hinit hguard.1 hstep) (hguard.2 m hstep) hrest

/-- Two guards that agree wherever the runs meeting the first one lead are met by the same runs. -/
theorem guarded_iff_of_invariant {guard guard' : σ → α → Prop} {inv : σ → Prop}
    (hiff : ∀ s a, inv s → (guard s a ↔ guard' s a))
    (hkeep : ∀ s a t, inv s → guard s a → step s a = some t → inv t) {s : σ} (hinit : inv s) (as : List α) :
    Guarded step guard s as ↔ Guarded step guard' s as := by
  induction as generalizing s with
  | nil => exact Iff.rfl
  | cons a as ih =>
    rw [guarded_cons, guarded_cons, ← hiff s a hinit]
    apply and_congr_right
    intro hguard
    apply forall_congr'
    intro t
    apply imp_congr_right
    intro hstep
    exact ih (hkeep s a t hinit hguard hstep)

/-- A property that every step keeps holds after every run. -/
theorem invariant {inv : σ → Prop} (hkeep : ∀ s a t, inv s → step s a = some t → inv t) {s t : σ} {as : List α}
    (hinit : inv s) (hrun : exec step s as = some t) : inv t :=
  invariant_of_guarded (fun s a t hinv _ => hkeep s a t hinv) hinit (guarded_of_forall fun _ _ => trivial) hrun

/-- Where a step that breaks the guard leads into a trap no step leaves, a run that ends outside it met the guard. -/
theorem guarded_of_not_trapped {guard : σ → α → Prop} {inv trapped : σ → Prop}
    (hinv : ∀ s a t, inv s → step s a = some t → inv t)
    (hfall : ∀ s a t, inv s → ¬ guard s a → step s a = some t → trapped t)
    (hkeep : ∀ s a t, inv s → trapped s → step s a = some t → trapped t) {s t : σ} {as : List α} (hinit : inv s)
    (hrun : exec step s as = some t) (hfree : ¬ trapped t) : Guarded step guard s as := by
  induction as generalizing s with
  | nil => trivial
  | cons a as ih =>
    obtain ⟨m, hstep, hrest⟩ := exec_cons_eq_some.1 hrun
    have hm : inv m := hinv s a m hinit hstep
    refine ⟨?_, fun m' hm' => ?_⟩
    · by_contra hguard
      have hlast := @invariant _ _ _ (fun s => inv s ∧ trapped s)
        (fun s a t h hs => ⟨hinv s a t h.1 hs, hkeep s a t h.1 h.2 hs⟩) _ _ _ ⟨hm, hfall s a m hinit hguard hstep⟩ hrest
      exact hfree hlast.2
    · rw [Option.mem_def, hstep] at hm'
      cases hm'
      exact ih hm hrest

/-- Where a step that breaks the guard breaks the property, the runs that meet the guard are those in every state of which
the property holds. -/
theorem guarded_iff_everywhere {guard : σ → α → Prop} {inv property : σ → Prop}
    (hinv : ∀ s a t, inv s → property s → guard s a → step s a = some t → inv t ∧ property t)
    (hbreak : ∀ s a t, inv s → property s → ¬ guard s a → step s a = some t → ¬ property t) {s t : σ} {as : List α}
    (hinit : inv s) (hproperty : property s) (hrun : exec step s as = some t) :
    Guarded step guard s as ↔ ∀ before after m, as = before ++ after → exec step s before = some m → property m := by
  induction as generalizing s with
  | nil =>
    refine iff_of_true trivial fun before after m happend hbefore => ?_
    rw [(List.append_eq_nil_iff.1 happend.symm).1] at hbefore
    cases hbefore
    exact hproperty
  | cons a as ih =>
    obtain ⟨m, hstep, hrest⟩ := exec_cons_eq_some.1 hrun
    have hstates : (∀ before after n, a :: as = before ++ after → exec step s before = some n → property n) ↔
        ∀ before after n, as = before ++ after → exec step m before = some n → property n := by
      constructor
      · intro hall before after n happend hbefore
        exact hall (a :: before) after n (by rw [happend, List.cons_append]) ((exec_cons_of_eq hstep before).trans hbefore)
      · intro hall before after n happend hbefore
        cases before with
        | nil =>
          cases hbefore
          exact hproperty
        | cons b before =>
          rw [List.cons_append, List.cons.injEq] at happend
          obtain ⟨rfl, happend⟩ := happend
          rw [exec_cons_of_eq hstep] at hbefore
          exact hall before after n happend hbefore
    rw [hstates, guarded_cons]
    by_cases hguard : guard s a
    · obtain ⟨hm, hpm⟩ := hinv s a m hinit hproperty hguard hstep
      rw [← ih hm hpm hrest]
      refine ⟨fun h => h.2 m hstep, fun h => ⟨hguard, fun n hn => ?_⟩⟩
      rw [hstep] at hn
      cases hn
      exact h
    · refine iff_of_false (fun h => hguard h.1) fun hall => ?_
      exact hbreak s a m hinit hproperty hguard hstep (hall [] as m rfl rfl)

/-- A relation to the past that is a preorder and that every step respects relates the ends of every run. -/
theorem relation_of_guarded {guard : σ → α → Prop} {rel : σ → σ → Prop} (hrefl : ∀ s, rel s s)
    (htrans : ∀ {s m t}, rel s m → rel m t → rel s t)
    (hstep : ∀ s a t, guard s a → step s a = some t → rel s t) {s t : σ} {as : List α}
    (hguard : Guarded step guard s as) (hrun : exec step s as = some t) : rel s t := by
  induction as generalizing s with
  | nil =>
    cases hrun
    exact hrefl _
  | cons a as ih =>
    obtain ⟨m, ha, hrest⟩ := exec_cons_eq_some.1 hrun
    exact htrans (hstep s a m hguard.1 ha) (ih (hguard.2 m ha) hrest)

/-- Where every label is enabled and takes the measure down until it is done, each sequence of labels gets there. -/
theorem exists_exec_done {inv done : σ → Prop} {measure : σ → Nat}
    (hstep : ∀ s a, inv s → ¬ done s → ∃ t, step s a = some t ∧ inv t ∧ measure t < measure s) {s : σ} (hinit : inv s)
    (labels : Nat → α) :
    ∃ n t, exec step s ((List.range n).map labels) = some t ∧ inv t ∧ done t := by
  induction hmeasure : measure s using Nat.strongRecOn generalizing s labels with
  | ind m ih =>
    by_cases hdone : done s
    · exact ⟨0, s, rfl, hinit, hdone⟩
    · obtain ⟨t, ht, hinv, hlt⟩ := hstep s (labels 0) hinit hdone
      obtain ⟨n, u, hrun, hu⟩ := ih (measure t) (hmeasure ▸ hlt) hinv (fun k => labels (k + 1)) rfl
      refine ⟨n + 1, u, ?_, hu⟩
      rw [List.range_succ_eq_map, List.map_cons, List.map_map, exec_cons_of_eq ht]
      exact hrun

/-! ### The history of a run -/

/-- What holds at the start with no labels, and is passed on by each further step, holds of every run and its labels. -/
theorem run_induction {s : σ} {motive : List α → σ → Prop} (hstart : motive [] s)
    (hstep : ∀ as m a t, exec step s as = some m → motive as m → step m a = some t → motive (as ++ [a]) t)
    {t : σ} {as : List α} (hrun : exec step s as = some t) : motive as t := by
  induction as using List.reverseRecOn generalizing t with
  | nil =>
    cases hrun
    exact hstart
  | append_singleton as a ih =>
    rw [exec_append] at hrun
    obtain ⟨m, hm, ha⟩ := Option.bind_eq_some_iff.1 hrun
    rw [exec_singleton] at ha
    exact hstep as m a t hm (ih hm) ha

variable (step) in
/-- Some label of the run is an event in the state it is taken in. -/
def Happened (event : σ → α → Prop) (s : σ) (as : List α) : Prop :=
  ∃ before a after m, as = before ++ a :: after ∧ exec step s before = some m ∧ event m a

theorem happened_singleton {event : σ → α → Prop} {s : σ} {a : α} (h : event s a) : Happened step event s [a] :=
  ⟨[], a, [], s, rfl, rfl, h⟩

theorem Happened.append {event : σ → α → Prop} {s : σ} {as : List α} (h : Happened step event s as) (bs : List α) :
    Happened step event s (as ++ bs) := by
  obtain ⟨before, a, after, m, rfl, hrun, hevent⟩ := h
  refine ⟨before, a, after ++ bs, m, ?_, hrun, hevent⟩
  rw [List.append_assoc, List.cons_append]

theorem Happened.after {event : σ → α → Prop} {s m : σ} {as bs : List α} (hrun : exec step s as = some m)
    (h : Happened step event m bs) : Happened step event s (as ++ bs) := by
  obtain ⟨before, a, after, n, rfl, hbefore, hevent⟩ := h
  refine ⟨as ++ before, a, after, n, ?_, ?_, hevent⟩
  · rw [List.append_assoc]
  · rw [exec_append_of_eq hrun, hbefore]

end StepMachine
