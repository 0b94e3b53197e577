import Mathlib.Data.List.Forall2

/-!
# Checks that raise

A function that validates its input and raises is a computation in `Except ε`: each check is a `require`, and
the rules below take a computation that returned apart into the steps that returned.
-/

universe u v

namespace Checks

variable {ε : Type u} {α β γ : Type v}

def require (ok : Prop) [Decidable ok] (e : ε) : Except ε PUnit.{v + 1} :=
  if ok then .ok ⟨⟩ else .error e

@[simp] theorem require_of {ok : Prop} [Decidable ok] (h : ok) (e : ε) : require.{u, v} ok e = .ok ⟨⟩ := if_pos h

@[simp] theorem require_eq_ok {ok : Prop} [Decidable ok] {e : ε} {u : PUnit} : require.{u, v} ok e = .ok u ↔ ok := by
  rw [require]
  split
  · exact iff_of_true rfl ‹_›
  · exact iff_of_false (by simp) ‹_›

@[simp] theorem ok_bind (a : α) (f : α → Except ε β) : (Except.ok a >>= f) = f a := rfl

@[simp] theorem error_bind (e : ε) (f : α → Except ε β) : (Except.error e >>= f) = .error e := rfl

@[simp] theorem pure_eq_ok (a : α) : (pure a : Except ε α) = .ok a := rfl

/-- What has to be there. -/
def demand (x : Option α) (e : ε) : Except ε α := x.elim (.error e) .ok

@[simp] theorem demand_some (a : α) (e : ε) : demand (some a) e = .ok a := rfl

theorem demand_eq_ok {x : Option α} {e : ε} {a : α} : demand x e = .ok a ↔ x = some a := by
  cases x with
  | none => exact iff_of_false nofun nofun
  | some b => exact ⟨fun h => congrArg some (Except.ok.inj h), fun h => congrArg Except.ok (Option.some.inj h)⟩

@[simp] theorem toOption_demand (x : Option α) (e : ε) : (demand x e).toOption = x := by
  cases x <;> rfl

theorem toOption_bind (x : Except ε α) (f : α → Except ε β) :
    (x >>= f).toOption = x.toOption.bind fun a => (f a).toOption := by
  cases x <;> rfl

theorem toOption_pure (a : α) : (pure a : Except ε α).toOption = some a := rfl

theorem exists_of_isOk {x : Except ε α} (h : x.isOk = true) : ∃ a, x = .ok a := by
  cases x with
  | ok a => exact ⟨a, rfl⟩
  | error e => cases h

/-- A computation returned when its first step did and its second did on what the first returned. -/
theorem bind_eq_ok {x : Except ε α} {f : α → Except ε β} {b : β} :
    (x >>= f) = .ok b ↔ ∃ a, x = .ok a ∧ f a = .ok b := by
  cases x with
  | error e => simp
  | ok a => simp

/-- It raised when its first step did, or its second on what the first returned. -/
theorem bind_eq_error {x : Except ε α} {f : α → Except ε β} {e : ε} :
    (x >>= f) = .error e ↔ x = .error e ∨ ∃ a, x = .ok a ∧ f a = .error e := by
  cases x with
  | error e' => simp
  | ok a => simp

/-- A loop of checks returned when each of them did. -/
theorem forM_eq_ok {xs : List α} {check : α → Except ε PUnit.{v + 1}} :
    xs.forM check = .ok ⟨⟩ ↔ ∀ x ∈ xs, check x = .ok ⟨⟩ := by
  induction xs with
  | nil => exact iff_of_true rfl fun _ hx => nomatch hx
  | cons x xs ih =>
    have hcons : (x :: xs).forM check = check x >>= fun _ => xs.forM check := rfl
    rw [hcons, bind_eq_ok, List.forall_mem_cons, ← ih]
    exact ⟨fun ⟨_, hx, hxs⟩ => ⟨hx, hxs⟩, fun ⟨hx, hxs⟩ => ⟨_, hx, hxs⟩⟩

/-- A list is mapped to the images it should have when each element is. -/
theorem mapM_eq_ok_map {xs : List α} {f : α → Except ε β} {g : α → β} :
    xs.mapM f = .ok (xs.map g) ↔ ∀ x ∈ xs, f x = .ok (g x) := by
  induction xs with
  | nil => exact iff_of_true (List.mapM_nil ..) fun _ hx => nomatch hx
  | cons x xs ih =>
    rw [List.mapM_cons, List.forall_mem_cons, ← ih]
    constructor
    · intro h
      obtain ⟨y, hy, h⟩ := bind_eq_ok.1 h
      obtain ⟨ys, hys, h⟩ := bind_eq_ok.1 h
      obtain ⟨rfl, rfl⟩ := List.cons.inj (Except.ok.inj h)
      exact ⟨hy, hys⟩
    · intro h
      rw [h.1, h.2]
      rfl

/-- What a mapped list holds came from an element of the list. -/
theorem exists_of_mem_mapM {xs : List α} {f : α → Except ε β} {ys : List β} (h : xs.mapM f = .ok ys) {y : β}
    (hy : y ∈ ys) : ∃ x ∈ xs, f x = .ok y := by
  induction xs generalizing ys with
  | nil =>
    rw [List.mapM_nil] at h
    cases h
    cases hy
  | cons x xs ih =>
    rw [List.mapM_cons] at h
    obtain ⟨z, hz, h⟩ := bind_eq_ok.1 h
    obtain ⟨zs, hzs, h⟩ := bind_eq_ok.1 h
    cases h
    rcases List.mem_cons.1 hy with rfl | hy
    · exact ⟨x, List.mem_cons_self, hz⟩
    · obtain ⟨x', hx', hfx'⟩ := ih hzs hy
      exact ⟨x', List.mem_cons_of_mem _ hx', hfx'⟩

/-- What a loop writes another one reads back, when that is so of each element. -/
theorem exists_mapM_of_forall {xs : List α} {f : α → Except ε β} {read : β → Option γ} {g : α → γ}
    (h : ∀ x ∈ xs, ∃ y, f x = .ok y ∧ read y = some (g x)) :
    ∃ ys, xs.mapM f = .ok ys ∧ ys.mapM read = some (xs.map g) := by
  induction xs with
  | nil => exact ⟨[], rfl, rfl⟩
  | cons x xs ih =>
    obtain ⟨y, hy, hread⟩ := h x List.mem_cons_self
    obtain ⟨ys, hys, hreads⟩ := ih fun x' hx' => h x' (List.mem_cons_of_mem _ hx')
    refine ⟨y :: ys, ?_, ?_⟩
    · rw [List.mapM_cons, hy, hys]
      rfl
    · rw [List.mapM_cons, hread, hreads]
      rfl

/-- Where a loop has read back what another wrote, so has each element. -/
theorem eq_map_of_mapM {xs : List α} {ys : List β} {zs : List γ} {f : α → Except ε β} {read : β → Option γ} {g : α → γ}
    {p : α → Prop} (hwrite : xs.mapM f = .ok ys) (hread : ys.mapM read = some zs)
    (h : ∀ x ∈ xs, ∀ y z, f x = .ok y → read y = some z → z = g x ∧ p x) : zs = xs.map g ∧ ∀ x ∈ xs, p x := by
  induction xs generalizing ys zs with
  | nil =>
    rw [List.mapM_nil] at hwrite
    cases hwrite
    cases hread
    exact ⟨rfl, nofun⟩
  | cons x xs ih =>
    rw [List.mapM_cons] at hwrite
    obtain ⟨y, hy, hwrite⟩ := bind_eq_ok.1 hwrite
    obtain ⟨ys', hys, hwrite⟩ := bind_eq_ok.1 hwrite
    cases hwrite
    rw [List.mapM_cons] at hread
    obtain ⟨z, hz, hread⟩ := Option.bind_eq_some_iff.1 hread
    obtain ⟨zs', hzs, hread⟩ := Option.bind_eq_some_iff.1 hread
    cases hread
    obtain ⟨rfl, hx⟩ := h x List.mem_cons_self y z hy hz
    obtain ⟨rfl, hxs⟩ := ih hys hzs fun x' hx' => h x' (List.mem_cons_of_mem _ hx')
    exact ⟨rfl, List.forall_mem_cons.2 ⟨hx, hxs⟩⟩

theorem forall₂_of_mapM_eq_ok {xs : List α} {f : α → Except ε β} {ys : List β} (h : xs.mapM f = .ok ys) :
    List.Forall₂ (fun x y => f x = .ok y) xs ys := by
  induction xs generalizing ys with
  | nil =>
    rw [List.mapM_nil] at h
    cases h
    exact .nil
  | cons x xs ih =>
    rw [List.mapM_cons] at h
    obtain ⟨y, hy, h⟩ := bind_eq_ok.1 h
    obtain ⟨ys', hys, h⟩ := bind_eq_ok.1 h
    cases h
    exact .cons hy (ih hys)

theorem exists_eq_ok_of_mapM {xs : List α} {f : α → Except ε β} {ys : List β} (h : xs.mapM f = .ok ys) {x : α}
    (hx : x ∈ xs) : ∃ y, f x = .ok y := by
  have hall := forall₂_of_mapM_eq_ok h
  clear h
  induction hall with
  | nil => cases hx
  | cons hhead htail ih =>
    obtain rfl | hx := List.mem_cons.1 hx
    · exact ⟨_, hhead⟩
    · exact ih hx

theorem exists_of_mem_mapM_eq_some {xs : List α} {f : α → Option β} {ys : List β} (h : xs.mapM f = some ys) {y : β}
    (hy : y ∈ ys) : ∃ x ∈ xs, f x = some y := by
  induction xs generalizing ys with
  | nil =>
    cases h
    cases hy
  | cons x xs ih =>
    rw [List.mapM_cons] at h
    obtain ⟨z, hz, h⟩ := Option.bind_eq_some_iff.1 h
    obtain ⟨zs, hzs, h⟩ := Option.bind_eq_some_iff.1 h
    cases h
    obtain rfl | hy := List.mem_cons.1 hy
    · exact ⟨x, List.mem_cons_self, hz⟩
    · obtain ⟨x', hx', hfx'⟩ := ih hzs hy
      exact ⟨x', List.mem_cons_of_mem _ hx', hfx'⟩

/-- A loop fails with the error of one of its elements. -/
theorem exists_of_mapM_eq_error {xs : List α} {f : α → Except ε β} {e : ε} (h : xs.mapM f = .error e) :
    ∃ x ∈ xs, f x = .error e := by
  induction xs with
  | nil =>
    rw [List.mapM_nil] at h
    cases h
  | cons x xs ih =>
    rw [List.mapM_cons] at h
    obtain hx | ⟨y, -, h⟩ := bind_eq_error.1 h
    · exact ⟨x, List.mem_cons_self, hx⟩
    · obtain hxs | ⟨ys, -, h⟩ := bind_eq_error.1 h
      · obtain ⟨x', hx', herror⟩ := ih hxs
        exact ⟨x', List.mem_cons_of_mem _ hx', herror⟩
      · cases h

end Checks
