import SafetyConfirmation.Lib.Program

/-!
# Bounded retries

A program that is tried again while what it raises is to be retried, a fixed number of times at most, with a pause between
two tries. The rule takes one statement through all tries: what is known before a try, and what is known after one that
failed.
-/

universe v

namespace Program

variable {κ : Type} {ρ : κ → Type} {ε α β : Type}

theorem wp_andThen {τ : Type v} {spec : Spec κ ρ ε τ} {program : Program κ ρ ε α} {f : Except ε α → Program κ ρ ε β}
    {post : Except ε β → τ → Prop} {t : τ} :
    (program.andThen f).wp spec post t ↔ program.wp spec (fun result t' => (f result).wp spec post t') t := by
  induction program generalizing t with
  | done a => exact Iff.rfl
  | raise e => exact Iff.rfl
  | call c next ih =>
    exact and_congr_right fun _ => forall_congr' fun answer => imp_congr_right fun _ => ih answer

theorem run_andThen {σ : Type v} (respond : σ → (c : κ) → Except ε (ρ c) × σ) (program : Program κ ρ ε α)
    (f : Except ε α → Program κ ρ ε β) (world : σ) : (program.andThen f).run respond world =
      (f (program.run respond world).1).run respond (program.run respond world).2 := by
  induction program generalizing world with
  | done a => rfl
  | raise e => rfl
  | call c next ih => exact ih _ _

variable (retryable : ε → Bool) (attempt : Program κ ρ ε α) (pause : Nat → Program κ ρ ε Unit)

/-- Up to `left` tries from the one numbered `tryIdx` on. It returns `none` when the last of them is to be retried. -/
def retrying (tryIdx : Nat) : Nat → Program κ ρ ε (Option α)
  | 0 => return none
  | left + 1 =>
    attempt.andThen fun result =>
      match result with
      | .ok a => return some a
      | .error e =>
        if retryable e then
          if 0 < left then do
            pause tryIdx
            retrying (tryIdx + 1) left
          else return none
        else throw e

variable {retryable attempt pause} {τ : Type v} {spec : Spec κ ρ ε τ} {post : Except ε (Option α) → τ → Prop}

/-- A try, and what comes after one that failed. -/
theorem wp_retrying_succ {failed : τ → Prop} {tryIdx left : Nat} {t : τ}
    (hattempt : attempt.wp spec (fun result t' =>
      match result with
      | .ok a => post (.ok (some a)) t'
      | .error e => if retryable e then failed t' else post (.error e) t') t)
    (hfailed : ∀ t', failed t' → (if 0 < left then (do
        pause tryIdx
        retrying retryable attempt pause (tryIdx + 1) left) else return none).wp spec post t') :
    (retrying retryable attempt pause tryIdx (left + 1)).wp spec post t := by
  apply wp_andThen.2
  apply wp_mono ?_ hattempt
  intro result t' hresult
  cases result with
  | ok a => exact hresult
  | error e =>
    by_cases hretry : retryable e = true
    · simp only [hretry, if_true] at hresult ⊢
      exact hfailed t' hresult
    · simp only [hretry, Bool.false_eq_true, if_false] at hresult ⊢
      exact hresult

/-- `ready` holds before a try with `left` more to come, and `failed` after it when it is to be retried. -/
theorem wp_retrying {ready failed : Nat → Nat → τ → Prop}
    (hattempt : ∀ tryIdx left t, ready tryIdx left t → attempt.wp spec (fun result t' =>
      match result with
      | .ok a => post (.ok (some a)) t'
      | .error e => if retryable e then failed tryIdx left t' else post (.error e) t') t)
    (hpause : ∀ tryIdx left t, failed tryIdx (left + 1) t → (pause tryIdx).wp spec (fun result t' =>
      match result with
      | .ok _ => ready (tryIdx + 1) left t'
      | .error e => post (.error e) t') t)
    (hlast : ∀ tryIdx t, failed tryIdx 0 t → post (.ok none) t) {tryIdx left : Nat} {t : τ} (hready : ready tryIdx left t) :
    (retrying retryable attempt pause tryIdx (left + 1)).wp spec post t := by
  induction left generalizing tryIdx t with
  | zero => exact wp_retrying_succ (hattempt tryIdx 0 t hready) (hlast tryIdx)
  | succ left ih =>
    apply wp_retrying_succ (hattempt tryIdx (left + 1) t hready)
    intro t' hfailed
    rw [if_pos (Nat.succ_pos left)]
    apply wp_bind.2
    apply wp_mono ?_ (hpause tryIdx left t' hfailed)
    intro result t'' hpaused
    cases result with
    | ok _ => exact ih hpaused
    | error e => exact hpaused

/-- The loop from its first try on, where `trying`, `pausing` and `exhausted` are all that is known of it. -/
theorem wp_retrying_upTo {most : Nat} {trying pausing : Nat → τ} {exhausted : τ}
    (hattempt : ∀ tryIdx, tryIdx < most → attempt.wp spec (fun result t' =>
      match result with
      | .ok a => post (.ok (some a)) t'
      | .error e =>
        if retryable e then t' = if tryIdx + 1 < most then pausing tryIdx else exhausted
        else post (.error e) t') (trying tryIdx))
    (hpause : ∀ tryIdx, tryIdx + 1 < most → (pause tryIdx).wp spec (fun result t' =>
      match result with
      | .ok _ => t' = trying (tryIdx + 1)
      | .error e => post (.error e) t') (pausing tryIdx))
    (hexhausted : post (.ok none) exhausted) (hmost : 0 < most) :
    (retrying retryable attempt pause 0 most).wp spec post (trying 0) := by
  obtain ⟨left, rfl⟩ := Nat.exists_eq_add_of_lt hmost
  rw [Nat.zero_add] at hattempt hpause ⊢
  apply @wp_retrying _ _ _ _ _ _ _ _ spec post (fun tryIdx rest t => t = trying tryIdx ∧ tryIdx + rest = left)
    (fun tryIdx rest t => t = (if tryIdx + 1 < left + 1 then pausing tryIdx else exhausted) ∧ tryIdx + rest = left)
  · rintro tryIdx rest t ⟨rfl, hcount⟩
    apply wp_mono ?_ (hattempt tryIdx (by omega))
    intro result t' hresult
    cases result with
    | ok a => exact hresult
    | error e =>
      by_cases hretry : retryable e = true
      · simp only [hretry, if_true] at hresult ⊢
        exact ⟨hresult, hcount⟩
      · simp only [hretry, Bool.false_eq_true, if_false] at hresult ⊢
        exact hresult
  · rintro tryIdx rest t ⟨rfl, hcount⟩
    rw [if_pos (by omega)]
    apply wp_mono ?_ (hpause tryIdx (by omega))
    intro result t' hresult
    cases result with
    | ok _ => exact ⟨hresult, by omega⟩
    | error e => exact hresult
  · rintro tryIdx t ⟨rfl, hcount⟩
    rw [if_neg (by omega)]
    exact hexhausted
  · exact ⟨rfl, Nat.zero_add left⟩

end Program
