import SafetyConfirmation.Employee.PageChecks
import SafetyConfirmation.Inbound.Contact

/-!
# Audit records and log lines

What the lambdas write about what they do. A record of `write_audit_log` takes a phone number masked only, and a line of
`LOGGER` has its arguments as they are.
-/

namespace SafetyConfirmation

namespace Audit

open Employee

structure Record where
  event : String
  timestamp : Instant
  principal : Value
  target : String
  outcome : String := "SUCCESS"
  phoneMasked : Option String := none
  extra : List (String × Value) := []

/-- A line of `LOGGER` ends with the exception that it is about. -/
inductive Line where
  | audit (record : Record)
  | log (message : String) (arguments : List String) (error : Option PyError)

def reservedKeys : List String := ["event", "timestamp", "principal", "target", "outcome", "phoneMasked"]

/-- The record that `write_audit_log` makes of its arguments. -/
def auditLine (now : Instant) (event : String) (principal : Value) (target : String) (phone : Option String := none)
    (extra : List (String × Value) := []) : Line :=
  .audit {
    event
    timestamp := now.truncateToSeconds
    principal
    target
    phoneMasked := phone.map maskPhone
    extra := extra.filter fun field => !reservedKeys.contains field.1 }

/-- `put_log_events` can fail, and may have written the record all the same. A line of `LOGGER` is no call. -/
def Line.emit (line : Line) (fault : Option (PyError × Bool)) (emitted : List Line) : Except PyError Unit × List Line :=
  match line, fault with
  | .audit record, some (e, applied) => (.error e, if applied then emitted ++ [.audit record] else emitted)
  | line, _ => (.ok (), emitted ++ [line])

/-! ### Numbers that a masked text does not tell apart -/

def lastFour (s : String) : List Char := s.toList.drop (s.toList.length - 4)

/-- The numbers that stand for each other in two runs. -/
structure NumberPairs where
  paired : String → String → Prop
  e164_left : ∀ {s s'}, paired s s' → e164Re s = true
  e164_right : ∀ {s s'}, paired s s' → e164Re s' = true
  length_eq : ∀ {s s'}, paired s s' → s.length = s'.length
  lastFour_eq : ∀ {s s'}, paired s s' → lastFour s = lastFour s'
  eq_iff : ∀ {s s' t t'}, paired s s' → paired t t' → (s = t ↔ s' = t')

/-- Texts that differ in a number at most, which either has in one of the two forms. -/
inductive NumberPairs.Alike (pairs : NumberPairs) : String → String → Prop where
  | number {s s' : String} (h : pairs.paired s s') : pairs.Alike s s'
  | domestic {s s' : String} (hs : domesticJpRe s = true) (hs' : domesticJpRe s' = true)
      (h : pairs.paired (domesticToE164 s) (domesticToE164 s')) : pairs.Alike s s'
  | same (s : String) (he164 : e164Re s = false) (hdomestic : domesticJpRe s = false) : pairs.Alike s s

theorem domesticJpRe_starts {s : String} (h : domesticJpRe s = true) : ∃ rest, s.toList = '0' :: rest ∧ 9 ≤ rest.length := by
  obtain ⟨digits, tail, hs, hlength, -, -⟩ := (EmployeePage.isSome_number_iff (by decide)).1 h
  refine ⟨digits ++ tail, hs, ?_⟩
  rw [List.length_append]
  omega

theorem domesticJpRe_of_e164Re {s : String} (h : e164Re s = true) : domesticJpRe s = false := by
  have hplus := e164Re_starts h
  by_contra hdomestic
  obtain ⟨rest, hs, -⟩ := domesticJpRe_starts (by simpa using hdomestic)
  rw [hs] at hplus
  cases hplus

theorem e164Re_of_domesticJpRe {s : String} (h : domesticJpRe s = true) : e164Re s = false := by
  by_contra he164
  rw [domesticJpRe_of_e164Re (by simpa using he164)] at h
  cases h

theorem maskPhone_of_plus {s : String} {body : List Char} (hs : s.toList = '+' :: body) (hlong : 4 < body.length) :
    maskPhone s = String.ofList ('+' :: (List.replicate (body.length - 4) '*' ++ body.drop (body.length - 4))) := by
  unfold maskPhone
  rw [hs]
  exact if_neg (by omega)

theorem maskPhone_of_not_plus {s : String} {c : Char} {body : List Char} (hs : s.toList = c :: body) (hc : c ≠ '+')
    (hlong : 4 ≤ body.length) :
    maskPhone s = String.ofList (List.replicate (body.length - 3) '*' ++ body.drop (body.length - 4)) := by
  unfold maskPhone
  rw [hs]
  split
  · rename_i heq
    exact absurd (List.cons.inj heq).1 hc
  · obtain ⟨n, hn⟩ := Nat.exists_eq_add_of_le hlong
    rw [List.length_cons, if_neg (by omega), hn, show 4 + n + 1 - 4 = n + 1 by omega, show 4 + n - 3 = n + 1 by omega,
      show 4 + n - 4 = n by omega, List.drop_succ_cons]

/-- Of two texts of one length with the same first character, masking shows the last four. -/
theorem maskPhone_eq_of_lastFour {s s' : String} (hhead : s.toList.head? = s'.toList.head?)
    (hlength : s.toList.length = s'.toList.length) (hlast : lastFour s = lastFour s') : maskPhone s = maskPhone s' := by
  rw [lastFour, lastFour, ← hlength] at hlast
  cases hs : s.toList with
  | nil =>
    rw [hs, List.length_nil] at hlength
    rw [String.toList_inj.1 (hs.trans (List.eq_nil_of_length_eq_zero hlength.symm).symm)]
  | cons c body =>
    obtain ⟨body', hs'⟩ : ∃ body', s'.toList = c :: body' := by
      rw [hs, List.head?_cons] at hhead
      exact ⟨_, List.eq_cons_of_mem_head? hhead.symm⟩
    rw [hs, hs', List.length_cons, List.length_cons, Nat.add_right_cancel_iff] at hlength
    rw [hs, hs', List.length_cons] at hlast
    by_cases hlong : 4 < body.length
    · rw [show body.length + 1 - 4 = body.length - 4 + 1 by omega, List.drop_succ_cons, List.drop_succ_cons] at hlast
      by_cases hc : c = '+'
      · subst hc
        rw [maskPhone_of_plus hs hlong, maskPhone_of_plus hs' (by omega), hlast, hlength]
      · rw [maskPhone_of_not_plus hs hc (by omega), maskPhone_of_not_plus hs' hc (by omega), hlast, hlength]
    · have hbody : c :: body = c :: body' := by
        by_cases hfour : body.length = 4
        · rw [hfour] at hlast
          rw [show body = body' from hlast]
        · rwa [show body.length + 1 - 4 = 0 by omega] at hlast
      rw [String.toList_inj.1 (hs.trans (hbody.trans hs'.symm))]

namespace NumberPairs

variable {pairs : NumberPairs} {s s' : String}

theorem maskPhone_eq (h : pairs.paired s s') : maskPhone s = maskPhone s' := by
  refine maskPhone_eq_of_lastFour ?_ (pairs.length_eq h) (pairs.lastFour_eq h)
  rw [e164Re_starts (pairs.e164_left h), e164Re_starts (pairs.e164_right h)]

namespace Alike

theorem e164Re_eq (h : pairs.Alike s s') : e164Re s = e164Re s' := by
  cases h with
  | number h => rw [pairs.e164_left h, pairs.e164_right h]
  | domestic hs hs' h => rw [e164Re_of_domesticJpRe hs, e164Re_of_domesticJpRe hs']
  | same he164 hdomestic => rfl

theorem domesticJpRe_eq (h : pairs.Alike s s') : domesticJpRe s = domesticJpRe s' := by
  cases h with
  | number h => rw [domesticJpRe_of_e164Re (pairs.e164_left h), domesticJpRe_of_e164Re (pairs.e164_right h)]
  | domestic hs hs' h => rw [hs, hs']
  | same he164 hdomestic => rfl

/-- What a check accepts becomes the numbers of a pair. -/
theorem paired (h : pairs.Alike s s') (hvalid : e164Re s = true ∨ domesticJpRe s = true) :
    pairs.paired (domesticToE164 s) (domesticToE164 s') := by
  cases h with
  | number h =>
    rw [domesticToE164, domesticToE164, domesticJpRe_of_e164Re (pairs.e164_left h),
      domesticJpRe_of_e164Re (pairs.e164_right h)]
    exact h
  | domestic hs hs' h => exact h
  | same he164 hdomestic => simp [he164, hdomestic] at hvalid

theorem eq_iff (h : pairs.Alike s s') {t t' : String} (ht : pairs.paired t t') : s = t ↔ s' = t' := by
  have hdifferent : ∀ {s t : String}, e164Re s = false → e164Re t = true → s ≠ t := by
    rintro s t hs ht rfl
    rw [hs] at ht
    cases ht
  cases h with
  | number h => exact pairs.eq_iff h ht
  | domestic hs hs' h =>
    exact iff_of_false (hdifferent (e164Re_of_domesticJpRe hs) (pairs.e164_left ht))
      (hdifferent (e164Re_of_domesticJpRe hs') (pairs.e164_right ht))
  | same he164 hdomestic =>
    exact iff_of_false (hdifferent he164 (pairs.e164_left ht)) (hdifferent he164 (pairs.e164_right ht))

/-- A domestic number has the last characters of its E.164 form. -/
theorem maskPhone_eq (h : pairs.Alike s s') : maskPhone s = maskPhone s' := by
  cases h with
  | number h => exact pairs.maskPhone_eq h
  | domestic hs hs' h =>
    obtain ⟨rest, hrest, hlong⟩ := domesticJpRe_starts hs
    obtain ⟨rest', hrest', hlong'⟩ := domesticJpRe_starts hs'
    have hform : ∀ {s : String} {rest : List Char}, domesticJpRe s = true → s.toList = '0' :: rest →
        (domesticToE164 s).toList = ['+', '8', '1'] ++ rest := by
      intro s rest hs hrest
      rw [domesticToE164, if_pos hs, hrest]
      simp
    have hlength : rest.length = rest'.length := by
      have hboth : (domesticToE164 s).toList.length = (domesticToE164 s').toList.length := pairs.length_eq h
      rw [hform hs hrest, hform hs' hrest', List.length_append, List.length_append] at hboth
      omega
    have hlast : rest.drop (rest.length - 4) = rest'.drop (rest'.length - 4) := by
      have hboth := pairs.lastFour_eq h
      have hlength81 : ∀ {rest : List Char}, 9 ≤ rest.length →
          (['+', '8', '1'] ++ rest).length - 4 = rest.length - 4 + 3 := by
        intro rest hlong
        rw [List.length_append, List.length_cons, List.length_cons, List.length_cons, List.length_nil]
        omega
      rw [lastFour, lastFour, hform hs hrest, hform hs' hrest', hlength81 hlong, hlength81 hlong'] at hboth
      exact hboth
    refine maskPhone_eq_of_lastFour (by rw [hrest, hrest']; rfl) (by rw [hrest, hrest']; simpa using hlength) ?_
    rw [lastFour, lastFour, hrest, hrest', List.length_cons, List.length_cons,
      show rest.length + 1 - 4 = rest.length - 4 + 1 by omega, show rest'.length + 1 - 4 = rest'.length - 4 + 1 by omega,
      List.drop_succ_cons, List.drop_succ_cons]
    exact hlast
  | same he164 hdomestic => rfl

end Alike

end NumberPairs

end Audit

end SafetyConfirmation
