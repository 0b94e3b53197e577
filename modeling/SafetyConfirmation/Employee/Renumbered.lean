import SafetyConfirmation.Employee.Logged
import SafetyConfirmation.Lib.Lockstep

/-!
# Requests and tables with other phone numbers

Two requests and two Employee tables that differ in phone numbers that stand for each other, in plaintext or encrypted,
and what DynamoDB and the parsers make of the two.
-/

namespace SafetyConfirmation

namespace EmployeeApi

open KeyedStore Checks Employee EmployeeCsv Audit

/-- What a blind index of SHA-256 is relied on for: it tells two E.164 numbers apart, and is no empty text. -/
structure Indexing (crypto : FieldCrypto) : Prop where
  computeBlindIndex_inj : ∀ {p q : String}, e164Re p = true → e164Re q = true →
    crypto.computeBlindIndex p = crypto.computeBlindIndex q → p = q
  computeBlindIndex_ne_empty : ∀ {p : String}, e164Re p = true → crypto.computeBlindIndex p ≠ ""

namespace Renumbered

section Tables

variable (crypto : FieldCrypto) (pairs : NumberPairs)

/-- Two stored phone numbers: texts that differ in a number at most, or envelopes of such texts. -/
inductive StoredAlike : String → String → Prop where
  | empty : StoredAlike "" ""
  | plain {s s' : String} (h : pairs.Alike s s') (hs : crypto.isEncrypted s = false) (hs' : crypto.isEncrypted s' = false) :
      StoredAlike s s'
  | sealed {s s' : String} (hs : crypto.isEncrypted s = true) (hs' : crypto.isEncrypted s' = true) (hne : s ≠ "")
      (hne' : s' ≠ "") (h : ResultRel pairs.Alike (crypto.decryptField s) (crypto.decryptField s')) : StoredAlike s s'

/-- Two blind indices: those of numbers that stand for each other, or of no number. -/
def IndexAlike (index index' : String) : Prop :=
  ∀ p p', pairs.paired p p' → (index = crypto.computeBlindIndex p ↔ index' = crypto.computeBlindIndex p')

structure ItemAlike (item item' : EmployeeItem) : Prop where
  phoneNumber : Option.Rel (StoredAlike crypto pairs) item.phoneNumber item'.phoneNumber
  phoneNumberBlindIndex : Option.Rel (IndexAlike crypto pairs) item.phoneNumberBlindIndex item'.phoneNumberBlindIndex
  others : { item with phoneNumber := none, phoneNumberBlindIndex := none } =
    { item' with phoneNumber := none, phoneNumberBlindIndex := none }

def RowAlike (row row' : String × EmployeeItem) : Prop := row.1 = row'.1 ∧ ItemAlike crypto pairs row.2 row'.2

structure WorldAlike (w w' : World) : Prop where
  employees : Store.Alike (ItemAlike crypto pairs) w.employees w'.employees
  users : w.users = w'.users
  cycles : w.cycles = w'.cycles
  responses : w.responses = w'.responses

end Tables

/-- No part of the call depends on a phone number, nor does its answer. -/
def isNumberFree : Call → Bool
  | .updateItem _ (.fields ..) => false
  | .updateItem _ _ | .deleteItem _ | .adminCreateUser _ _ | .adminAddUserToGroup _ _ | .adminDeleteUser _ | .scanCycleIds
  | .queryResponses _ _ | .transactRewrite _ _ => true
  | _ => false

section Calls

variable (crypto : FieldCrypto) (pairs : NumberPairs)

inductive CallAlike : Call → Call → Prop where
  | same (c : Call) (hfree : isNumberFree c = true) : CallAlike c c
  | getItem (employeeId : String) : CallAlike (.getItem employeeId) (.getItem employeeId)
  | scan : CallAlike .scan .scan
  | queryPhone {p p' : String} (h : pairs.paired p p') : CallAlike (.queryPhone p) (.queryPhone p')
  | scanBlindIndex {p p' : String} (h : pairs.paired p p') (activeOnly : Bool) :
      CallAlike (.scanBlindIndex (crypto.computeBlindIndex p) activeOnly)
        (.scanBlindIndex (crypto.computeBlindIndex p') activeOnly)
  | putItem (employeeId : String) {item item' : EmployeeItem} (h : ItemAlike crypto pairs item item') :
      CallAlike (.putItem employeeId item) (.putItem employeeId item')
  | updateFields (employeeId name : String) (updatedAt : Instant) {s s' index index' : String}
      (hs : StoredAlike crypto pairs s s') (hindex : IndexAlike crypto pairs index index') :
      CallAlike (.updateItem employeeId (.fields name s index updatedAt))
        (.updateItem employeeId (.fields name s' index' updatedAt))
  | transactPut {items items' : List (String × EmployeeItem)} (h : List.Forall₂ (RowAlike crypto pairs) items items') :
      CallAlike (.transactPut items) (.transactPut items')

def AnswerAlike : (c c' : Call) → Result c → Result c' → Prop
  | .getItem _, .getItem _, item, item' => Option.Rel (ItemAlike crypto pairs) item item'
  | .queryPhone _, .queryPhone _, rows, rows' => List.Forall₂ (RowAlike crypto pairs) rows rows'
  | .scanBlindIndex _ _, .scanBlindIndex _ _, rows, rows' => List.Forall₂ (RowAlike crypto pairs) rows rows'
  | .scan, .scan, rows, rows' => List.Forall₂ (RowAlike crypto pairs) rows rows'
  | _, _, answer, answer' => HEq answer answer'

def calls : Program.Coupling Call Result where
  calls := CallAlike crypto pairs
  answers := AnswerAlike crypto pairs

end Calls

variable {crypto : FieldCrypto} {pairs : NumberPairs}

/-! ### Rows -/

theorem StoredAlike.eq_iff (hlawful : crypto.Lawful) {s s' p p' : String} (h : StoredAlike crypto pairs s s')
    (hp : pairs.paired p p') : s = p ↔ s' = p' := by
  have hplain : ∀ {q : String}, e164Re q = true → crypto.isEncrypted q = false := fun hq =>
    hlawful.isEncrypted_number _ (e164Re_starts hq)
  have hempty : ∀ {q : String}, e164Re q = true → "" ≠ q := by
    rintro q hq rfl
    cases e164Re_starts hq
  have hsealed : ∀ {s q : String}, crypto.isEncrypted s = true → e164Re q = true → s ≠ q := by
    rintro s q hs hq rfl
    rw [hplain hq] at hs
    cases hs
  cases h with
  | empty => exact iff_of_false (hempty (pairs.e164_left hp)) (hempty (pairs.e164_right hp))
  | plain h hs hs' => exact h.eq_iff hp
  | sealed hs hs' hne hne' h => exact iff_of_false (hsealed hs (pairs.e164_left hp)) (hsealed hs' (pairs.e164_right hp))

theorem alike_empty : pairs.Alike "" "" := .same "" (by decide) (by decide)

theorem StoredAlike.decrypt {s s' : String} (h : StoredAlike crypto pairs s s') :
    ResultRel pairs.Alike (crypto.decrypt s) (crypto.decrypt s') := by
  cases h with
  | empty => exact .ok alike_empty
  | plain h hs hs' =>
    have hdecrypt : ∀ {s : String}, crypto.isEncrypted s = false → crypto.decrypt s = .ok s := by
      intro s hs
      simp [FieldCrypto.decrypt, hs]
    rw [hdecrypt hs, hdecrypt hs']
    exact .ok h
  | sealed hs hs' hne hne' h =>
    rw [FieldCrypto.decrypt, FieldCrypto.decrypt, if_neg hne, if_neg hne', if_pos hs, if_pos hs']
    exact h

/-- In either mode what is stored of two numbers that stand for each other goes together. -/
theorem storedAlike_encrypt (hlawful : crypto.Lawful) (encryptionEnabled : Bool) (nonce : String) {p p' : String}
    (h : pairs.paired p p') :
    StoredAlike crypto pairs (crypto.encrypt encryptionEnabled nonce p) (crypto.encrypt encryptionEnabled nonce p') := by
  have hplain := e164Re_starts (pairs.e164_left h)
  have hplain' := e164Re_starts (pairs.e164_right h)
  have hne : p ≠ "" := by
    rintro rfl
    cases hplain
  have hne' : p' ≠ "" := by
    rintro rfl
    cases hplain'
  cases encryptionEnabled with
  | false =>
    exact .plain (.number h) (hlawful.isEncrypted_number p hplain) (hlawful.isEncrypted_number p' hplain')
  | true =>
    have hencrypt : ∀ {p : String}, p ≠ "" → crypto.encrypt true nonce p = crypto.encryptField nonce p := by
      intro p hne
      simp [FieldCrypto.encrypt, hne]
    have hsealed := FieldCrypto.encrypt_ne_empty hlawful true nonce hne
    have hsealed' := FieldCrypto.encrypt_ne_empty hlawful true nonce hne'
    rw [hencrypt hne] at hsealed ⊢
    rw [hencrypt hne'] at hsealed' ⊢
    refine .sealed (hlawful.isEncrypted_encryptField nonce p hne) (hlawful.isEncrypted_encryptField nonce p' hne') hsealed
      hsealed' ?_
    rw [hlawful.decryptField_encryptField nonce p hne, hlawful.decryptField_encryptField nonce p' hne']
    exact .ok (.number h)

theorem indexAlike_computeBlindIndex (hindexing : Indexing crypto) {p p' : String} (h : pairs.paired p p') :
    IndexAlike crypto pairs (crypto.computeBlindIndex p) (crypto.computeBlindIndex p') := by
  intro q q' hq
  have hinj : ∀ {p q : String}, e164Re p = true → e164Re q = true →
      (crypto.computeBlindIndex p = crypto.computeBlindIndex q ↔ p = q) := fun hp hq =>
    ⟨hindexing.computeBlindIndex_inj hp hq, congrArg _⟩
  rw [hinj (pairs.e164_left h) (pairs.e164_left hq), hinj (pairs.e164_right h) (pairs.e164_right hq)]
  exact pairs.eq_iff h hq

theorem indexAlike_empty (hindexing : Indexing crypto) : IndexAlike crypto pairs "" "" := fun _ _ h =>
  iff_of_false (hindexing.computeBlindIndex_ne_empty (pairs.e164_left h)).symm
    (hindexing.computeBlindIndex_ne_empty (pairs.e164_right h)).symm

theorem eq_some_iff {α : Type} {R : α → α → Prop} {x x' : Option α} {a a' : α} (h : Option.Rel R x x')
    (hR : ∀ b b', R b b' → (b = a ↔ b' = a')) : x = some a ↔ x' = some a' := by
  cases h with
  | none => simp
  | some h => simpa using hR _ _ h

theorem rel_getD {α : Type} {R : α → α → Prop} {x x' : Option α} {a a' : α} (h : Option.Rel R x x') (ha : R a a') :
    R (x.getD a) (x'.getD a') := by
  cases h with
  | none => exact ha
  | some h => exact h

/-- The index of a new row, in either mode. -/
theorem indexAlike_blindIndex {library : Library} (hindexing : Indexing library.crypto) {inv : Invocation} {p p' : String}
    (h : pairs.paired p p') :
    IndexAlike library.crypto pairs (inv.blindIndex library p) (inv.blindIndex library p') := by
  rw [Invocation.blindIndex, Invocation.blindIndex]
  split
  · exact indexAlike_computeBlindIndex hindexing h
  · exact indexAlike_empty hindexing

namespace ItemAlike

variable {item item' : EmployeeItem}

theorem name (h : ItemAlike crypto pairs item item') : item.name = item'.name := by
  have hname := congrArg EmployeeItem.name h.others
  exact hname

theorem role (h : ItemAlike crypto pairs item item') : item.role = item'.role := by
  have hrole := congrArg EmployeeItem.role h.others
  exact hrole

theorem deleted (h : ItemAlike crypto pairs item item') : item.deleted = item'.deleted := by
  have hdeleted := congrArg EmployeeItem.deleted h.others
  exact hdeleted

theorem cognitoSub (h : ItemAlike crypto pairs item item') : item.cognitoSub = item'.cognitoSub := by
  have hsub := congrArg EmployeeItem.cognitoSub h.others
  exact hsub

theorem isDeleted (h : ItemAlike crypto pairs item item') : item.isDeleted = item'.isDeleted := by
  rw [EmployeeItem.isDeleted, EmployeeItem.isDeleted, h.deleted]

theorem refl_empty : ItemAlike crypto pairs {} {} := ⟨.none, .none, rfl⟩

theorem phoneIs_iff (hlawful : crypto.Lawful) (h : ItemAlike crypto pairs item item') {p p' : String}
    (hp : pairs.paired p p') : phoneIs p item = true ↔ phoneIs p' item' = true := by
  rw [phoneIs, phoneIs, beq_iff_eq, beq_iff_eq]
  exact eq_some_iff h.phoneNumber fun _ _ hs => hs.eq_iff hlawful hp

theorem blindIndexIs_iff (h : ItemAlike crypto pairs item item') {p p' : String} (hp : pairs.paired p p')
    (activeOnly : Bool) : blindIndexIs (crypto.computeBlindIndex p) activeOnly item = true ↔
      blindIndexIs (crypto.computeBlindIndex p') activeOnly item' = true := by
  rw [blindIndexIs, blindIndexIs, h.deleted, Bool.and_eq_true, Bool.and_eq_true, beq_iff_eq, beq_iff_eq]
  exact and_congr_left fun _ => eq_some_iff h.phoneNumberBlindIndex fun _ _ hindex => hindex p p' hp

end ItemAlike

/-! ### The service -/

theorem WorldAlike.putAll {employees employees' : Store String EmployeeItem}
    (h : Store.Alike (ItemAlike crypto pairs) employees employees') {items items' : List (String × EmployeeItem)}
    (hitems : List.Forall₂ (RowAlike crypto pairs) items items') :
    Store.Alike (ItemAlike crypto pairs) (putAll employees items) (putAll employees' items') := by
  induction hitems generalizing employees employees' with
  | nil => exact h
  | @cons row row' _ _ hrow _ ih =>
    refine ih ?_
    show Store.Alike _ (employees.set row.1 (some row.2)) (employees'.set row'.1 (some row'.2))
    rw [← hrow.1]
    exact h.set row.1 (.some hrow.2)

theorem WorldAlike.set {w w' : World} (h : WorldAlike crypto pairs w w') (employeeId : String)
    {row row' : Option EmployeeItem} (hrow : Option.Rel (ItemAlike crypto pairs) row row') :
    WorldAlike crypto pairs { w with employees := w.employees.set employeeId row }
      { w' with employees := w'.employees.set employeeId row' } :=
  ⟨h.employees.set employeeId hrow, h.users, h.cycles, h.responses⟩

theorem WorldAlike.getD_lookup {w w' : World} (h : WorldAlike crypto pairs w w') (employeeId : String) :
    ItemAlike crypto pairs ((w.employees.lookup employeeId).getD {}) ((w'.employees.lookup employeeId).getD {}) :=
  rel_getD (h.employees.lookup employeeId) .refl_empty

theorem WorldAlike.filter {w w' : World} (h : WorldAlike crypto pairs w w') (environment : Environment)
    {test test' : EmployeeItem → Bool}
    (htest : ∀ item item', ItemAlike crypto pairs item item' → (test item = true ↔ test' item' = true)) :
    List.Forall₂ (RowAlike crypto pairs)
      (w.employees.rows.filter fun entry => test entry.2 && environment.page entry.1)
      (w'.employees.rows.filter fun entry => test' entry.2 && environment.page entry.1) := by
  refine List.rel_filter ?_ h.employees.rows
  intro entry entry' hentry
  show (test entry.2 && environment.page entry.1) = true ↔ (test' entry'.2 && environment.page entry'.1) = true
  rw [← hentry.1, Bool.and_eq_true, Bool.and_eq_true, htest _ _ hentry.2]

theorem ItemAlike.applyFields {item item' : EmployeeItem} (h : ItemAlike crypto pairs item item') (name : String)
    (updatedAt : Instant) {s s' index index' : String} (hs : StoredAlike crypto pairs s s')
    (hindex : IndexAlike crypto pairs index index') :
    ItemAlike crypto pairs ((Update.fields name s index updatedAt).apply item)
      ((Update.fields name s' index' updatedAt).apply item') where
  phoneNumber := .some hs
  phoneNumberBlindIndex := .some hindex
  others := congrArg (fun rest : EmployeeItem => { rest with name := some name, updatedAt := some updatedAt }) h.others

theorem ItemAlike.applyDelete (hindexing : Indexing crypto) {item item' : EmployeeItem}
    (h : ItemAlike crypto pairs item item') (updatedAt : Instant) :
    ItemAlike crypto pairs ((Update.delete updatedAt).apply item) ((Update.delete updatedAt).apply item') where
  phoneNumber := .some .empty
  phoneNumberBlindIndex := .some (indexAlike_empty hindexing)
  others := congrArg (fun rest : EmployeeItem =>
    { rest with deleted := some true, updatedAt := some updatedAt, cognitoSub := none }) h.others

theorem ItemAlike.applyRemoveCognitoSub {item item' : EmployeeItem} (h : ItemAlike crypto pairs item item')
    (updatedAt : Instant) : ItemAlike crypto pairs ((Update.removeCognitoSub updatedAt).apply item)
      ((Update.removeCognitoSub updatedAt).apply item') where
  phoneNumber := h.phoneNumber
  phoneNumberBlindIndex := h.phoneNumberBlindIndex
  others := congrArg (fun rest : EmployeeItem => { rest with cognitoSub := none, updatedAt := some updatedAt }) h.others

theorem alike_act_numberFree (hindexing : Indexing crypto) {w w' : World} (h : WorldAlike crypto pairs w w')
    (environment : Environment) {c : Call} (hfree : isNumberFree c = true) :
    ResultRel (AnswerAlike crypto pairs c c) (act w environment c).1 (act w' environment c).1 ∧
      WorldAlike crypto pairs (act w environment c).2 (act w' environment c).2 := by
  cases c with
  | updateItem employeeId update =>
    refine ⟨.ok HEq.rfl, h.set employeeId (.some ?_)⟩
    cases update with
    | fields name s index updatedAt => cases hfree
    | delete updatedAt => exact (h.getD_lookup employeeId).applyDelete hindexing updatedAt
    | removeCognitoSub updatedAt => exact (h.getD_lookup employeeId).applyRemoveCognitoSub updatedAt
  | deleteItem employeeId => exact ⟨.ok HEq.rfl, h.set employeeId .none⟩
  | adminCreateUser email name =>
    rw [act, act, h.users]
    split
    · exact ⟨.error _, h⟩
    · exact ⟨.ok HEq.rfl, h.employees, rfl, h.cycles, h.responses⟩
  | adminAddUserToGroup email groupName =>
    rw [act, act, h.users]
    split
    · exact ⟨.ok HEq.rfl, h.employees, rfl, h.cycles, h.responses⟩
    · exact ⟨.error _, h⟩
  | adminDeleteUser username =>
    rw [act, act, h.users]
    split
    · exact ⟨.ok HEq.rfl, h.employees, rfl, h.cycles, h.responses⟩
    · exact ⟨.error _, h⟩
  | scanCycleIds =>
    rw [act, act, h.cycles]
    exact ⟨.ok HEq.rfl, h⟩
  | queryResponses cycleId employeeId =>
    rw [act, act, h.responses]
    exact ⟨.ok HEq.rfl, h⟩
  | transactRewrite rows anonymizedId =>
    rw [act, act, h.responses]
    exact ⟨.ok HEq.rfl, h.employees, h.users, h.cycles, rfl⟩
  | _ => cases hfree

theorem alike_act (hlawful : crypto.Lawful) (hindexing : Indexing crypto) {w w' : World} (h : WorldAlike crypto pairs w w')
    (environment : Environment) {c c' : Call} (hcall : CallAlike crypto pairs c c') :
    ResultRel (AnswerAlike crypto pairs c c') (act w environment c).1 (act w' environment c').1 ∧
      WorldAlike crypto pairs (act w environment c).2 (act w' environment c').2 := by
  cases hcall with
  | same c hfree => exact alike_act_numberFree hindexing h environment hfree
  | getItem employeeId => exact ⟨.ok (h.employees.lookup employeeId), h⟩
  | scan => exact ⟨.ok h.employees.rows, h⟩
  | queryPhone hp => exact ⟨.ok (h.filter environment fun _ _ hitem => hitem.phoneIs_iff hlawful hp), h⟩
  | scanBlindIndex hp activeOnly =>
    exact ⟨.ok (h.filter environment fun _ _ hitem => hitem.blindIndexIs_iff hp activeOnly), h⟩
  | putItem employeeId hitem => exact ⟨.ok HEq.rfl, h.set employeeId (.some hitem)⟩
  | updateFields employeeId name updatedAt hs hindex =>
    exact ⟨.ok HEq.rfl, h.set employeeId (.some ((h.getD_lookup employeeId).applyFields name updatedAt hs hindex))⟩
  | transactPut hitems => exact ⟨.ok HEq.rfl, WorldAlike.putAll h.employees hitems, h.users, h.cycles, h.responses⟩

/-- Two calls that go together have answers that do, and leave tables that do. -/
theorem alike_respond (hlawful : crypto.Lawful) (hindexing : Indexing crypto) {w w' : World}
    (h : WorldAlike crypto pairs w w') (environment : Environment) {c c' : Call} (hcall : CallAlike crypto pairs c c') :
    ResultRel (AnswerAlike crypto pairs c c') (respond w environment c).1 (respond w' environment c').1 ∧
      WorldAlike crypto pairs (respond w environment c).2 (respond w' environment c').2 := by
  obtain ⟨hanswer, hafter⟩ := alike_act hlawful hindexing h environment hcall
  rw [respond, respond]
  cases environment.fault with
  | none => exact ⟨hanswer, hafter⟩
  | some fault =>
    refine ⟨.error _, ?_⟩
    show WorldAlike crypto pairs (if fault.applied then _ else _) (if fault.applied then _ else _)
    split
    · exact hafter
    · exact h

end Renumbered

end EmployeeApi

end SafetyConfirmation
