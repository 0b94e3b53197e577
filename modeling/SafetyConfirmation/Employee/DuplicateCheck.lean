import SafetyConfirmation.Employee.UniqueNumbers

/-!
# What the duplicate check finds

`_phone_already_registered` looks at one page, and by what the mode of the moment has stored: the blind index, or the
number itself. What it answers in the tables that requests leave, against the numbers there are.
-/

namespace SafetyConfirmation

namespace EmployeeApi

open KeyedStore StepMachine Interleaving

/-- What the lookup relies on of the HMAC: different numbers have different indices, and none is empty. -/
structure IndexesNumbers (crypto : FieldCrypto) : Prop where
  inj : ∀ {p q : String}, isNumber p → isNumber q → crypto.computeBlindIndex p = crypto.computeBlindIndex q → p = q
  ne_empty : ∀ {p : String}, isNumber p → crypto.computeBlindIndex p ≠ ""

/-! ### The rows that requests write -/

/-- The number of a row with its index, as one mode stores them; or none of them, or both empty. -/
inductive StoredNumber (crypto : FieldCrypto) : Option String → Option String → Prop where
  | number (encryptionEnabled : Bool) (nonce : String) {p : String} (hp : isNumber p) :
      StoredNumber crypto (some (crypto.encrypt encryptionEnabled nonce p))
        (some (if encryptionEnabled then crypto.computeBlindIndex p else ""))
  | erased : StoredNumber crypto (some "") (some "")
  | absent : StoredNumber crypto none none

def Stored (crypto : FieldCrypto) (item : EmployeeItem) : Prop :=
  StoredNumber crypto item.phoneNumber item.phoneNumberBlindIndex

def AllStored (crypto : FieldCrypto) (employees : Store String EmployeeItem) : Prop :=
  ∀ employeeId item, employees.lookup employeeId = some item → Stored crypto item

section

variable {library : Library} {crypto : FieldCrypto} {w start : World} {environment : Environment} {c : Call} {p t : Requests}

theorem stored_newItem (inv : Invocation) (n : Nat) {name phone role sub : String} (hphone : isNumber phone) :
    Stored library.crypto (inv.newItem library n name phone role sub) := .number _ _ hphone

theorem stored_puts {inv : Invocation} {history : History} (hpermitted : Permitted library inv history c)
    {employeeId : String} {item : EmployeeItem} (hput : (employeeId, item) ∈ c.puts) : Stored library.crypto item := by
  cases hpermitted with
  | create hroute name phone role sub hphone hcleared =>
    cases List.mem_singleton.1 hput
    exact stored_newItem inv 0 hphone
  | insert hroute rows hnodup hrows =>
    obtain ⟨row, hrow, hitem⟩ := List.mem_map.1 hput
    cases hitem
    exact stored_newItem inv _ (hrows row hrow).1
  | read c hread =>
    rw [puts_of_isRead hread] at hput
    exact (List.not_mem_nil hput).elim
  | _ => exact (List.not_mem_nil hput).elim

theorem stored_update {inv : Invocation} {history : History} {employeeId : String} {update : Update}
    (hpermitted : Permitted library inv history (.updateItem employeeId update)) {item : EmployeeItem}
    (hitem : Stored library.crypto item) : Stored library.crypto (update.apply item) := by
  cases hpermitted with
  | update hroute employeeId name phone hid hphone hchecked => exact .number _ _ hphone
  | delete => exact .erased
  | unlink => exact hitem
  | read c hread => cases hread

theorem allStored_respond {inv : Invocation} {history : History} (hpermitted : Permitted library inv history c)
    (h : AllStored library.crypto w.employees) : AllStored library.crypto (respond w environment c).2.employees := by
  intro employeeId item hrow
  obtain ⟨-, hput | ⟨update, rfl, rfl⟩⟩ | hold := lookup_respond_eq_some hrow
  · exact stored_puts hpermitted hput
  · refine stored_update hpermitted ?_
    cases hlookup : w.employees.lookup employeeId with
    | none => exact .absent
    | some old => exact h employeeId old hlookup
  · exact h employeeId item hold

theorem allStored_run {labels : List RequestLabel} (hempty : start.employees = ∅)
    (hrun : exec (step (service library)) { world := start } labels = some t) :
    AllStored library.crypto t.world.employees := by
  have hkeep : ∀ p label t, Conducted library p ∧ AllStored library.crypto p.world.employees →
      step (service library) p label = some t → Conducted library t ∧ AllStored library.crypto t.world.employees := by
    intro p label t hp h
    refine ⟨conducted_step hp.1 h, ?_⟩
    cases step_cases h with
    | start request hadmits => exact hp.2
    | call i environment request c next hthread => exact allStored_respond (hp.1.permitted hthread) hp.2
  refine (invariant hkeep ⟨follows_start start, ?_⟩ hrun).2
  intro employeeId item hrow
  rw [show ({ world := start } : Requests).world.employees = ∅ from hempty] at hrow
  cases hrow

/-! ### The lookup -/

/-- The row is found in the mode of the lookup: by its index, or by its number. -/
def storedFor (encryptionEnabled : Bool) (item : EmployeeItem) : Bool :=
  encryptionEnabled == (item.phoneNumberBlindIndex.getD "" != "")

theorem ne_empty_of_isNumber {phone : String} (h : isNumber phone) : phone ≠ "" := by
  rintro rfl
  cases h

theorem encryptField_ne_number (hlawful : crypto.Lawful) {nonce q phone : String} (hq : isNumber q)
    (hphone : isNumber phone) : crypto.encryptField nonce q ≠ phone := by
  intro h
  have hsealed := hlawful.isEncrypted_encryptField nonce q (ne_empty_of_isNumber hq)
  rw [h, hlawful.isEncrypted_number phone hphone] at hsealed
  cases hsealed

/-- By its number a row is found that was stored with encryption off. -/
theorem phoneIs_iff (hlawful : crypto.Lawful) (hindexes : IndexesNumbers crypto) {item : EmployeeItem} (hstored : Stored crypto item) {phone : String}
    (hphone : isNumber phone) :
    phoneIs phone item = true ↔ storedFor false item = true ∧ item.plainNumber crypto = some phone := by
  obtain ⟨name, phoneNumber, phoneNumberBlindIndex, role, deleted, cognitoSub, createdAt, updatedAt⟩ := item
  have hne := ne_empty_of_isNumber hphone
  have hempty : crypto.plaintext "" ≠ some phone := by
    rw [show crypto.plaintext "" = some "" from rfl]
    exact fun h => hne (Option.some.inj h).symm
  cases hstored with
  | number encryptionEnabled nonce hq =>
    rename_i q
    have hplain := FieldCrypto.plaintext_encrypt hlawful encryptionEnabled nonce hq
    rw [EmployeeItem.plainNumber, Option.getD_some, hplain, phoneIs, beq_iff_eq, Option.some.injEq, Option.some.injEq]
    cases encryptionEnabled with
    | false => simp [FieldCrypto.encrypt, storedFor]
    | true =>
      have hsealed : crypto.encrypt true nonce q = crypto.encryptField nonce q := by
        rw [FieldCrypto.encrypt, if_neg (by simpa using ne_empty_of_isNumber hq)]
      refine iff_of_false ?_ fun h => ?_
      · rw [hsealed]
        exact encryptField_ne_number hlawful hq hphone
      · have hindex := hindexes.ne_empty hq
        simp [storedFor, hindex] at h
  | erased => exact iff_of_false (by simpa [phoneIs] using hne.symm) fun h => hempty h.2
  | absent => exact iff_of_false (by simp [phoneIs]) fun h => hempty h.2

/-- By its index a row is found that was stored with encryption on. -/
theorem blindIndexIs_iff (hlawful : crypto.Lawful) (hindexes : IndexesNumbers crypto) {item : EmployeeItem}
    (hstored : Stored crypto item) {phone : String} (hphone : isNumber phone) :
    blindIndexIs (crypto.computeBlindIndex phone) true item = true ↔
      storedFor true item = true ∧ item.plainNumber crypto = some phone ∧ item.deleted = some false := by
  obtain ⟨name, phoneNumber, phoneNumberBlindIndex, role, deleted, cognitoSub, createdAt, updatedAt⟩ := item
  have hne := ne_empty_of_isNumber hphone
  have hindex := hindexes.ne_empty hphone
  cases hstored with
  | number encryptionEnabled nonce hq =>
    rename_i q
    have hplain := FieldCrypto.plaintext_encrypt hlawful encryptionEnabled nonce hq
    have hindex' := hindexes.ne_empty hq
    rw [EmployeeItem.plainNumber, Option.getD_some, hplain]
    cases encryptionEnabled with
    | false => simp [blindIndexIs, storedFor, hindex.symm]
    | true =>
      have hsame : crypto.computeBlindIndex q = crypto.computeBlindIndex phone ↔ q = phone :=
        ⟨hindexes.inj hq hphone, congrArg _⟩
      simp [blindIndexIs, storedFor, hindex', hsame]
  | erased => simp [blindIndexIs, storedFor, hindex.symm]
  | absent => simp [blindIndexIs, storedFor]

end

/-! ### The answer -/

section

variable (library : Library) (inv : Invocation) (employees : Store String EmployeeItem) (page : String → Bool)
  (phone : String)

/-- The lookup in its mode finds the row on its page. A row without `deleted` is found by its number. -/
structure Finds (employeeId : String) (item : EmployeeItem) : Prop where
  row : employees.lookup employeeId = some item
  page : page employeeId = true
  stored : storedFor inv.encryptionEnabled item = true
  number : item.plainNumber library.crypto = some phone
  active : item.deleted = some false ∨ inv.encryptionEnabled = false ∧ item.deleted = none

/-- What the lookup finds is what there is: a number that someone has is found once, and a row without `deleted`, which an
update leaves that comes after the row is gone, is not the only one found. -/
structure FindsNumber : Prop where
  found : (∃ employeeId, HasNumber library.crypto employees employeeId phone) →
    ∃ employeeId item, Finds library inv employees page phone employeeId item
  owned : ∀ employeeId item, Finds library inv employees page phone employeeId item → item.deleted = none →
    ∃ employeeId, HasNumber library.crypto employees employeeId phone

/-- The lookup on this page answers whether there is someone with the number. -/
def IsExact (world : World) : Prop :=
  ∃ registered, ((inv.phoneAlreadyRegistered library phone).run (fun w c => respond w { page := page } c) world).1 =
    .ok registered ∧ (registered = true ↔ ∃ employeeId, HasNumber library.crypto world.employees employeeId phone)

end

variable {library : Library} {inv : Invocation} {page : String → Bool} {phone : String}

theorem run_phoneAlreadyRegistered (hlawful : library.crypto.Lawful) (hindexes : IndexesNumbers library.crypto)
    (hphone : isNumber phone) {world : World} (hstored : AllStored library.crypto world.employees) :
    ∃ registered, ((inv.phoneAlreadyRegistered library phone).run (fun w c => respond w { page := page } c) world).1 =
      .ok registered ∧
        (registered = true ↔ ∃ employeeId item, Finds library inv world.employees page phone employeeId item) := by
  rw [Invocation.phoneAlreadyRegistered]
  cases hmode : inv.encryptionEnabled with
  | true =>
    refine ⟨_, rfl, ?_⟩
    show (!(List.filter _ world.employees.rows).isEmpty) = true ↔ _
    rw [Bool.not_eq_true', List.isEmpty_eq_false_iff_exists_mem]
    constructor
    · rintro ⟨⟨employeeId, item⟩, hmem⟩
      obtain ⟨hrow, htest⟩ := List.mem_filter.1 hmem
      obtain ⟨hindex, hpage⟩ := Bool.and_eq_true_iff.1 htest
      have hrow := Store.mem_rows.1 hrow
      obtain ⟨hfor, hnumber, hactive⟩ := (blindIndexIs_iff hlawful hindexes (hstored _ _ hrow) hphone).1 hindex
      exact ⟨employeeId, item, hrow, hpage, hmode ▸ hfor, hnumber, .inl hactive⟩
    · rintro ⟨employeeId, item, hfinds⟩
      refine ⟨(employeeId, item), List.mem_filter.2 ⟨Store.mem_rows.2 hfinds.row, Bool.and_eq_true_iff.2 ⟨?_, hfinds.page⟩⟩⟩
      have hactive := hfinds.active.resolve_right fun h => absurd (hmode.symm.trans h.1) (by decide)
      exact (blindIndexIs_iff hlawful hindexes (hstored _ _ hfinds.row) hphone).2 ⟨hmode ▸ hfinds.stored, hfinds.number, hactive⟩
  | false =>
    refine ⟨_, rfl, ?_⟩
    show (List.filter _ world.employees.rows).any _ = true ↔ _
    rw [List.any_eq_true]
    constructor
    · rintro ⟨⟨employeeId, item⟩, hmem, hactive⟩
      obtain ⟨hrow, htest⟩ := List.mem_filter.1 hmem
      obtain ⟨hindex, hpage⟩ := Bool.and_eq_true_iff.1 htest
      have hrow := Store.mem_rows.1 hrow
      obtain ⟨hfor, hnumber⟩ := (phoneIs_iff hlawful hindexes (hstored _ _ hrow) hphone).1 hindex
      refine ⟨employeeId, item, hrow, hpage, hmode ▸ hfor, hnumber, ?_⟩
      rw [Bool.not_eq_true', EmployeeItem.isDeleted] at hactive
      cases hdeleted : item.deleted with
      | none => exact .inr ⟨hmode, rfl⟩
      | some deleted =>
        rw [hdeleted] at hactive
        exact .inl (congrArg some hactive)
    · rintro ⟨employeeId, item, hfinds⟩
      refine ⟨(employeeId, item), List.mem_filter.2 ⟨Store.mem_rows.2 hfinds.row, Bool.and_eq_true_iff.2 ⟨?_, hfinds.page⟩⟩, ?_⟩
      · exact (phoneIs_iff hlawful hindexes (hstored _ _ hfinds.row) hphone).2 ⟨hmode ▸ hfinds.stored, hfinds.number⟩
      · rw [Bool.not_eq_true', EmployeeItem.isDeleted]
        obtain hactive | ⟨-, hnone⟩ := hfinds.active
        · rw [hactive]
          rfl
        · rw [hnone]
          rfl

/-- In the tables that requests leave, in whichever modes and order, the duplicate check is exact where what it finds is
what there is. -/
theorem isExact_iff_findsNumber (library : Library) (hlawful : library.crypto.Lawful)
    (hindexes : IndexesNumbers library.crypto) (start : World) (hempty : start.employees = ∅) (labels : List RequestLabel)
    (t : Requests) (hrun : exec (step (service library)) { world := start } labels = some t) (inv : Invocation)
    (page : String → Bool) (phone : String) (hphone : isNumber phone) :
    IsExact library inv page phone t.world ↔ FindsNumber library inv t.world.employees page phone := by
  obtain ⟨registered, hrun', hfound⟩ := @run_phoneAlreadyRegistered library inv page phone hlawful hindexes hphone t.world
    (allStored_run hempty hrun)
  constructor
  · rintro ⟨registered', hsame, hexact⟩
    cases Except.ok.inj (hrun'.symm.trans hsame)
    exact ⟨fun h => hfound.1 (hexact.2 h), fun employeeId item hfinds _ => hexact.1 (hfound.2 ⟨employeeId, item, hfinds⟩)⟩
  · intro h
    refine ⟨registered, hrun', hfound.trans ⟨?_, h.found⟩⟩
    rintro ⟨employeeId, item, hfinds⟩
    obtain hactive | ⟨-, hnone⟩ := hfinds.active
    · exact ⟨employeeId, item, hfinds.row, hactive, hfinds.number⟩
    · exact h.owned employeeId item hfinds hnone

theorem indexesNumbers_marked : IndexesNumbers markedLibrary.crypto where
  inj _ _ h := h
  ne_empty := ne_empty_of_isNumber

/-- One creation with encryption off, and the row it leaves. -/
def oneCreated : List RequestLabel := [.start (creation "e1" "Sato" "+819012345678"), .call 0 {}, .call 0 {}]

theorem row_oneCreated {t : Requests} (hrun : exec (step (service markedLibrary)) { world := {} } oneCreated = some t) :
    ∃ item, t.world.employees.lookup "e1" = some item ∧ item.deleted = some false ∧
      item.plainNumber markedLibrary.crypto = some "+819012345678" ∧ item.phoneNumberBlindIndex = some "" := by
  have hfound : (exec (step (service markedLibrary)) { world := {} } oneCreated).map (fun t =>
      (t.world.employees.lookup "e1").any fun item => item.deleted == some false &&
        item.plainNumber markedLibrary.crypto == some "+819012345678" && item.phoneNumberBlindIndex == some "") =
      some true := by decide
  rw [hrun, Option.map_some, Option.some.injEq, Option.any_eq_true] at hfound
  obtain ⟨item, hitem, htest⟩ := hfound
  rw [Bool.and_eq_true, Bool.and_eq_true, beq_iff_eq, beq_iff_eq, beq_iff_eq] at htest
  exact ⟨item, hitem, htest.1.1, htest.1.2, htest.2⟩

theorem isExact_oneCreated : ∃ t, exec (step (service markedLibrary)) { world := {} } oneCreated = some t ∧
    IsExact markedLibrary (creation "e2" "Suzuki" "+819012345678") (fun _ => true) "+819012345678" t.world := by
  obtain ⟨t, hrun⟩ := Option.isSome_iff_exists.1
    (show (exec (step (service markedLibrary)) { world := {} } oneCreated).isSome = true by decide)
  obtain ⟨item, hrow, hdeleted, hnumber, hindex⟩ := row_oneCreated hrun
  refine ⟨t, hrun, (isExact_iff_findsNumber markedLibrary FieldCrypto.lawful_marked indexesNumbers_marked {} rfl oneCreated t
    hrun _ _ _ (rfl : isNumber "+819012345678")).2 ⟨fun _ => ⟨"e1", item, hrow, rfl, ?_, hnumber, .inl hdeleted⟩, ?_⟩⟩
  · rw [storedFor, hindex]
    rfl
  · exact fun _ _ _ _ => ⟨"e1", item, hrow, hdeleted, hnumber⟩

/-- Once encryption is on the number of that row is not found any more. -/
theorem not_isExact_oneCreated : ∃ t, exec (step (service markedLibrary)) { world := {} } oneCreated = some t ∧
    ¬ IsExact markedLibrary { creation "e2" "Suzuki" "+819012345678" with encryptionEnabled := true } (fun _ => true)
      "+819012345678" t.world := by
  obtain ⟨t, hrun⟩ := Option.isSome_iff_exists.1
    (show (exec (step (service markedLibrary)) { world := {} } oneCreated).isSome = true by decide)
  obtain ⟨item, hrow, hdeleted, hnumber, -⟩ := row_oneCreated hrun
  refine ⟨t, hrun, ?_⟩
  rintro ⟨registered, hanswer, hexact⟩
  have hmissed : (exec (step (service markedLibrary)) { world := {} } oneCreated).map (fun t =>
      t.world.employees.rows.any fun entry => blindIndexIs "+819012345678" true entry.2 && true) = some false := by decide
  rw [hrun, Option.map_some, Option.some.injEq] at hmissed
  have hfound : registered = true := hexact.2 ⟨"e1", item, hrow, hdeleted, hnumber⟩
  have hnone : registered = !(t.world.employees.rows.filter fun entry =>
      blindIndexIs "+819012345678" true entry.2 && true).isEmpty := (Except.ok.inj hanswer).symm
  rw [hfound, eq_comm, Bool.not_eq_true', List.isEmpty_eq_false_iff_exists_mem] at hnone
  obtain ⟨entry, hmem⟩ := hnone
  obtain ⟨hentry, htest⟩ := List.mem_filter.1 hmem
  exact absurd htest (List.any_eq_false.1 hmissed entry hentry)

end EmployeeApi

end SafetyConfirmation
