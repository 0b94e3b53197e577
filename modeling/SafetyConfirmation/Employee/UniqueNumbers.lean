import SafetyConfirmation.Employee.Requests

/-!
# The numbers of the employees who are not deleted

Every request looks a number up before it writes it, and nothing holds the number in between. The numbers stay different
in the runs in which no other request writes a number there, and in which the lookup finds what is stored.
-/

namespace SafetyConfirmation

namespace EmployeeApi

open KeyedStore StepMachine Interleaving

section

variable (crypto : FieldCrypto)

def IsActive (employees : Store String EmployeeItem) (employeeId : String) : Prop :=
  ∃ item, employees.lookup employeeId = some item ∧ item.deleted = some false

/-- An active row with this number in plaintext. -/
def HasNumber (employees : Store String EmployeeItem) (employeeId number : String) : Prop :=
  ∃ item, employees.lookup employeeId = some item ∧ item.deleted = some false ∧ item.plainNumber crypto = some number

def UniqueNumbers (employees : Store String EmployeeItem) : Prop :=
  ∀ employeeId other number, HasNumber crypto employees employeeId number → HasNumber crypto employees other number →
    employeeId = other

/-- The number may be written: to the row of `target`, or where there is none to a new row. -/
def Free (employees : Store String EmployeeItem) (target : Option String) (number : String) : Prop :=
  (∀ employeeId, target = some employeeId → IsActive employees employeeId) →
    ∀ other, HasNumber crypto employees other number → target = some other

/-- The numbers a call writes, each with the employee whose row it updates. -/
def Call.written (c : Call) : List (Option String × String) :=
  match c with
  | .updateItem employeeId (.fields _ phoneNumber _ _) =>
    (crypto.plaintext phoneNumber).toList.map fun number => (some employeeId, number)
  | c => c.puts.filterMap fun entry => (entry.2.plainNumber crypto).map fun number => (none, number)

/-- The call writes the number for others than the target, or puts a row in the place of the target's. -/
def disturbs (target : Option String) (number : String) (entry : LoggedCall) : Bool :=
  entry.environment.carriesOut &&
    ((entry.call.written crypto).any (fun write => write.2 == number && (write.1.isNone || write.1 != target)) ||
      entry.call.puts.any fun put => target == some put.1)

/-- The lookup reaches the active rows with the number, and they are stored in the mode it looks for them in. -/
def sees (number : String) (w : World) (environment : Environment) (c : Call) : Bool :=
  w.employees.rows.all fun entry =>
    !(entry.2.deleted == some false && entry.2.plainNumber crypto == some number) ||
      (finds entry.2 c && environment.page entry.1)

def passes (target : Option String) (number : String) (c : Call) (answer : Except PyError (Result c)) : Bool :=
  clears crypto number c answer || target.any fun employeeId => owns crypto employeeId number c answer

/-- The invocation of a thread has found that it may write the number. -/
def checked (i : Nat) (target : Option String) (number : String) (log : List LoggedCall) : Bool :=
  log.any fun entry => entry.thread == i && passes crypto target number entry.call entry.answer

end

section

variable (library : Library) (start : World)

/-- The check of a thread missed a row, or a call came after it that disturbs it. -/
def spoiled (i : Nat) (target : Option String) (number : String) : List LoggedCall → Bool
  | [] => false
  | entry :: older => spoiled i target number older ||
      (checked library.crypto i target number older && disturbs library.crypto target number entry) ||
      (entry.thread == i && clears library.crypto number entry.call entry.answer &&
        !sees library.crypto number (replay (service library) start older) entry.environment entry.call)

/-- The numbers the step writes were looked up by the request, and not disturbed since. -/
def undisturbed (p : Requests) : RequestLabel → Bool
  | .start _ => true
  | .call i environment =>
    match p.threads[i]?.bind Thread.call? with
    | some c => !environment.carriesOut ||
        (c.written library.crypto).all fun write => !spoiled library start i write.1 write.2 p.log
    | none => true

end

variable {library : Library} {crypto : FieldCrypto} {w start : World} {environment : Environment} {c : Call}
variable {employeeId number : String} {target : Option String}

/-! ### One call -/

theorem written_of_isRead (h : c.isRead = true) : c.written crypto = [] := by
  cases c <;> first | rfl | cases h

theorem written_of_put {item : EmployeeItem} (hput : (employeeId, item) ∈ c.puts)
    (hnumber : item.plainNumber crypto = some number) : (none, number) ∈ c.written crypto := by
  cases c with
  | putItem | transactPut => exact List.mem_filterMap.2 ⟨_, hput, by rw [hnumber]; rfl⟩
  | _ => exact (List.not_mem_nil hput).elim

theorem puts_of_written_some (h : (some employeeId, number) ∈ c.written crypto) : c.puts = [] := by
  cases c with
  | putItem | transactPut => simp [Call.written] at h
  | _ => rfl

theorem written_some_unique {other : String} (h : (some employeeId, number) ∈ c.written crypto)
    (h' : (some other, number) ∈ c.written crypto) : employeeId = other := by
  cases c with
  | updateItem id update =>
    cases update with
    | fields =>
      simp only [Call.written, List.mem_map, Prod.mk.injEq, Option.some.injEq] at h h'
      obtain ⟨_, -, rfl, -⟩ := h
      obtain ⟨_, -, rfl, -⟩ := h'
      rfl
    | _ => exact (List.not_mem_nil h).elim
  | putItem | transactPut => simp [Call.written] at h
  | _ => exact (List.not_mem_nil h).elim

/-- An update leaves no active row where there was none. -/
theorem exists_row_of_update {update : Update} {row : Option EmployeeItem}
    (hactive : (update.apply (row.getD {})).deleted = some false) : ∃ old, row = some old := by
  cases row with
  | none => cases update <;> cases hactive
  | some old => exact ⟨old, rfl⟩

/-- A row gets a number by a put, by an update of an active row, or had it. -/
theorem hasNumber_respond (h : HasNumber crypto (respond w environment c).2.employees employeeId number) :
    (environment.carriesOut = true ∧
      ((∃ item, (employeeId, item) ∈ c.puts ∧ item.plainNumber crypto = some number) ∨
        IsActive w.employees employeeId ∧ (some employeeId, number) ∈ c.written crypto)) ∨
    HasNumber crypto w.employees employeeId number := by
  obtain ⟨item, hrow, hactive, hnumber⟩ := h
  rcases lookup_respond_eq_some hrow with ⟨happlied, hput | ⟨update, rfl, rfl⟩⟩ | hold
  · exact .inl ⟨happlied, .inl ⟨item, hput, hnumber⟩⟩
  · obtain ⟨row, hlookup⟩ := exists_row_of_update hactive
    rw [hlookup] at hactive hnumber
    cases update with
    | fields name phoneNumber phoneNumberBlindIndex updatedAt =>
      refine .inl ⟨happlied, .inr ⟨⟨row, hlookup, hactive⟩, ?_⟩⟩
      exact List.mem_map.2 ⟨number, Option.mem_toList.2 hnumber, rfl⟩
    | delete updatedAt => cases hactive
    | removeCognitoSub updatedAt => exact .inr ⟨row, hlookup, hactive, hnumber⟩
  · exact .inr ⟨item, hold, hactive, hnumber⟩

theorem isActive_respond (h : IsActive (respond w environment c).2.employees employeeId) :
    (environment.carriesOut = true ∧ ∃ item, (employeeId, item) ∈ c.puts) ∨ IsActive w.employees employeeId := by
  obtain ⟨item, hrow, hactive⟩ := h
  rcases lookup_respond_eq_some hrow with ⟨happlied, hput | ⟨update, rfl, rfl⟩⟩ | hold
  · exact .inl ⟨happlied, item, hput⟩
  · obtain ⟨row, hlookup⟩ := exists_row_of_update hactive
    rw [hlookup] at hactive
    cases update with
    | delete updatedAt => cases hactive
    | _ => exact .inr ⟨row, hlookup, hactive⟩
  · exact .inr ⟨item, hold, hactive⟩

/-- Where every number a call writes is free, the numbers stay different. -/
theorem uniqueNumbers_respond (hunique : UniqueNumbers crypto w.employees)
    (hnodup : (c.puts.map fun entry => entry.2.plainNumber crypto).Nodup)
    (hfree : environment.carriesOut = true → ∀ write ∈ c.written crypto, Free crypto w.employees write.1 write.2) :
    UniqueNumbers crypto (respond w environment c).2.employees := by
  have hnew : ∀ employeeId other number, environment.carriesOut = true →
      ((∃ item, (employeeId, item) ∈ c.puts ∧ item.plainNumber crypto = some number) ∨
        IsActive w.employees employeeId ∧ (some employeeId, number) ∈ c.written crypto) →
      HasNumber crypto (respond w environment c).2.employees other number → employeeId = other := by
    intro employeeId other number happlied hwritten hother
    have hfree := hfree happlied
    rcases hwritten with ⟨item, hput, hnumber⟩ | ⟨hactive, hwritten⟩
    · rcases hasNumber_respond hother with ⟨-, ⟨item', hput', hnumber'⟩ | ⟨-, hwritten'⟩⟩ | hold
      · exact congrArg Prod.fst (List.inj_on_of_nodup_map hnodup hput hput' (hnumber.trans hnumber'.symm))
      · rw [puts_of_written_some hwritten'] at hput
        exact (List.not_mem_nil hput).elim
      · cases hfree _ (written_of_put hput hnumber) (fun _ h => nomatch h) other hold
    · rcases hasNumber_respond hother with ⟨-, ⟨item', hput', -⟩ | ⟨-, hwritten'⟩⟩ | hold
      · rw [puts_of_written_some hwritten] at hput'
        exact (List.not_mem_nil hput').elim
      · exact written_some_unique hwritten hwritten'
      · refine Option.some.inj (hfree _ hwritten ?_ other hold)
        intro _ hsame
        cases hsame
        exact hactive
  intro employeeId other number h hother
  rcases hasNumber_respond h with ⟨happlied, hwritten⟩ | hold
  · exact hnew employeeId other number happlied hwritten hother
  · rcases hasNumber_respond hother with ⟨happlied, hwritten⟩ | hold'
    · exact (hnew other employeeId number happlied hwritten h).symm
    · exact hunique employeeId other number hold hold'

/-- A call that does not disturb it leaves a free number free. -/
theorem Free.respond {entry : LoggedCall} (hfree : Free crypto w.employees target number)
    (hdisturbs : disturbs crypto target number entry = false) :
    Free crypto (respond w entry.environment entry.call).2.employees target number := by
  rw [disturbs, Bool.and_eq_false_imp] at hdisturbs
  intro hactive other hother
  rcases hasNumber_respond hother with ⟨happlied, hwritten⟩ | hold
  · have hquiet := hdisturbs happlied
    rw [Bool.or_eq_false_iff, List.any_eq_false] at hquiet
    rcases hwritten with ⟨item, hput, hnumber⟩ | ⟨-, hwritten⟩
    · simpa using hquiet.1 _ (written_of_put hput hnumber)
    · have hsame : some other = target := by simpa using hquiet.1 _ hwritten
      exact hsame.symm
  · refine hfree (fun employeeId htarget => ?_) other hold
    rcases isActive_respond (hactive employeeId htarget) with ⟨happlied, item, hput⟩ | hactive
    · have hquiet := hdisturbs happlied
      rw [Bool.or_eq_false_iff, List.any_eq_false, List.any_eq_false] at hquiet
      exact absurd (beq_iff_eq.2 htarget) (hquiet.2 _ hput)
    · exact hactive

theorem free_of_clears (hclears : clears crypto number c (respond w environment c).1 = true)
    (hsees : sees crypto number w environment c = true) : Free crypto w.employees target number := by
  intro _ other ⟨item, hrow, hactive, hnumber⟩
  have hfound : finds item c = true ∧ environment.page other = true := by
    have hentry := List.all_eq_true.1 hsees _ (Store.mem_rows.2 hrow)
    simpa [hactive, hnumber] using hentry
  cases hanswer : (respond w environment c).1 with
  | error e =>
    rw [hanswer] at hclears
    cases c <;> try cases hclears
    rename_i activeOnly
    cases activeOnly <;> cases hclears
  | ok items =>
    have hact := (respond_eq_ok hanswer).1
    rw [hanswer] at hclears
    cases c with
    | queryPhone phoneNumber =>
      cases hact
      rw [clears, Bool.and_eq_true, List.all_eq_true] at hclears
      have hdeleted := hclears.2 (other, item) (List.mem_filter.2 ⟨Store.mem_rows.2 hrow, by
        rw [Bool.and_eq_true]
        exact hfound⟩)
      rw [EmployeeItem.isDeleted, hactive] at hdeleted
      cases hdeleted
    | scanBlindIndex blindIndex activeOnly =>
      cases activeOnly with
      | false => cases hclears
      | true =>
        cases hact
        rw [clears, Bool.and_eq_true, List.isEmpty_iff, List.filter_eq_nil_iff] at hclears
        refine absurd ?_ (hclears.2 (other, item) (Store.mem_rows.2 hrow))
        rw [Bool.and_eq_true]
        exact hfound
    | _ => cases hclears

theorem free_of_owns (hunique : UniqueNumbers crypto w.employees)
    (howns : owns crypto employeeId number c (respond w environment c).1 = true) :
    Free crypto w.employees (some employeeId) number := by
  intro hactive other hother
  cases hanswer : (respond w environment c).1 with
  | error e =>
    rw [hanswer] at howns
    cases c <;> cases howns
  | ok r =>
    have hact := (respond_eq_ok hanswer).1
    rw [hanswer] at howns
    cases c with
    | getItem id =>
      obtain ⟨row, hrow, hdeleted⟩ := hactive employeeId rfl
      cases r with
      | none => cases howns
      | some item =>
        have hitem : w.employees.lookup id = some item := Except.ok.inj hact
        rw [owns, Bool.and_eq_true, Bool.and_eq_true, beq_iff_eq, beq_iff_eq] at howns
        obtain ⟨⟨rfl, -⟩, hnumber⟩ := howns
        rw [hitem] at hrow
        cases hrow
        rw [hunique id other number ⟨_, hitem, hdeleted, hnumber⟩ hother]
    | _ => cases howns

theorem free_of_passes (hunique : UniqueNumbers crypto w.employees)
    (hpasses : passes crypto target number c (respond w environment c).1 = true)
    (hsees : clears crypto number c (respond w environment c).1 = true → sees crypto number w environment c = true) :
    Free crypto w.employees target number := by
  rw [passes, Bool.or_eq_true] at hpasses
  rcases hpasses with hclears | howns
  · exact free_of_clears hclears (hsees hclears)
  · cases target with
    | none => cases howns
    | some employeeId => exact free_of_owns hunique howns

/-! ### Requests at the same time -/

theorem plainNumber_newItem (hlawful : library.crypto.Lawful) (inv : Invocation) (n : Nat) (name role sub : String)
    (hnumber : isNumber number) :
    (inv.newItem library n name number role sub).plainNumber library.crypto = some number :=
  FieldCrypto.plaintext_encrypt hlawful _ _ hnumber

theorem checked_of_cleared {i : Nat} {log : List LoggedCall} (h : Cleared crypto number (seen i log)) :
    checked crypto i target number log = true := by
  obtain ⟨seenCall, hmem, hclears⟩ := h
  obtain ⟨entry, hentry, hthread, rfl⟩ := mem_seen.1 hmem
  rw [checked, List.any_eq_true]
  refine ⟨entry, hentry, ?_⟩
  rw [passes, show clears crypto number entry.call entry.answer = true from hclears, Bool.true_or, Bool.and_true]
  exact beq_iff_eq.2 hthread

theorem checked_of_owned {i : Nat} {log : List LoggedCall} (h : Owned crypto employeeId number (seen i log)) :
    checked crypto i (some employeeId) number log = true := by
  obtain ⟨seenCall, hmem, howns⟩ := h
  obtain ⟨entry, hentry, hthread, rfl⟩ := mem_seen.1 hmem
  rw [checked, List.any_eq_true]
  refine ⟨entry, hentry, ?_⟩
  rw [passes, Option.any_some, show owns crypto employeeId number entry.call entry.answer = true from howns, Bool.or_true,
    Bool.and_true]
  exact beq_iff_eq.2 hthread

/-- What an invocation writes, it has looked up. -/
theorem checked_of_permitted (hlawful : library.crypto.Lawful) {inv : Invocation} {i : Nat} {log : List LoggedCall}
    (hpermitted : Permitted library inv (seen i log) c) {write : Option String × String}
    (hwrite : write ∈ c.written library.crypto) : checked library.crypto i write.1 write.2 log = true := by
  cases hpermitted with
  | create hroute name phone role sub hphone hcleared =>
    simp only [Call.written, Call.puts, List.filterMap_cons, plainNumber_newItem hlawful inv 0 name role sub hphone,
      Option.map_some, List.filterMap_nil, List.mem_singleton] at hwrite
    subst hwrite
    exact checked_of_cleared hcleared
  | update hroute employeeId name phone hid hphone hchecked =>
    simp only [Call.written, Invocation.encrypt, FieldCrypto.plaintext_encrypt hlawful _ _ hphone, Option.toList_some,
      List.map_cons, List.map_nil, List.mem_singleton] at hwrite
    subst hwrite
    rcases hchecked with hcleared | howned
    · exact checked_of_cleared hcleared
    · exact checked_of_owned howned
  | insert hroute rows hnodup hrows =>
    obtain ⟨entry, hentry, hwrite⟩ := List.mem_filterMap.1 hwrite
    obtain ⟨row, hrow, rfl⟩ := List.mem_map.1 hentry
    rw [Invocation.importItem, plainNumber_newItem hlawful inv _ _ _ _ (hrows row hrow).1] at hwrite
    cases hwrite
    exact checked_of_cleared (hrows row hrow).2
  | read c hread =>
    rw [written_of_isRead hread] at hwrite
    exact (List.not_mem_nil hwrite).elim
  | _ => cases hwrite

/-- The rows one call puts have different numbers. -/
theorem nodup_puts_of_permitted (hlawful : library.crypto.Lawful) {inv : Invocation} {history : History}
    (hpermitted : Permitted library inv history c) :
    (c.puts.map fun entry => entry.2.plainNumber library.crypto).Nodup := by
  cases hpermitted with
  | create => exact List.nodup_singleton _
  | insert hroute rows hnodup hrows =>
    have hnumbers : rows.map (fun row => (inv.importItem library row).2.plainNumber library.crypto) =
        rows.map fun row => some row.1.phoneNumber :=
      List.map_congr_left fun row hrow => plainNumber_newItem hlawful inv _ _ _ _ (hrows row hrow).1
    rw [Call.puts, List.map_map]
    show (rows.map fun row => (inv.importItem library row).2.plainNumber library.crypto).Nodup
    rw [hnumbers]
    have hsome := hnodup.map fun _ _ => Option.some.inj
    rw [List.map_map] at hsome
    exact hsome
  | read c hread =>
    rw [puts_of_isRead hread]
    exact List.nodup_nil
  | _ => exact List.nodup_nil

/-- A call that is a check writes no number and puts no row. -/
theorem disturbs_of_passes {number' : String} {target' : Option String} {entry : LoggedCall}
    (h : passes crypto target' number' entry.call entry.answer = true) : disturbs crypto target number entry = false := by
  obtain ⟨i, environment, c, answer⟩ := entry
  cases c with
  | getItem | queryPhone | scanBlindIndex => exact Bool.and_false _
  | _ => cases target' <;> cases h

/-- The numbers are different, and whatever was checked and not disturbed is free. -/
structure Sound (library : Library) (start : World) (p : Requests) : Prop where
  world : p.world = replay (service library) start p.log
  conducted : Conducted library p
  unique : UniqueNumbers library.crypto p.world.employees
  free : ∀ i target number, checked library.crypto i target number p.log = true →
    spoiled library start i target number p.log = false → Free library.crypto p.world.employees target number

theorem sound_start (hempty : start.employees = ∅) : Sound library start { world := start } where
  world := rfl
  conducted := follows_start start
  unique employeeId other number h _ := by
    obtain ⟨item, hrow, -⟩ := h
    rw [show ({ world := start } : Requests).world.employees = ∅ from hempty] at hrow
    cases hrow
  free i target number h _ := nomatch h

theorem sound_step (hlawful : library.crypto.Lawful) {p t : Requests} {label : RequestLabel} (hp : Sound library start p)
    (hguard : undisturbed library start p label = true) (h : step (service library) p label = some t) :
    Sound library start t := by
  have hworld := replay_step hp.world h
  have hconducted := conducted_step hp.conducted h
  cases step_cases h with
  | start request hadmits => exact ⟨hworld, hconducted, hp.unique, hp.free⟩
  | call i environment request c next hthread =>
    have hpermitted := hp.conducted.permitted hthread
    refine ⟨hworld, hconducted, ?_, ?_⟩
    · refine uniqueNumbers_respond hp.unique (nodup_puts_of_permitted hlawful hpermitted) fun happlied write hwrite => ?_
      refine hp.free i write.1 write.2 (checked_of_permitted hlawful hpermitted hwrite) ?_
      have hall : ∀ a b, (a, b) ∈ c.written library.crypto → spoiled library start i a b p.log = false := by
        simpa [undisturbed, hthread, Thread.call?, happlied] using hguard
      exact hall write.1 write.2 hwrite
    · intro j target number hchecked hspoiled
      rw [afterCall, spoiled, Bool.or_eq_false_iff, Bool.or_eq_false_iff, Bool.and_eq_false_imp, ← hp.world] at hspoiled
      obtain ⟨⟨hspoiled, hdisturbs⟩, hsees⟩ := hspoiled
      rw [afterCall, checked, List.any_cons, Bool.or_eq_true, Bool.and_eq_true, beq_iff_eq] at hchecked
      rcases hchecked with ⟨hthread, hpasses⟩ | hchecked
      · refine Free.respond (free_of_passes hp.unique hpasses fun hclears => ?_) (disturbs_of_passes hpasses)
        rw [beq_iff_eq.2 hthread, Bool.true_and] at hsees
        rw [Bool.and_eq_false_imp] at hsees
        simpa using hsees hclears
      · exact Free.respond (hp.free j target number hchecked hspoiled) (hdisturbs hchecked)

/-- In every run in which what a request writes was seen and left alone since its check, the numbers of the employees who
are not deleted are different in every state. -/
theorem uniqueNumbers_of_undisturbed (library : Library) (hlawful : library.crypto.Lawful) (start : World)
    (hempty : start.employees = ∅) (labels : List RequestLabel)
    (hguard : Guarded (step (service library)) (fun p label => undisturbed library start p label = true) { world := start }
      labels) (t : Requests) (hrun : exec (step (service library)) { world := start } labels = some t) :
    UniqueNumbers library.crypto t.world.employees := by
  have hsound : Sound library start t :=
    invariant_of_guarded (fun _ _ _ hp hguard h => sound_step hlawful hp hguard h) (sound_start hempty) hguard hrun
  exact hsound.unique

/-- Two requests at the same time, each of which looks its number up before the other one writes. -/
def overlapping (phone other : String) : List RequestLabel :=
  [.start (creation "e1" "Sato" phone), .start (creation "e2" "Suzuki" other), .call 0 {}, .call 1 {}, .call 0 {}, .call 1 {}]

theorem uniqueNumbers_overlapping : ∃ t,
    exec (step (service markedLibrary)) { world := {} } (overlapping "+819012345678" "+819087654321") = some t ∧
      UniqueNumbers markedLibrary.crypto t.world.employees := by
  obtain ⟨t, hrun⟩ := Option.isSome_iff_exists.1 (show (exec (step (service markedLibrary)) { world := {} }
    (overlapping "+819012345678" "+819087654321")).isSome = true by decide)
  exact ⟨t, hrun, uniqueNumbers_of_undisturbed markedLibrary FieldCrypto.lawful_marked {} rfl _ (by decide) t hrun⟩

/-- With one number for both, both are created. -/
theorem not_uniqueNumbers_overlapping : ∃ t,
    exec (step (service markedLibrary)) { world := {} } (overlapping "+819012345678" "+819012345678") = some t ∧
      ¬ UniqueNumbers markedLibrary.crypto t.world.employees := by
  obtain ⟨t, hrun⟩ := Option.isSome_iff_exists.1 (show (exec (step (service markedLibrary)) { world := {} }
    (overlapping "+819012345678" "+819012345678")).isSome = true by decide)
  refine ⟨t, hrun, fun hunique => ?_⟩
  have hrow : ∀ employeeId ∈ ["e1", "e2"], HasNumber markedLibrary.crypto t.world.employees employeeId "+819012345678" := by
    have hfound : (exec (step (service markedLibrary)) { world := {} } (overlapping "+819012345678" "+819012345678")).map
        (fun t => ["e1", "e2"].all fun employeeId => (t.world.employees.lookup employeeId).any fun item =>
          item.deleted == some false && item.plainNumber markedLibrary.crypto == some "+819012345678") = some true := by decide
    rw [hrun, Option.map_some, Option.some.injEq, List.all_eq_true] at hfound
    intro employeeId hmem
    obtain ⟨item, hitem, hnumber⟩ := (Option.any_eq_true _ _).1 (hfound employeeId hmem)
    rw [Bool.and_eq_true, beq_iff_eq, beq_iff_eq] at hnumber
    exact ⟨item, hitem, hnumber⟩
  have hsame := hunique "e1" "e2" _ (hrow _ (by decide)) (hrow _ (by decide))
  exact absurd hsame (by decide)

end EmployeeApi

end SafetyConfirmation
