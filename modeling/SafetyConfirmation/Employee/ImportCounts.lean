import Mathlib.Data.List.Dedup
import SafetyConfirmation.Employee.Conduct
import SafetyConfirmation.Employee.FileGate

/-!
# The counts that an import reports

An import on its own, one environment for each call, and what it says of the records of its file: how many it tried, how
many it added, and an entry for each one that failed. What a file with good and bad records is answered does not add up.
-/

namespace SafetyConfirmation

namespace EmployeeApi

open KeyedStore EmployeeCsv Checks

namespace ImportCounts

/-- The tables, and how many calls were made. -/
abbrev Session := World × Nat

/-- Each call goes as the environment of its position says. -/
def respondAt (environments : Nat → Environment) (s : Session) (c : Call) : Except PyError (Result c) × Session :=
  ((respond s.1 (environments s.2) c).1, (respond s.1 (environments s.2) c).2, s.2 + 1)

section

variable (library : Library) (inv : Invocation) (environments : Nat → Environment)

def serve (body : Value) (w : World) : Except PyError HttpResponse × Session :=
  (inv.importCsv library body).run (respondAt environments) (w, 0)

/-- How many rows are in the table that were not. -/
def added (before after : World) : Nat := after.employees.keys.countP fun id => (before.employees.lookup id).isNone

/-- The report says that `n` records were tried and how many rows were added, and has an entry for each other record. -/
structure AddsUp (n : Nat) (before after : World) (response : HttpResponse) : Prop where
  attempted : response.body.get? "attempted" = some (.int n)
  imported : response.body.get? "imported" = some (.int (added before after))
  total : ∃ errors, response.body.get? "errors" = some (.list errors) ∧ added before after + errors.length = n

/-- The records of a file that are not blank. -/
def dataOf (file : File) : List DataRecord :=
  match file.text with
  | none => []
  | some text => dataRecords 2 text.records.tail

/-- The lookup of a number finds someone, when it goes as its environment says. -/
def Finds (w : World) (environment : Environment) (phone : String) : Prop :=
  ((inv.phoneAlreadyRegistered library phone).run (fun w c => respond w environment c) w).1 = .ok true

/-- No record can be imported, or all of them are registered, or all are new and every batch is written, or the only one
is new and its batch is refused. -/
inductive Alike (w : World) (data : List DataRecord) : Prop where
  | noneAccepted (hrecords : ∀ i, i < data.length → ¬ Accepted data i)
  | allRegistered (hrecords : ∀ i, i < data.length → Accepted data i)
      (hfound : ∀ i phone, numberAt? data i = some phone → Finds library inv w (environments i) phone)
  | allStored (hrecords : ∀ i, i < data.length → Accepted data i)
      (hnew : ∀ i phone, numberAt? data i = some phone → ¬ Finds library inv w (environments i) phone)
      (hwritten : ∀ k, k < (data.length + transactMaxItems - 1) / transactMaxItems →
        (environments (data.length + k)).fault = none)
  | oneRefused (hrecords : ∀ i, i < data.length → Accepted data i)
      (hnew : ∀ i phone, numberAt? data i = some phone → ¬ Finds library inv w (environments i) phone)
      (hone : data.length = 1) (hrefused : (environments 1).carriesOut = false)

end

variable {library : Library} {inv : Invocation} {environments : Nat → Environment} {w : World} {k : Nat}

/-! ### The checks against the master -/

theorem respond_snd_of_isRead {c : Call} (hread : c.isRead = true) (environment : Environment) :
    (respond w environment c).2 = w := by
  rw [respond]
  cases environment.fault with
  | none => cases c <;> first | rfl | cases hread
  | some fault =>
    show (if fault.applied then (act w environment c).2 else w) = w
    split
    · cases c <;> first | rfl | cases hread
    · rfl

/-- A read is one call and leaves the tables as they are. -/
theorem run_read {α : Type} {c : Call} (hread : c.isRead = true) (g : Result c → α) :
    (call c >>= fun r => pure (g r)).run (respondAt environments) (w, k) =
      (((call c >>= fun r => pure (g r)).run (fun w c => respond w (environments k) c) w).1, w, k + 1) := by
  have hsame := @respond_snd_of_isRead w c hread (environments k)
  rw [Program.run_bind, Program.run_bind, call, Program.run_perform, Program.run_perform, respondAt]
  dsimp only
  cases hrespond : respond w (environments k) c with
  | mk answer w' =>
    rw [hrespond] at hsame
    dsimp only at hsame
    subst hsame
    cases answer <;> rfl

theorem run_phoneAlreadyRegistered (phone : String) :
    (inv.phoneAlreadyRegistered library phone).run (respondAt environments) (w, k) =
      (((inv.phoneAlreadyRegistered library phone).run (fun w c => respond w (environments k) c) w).1, w, k + 1) := by
  rw [Invocation.phoneAlreadyRegistered]
  split
  · exact run_read rfl _
  · exact run_read rfl _

theorem forall_getElem?_cons {x : String} {xs : List String} {P : Nat → String → Prop} :
    (∀ i y, (x :: xs)[i]? = some y → P (k + i) y) ↔ P k x ∧ ∀ i y, xs[i]? = some y → P (k + 1 + i) y := by
  constructor
  · intro h
    refine ⟨h 0 x rfl, fun i y hy => ?_⟩
    rw [Nat.add_right_comm]
    exact h (i + 1) y hy
  · rintro ⟨hx, hxs⟩ i y hy
    cases i with
    | zero =>
      cases hy
      exact hx
    | succ i =>
      rw [← Nat.add_assoc, Nat.add_right_comm]
      exact hxs i y hy

/-- The numbers that were found, of the numbers that were looked for one after another. -/
theorem run_filterRegistered {phones duplicates : List String} {s : Session}
    (h : (Program.filterList (inv.phoneAlreadyRegistered library) phones).run (respondAt environments) (w, k) =
      (.ok duplicates, s)) : s = (w, k + phones.length) ∧ duplicates.Sublist phones ∧
      (duplicates = [] ↔ ∀ i phone, phones[i]? = some phone → ¬ Finds library inv w (environments (k + i)) phone) ∧
      (duplicates.length = phones.length ↔
        ∀ i phone, phones[i]? = some phone → Finds library inv w (environments (k + i)) phone) := by
  induction phones generalizing k duplicates s with
  | nil =>
    cases h
    have hnil : ∀ (p : Nat → String → Prop), ∀ i phone, ([] : List String)[i]? = some phone → p i phone := by
      intro p i phone h
      rw [List.getElem?_nil] at h
      cases h
    exact ⟨rfl, .slnil, iff_of_true rfl (hnil _), iff_of_true rfl (hnil _)⟩
  | cons phone phones ih =>
    have hnone := @forall_getElem?_cons k phone phones fun j p => ¬ Finds library inv w (environments j) p
    have hall := @forall_getElem?_cons k phone phones fun j p => Finds library inv w (environments j) p
    rw [Program.filterList, Program.run_bind, run_phoneAlreadyRegistered] at h
    rw [hnone, hall, Finds, List.length_cons]
    cases hanswer : ((inv.phoneAlreadyRegistered library phone).run (fun w c => respond w (environments k) c) w).1 with
    | error e =>
      rw [hanswer] at h
      cases h
    | ok found =>
      rw [hanswer] at h
      dsimp only at h
      rw [Program.run_bind] at h
      cases hrest : (Program.filterList (inv.phoneAlreadyRegistered library) phones).run (respondAt environments) (w, k + 1) with
      | mk result s' =>
        rw [hrest] at h
        cases result with
        | error e => cases h
        | ok rest =>
          obtain ⟨rfl, hsublist, hnil, hlength⟩ := ih hrest
          rw [← hnil, ← hlength]
          have hle := hsublist.length_le
          cases found with
          | true =>
            cases h
            refine ⟨by rw [Nat.add_right_comm, Nat.add_assoc], hsublist.cons_cons phone, ?_, ?_⟩
            · exact iff_of_false (List.cons_ne_nil _ _) fun hnot => hnot.1 rfl
            · rw [if_pos rfl, List.length_cons]
              exact ⟨fun heq => ⟨rfl, Nat.succ.inj heq⟩, fun heq => congrArg _ heq.2⟩
          | false =>
            cases h
            refine ⟨by rw [Nat.add_right_comm, Nat.add_assoc], hsublist.cons phone, ?_, ?_⟩
            · exact ⟨fun heq => ⟨fun hfound => Bool.false_ne_true (Except.ok.inj hfound), heq⟩, And.right⟩
            · refine iff_of_false ?_ fun hfound => Bool.false_ne_true (Except.ok.inj hfound.1)
              rw [if_neg Bool.false_ne_true]
              omega

/-! ### The batches -/

theorem putAll_append (employees : Store String EmployeeItem) (items items' : List (String × EmployeeItem)) :
    putAll employees (items ++ items') = putAll (putAll employees items) items' := List.foldl_append

/-- When no batch fails all rows are written. -/
theorem run_insertBatches_written (attempted : Nat) {rest : List (List (EmployeeRow × Nat))} {inserted : List String}
    (h : ∀ j, j < rest.length → (environments (k + j)).fault = none) :
    (inv.insertBatches library attempted rest inserted).run (respondAt environments) (w, k) =
      (.ok (Invocation.importAnswer 201 (inserted.length + rest.flatten.length) attempted []),
        { w with employees := putAll w.employees (rest.flatten.map (inv.importItem library)) }, k + rest.length) := by
  induction rest generalizing inserted w k with
  | nil => rfl
  | cons batch rest ih =>
    have hfault : (environments k).fault = none := h 0 (Nat.succ_pos _)
    have hrespond : respondAt environments (w, k) (.transactPut (batch.map (inv.importItem library))) =
        (.ok (), { w with employees := putAll w.employees (batch.map (inv.importItem library)) }, k + 1) := by
      rw [respondAt, respond, hfault]
      rfl
    rw [Invocation.insertBatches, Program.run, hrespond]
    dsimp only
    rw [ih fun j hj => by rw [Nat.add_assoc, Nat.add_comm 1]; exact h (j + 1) (Nat.succ_lt_succ hj)]
    rw [List.flatten_cons, List.map_append, putAll_append, List.length_append, List.length_append, List.length_map,
      Nat.add_assoc, List.length_cons, Nat.add_assoc, Nat.add_comm 1]

/-- When a batch fails there is one entry, whatever becomes of the rows. -/
theorem run_insertBatches_refused {attempted : Nat} {rest : List (List (EmployeeRow × Nat))} {inserted : List String} {j : Nat}
    (hj : j < rest.length) (hfault : (environments (k + j)).fault ≠ none) {response : HttpResponse} {s : Session}
    (h : (inv.insertBatches library attempted rest inserted).run (respondAt environments) (w, k) = (.ok response, s)) :
    ∃ reason, response = Invocation.importAnswer 500 0 attempted [reason] := by
  induction rest generalizing inserted w k j with
  | nil => exact absurd hj (Nat.not_lt_zero j)
  | cons batch rest ih =>
    rw [Invocation.insertBatches, Program.run] at h
    cases hanswer : (respondAt environments (w, k) (.transactPut (batch.map (inv.importItem library)))).1 with
    | ok _ =>
      rw [hanswer] at h
      cases j with
      | zero =>
        obtain ⟨fault, hfault⟩ := Option.ne_none_iff_exists'.1 hfault
        rw [Nat.add_zero] at hfault
        rw [respondAt, respond] at hanswer
        dsimp only at hanswer
        rw [hfault] at hanswer
        cases hanswer
      | succ j =>
        refine ih (Nat.lt_of_succ_lt_succ hj) ?_ h
        rw [Nat.add_assoc, Nat.add_comm 1]
        exact hfault
    | error e =>
      rw [hanswer] at h
      cases e with
      | clientError code =>
        dsimp only at h
        rw [Program.run_bind] at h
        cases hrollback : (inv.rollbackInserted library inserted).run (respondAt environments)
            (respondAt environments (w, k) (.transactPut (batch.map (inv.importItem library)))).2 with
        | mk result s' =>
          rw [hrollback] at h
          cases result with
          | error e => cases h
          | ok _ =>
            cases h
            exact ⟨_, rfl⟩
      | _ => cases h

/-- The only batch of one row, when it fails. -/
theorem run_insertBatches_one {attempted : Nat} {row : EmployeeRow × Nat} {fault : Fault}
    (hfault : (environments k).fault = some fault) {response : HttpResponse} {s : Session}
    (h : (inv.insertBatches library attempted [[row]] []).run (respondAt environments) (w, k) = (.ok response, s)) :
    s.1 = if fault.applied then { w with employees := putAll w.employees [inv.importItem library row] } else w := by
  have hrespond : respondAt environments (w, k) (.transactPut [inv.importItem library row]) = (.error fault.error,
      if fault.applied then { w with employees := putAll w.employees [inv.importItem library row] } else w, k + 1) := by
    rw [respondAt, respond, hfault]
    rfl
  rw [Invocation.insertBatches, Program.run, List.map_singleton, hrespond] at h
  cases herror : fault.error with
  | clientError code =>
    rw [herror] at h
    cases h
    rfl
  | _ =>
    rw [herror] at h
    cases h

/-! ### The rows that are added -/

theorem added_self (w : World) : added w w = 0 := by
  rw [added, List.countP_eq_zero]
  intro id hid
  obtain ⟨item, hitem⟩ := Store.mem_keys_iff.1 hid
  rw [hitem]
  exact Bool.false_ne_true

theorem countP_keys_putAll {p : String → Bool} {items : List (String × EmployeeItem)}
    (hnew : ∀ item ∈ items, p item.1 = true) (hnodup : (items.map Prod.fst).Nodup) {employees : Store String EmployeeItem}
    (hunused : ∀ item ∈ items, employees.lookup item.1 = none) :
    (putAll employees items).keys.countP p = employees.keys.countP p + items.length := by
  induction items generalizing employees with
  | nil => rfl
  | cons item items ih =>
    rw [List.map_cons, List.nodup_cons] at hnodup
    have hnot : item.1 ∉ employees.keys := by
      rw [Store.mem_keys_iff, hunused item List.mem_cons_self]
      rintro ⟨row, hrow⟩
      cases hrow
    have hkeys : (employees.set item.1 (some item.2)).keys = item.1 :: employees.keys := by
      rw [Store.set, AList.keys_insert, List.erase_of_not_mem hnot]
    have hrest : ∀ other ∈ items, (employees.set item.1 (some item.2)).lookup other.1 = none := by
      intro other hother
      have hne : other.1 ≠ item.1 := fun heq => hnodup.1 (heq ▸ List.mem_map_of_mem hother)
      rw [Store.lookup_set_ne _ _ hne]
      exact hunused other (List.mem_cons_of_mem _ hother)
    show (putAll (employees.set item.1 (some item.2)) items).keys.countP p = _
    rw [ih (fun other hother => hnew other (List.mem_cons_of_mem _ hother)) hnodup.2 hrest, hkeys,
      List.countP_cons_of_pos (hnew item List.mem_cons_self), List.length_cons, Nat.add_right_comm, Nat.add_assoc]

theorem added_putAll {items : List (String × EmployeeItem)} (hnodup : (items.map Prod.fst).Nodup)
    (hunused : ∀ item ∈ items, w.employees.lookup item.1 = none) :
    added w { w with employees := putAll w.employees items } = items.length := by
  have hself := added_self w
  rw [added] at hself ⊢
  rw [countP_keys_putAll (fun item hitem => by rw [hunused item hitem]; rfl) hnodup hunused, hself, Nat.zero_add]

/-! ### The report -/

theorem addsUp_importAnswer {n statusCode imported attempted : Nat} {errors : List Value} {before after : World} :
    AddsUp n before after (Invocation.importAnswer statusCode imported attempted errors) ↔
      attempted = n ∧ imported = added before after ∧ added before after + errors.length = n := by
  have hattempted : (Invocation.importAnswer statusCode imported attempted errors).body.get? "attempted" =
      some (.int attempted) := rfl
  have himported : (Invocation.importAnswer statusCode imported attempted errors).body.get? "imported" =
      some (.int imported) := rfl
  have herrors : (Invocation.importAnswer statusCode imported attempted errors).body.get? "errors" =
      some (.list errors) := rfl
  constructor
  · rintro ⟨hn, hadded, errors', hlist, htotal⟩
    rw [hattempted, Option.some.injEq, Value.int.injEq, Int.natCast_inj] at hn
    rw [himported, Option.some.injEq, Value.int.injEq, Int.natCast_inj] at hadded
    rw [herrors, Option.some.injEq, Value.list.injEq] at hlist
    subst hlist
    exact ⟨hn, hadded, htotal⟩
  · rintro ⟨rfl, rfl, htotal⟩
    exact ⟨hattempted, himported, errors, herrors, htotal⟩

/-- Where nothing was added the entries are as many as the records. -/
theorem addsUp_nothing {n statusCode attempted : Nat} {errors : List Value} {w : World} :
    AddsUp n w w (Invocation.importAnswer statusCode 0 attempted errors) ↔ attempted = n ∧ errors.length = n := by
  rw [addsUp_importAnswer, added_self, Nat.zero_add]
  exact and_congr_right fun _ => and_iff_right rfl

/-- A file that passes the gate is parsed into its rows, or into an entry for each record that is not accepted. -/
theorem parse_of_acceptFile {file : File} (hgate : acceptFile file = true) :
    1 ≤ (dataOf file).length ∧
      (parseEmployeeCsv file).errors.length = (failingPlaces (dataOf file)).length ∧
      ((parseEmployeeCsv file).errors = [] →
        (dataOf file).map (fun record => rowOf? record.cells) = (parseEmployeeCsv file).rows.map some) ∧
      ((parseEmployeeCsv file).errors ≠ [] → (parseEmployeeCsv file).rows = []) := by
  rw [acceptFile] at hgate
  split at hgate
  · cases hgate
  · rename_i hsize
    split at hgate
    · cases hgate
    · rename_i text htext
      have hdata : dataOf file = dataRecords 2 text.records.tail := by rw [dataOf, htext]
      have hparse : parseEmployeeCsv file = parseRecords text := by rw [parseEmployeeCsv, if_neg hsize, htext]
      cases hrecords : text.records with
      | nil =>
        rw [acceptRecords, hrecords] at hgate
        cases hgate
      | cons header records =>
        obtain ⟨hheader, hlast⟩ := (acceptRecords_iff hrecords).1 hgate
        obtain ⟨hcount, -⟩ := lastEntry_eq_nil.1 hlast
        obtain ⟨scan, htracks, -, herrors, hrows⟩ := exists_parseRecords hrecords hheader
        rw [hdata, hparse, hrecords, List.tail_cons]
        rw [List.take_of_length_le hcount.2] at htracks
        rw [hlast, List.append_nil] at herrors
        have hplaces := htracks.errors
        refine ⟨hcount.1, ?_, fun hnone => ?_, fun hsome => ?_⟩
        · rw [herrors]
          exact hplaces.length_eq.symm
        · rw [hrows, if_pos hnone]
          rw [← herrors, hnone, List.forall₂_nil_right_iff] at hplaces
          exact htracks.rows_of_forall (failingPlaces_eq_nil.1 hplaces)
        · rw [hrows, if_neg hsome]

theorem length_failingPlaces_eq_iff {data : List DataRecord} :
    (failingPlaces data).length = data.length ↔ ∀ i, i < data.length → ¬ Accepted data i := by
  have hfilter := @List.length_filter_eq_length_iff _ (fun i => !decide (Accepted data i)) (List.range data.length)
  rw [List.length_range] at hfilter
  rw [failingPlaces, hfilter]
  simp

/-- Where every record is accepted its number is that of its row. -/
theorem numberAt?_of_rows {data : List DataRecord} {rows : List EmployeeRow}
    (hrows : data.map (fun record => rowOf? record.cells) = rows.map some) (i : Nat) :
    numberAt? data i = (rows.map EmployeeRow.phoneNumber)[i]? := by
  have hplace := congrArg (fun all => (all[i]?).join) hrows
  simp only [List.getElem?_map] at hplace
  rw [numberAt?, rowAt?, List.getElem?_map]
  cases hi : data[i]? with
  | none =>
    rw [hi] at hplace
    cases hrow : rows[i]? with
    | none => rfl
    | some row =>
      rw [hrow] at hplace
      cases hplace
  | some record =>
    rw [hi] at hplace
    cases hrow : rows[i]? with
    | none =>
      rw [hrow] at hplace
      exact congrArg (Option.map EmployeeRow.phoneNumber) hplace
    | some row =>
      rw [hrow] at hplace
      exact congrArg (Option.map EmployeeRow.phoneNumber) hplace

section

variable {data : List DataRecord} {rows : List EmployeeRow} {response : HttpResponse} {s : Session}

theorem length_batches {α : Type} (n : Nat) (xs : List α) : (batches n xs).length = (xs.length + n - 1) / n := by
  rw [batches, List.length_map, List.length_range]

theorem map_fst_importItems (rows : List EmployeeRow) :
    (rows.zipIdx.map (inv.importItem library)).map Prod.fst = (List.range rows.length).map inv.uuid := by
  rw [List.map_map, List.range_eq_range', ← List.zipIdx_map_snd 0 rows, List.map_map]
  rfl

/-- As many rows are added as are put under ids of their own. -/
theorem added_importItems (hids : ∀ i j, i < rows.length → j < rows.length → inv.uuid i = inv.uuid j → i = j)
    (hunused : ∀ i, i < rows.length → w.employees.lookup (inv.uuid i) = none) :
    added w { w with employees := putAll w.employees (rows.zipIdx.map (inv.importItem library)) } = rows.length := by
  rw [added_putAll, List.length_map, List.length_zipIdx]
  · rw [map_fst_importItems]
    refine List.nodup_range.map_on fun i hi j hj heq => ?_
    exact hids i j (List.mem_range.1 hi) (List.mem_range.1 hj) heq
  · intro item hitem
    have hfst : item.1 ∈ (rows.zipIdx.map (inv.importItem library)).map Prod.fst := List.mem_map_of_mem hitem
    rw [map_fst_importItems] at hfst
    obtain ⟨i, hi, heq⟩ := List.mem_map.1 hfst
    rw [← heq]
    exact hunused i (List.mem_range.1 hi)

/-- The report of an import none of whose numbers was found. -/
theorem addsUp_insertBatches (hcount : 1 ≤ rows.length)
    (hids : ∀ i j, i < rows.length → j < rows.length → inv.uuid i = inv.uuid j → i = j)
    (hunused : ∀ i, i < rows.length → w.employees.lookup (inv.uuid i) = none)
    (hrun : (inv.insertBatches library rows.length (batches transactMaxItems rows.zipIdx) []).run (respondAt environments)
      (w, rows.length) = (.ok response, s)) : AddsUp rows.length w s.1 response ↔
      (∀ k, k < (rows.length + transactMaxItems - 1) / transactMaxItems → (environments (rows.length + k)).fault = none) ∨
        (rows.length = 1 ∧ (environments 1).carriesOut = false) := by
  have hbatches : (batches transactMaxItems rows.zipIdx).length = (rows.length + transactMaxItems - 1) / transactMaxItems := by
    rw [length_batches, List.length_zipIdx]
  have hone : rows.length = 1 → ∀ fault, (environments 1).fault = some fault → added w s.1 = if fault.applied then 1 else 0 := by
    intro hone fault hfault
    obtain ⟨row, rfl⟩ := List.length_eq_one_iff.1 hone
    have hbatch : batches transactMaxItems [row].zipIdx = [[(row, 0)]] := by simp [batches, transactMaxItems]
    rw [hbatch, List.length_singleton] at hrun
    rw [run_insertBatches_one hfault hrun]
    split
    · exact added_importItems hids hunused
    · exact added_self w
  by_cases hwritten : ∀ k, k < (batches transactMaxItems rows.zipIdx).length → (environments (rows.length + k)).fault = none
  · rw [run_insertBatches_written _ hwritten, flatten_batches (by decide)] at hrun
    cases hrun
    rw [hbatches] at hwritten
    refine iff_of_true ?_ (.inl hwritten)
    rw [addsUp_importAnswer, added_importItems hids hunused, List.length_zipIdx, List.length_nil, Nat.zero_add]
    exact ⟨rfl, rfl, rfl⟩
  · have hrefused := hwritten
    rw [hbatches] at hwritten
    simp only [not_forall] at hrefused
    obtain ⟨k, hk, hfault⟩ := hrefused
    obtain ⟨reason, rfl⟩ := run_insertBatches_refused hk hfault hrun
    rw [addsUp_importAnswer, or_iff_right hwritten, List.length_singleton, Environment.carriesOut]
    constructor
    · rintro ⟨-, hadded, htotal⟩
      have hlength : rows.length = 1 := by omega
      refine ⟨hlength, ?_⟩
      rw [hbatches, hlength] at hk
      obtain rfl : k = 0 := Nat.lt_one_iff.1 hk
      rw [hlength] at hfault
      obtain ⟨fault, hfault⟩ := Option.ne_none_iff_exists'.1 hfault
      rw [hone hlength fault hfault] at hadded
      rw [hfault, Option.all_some]
      cases happlied : fault.applied with
      | true =>
        rw [happlied] at hadded
        cases hadded
      | false => rfl
    · rintro ⟨hlength, hnot⟩
      cases hfirst : (environments 1).fault with
      | none =>
        rw [hfirst] at hnot
        cases hnot
      | some fault =>
        rw [hfirst, Option.all_some] at hnot
        rw [hone hlength fault hfirst, hnot, hlength]
        exact ⟨rfl, rfl, rfl⟩

/-- The report of the rows of a file all of whose records are accepted. -/
theorem addsUp_importRows (hcount : 1 ≤ data.length) (hrecords : ∀ i, i < data.length → Accepted data i)
    (hrows : data.map (fun record => rowOf? record.cells) = rows.map some)
    (hnodup : (rows.map EmployeeRow.phoneNumber).Nodup)
    (hids : ∀ i j, i < data.length → j < data.length → inv.uuid i = inv.uuid j → i = j)
    (hunused : ∀ i, i < data.length → w.employees.lookup (inv.uuid i) = none)
    (hrun : (inv.importRows library rows).run (respondAt environments) (w, 0) = (.ok response, s)) :
    AddsUp data.length w s.1 response ↔ Alike library inv environments w data := by
  have hlength : data.length = rows.length := by simpa using congrArg List.length hrows
  have hnumbers := numberAt?_of_rows hrows
  have hsome : ¬ ∀ i, i < data.length → ¬ Accepted data i := fun hnone => hnone 0 hcount (hrecords 0 hcount)
  rw [Invocation.importRows, Program.run_bind] at hrun
  cases hfilter : (Program.filterList (inv.phoneAlreadyRegistered library) (rows.map EmployeeRow.phoneNumber)).run
      (respondAt environments) (w, 0) with
  | mk result s' =>
    rw [hfilter] at hrun
    cases result with
    | error e => cases hrun
    | ok duplicates =>
      obtain ⟨rfl, hsublist, hnil, hall⟩ := run_filterRegistered hfilter
      simp only [Nat.zero_add, ← hnumbers, List.length_map, ← hlength] at hnil hall
      by_cases hduplicates : duplicates = []
      · have hnew := hnil.1 hduplicates
        have hnotAll : ¬ ∀ i phone, numberAt? data i = some phone → Finds library inv w (environments i) phone := by
          rw [← hall, hduplicates, List.length_nil]
          omega
        dsimp only at hrun
        rw [if_neg (not_not.2 hduplicates), Nat.zero_add, List.length_map] at hrun
        rw [hlength] at hids hunused hcount
        rw [hlength, addsUp_insertBatches hcount hids hunused hrun, ← hlength]
        constructor
        · rintro (hwritten | ⟨hone, hrefused⟩)
          · exact .allStored hrecords hnew hwritten
          · exact .oneRefused hrecords hnew hone hrefused
        · intro halike
          cases halike with
          | noneAccepted hnone => exact absurd hnone hsome
          | allRegistered _ hfound => exact absurd hfound hnotAll
          | allStored _ _ hwritten => exact .inl hwritten
          | oneRefused _ _ hone hrefused => exact .inr ⟨hone, hrefused⟩
      · dsimp only at hrun
        rw [if_pos hduplicates] at hrun
        cases hrun
        have hsorted : (Invocation.sortedDuplicates duplicates).length = duplicates.length := by
          rw [Invocation.sortedDuplicates, List.length_mergeSort, List.dedup_eq_self.2 (hsublist.nodup hnodup)]
        rw [addsUp_nothing, List.length_map, hsorted, hall, and_iff_right hlength.symm]
        constructor
        · exact .allRegistered hrecords
        · intro halike
          cases halike with
          | noneAccepted hnone => exact absurd hnone hsome
          | allRegistered _ hfound => exact hfound
          | allStored _ hnew _ => exact absurd (hnil.2 hnew) hduplicates
          | oneRefused _ hnew _ _ => exact absurd (hnil.2 hnew) hduplicates

/-- The report of an import of a file that passes the gate adds up exactly when its records fare alike. -/
theorem addsUp_iff (library : Library) (inv : Invocation) (environments : Nat → Environment) (body : Value) (raw : String)
    (file : File) (hraw : (body.get? "csvBase64").bind Value.asStr? = some raw) (hnonempty : raw ≠ "")
    (hfile : library.decodeCsv raw = .ok file) (hgate : acceptFile file = true) (w : World)
    (hids : ∀ i j, i < (dataOf file).length → j < (dataOf file).length → inv.uuid i = inv.uuid j → i = j)
    (hunused : ∀ i, i < (dataOf file).length → w.employees.lookup (inv.uuid i) = none)
    (response : HttpResponse) (s : Session) (hrun : serve library inv environments body w = (.ok response, s)) :
    AddsUp (dataOf file).length w s.1 response ↔ Alike library inv environments w (dataOf file) := by
  obtain ⟨hcount, hfailing, hrows, hnorows⟩ := parse_of_acceptFile hgate
  have himport : inv.importCsv library body =
      if (parseEmployeeCsv file).errors ≠ [] then
        return Invocation.importAnswer 400 0 ((parseEmployeeCsv file).rows.length + (parseEmployeeCsv file).errors.length)
          ((parseEmployeeCsv file).errors.map fun e => .dict [("line", .int e.line), ("reason", .str e.reason)])
      else inv.importRows library (parseEmployeeCsv file).rows := by
    rw [Invocation.importCsv, hraw]
    split
    · rename_i heq
      cases heq
    · rename_i heq
      exact absurd (Option.some.inj heq) hnonempty
    · rename_i heq
      cases heq
      rw [hfile]
  rw [serve, himport] at hrun
  by_cases herrors : (parseEmployeeCsv file).errors = []
  · rw [if_neg (not_not.2 herrors)] at hrun
    rw [herrors, List.length_nil] at hfailing
    have hrecords := failingPlaces_eq_nil.1 (List.length_eq_zero_iff.1 hfailing.symm)
    exact addsUp_importRows hcount hrecords (hrows herrors) (goodRows_parseEmployeeCsv file).1 hids hunused hrun
  · rw [if_pos herrors, hnorows herrors, List.length_nil, Nat.zero_add] at hrun
    cases hrun
    have hsome : ¬ ∀ i, i < (dataOf file).length → Accepted (dataOf file) i := fun hall => by
      rw [failingPlaces_eq_nil.2 hall, List.length_nil, List.length_eq_zero_iff] at hfailing
      exact herrors hfailing
    rw [addsUp_nothing, List.length_map, hfailing, and_self, length_failingPlaces_eq_iff]
    constructor
    · exact .noneAccepted
    · intro halike
      cases halike with
      | noneAccepted hnone => exact hnone
      | allRegistered hrecords _ | allStored hrecords _ _ | oneRefused hrecords _ _ _ => exact absurd hrecords hsome

end

/-! ### Three files -/

def oneRow : File where
  size := 34
  text := some { records := [["name", "phoneNumber"], ["Sato", "09012345678"]] }

def twoRows : File where
  size := 49
  text := some { records := [["name", "phoneNumber"], ["Sato", "09012345678"], ["Ito", "0312345678"]] }

def goodAndBad : File where
  size := 46
  text := some { records := [["name", "phoneNumber"], ["Sato", "09012345678"], ["", "0312345678"]] }

def filesLibrary : Library where
  crypto := .marked
  decodeCsv raw :=
    if raw = "bmFtZSxwaG9uZU51bWJlcgpTYXRvLDA5MDEyMzQ1Njc4Cg==" then .ok oneRow
    else if raw = "bmFtZSxwaG9uZU51bWJlcgpTYXRvLDA5MDEyMzQ1Njc4Ckl0bywwMzEyMzQ1Njc4Cg==" then .ok twoRows
    else if raw = "bmFtZSxwaG9uZU51bWJlcgpTYXRvLDA5MDEyMzQ1Njc4CiwwMzEyMzQ1Njc4Cg==" then .ok goodAndBad
    else .error "Incorrect padding"
  anonymizeEmployeeId employeeId _ := employeeId

def importBody (raw : String) : Value := .dict [("csvBase64", .str raw)]

def importer : Invocation where
  event := { httpMethod := "POST", resource := "/employees/import" }
  uuid n := if n = 0 then "r0" else "r1"

theorem addsUp_oneRow : ∃ response s,
    serve filesLibrary importer (fun _ => {}) (importBody "bmFtZSxwaG9uZU51bWJlcgpTYXRvLDA5MDEyMzQ1Njc4Cg==") {} =
      (.ok response, s) ∧ AddsUp 1 {} s.1 response := by
  have hok : (serve filesLibrary importer (fun _ => {})
      (importBody "bmFtZSxwaG9uZU51bWJlcgpTYXRvLDA5MDEyMzQ1Njc4Cg==") {}).1.isOk = true := by decide +kernel
  cases hrun : serve filesLibrary importer (fun _ => {})
      (importBody "bmFtZSxwaG9uZU51bWJlcgpTYXRvLDA5MDEyMzQ1Njc4Cg==") {} with
  | mk result s =>
    rw [hrun] at hok
    cases result with
    | error e => cases hok
    | ok response =>
      refine ⟨response, s, rfl, ?_⟩
      refine (addsUp_iff filesLibrary importer (fun _ => {}) _ _ oneRow rfl (by decide) rfl (by decide +kernel) {} ?_ ?_
        response s hrun).2 (.allStored ?_ ?_ fun _ _ => rfl)
      · intro i j hi hj _
        have hlength : (dataOf oneRow).length = 1 := by decide +kernel
        omega
      · exact fun _ _ => rfl
      · decide +kernel
      · intro i phone _ hfound
        cases hfound

/-- What a report says was tried and was imported, and how many entries it has. -/
def reported (result : Except PyError HttpResponse) : Option (Int × Int × Nat) := do
  let response ← result.toOption
  let attempted ← (response.body.get? "attempted").bind Value.asInt?
  let imported ← (response.body.get? "imported").bind Value.asInt?
  match response.body.get? "errors" with
  | some (.list errors) => return (attempted, imported, errors.length)
  | _ => none

theorem exists_not_addsUp {result : Except PyError HttpResponse} {attempted imported : Int} {entries n : Nat}
    {before after : World} (h : reported result = some (attempted, imported, entries))
    (hcounts : attempted ≠ n ∨ imported + entries ≠ n) :
    ∃ response, result = .ok response ∧ ¬ AddsUp n before after response := by
  cases result with
  | error e => cases h
  | ok response =>
    refine ⟨response, rfl, ?_⟩
    rintro ⟨hattempted, himported, errors, herrors, htotal⟩
    rw [reported] at h
    simp only [Except.toOption, hattempted, himported, herrors, Option.bind_eq_bind, Option.bind_some, Value.asInt?,
      Option.pure_def, Option.some.injEq, Prod.mk.injEq] at h
    obtain ⟨rfl, rfl, rfl⟩ := h
    rcases hcounts with hn | hsum
    · exact hn rfl
    · exact hsum (by exact_mod_cast htotal)

/-- Of a good and a bad record only one was tried; of a registered and a new one only one has failed; and two records
that could not be written are one entry. -/
theorem not_addsUp :
    (acceptFile goodAndBad = true ∧ (dataOf goodAndBad).length = 2 ∧ acceptFile twoRows = true ∧
      (dataOf twoRows).length = 2) ∧
    (∃ response, (serve filesLibrary importer (fun _ => {})
        (importBody "bmFtZSxwaG9uZU51bWJlcgpTYXRvLDA5MDEyMzQ1Njc4CiwwMzEyMzQ1Njc4Cg==") {}).1 = .ok response ∧
      ¬ AddsUp 2 {} (serve filesLibrary importer (fun _ => {})
        (importBody "bmFtZSxwaG9uZU51bWJlcgpTYXRvLDA5MDEyMzQ1Njc4CiwwMzEyMzQ1Njc4Cg==") {}).2.1 response) ∧
    (∃ (w : World) (response : HttpResponse), (serve filesLibrary importer (fun _ => {})
        (importBody "bmFtZSxwaG9uZU51bWJlcgpTYXRvLDA5MDEyMzQ1Njc4Ckl0bywwMzEyMzQ1Njc4Cg==") w).1 = .ok response ∧
      ¬ AddsUp 2 w (serve filesLibrary importer (fun _ => {})
        (importBody "bmFtZSxwaG9uZU51bWJlcgpTYXRvLDA5MDEyMzQ1Njc4Ckl0bywwMzEyMzQ1Njc4Cg==") w).2.1 response) ∧
    ∃ (environments : Nat → Environment) (response : HttpResponse), (serve filesLibrary importer environments
        (importBody "bmFtZSxwaG9uZU51bWJlcgpTYXRvLDA5MDEyMzQ1Njc4Ckl0bywwMzEyMzQ1Njc4Cg==") {}).1 = .ok response ∧
      ¬ AddsUp 2 {} (serve filesLibrary importer environments
        (importBody "bmFtZSxwaG9uZU51bWJlcgpTYXRvLDA5MDEyMzQ1Njc4Ckl0bywwMzEyMzQ1Njc4Cg==") {}).2.1 response := by
  refine ⟨⟨by decide +kernel, by decide +kernel, by decide +kernel, by decide +kernel⟩, ?_, ?_, ?_⟩
  · exact @exists_not_addsUp _ 1 0 1 2 _ _ (by decide +kernel) (.inl (by decide))
  · refine ⟨{ employees := (∅ : Store String EmployeeItem).insert "e1" { phoneNumber := some "+81312345678" } }, ?_⟩
    exact @exists_not_addsUp _ 2 0 1 2 _ _ (by decide +kernel) (.inr (by decide))
  · refine ⟨fun k => if k = 2 then { fault := some ⟨.clientError "ThrottlingException", false⟩ } else {}, ?_⟩
    exact @exists_not_addsUp _ 2 0 1 2 _ _ (by decide +kernel) (.inr (by decide))

end ImportCounts

end EmployeeApi

end SafetyConfirmation
