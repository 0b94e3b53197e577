import SafetyConfirmation.Employee.Csv

/-!
# What an import reports

The rows and the entries that a file with the right header has to give, said of its data records and not of the loop over
them. `parse_employee_csv` gives these.
-/

namespace SafetyConfirmation

namespace EmployeeCsv

open Employee

structure DataRecord where
  line : Nat
  cells : List String
  deriving DecidableEq

/-- The records that are not blank, from a line on. -/
def dataRecords : Nat → List (List String) → List DataRecord
  | _, [] => []
  | line, record :: rest =>
    if isBlank record then dataRecords (line + 1) rest
    else { line, cells := record } :: dataRecords (line + 1) rest

/-- The row of two cells that pass their checks. -/
def rowOf? : List String → Option EmployeeRow
  | [nameCell, phoneCell] =>
    if isValidName (.str (stripped nameCell)) && isValidDomesticJp (.str (stripped phoneCell)) then
      some { name := stripped nameCell, phoneNumber := domesticToE164 (stripped phoneCell) }
    else none
  | _ => none

section

variable (data : List DataRecord)

def rowAt? (i : Nat) : Option EmployeeRow := data[i]?.bind fun record => rowOf? record.cells

def numberAt? (i : Nat) : Option String := (rowAt? data i).map EmployeeRow.phoneNumber

/-- The record passes its checks, and its number is not that of an earlier accepted one. -/
def Accepted (i : Nat) : Prop :=
  ∃ number, numberAt? data i = some number ∧ ∀ j, j < i → Accepted j → numberAt? data j ≠ some number
termination_by i

/-- What is wrong with a record, by the first check that it fails. -/
inductive Fault (i : Nat) : CsvParseError → Prop where
  | columns {record : DataRecord} (hrecord : data[i]? = some record) (hcells : record.cells.length ≠ 2) :
      Fault i { line := record.line, reason := "Expected 2 columns, got " ++ toString record.cells.length }
  | name {line : Nat} {nameCell phoneCell : String} (hrecord : data[i]? = some { line, cells := [nameCell, phoneCell] })
      (hname : isValidName (.str (stripped nameCell)) = false) :
      Fault i { line, reason := "Name is empty or exceeds 100 chars" }
  | phone {line : Nat} {nameCell phoneCell : String} (hrecord : data[i]? = some { line, cells := [nameCell, phoneCell] })
      (hname : isValidName (.str (stripped nameCell)) = true)
      (hphone : isValidDomesticJp (.str (stripped phoneCell)) = false) :
      Fault i { line, reason := "Phone not in domestic JP format (0 + 9-10 digits): " ++ stripped phoneCell }
  | duplicate {line : Nat} {nameCell phoneCell : String}
      (hrecord : data[i]? = some { line, cells := [nameCell, phoneCell] }) {number : String}
      (hnumber : numberAt? data i = some number) {j : Nat} (hj : j < i) (haccepted : Accepted data j)
      (hsame : numberAt? data j = some number) {first : DataRecord} (hfirst : data[j]? = some first) :
      Fault i { line, reason := "Phone duplicates line " ++ toString first.line ++ ": " ++ stripped phoneCell }

end

/-! ### Accepted records -/

variable {data more : List DataRecord} {i : Nat}

/-- A number is that of an accepted record where it is that of any. -/
theorem exists_accepted {number : String} (hnumber : numberAt? data i = some number) :
    ∃ j, j ≤ i ∧ Accepted data j ∧ numberAt? data j = some number := by
  by_cases haccepted : Accepted data i
  · exact ⟨i, Nat.le_refl i, haccepted, hnumber⟩
  · have hearlier : ∃ j, j < i ∧ Accepted data j ∧ numberAt? data j = some number := by
      by_contra hnone
      refine haccepted ?_
      rw [Accepted]
      exact ⟨number, hnumber, fun j hj hacceptedj hsame => hnone ⟨j, hj, hacceptedj, hsame⟩⟩
    obtain ⟨j, hj, hrest⟩ := hearlier
    exact ⟨j, Nat.le_of_lt hj, hrest⟩

/-- What is accepted is the first record with its number. -/
theorem accepted_iff : Accepted data i ↔
    ∃ number, numberAt? data i = some number ∧ ∀ j, j < i → numberAt? data j ≠ some number := by
  rw [Accepted]
  constructor
  · rintro ⟨number, hnumber, hearlier⟩
    refine ⟨number, hnumber, fun j hj hsame => ?_⟩
    obtain ⟨k, hk, haccepted, hsame'⟩ := exists_accepted hsame
    exact hearlier k (Nat.lt_of_le_of_lt hk hj) haccepted hsame'
  · rintro ⟨number, hnumber, hearlier⟩
    exact ⟨number, hnumber, fun j hj _ => hearlier j hj⟩

instance : DecidablePred (Accepted data) := fun i =>
  decidable_of_iff ((numberAt? data i).any fun number => (List.range i).all fun j => numberAt? data j != some number) (by
    rw [accepted_iff, Option.any_eq_true]
    simp)

theorem rowAt?_append (hi : i < data.length) : rowAt? (data ++ more) i = rowAt? data i := by
  rw [rowAt?, List.getElem?_append_left hi, rowAt?]

theorem numberAt?_append (hi : i < data.length) : numberAt? (data ++ more) i = numberAt? data i := by
  rw [numberAt?, rowAt?_append hi, numberAt?]

theorem accepted_append (hi : i < data.length) : Accepted (data ++ more) i ↔ Accepted data i := by
  have hearlier : ∀ {number : String}, (∀ j, j < i → numberAt? (data ++ more) j ≠ some number) ↔
      ∀ j, j < i → numberAt? data j ≠ some number :=
    forall_congr' fun j => imp_congr_right fun hj => by rw [numberAt?_append (Nat.lt_trans hj hi)]
  simp only [accepted_iff, numberAt?_append hi, hearlier]

theorem lt_of_getElem?_eq_some {record : DataRecord} (h : data[i]? = some record) : i < data.length :=
  (List.getElem?_eq_some_iff.1 h).1

theorem Fault.append {e : CsvParseError} (h : Fault data i e) : Fault (data ++ more) i e := by
  have hrow : ∀ {j : Nat} {record : DataRecord}, data[j]? = some record → (data ++ more)[j]? = some record := by
    intro j record hrecord
    rw [List.getElem?_append_left (lt_of_getElem?_eq_some hrecord), hrecord]
  cases h with
  | columns hrecord hcells => exact .columns (hrow hrecord) hcells
  | name hrecord hname => exact .name (hrow hrecord) hname
  | phone hrecord hname hphone => exact .phone (hrow hrecord) hname hphone
  | duplicate hrecord hnumber hj haccepted hsame hfirst =>
    have hi := lt_of_getElem?_eq_some hrecord
    have hj' := lt_of_getElem?_eq_some hfirst
    have hnumber' := (@numberAt?_append data more i hi).trans hnumber
    have hsame' := (@numberAt?_append data more _ hj').trans hsame
    exact .duplicate (hrow hrecord) hnumber' hj ((accepted_append hj').2 haccepted) hsame' (hrow hfirst)

/-- A record has an entry only if it is not accepted. -/
theorem Fault.not_accepted {e : CsvParseError} (h : Fault data i e) : ¬ Accepted data i := by
  rw [accepted_iff]
  rintro ⟨number, hnumber, hearlier⟩
  cases h with
  | columns hrecord hcells =>
    rename_i record
    have hnone : rowOf? record.cells = none := by
      unfold rowOf?
      split
      · rename_i heq
        rw [heq] at hcells
        exact absurd rfl hcells
      · rfl
    simp [numberAt?, rowAt?, hrecord, hnone] at hnumber
  | name hrecord hname => simp [numberAt?, rowAt?, hrecord, rowOf?, hname] at hnumber
  | phone hrecord hname hphone =>
    rw [isValidDomesticJp_str] at hphone
    simp [numberAt?, rowAt?, hrecord, rowOf?, hphone] at hnumber
  | duplicate hrecord hnumber' hj haccepted hsame hfirst =>
    rw [hnumber] at hnumber'
    cases hnumber'
    exact hearlier _ hj hsame

/-! ### The report -/

/-- The places of the records that are accepted, in order. -/
def acceptedPlaces (data : List DataRecord) : List Nat := (List.range data.length).filter fun i => decide (Accepted data i)

/-- The places of the records that are not. -/
def failingPlaces (data : List DataRecord) : List Nat := (List.range data.length).filter fun i => !decide (Accepted data i)

/-- The entry of what ends the loop early: the record that is one too many, or the `csv.Error` before it. -/
def unfinished (error : Option String) (data : List DataRecord) : List CsvParseError :=
  match data[maxDataRows]? with
  | some record => [{ line := record.line, reason := "Exceeds " ++ toString maxDataRows ++ " data rows" }]
  | none => error.toList.map fun message => { line := 0, reason := "CSV parse error: " ++ message }

/-- The last entry, which a file that ends after its header has, too. -/
def lastEntry (error : Option String) (data : List DataRecord) : List CsvParseError :=
  if data = [] ∧ error = none then [{ line := 0, reason := "No data rows" }] else unfinished error data

/-- All the records of the file can be imported, as these rows. -/
structure GoodFile (text : Records) (data : List DataRecord) (rows : List EmployeeRow) : Prop where
  count : 1 ≤ data.length ∧ data.length ≤ maxDataRows
  noError : text.error = none
  cells : data.map (fun record => rowOf? record.cells) = rows.map some
  distinct : (rows.map EmployeeRow.phoneNumber).Nodup

/-- All the rows and no entry, or no row and one entry for each failing record that was read, then the last one. -/
structure Reports (text : Records) (data : List DataRecord) (result : CsvParseResult) : Prop where
  good : ∀ rows, GoodFile text data rows → result = { rows }
  bad : (¬ ∃ rows, GoodFile text data rows) → result.rows = [] ∧ result.errors ≠ [] ∧
    ∃ entries, List.Forall₂ (Fault data) (failingPlaces (data.take maxDataRows)) entries ∧
      result.errors = entries ++ lastEntry text.error data

/-! ### The loop -/

/-- The entry of the number of an accepted record in `seen_phones`. -/
def seenAt? (data : List DataRecord) (i : Nat) : Option (String × Nat) := do
  let record ← data[i]?
  let number ← numberAt? data i
  return (number, record.line)

/-- The loop has read these data records. -/
structure Tracks (scan : Scan) (data : List DataRecord) : Prop where
  count : scan.dataRowCount = data.length
  rows : scan.rows.map some = (acceptedPlaces data).map (rowAt? data)
  seen : scan.seenPhones.map some = (acceptedPlaces data).map (seenAt? data)
  errors : List.Forall₂ (Fault data) (failingPlaces data) scan.errors

theorem tracks_nil : Tracks {} [] := ⟨rfl, rfl, rfl, .nil⟩

variable {added : DataRecord}

theorem filter_range_succ {p q : Nat → Bool} {n : Nat} (h : ∀ i, i < n → p i = q i) :
    (List.range (n + 1)).filter p = (List.range n).filter q ++ [n].filter p := by
  rw [List.range_succ, List.filter_append, List.filter_congr fun i hi => h i (List.mem_range.1 hi)]

theorem acceptedPlaces_append : acceptedPlaces (data ++ [added]) =
    acceptedPlaces data ++ if Accepted (data ++ [added]) data.length then [data.length] else [] := by
  have hsame : ∀ i, i < data.length → decide (Accepted (data ++ [added]) i) = decide (Accepted data i) :=
    fun i hi => decide_eq_decide.2 (accepted_append hi)
  rw [acceptedPlaces, List.length_append, List.length_singleton, filter_range_succ hsame, acceptedPlaces]
  simp [List.filter_singleton]

theorem failingPlaces_append : failingPlaces (data ++ [added]) =
    failingPlaces data ++ if Accepted (data ++ [added]) data.length then [] else [data.length] := by
  have hsame : ∀ i, i < data.length → (!decide (Accepted (data ++ [added]) i)) = !decide (Accepted data i) :=
    fun i hi => congrArg _ (decide_eq_decide.2 (accepted_append hi))
  rw [failingPlaces, List.length_append, List.length_singleton, filter_range_succ hsame, failingPlaces]
  simp [List.filter_singleton]

theorem lt_of_mem_acceptedPlaces (hi : i ∈ acceptedPlaces data) : i < data.length :=
  List.mem_range.1 (List.mem_filter.1 hi).1

theorem seenAt?_append (hi : i < data.length) : seenAt? (data ++ more) i = seenAt? data i := by
  rw [seenAt?, List.getElem?_append_left hi, numberAt?_append hi, seenAt?]

theorem map_rowAt?_append : (acceptedPlaces data).map (rowAt? (data ++ more)) = (acceptedPlaces data).map (rowAt? data) :=
  List.map_congr_left fun _ hi => rowAt?_append (lt_of_mem_acceptedPlaces hi)

theorem map_seenAt?_append : (acceptedPlaces data).map (seenAt? (data ++ more)) = (acceptedPlaces data).map (seenAt? data) :=
  List.map_congr_left fun _ hi => seenAt?_append (lt_of_mem_acceptedPlaces hi)

theorem forall₂_fault_append {places : List Nat} {errors : List CsvParseError} (h : List.Forall₂ (Fault data) places errors) :
    List.Forall₂ (Fault (data ++ more)) places errors :=
  h.imp fun _ _ hfault => hfault.append

variable {scan : Scan}

theorem Tracks.fail (h : Tracks scan data) {line : Nat} {reason : String}
    (hfault : Fault (data ++ [added]) data.length { line, reason }) :
    Tracks (Scan.fail { scan with dataRowCount := scan.dataRowCount + 1 } line reason) (data ++ [added]) := by
  have hplaces : acceptedPlaces (data ++ [added]) = acceptedPlaces data := by
    rw [acceptedPlaces_append, if_neg hfault.not_accepted, List.append_nil]
  refine ⟨?_, ?_, ?_, ?_⟩
  · rw [List.length_append, List.length_singleton, ← h.count]
    rfl
  · rw [hplaces, map_rowAt?_append]
    exact h.rows
  · rw [hplaces, map_seenAt?_append]
    exact h.seen
  · rw [failingPlaces_append, if_neg hfault.not_accepted]
    exact List.rel_append (forall₂_fault_append h.errors) (.cons hfault .nil)

theorem rowAt?_length : rowAt? (data ++ [added]) data.length = rowOf? added.cells := by
  simp [rowAt?]

/-- A number has been seen where it is that of an accepted record. -/
theorem Tracks.mem_seen (h : Tracks scan data) {number : String} {line : Nat} :
    (number, line) ∈ scan.seenPhones ↔ ∃ j first, Accepted data j ∧ numberAt? data j = some number ∧
      data[j]? = some first ∧ first.line = line := by
  have hmem : (number, line) ∈ scan.seenPhones ↔ some (number, line) ∈ scan.seenPhones.map some := by simp
  rw [hmem, h.seen, List.mem_map]
  constructor
  · rintro ⟨j, hj, hseen⟩
    obtain ⟨first, hfirst, hseen⟩ := Option.bind_eq_some_iff.1 hseen
    obtain ⟨number', hnumber, hseen⟩ := Option.bind_eq_some_iff.1 hseen
    cases hseen
    exact ⟨j, first, of_decide_eq_true (List.mem_filter.1 hj).2, hnumber, hfirst, rfl⟩
  · rintro ⟨j, first, haccepted, hnumber, hfirst, rfl⟩
    have hj := lt_of_getElem?_eq_some hfirst
    refine ⟨j, List.mem_filter.2 ⟨List.mem_range.2 hj, decide_eq_true haccepted⟩, ?_⟩
    rw [seenAt?, hfirst, hnumber]
    rfl

theorem Tracks.accept (h : Tracks scan data) {line : Nat} {nameCell phoneCell : String} {row : EmployeeRow}
    (hrow : rowOf? [nameCell, phoneCell] = some row) :
    Tracks (Scan.accept { scan with dataRowCount := scan.dataRowCount + 1 } line row (stripped phoneCell))
      (data ++ [{ line, cells := [nameCell, phoneCell] }]) := by
  have hnew : rowAt? (data ++ [{ line, cells := [nameCell, phoneCell] }]) data.length = some row := rowAt?_length.trans hrow
  have hnumber : numberAt? (data ++ [{ line, cells := [nameCell, phoneCell] }]) data.length = some row.phoneNumber := by
    rw [numberAt?, hnew]
    rfl
  have hrecord : (data ++ [{ line, cells := [nameCell, phoneCell] }])[data.length]? =
      some { line, cells := [nameCell, phoneCell] } := by simp
  rw [Scan.accept]
  split
  · rename_i first hlookup
    obtain ⟨before, after, hseen, -⟩ := List.lookup_eq_some_iff.1 hlookup
    have hmem : (row.phoneNumber, first) ∈ scan.seenPhones := hseen ▸ List.mem_append_right before List.mem_cons_self
    obtain ⟨j, record, haccepted, hsame, hfirst, rfl⟩ := h.mem_seen.1 hmem
    have hj := lt_of_getElem?_eq_some hfirst
    refine h.fail (.duplicate hrecord hnumber hj ((accepted_append hj).2 haccepted) ?_ ?_)
    · rw [numberAt?_append hj, hsame]
    · rw [List.getElem?_append_left hj, hfirst]
  · rename_i hlookup
    have haccepted : Accepted (data ++ [{ line, cells := [nameCell, phoneCell] }]) data.length := by
      rw [accepted_iff]
      refine ⟨row.phoneNumber, hnumber, fun j hj hsame => ?_⟩
      rw [numberAt?_append hj] at hsame
      obtain ⟨k, hk, haccepted, hsame⟩ := exists_accepted hsame
      obtain ⟨first, hfirst⟩ : ∃ first, data[k]? = some first := ⟨_, List.getElem?_eq_getElem (by omega)⟩
      have hseen := h.mem_seen.2 ⟨k, first, haccepted, hsame, hfirst, rfl⟩
      have hne := List.lookup_eq_none_iff.1 hlookup _ hseen
      simp at hne
    refine ⟨?_, ?_, ?_, ?_⟩
    · rw [List.length_append, List.length_singleton, ← h.count]
    · rw [acceptedPlaces_append, if_pos haccepted, List.map_append, List.map_append, map_rowAt?_append, h.rows]
      rw [List.map_singleton, List.map_singleton, hnew]
    · rw [acceptedPlaces_append, if_pos haccepted, List.map_append, List.map_append, map_seenAt?_append, h.seen]
      rw [List.map_singleton, List.map_singleton, seenAt?, hrecord, hnumber]
      rfl
    · rw [failingPlaces_append, if_pos haccepted, List.append_nil]
      exact forall₂_fault_append h.errors

theorem Tracks.record (h : Tracks scan data) (line : Nat) (cells : List String) :
    Tracks (Scan.record { scan with dataRowCount := scan.dataRowCount + 1 } line cells) (data ++ [⟨line, cells⟩]) := by
  have hrecord : (data ++ [⟨line, cells⟩])[data.length]? = some ⟨line, cells⟩ := by simp
  unfold Scan.record
  split
  · split
    · rename_i hname
      exact h.fail (.name hrecord (by simpa using hname))
    · split
      · rename_i hname hphone
        exact h.fail (.phone hrecord (by simpa using hname) (by simpa using hphone))
      · rename_i hname hphone
        refine h.accept ?_
        rw [Bool.not_eq_true, Bool.not_eq_false'] at hname hphone
        rw [rowOf?, hname, hphone]
        rfl
  · rename_i hcells
    refine h.fail (.columns hrecord fun hlength => ?_)
    obtain ⟨nameCell, phoneCell, heq⟩ := List.length_eq_two.1 hlength
    exact hcells nameCell phoneCell heq

theorem unfinished_of_length_le (h : data.length ≤ maxDataRows) : unfinished none data = [] := by
  rw [unfinished, List.getElem?_eq_none h]
  rfl

theorem unfinished_eq_nil {error : Option String} (h : unfinished error data = []) : data.length ≤ maxDataRows ∧ error = none := by
  rw [unfinished] at h
  split at h
  · cases h
  · rename_i hnone
    rw [List.map_eq_nil_iff, Option.toList_eq_nil_iff] at h
    exact ⟨List.getElem?_eq_none_iff.1 hnone, h⟩

/-- The loop reads the first 300 data records, and stops at the next one. -/
theorem Tracks.records (h : Tracks scan data) (hlength : data.length ≤ maxDataRows) (line : Nat)
    (records : List (List String)) : ∃ scan', Tracks scan' ((data ++ dataRecords line records).take maxDataRows) ∧
      (scan.records line records).rows = scan'.rows ∧
      (scan.records line records).errors = scan'.errors ++ unfinished none (data ++ dataRecords line records) := by
  induction records generalizing scan data line with
  | nil =>
    refine ⟨scan, ?_, rfl, ?_⟩
    · rw [dataRecords, List.append_nil, List.take_of_length_le hlength]
      exact h
    · rw [dataRecords, List.append_nil, unfinished_of_length_le hlength, List.append_nil]
      rfl
  | cons cells rest ih =>
    rw [dataRecords, Scan.records]
    split
    · exact ih h hlength (line + 1)
    · dsimp only
      split
      · rename_i hover
        have hfull : data.length = maxDataRows := by
          rw [h.count] at hover
          omega
        refine ⟨scan, ?_, rfl, ?_⟩
        · rw [← hfull, List.take_left]
          exact h
        · rw [unfinished, ← hfull]
          simp [Scan.fail]
      · rename_i hunder
        have hroom : (data ++ [(⟨line, cells⟩ : DataRecord)]).length ≤ maxDataRows := by
          rw [List.length_append, List.length_singleton]
          rw [h.count] at hunder
          omega
        have hnext := ih (h.record line cells) hroom (line + 1)
        rw [List.append_assoc] at hnext
        exact hnext

theorem exists_tracks (records : List (List String)) : ∃ scan, Tracks scan ((dataRecords 2 records).take maxDataRows) ∧
    (Scan.records {} 2 records).rows = scan.rows ∧
    (Scan.records {} 2 records).errors = scan.errors ++ unfinished none (dataRecords 2 records) :=
  tracks_nil.records (Nat.zero_le _) 2 records

theorem length_dataRecords (line : Nat) (records : List (List String)) :
    (dataRecords line records).length = (records.filter fun record => !isBlank record).length := by
  induction records generalizing line with
  | nil => rfl
  | cons record rest ih =>
    rw [dataRecords, List.filter_cons]
    cases hblank : isBlank record with
    | true => exact ih (line + 1)
    | false => exact congrArg (· + 1) (ih (line + 1))

theorem mem_dataRecords {line : Nat} {records : List (List String)} {record : DataRecord}
    (h : record ∈ dataRecords line records) : record.cells ∈ records := by
  induction records generalizing line with
  | nil => cases h
  | cons cells rest ih =>
    rw [dataRecords] at h
    split at h
    · exact List.mem_cons_of_mem _ (ih h)
    · rcases List.mem_cons.1 h with rfl | h
      · exact List.mem_cons_self
      · exact List.mem_cons_of_mem _ (ih h)

/-- The rows of a file are those of records of its text. -/
theorem exists_record_of_mem {file : File} {row : EmployeeRow} (h : row ∈ (parseEmployeeCsv file).rows) :
    ∃ text cells, file.text = some text ∧ cells ∈ text.records ∧ rowOf? cells = some row := by
  rw [parseEmployeeCsv] at h
  split at h
  · exact (List.not_mem_nil h).elim
  · split at h
    · exact (List.not_mem_nil h).elim
    · rename_i text htext
      rw [parseRecords] at h
      split at h
      · split at h <;> exact (List.not_mem_nil h).elim
      · rename_i header records hrecords
        split at h
        · exact (List.not_mem_nil h).elim
        · split at h
          · exact (List.not_mem_nil h).elim
          · split at h
            · exact (List.not_mem_nil h).elim
            · obtain ⟨scan, htracks, hrows, -⟩ := exists_tracks records
              have hmem : some row ∈ scan.rows.map some := List.mem_map_of_mem (hrows ▸ h)
              rw [htracks.rows] at hmem
              obtain ⟨i, -, hrow⟩ := List.mem_map.1 hmem
              obtain ⟨record, hrecord, hcells⟩ := Option.bind_eq_some_iff.1 hrow
              refine ⟨text, record.cells, htext, ?_, hcells⟩
              rw [hrecords]
              exact List.mem_cons_of_mem _ (mem_dataRecords (List.mem_of_mem_take (List.mem_of_getElem? hrecord)))

/-! ### What is reported -/

theorem problems_eq (text : Records) (records : List (List String)) : ∃ scan,
    Tracks scan ((dataRecords 2 records).take maxDataRows) ∧ (Scan.records {} 2 records).rows = scan.rows ∧
      problems text records = scan.errors ++ unfinished text.error (dataRecords 2 records) := by
  obtain ⟨scan, htracks, hrows, herrors⟩ := exists_tracks records
  refine ⟨scan, htracks, hrows, ?_⟩
  rw [problems, herrors, List.append_assoc, readsToTheEnd, ← length_dataRecords 2]
  congr 1
  rw [unfinished, unfinished]
  cases hover : (dataRecords 2 records)[maxDataRows]? with
  | some record =>
    have hlength : ¬ (dataRecords 2 records).length ≤ maxDataRows := Nat.not_le.2 (lt_of_getElem?_eq_some hover)
    cases text.error <;> simp [hlength]
  | none =>
    have hlength := List.getElem?_eq_none_iff.1 hover
    cases text.error <;> simp [hlength]

theorem failingPlaces_eq_nil : failingPlaces data = [] ↔ ∀ i, i < data.length → Accepted data i := by
  simp [failingPlaces, List.filter_eq_nil_iff]

theorem map_rowAt?_range : (List.range data.length).map (rowAt? data) = data.map fun record => rowOf? record.cells := by
  refine List.ext_getElem (by simp) fun i hi hi' => ?_
  rw [List.length_map, List.length_range] at hi
  simp [rowAt?, hi]

theorem acceptedPlaces_of_forall (h : ∀ i, i < data.length → Accepted data i) :
    acceptedPlaces data = List.range data.length :=
  List.filter_eq_self.2 fun i hi => decide_eq_true (h i (List.mem_range.1 hi))

/-- When all the records are accepted, their rows are those of the loop. -/
theorem Tracks.rows_of_forall (h : Tracks scan data) (hall : ∀ i, i < data.length → Accepted data i) :
    data.map (fun record => rowOf? record.cells) = scan.rows.map some := by
  rw [h.rows, acceptedPlaces_of_forall hall, map_rowAt?_range]

theorem GoodFile.accepted {text : Records} {rows : List EmployeeRow} (h : GoodFile text data rows) (hi : i < data.length) :
    Accepted data i := by
  have hrow : ∀ j, rowAt? data j = rows[j]? := by
    intro j
    have hcells := congrArg (fun all => (all[j]?).join) h.cells
    simp only [List.getElem?_map] at hcells
    rw [rowAt?]
    cases hj : data[j]? with
    | none =>
      rw [hj] at hcells
      cases hrow : rows[j]? with
      | none => rfl
      | some row =>
        rw [hrow] at hcells
        cases hcells
    | some record =>
      rw [hj] at hcells
      cases hrow : rows[j]? with
      | none =>
        rw [hrow] at hcells
        exact hcells
      | some row =>
        rw [hrow] at hcells
        exact hcells
  have hlength : data.length = rows.length := by simpa using congrArg List.length h.cells
  have hnumber : ∀ j, numberAt? data j = (rows.map EmployeeRow.phoneNumber)[j]? := by
    intro j
    rw [numberAt?, hrow, List.getElem?_map]
  rw [accepted_iff]
  have hi' : i < (rows.map EmployeeRow.phoneNumber).length := by rwa [List.length_map, ← hlength]
  refine ⟨_, (hnumber i).trans (List.getElem?_eq_getElem hi'), fun j hj hsame => ?_⟩
  rw [hnumber, ← List.getElem?_eq_getElem hi'] at hsame
  exact Nat.ne_of_lt hj ((List.getElem?_inj (Nat.lt_trans hj hi') h.distinct).1 hsame)

theorem lastEntry_eq_nil {error : Option String} :
    lastEntry error data = [] ↔ (1 ≤ data.length ∧ data.length ≤ maxDataRows) ∧ error = none := by
  rw [lastEntry]
  split
  · rename_i hempty
    refine iff_of_false (List.cons_ne_nil _ _) ?_
    rintro ⟨⟨hlength, -⟩, -⟩
    rw [hempty.1] at hlength
    exact Nat.not_succ_le_zero 0 hlength
  · rename_i hnonempty
    constructor
    · intro hend
      obtain ⟨hlength, rfl⟩ := unfinished_eq_nil hend
      exact ⟨⟨List.length_pos_iff.2 fun hnil => hnonempty ⟨hnil, rfl⟩, hlength⟩, rfl⟩
    · rintro ⟨⟨-, hlength⟩, rfl⟩
      exact unfinished_of_length_le hlength

/-- The loop over the records of a file with the right header, and what the file is parsed as. -/
theorem exists_parseRecords {text : Records} {header : List String} {records : List (List String)}
    (hrecords : text.records = header :: records) (hheader : header.map stripped = requiredHeaders) : ∃ scan,
    Tracks scan ((dataRecords 2 records).take maxDataRows) ∧ (Scan.records {} 2 records).rows = scan.rows ∧
      (parseRecords text).errors = scan.errors ++ lastEntry text.error (dataRecords 2 records) ∧
      (parseRecords text).rows = if (parseRecords text).errors = [] then scan.rows else [] := by
  obtain ⟨scan, htracks, hrows, hproblems⟩ := problems_eq text records
  refine ⟨scan, htracks, hrows, ?_⟩
  have hparse : parseRecords text = if problems text records ≠ [] then { errors := problems text records }
      else if (Scan.records {} 2 records).rows = [] then fileError "No data rows"
      else { rows := (Scan.records {} 2 records).rows } := by
    rw [parseRecords, hrecords]
    dsimp only
    rw [if_neg (not_not.2 hheader)]
  rw [hparse, hproblems, hrows]
  generalize dataRecords 2 records = data at *
  by_cases hproblem : scan.errors ++ unfinished text.error data = []
  · obtain ⟨herrors, hend⟩ := List.append_eq_nil_iff.1 hproblem
    obtain ⟨hlength, hnoError⟩ := unfinished_eq_nil hend
    rw [List.take_of_length_le hlength] at htracks
    have hplaces := htracks.errors
    rw [herrors, List.forall₂_nil_right_iff] at hplaces
    have hcells := htracks.rows_of_forall (failingPlaces_eq_nil.1 hplaces)
    rw [if_neg (not_not.2 hproblem), herrors, List.nil_append]
    cases hdata : data with
    | nil =>
      have hnorows : scan.rows = [] := by simpa [hdata] using hcells.symm
      rw [if_pos hnorows, lastEntry, if_pos ⟨rfl, hnoError⟩]
      exact ⟨rfl, rfl⟩
    | cons record rest =>
      have hsome : scan.rows ≠ [] := by
        rintro hnone
        rw [hnone, hdata] at hcells
        cases hcells
      have hlast : lastEntry text.error (record :: rest) = [] :=
        lastEntry_eq_nil.2 ⟨⟨Nat.le_add_left 1 rest.length, hdata ▸ hlength⟩, hnoError⟩
      rw [if_neg hsome, hlast]
      exact ⟨rfl, rfl⟩
  · rw [if_pos hproblem]
    have hlast : lastEntry text.error data = unfinished text.error data := by
      refine if_neg ?_
      rintro ⟨rfl, hnoError⟩
      refine hproblem ?_
      have hnone : scan.errors = [] := List.forall₂_nil_left_iff.1 htracks.errors
      rw [hnone, hnoError]
      rfl
    rw [hlast, if_neg hproblem]
    exact ⟨rfl, rfl⟩

/-- A file of at most 1 MiB that is UTF-8 and has the header is imported as a whole, or reported record by record. -/
theorem reports_parseEmployeeCsv (file : File) (hsize : file.size ≤ maxBytes) (text : Records)
    (htext : file.text = some text) (header : List String) (records : List (List String))
    (hrecords : text.records = header :: records) (hheader : header.map stripped = requiredHeaders) :
    Reports text (dataRecords 2 records) (parseEmployeeCsv file) := by
  have hparse : parseEmployeeCsv file = parseRecords text := by
    rw [parseEmployeeCsv, if_neg (Nat.not_lt.2 hsize), htext]
  obtain ⟨scan, htracks, hscan, herrors, hrows⟩ := exists_parseRecords hrecords hheader
  have hdistinct := (goodRows_records records).1
  rw [hscan] at hdistinct
  rw [hparse]
  generalize parseRecords text = result at herrors hrows
  generalize dataRecords 2 records = data at *
  have hall : data.length ≤ maxDataRows → Tracks scan data := fun hlength => by
    rwa [List.take_of_length_le hlength] at htracks
  have hfaults := htracks.errors
  constructor
  · intro rows hgood
    have htracks := hall hgood.count.2
    have hnone : failingPlaces data = [] := failingPlaces_eq_nil.2 fun i hi => hgood.accepted hi
    have hplaces := htracks.errors
    rw [hnone, List.forall₂_nil_left_iff] at hplaces
    have hcells := htracks.rows_of_forall fun i hi => hgood.accepted hi
    rw [hgood.cells, List.map_inj_right fun _ _ => Option.some.inj] at hcells
    rw [hplaces, lastEntry_eq_nil.2 ⟨hgood.count, hgood.noError⟩, List.append_nil] at herrors
    rw [herrors, if_pos rfl, ← hcells] at hrows
    cases result
    cases herrors
    cases hrows
    rfl
  · intro hbad
    have hnonempty : result.errors ≠ [] := by
      intro hnil
      rw [herrors, List.append_eq_nil_iff] at hnil
      obtain ⟨hnil, hlast⟩ := hnil
      obtain ⟨hcount, hnoError⟩ := lastEntry_eq_nil.1 hlast
      have htracks := hall hcount.2
      have hplaces := htracks.errors
      rw [hnil, List.forall₂_nil_right_iff] at hplaces
      have hcells := htracks.rows_of_forall (failingPlaces_eq_nil.1 hplaces)
      exact hbad ⟨scan.rows, hcount, hnoError, hcells, hdistinct⟩
    rw [if_neg hnonempty] at hrows
    refine ⟨hrows, hnonempty, scan.errors, ?_, herrors⟩
    have hentries := @forall₂_fault_append _ (data.drop maxDataRows) _ _ hfaults
    rwa [List.take_append_drop] at hentries

/-- A file with a good row, a blank line, a row of three cells, a number for the second time, and a `csv.Error` after them. -/
def faultyText : Records where
  records := [["name", " phoneNumber"], ["Sato", "09012345678"], [" "], ["Suzuki", "0312345678", ""], ["Ito", " 09012345678"]]
  error := some "unexpected end of data"

theorem reports_faultyText :
    Reports faultyText (dataRecords 2 faultyText.records.tail) (parseEmployeeCsv { size := 96, text := some faultyText }) ∧
    (parseEmployeeCsv { size := 96, text := some faultyText }).errors = [
      { line := 4, reason := "Expected 2 columns, got 3" },
      { line := 5, reason := "Phone duplicates line 2: 09012345678" },
      { line := 0, reason := "CSV parse error: unexpected end of data" }] :=
  ⟨reports_parseEmployeeCsv { size := 96, text := some faultyText } (by decide) faultyText rfl ["name", " phoneNumber"]
    faultyText.records.tail rfl (by decide), by decide +kernel⟩

end EmployeeCsv

end SafetyConfirmation
