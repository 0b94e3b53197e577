import SafetyConfirmation.Employee.CsvFile
import SafetyConfirmation.Employee.ImportReport

/-!
# The gate and the parser

`accept_csv_file` and `parse_employee_csv` each read a file with a loop of their own. The first is false for what the
second reports of the file as a whole, and for nothing else.
-/

namespace SafetyConfirmation

namespace EmployeeCsv

/-- `accept_csv_file`, on the records that a reader makes of the bytes. -/
def acceptFile (file : File) : Bool :=
  if file.size > maxBytes then false
  else
    match file.text with
    | none => false
    | some text => acceptRecords text

theorem acceptCsvFile_eq (raw : ByteArray) : acceptCsvFile raw = acceptFile (fileOf raw) := rfl

/-- An entry about the file as a whole. -/
inductive FileLevel : CsvParseError → Prop where
  | size : FileLevel ⟨0, "File exceeds " ++ toString maxBytes ++ " bytes"⟩
  | utf8 : FileLevel ⟨0, "File is not valid UTF-8"⟩
  | noHeader : FileLevel ⟨0, "Empty file (no header line)"⟩
  | headerError (message : String) : FileLevel ⟨0, "CSV parse error in header: " ++ message⟩
  | wrongHeader (got : String) : FileLevel ⟨1, "Header must be exactly name,phoneNumber" ++ got⟩
  | csvError (message : String) : FileLevel ⟨0, "CSV parse error: " ++ message⟩
  | rowCap (line : Nat) : FileLevel ⟨line, "Exceeds " ++ toString maxDataRows ++ " data rows"⟩
  | noRows : FileLevel ⟨0, "No data rows"⟩

/-- An entry about one record. -/
inductive RowLevel : CsvParseError → Prop where
  | columns (line count : Nat) : RowLevel ⟨line, "Expected 2 columns, got " ++ toString count⟩
  | name (line : Nat) : RowLevel ⟨line, "Name is empty or exceeds 100 chars"⟩
  | phone (line : Nat) (phone : String) :
      RowLevel ⟨line, "Phone not in domestic JP format (0 + 9-10 digits): " ++ phone⟩
  | duplicate (line first : Nat) (phone : String) :
      RowLevel ⟨line, "Phone duplicates line " ++ toString first ++ ": " ++ phone⟩

/-! ### The two kinds of entries -/

theorem take_toList_append {text : String} (n : Nat) (h : n ≤ text.toList.length) (more : String) :
    (text ++ more).toList.take n = text.toList.take n := by
  rw [String.toList_append, List.take_append_of_le_length h]

variable {e : CsvParseError}

theorem RowLevel.start (h : RowLevel e) : e.reason.toList.take 4 ∈ ["Expe".toList, "Name".toList, "Phon".toList] := by
  cases h with
  | columns _ _ =>
    rw [take_toList_append 4 (by decide)]
    decide
  | name _ =>
    dsimp only
    decide
  | phone _ _ =>
    rw [take_toList_append 4 (by decide)]
    decide
  | duplicate _ _ _ =>
    rw [String.append_assoc, String.append_assoc, take_toList_append 4 (by decide)]
    decide

theorem FileLevel.start (h : FileLevel e) :
    e.reason.toList.take 4 ∈ ["File".toList, "Empt".toList, "CSV ".toList, "Head".toList, "Exce".toList, "No d".toList] := by
  cases h with
  | size =>
    rw [String.append_assoc, take_toList_append 4 (by decide)]
    decide
  | utf8 | noHeader | noRows => decide
  | headerError _ | wrongHeader _ | csvError _ =>
    rw [take_toList_append 4 (by decide)]
    decide
  | rowCap _ =>
    rw [String.append_assoc, take_toList_append 4 (by decide)]
    decide

theorem FileLevel.not_rowLevel (h : FileLevel e) : ¬ RowLevel e := by
  intro hrow
  have hfile := h.start
  have hstart := hrow.start
  generalize e.reason.toList.take 4 = start at hfile hstart
  revert start
  decide

theorem Fault.rowLevel {data : List DataRecord} {i : Nat} (h : Fault data i e) : RowLevel e := by
  cases h with
  | columns _ _ => exact .columns _ _
  | name _ _ => exact .name _
  | phone _ _ _ => exact .phone _ _
  | duplicate _ _ _ _ _ _ => exact .duplicate _ _ _

theorem fileLevel_of_mem_lastEntry {error : Option String} {data : List DataRecord} (h : e ∈ lastEntry error data) :
    FileLevel e := by
  rw [lastEntry] at h
  split at h
  · rw [List.mem_singleton.1 h]
    exact .noRows
  · rw [unfinished] at h
    split at h
    · rw [List.mem_singleton.1 h]
      exact .rowCap _
    · obtain ⟨message, -, rfl⟩ := List.mem_map.1 h
      exact .csvError message

/-! ### The two loops -/

/-- The gate counts the records that the parser reads, and lets them pass where the parser has no last entry. -/
theorem acceptRecords_iff {text : Records} {header : List String} {records : List (List String)}
    (hrecords : text.records = header :: records) : acceptRecords text = true ↔
      header.map stripped = requiredHeaders ∧ lastEntry text.error (dataRecords 2 records) = [] := by
  rw [acceptRecords, hrecords, lastEntry_eq_nil, length_dataRecords, ← List.countP_eq_length_filter]
  dsimp only
  rw [dataRowCount_eq (Nat.zero_le _), Nat.zero_add]
  by_cases hheader : header.map stripped = requiredHeaders
  · rw [if_neg (not_not_intro hheader)]
    by_cases hrows : records.countP (fun row => !isBlank row) ≤ maxDataRows
    · cases text.error <;> simp [hheader, hrows]
    · simp [hrows]
  · simp [hheader]

/-- Rows and no entry, or entries about records and no row. -/
def Passes (result : CsvParseResult) : Prop :=
  (result.rows ≠ [] ∧ result.errors = []) ∨ (result.rows = [] ∧ result.errors ≠ [] ∧ ∀ e ∈ result.errors, RowLevel e)

/-- No row, and an entry about the file. -/
def Stops (result : CsvParseResult) : Prop := result.rows = [] ∧ ∃ e ∈ result.errors, FileLevel e

theorem Stops.not_passes {result : CsvParseResult} (h : Stops result) : ¬ Passes result := by
  obtain ⟨-, e, hmem, hfile⟩ := h
  rintro (⟨-, hnone⟩ | ⟨-, -, hrows⟩)
  · rw [hnone] at hmem
    exact List.not_mem_nil hmem
  · exact hfile.not_rowLevel (hrows e hmem)

theorem stops_fileError {reason : String} (h : FileLevel ⟨0, reason⟩) : Stops (fileError reason) :=
  ⟨rfl, _, List.mem_singleton_self _, h⟩

theorem passes_parseRecords {text : Records} {header : List String} {records : List (List String)}
    (hrecords : text.records = header :: records) (hheader : header.map stripped = requiredHeaders)
    (hlast : lastEntry text.error (dataRecords 2 records) = []) : Passes (parseRecords text) := by
  obtain ⟨scan, htracks, -, herrors, hrows⟩ := exists_parseRecords hrecords hheader
  obtain ⟨hcount, -⟩ := lastEntry_eq_nil.1 hlast
  rw [List.take_of_length_le hcount.2] at htracks
  rw [hlast, List.append_nil] at herrors
  have hplaces := htracks.errors
  rw [Passes, hrows, herrors]
  by_cases hnone : scan.errors = []
  · rw [hnone, List.forall₂_nil_right_iff] at hplaces
    have hlength := congrArg List.length (htracks.rows_of_forall (failingPlaces_eq_nil.1 hplaces))
    rw [List.length_map, List.length_map] at hlength
    rw [if_pos hnone]
    exact .inl ⟨List.length_pos_iff.1 (hlength ▸ hcount.1), hnone⟩
  · rw [if_neg hnone]
    refine .inr ⟨rfl, hnone, fun e hmem => ?_⟩
    obtain ⟨i, hi, heq⟩ := List.getElem_of_mem hmem
    rw [List.forall₂_iff_get] at hplaces
    obtain ⟨hlength, hfaults⟩ := hplaces
    have hfault := hfaults i (hlength ▸ hi) hi
    rw [List.get_eq_getElem, List.get_eq_getElem, heq] at hfault
    exact hfault.rowLevel

theorem stops_parseRecords {text : Records} {header : List String} {records : List (List String)}
    (hrecords : text.records = header :: records) (hheader : header.map stripped = requiredHeaders)
    (hlast : lastEntry text.error (dataRecords 2 records) ≠ []) : Stops (parseRecords text) := by
  obtain ⟨scan, -, -, herrors, hrows⟩ := exists_parseRecords hrecords hheader
  obtain ⟨e, hmem⟩ := List.exists_mem_of_ne_nil _ hlast
  have hmem' : e ∈ (parseRecords text).errors := herrors ▸ List.mem_append_right _ hmem
  rw [if_neg (List.ne_nil_of_mem hmem')] at hrows
  exact ⟨hrows, e, hmem', fileLevel_of_mem_lastEntry hmem⟩

theorem parseRecords_agrees (text : Records) :
    (acceptRecords text = true → Passes (parseRecords text)) ∧ (acceptRecords text = false → Stops (parseRecords text)) := by
  cases hrecords : text.records with
  | nil =>
    rw [acceptRecords, hrecords]
    refine ⟨fun h => absurd h Bool.false_ne_true, fun _ => ?_⟩
    rw [parseRecords, hrecords]
    cases text.error with
    | none => exact stops_fileError .noHeader
    | some message => exact stops_fileError (.headerError message)
  | cons header records =>
    have haccept := acceptRecords_iff hrecords
    rw [← Bool.not_eq_true, haccept]
    by_cases hheader : header.map stripped = requiredHeaders
    · refine ⟨fun h => passes_parseRecords hrecords hheader h.2, fun h => stops_parseRecords hrecords hheader fun hlast => ?_⟩
      exact h ⟨hheader, hlast⟩
    · refine ⟨fun h => absurd h.1 hheader, fun _ => ?_⟩
      rw [parseRecords, hrecords]
      dsimp only
      rw [if_pos hheader]
      exact ⟨rfl, _, List.mem_singleton_self _, .wrongHeader ""⟩

/-- The gate is true exactly when the parser gives rows or reports records only, and false exactly when it reports the file. -/
theorem acceptFile_agrees (file : File) :
    (acceptFile file = true ↔ Passes (parseEmployeeCsv file)) ∧ (acceptFile file = false ↔ Stops (parseEmployeeCsv file)) := by
  have hdecides : (acceptFile file = true → Passes (parseEmployeeCsv file)) ∧
      (acceptFile file = false → Stops (parseEmployeeCsv file)) := by
    rw [acceptFile, parseEmployeeCsv]
    split
    · exact ⟨fun h => absurd h Bool.false_ne_true, fun _ => stops_fileError .size⟩
    · cases file.text with
      | none => exact ⟨fun h => absurd h Bool.false_ne_true, fun _ => stops_fileError .utf8⟩
      | some text => exact parseRecords_agrees text
  obtain ⟨htrue, hfalse⟩ := hdecides
  refine ⟨⟨htrue, fun hpasses => ?_⟩, ⟨hfalse, fun hstops => ?_⟩⟩
  · by_contra hgate
    exact (hfalse (Bool.not_eq_true _ ▸ hgate)).not_passes hpasses
  · by_contra hgate
    exact hstops.not_passes (htrue (by simpa using hgate))

end EmployeeCsv

end SafetyConfirmation
