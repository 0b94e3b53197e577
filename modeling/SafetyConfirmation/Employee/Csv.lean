import Mathlib.Data.List.Nodup
import SafetyConfirmation.Employee.Validate

/-!
# The CSV of an import

`parse_employee_csv`, on the records that `csv.reader` makes of a file: all rows when every record is a good one, and
otherwise every failing line and no row.
-/

namespace SafetyConfirmation

namespace EmployeeCsv

open Pattern Employee

def maxDataRows : Nat := 300

def maxBytes : Nat := 1024 * 1024

structure EmployeeRow where
  name : String
  phoneNumber : String
  deriving DecidableEq

structure CsvParseError where
  line : Nat
  reason : String
  deriving DecidableEq

structure CsvParseResult where
  rows : List EmployeeRow := []
  errors : List CsvParseError := []
  deriving DecidableEq

/-- The records that `csv.reader` yields, and the `csv.Error` that ends them. -/
structure Records where
  records : List (List String)
  error : Option String := none

/-- The uploaded bytes: how many there are, and the records of the text where they are UTF-8. -/
structure File where
  size : Nat
  text : Option Records

def requiredHeaders : List String := ["name", "phoneNumber"]

def stripped (s : String) : String := String.ofList (strip s.toList)

/-- The loop over the data records. -/
structure Scan where
  rows : List EmployeeRow := []
  errors : List CsvParseError := []
  seenPhones : List (String × Nat) := []
  dataRowCount : Nat := 0

def Scan.fail (scan : Scan) (line : Nat) (reason : String) : Scan :=
  { scan with errors := scan.errors ++ [{ line, reason }] }

def isBlank (record : List String) : Bool :=
  match record with
  | [] => true
  | [cell] => stripped cell == ""
  | _ => false

/-- A row that passed its checks, with the number as it is in the file. -/
def Scan.accept (scan : Scan) (line : Nat) (row : EmployeeRow) (phoneRaw : String) : Scan :=
  match scan.seenPhones.lookup row.phoneNumber with
  | some first => scan.fail line ("Phone duplicates line " ++ toString first ++ ": " ++ phoneRaw)
  | none => { scan with
      seenPhones := scan.seenPhones ++ [(row.phoneNumber, line)]
      rows := scan.rows ++ [row] }

/-- One data record, of two cells or not. -/
def Scan.record (scan : Scan) (line : Nat) (record : List String) : Scan :=
  match record with
  | [nameCell, phoneCell] =>
    if !isValidName (.str (stripped nameCell)) then scan.fail line "Name is empty or exceeds 100 chars"
    else if !isValidDomesticJp (.str (stripped phoneCell)) then
      scan.fail line ("Phone not in domestic JP format (0 + 9-10 digits): " ++ stripped phoneCell)
    else
      scan.accept line { name := stripped nameCell, phoneNumber := domesticToE164 (stripped phoneCell) } (stripped phoneCell)
  | _ => scan.fail line ("Expected 2 columns, got " ++ toString record.length)

/-- The data records from a line on, up to the row that is one too many. -/
def Scan.records (scan : Scan) : Nat → List (List String) → Scan
  | _, [] => scan
  | line, record :: rest =>
    if isBlank record then scan.records (line + 1) rest
    else
      let counted := { scan with dataRowCount := scan.dataRowCount + 1 }
      if counted.dataRowCount > maxDataRows then
        counted.fail line ("Exceeds " ++ toString maxDataRows ++ " data rows")
      else (counted.record line record).records (line + 1) rest

/-- Whether the loop reads on to where the reader raises: the row cap ends it before. -/
def readsToTheEnd (records : List (List String)) : Bool :=
  decide ((records.filter fun record => !isBlank record).length ≤ maxDataRows)

def fileError (reason : String) : CsvParseResult := { errors := [{ line := 0, reason }] }

/-- The errors of the loop, and the `csv.Error` that may have ended it. -/
def problems (text : Records) (records : List (List String)) : List CsvParseError :=
  (Scan.records {} 2 records).errors ++
    match text.error with
    | some message => if readsToTheEnd records then [{ line := 0, reason := "CSV parse error: " ++ message }] else []
    | none => []

/-- The rows or the errors of a file's records. Of the reason of a wrong header the end is left out, in which Python prints
the cells it found. -/
def parseRecords (text : Records) : CsvParseResult :=
  match text.records with
  | [] =>
    match text.error with
    | none => fileError "Empty file (no header line)"
    | some message => fileError ("CSV parse error in header: " ++ message)
  | header :: records =>
    if header.map stripped ≠ requiredHeaders then
      { errors := [{ line := 1, reason := "Header must be exactly name,phoneNumber" }] }
    else if problems text records ≠ [] then { errors := problems text records }
    else if (Scan.records {} 2 records).rows = [] then fileError "No data rows"
    else { rows := (Scan.records {} 2 records).rows }

def parseEmployeeCsv (file : File) : CsvParseResult :=
  if file.size > maxBytes then fileError ("File exceeds " ++ toString maxBytes ++ " bytes")
  else
    match file.text with
    | none => fileError "File is not valid UTF-8"
    | some text => parseRecords text

/-! ### The rows of a good file -/

/-- The rows so far are those of the numbers that were seen, each of them once. -/
structure Scan.Good (scan : Scan) : Prop where
  seen : scan.rows.map EmployeeRow.phoneNumber = scan.seenPhones.map Prod.fst
  nodup : (scan.seenPhones.map Prod.fst).Nodup
  starts : ∀ row ∈ scan.rows, row.phoneNumber.toList.head? = some '+'

theorem Scan.Good.fail {scan : Scan} (h : scan.Good) (line : Nat) (reason : String) : (scan.fail line reason).Good :=
  ⟨h.seen, h.nodup, h.starts⟩

theorem Scan.Good.accept {scan : Scan} (h : scan.Good) (line : Nat) {row : EmployeeRow}
    (hrow : row.phoneNumber.toList.head? = some '+') (phoneRaw : String) : (scan.accept line row phoneRaw).Good := by
  rw [Scan.accept]
  split
  · exact h.fail _ _
  · rename_i hunseen
    have hnew : row.phoneNumber ∉ scan.seenPhones.map Prod.fst := by
      intro hmem
      obtain ⟨entry, hentry, heq⟩ := List.mem_map.1 hmem
      have hne := List.lookup_eq_none_iff.1 hunseen entry hentry
      rw [heq] at hne
      simp at hne
    refine ⟨?_, ?_, ?_⟩
    · show (scan.rows ++ [row]).map EmployeeRow.phoneNumber = (scan.seenPhones ++ [(row.phoneNumber, line)]).map Prod.fst
      rw [List.map_append, List.map_append, h.seen]
      rfl
    · show ((scan.seenPhones ++ [(row.phoneNumber, line)]).map Prod.fst).Nodup
      rw [List.map_append]
      rw [List.nodup_append]
      refine ⟨h.nodup, List.nodup_singleton _, fun phone hmem phone' hmem' hsame => hnew ?_⟩
      rw [← show phone' = row.phoneNumber from List.mem_singleton.1 hmem', ← hsame]
      exact hmem
    · intro row' hmem
      rcases List.mem_append.1 hmem with hmem | hmem
      · exact h.starts row' hmem
      · rw [List.mem_singleton.1 hmem]
        exact hrow

theorem Scan.Good.record {scan : Scan} (h : scan.Good) (line : Nat) (record : List String) :
    (scan.record line record).Good := by
  unfold Scan.record
  split
  · split
    · exact h.fail _ _
    · split
      · exact h.fail _ _
      · rename_i nameCell phoneCell _ hphone
        have hdomestic : domesticJpRe (stripped phoneCell) = true := by
          rw [Bool.not_eq_true, Bool.not_eq_false', isValidDomesticJp_str] at hphone
          exact hphone
        refine h.accept line ?_ _
        dsimp only
        exact domesticToE164_starts (.inr hdomestic)
  · exact h.fail _ _

theorem Scan.Good.records {scan : Scan} (h : scan.Good) (line : Nat) (records : List (List String)) :
    (scan.records line records).Good := by
  induction records generalizing scan line with
  | nil => exact h
  | cons record rest ih =>
    have hcounted : Scan.Good { scan with dataRowCount := scan.dataRowCount + 1 } := ⟨h.seen, h.nodup, h.starts⟩
    rw [Scan.records]
    split
    · exact ih h _
    · dsimp only
      split
      · exact hcounted.fail _ _
      · exact ih (hcounted.record _ _) _

/-- No phone number is in two rows of an import, and each starts with `+`. -/
def GoodRows (rows : List EmployeeRow) : Prop :=
  (rows.map EmployeeRow.phoneNumber).Nodup ∧ ∀ row ∈ rows, row.phoneNumber.toList.head? = some '+'

theorem goodRows_nil : GoodRows [] := ⟨List.nodup_nil, fun _ h => (List.not_mem_nil h).elim⟩

theorem goodRows_records (records : List (List String)) : GoodRows (Scan.records {} 2 records).rows := by
  have hempty : Scan.Good {} := ⟨rfl, List.nodup_nil, fun _ h => (List.not_mem_nil h).elim⟩
  have hgood := hempty.records 2 records
  refine ⟨?_, hgood.starts⟩
  rw [hgood.seen]
  exact hgood.nodup

theorem goodRows_parseEmployeeCsv (file : File) : GoodRows (parseEmployeeCsv file).rows := by
  rw [parseEmployeeCsv]
  split
  · exact goodRows_nil
  · split
    · exact goodRows_nil
    · rw [parseRecords]
      split
      · split <;> exact goodRows_nil
      · split
        · exact goodRows_nil
        · split
          · exact goodRows_nil
          · split
            · exact goodRows_nil
            · exact goodRows_records _

end EmployeeCsv

end SafetyConfirmation
