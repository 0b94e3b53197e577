import SafetyConfirmation.Employee.Csv
import SafetyConfirmation.Lib.CsvReader
import SafetyConfirmation.Lib.Tokens

/-!
# The file-level checks of an import

`accept_csv_file` of the lambdas and `validateCsvFile` of the page, on the bytes of a file. The lambdas count the records of
`csv.reader` and the page counts lines.
-/

namespace SafetyConfirmation

namespace EmployeeCsv

/-- The records of a text, as `csv.reader(io.StringIO(text))` yields them. -/
def recordsOf (text : List Char) : Records where
  records := (CsvReader.readText text).1.map (List.map String.ofList)
  error := (CsvReader.readText text).2

def fileOf (raw : ByteArray) : File where
  size := raw.size
  text := (String.fromUTF8? raw).map fun text => recordsOf text.toList

/-- The loop over the data records; nothing when there is one too many. -/
def dataRowCount (count : Nat) : List (List String) → Option Nat
  | [] => some count
  | row :: rows =>
    if isBlank row then dataRowCount count rows
    else if count + 1 > maxDataRows then none
    else dataRowCount (count + 1) rows

def acceptRecords (text : Records) : Bool :=
  match text.records with
  | [] => false
  | header :: rows =>
    if header.map stripped ≠ requiredHeaders then false
    else
      match dataRowCount 0 rows with
      | none => false
      | some count => if text.error.isSome then false else decide (count ≥ 1)

def acceptCsvFile (raw : ByteArray) : Bool :=
  if (fileOf raw).size > maxBytes then false
  else
    match (fileOf raw).text with
    | none => false
    | some text => acceptRecords text

theorem dataRowCount_eq {count : Nat} {rows : List (List String)} (h : count ≤ maxDataRows) :
    dataRowCount count rows =
      if count + rows.countP (fun row => !isBlank row) ≤ maxDataRows then some (count + rows.countP fun row => !isBlank row)
      else none := by
  induction rows generalizing count with
  | nil => exact (if_pos h).symm
  | cons row rows ih =>
    rw [dataRowCount]
    cases hblank : isBlank row with
    | true => rw [if_pos rfl, ih h, List.countP_cons_of_neg (by simp [hblank])]
    | false =>
      rw [if_neg Bool.false_ne_true, List.countP_cons_of_pos (by simp [hblank])]
      by_cases hfull : count + 1 > maxDataRows
      · rw [if_pos hfull, if_neg (by omega)]
      · rw [if_neg hfull, ih (by omega), Nat.add_right_comm, Nat.add_assoc]

end EmployeeCsv

namespace EmployeePage

open Tokens CsvReader

def dropByteOrderMark : List Char → List Char
  | '\ufeff' :: text => text
  | text => text

/-- `new TextDecoder('utf-8', { fatal: true }).decode(raw)`, which takes a byte order mark off itself. -/
def decodeUtf8 (raw : ByteArray) : Option (List Char) :=
  (String.fromUTF8? raw).map fun text => dropByteOrderMark text.toList

end EmployeePage

end SafetyConfirmation
