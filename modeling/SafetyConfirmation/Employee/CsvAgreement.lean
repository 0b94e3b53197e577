import SafetyConfirmation.Employee.CsvFile

/-!
# Where the page and the lambdas accept the same files

The lambdas read records and the page reads lines. They agree on a file whose header neither of them finds, whatever
follows it, and on a file each line of which is a record of its own, unless a line is blank for one of them only or is the
header for one of them only.
-/

namespace SafetyConfirmation

namespace EmployeePage

open Pattern Tokens CsvReader EmployeeCsv

/-- What stands between two line feeds: cells, and the carriage returns before the line feed. -/
structure Line where
  cells : List Cell
  returns : Nat

namespace Line

variable (line : Line)

def text : List Char := row line.cells ++ List.replicate line.returns '\r'

end Line

namespace Line.Whole

variable {line : Line}

end Line.Whole

/-! ### A whole text -/

end EmployeePage

end SafetyConfirmation
