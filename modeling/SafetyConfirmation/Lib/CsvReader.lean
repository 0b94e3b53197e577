import Mathlib.Data.List.Forall2
import SafetyConfirmation.Lib.Checks
import SafetyConfirmation.Lib.Tokens

/-!
# A reader of comma-separated values

The automaton of the default dialect of Python's `csv.reader`, which is fed the lines of a text one character at a time.
The second half says what it makes of a line that was written as cells: the values of the cells, quoted or not, as one
record; and that a record was written as cells.
-/

namespace CsvReader

inductive State
  | startRecord
  | startField
  | inField
  | inQuotedField
  | quoteInQuotedField
  | eatCrnl
  deriving DecidableEq

structure Reader where
  state : State := .startRecord
  field : List Char := []
  fields : List (List Char) := []
  deriving DecidableEq

def fieldLimit : Nat := 131072

def isBreak (c : Char) : Bool := c == '\n' || c == '\r'

namespace Reader

variable (r : Reader)

def addChar (state : State) (c : Char) : Except String Reader :=
  if r.field.length ≥ fieldLimit then .error ("field larger than field limit (" ++ toString fieldLimit ++ ")")
  else .ok { r with state, field := r.field ++ [c] }

def saveField (state : State) : Reader := { state, field := [], fields := r.fields ++ [r.field] }

def startField (c : Char) : Except String Reader :=
  if isBreak c then .ok (r.saveField .eatCrnl)
  else if c = '"' then .ok { r with state := .inQuotedField }
  else if c = ',' then .ok (r.saveField .startField)
  else r.addChar .inField c

def processChar (c : Char) : Except String Reader :=
  match r.state with
  | .startRecord => if isBreak c then .ok { r with state := .eatCrnl } else r.startField c
  | .startField => r.startField c
  | .inField =>
    if isBreak c then .ok (r.saveField .eatCrnl)
    else if c = ',' then .ok (r.saveField .startField)
    else r.addChar .inField c
  | .inQuotedField =>
    if c = '"' then .ok { r with state := .quoteInQuotedField } else r.addChar .inQuotedField c
  | .quoteInQuotedField =>
    if c = '"' then r.addChar .inQuotedField c
    else if c = ',' then .ok (r.saveField .startField)
    else if isBreak c then .ok (r.saveField .eatCrnl)
    else r.addChar .inField c
  | .eatCrnl =>
    if isBreak c then .ok r
    else .error "new-line character seen in unquoted field - do you need to open the file with newline=''?"

/-- The character `EOL`, which follows each line. -/
def endLine : Reader :=
  match r.state with
  | .startRecord | .inQuotedField => r
  | .startField | .inField | .quoteInQuotedField => r.saveField .startRecord
  | .eatCrnl => { r with state := .startRecord }

def feed (line : List Char) : Except String Reader := do return (← line.foldlM processChar r).endLine

/-- The records of the lines, and the error that ended them. -/
def read : Reader → List (List Char) → List (List (List Char)) × Option String
  | r, [] => if r.field ≠ [] ∨ r.state = .inQuotedField then ([(r.saveField .startRecord).fields], none) else ([], none)
  | r, line :: lines =>
    match r.feed line with
    | .error message => ([], some message)
    | .ok r =>
      if r.state = .startRecord then ((r.fields :: (read {} lines).1), (read {} lines).2) else read r lines

end Reader

/-- The lines that `io.StringIO` yields: each ends with its line feed, but the last. -/
def lines (text : List Char) : List (List Char) :=
  (text.splitOn '\n').dropLast.map (fun line => line ++ ['\n']) ++
    ((text.splitOn '\n').getLast?.filter fun line => !line.isEmpty).toList

def readText (text : List Char) : List (List (List Char)) × Option String := Reader.read {} (lines text)

example : readText "a,\"b\"\"\nc\"d\r\n\n,".toList =
    ([["a".toList, "b\"\nc".toList ++ ['d']], [], [[], []]], none) := by decide

example : (readText "a\rb".toList).2.isSome = true := by decide

/-! ### Cells -/

/-- A cell as it is written: as it stands, or in quotes with what follows the closing quote. -/
inductive Cell
  | bare (text : List Char)
  | quoted (inner tail : List Char)

def escape (inner : List Char) : List Char := inner.flatMap fun c => if c = '"' then ['"', '"'] else [c]

namespace Cell

def text : Cell → List Char
  | bare text => text
  | quoted inner tail => '"' :: (escape inner ++ '"' :: tail)

def value : Cell → List Char
  | bare text => text
  | quoted inner tail => inner ++ tail

/-- What is outside the quotes of a cell. -/
def outside : Cell → List Char
  | bare text => text
  | quoted _ tail => tail

/-- Outside its quotes a cell has no comma, no line break and no quote to begin with, and it is not too long. -/
structure Closed (cell : Cell) : Prop where
  noQuote : cell.outside.head? ≠ some '"'
  plain : ∀ c ∈ cell.outside, isBreak c = false ∧ c ≠ ','
  short : cell.value.length ≤ fieldLimit

end Cell

/-- The text of a record. -/
def row (cells : List Cell) : List Char := [','].intercalate (cells.map Cell.text)

/-- The record that a row of cells is read as. -/
def record (cells : List Cell) : List (List Char) := if row cells = [] then [] else cells.map Cell.value

@[simp] theorem row_singleton (cell : Cell) : row [cell] = cell.text := by
  simp [row]

theorem row_cons {cell : Cell} {cells : List Cell} (h : cells ≠ []) : row (cell :: cells) = cell.text ++ ',' :: row cells := by
  cases cells with
  | nil => exact absurd rfl h
  | cons next cells => simp [row, List.intercalate]

namespace Reader

/-- The reader is where a field may end, and these are the fields if it does. -/
structure Done (r : Reader) (fields : List (List Char)) : Prop where
  state : r.state = .startField ∨ r.state = .inField ∨ r.state = .quoteInQuotedField
  fields : r.fields ++ [r.field] = fields

variable {r : Reader} {fields : List (List Char)}

theorem Done.comma (h : r.Done fields) : r.processChar ',' = .ok { state := .startField, fields } := by
  obtain ⟨hstate, rfl⟩ := h
  obtain hstate | hstate | hstate := hstate <;> rw [processChar, hstate] <;> rfl

theorem Done.isBreak (h : r.Done fields) {c : Char} (hc : isBreak c = true) :
    r.processChar c = .ok { state := .eatCrnl, fields } := by
  obtain ⟨hstate, rfl⟩ := h
  have hquote : c ≠ '"' := by
    rintro rfl
    cases hc
  have hcomma : c ≠ ',' := by
    rintro rfl
    cases hc
  obtain hstate | hstate | hstate := hstate <;> rw [processChar, hstate] <;> simp [startField, saveField, hc, hquote, hcomma]

theorem Done.endLine (h : r.Done fields) : r.endLine = { fields } := by
  obtain ⟨hstate, rfl⟩ := h
  obtain hstate | hstate | hstate := hstate <;> rw [Reader.endLine, hstate] <;> rfl

end Reader

/-! ### What a record was written as -/

/-- Cells with a comma after each. -/
def begun (cells : List Cell) : List Char := cells.flatMap fun cell => cell.text ++ [',']

theorem begun_concat (cells : List Cell) (cell : Cell) : begun (cells ++ [cell]) = begun cells ++ cell.text ++ [','] := by
  simp [begun]

theorem row_concat (cells : List Cell) (cell : Cell) : row (cells ++ [cell]) = begun cells ++ cell.text := by
  induction cells with
  | nil => exact row_singleton cell
  | cons first cells ih =>
    rw [List.cons_append, row_cons (by simp), ih, begun, begun, List.flatMap_cons]
    simp

theorem record_concat {cells : List Cell} {cell : Cell} (h : cells ≠ [] ∨ cell.text ≠ []) :
    record (cells ++ [cell]) = cells.map Cell.value ++ [cell.value] := by
  have hne : row (cells ++ [cell]) ≠ [] := by
    rw [row_concat]
    intro hnil
    obtain ⟨hbegun, htext⟩ := List.append_eq_nil_iff.1 hnil
    obtain h | h := h
    · cases cells with
      | nil => exact h rfl
      | cons first cells => simp [begun] at hbegun
    · exact h htext
  rw [record, if_neg hne, List.map_append, List.map_singleton]

theorem Cell.closed_bare_nil : (Cell.bare []).Closed where
  noQuote := by simp [Cell.outside]
  plain := fun c hc => (List.not_mem_nil hc).elim
  short := Nat.zero_le _

theorem Cell.closed_quoted_nil {inner : List Char} (h : inner.length ≤ fieldLimit) : (Cell.quoted inner []).Closed where
  noQuote := by simp [Cell.outside]
  plain := fun c hc => (List.not_mem_nil hc).elim
  short := by simpa [Cell.value] using h

/-- One more character outside the quotes of a cell. -/
def Cell.push : Cell → Char → Cell
  | bare text, c => bare (text ++ [c])
  | quoted inner tail, c => quoted inner (tail ++ [c])

theorem Cell.text_push (cell : Cell) (c : Char) : (cell.push c).text = cell.text ++ [c] := by
  cases cell <;> simp [Cell.push, Cell.text]

theorem Cell.value_push (cell : Cell) (c : Char) : (cell.push c).value = cell.value ++ [c] := by
  cases cell <;> simp [Cell.push, Cell.value]

theorem Cell.outside_push (cell : Cell) (c : Char) : (cell.push c).outside = cell.outside ++ [c] := by
  cases cell <;> rfl

theorem Cell.Closed.push {cell : Cell} (h : cell.Closed) {c : Char} (hquote : cell.outside = [] → c ≠ '"')
    (hplain : isBreak c = false ∧ c ≠ ',') (hshort : cell.value.length < fieldLimit) : (cell.push c).Closed where
  noQuote := by
    rw [Cell.outside_push]
    cases hcell : cell.outside with
    | nil => simpa using hquote hcell
    | cons d rest =>
      have hfirst := h.noQuote
      rw [hcell] at hfirst
      exact hfirst
  plain := by
    intro d hd
    rw [Cell.outside_push, List.mem_append, List.mem_singleton] at hd
    obtain hd | rfl := hd
    · exact h.plain d hd
    · exact hplain
  short := by
    rw [Cell.value_push, List.length_append]
    exact hshort

namespace Reader

/-- What the reader has taken of a record: closed cells, and what it has of the next one. -/
inductive Reads : List Char → Reader → Prop
  | startRecord : Reads [] {}
  | startField {cells : List Cell} (hne : cells ≠ []) (hcells : ∀ cell ∈ cells, cell.Closed) :
    Reads (begun cells) { state := .startField, fields := cells.map Cell.value }
  | inField {cells : List Cell} {cell : Cell} (hcells : ∀ cell ∈ cells, cell.Closed) (hcell : cell.Closed)
    (hout : cell.outside ≠ []) :
    Reads (begun cells ++ cell.text) { state := .inField, field := cell.value, fields := cells.map Cell.value }
  | inQuotedField {cells : List Cell} {inner : List Char} (hcells : ∀ cell ∈ cells, cell.Closed)
    (hshort : inner.length ≤ fieldLimit) :
    Reads (begun cells ++ '"' :: escape inner) { state := .inQuotedField, field := inner, fields := cells.map Cell.value }
  | quoteInQuotedField {cells : List Cell} {inner : List Char} (hcells : ∀ cell ∈ cells, cell.Closed)
    (hshort : inner.length ≤ fieldLimit) :
    Reads (begun cells ++ (Cell.quoted inner []).text)
      { state := .quoteInQuotedField, field := inner, fields := cells.map Cell.value }
  | eatCrnl {cells : List Cell} {n : Nat} (hne : cells ≠ []) (hcells : ∀ cell ∈ cells, cell.Closed) :
    Reads (row cells ++ List.replicate n '\r') { state := .eatCrnl, fields := record cells }

theorem addChar_eq_ok {r r' : Reader} {state : State} {c : Char} (h : r.addChar state c = .ok r') :
    r.field.length < fieldLimit ∧ r' = { r with state, field := r.field ++ [c] } := by
  rw [addChar] at h
  split at h
  · cases h
  · cases h
    exact ⟨by omega, rfl⟩

/-- The reader is where a field may end: the cell is the last one so far. -/
theorem Reads.exists_cell {p : List Char} {r : Reader} (h : Reads p r)
    (hstate : r.state = .startField ∨ r.state = .inField ∨ r.state = .quoteInQuotedField) :
    ∃ (cells : List Cell) (cell : Cell), p = begun cells ++ cell.text ∧ (∀ cell ∈ cells, cell.Closed) ∧ cell.Closed ∧
      (cells ≠ [] ∨ cell.text ≠ []) ∧ r.Done (cells.map Cell.value ++ [cell.value]) := by
  cases h with
  | startRecord | inQuotedField | eatCrnl => simp at hstate
  | @startField cells hne hcells =>
    exact ⟨cells, .bare [], (List.append_nil _).symm, hcells, Cell.closed_bare_nil, .inl hne, .inl rfl, rfl⟩
  | @inField cells cell hcells hcell hout =>
    refine ⟨cells, cell, rfl, hcells, hcell, .inr ?_, .inr (.inl rfl), rfl⟩
    cases cell with
    | bare text => exact hout
    | quoted inner tail => exact List.cons_ne_nil _ _
  | @quoteInQuotedField cells inner hcells hshort =>
    refine ⟨cells, .quoted inner [], rfl, hcells, Cell.closed_quoted_nil hshort, .inr (List.cons_ne_nil _ _), .inr (.inr rfl), ?_⟩
    simp [Cell.value]

/-- Where a field may end, what was read is a row. -/
theorem Reads.exists_row {p : List Char} {r : Reader} (h : Reads p r)
    (hstate : r.state = .startField ∨ r.state = .inField ∨ r.state = .quoteInQuotedField) :
    ∃ cells : List Cell, cells ≠ [] ∧ (∀ cell ∈ cells, cell.Closed) ∧ row cells = p ∧ begun cells = p ++ [','] ∧
      record cells = cells.map Cell.value ∧ r.Done (cells.map Cell.value) := by
  obtain ⟨cells, cell, rfl, hcells, hcell, hne, hdone⟩ := h.exists_cell hstate
  have hall : ∀ cell' ∈ cells ++ [cell], cell'.Closed :=
    List.forall_mem_append.2 ⟨hcells, List.forall_mem_singleton.2 hcell⟩
  have hvalues : (cells ++ [cell]).map Cell.value = cells.map Cell.value ++ [cell.value] := by
    rw [List.map_append, List.map_singleton]
  rw [← hvalues] at hdone
  refine ⟨cells ++ [cell], List.append_ne_nil_of_right_ne_nil _ (List.cons_ne_nil _ _), hall, row_concat cells cell,
    begun_concat cells cell, ?_, hdone⟩
  rw [record_concat hne, hvalues]

/-- A field ends. -/
theorem Reads.endField {p : List Char} {r r' : Reader} {c : Char} (h : Reads p r)
    (hstate : r.state = .startField ∨ r.state = .inField ∨ r.state = .quoteInQuotedField) (hend : c = ',' ∨ c = '\r')
    (hstep : r.processChar c = .ok r') : Reads (p ++ [c]) r' := by
  obtain ⟨cells, hne, hcells, hrow, hbegun, hrecord, hdone⟩ := h.exists_row hstate
  obtain rfl | rfl := hend
  · rw [hdone.comma] at hstep
    cases hstep
    rw [← hbegun]
    exact .startField hne hcells
  · rw [hdone.isBreak rfl] at hstep
    cases hstep
    rw [← hrow, ← hrecord]
    exact @Reads.eatCrnl cells 1 hne hcells

/-- A cell goes on, outside its quotes where it has some. -/
theorem Reads.push {cells : List Cell} {cell : Cell} (hcells : ∀ cell ∈ cells, cell.Closed) (hcell : cell.Closed) {c : Char}
    (hquote : cell.outside = [] → c ≠ '"') (hplain : CsvReader.isBreak c = false ∧ c ≠ ',')
    (hshort : cell.value.length < fieldLimit) :
    Reads (begun cells ++ cell.text ++ [c])
      { state := .inField, field := cell.value ++ [c], fields := cells.map Cell.value } := by
  have hreads := Reads.inField hcells (hcell.push hquote hplain hshort) (by simp [Cell.outside_push])
  rwa [Cell.text_push, Cell.value_push, ← List.append_assoc] at hreads

theorem escape_concat {inner : List Char} {c : Char} (h : c ≠ '"') : escape (inner ++ [c]) = escape inner ++ [c] := by
  simp [escape, h]

theorem escape_concat_quote (inner : List Char) : escape (inner ++ ['"']) = escape inner ++ ['"', '"'] := by
  simp [escape]

/-- The first character of a field, after some cells. -/
theorem Reads.of_startField {cells : List Cell} (hcells : ∀ cell ∈ cells, cell.Closed) {r r' : Reader}
    (hfield : r.field = []) (hfields : r.fields = cells.map Cell.value) {c : Char} (hbreak : CsvReader.isBreak c = false)
    (hstep : r.startField c = .ok r') : Reads (begun cells ++ [c]) r' := by
  rw [Reader.startField, if_neg (by simp [hbreak])] at hstep
  by_cases hquote : c = '"'
  · rw [if_pos hquote] at hstep
    cases hstep
    have hreads := @Reads.inQuotedField cells [] hcells (Nat.zero_le fieldLimit)
    rw [hquote, hfield, hfields]
    exact hreads
  · rw [if_neg hquote] at hstep
    by_cases hcomma : c = ','
    · rw [if_pos hcomma] at hstep
      cases hstep
      have hreads : Reads (begun (cells ++ [.bare []])) _ := .startField (by simp)
        (List.forall_mem_append.2 ⟨hcells, List.forall_mem_singleton.2 Cell.closed_bare_nil⟩)
      rw [begun_concat, List.map_append] at hreads
      rw [saveField, hfield, hfields, hcomma]
      simpa [Cell.text, Cell.value] using hreads
    · rw [if_neg hcomma] at hstep
      obtain ⟨-, rfl⟩ := addChar_eq_ok hstep
      have hreads := Reads.push hcells Cell.closed_bare_nil (fun _ => hquote) ⟨hbreak, hcomma⟩ (show 0 < fieldLimit by decide)
      rw [hfield, hfields]
      simpa [Cell.text, Cell.value] using hreads

/-- One more character of the line. -/
theorem Reads.processChar {p : List Char} {r r' : Reader} {c : Char} (h : Reads p r)
    (hfeed : c ≠ '\n' ∨ r.state = .inQuotedField) (hstep : r.processChar c = .ok r') : Reads (p ++ [c]) r' := by
  have hreturn : r.state ≠ .inQuotedField → CsvReader.isBreak c = true → c = '\r' := by
    intro hstate hbreak
    rw [CsvReader.isBreak, Bool.or_eq_true, beq_iff_eq, beq_iff_eq] at hbreak
    exact hbreak.resolve_left (hfeed.resolve_right hstate)
  -- the end of a field is the same in three states
  have hends : r.state = .startField ∨ r.state = .inField ∨ r.state = .quoteInQuotedField →
      c = ',' ∨ CsvReader.isBreak c = true → Reads (p ++ [c]) r' := by
    intro hstate hend
    apply h.endField hstate _ hstep
    exact hend.imp_right (hreturn (by obtain h | h | h := hstate <;> simp [h]))
  have hplain : ¬ (c = ',' ∨ CsvReader.isBreak c = true) → CsvReader.isBreak c = false ∧ c ≠ ',' := fun hend =>
    ⟨Bool.eq_false_iff.2 (not_or.1 hend).2, (not_or.1 hend).1⟩
  cases h with
  | startRecord =>
    cases hbreak : CsvReader.isBreak c with
    | true =>
      rw [Reader.processChar, hbreak] at hstep
      cases hstep
      have hreads := @Reads.eatCrnl [.bare []] 1 (by simp) (List.forall_mem_singleton.2 Cell.closed_bare_nil)
      rw [hreturn (by simp) hbreak]
      exact hreads
    | false =>
      rw [Reader.processChar, hbreak] at hstep
      exact @Reads.of_startField [] (fun cell h => (List.not_mem_nil h).elim) _ _ rfl rfl _ hbreak hstep
  | @startField cells hne hcells =>
    by_cases hend : c = ',' ∨ CsvReader.isBreak c = true
    · exact hends (.inl rfl) hend
    · exact .of_startField hcells rfl rfl (hplain hend).1 hstep
  | @inField cells cell hcells hcell hout =>
    by_cases hend : c = ',' ∨ CsvReader.isBreak c = true
    · exact hends (.inr (.inl rfl)) hend
    · rw [Reader.processChar] at hstep
      dsimp only at hstep
      rw [if_neg (by simp [hplain hend]), if_neg (hplain hend).2] at hstep
      obtain ⟨hlt, rfl⟩ := addChar_eq_ok hstep
      exact .push hcells hcell (fun hnil => absurd hnil hout) (hplain hend) hlt
  | @inQuotedField cells inner hcells hshort =>
    rw [Reader.processChar] at hstep
    dsimp only at hstep
    by_cases hquote : c = '"'
    · rw [if_pos hquote] at hstep
      cases hstep
      have hreads := Reads.quoteInQuotedField hcells hshort
      rw [hquote]
      simpa [Cell.text] using hreads
    · rw [if_neg hquote] at hstep
      obtain ⟨hlt, rfl⟩ := addChar_eq_ok hstep
      have hreads := @Reads.inQuotedField cells (inner ++ [c]) hcells (by rw [List.length_append]; exact hlt)
      rw [escape_concat hquote] at hreads
      simpa using hreads
  | @quoteInQuotedField cells inner hcells hshort =>
    by_cases hend : c = ',' ∨ CsvReader.isBreak c = true
    · exact hends (.inr (.inr rfl)) hend
    · rw [Reader.processChar] at hstep
      dsimp only at hstep
      by_cases hquote : c = '"'
      · rw [if_pos hquote] at hstep
        obtain ⟨hlt, rfl⟩ := addChar_eq_ok hstep
        have hreads := @Reads.inQuotedField cells (inner ++ ['"']) hcells (by rw [List.length_append]; exact hlt)
        rw [escape_concat_quote] at hreads
        rw [hquote]
        simpa [Cell.text] using hreads
      · rw [if_neg hquote, if_neg (hplain hend).2, if_neg (by simp [hplain hend])] at hstep
        obtain ⟨hlt, rfl⟩ := addChar_eq_ok hstep
        have hreads := Reads.push hcells (Cell.closed_quoted_nil hshort) (fun _ => hquote) (hplain hend)
          (by simpa [Cell.value] using hlt)
        simpa [Cell.value] using hreads
  | @eatCrnl cells n hne hcells =>
    rw [Reader.processChar] at hstep
    dsimp only at hstep
    cases hbreak : CsvReader.isBreak c with
    | true =>
      rw [hbreak, if_pos rfl] at hstep
      cases hstep
      rw [hreturn (by simp) hbreak, List.append_assoc, ← List.replicate_succ']
      exact .eatCrnl hne hcells
    | false =>
      rw [hbreak, if_neg Bool.false_ne_true] at hstep
      cases hstep

theorem Reads.foldlM {p body : List Char} {r r' : Reader} (h : Reads p r) (hbody : '\n' ∉ body)
    (hfold : body.foldlM Reader.processChar r = .ok r') : Reads (p ++ body) r' := by
  induction body generalizing p r with
  | nil =>
    cases hfold
    rwa [List.append_nil]
  | cons c body ih =>
    rw [List.mem_cons, not_or] at hbody
    rw [List.foldlM_cons] at hfold
    obtain ⟨next, hstep, hfold⟩ := Checks.bind_eq_ok.1 hfold
    have hreads := ih (h.processChar (.inl (Ne.symm hbody.1)) hstep) hbody.2 hfold
    rwa [List.append_assoc] at hreads

/-- A line ends the record, or is inside quotes where it ends. -/
theorem Reads.feed {p body : List Char} {r r' : Reader} (h : Reads p r) (hbody : '\n' ∉ body)
    (hfeed : r.feed (body ++ ['\n']) = .ok r') :
    (∃ cells n, cells ≠ [] ∧ (∀ cell ∈ cells, cell.Closed) ∧ r' = { fields := record cells } ∧
      p ++ (body ++ ['\n']) = row cells ++ (List.replicate n '\r' ++ ['\n'])) ∨
    (r'.state = .inQuotedField ∧ Reads (p ++ (body ++ ['\n'])) r') := by
  rw [Reader.feed, List.foldlM_append] at hfeed
  obtain ⟨last, hlast, hend⟩ := Checks.bind_eq_ok.1 hfeed
  obtain ⟨read, hread, hstep⟩ := Checks.bind_eq_ok.1 hlast
  have hreads := h.foldlM hbody hread
  cases hend
  rw [List.foldlM_cons] at hstep
  obtain ⟨next, hstep, hnext⟩ := Checks.bind_eq_ok.1 hstep
  cases hnext
  rw [← List.append_assoc]
  have hends : read.state = .startField ∨ read.state = .inField ∨ read.state = .quoteInQuotedField →
      ∃ cells n, cells ≠ [] ∧ (∀ cell ∈ cells, cell.Closed) ∧ last.endLine = { fields := record cells } ∧
        p ++ body ++ ['\n'] = row cells ++ (List.replicate n '\r' ++ ['\n']) := by
    intro hstate
    obtain ⟨cells, hne, hcells, hrow, -, hrecord, hdone⟩ := hreads.exists_row hstate
    rw [hdone.isBreak rfl] at hstep
    cases hstep
    refine ⟨cells, 0, hne, hcells, ?_, ?_⟩
    · rw [hrecord]
      rfl
    · rw [hrow]
      rfl
  generalize p ++ body = q at hreads hends ⊢
  cases hreads with
  | startField hne hcells => exact .inl (hends (.inl rfl))
  | inField hcells hcell hout => exact .inl (hends (.inr (.inl rfl)))
  | quoteInQuotedField hcells hshort => exact .inl (hends (.inr (.inr rfl)))
  | startRecord =>
    cases hstep
    exact .inl ⟨[.bare []], 0, by simp, List.forall_mem_singleton.2 Cell.closed_bare_nil, rfl, rfl⟩
  | @eatCrnl cells n hne hcells =>
    cases hstep
    exact .inl ⟨cells, n, hne, hcells, rfl, List.append_assoc _ _ _⟩
  | @inQuotedField cells inner hcells hshort =>
    have hquoted := (Reads.inQuotedField hcells hshort).processChar (.inr rfl) hstep
    rw [Reader.processChar] at hstep
    dsimp only at hstep
    rw [if_neg (by decide)] at hstep
    obtain ⟨-, rfl⟩ := addChar_eq_ok hstep
    exact .inr ⟨rfl, hquoted⟩

end Reader

end CsvReader
