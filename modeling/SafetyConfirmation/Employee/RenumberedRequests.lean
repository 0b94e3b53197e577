import SafetyConfirmation.Employee.Renumbered

/-!
# Bodies and files with other phone numbers

Two bodies of a request, or two uploaded files, that differ in phone numbers that stand for each other, and what the parsers
make of them.
-/

namespace SafetyConfirmation

namespace EmployeeApi

open Checks Employee EmployeeCsv Audit

namespace Renumbered

section Bodies

variable (library : Library) (pairs : NumberPairs)

inductive PhoneAlike : Value → Value → Prop where
  | text {s s' : String} (h : pairs.Alike s s') : PhoneAlike (.str s) (.str s')
  | other (v : Value) (h : v.asStr? = none) : PhoneAlike v v

/-- Two records of a file: the same name with phone numbers that go together, or the same cells where they are not two. -/
inductive RecordAlike : List String → List String → Prop where
  | cells (name : String) {phone phone' : String} (h : pairs.Alike (stripped phone) (stripped phone')) :
      RecordAlike [name, phone] [name, phone']
  | same (record : List String) (h : record.length ≠ 2) : RecordAlike record record

structure TextAlike (text text' : Records) : Prop where
  records : List.Forall₂ (RecordAlike pairs) text.records text'.records
  error : text.error = text'.error

structure FileAlike (file file' : File) : Prop where
  size : file.size = file'.size
  text : Option.Rel (TextAlike pairs) file.text file'.text

inductive CsvAlike : Value → Value → Prop where
  | file {raw raw' : String} (hraw : raw ≠ "") (hraw' : raw' ≠ "")
      (h : ResultRel (FileAlike pairs) (library.decodeCsv raw) (library.decodeCsv raw')) : CsvAlike (.str raw) (.str raw')
  | other (v : Value) (h : v.asStr? = none ∨ v = .str "") : CsvAlike v v

structure FieldsAlike (body body' : Value) : Prop where
  phoneNumber : Option.Rel (PhoneAlike pairs) (body.get? "phoneNumber") (body'.get? "phoneNumber")
  csvBase64 : Option.Rel (CsvAlike library pairs) (body.get? "csvBase64") (body'.get? "csvBase64")
  others : ∀ key, key ≠ "phoneNumber" → key ≠ "csvBase64" → body.get? key = body'.get? key

inductive BodyAlike : RawBody → RawBody → Prop where
  | fields {items items' : List (String × Value)} (h : FieldsAlike library pairs (.dict items) (.dict items')) :
      BodyAlike (.json (.dict items)) (.json (.dict items'))
  | other (body : RawBody) (h : ∀ items, body ≠ .json (.dict items)) : BodyAlike body body

end Bodies

variable {library : Library} {pairs : NumberPairs}

theorem alike_parseBody {body body' : RawBody} (h : BodyAlike library pairs body body') :
    ResultRel (FieldsAlike library pairs) (parseBody body) (parseBody body') := by
  cases h with
  | fields h => exact .ok h
  | other _ h =>
    unfold parseBody
    split
    · exact .error _
    · exact .error _
    · exact absurd rfl (h _)
    · exact .error _

/-! ### A number in a body -/

theorem PhoneAlike.isValidPhone_eq {v v' : Value} (h : PhoneAlike pairs v v') : isValidPhone v = isValidPhone v' := by
  cases h with
  | text h =>
    rw [isValidPhone, isValidPhone, isValidE164_str, isValidE164_str, isValidDomesticJp_str, isValidDomesticJp_str,
      h.e164Re_eq, h.domesticJpRe_eq]
  | other => rfl

theorem PhoneAlike.paired {v v' : Value} (h : PhoneAlike pairs v v') (hvalid : isValidPhone v = true) :
    pairs.paired (domesticToE164 (v.asStr?.getD "")) (domesticToE164 (v'.asStr?.getD "")) := by
  cases h with
  | text h =>
    apply h.paired
    rw [isValidPhone, isValidE164_str, isValidDomesticJp_str, Bool.or_eq_true] at hvalid
    exact hvalid
  | other _ hv =>
    rw [isValidPhone, isValidE164, isValidDomesticJp, hv] at hvalid
    cases hvalid

theorem resultRel_require {ok ok' : Prop} [Decidable ok] [Decidable ok'] (h : ok ↔ ok') (e : PyError) :
    ResultRel (fun _ _ : PUnit => ok ∧ ok') (require ok e) (require ok' e) := by
  by_cases hok : ok
  · rw [require_of hok, require_of (h.1 hok)]
    exact .ok ⟨hok, h.1 hok⟩
  · rw [require, require, if_neg hok, if_neg fun hok' => hok (h.2 hok')]
    exact .error e

/-- What the two bodies ask for, of employees with one name. -/
structure NewAlike (pairs : NumberPairs) (new new' : Invocation.NewEmployee) : Prop where
  name : new.name = new'.name
  isAdmin : new.isAdmin = new'.isAdmin
  adminEmail : new.adminEmail = new'.adminEmail
  phone : pairs.paired new.phone new'.phone

theorem FieldsAlike.phone {body body' : Value} (h : FieldsAlike library pairs body body') {v v' : Value}
    (hdefault : PhoneAlike pairs v v') :
    PhoneAlike pairs ((body.get? "phoneNumber").getD v) ((body'.get? "phoneNumber").getD v') :=
  rel_getD h.phoneNumber hdefault

theorem alike_parseNewEmployee {body body' : Value} (h : FieldsAlike library pairs body body') :
    ResultRel (NewAlike pairs) (Invocation.parseNewEmployee body) (Invocation.parseNewEmployee body') := by
  have hphone := h.phone (.other .none rfl)
  rw [Invocation.parseNewEmployee, Invocation.parseNewEmployee, h.others "name" (by decide) (by decide),
    h.others "isAdmin" (by decide) (by decide), h.others "adminEmail" (by decide) (by decide)]
  refine (resultRel_require Iff.rfl _).bind fun _ _ _ => ?_
  refine (resultRel_require (by rw [hphone.isValidPhone_eq]) _).bind fun _ _ hvalid => ?_
  refine (resultRel_require Iff.rfl _).bind fun _ _ _ => .ok ⟨rfl, rfl, rfl, hphone.paired hvalid.1⟩

theorem alike_parseUpdate {body body' : Value} (h : FieldsAlike library pairs body body') (name : String)
    {phone phone' : String} (hphone : pairs.Alike phone phone') :
    ResultRel (fun new new' => new.1 = new'.1 ∧ pairs.paired new.2 new'.2) (Invocation.parseUpdate body name phone)
      (Invocation.parseUpdate body' name phone') := by
  have hnew := h.phone (.text hphone)
  rw [Invocation.parseUpdate, Invocation.parseUpdate, h.others "name" (by decide) (by decide)]
  refine (resultRel_require Iff.rfl _).bind fun _ _ _ => ?_
  refine (resultRel_require (by rw [hnew.isValidPhone_eq]) _).bind fun _ _ hvalid => ?_
  exact .ok ⟨rfl, hnew.paired hvalid.1⟩

/-! ### The rows of a file -/

def ImportRowAlike (pairs : NumberPairs) (row row' : EmployeeRow) : Prop :=
  row.name = row'.name ∧ pairs.paired row.phoneNumber row'.phoneNumber

/-- The loops over two files are as far, and have the same errors but for the numbers in them. -/
structure ScanAlike (pairs : NumberPairs) (scan scan' : Scan) : Prop where
  rows : List.Forall₂ (ImportRowAlike pairs) scan.rows scan'.rows
  errors : scan.errors.length = scan'.errors.length
  seenPhones : List.Forall₂ (fun seen seen' => pairs.paired seen.1 seen'.1 ∧ seen.2 = seen'.2) scan.seenPhones scan'.seenPhones
  dataRowCount : scan.dataRowCount = scan'.dataRowCount

namespace ScanAlike

variable {scan scan' : Scan}

theorem fail (h : ScanAlike pairs scan scan') (line : Nat) (reason reason' : String) :
    ScanAlike pairs (scan.fail line reason) (scan'.fail line reason') where
  rows := h.rows
  errors := by simp [Scan.fail, h.errors]
  seenPhones := h.seenPhones
  dataRowCount := h.dataRowCount

theorem rel_lookup_seen {seen seen' : List (String × Nat)}
    (h : List.Forall₂ (fun seen seen' => pairs.paired seen.1 seen'.1 ∧ seen.2 = seen'.2) seen seen') {p p' : String}
    (hp : pairs.paired p p') : seen.lookup p = seen'.lookup p' := by
  induction h with
  | nil => rfl
  | @cons entry entry' _ _ hentry _ ih =>
    rw [List.lookup_cons, List.lookup_cons, ih, hentry.2]
    have hsame : (p == entry.1) = (p' == entry'.1) := by
      rw [Bool.eq_iff_iff, beq_iff_eq, beq_iff_eq]
      exact pairs.eq_iff hp hentry.1
    rw [hsame]

theorem accept (h : ScanAlike pairs scan scan') (line : Nat) {row row' : EmployeeRow} (hrow : ImportRowAlike pairs row row')
    (phoneRaw phoneRaw' : String) : ScanAlike pairs (scan.accept line row phoneRaw) (scan'.accept line row' phoneRaw') := by
  rw [Scan.accept, Scan.accept, rel_lookup_seen h.seenPhones hrow.2]
  split
  · exact h.fail _ _ _
  · exact ⟨List.rel_append h.rows (.cons hrow .nil), h.errors, List.rel_append h.seenPhones (.cons ⟨hrow.2, rfl⟩ .nil),
      h.dataRowCount⟩

theorem record (h : ScanAlike pairs scan scan') (line : Nat) {record record' : List String}
    (hrecord : RecordAlike pairs record record') : ScanAlike pairs (scan.record line record) (scan'.record line record') := by
  cases hrecord with
  | @cells name phone phone' hphone =>
    rw [Scan.record, Scan.record, isValidDomesticJp_str, isValidDomesticJp_str, ← hphone.domesticJpRe_eq]
    split
    · exact h.fail _ _ _
    · split
      · exact h.fail _ _ _
      · rename_i hvalid
        rw [Bool.not_eq_true, Bool.not_eq_false'] at hvalid
        have hpaired := hphone.paired (.inr hvalid)
        have hrow : ImportRowAlike pairs { name := stripped name, phoneNumber := domesticToE164 (stripped phone) }
            { name := stripped name, phoneNumber := domesticToE164 (stripped phone') } := by
          refine ⟨rfl, ?_⟩
          dsimp only
          exact hpaired
        exact h.accept line hrow (stripped phone) (stripped phone')
  | same _ hlength =>
    unfold Scan.record
    split
    · exact absurd rfl hlength
    · exact h.fail _ _ _

theorem isBlank_eq {record record' : List String} (h : RecordAlike pairs record record') : isBlank record = isBlank record' := by
  cases h <;> rfl

theorem records (h : ScanAlike pairs scan scan') (line : Nat) {records records' : List (List String)}
    (hrecords : List.Forall₂ (RecordAlike pairs) records records') :
    ScanAlike pairs (scan.records line records) (scan'.records line records') := by
  induction hrecords generalizing scan scan' line with
  | nil => exact h
  | cons hrecord _ ih =>
    have hcounted : ScanAlike pairs { scan with dataRowCount := scan.dataRowCount + 1 }
        { scan' with dataRowCount := scan'.dataRowCount + 1 } :=
      ⟨h.rows, h.errors, h.seenPhones, congrArg (· + 1) h.dataRowCount⟩
    rw [Scan.records, Scan.records, ← isBlank_eq hrecord]
    generalize { scan with dataRowCount := scan.dataRowCount + 1 } = counted at hcounted
    generalize { scan' with dataRowCount := scan'.dataRowCount + 1 } = counted' at hcounted
    dsimp only
    rw [← hcounted.dataRowCount]
    split
    · exact ih h _
    · split
      · exact hcounted.fail _ _ _
      · exact ih (hcounted.record _ hrecord) _

end ScanAlike

/-- Two files are refused both, or have rows that go together. -/
structure ParsedAlike (pairs : NumberPairs) (parsed parsed' : CsvParseResult) : Prop where
  rows : List.Forall₂ (ImportRowAlike pairs) parsed.rows parsed'.rows
  errors : parsed.errors = [] ↔ parsed'.errors = []

theorem alike_fileError (reason reason' : String) : ParsedAlike pairs (fileError reason) (fileError reason') :=
  ⟨.nil, by simp [fileError]⟩

/-- A text that is no number is in both files or in neither. -/
theorem eq_text_iff {s s' text : String} (h : pairs.Alike s s') (he164 : e164Re text = false)
    (hdomestic : domesticJpRe text = false) : s = text ↔ s' = text := by
  have hdifferent : ∀ {check : String → Bool} {s : String}, check s = true → check text = false → s ≠ text := by
    rintro check s hs htext rfl
    rw [hs] at htext
    cases htext
  cases h with
  | number h => exact iff_of_false (hdifferent (pairs.e164_left h) he164) (hdifferent (pairs.e164_right h) he164)
  | domestic hs hs' h => exact iff_of_false (hdifferent hs hdomestic) (hdifferent hs' hdomestic)
  | same => exact Iff.rfl

theorem RecordAlike.isHeader_iff {header header' : List String} (h : RecordAlike pairs header header') :
    header.map stripped = requiredHeaders ↔ header'.map stripped = requiredHeaders := by
  cases h with
  | cells name hphone => simp [requiredHeaders, @eq_text_iff _ _ _ "phoneNumber" hphone (by decide) (by decide)]
  | same => exact Iff.rfl

theorem readsToTheEnd_eq {records records' : List (List String)} (h : List.Forall₂ (RecordAlike pairs) records records') :
    readsToTheEnd records = readsToTheEnd records' := by
  have hfilter : List.Forall₂ (RecordAlike pairs) (records.filter fun record => !isBlank record)
      (records'.filter fun record => !isBlank record) := by
    refine List.rel_filter ?_ h
    intro record record' hrecord
    show (!isBlank record) = true ↔ (!isBlank record') = true
    rw [ScanAlike.isBlank_eq hrecord]
  rw [readsToTheEnd, readsToTheEnd, hfilter.length_eq]

theorem alike_scan {records records' : List (List String)} (h : List.Forall₂ (RecordAlike pairs) records records') :
    ScanAlike pairs (Scan.records {} 2 records) (Scan.records {} 2 records') := by
  have hstart : ScanAlike pairs {} {} := ⟨.nil, rfl, .nil, rfl⟩
  exact hstart.records 2 h

theorem problems_eq_nil_iff {text text' : Records} (herror : text.error = text'.error) {records records' : List (List String)}
    (h : List.Forall₂ (RecordAlike pairs) records records') : problems text records = [] ↔ problems text' records' = [] := by
  rw [problems, problems, herror, readsToTheEnd_eq h, List.append_eq_nil_iff, List.append_eq_nil_iff,
    ← List.length_eq_zero_iff, (alike_scan h).errors, List.length_eq_zero_iff]

theorem alike_parseRecords {text text' : Records} (h : TextAlike pairs text text') :
    ParsedAlike pairs (parseRecords text) (parseRecords text') := by
  obtain ⟨records, error⟩ := text
  obtain ⟨records', error'⟩ := text'
  obtain ⟨hrecords, herror⟩ := h
  dsimp only at herror
  subst herror
  cases hrecords with
  | nil =>
    cases error with
    | none => exact alike_fileError _ _
    | some message => exact alike_fileError _ _
  | @cons header header' records records' hheader hrecords =>
    have hproblems : problems ⟨header :: records, error⟩ records = [] ↔ problems ⟨header' :: records', error⟩ records' = [] :=
      problems_eq_nil_iff rfl hrecords
    have hscan := alike_scan hrecords
    have hrows : (Scan.records {} 2 records).rows = [] ↔ (Scan.records {} 2 records').rows = [] := by
      rw [← List.length_eq_zero_iff, hscan.rows.length_eq, List.length_eq_zero_iff]
    rw [parseRecords, parseRecords]
    dsimp only
    by_cases hheaders : header.map stripped = requiredHeaders
    · rw [if_neg (not_not.2 hheaders), if_neg (not_not.2 (hheader.isHeader_iff.1 hheaders))]
      by_cases hgood : problems ⟨header :: records, error⟩ records = []
      · rw [if_neg (not_not.2 hgood), if_neg (not_not.2 (hproblems.1 hgood))]
        by_cases hempty : (Scan.records {} 2 records).rows = []
        · rw [if_pos hempty, if_pos (hrows.1 hempty)]
          exact alike_fileError _ _
        · rw [if_neg hempty, if_neg (mt hrows.2 hempty)]
          exact ⟨hscan.rows, Iff.rfl⟩
      · rw [if_pos hgood, if_pos (mt hproblems.2 hgood)]
        exact ⟨.nil, hproblems⟩
    · rw [if_pos hheaders, if_pos (mt hheader.isHeader_iff.2 hheaders)]
      exact ⟨.nil, Iff.rfl⟩

theorem alike_parseEmployeeCsv {file file' : File} (h : FileAlike pairs file file') :
    ParsedAlike pairs (parseEmployeeCsv file) (parseEmployeeCsv file') := by
  obtain ⟨size, text⟩ := file
  obtain ⟨size', text'⟩ := file'
  obtain ⟨hsize, htext⟩ := h
  dsimp only at hsize
  subst hsize
  rw [parseEmployeeCsv, parseEmployeeCsv]
  dsimp only
  split
  · exact alike_fileError _ _
  · cases htext with
    | none => exact alike_fileError _ _
    | some htext => exact alike_parseRecords htext

end Renumbered

end EmployeeApi

end SafetyConfirmation
