import SafetyConfirmation.Employee.Api
import SafetyConfirmation.Employee.PageChecks
import SafetyConfirmation.Response.Api

/-!
# The grammar of phone numbers

What `is_valid_e164` and `is_valid_domestic_jp` are to accept: a mark and ASCII digits, and nothing else. On which texts
they do, and what then becomes of two numbers that are the same.
-/

namespace SafetyConfirmation

namespace Employee

open Pattern EmployeePage

/-- The mark, from `low` to `high` ASCII digits, and nothing else. -/
def InGrammar (mark : Char) (low high : Nat) (s : List Char) : Prop :=
  ∃ digits, s = mark :: digits ∧ (low ≤ digits.length ∧ digits.length ≤ high) ∧ ∀ c ∈ digits, c.isDigit = true

/-- The grammar of E.164. -/
def IsE164 (phone : String) : Prop := InGrammar '+' 1 15 phone.toList

/-- The grammar of a domestic number. -/
def IsDomestic (phone : String) : Prop := InGrammar '0' 9 10 phone.toList

/-- The digits of the E.164 number that a text stands for, in digits of any script: in a domestic number `81` for the `0`. -/
def denotes (phone : String) : List Nat :=
  let values (cs : List Char) := (cs.filter isDecimal).map ResponseApi.decimalValue
  match phone.toList with
  | '0' :: rest => 8 :: 1 :: values rest
  | cs => values cs

/-- The checks accept the two grammars. -/
structure ChecksGrammar (s : String) : Prop where
  e164 : isValidE164 (.str s) = true ↔ IsE164 s
  domestic : isValidDomesticJp (.str s) = true ↔ IsDomestic s

/-- What is accepted of two texts is stored in the grammar, and as one number exactly where they denote one. -/
structure ChecksNumbers (s t : String) : Prop where
  left : ChecksGrammar s
  right : ChecksGrammar t
  stored : ∀ phone, phone = s ∨ phone = t → EmployeeApi.isValidPhone (.str phone) = true → IsE164 (domesticToE164 phone)
  same : EmployeeApi.isValidPhone (.str s) = true → EmployeeApi.isValidPhone (.str t) = true →
    (domesticToE164 s = domesticToE164 t ↔ denotes s = denotes t)

/-- A number in digits of other scripts, or one that a line break follows. -/
def IsForeign (phone : String) : Prop := IsForeignNumber '+' 1 15 phone.toList ∨ IsForeignNumber '0' 9 10 phone.toList

/-! ### The checks -/

/-- One of the two patterns, of a number with this mark. -/
theorem accepts_inGrammar_iff {mark : Char} {low high : Nat} (hlow : 0 < low) {s : List Char} {accepted : Bool}
    (haccepted : (lit [mark] (between low high isDecimal fun _ => atEnd ()) s).isSome = accepted) :
    (accepted = true ↔ InGrammar mark low high s) ↔ ¬ IsForeignNumber mark low high s := by
  subst haccepted
  rw [← number_eq_iff hlow, InGrammar, ← isSome_pageNumber_iff hlow]
  exact Bool.eq_iff_iff.symm.trans eq_comm

theorem checksGrammar_iff (s : String) : ChecksGrammar s ↔ ¬ IsForeign s := by
  have he164 : (isValidE164 (.str s) = true ↔ IsE164 s) ↔ _ := accepts_inGrammar_iff (by decide) rfl
  have hdomestic : (isValidDomesticJp (.str s) = true ↔ IsDomestic s) ↔ _ := accepts_inGrammar_iff (by decide) rfl
  rw [IsForeign, not_or, ← he164, ← hdomestic]
  exact ⟨fun h => ⟨h.e164, h.domestic⟩, fun h => ⟨h.1, h.2⟩⟩

theorem not_isDomestic_of_isE164 {phone : String} (h : IsE164 phone) : ¬ IsDomestic phone := by
  obtain ⟨digits, heq, -⟩ := h
  rintro ⟨digits', heq', -⟩
  rw [heq, List.cons.injEq] at heq'
  exact absurd heq'.1 (by decide)

/-! ### What is stored -/

theorem domesticToE164_of_isE164 {phone : String} (hgrammar : ChecksGrammar phone) (h : IsE164 phone) :
    domesticToE164 phone = phone := by
  refine if_neg fun hdomestic => not_isDomestic_of_isE164 h ?_
  exact hgrammar.domestic.1 hdomestic

theorem domesticToE164_of_isDomestic {phone : String} (hgrammar : ChecksGrammar phone) (h : IsDomestic phone) :
    domesticToE164 phone = "+81" ++ String.ofList phone.toList.tail :=
  if_pos (hgrammar.domestic.2 h)

/-- An accepted number is stored in the grammar, with the digits that it denotes. -/
theorem stored_digits {phone : String} (hgrammar : ChecksGrammar phone)
    (haccepted : EmployeeApi.isValidPhone (.str phone) = true) : ∃ digits,
      (domesticToE164 phone).toList = '+' :: digits ∧ (1 ≤ digits.length ∧ digits.length ≤ 15) ∧
        (∀ c ∈ digits, c.isDigit = true) ∧ denotes phone = digits.map ResponseApi.decimalValue := by
  have hvalues : ∀ {digits : List Char}, (∀ c ∈ digits, c.isDigit = true) → digits.filter isDecimal = digits :=
    fun hdigits => List.filter_eq_self.2 fun c hc => isDecimal_of_isDigit (hdigits c hc)
  rcases Bool.or_eq_true_iff.1 haccepted with he164 | hdomestic
  · have h := hgrammar.e164.1 he164
    rw [domesticToE164_of_isE164 hgrammar h]
    obtain ⟨digits, heq, hlength, hdigits⟩ := h
    refine ⟨digits, heq, hlength, hdigits, ?_⟩
    have hmark : isDecimal '+' = false := by decide
    simp [denotes, heq, hmark, hvalues hdigits]
  · have h := hgrammar.domestic.1 hdomestic
    rw [domesticToE164_of_isDomestic hgrammar h]
    obtain ⟨digits, heq, hlength, hdigits⟩ := h
    refine ⟨'8' :: '1' :: digits, by simp [heq], ?_, ?_, ?_⟩
    · simp only [List.length_cons]
      omega
    · simpa using hdigits
    · have h8 : ResponseApi.decimalValue '8' = 8 := by decide
      have h1 : ResponseApi.decimalValue '1' = 1 := by decide
      simp [denotes, heq, hvalues hdigits, h8, h1]

theorem isE164_domesticToE164 {phone : String} (hgrammar : ChecksGrammar phone)
    (haccepted : EmployeeApi.isValidPhone (.str phone) = true) : IsE164 (domesticToE164 phone) := by
  obtain ⟨digits, heq, hlength, hdigits, -⟩ := stored_digits hgrammar haccepted
  exact ⟨digits, heq, hlength, hdigits⟩

theorem decimalValue_of_isDigit {c : Char} (h : c.isDigit = true) : ResponseApi.decimalValue c = c.toNat - 0x30 := by
  rw [Char.isDigit, Bool.and_eq_true, decide_eq_true_eq, decide_eq_true_eq] at h
  have hlow : 0x30 ≤ c.toNat := h.1
  have hhigh : c.toNat ≤ 0x39 := h.2
  have hfirst : decide (0x30 ≤ c.toNat ∧ c.toNat < 0x30 + 10) = true := decide_eq_true ⟨hlow, by omega⟩
  rw [ResponseApi.decimalValue, show decimalZeros = 0x30 :: decimalZeros.tail from rfl, List.find?_cons, hfirst]
  rfl

theorem ofNat_decimalValue {c : Char} (h : c.isDigit = true) : Char.ofNat (0x30 + ResponseApi.decimalValue c) = c := by
  have hlow : 0x30 ≤ c.toNat := of_decide_eq_true (Bool.and_eq_true_iff.1 h).1
  rw [decimalValue_of_isDigit h, Nat.add_sub_cancel' hlow, Char.ofNat_toNat]

/-- ASCII digits are given by their values. -/
theorem eq_of_map_decimalValue {digits digits' : List Char} (hdigits : ∀ c ∈ digits, c.isDigit = true)
    (hdigits' : ∀ c ∈ digits', c.isDigit = true)
    (h : digits.map ResponseApi.decimalValue = digits'.map ResponseApi.decimalValue) : digits = digits' := by
  have hback : ∀ {cs : List Char}, (∀ c ∈ cs, c.isDigit = true) →
      (cs.map ResponseApi.decimalValue).map (fun n => Char.ofNat (0x30 + n)) = cs := by
    intro cs hcs
    rw [List.map_map]
    exact (List.map_congr_left fun c hc => ofNat_decimalValue (hcs c hc)).trans (List.map_id cs)
  rw [← hback hdigits, h, hback hdigits']

theorem checksNumbers_iff (s t : String) : ChecksNumbers s t ↔ ¬ IsForeign s ∧ ¬ IsForeign t := by
  rw [← checksGrammar_iff, ← checksGrammar_iff]
  constructor
  · exact fun h => ⟨h.left, h.right⟩
  · rintro ⟨hs, ht⟩
    refine ⟨hs, ht, ?_, fun haccepted haccepted' => ?_⟩
    · rintro phone (rfl | rfl) haccepted
      · exact isE164_domesticToE164 hs haccepted
      · exact isE164_domesticToE164 ht haccepted
    · obtain ⟨digits, heq, -, hdigits, hdenotes⟩ := stored_digits hs haccepted
      obtain ⟨digits', heq', -, hdigits', hdenotes'⟩ := stored_digits ht haccepted'
      rw [hdenotes, hdenotes', ← String.toList_inj, heq, heq', List.cons.injEq, eq_self, true_and]
      exact ⟨congrArg _, eq_of_map_decimalValue hdigits hdigits'⟩

end Employee

end SafetyConfirmation
