import Mathlib.Algebra.GroupWithZero.Nat
import SafetyConfirmation.Employee.Validate
import SafetyConfirmation.Lib.Tokens

/-!
# The field checks of the pages

The checks of `validation.ts` against those of `validate.py`. The patterns read the same. In ECMAScript `\d` is an ASCII
digit, `\s` another set of characters, `$` the very end, and a length counts UTF-16 code units.
-/

namespace SafetyConfirmation

namespace EmployeePage

open Pattern Tokens

/-- `/^\+\d{1,15}$/`. -/
def e164Regex (phone : String) : Bool :=
  (lit ['+'] (between 1 15 Char.isDigit fun _ => finish ()) phone.toList).isSome

/-- `/^0\d{9,10}$/`. -/
def domesticJpRegex (phone : String) : Bool :=
  (lit ['0'] (between 9 10 Char.isDigit fun _ => finish ()) phone.toList).isSome

/-- `[^\s@]`. -/
def isAddressChar (c : Char) : Bool := !isWhiteSpace c && c != '@'

/-- `/^[^\s@]+@[^\s@]+\.[^\s@]+$/`. -/
def emailRegex (email : String) : Bool :=
  (plus isAddressChar (fun _ => lit ['@'] (plus isAddressChar fun _ => lit ['.'] (plus isAddressChar fun _ => finish ())))
    email.toList).isSome

/-- `s.length`. -/
def codeUnits (cs : List Char) : Nat := (cs.map fun c => if c.toNat < 0x10000 then 1 else 2).sum

def maxNameLength : Nat := 100

def isValidE164 (phone : Value) : Bool := phone.asStr?.any e164Regex

def isValidDomesticPhone (phone : Value) : Bool := phone.asStr?.any domesticJpRegex

def domesticToE164 (phone : String) : String :=
  if domesticJpRegex phone then "+81" ++ String.ofList (phone.toList.drop 1) else phone

def isValidName (name : Value) : Bool :=
  name.asStr?.any fun name =>
    decide (0 < codeUnits (trim name.toList) ∧ codeUnits (trim name.toList) ≤ maxNameLength)

def isValidEmail (email : Value) : Bool := email.asStr?.any emailRegex

/-- The checks of the page and of the lambdas say the same of a text, and what either takes for a phone number becomes the
same number. -/
structure FieldsAlike (s : String) : Prop where
  name : isValidName (.str s) = Employee.isValidName (.str s)
  e164 : isValidE164 (.str s) = Employee.isValidE164 (.str s)
  domestic : isValidDomesticPhone (.str s) = Employee.isValidDomesticJp (.str s)
  email : isValidEmail (.str s) = Employee.isValidEmail (.str s)
  convert : isValidE164 (.str s) = true ∨ isValidDomesticPhone (.str s) = true ∨ Employee.isValidE164 (.str s) = true ∨
    Employee.isValidDomesticJp (.str s) = true → domesticToE164 s = Employee.domesticToE164 s

/-! ### Phone numbers -/

/-- A prefix and digits of any script, one of which is not in ASCII or which a line break follows. -/
def IsForeignNumber (first : Char) (low high : Nat) (s : List Char) : Prop :=
  ∃ digits tail, s = first :: (digits ++ tail) ∧ (low ≤ digits.length ∧ digits.length ≤ high) ∧
    (∀ c ∈ digits, isDecimal c = true) ∧ (tail = [] ∨ tail = ['\n']) ∧
    ((∃ c ∈ digits, c.isDigit = false) ∨ tail = ['\n'])

theorem isSome_pageNumber_iff {first : Char} {low high : Nat} (hlow : 0 < low) {s : List Char} :
    (lit [first] (between low high Char.isDigit fun _ => finish ()) s).isSome = true ↔
      ∃ digits, s = first :: digits ∧ (low ≤ digits.length ∧ digits.length ≤ high) ∧ ∀ c ∈ digits, c.isDigit = true := by
  simp only [isSome_lit, isSome_between hlow, isSome_finish]
  constructor
  · rintro ⟨rest, rfl, digits, tail, hlength, hall, rfl, rfl⟩
    exact ⟨digits, by simp, hlength, hall⟩
  · rintro ⟨digits, rfl, hlength, hall⟩
    exact ⟨digits, rfl, digits, [], hlength, hall, by simp, rfl⟩

theorem isSome_number_iff {first : Char} {low high : Nat} (hlow : 0 < low) {s : List Char} :
    (lit [first] (between low high isDecimal fun _ => atEnd ()) s).isSome = true ↔
      ∃ digits tail, s = first :: (digits ++ tail) ∧ (low ≤ digits.length ∧ digits.length ≤ high) ∧
        (∀ c ∈ digits, isDecimal c = true) ∧ (tail = [] ∨ tail = ['\n']) := by
  simp only [isSome_lit, isSome_between hlow, isSome_atEnd]
  constructor
  · rintro ⟨rest, rfl, digits, tail, hlength, hall, rfl, htail⟩
    exact ⟨digits, tail, rfl, hlength, hall, htail⟩
  · rintro ⟨digits, tail, rfl, hlength, hall, htail⟩
    exact ⟨digits ++ tail, rfl, digits, tail, hlength, hall, rfl, htail⟩

/-- The two patterns of a number disagree on the texts of that kind only. -/
theorem number_eq_iff {first : Char} {low high : Nat} (hlow : 0 < low) {s : List Char} :
    (lit [first] (between low high Char.isDigit fun _ => finish ()) s).isSome =
        (lit [first] (between low high isDecimal fun _ => atEnd ()) s).isSome ↔
      ¬ IsForeignNumber first low high s := by
  rw [Bool.eq_iff_iff, isSome_pageNumber_iff hlow, isSome_number_iff hlow]
  constructor
  · rintro h ⟨digits, tail, rfl, hlength, hall, htail, hforeign⟩
    obtain ⟨digits', heq, -, hdigits⟩ := h.2 ⟨digits, tail, rfl, hlength, hall, htail⟩
    rw [List.cons.injEq] at heq
    rw [← heq.2] at hdigits
    obtain ⟨c, hc, hother⟩ | rfl := hforeign
    · rw [hdigits c (List.mem_append_left _ hc)] at hother
      cases hother
    · exact absurd (hdigits '\n' (by simp)) (by decide)
  · intro hnot
    constructor
    · rintro ⟨digits, rfl, hlength, hall⟩
      exact ⟨digits, [], by simp, hlength, fun c hc => isDecimal_of_isDigit (hall c hc), .inl rfl⟩
    · rintro ⟨digits, tail, rfl, hlength, hall, htail⟩
      have hascii : ∀ c ∈ digits, c.isDigit = true := by
        intro c hc
        by_contra hother
        exact hnot ⟨digits, tail, rfl, hlength, hall, htail, .inl ⟨c, hc, by simpa using hother⟩⟩
      obtain rfl | rfl := htail
      · exact ⟨digits, by simp, hlength, hascii⟩
      · exact absurd ⟨digits, ['\n'], rfl, hlength, hall, .inr rfl, .inr rfl⟩ hnot

theorem isValidE164_eq_iff (s : String) :
    isValidE164 (.str s) = Employee.isValidE164 (.str s) ↔ ¬ IsForeignNumber '+' 1 15 s.toList :=
  number_eq_iff (by decide)

theorem isValidDomesticPhone_eq_iff (s : String) :
    isValidDomesticPhone (.str s) = Employee.isValidDomesticJp (.str s) ↔ ¬ IsForeignNumber '0' 9 10 s.toList :=
  number_eq_iff (by decide)

theorem domesticToE164_eq {s : String} (h : isValidDomesticPhone (.str s) = Employee.isValidDomesticJp (.str s)) :
    domesticToE164 s = Employee.domesticToE164 s := by
  have hregex : domesticJpRegex s = Employee.domesticJpRe s := h
  rw [domesticToE164, Employee.domesticToE164, hregex, List.drop_one]

/-! ### Names -/

/-- A name that is blank for one side only, or that is too long for one side only. -/
def IsForeignName (s : List Char) : Prop :=
  ((∀ c ∈ s, isSpace c = true) ∧ (∃ c ∈ s, isWhiteSpace c = false) ∧ codeUnits (trim s) ≤ maxNameLength) ∨
  ((∀ c ∈ s, isWhiteSpace c = true) ∧ (∃ c ∈ s, isSpace c = false) ∧ (strip s).length ≤ maxNameLength) ∨
  ((∃ c ∈ s, isSpace c = false) ∧ (∃ c ∈ s, isWhiteSpace c = false) ∧
    ¬ (codeUnits (trim s) ≤ maxNameLength ↔ (strip s).length ≤ maxNameLength))

theorem codeUnits_pos_iff {cs : List Char} : 0 < codeUnits cs ↔ cs ≠ [] := by
  cases cs with
  | nil => simp [codeUnits]
  | cons c cs =>
    refine iff_of_true ?_ (List.cons_ne_nil _ _)
    rw [codeUnits, List.map_cons, List.sum_cons]
    split <;> omega

theorem ne_nil_iff_exists {cls : Char → Bool} {s : List Char} : trimBy cls s ≠ [] ↔ ∃ c ∈ s, cls c = false := by
  rw [ne_eq, trimBy_eq_nil_iff]
  simp

theorem isValidName_eq_iff (s : String) :
    isValidName (.str s) = Employee.isValidName (.str s) ↔ ¬ IsForeignName s.toList := by
  have hpage : isValidName (.str s) = true ↔
      (∃ c ∈ s.toList, isWhiteSpace c = false) ∧ codeUnits (trim s.toList) ≤ maxNameLength := by
    refine decide_eq_true_iff.trans ?_
    rw [codeUnits_pos_iff, trim, ne_nil_iff_exists]
  have hlambda : Employee.isValidName (.str s) = true ↔
      (∃ c ∈ s.toList, isSpace c = false) ∧ (strip s.toList).length ≤ maxNameLength := by
    refine decide_eq_true_iff.trans ?_
    rw [List.length_pos_iff, strip_eq_trimBy, ne_nil_iff_exists]
    rfl
  have hblank : ∀ cls : Char → Bool, (∀ c ∈ s.toList, cls c = true) ↔ ¬ ∃ c ∈ s.toList, cls c = false := by
    simp
  rw [Bool.eq_iff_iff, hpage, hlambda, IsForeignName, hblank isSpace, hblank isWhiteSpace]
  by_cases hspace : ∃ c ∈ s.toList, isSpace c = false <;>
    by_cases hwhite : ∃ c ∈ s.toList, isWhiteSpace c = false <;>
    simp only [hspace, hwhite, true_and, false_and, not_true, not_false_iff, false_or, or_false, not_not, iff_false, false_iff,
      iff_self]

/-! ### E-mail addresses -/

/-- The form of an address, whatever its characters are. -/
def IsAddress (s : List Char) : Prop :=
  ∃ name domain top, s = name ++ '@' :: (domain ++ '.' :: top) ∧ (name ≠ [] ∧ domain ≠ [] ∧ top ≠ []) ∧
    '@' ∉ name ∧ '@' ∉ domain ∧ '@' ∉ top

/-- An address before a line break, or one with a character that only one of the languages takes for white space. -/
def IsForeignAddress (s : List Char) : Prop :=
  (∃ address, s = address ++ ['\n'] ∧ IsAddress address ∧ ∀ c ∈ address, isSpace c = false) ∨
  (IsAddress s ∧ (∀ c ∈ s, isSpace c = false) ∧ ∃ c ∈ s, isWhiteSpace c = true) ∨
  (IsAddress s ∧ (∀ c ∈ s, isWhiteSpace c = false) ∧ ∃ c ∈ s, isSpace c = true)

/-- What the pattern of an address accepts, for either kind of white space and either kind of end. -/
theorem isSome_address_iff {space : Char → Bool} (hat : space '@' = false) (hdot : space '.' = false)
    {last : Matcher Unit} {s : List Char} :
    (plus (fun c => !space c && c != '@') (fun _ => lit ['@'] (plus (fun c => !space c && c != '@') fun _ =>
      lit ['.'] (plus (fun c => !space c && c != '@') fun _ => last))) s).isSome = true ↔
    ∃ address tail, s = address ++ tail ∧ IsAddress address ∧ (∀ c ∈ address, space c = false) ∧
      (last tail).isSome = true := by
  have hcls : ∀ chars : List Char, (∀ c ∈ chars, (!space c && c != '@') = true) ↔
      (∀ c ∈ chars, space c = false) ∧ '@' ∉ chars := by
    intro chars
    simp only [Bool.and_eq_true, Bool.not_eq_true', bne_iff_ne, ne_eq]
    constructor
    · exact fun h => ⟨fun c hc => (h c hc).1, fun hmem => (h '@' hmem).2 rfl⟩
    · exact fun h c hc => ⟨h.1 c hc, fun heq => h.2 (heq ▸ hc)⟩
  simp only [isSome_plus, isSome_lit, hcls]
  constructor
  · rintro ⟨name, _, hname, ⟨hnameSpace, hnameAt⟩, rfl, _, rfl, domain, _, hdomain, ⟨hdomainSpace, hdomainAt⟩, rfl, _, rfl,
      top, tail, htop, ⟨htopSpace, htopAt⟩, rfl, htail⟩
    refine ⟨name ++ '@' :: (domain ++ '.' :: top), tail, by simp,
      ⟨name, domain, top, rfl, ⟨hname, hdomain, htop⟩, hnameAt, hdomainAt, htopAt⟩, ?_, htail⟩
    intro c hc
    simp only [List.mem_append, List.mem_cons] at hc
    obtain hc | rfl | hc | rfl | hc := hc
    · exact hnameSpace c hc
    · exact hat
    · exact hdomainSpace c hc
    · exact hdot
    · exact htopSpace c hc
  · rintro ⟨_, tail, rfl, ⟨name, domain, top, rfl, ⟨hname, hdomain, htop⟩, hnameAt, hdomainAt, htopAt⟩, hspace, htail⟩
    refine ⟨name, _, hname, ⟨fun c hc => hspace c (by simp [hc]), hnameAt⟩, by simp, _, rfl, domain, _, hdomain,
      ⟨fun c hc => hspace c (by simp [hc]), hdomainAt⟩, rfl, _, rfl, top, tail, htop,
      ⟨fun c hc => hspace c (by simp [hc]), htopAt⟩, rfl, htail⟩

theorem isValidEmail_eq_iff (s : String) :
    isValidEmail (.str s) = Employee.isValidEmail (.str s) ↔ ¬ IsForeignAddress s.toList := by
  have hpage : isValidEmail (.str s) = true ↔ IsAddress s.toList ∧ ∀ c ∈ s.toList, isWhiteSpace c = false := by
    refine (isSome_address_iff (by decide) (by decide)).trans ?_
    simp only [isSome_finish]
    constructor
    · rintro ⟨address, _, heq, haddress, hspace, rfl⟩
      rw [heq, List.append_nil]
      exact ⟨haddress, hspace⟩
    · rintro ⟨haddress, hspace⟩
      exact ⟨s.toList, [], by simp, haddress, hspace, rfl⟩
  have hlambda : Employee.isValidEmail (.str s) = true ↔
      (∃ address, s.toList = address ++ ['\n'] ∧ IsAddress address ∧ ∀ c ∈ address, isSpace c = false) ∨
        (IsAddress s.toList ∧ ∀ c ∈ s.toList, isSpace c = false) := by
    refine (isSome_address_iff (by decide) (by decide)).trans ?_
    simp only [isSome_atEnd]
    constructor
    · rintro ⟨address, _, heq, haddress, hspace, rfl | rfl⟩
      · rw [heq, List.append_nil]
        exact .inr ⟨haddress, hspace⟩
      · exact .inl ⟨address, heq, haddress, hspace⟩
    · rintro (⟨address, heq, haddress, hspace⟩ | ⟨haddress, hspace⟩)
      · exact ⟨address, ['\n'], heq, haddress, hspace, .inr rfl⟩
      · exact ⟨s.toList, [], by simp, haddress, hspace, .inl rfl⟩
  -- a line break is white space for the page, so that it accepts no address with one at its end
  have hbreak : (∃ address, s.toList = address ++ ['\n'] ∧ IsAddress address ∧ ∀ c ∈ address, isSpace c = false) →
      ∃ c ∈ s.toList, isWhiteSpace c = true := by
    rintro ⟨address, heq, -⟩
    exact ⟨'\n', by simp [heq], by decide⟩
  have hall : ∀ cls : Char → Bool, (∃ c ∈ s.toList, cls c = true) ↔ ¬ ∀ c ∈ s.toList, cls c = false := by
    simp
  rw [Bool.eq_iff_iff, hpage, hlambda, IsForeignAddress, hall isWhiteSpace, hall isSpace]
  rw [hall] at hbreak
  generalize (∃ address, s.toList = address ++ ['\n'] ∧ IsAddress address ∧ ∀ c ∈ address, isSpace c = false) = broken
    at hbreak ⊢
  generalize (∀ c ∈ s.toList, isWhiteSpace c = false) = white at hbreak ⊢
  generalize (∀ c ∈ s.toList, isSpace c = false) = space
  by_cases hbroken : broken
  · simp [hbroken, hbreak hbroken]
  · by_cases hwhite : white <;> by_cases hspace : space <;> simp [hbroken, hwhite, hspace]

/-- The page and the lambdas agree on a text exactly when it is no number, name or address of the kinds on which the two
languages differ. -/
theorem fieldsAlike_iff (s : String) : FieldsAlike s ↔
    ¬ IsForeignNumber '+' 1 15 s.toList ∧ ¬ IsForeignNumber '0' 9 10 s.toList ∧ ¬ IsForeignName s.toList ∧
      ¬ IsForeignAddress s.toList := by
  rw [← isValidE164_eq_iff, ← isValidDomesticPhone_eq_iff, ← isValidName_eq_iff, ← isValidEmail_eq_iff]
  constructor
  · exact fun h => ⟨h.e164, h.domestic, h.name, h.email⟩
  · rintro ⟨he164, hdomestic, hname, hemail⟩
    exact ⟨hname, he164, hdomestic, hemail, fun _ => domesticToE164_eq hdomestic⟩

/-- One text of each kind: full-width digits, a line break after the number, a name of a byte order mark, and an address
with one in it. -/
theorem fields_differ :
    (isValidE164 (.str "+81９０") = false ∧ Employee.isValidE164 (.str "+81９０") = true) ∧
    (isValidDomesticPhone (.str "0312345678\n") = false ∧ Employee.isValidDomesticJp (.str "0312345678\n") = true) ∧
    (isValidName (.str "\ufeff") = false ∧ Employee.isValidName (.str "\ufeff") = true) ∧
    (isValidEmail (.str "a\ufeff@b.co") = false ∧ Employee.isValidEmail (.str "a\ufeff@b.co") = true) ∧
    ¬ FieldsAlike "+81９０" := by
  refine ⟨by decide, by decide, by decide, by decide, fun h => ?_⟩
  exact absurd h.e164 (by decide)

end EmployeePage

end SafetyConfirmation
