import SafetyConfirmation.Lib.Pattern
import SafetyConfirmation.Data.Value

/-!
# The fields of an employee

The syntactic checks of a name, a phone number and an e-mail address, and the one form in which phone numbers are stored.
-/

namespace SafetyConfirmation

namespace Employee

open Pattern

def maxNameLength : Nat := 100

/-- `^\+\d{1,15}$`. -/
def e164Re (phone : String) : Bool :=
  (lit ['+'] (between 1 15 isDecimal fun _ => atEnd ()) phone.toList).isSome

/-- `^0\d{9,10}$`. -/
def domesticJpRe (phone : String) : Bool :=
  (lit ['0'] (between 9 10 isDecimal fun _ => atEnd ()) phone.toList).isSome

/-- `[^\s@]`. -/
def isAddressChar (c : Char) : Bool := !isSpace c && c != '@'

/-- `^[^\s@]+@[^\s@]+\.[^\s@]+$`. -/
def emailRe (email : String) : Bool :=
  (plus isAddressChar (fun _ => lit ['@'] (plus isAddressChar fun _ => lit ['.'] (plus isAddressChar fun _ => atEnd ())))
    email.toList).isSome

def isValidE164 (phone : Value) : Bool := phone.asStr?.any e164Re

def isValidDomesticJp (phone : Value) : Bool := phone.asStr?.any domesticJpRe

@[simp] theorem isValidE164_str (phone : String) : isValidE164 (.str phone) = e164Re phone := rfl

@[simp] theorem isValidDomesticJp_str (phone : String) : isValidDomesticJp (.str phone) = domesticJpRe phone := rfl

/-- `domestic_to_e164`: the leading `0` becomes `+81`. -/
def domesticToE164 (phone : String) : String :=
  if domesticJpRe phone then "+81" ++ String.ofList phone.toList.tail else phone

def isValidName (name : Value) : Bool :=
  name.asStr?.any fun name => decide (0 < (strip name.toList).length ∧ (strip name.toList).length ≤ maxNameLength)

def isValidEmail (email : Value) : Bool := email.asStr?.any emailRe

example : [isValidE164 (.str "+819012345678"), isValidDomesticJp (.str "0312345678"), isValidEmail (.str "a@b.co"),
    isValidEmail (.str "a@b"), isValidName (.str " \t")] = [true, true, true, false, false] := by decide

theorem e164Re_starts {phone : String} (h : e164Re phone = true) : phone.toList.head? = some '+' := by
  obtain ⟨u, hu⟩ := Option.isSome_iff_exists.1 h
  obtain ⟨rest, hrest, -⟩ := lit_eq_some hu
  rw [hrest]
  rfl

theorem at_mem_of_emailRe {email : String} (h : emailRe email = true) : '@' ∈ email.toList := by
  obtain ⟨u, hu⟩ := Option.isSome_iff_exists.1 h
  obtain ⟨taken, rest, -, -, heq, hk⟩ := plus_eq_some hu
  obtain ⟨rest', hrest, -⟩ := lit_eq_some hk
  rw [heq, hrest]
  simp

/-- What is stored of an accepted number starts with `+`. -/
theorem domesticToE164_starts {phone : String} (h : e164Re phone = true ∨ domesticJpRe phone = true) :
    (domesticToE164 phone).toList.head? = some '+' := by
  rw [domesticToE164]
  split
  · simp
  · rename_i hdomestic
    exact e164Re_starts (h.resolve_right hdomestic)

end Employee

end SafetyConfirmation
