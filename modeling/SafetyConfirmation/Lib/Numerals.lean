import Mathlib.Algebra.Order.Ring.Rat
import SafetyConfirmation.Lib.Tokens

/-!
# Numbers written as texts

The decimal literals that ECMAScript's `parseFloat` and Python's `float` have in common, and what each of the two makes of
a text: the one reads the longest literal that the text starts with, the other wants nothing but a literal.
-/

namespace Numerals

open Tokens

/-- A floating point number, with exact rationals for the finite ones. -/
inductive Number where
  | finite (q : ℚ)
  | infinity (negative : Bool)
  | nan
  deriving DecidableEq

namespace Number

def add : Number → Number → Number
  | finite p, finite q => finite (p + q)
  | nan, _ | _, nan => nan
  | infinity negative, infinity negative' => if negative = negative' then infinity negative else nan
  | infinity negative, finite _ | finite _, infinity negative => infinity negative

/-- The quotient by a length. -/
def divNat (n : Nat) : Number → Number
  | finite q => finite (q / n)
  | x => x

def sum (xs : List Number) : Number := xs.foldl add (finite 0)

@[simp] theorem sum_map_finite (qs : List ℚ) : sum (qs.map finite) = finite qs.sum := by
  have hstart : ∀ (qs : List ℚ) (start : ℚ), (qs.map finite).foldl add (finite start) = finite (start + qs.sum) := by
    intro qs
    induction qs with
    | nil => simp
    | cons q qs ih =>
      intro start
      rw [List.map_cons, List.foldl_cons, add, ih, List.sum_cons, add_assoc]
  rw [sum, hstart, zero_add]

end Number

/-! ### Decimal literals -/

def natOf (digits : List Char) : Nat := digits.foldl (fun n c => 10 * n + (c.toNat - 48)) 0

/-- `[+-]?`: whether there is a minus, and the rest. -/
def sign : List Char → Bool × List Char
  | '+' :: cs => (false, cs)
  | '-' :: cs => (true, cs)
  | cs => (false, cs)

/-- `([eE][+-]?\d+)?`. -/
def exponent : List Char → Int × List Char
  | [] => (0, [])
  | c :: cs =>
    let (negative, rest) := sign cs
    let digits := rest.takeWhile Char.isDigit
    if (c = 'e' ∨ c = 'E') ∧ digits ≠ [] then
      (if negative then -(natOf digits : Int) else natOf digits, rest.dropWhile Char.isDigit)
    else (0, c :: cs)

/-- `(\.\d*)?`. -/
def fraction : List Char → List Char × List Char
  | '.' :: cs => (cs.takeWhile Char.isDigit, cs.dropWhile Char.isDigit)
  | cs => ([], cs)

def scale (n : Nat) (exponent : Int) : ℚ :=
  if 0 ≤ exponent then (n : ℚ) * 10 ^ exponent.toNat else (n : ℚ) / 10 ^ (-exponent).toNat

/-- The longest decimal literal without a sign that the text starts with, and the rest. -/
def unsigned (cs : List Char) : Option (ℚ × List Char) :=
  let whole := cs.takeWhile Char.isDigit
  let (part, rest) := fraction (cs.dropWhile Char.isDigit)
  if whole = [] ∧ part = [] then none
  else
    let (exp, rest) := exponent rest
    some (scale (natOf (whole ++ part)) (exp - part.length), rest)

def signed (negative : Bool) (q : ℚ) : ℚ := if negative then -q else q

/-! ### The two readers -/

/-- `Number.parseFloat`. -/
def parseFloat (cs : List Char) : Number :=
  let (negative, rest) := sign (cs.dropWhile isWhiteSpace)
  match unsigned rest with
  | some (q, _) => .finite (signed negative q)
  | none => if "Infinity".toList <+: rest then .infinity negative else .nan

/-- A digit or a white space of Unicode as the one of ASCII. -/
def transformDecimalAndSpace (c : Char) : Char :=
  if c.toNat < 127 then c
  else if Pattern.isSpace c then ' '
  else
    match Pattern.decimalZeros.find? fun start => decide (start ≤ c.toNat ∧ c.toNat < start + 10) with
    | some start => Char.ofNat (48 + (c.toNat - start))
    | none => c

def isAsciiSpace (c : Char) : Bool := decide (9 ≤ c.toNat ∧ c.toNat ≤ 13) || c == ' '

/-- The text without the underscores between two digits, and nothing where one stands elsewhere. -/
def withoutUnderscores (prev : Char) : List Char → Option (List Char)
  | [] => if prev = '_' then none else some []
  | c :: cs =>
    if c = '_' then (if prev.isDigit then withoutUnderscores c cs else none)
    else if prev = '_' ∧ c.isDigit = false then none
    else (withoutUnderscores c cs).map (c :: ·)

/-- What `float` makes of a text that it has cleaned. -/
def floatLiteral (cs : List Char) : Option Number :=
  let (negative, rest) := sign cs
  match unsigned rest with
  | some (q, []) => some (.finite (signed negative q))
  | _ =>
    let name := rest.map Char.toLower
    if name = "inf".toList ∨ name = "infinity".toList then some (.infinity negative)
    else if name = "nan".toList then some .nan
    else none

/-- `float(s)`, `none` for a `ValueError`. -/
def floatOf (cs : List Char) : Option Number :=
  (withoutUnderscores ' ' (trimBy isAsciiSpace (cs.map transformDecimalAndSpace))).bind floatLiteral

example : parseFloat "0.5abc".toList = .finite (1 / 2) ∧ floatOf "0.5abc".toList = none ∧
    parseFloat " .25e1 ".toList = .finite (5 / 2) ∧ floatOf " .25e1 ".toList = some (.finite (5 / 2)) ∧
    parseFloat "1_0".toList = .finite 1 ∧ floatOf "1_0".toList = some (.finite 10) := by decide +kernel

/-! ### Plain literals -/

/-- The characters of a decimal literal in ASCII without underscores. -/
def isPlain (c : Char) : Bool := c.isDigit || ['.', 'e', 'E', '+', '-'].contains c

theorem isPlain_cases {c : Char} (h : isPlain c = true) :
    c.toNat < 127 ∧ isWhiteSpace c = false ∧ isAsciiSpace c = false ∧ c ≠ '_' := by
  rw [isPlain, Bool.or_eq_true, List.contains_iff_mem] at h
  obtain hdigit | hother := h
  · rw [Char.isDigit, Bool.and_eq_true, decide_eq_true_eq, decide_eq_true_eq] at hdigit
    have hlow : 48 ≤ c.toNat := hdigit.1
    have hhigh : c.toNat ≤ 57 := hdigit.2
    refine ⟨by omega, ?_, ?_, ?_⟩
    · have hspaces : ∀ n ∈ [0x20, 0xa0, 0x1680, 0x2028, 0x2029, 0x202f, 0x205f, 0x3000, 0xfeff], n < 48 ∨ 57 < n := by
        decide
      rw [isWhiteSpace, Bool.or_eq_false_iff, Bool.or_eq_false_iff, decide_eq_false_iff_not, decide_eq_false_iff_not]
      refine ⟨⟨by omega, by omega⟩, ?_⟩
      rw [Bool.eq_false_iff, ne_eq, List.contains_iff_mem]
      intro hmem
      have := hspaces _ hmem
      omega
    · rw [isAsciiSpace, Bool.or_eq_false_iff, decide_eq_false_iff_not]
      refine ⟨by omega, ?_⟩
      rw [beq_eq_false_iff_ne]
      rintro rfl
      exact absurd hlow (by decide)
    · rintro rfl
      exact absurd hhigh (by decide)
  · simp only [List.mem_cons, List.not_mem_nil, or_false] at hother
    obtain rfl | rfl | rfl | rfl | rfl := hother <;> decide

theorem withoutUnderscores_of_not_mem {cs : List Char} (h : '_' ∉ cs) {prev : Char} (hprev : prev ≠ '_') :
    withoutUnderscores prev cs = some cs := by
  induction cs generalizing prev with
  | nil => exact if_neg hprev
  | cons c cs ih =>
    rw [List.mem_cons, not_or] at h
    obtain ⟨hc, hrest⟩ := h
    rw [withoutUnderscores, if_neg (Ne.symm hc), if_neg (fun hunderscore => hprev hunderscore.1), ih hrest (Ne.symm hc)]
    rfl

/-- Where a text of plain characters is a finite number for `float`, it is the same number for `parseFloat`. -/
theorem parseFloat_of_floatOf {cs : List Char} (hplain : ∀ c ∈ cs, isPlain c = true) {q : ℚ}
    (h : floatOf cs = some (.finite q)) : parseFloat cs = .finite q := by
  have htransform : cs.map transformDecimalAndSpace = cs := by
    rw [List.map_congr_left fun c hc => show transformDecimalAndSpace c = id c from if_pos (isPlain_cases (hplain c hc)).1,
      List.map_id]
  have htrim : trimBy isAsciiSpace cs = cs := trimBy_of_forall fun c hc => (isPlain_cases (hplain c hc)).2.2.1
  have hunderscores : withoutUnderscores ' ' cs = some cs :=
    withoutUnderscores_of_not_mem (fun hmem => (isPlain_cases (hplain _ hmem)).2.2.2 rfl) (by decide)
  have hstart : cs.dropWhile isWhiteSpace = cs := dropWhile_of_forall fun c hc => (isPlain_cases (hplain c hc)).2.1
  rw [floatOf, htransform, htrim, hunderscores, Option.bind_some, floatLiteral] at h
  rw [parseFloat, hstart]
  generalize sign cs = start at h ⊢
  obtain ⟨negative, rest⟩ := start
  dsimp only at h ⊢
  split at h
  · rename_i q' hliteral
    rw [hliteral]
    exact Option.some.inj h
  · split at h
    · cases h
    · split at h <;> cases h

end Numerals
