import SafetyConfirmation.Lib.Numerals

/-!
# Decimals

The decimals of the General Decimal Arithmetic, which keep their digits and their exponent, with the text that Python's
`str` makes of one and the exact reading of such a text. What is written is read back as the same decimal, with its sign,
its digits and its exponent.
-/

namespace Decimals

open Numerals Tokens

/-- `(-1)^negative * coefficient * 10^exponent`. -/
structure Finite where
  negative : Bool
  coefficient : Nat
  exponent : Int
  deriving DecidableEq, Repr

inductive Decimal where
  | finite (x : Finite)
  | infinity (negative : Bool)
  | nan (negative signaling : Bool) (payload : Nat)
  deriving DecidableEq, Repr

namespace Finite

def ofInt (n : Int) : Finite := ⟨decide (n < 0), n.natAbs, 0⟩

def value (x : Finite) : ℚ := signed x.negative (scale x.coefficient x.exponent)

@[simp] theorem value_ofInt (n : Int) : (ofInt n).value = n := by
  have hscale : scale n.natAbs 0 = (n.natAbs : ℚ) := by rw [scale, if_pos le_rfl, Int.toNat_zero, pow_zero, mul_one]
  rw [value, ofInt, hscale, signed]
  by_cases hn : n < 0
  · rw [if_pos (decide_eq_true hn)]
    have habs : ((n.natAbs : Int) : ℚ) = ((-n : Int) : ℚ) := by rw [Int.ofNat_natAbs_of_nonpos (le_of_lt hn)]
    rw [Int.cast_natCast] at habs
    rw [habs, Int.cast_neg, neg_neg]
  · rw [if_neg (by simpa using hn)]
    have habs : ((n.natAbs : Int) : ℚ) = (n : ℚ) := by rw [Int.natAbs_of_nonneg (not_lt.1 hn)]
    rwa [Int.cast_natCast] at habs

/-! ### Writing -/

/-- How many digits of the mantissa stand before its point: all that the exponent leaves there where the text needs no
exponent of its own, and one elsewhere. -/
def dotplace (x : Finite) (leftdigits : Int) : Int := if x.exponent ≤ 0 ∧ -6 < leftdigits then leftdigits else 1

/-- The digits before the point and those after it. -/
def mantissa (digits : List Char) (dotplace : Int) : List Char × List Char :=
  if dotplace ≤ 0 then (['0'], List.replicate (-dotplace).toNat '0' ++ digits)
  else if digits.length ≤ dotplace then (digits ++ List.replicate (dotplace - digits.length).toNat '0', [])
  else (digits.take dotplace.toNat, digits.drop dotplace.toNat)

def signText (negative : Bool) : List Char := if negative then ['-'] else []

/-- There is no point without a digit after it. -/
def pointText (part : List Char) : List Char := if part = [] then [] else '.' :: part

/-- `E%+d`, and nothing for `0`. -/
def exponentText (e : Int) : List Char :=
  if e = 0 then [] else 'E' :: (if e < 0 then '-' else '+') :: Nat.toDigits 10 e.natAbs

def toText (x : Finite) : List Char :=
  let digits := Nat.toDigits 10 x.coefficient
  let leftdigits : Int := x.exponent + digits.length
  let place := x.dotplace leftdigits
  let (whole, part) := mantissa digits place
  signText x.negative ++ (whole ++ (pointText part ++ exponentText (leftdigits - place)))

/-! ### Reading -/

/-- `[+-]?\d*(\.\d*)?([eE][+-]?\d+)?` with a digit in its mantissa. -/
def ofText (cs : List Char) : Option Finite :=
  let (negative, rest) := sign cs
  let whole := rest.takeWhile Char.isDigit
  let (part, rest) := fraction (rest.dropWhile Char.isDigit)
  let (e, rest) := Numerals.exponent rest
  if (whole = [] ∧ part = []) ∨ rest ≠ [] then none
  else some ⟨negative, natOf (whole ++ part), e - part.length⟩

end Finite

/-- `str(d)`. -/
def Decimal.toText : Decimal → List Char
  | finite x => x.toText
  | infinity negative => Finite.signText negative ++ "Infinity".toList
  | nan negative signaling payload =>
    Finite.signText negative ++ (if signaling then "sNaN".toList else "NaN".toList) ++
      (if payload = 0 then [] else Nat.toDigits 10 payload)

namespace Finite

/-! ### Pieces -/

theorem natOf_eq (digits : List Char) : natOf digits = Nat.ofDigitChars 10 digits 0 := rfl

theorem natOf_replicate_append (n : Nat) (digits : List Char) : natOf (List.replicate n '0' ++ digits) = natOf digits := by
  rw [natOf_eq, Nat.ofDigitChars_append, Nat.ofDigitChars_replicate_zero, Nat.mul_zero, natOf_eq]

theorem isDigit_of_mem_toDigits {n : Nat} : ∀ c ∈ Nat.toDigits 10 n, c.isDigit = true :=
  fun _ hc => Nat.isDigit_of_mem_toDigits (by omega) le_rfl hc

/-- Digits are read up to whatever is none. -/
theorem span_digits {digits rest : List Char} (hdigits : ∀ c ∈ digits, c.isDigit = true)
    (hrest : ∀ c ∈ rest.head?, c.isDigit = false) :
    (digits ++ rest).takeWhile Char.isDigit = digits ∧ (digits ++ rest).dropWhile Char.isDigit = rest := by
  rw [List.takeWhile_append_of_pos hdigits, List.dropWhile_append_of_pos hdigits]
  cases rest with
  | nil => exact ⟨List.append_nil digits, rfl⟩
  | cons c rest =>
    have hc := hrest c rfl
    rw [List.takeWhile_cons_of_neg (by simp [hc]), List.dropWhile_cons_of_neg (by simp [hc]), List.append_nil]
    exact ⟨rfl, rfl⟩

theorem sign_signText {negative : Bool} {rest : List Char} (hrest : ∀ c ∈ rest.head?, c.isDigit = true) :
    sign (signText negative ++ rest) = (negative, rest) := by
  cases negative with
  | true => rfl
  | false =>
    cases rest with
    | nil => rfl
    | cons c rest =>
      have hc := hrest c rfl
      have hplus : c ≠ '+' := fun heq => by simp [heq] at hc
      have hminus : c ≠ '-' := fun heq => by simp [heq] at hc
      simp [signText, sign, hplus, hminus]

theorem fraction_pointText {part rest : List Char} (hpart : ∀ c ∈ part, c.isDigit = true)
    (hrest : ∀ c ∈ rest.head?, c.isDigit = false ∧ c ≠ '.') : fraction (pointText part ++ rest) = (part, rest) := by
  rw [pointText]
  split
  · subst part
    cases rest with
    | nil => rfl
    | cons c rest =>
      have hc := (hrest c rfl).2
      simp [fraction, hc]
  · obtain ⟨htake, hdrop⟩ := span_digits hpart fun c hc => (hrest c hc).1
    rw [List.cons_append, fraction, htake, hdrop]

theorem exponent_exponentText (e : Int) : Numerals.exponent (exponentText e) = (e, []) := by
  rw [exponentText]
  split
  · subst e
    rfl
  · obtain ⟨hall, hnone⟩ := @span_digits (Nat.toDigits 10 e.natAbs) [] isDigit_of_mem_toDigits nofun
    have hvalue : natOf (Nat.toDigits 10 e.natAbs) = e.natAbs := by rw [natOf_eq, Nat.ofDigitChars_ten_toDigits]
    rw [List.append_nil] at hall hnone
    by_cases he : e < 0
    · have habs : -(e.natAbs : Int) = e := by omega
      simp only [he, if_true, Numerals.exponent, sign, hall, hnone, hvalue, habs, or_true, true_and, ne_eq,
        Nat.toDigits_ne_nil, not_false_eq_true]
    · have habs : (e.natAbs : Int) = e := by omega
      simp only [he, if_false, Numerals.exponent, sign, hall, hnone, hvalue, habs, or_true, true_and, ne_eq,
        Nat.toDigits_ne_nil, not_false_eq_true, if_true, Bool.false_eq_true]

theorem head?_pointText (part : List Char) (e : Int) :
    ∀ c ∈ (pointText part ++ exponentText e).head?, c.isDigit = false := by
  intro c hc
  rw [pointText, exponentText] at hc
  split at hc
  · split at hc
    · cases hc
    · cases hc
      rfl
  · cases hc
    rfl

theorem head?_exponentText (e : Int) : ∀ c ∈ (exponentText e).head?, c.isDigit = false ∧ c ≠ '.' := by
  intro c hc
  rw [exponentText] at hc
  split at hc
  · cases hc
  · cases hc
    decide

/-- Any text of the shape is read as its pieces say. -/
theorem ofText_pieces {whole part : List Char} (negative : Bool) (e : Int) (hne : whole ≠ [])
    (hwhole : ∀ c ∈ whole, c.isDigit = true) (hpart : ∀ c ∈ part, c.isDigit = true) :
    ofText (signText negative ++ (whole ++ (pointText part ++ exponentText e))) =
      some ⟨negative, natOf (whole ++ part), e - part.length⟩ := by
  have hstart : ∀ c ∈ (whole ++ (pointText part ++ exponentText e)).head?, c.isDigit = true := by
    intro c hc
    rw [List.head?_append_of_ne_nil _ hne] at hc
    exact hwhole c (List.mem_of_head? hc)
  obtain ⟨hdigits, hafter⟩ := span_digits hwhole (head?_pointText part e)
  rw [ofText, sign_signText hstart]
  simp only [hdigits, hafter, fraction_pointText hpart (head?_exponentText e), exponent_exponentText]
  exact if_neg fun h => h.elim (fun hnil => hne hnil.1) fun hrest => hrest rfl

/-! ### Round trip -/

/-- The mantissa has the digits of the coefficient, after zeros, and the point stands `dotplace` digits in. -/
theorem mantissa_spec {digits whole part : List Char} {place : Int} (hdigits : ∀ c ∈ digits, c.isDigit = true)
    (hplace : place ≤ digits.length) (h : mantissa digits place = (whole, part)) :
    whole ≠ [] ∧ (∀ c ∈ whole, c.isDigit = true) ∧ (∀ c ∈ part, c.isDigit = true) ∧
      natOf (whole ++ part) = natOf digits ∧ (part.length : Int) = digits.length - place := by
  have hzero : ∀ (n : Nat), ∀ c ∈ List.replicate n '0', c.isDigit = true := by
    intro n c hc
    rw [List.eq_of_mem_replicate hc]
    rfl
  rw [mantissa] at h
  split at h
  · cases h
    refine ⟨List.cons_ne_nil _ _, hzero 1, ?_, ?_, ?_⟩
    · intro c hc
      exact (List.mem_append.1 hc).elim (hzero _ c) (hdigits c)
    · exact (natOf_replicate_append ((-place).toNat + 1) digits)
    · rw [List.length_append, List.length_replicate]
      omega
  · split at h
    · cases h
      have hpad : (place - digits.length).toNat = 0 := by omega
      have hne : digits ≠ [] := by
        apply List.ne_nil_of_length_pos
        omega
      rw [hpad, List.replicate_zero, List.append_nil]
      exact ⟨hne, hdigits, nofun, by rw [List.append_nil], by rw [List.length_nil]; omega⟩
    · cases h
      refine ⟨?_, fun c hc => hdigits c (List.mem_of_mem_take hc), fun c hc => hdigits c (List.mem_of_mem_drop hc), ?_, ?_⟩
      · apply List.ne_nil_of_length_pos
        rw [List.length_take]
        omega
      · rw [List.take_append_drop]
      · rw [List.length_drop]
        omega

/-- What is written is read back as the same decimal. -/
theorem ofText_toText (x : Finite) : ofText x.toText = some x := by
  have hlength : 0 < (Nat.toDigits 10 x.coefficient).length := Nat.length_toDigits_pos
  obtain ⟨whole, part, hmantissa⟩ : ∃ whole part, mantissa (Nat.toDigits 10 x.coefficient)
      (x.dotplace (x.exponent + (Nat.toDigits 10 x.coefficient).length)) = (whole, part) := ⟨_, _, rfl⟩
  have hplace : x.dotplace (x.exponent + (Nat.toDigits 10 x.coefficient).length) ≤
      (Nat.toDigits 10 x.coefficient).length := by
    rw [dotplace]
    split <;> omega
  obtain ⟨hne, hwhole, hpart, hvalue, hpoint⟩ := mantissa_spec isDigit_of_mem_toDigits hplace hmantissa
  simp only [toText, hmantissa]
  rw [ofText_pieces _ _ hne hwhole hpart, hvalue, natOf_eq, Nat.ofDigitChars_ten_toDigits, hpoint]
  have hexponent : ∀ left place length : Int, left = x.exponent + length → left - place - (length - place) = x.exponent := by
    omega
  rw [hexponent _ _ _ rfl]

example : toText ⟨false, 150, -2⟩ = "1.50".toList ∧ toText ⟨true, 1, -6⟩ = "-0.000001".toList ∧
    toText ⟨false, 12, -8⟩ = "1.2E-7".toList ∧ toText ⟨false, 5, 2⟩ = "5E+2".toList := by decide +kernel

theorem toText_ofInt (n : Int) : (ofInt n).toText = signText (decide (n < 0)) ++ Nat.toDigits 10 n.natAbs := by
  have hlength : 0 < (Nat.toDigits 10 n.natAbs).length := Nat.length_toDigits_pos
  have hplace : (ofInt n).dotplace ((Nat.toDigits 10 n.natAbs).length) = (Nat.toDigits 10 n.natAbs).length :=
    if_pos ⟨le_rfl, by omega⟩
  have hmantissa : mantissa (Nat.toDigits 10 n.natAbs) (Nat.toDigits 10 n.natAbs).length =
      (Nat.toDigits 10 n.natAbs, []) := by
    rw [mantissa, if_neg (by omega), if_pos le_rfl, sub_self, Int.toNat_zero, List.replicate_zero, List.append_nil]
  rw [toText]
  simp only [ofInt, zero_add] at hplace ⊢
  rw [hplace, hmantissa, sub_self]
  exact congrArg _ (List.append_nil _)

/-- An integer is written as the decimal that is equal to it. -/
theorem toList_toString (n : Int) : (toString n).toList = (ofInt n).toText := by
  rw [toText_ofInt]
  cases n with
  | ofNat n =>
    have htext : toString (Int.ofNat n) = toString n := rfl
    rw [htext, Nat.toString_eq_repr, Nat.toList_repr]
    rfl
  | negSucc n =>
    have htext : toString (Int.negSucc n) = "-" ++ toString (n + 1) := rfl
    rw [htext, String.toList_append, Nat.toString_eq_repr, Nat.toList_repr, decide_eq_true (Int.negSucc_lt_zero n)]
    rfl

theorem ofText_letter (negative : Bool) {c : Char} (hc : c ∈ ['I', 'N', 's']) (rest : List Char) :
    ofText (signText negative ++ c :: rest) = none := by
  simp only [List.mem_cons, List.not_mem_nil, or_false] at hc
  obtain rfl | rfl | rfl := hc <;> cases negative <;> rfl

end Finite

/-- Only the text of a finite decimal is read, and as that decimal. -/
theorem Decimal.ofText_toText_eq_some {d : Decimal} {x : Finite} : Finite.ofText d.toText = some x ↔ d = .finite x := by
  cases d with
  | finite y => rw [toText, Finite.ofText_toText, Option.some.injEq, finite.injEq]
  | infinity negative =>
    have hnone : Finite.ofText (toText (infinity negative)) = none := Finite.ofText_letter negative (by decide) _
    refine iff_of_false ?_ nofun
    rw [hnone]
    nofun
  | nan negative signaling payload =>
    have hnone : Finite.ofText (toText (nan negative signaling payload)) = none := by
      rw [toText, List.append_assoc]
      cases signaling with
      | true => exact Finite.ofText_letter negative (by decide) _
      | false => exact Finite.ofText_letter negative (by decide) _
    refine iff_of_false ?_ nofun
    rw [hnone]
    nofun

/-! ### Integers -/

/-- A sign and digits. -/
def intLiteral (cs : List Char) : Option Int :=
  let (negative, digits) := sign cs
  if digits ≠ [] ∧ digits.all Char.isDigit then some (if negative then -(natOf digits : Int) else natOf digits) else none

/-- `int(s)`, `none` for a `ValueError`. -/
def intOf (cs : List Char) : Option Int :=
  (withoutUnderscores ' ' (trimBy isAsciiSpace (cs.map transformDecimalAndSpace))).bind intLiteral

example : intOf " -1_2 ".toList = some (-12) ∧ intOf "1__2".toList = none ∧ intOf "1.0".toList = none := by decide +kernel

/-- A text of plain characters is read as it stands. -/
theorem intOf_of_plain {cs : List Char} (h : ∀ c ∈ cs, isPlain c = true) : intOf cs = intLiteral cs := by
  have htransform : cs.map transformDecimalAndSpace = cs := by
    rw [List.map_eq_iff]
    intro i
    cases hc : cs[i]? with
    | none => rfl
    | some c => exact congrArg some (if_pos (isPlain_cases (h c (List.mem_of_getElem? hc))).1).symm
  have htrim : trimBy isAsciiSpace cs = cs := trimBy_of_forall fun c hc => (isPlain_cases (h c hc)).2.2.1
  have hunderscore : '_' ∉ cs := fun hmem => (isPlain_cases (h _ hmem)).2.2.2 rfl
  rw [intOf, htransform, htrim, withoutUnderscores_of_not_mem hunderscore (by decide), Option.bind_some]

/-- What `str` writes of an integer is the integer for `int`. -/
theorem intOf_toString (n : Int) : intOf (toString n).toList = some n := by
  have hdigits : ∀ c ∈ Nat.toDigits 10 n.natAbs, c.isDigit = true := Finite.isDigit_of_mem_toDigits
  have hne : Nat.toDigits 10 n.natAbs ≠ [] := List.ne_nil_of_length_pos Nat.length_toDigits_pos
  have hsign : sign (Finite.signText (decide (n < 0)) ++ Nat.toDigits 10 n.natAbs) =
      (decide (n < 0), Nat.toDigits 10 n.natAbs) :=
    Finite.sign_signText fun c hc => hdigits c (List.mem_of_mem_head? hc)
  have hplain : ∀ c ∈ Finite.signText (decide (n < 0)) ++ Nat.toDigits 10 n.natAbs, isPlain c = true := by
    intro c hc
    rcases List.mem_append.1 hc with hc | hc
    · by_cases hneg : n < 0
      · simp only [hneg, decide_true, Finite.signText, if_true, List.mem_singleton] at hc
        subst c
        decide
      · simp [hneg, Finite.signText] at hc
    · simp [isPlain, hdigits c hc]
  have hvalue : natOf (Nat.toDigits 10 n.natAbs) = n.natAbs := by
    rw [Finite.natOf_eq, Nat.ofDigitChars_ten_toDigits]
  rw [Finite.toList_toString, Finite.toText_ofInt, intOf_of_plain hplain, intLiteral, hsign]
  dsimp only
  rw [if_pos ⟨hne, List.all_eq_true.2 hdigits⟩, hvalue]
  by_cases hneg : n < 0
  · rw [decide_eq_true hneg, if_pos rfl]
    congr 1
    omega
  · rw [decide_eq_false hneg, if_neg Bool.false_ne_true]
    congr 1
    omega

end Decimals
