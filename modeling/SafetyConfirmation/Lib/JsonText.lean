import SafetyConfirmation.Lib.Binary64
import SafetyConfirmation.Lib.UnicodeText

/-!
# JSON texts

`json.loads` as the scanner of the standard library reads a text: the grammar of JSON with `NaN` and the infinities, where
a surrogate may be escaped alone, and where a float is the decimal that is written.
-/

open UnicodeText

inductive Json where
  | null
  | bool (b : Bool)
  | int (n : Int)
  /-- `numerator / denominator` as it is written; a comparison rounds it to the nearest double. -/
  | float (negative : Bool) (numerator denominator : Nat)
  | nonFinite
  | str (s : Text)
  | list (items : List Json)
  | dict (items : List (Text × Json))

namespace Json

/-- `d.get(key)`: a key that is written twice has the last value. -/
def get? (key : Text) (items : List (Text × Json)) : Option Json := items.reverse.lookup key

/-- `v == n`, for a natural number below `2 ^ 53`. -/
def equals (n : Nat) : Json → Bool
  | bool b => b.toNat == n
  | int m => m == n
  | float negative numerator denominator =>
    let double := Binary64.quotient numerator denominator
    double.mantissa == n * 2 ^ double.shift && (!negative || n == 0)
  | _ => false

/-! ### Strings -/

def isWhitespace (c : Nat) : Bool := c == 0x20 || c == 0x09 || c == 0x0a || c == 0x0d

def skip (text : Text) : Text := text.dropWhile isWhitespace

def hexDigit? (c : Nat) : Option Nat :=
  if 48 ≤ c ∧ c ≤ 57 then some (c - 48)
  else if 65 ≤ c ∧ c ≤ 70 then some (c - 65 + 10)
  else if 97 ≤ c ∧ c ≤ 102 then some (c - 97 + 10)
  else none

def hex4? : Text → Option (Nat × Text)
  | a :: b :: c :: d :: rest => do
    let a ← hexDigit? a
    let b ← hexDigit? b
    let c ← hexDigit? c
    let d ← hexDigit? d
    return (((a * 16 + b) * 16 + c) * 16 + d, rest)
  | _ => none

/-- `\uXXXX`, or two of them that are a pair of surrogates, after the `u`. -/
def unicodeEscape? (text : Text) : Option (Nat × Text) := do
  let (high, rest) ← hex4? text
  match rest with
  | backslash :: u :: rest' =>
    match if isHigh high && backslash == 0x5c && u == 0x75 then hex4? rest' else none with
    | some (low, rest'') => if isLow low then return (join high low, rest'') else return (high, rest)
    | none => return (high, rest)
  | _ => return (high, rest)

/-- What stands after a backslash: `"`, `\`, `/`, `b`, `f`, `n`, `r`, `t` or `u`. -/
def escape? : Text → Option (Nat × Text)
  | [] => none
  | c :: rest =>
    if c = 0x75 then unicodeEscape? rest
    else
      ([(0x22, 0x22), (0x5c, 0x5c), (0x2f, 0x2f), (0x62, 0x08), (0x66, 0x0c), (0x6e, 0x0a), (0x72, 0x0d),
        (0x74, 0x09)].lookup c).map fun c => (c, rest)

/-- A string after its first quote, and what follows its last. -/
def scanStringFrom : Nat → Text → Option (Text × Text)
  | _, [] => none
  | 0, _ :: _ => none
  | fuel + 1, c :: rest =>
    if c = 0x22 then some ([], rest)
    else if c = 0x5c then do
      let (c, rest) ← escape? rest
      let (s, rest) ← scanStringFrom fuel rest
      return (c :: s, rest)
    else if c < 0x20 then none
    else do
      let (s, rest) ← scanStringFrom fuel rest
      return (c :: s, rest)

def scanString (text : Text) : Option (Text × Text) := scanStringFrom text.length text

/-! ### Numbers and names -/

def isDigit (c : Nat) : Bool := decide (48 ≤ c ∧ c ≤ 57)

def natOf (digits : Text) : Nat := digits.foldl (fun n c => n * 10 + (c - 48)) 0

/-- `int` takes no more digits. -/
def maxStrDigits : Nat := 4300

/-- Whether the text begins with a minus, and what follows its sign. -/
def scanSign : Text → Bool × Text
  | [] => (false, [])
  | c :: rest => if c = 0x2d then (true, rest) else (false, c :: rest)

/-- The same where a plus is a sign, too. -/
def scanExponentSign : Text → Bool × Text
  | [] => (false, [])
  | c :: rest => if c = 0x2b then (false, rest) else scanSign (c :: rest)

/-- `0`, or digits of which the first is none. -/
def scanWhole : Text → Option (Text × Text)
  | [] => none
  | c :: rest =>
    if c = 0x30 then some ([c], rest)
    else if isDigit c then some (c :: rest.takeWhile isDigit, rest.dropWhile isDigit)
    else none

/-- A point with digits after it. -/
def scanFraction (text : Text) : Text × Text :=
  match text with
  | [] => ([], [])
  | c :: rest =>
    if c = 0x2e ∧ rest.takeWhile isDigit ≠ [] then (rest.takeWhile isDigit, rest.dropWhile isDigit) else ([], text)

/-- `e` or `E` with digits after it, that may have a sign. -/
def scanExponent (text : Text) : Option Int × Text :=
  match text with
  | [] => (none, [])
  | c :: rest =>
    let (negative, rest) := scanExponentSign rest
    if (c = 0x65 ∨ c = 0x45) ∧ rest.takeWhile isDigit ≠ [] then
      let n : Int := natOf (rest.takeWhile isDigit)
      (some (if negative then -n else n), rest.dropWhile isDigit)
    else (none, text)

def scanNumber (text : Text) : Option (Json × Text) := do
  let (negative, text) := scanSign text
  let (whole, text) ← scanWhole text
  let (fraction, text) := scanFraction text
  let (exponent, text) := scanExponent text
  if fraction = [] ∧ exponent = none then
    let n : Int := natOf whole
    if whole.length ≤ maxStrDigits then return (int (if negative then -n else n), text) else none
  else
    let e := exponent.getD 0
    return (float negative (natOf (whole ++ fraction) * 10 ^ e.toNat) (10 ^ fraction.length * 10 ^ (-e).toNat), text)

def names : List (Text × Json) :=
  [(ofString "null", null), (ofString "true", bool true), (ofString "false", bool false), (ofString "NaN", nonFinite),
    (ofString "Infinity", nonFinite), (ofString "-Infinity", nonFinite)]

def scanName (text : Text) : Option (Json × Text) :=
  names.findSome? fun name => if name.1.isPrefixOf text then some (name.2, text.drop name.1.length) else none

/-! ### Values -/

mutual

/-- The value that a text begins with, and what follows it. -/
def scanValue : Nat → Text → Option (Json × Text)
  | 0, _ => none
  | _ + 1, [] => none
  | fuel + 1, c :: rest =>
    if c = 0x22 then (scanString rest).map fun scanned => (str scanned.1, scanned.2)
    else if c = 0x7b then
      if (skip rest).head? = some 0x7d then some (dict [], (skip rest).tail)
      else (scanMembers fuel (skip rest)).map fun scanned => (dict scanned.1, scanned.2)
    else if c = 0x5b then
      if (skip rest).head? = some 0x5d then some (list [], (skip rest).tail)
      else (scanElements fuel (skip rest)).map fun scanned => (list scanned.1, scanned.2)
    else (scanName (c :: rest)).or (scanNumber (c :: rest))

/-- One element or more, up to the bracket. -/
def scanElements : Nat → Text → Option (List Json × Text)
  | 0, _ => none
  | fuel + 1, text => do
    let (v, rest) ← scanValue fuel text
    match skip rest with
    | [] => none
    | c :: rest =>
      if c = 0x2c then do
        let (items, rest) ← scanElements fuel (skip rest)
        return (v :: items, rest)
      else if c = 0x5d then return ([v], rest)
      else none

/-- One member or more, up to the brace. -/
def scanMembers : Nat → Text → Option (List (Text × Json) × Text)
  | 0, _ => none
  | _ + 1, [] => none
  | fuel + 1, quote :: text =>
    if quote ≠ 0x22 then none
    else do
      let (key, rest) ← scanString text
      match skip rest with
      | [] => none
      | colon :: rest =>
        if colon ≠ 0x3a then none
        else do
          let (v, rest) ← scanValue fuel (skip rest)
          match skip rest with
          | [] => none
          | c :: rest =>
            if c = 0x2c then do
              let (items, rest) ← scanMembers fuel (skip rest)
              return ((key, v) :: items, rest)
            else if c = 0x7d then return ([(key, v)], rest)
            else none

end

/-- `json.loads` of a text: a value with white space around it. -/
def loads (text : Text) : Option Json := do
  let (v, rest) ← scanValue (2 * text.length + 1) (skip text)
  if skip rest = [] then return v else none

example : (loads (ofString " \x7b\"v\": 2.0e0, \"v\" : [1, \x7b\x7d]\x7d")).isSome = true ∧
    (loads (ofString "[1,]")).isSome = false ∧ ((loads (ofString "20e-1")).any fun v => v.equals 2) = true := by
  decide +kernel

/-! ### What is left is no longer -/

theorem length_dropWhile_le (p : Nat → Bool) (text : Text) : (text.dropWhile p).length ≤ text.length :=
  (List.dropWhile_sublist p).length_le

theorem length_skip_le (text : Text) : (skip text).length ≤ text.length := length_dropWhile_le _ _

theorem length_hex4 {text rest : Text} {c : Nat} (h : hex4? text = some (c, rest)) : rest.length < text.length := by
  match text with
  | [] | [_] | [_, _] | [_, _, _] => cases h
  | a :: b :: c :: d :: tail =>
    simp only [hex4?, Option.bind_eq_bind, Option.bind_eq_some_iff] at h
    obtain ⟨_, -, _, -, _, -, _, -, h⟩ := h
    simp only [Option.pure_def, Option.some.injEq, Prod.mk.injEq] at h
    rw [← h.2]
    simp only [List.length_cons]
    omega

theorem length_unicodeEscape {text rest : Text} {c : Nat} (h : unicodeEscape? text = some (c, rest)) :
    rest.length < text.length := by
  rw [unicodeEscape?, Option.bind_eq_bind, Option.bind_eq_some_iff] at h
  obtain ⟨⟨high, rest'⟩, hhigh, h⟩ := h
  have hlt := length_hex4 hhigh
  dsimp only at h
  split at h
  · rename_i backslash u tail
    split at h
    · rename_i low rest'' hlow
      split at h
      · simp only [Option.pure_def, Option.some.injEq, Prod.mk.injEq] at h
        rw [← h.2]
        split at hlow
        · have hlt' := length_hex4 hlow
          simp only [List.length_cons] at hlt
          omega
        · cases hlow
      · cases h
        exact hlt
    · cases h
      exact hlt
  · cases h
    exact hlt

theorem length_escape {text rest : Text} {c : Nat} (h : escape? text = some (c, rest)) : rest.length < text.length := by
  cases text with
  | nil => cases h
  | cons d tail =>
    rw [escape?] at h
    split at h
    · exact Nat.lt_succ_of_lt (length_unicodeEscape h)
    · obtain ⟨c', -, hc⟩ := Option.map_eq_some_iff.1 h
      cases hc
      exact Nat.lt_succ_self _

/-- A string has a character for each of its own at least, and its last quote. -/
theorem length_scanStringFrom {fuel : Nat} {text s rest : Text} (h : scanStringFrom fuel text = some (s, rest)) :
    s.length + rest.length < text.length := by
  induction fuel generalizing text s rest with
  | zero =>
    cases text with
    | nil => cases h
    | cons c text => cases h
  | succ fuel ih =>
    cases text with
    | nil => cases h
    | cons c text =>
      rw [scanStringFrom] at h
      split at h
      · cases h
        simp
      · split at h
        · simp only [Option.bind_eq_bind, Option.bind_eq_some_iff] at h
          obtain ⟨⟨d, tail⟩, hescape, ⟨s', rest'⟩, hstring, hcons⟩ := h
          simp only [Option.pure_def, Option.some.injEq, Prod.mk.injEq] at hcons
          have hlt : s'.length + rest'.length < tail.length := ih hstring
          have hlt' := length_escape hescape
          rw [← hcons.1, ← hcons.2]
          simp only [List.length_cons]
          omega
        · split at h
          · cases h
          · simp only [Option.bind_eq_bind, Option.bind_eq_some_iff] at h
            obtain ⟨⟨s', rest'⟩, hstring, hcons⟩ := h
            simp only [Option.pure_def, Option.some.injEq, Prod.mk.injEq] at hcons
            have hlt := ih hstring
            rw [← hcons.1, ← hcons.2]
            simp only [List.length_cons]
            omega

theorem length_scanString {text s rest : Text} (h : scanString text = some (s, rest)) :
    s.length + rest.length < text.length := length_scanStringFrom h

theorem length_scanSign (text : Text) : (scanSign text).2.length ≤ text.length := by
  cases text with
  | nil => exact Nat.le_refl _
  | cons c rest =>
    rw [scanSign]
    split
    · exact Nat.le_succ _
    · exact Nat.le_refl _

theorem length_scanExponentSign (text : Text) : (scanExponentSign text).2.length ≤ text.length := by
  cases text with
  | nil => exact Nat.le_refl _
  | cons c rest =>
    rw [scanExponentSign]
    split
    · exact Nat.le_succ _
    · exact length_scanSign _

theorem length_scanWhole {text whole rest : Text} (h : scanWhole text = some (whole, rest)) :
    rest.length ≤ text.length := by
  cases text with
  | nil => cases h
  | cons c text =>
    rw [scanWhole] at h
    split at h
    · cases h
      exact Nat.le_succ _
    · split at h
      · cases h
        exact Nat.le_succ_of_le (length_dropWhile_le _ _)
      · cases h

theorem length_scanFraction (text : Text) : (scanFraction text).2.length ≤ text.length := by
  cases text with
  | nil => exact Nat.le_refl _
  | cons c rest =>
    rw [scanFraction]
    split
    · exact Nat.le_succ_of_le (length_dropWhile_le _ _)
    · exact Nat.le_refl _

theorem length_scanExponent (text : Text) : (scanExponent text).2.length ≤ text.length := by
  cases text with
  | nil => exact Nat.le_refl _
  | cons c rest =>
    have hsign := length_scanExponentSign rest
    rw [scanExponent]
    dsimp only
    split
    · exact Nat.le_succ_of_le (Nat.le_trans (length_dropWhile_le _ _) hsign)
    · exact Nat.le_refl _

theorem length_scanNumber {text rest : Text} {v : Json} (h : scanNumber text = some (v, rest)) :
    rest.length ≤ text.length := by
  simp only [scanNumber, Option.bind_eq_bind, Option.bind_eq_some_iff] at h
  obtain ⟨⟨whole, tail⟩, hwhole, h⟩ := h
  have hsign := length_scanSign text
  have hle := length_scanWhole hwhole
  have hfraction := length_scanFraction tail
  have hexponent := length_scanExponent (scanFraction tail).2
  dsimp only at h
  split at h
  · split at h
    · cases h
      omega
    · cases h
  · cases h
    omega

theorem length_scanName {text rest : Text} {v : Json} (h : scanName text = some (v, rest)) :
    rest.length ≤ text.length := by
  obtain ⟨name, -, h⟩ := List.exists_of_findSome?_eq_some h
  split at h
  · cases h
    rw [List.length_drop]
    exact Nat.sub_le _ _
  · cases h

/-- A string of the value, or of a member of it, is no longer than this. -/
def StringsFit (n : Nat) : Json → Prop
  | str s => s.length ≤ n
  | dict items => ∀ entry ∈ items, ∀ s, entry.2 = str s → s.length ≤ n
  | _ => True

theorem stringsFit_scanName {n : Nat} {text rest : Text} {v : Json} (h : scanName text = some (v, rest)) :
    StringsFit n v := by
  obtain ⟨name, hname, h⟩ := List.exists_of_findSome?_eq_some h
  split at h
  · cases h
    simp only [names, List.mem_cons, List.not_mem_nil, or_false] at hname
    rcases hname with rfl | rfl | rfl | rfl | rfl | rfl <;> trivial
  · cases h

theorem stringsFit_scanNumber {n : Nat} {text rest : Text} {v : Json} (h : scanNumber text = some (v, rest)) :
    StringsFit n v := by
  simp only [scanNumber, Option.bind_eq_bind, Option.bind_eq_some_iff] at h
  obtain ⟨⟨whole, tail⟩, -, h⟩ := h
  dsimp only at h
  split at h
  · split at h
    · cases h
      trivial
    · cases h
  · cases h
    trivial

/-- What one fuel says of the scanners. -/
structure Shortens (fuel : Nat) : Prop where
  value : ∀ {text rest : Text} {v : Json}, scanValue fuel text = some (v, rest) →
    rest.length ≤ text.length ∧ StringsFit text.length v
  elements : ∀ {text rest : Text} {items : List Json}, scanElements fuel text = some (items, rest) →
    rest.length ≤ text.length
  members : ∀ {text rest : Text} {items : List (Text × Json)}, scanMembers fuel text = some (items, rest) →
    rest.length ≤ text.length ∧ ∀ entry ∈ items, ∀ s, entry.2 = str s → s.length ≤ text.length

section

variable {fuel : Nat} {text rest : Text}

theorem shortens_value (ih : Shortens fuel) {v : Json} (h : scanValue (fuel + 1) text = some (v, rest)) :
    rest.length ≤ text.length ∧ StringsFit text.length v := by
  cases text with
  | nil => cases h
  | cons c text =>
    have hskip := length_skip_le text
    have htail : (skip text).tail.length ≤ (skip text).length := by
      rw [List.length_tail]
      exact Nat.sub_le _ _
    rw [scanValue] at h
    rw [List.length_cons]
    split at h
    · obtain ⟨⟨s, rest'⟩, hstring, heq⟩ := Option.map_eq_some_iff.1 h
      cases heq
      have hlt := length_scanString hstring
      rw [StringsFit]
      dsimp only
      omega
    · split at h
      · split at h
        · cases h
          refine ⟨by omega, ?_⟩
          exact fun entry hentry => (List.not_mem_nil hentry).elim
        · obtain ⟨⟨items, rest'⟩, hmembers, heq⟩ := Option.map_eq_some_iff.1 h
          cases heq
          obtain ⟨hle, hfit⟩ := ih.members hmembers
          dsimp only
          refine ⟨by omega, fun entry hentry s hs => ?_⟩
          have hle' := hfit entry hentry s hs
          omega
      · split at h
        · split at h
          · cases h
            exact ⟨by omega, trivial⟩
          · obtain ⟨⟨items, rest'⟩, helements, heq⟩ := Option.map_eq_some_iff.1 h
            cases heq
            have hle := ih.elements helements
            dsimp only
            exact ⟨by omega, trivial⟩
        · obtain hname | ⟨-, hnumber⟩ := Option.or_eq_some_iff.1 h
          · exact ⟨length_scanName hname, stringsFit_scanName hname⟩
          · exact ⟨length_scanNumber hnumber, stringsFit_scanNumber hnumber⟩

theorem shortens_elements (ih : Shortens fuel) {items : List Json} (h : scanElements (fuel + 1) text = some (items, rest)) :
    rest.length ≤ text.length := by
  rw [scanElements, Option.bind_eq_bind, Option.bind_eq_some_iff] at h
  obtain ⟨⟨v, rest'⟩, hvalue, h⟩ := h
  have hle := (ih.value hvalue).1
  have hskip := length_skip_le rest'
  dsimp only at h
  split at h
  · cases h
  · rename_i c tail htail
    rw [htail, List.length_cons] at hskip
    split at h
    · rw [Option.bind_eq_bind, Option.bind_eq_some_iff] at h
      obtain ⟨⟨items', rest''⟩, helements, h⟩ := h
      cases h
      have hle' := ih.elements helements
      have hskip' := length_skip_le tail
      dsimp only
      omega
    · split at h
      · cases h
        omega
      · cases h

theorem shortens_members (ih : Shortens fuel) {items : List (Text × Json)}
    (h : scanMembers (fuel + 1) text = some (items, rest)) :
    rest.length ≤ text.length ∧ ∀ entry ∈ items, ∀ s, entry.2 = str s → s.length ≤ text.length := by
  cases text with
  | nil => cases h
  | cons quote text =>
    rw [scanMembers] at h
    rw [List.length_cons]
    split at h
    · cases h
    · rw [Option.bind_eq_bind, Option.bind_eq_some_iff] at h
      obtain ⟨⟨key, rest₁⟩, hkey, h⟩ := h
      have hlt := length_scanString hkey
      have hskip₁ := length_skip_le rest₁
      dsimp only at h
      split at h
      · cases h
      · rename_i colon tail₁ htail₁
        rw [htail₁, List.length_cons] at hskip₁
        split at h
        · cases h
        · rw [Option.bind_eq_bind, Option.bind_eq_some_iff] at h
          obtain ⟨⟨v, rest₂⟩, hvalue, h⟩ := h
          obtain ⟨hle, hfit⟩ := ih.value hvalue
          have hskip := length_skip_le tail₁
          have hskip₂ := length_skip_le rest₂
          have hstring : ∀ s, v = str s → s.length ≤ text.length + 1 := by
            rintro s rfl
            have hfit : s.length ≤ (skip tail₁).length := hfit
            omega
          dsimp only at h
          split at h
          · cases h
          · rename_i c tail₂ htail₂
            rw [htail₂, List.length_cons] at hskip₂
            split at h
            · rw [Option.bind_eq_bind, Option.bind_eq_some_iff] at h
              obtain ⟨⟨items', rest₃⟩, hmembers, h⟩ := h
              cases h
              obtain ⟨hle', hfit'⟩ := ih.members hmembers
              have hskip₃ := length_skip_le tail₂
              refine ⟨by dsimp only; omega, List.forall_mem_cons.2 ⟨hstring, fun entry hentry s hs => ?_⟩⟩
              have hle'' := hfit' entry hentry s hs
              omega
            · split at h
              · cases h
                exact ⟨by omega, List.forall_mem_singleton.2 hstring⟩
              · cases h

end

theorem shortens (fuel : Nat) : Shortens fuel := by
  induction fuel with
  | zero => exact ⟨nofun, nofun, nofun⟩
  | succ fuel ih => exact ⟨shortens_value ih, shortens_elements ih, shortens_members ih⟩

theorem StringsFit.mono {m n : Nat} {v : Json} (h : StringsFit m v) (hle : m ≤ n) : StringsFit n v := by
  cases v with
  | str s => exact Nat.le_trans h hle
  | dict items => exact fun entry hentry s hs => Nat.le_trans (h entry hentry s hs) hle
  | _ => trivial

theorem stringsFit_loads {text : Text} {v : Json} (h : loads text = some v) : StringsFit text.length v := by
  rw [loads, Option.bind_eq_bind, Option.bind_eq_some_iff] at h
  obtain ⟨⟨v', rest⟩, hvalue, h⟩ := h
  dsimp only at h
  split at h
  · cases h
    exact ((shortens _).value hvalue).2.mono (length_skip_le text)
  · cases h

/-! ### There is fuel enough -/

/-- Two steps for each character are enough: more make no difference. -/
structure Suffices (fuel : Nat) : Prop where
  value : ∀ text, 2 * text.length + 1 ≤ fuel → scanValue (fuel + 1) text = scanValue fuel text
  elements : ∀ text, 2 * text.length + 2 ≤ fuel → scanElements (fuel + 1) text = scanElements fuel text
  members : ∀ text, 2 * text.length + 2 ≤ fuel → scanMembers (fuel + 1) text = scanMembers fuel text

section

variable {fuel : Nat} {text : Text}

theorem suffices_value (ih : Suffices fuel) (h : 2 * text.length + 1 ≤ fuel + 1) :
    scanValue (fuel + 1 + 1) text = scanValue (fuel + 1) text := by
  cases text with
  | nil => rw [scanValue, scanValue]
  | cons c text =>
    have hskip := length_skip_le text
    rw [List.length_cons] at h
    rw [scanValue, scanValue, ih.members _ (by omega), ih.elements _ (by omega)]

theorem suffices_elements (ih : Suffices fuel) (h : 2 * text.length + 2 ≤ fuel + 1) :
    scanElements (fuel + 1 + 1) text = scanElements (fuel + 1) text := by
  rw [scanElements, scanElements, ih.value _ (by omega)]
  cases hvalue : scanValue fuel text with
  | none => rfl
  | some scanned =>
    obtain ⟨v, rest⟩ := scanned
    have hle := ((shortens fuel).value hvalue).1
    have hskip := length_skip_le rest
    simp only [Option.bind_eq_bind, Option.bind_some]
    cases hrest : skip rest with
    | nil => rfl
    | cons c tail =>
      have htail := length_skip_le tail
      rw [hrest, List.length_cons] at hskip
      dsimp only
      rw [ih.elements _ (by omega)]

theorem suffices_members (ih : Suffices fuel) (h : 2 * text.length + 2 ≤ fuel + 1) :
    scanMembers (fuel + 1 + 1) text = scanMembers (fuel + 1) text := by
  cases text with
  | nil => rw [scanMembers, scanMembers]
  | cons quote text =>
    rw [List.length_cons] at h
    rw [scanMembers, scanMembers]
    cases hkey : scanString text with
    | none => rfl
    | some scanned =>
      obtain ⟨key, rest⟩ := scanned
      have hlt := length_scanString hkey
      have hskip := length_skip_le rest
      simp only [Option.bind_eq_bind, Option.bind_some]
      cases hrest : skip rest with
      | nil => rfl
      | cons colon tail =>
        have htail := length_skip_le tail
        rw [hrest, List.length_cons] at hskip
        dsimp only
        rw [ih.value _ (by omega)]
        cases hvalue : scanValue fuel (skip tail) with
        | none => rfl
        | some scanned =>
          obtain ⟨v, rest'⟩ := scanned
          have hle := ((shortens fuel).value hvalue).1
          have hskip' := length_skip_le rest'
          simp only [Option.bind_some]
          cases hrest' : skip rest' with
          | nil => rfl
          | cons c tail' =>
            have htail' := length_skip_le tail'
            rw [hrest', List.length_cons] at hskip'
            dsimp only
            rw [ih.members _ (by omega)]

end

theorem suffices_all (fuel : Nat) : Suffices fuel := by
  induction fuel with
  | zero => exact ⟨nofun, nofun, nofun⟩
  | succ fuel ih =>
    exact ⟨fun _ h => suffices_value ih h, fun _ h => suffices_elements ih h, fun _ h => suffices_members ih h⟩

/-- The steps that `loads` allows never run out: any more of them read the same. -/
theorem loads_eq {text : Text} {fuel : Nat} (hfuel : 2 * text.length + 1 ≤ fuel) : loads text =
    (scanValue fuel (skip text)).bind fun scanned => if skip scanned.2 = [] then some scanned.1 else none := by
  have hscan : scanValue fuel (skip text) = scanValue (2 * text.length + 1) (skip text) := by
    induction fuel, hfuel using Nat.le_induction with
    | base => rfl
    | succ fuel hle ih =>
      have hskip := length_skip_le text
      rw [(suffices_all fuel).value (skip text) (by omega), ih]
  rw [hscan]
  rfl

/-! ### What is read of plain strings, and of other text -/

/-- A character that stands for itself in a string. -/
def IsPlain (c : Nat) : Prop := 0x20 ≤ c ∧ c ≠ 0x22 ∧ c ≠ 0x5c

theorem scanStringFrom_plain {s : Text} (hs : ∀ c ∈ s, IsPlain c) {fuel : Nat} (hfuel : s.length < fuel) (rest : Text) :
    scanStringFrom fuel (s ++ 0x22 :: rest) = some (s, rest) := by
  induction s generalizing fuel with
  | nil =>
    cases fuel with
    | zero => cases hfuel
    | succ fuel => rfl
  | cons c s ih =>
    cases fuel with
    | zero => cases hfuel
    | succ fuel =>
      obtain ⟨⟨hlow, hquote, hbackslash⟩, hs⟩ := List.forall_mem_cons.1 hs
      rw [List.cons_append, scanStringFrom, if_neg hquote, if_neg hbackslash, if_neg (by omega),
        ih hs (Nat.lt_of_succ_lt_succ hfuel)]
      rfl

theorem scanString_plain {s : Text} (hs : ∀ c ∈ s, IsPlain c) (rest : Text) :
    scanString (s ++ 0x22 :: rest) = some (s, rest) := by
  refine scanStringFrom_plain hs ?_ rest
  rw [List.length_append, List.length_cons]
  omega

theorem scanValue_plain {s : Text} (hs : ∀ c ∈ s, IsPlain c) (fuel : Nat) (rest : Text) :
    scanValue (fuel + 1) (0x22 :: (s ++ 0x22 :: rest)) = some (str s, rest) := by
  rw [scanValue, if_pos rfl, scanString_plain hs]
  rfl

/-- An object that is not empty. -/
theorem scanValue_brace (fuel : Nat) (rest : Text) : scanValue (fuel + 1) (0x7b :: 0x22 :: rest) =
    (scanMembers fuel (0x22 :: rest)).map fun scanned => (dict scanned.1, scanned.2) := by
  rw [scanValue, if_neg (by decide), if_pos rfl]
  show (if (some 0x22 : Option Nat) = some 0x7d then _ else _) = _
  rw [if_neg (by decide)]
  rfl

section

variable {key text rest : Text} {v : Json} {fuel : Nat} (hkey : ∀ c ∈ key, IsPlain c)

include hkey

/-- A member with another one after it. -/
theorem scanMembers_comma (hvalue : scanValue fuel (skip text) = some (v, 0x2c :: rest)) :
    scanMembers (fuel + 1) (0x22 :: (key ++ 0x22 :: 0x3a :: text)) =
      (scanMembers fuel (skip rest)).map fun scanned => ((key, v) :: scanned.1, scanned.2) := by
  rw [scanMembers, scanString_plain hkey]
  show (scanValue fuel (skip text) >>= _) = _
  rw [hvalue]
  show (scanMembers fuel (skip rest) >>= _) = _
  cases scanMembers fuel (skip rest) with
  | none => rfl
  | some scanned => rfl

theorem scanMembers_brace (hvalue : scanValue fuel (skip text) = some (v, 0x7d :: rest)) :
    scanMembers (fuel + 1) (0x22 :: (key ++ 0x22 :: 0x3a :: text)) = some ([(key, v)], rest) := by
  rw [scanMembers, scanString_plain hkey]
  show (scanValue fuel (skip text) >>= _) = _
  rw [hvalue]
  rfl

end

/-- No value begins with a character outside ASCII. -/
theorem loads_high {c : Nat} (hc : 0x80 ≤ c) (rest : Text) : loads (c :: rest) = none := by
  have hskip : skip (c :: rest) = c :: rest := by
    rw [skip, List.dropWhile_cons_of_neg]
    simp [isWhitespace]
    omega
  have hname : scanName (c :: rest) = none := by
    rw [scanName, List.findSome?_eq_none_iff]
    intro name hname
    rw [if_neg]
    simp only [names, List.mem_cons, List.not_mem_nil, or_false] at hname
    rcases hname with rfl | rfl | rfl | rfl | rfl | rfl <;>
    · simp [ofString, List.isPrefixOf]
      omega
  have hnumber : scanNumber (c :: rest) = none := by
    have hdigit : isDigit c = false := by
      rw [isDigit, decide_eq_false_iff_not]
      omega
    rw [scanNumber, scanSign, if_neg (by omega)]
    show (scanWhole (c :: rest) >>= _) = _
    rw [scanWhole, if_neg (by omega), hdigit]
    rfl
  rw [loads, hskip, List.length_cons]
  show (scanValue (2 * (rest.length + 1) + 1) (c :: rest) >>= _) = _
  rw [scanValue, if_neg (by omega), if_neg (by omega), if_neg (by omega), hname, hnumber]
  rfl

end Json
