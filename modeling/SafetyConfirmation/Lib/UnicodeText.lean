import Mathlib.Algebra.Group.Nat.Defs
import Mathlib.Data.List.Basic

/-!
# Text as code points, and its encodings

A text is the list of its code points, surrogates included: what a decoder makes of bytes may hold a surrogate that has no
partner. Decoding is `bytes.decode` with the error handler `surrogatepass`, which lets those through and nothing else that
is ill-formed; encoding is strict.
-/

abbrev Bytes := List UInt8

abbrev Text := List Nat

namespace UnicodeText

def ofString (s : String) : Text := s.toList.map Char.toNat

def isHigh (c : Nat) : Bool := decide (0xd800 ≤ c ∧ c < 0xdc00)

def isLow (c : Nat) : Bool := decide (0xdc00 ≤ c ∧ c < 0xe000)

/-- The code point of a pair of surrogates. -/
def join (high low : Nat) : Nat := 0x10000 + (high - 0xd800) * 0x400 + (low - 0xdc00)

/-- A code point that an encoding has bytes for. -/
def isScalar (c : Nat) : Bool := decide (c < 0xd800 ∨ 0xe000 ≤ c ∧ c < 0x110000)

/-! ### UTF-8 -/

def encodeCodePoint (c : Nat) : Bytes :=
  if c < 0x80 then [.ofNat c]
  else if c < 0x800 then [.ofNat (0xc0 + c / 64), .ofNat (0x80 + c % 64)]
  else if c < 0x10000 then [.ofNat (0xe0 + c / 4096), .ofNat (0x80 + c / 64 % 64), .ofNat (0x80 + c % 64)]
  else [.ofNat (0xf0 + c / 262144), .ofNat (0x80 + c / 4096 % 64), .ofNat (0x80 + c / 64 % 64), .ofNat (0x80 + c % 64)]

/-- `text.encode("utf-8")`. -/
def encodeUtf8 (text : Text) : Option Bytes :=
  if text.all isScalar then some (text.flatMap encodeCodePoint) else none

def isContinuation (b : UInt8) : Bool := decide (0x80 ≤ b.toNat ∧ b.toNat < 0xc0)

/-- Six more bits from each of `n` bytes. -/
def continued : Nat → Nat → Bytes → Option (Nat × Bytes)
  | 0, c, rest => some (c, rest)
  | n + 1, c, b :: rest => if isContinuation b then continued n (c * 64 + (b.toNat - 0x80)) rest else none
  | _ + 1, _, [] => none

/-- The code point that the bytes start with, and the bytes after it. A longer form than a code point needs is none. -/
def takeUtf8 : Bytes → Option (Nat × Bytes)
  | [] => none
  | a :: rest =>
    if a.toNat < 0x80 then some (a.toNat, rest)
    else if a.toNat < 0xc2 then none
    else if a.toNat < 0xe0 then continued 1 (a.toNat - 0xc0) rest
    else if a.toNat < 0xf0 then (continued 2 (a.toNat - 0xe0) rest).filter fun taken => decide (0x800 ≤ taken.1)
    else (continued 3 (a.toNat - 0xf0) rest).filter fun taken => decide (0x10000 ≤ taken.1 ∧ taken.1 < 0x110000)

/-- At most `fuel` code points. -/
def decodeUtf8From : Nat → Bytes → Option Text
  | _, [] => some []
  | 0, _ :: _ => none
  | fuel + 1, a :: bytes => do
    let (c, rest) ← takeUtf8 (a :: bytes)
    let text ← decodeUtf8From fuel rest
    return c :: text

def decodeUtf8 (bytes : Bytes) : Option Text := decodeUtf8From bytes.length bytes

/-- `bytes.decode("utf-8")`, with no error handler. -/
def decodeStrict (bytes : Bytes) : Option Text := (decodeUtf8 bytes).filter (·.all isScalar)

/-! ### UTF-16 and UTF-32 -/

def units16 (bigEndian : Bool) : Bytes → Option (List Nat)
  | [] => some []
  | [_] => none
  | a :: b :: rest => do
    let units ← units16 bigEndian rest
    return (if bigEndian then a.toNat * 256 + b.toNat else b.toNat * 256 + a.toNat) :: units

def joinPairs : List Nat → Text
  | [] => []
  | [unit] => [unit]
  | high :: low :: rest =>
    if isHigh high && isLow low then join high low :: joinPairs rest else high :: joinPairs (low :: rest)

def decodeUtf16 (bigEndian : Bool) (bytes : Bytes) : Option Text := (units16 bigEndian bytes).map joinPairs

def unit32 (bigEndian : Bool) (a b c d : UInt8) : Nat :=
  if bigEndian then ((a.toNat * 256 + b.toNat) * 256 + c.toNat) * 256 + d.toNat
  else ((d.toNat * 256 + c.toNat) * 256 + b.toNat) * 256 + a.toNat

def decodeUtf32 (bigEndian : Bool) : Bytes → Option Text
  | [] => some []
  | a :: b :: c :: d :: rest =>
    if unit32 bigEndian a b c d < 0x110000 then (decodeUtf32 bigEndian rest).map (unit32 bigEndian a b c d :: ·) else none
  | _ => none

/-! ### The encoding of a JSON text -/

inductive Encoding where
  | utf8
  | utf8Sig
  | utf16
  | utf16be
  | utf16le
  | utf32
  | utf32be
  | utf32le
  deriving DecidableEq

/-- Where no mark tells, the zeros of the first characters do. -/
def zeroPattern : Bytes → Encoding
  | a :: b :: c :: d :: _ =>
    if a = 0 then if b ≠ 0 then .utf16be else .utf32be
    else if b = 0 then if c ≠ 0 ∨ d ≠ 0 then .utf16le else .utf32le
    else .utf8
  | [a, b] => if a = 0 then .utf16be else if b = 0 then .utf16le else .utf8
  | _ => .utf8

/-- `json.detect_encoding`. -/
def detectEncoding (bytes : Bytes) : Encoding :=
  if [0x00, 0x00, 0xfe, 0xff].isPrefixOf bytes || [0xff, 0xfe, 0x00, 0x00].isPrefixOf bytes then .utf32
  else if [0xfe, 0xff].isPrefixOf bytes || [0xff, 0xfe].isPrefixOf bytes then .utf16
  else if [0xef, 0xbb, 0xbf].isPrefixOf bytes then .utf8Sig
  else zeroPattern bytes

/-- `bytes.decode(detect_encoding(bytes), "surrogatepass")`. -/
def decode (bytes : Bytes) : Option Text :=
  match detectEncoding bytes with
  | .utf8 => decodeUtf8 bytes
  | .utf8Sig => decodeUtf8 (bytes.drop 3)
  | .utf16 => decodeUtf16 ([0xfe, 0xff].isPrefixOf bytes) (bytes.drop 2)
  | .utf16be => decodeUtf16 true bytes
  | .utf16le => decodeUtf16 false bytes
  | .utf32 => decodeUtf32 ([0x00, 0x00].isPrefixOf bytes) (bytes.drop 4)
  | .utf32be => decodeUtf32 true bytes
  | .utf32le => decodeUtf32 false bytes

example : decode [0xff, 0xfe, 0x7b, 0x00, 0x00, 0xd8, 0x7d, 0x00] = some [0x7b, 0xd800, 0x7d] ∧
    decode [0xe2, 0x82, 0xac, 0xed, 0xa0, 0x80] = some [0x20ac, 0xd800] ∧ decode [0xc0, 0x80] = none := by decide

/-! ### Lengths -/

theorem length_continued {n c c' : Nat} {bytes rest : Bytes} (h : continued n c bytes = some (c', rest)) :
    rest.length ≤ bytes.length := by
  induction n generalizing c bytes with
  | zero =>
    cases h
    exact Nat.le_refl _
  | succ n ih =>
    cases bytes with
    | nil => cases h
    | cons b bytes =>
      rw [continued] at h
      split at h
      · exact Nat.le_succ_of_le (ih h)
      · cases h

theorem length_takeUtf8 {bytes rest : Bytes} {c : Nat} (h : takeUtf8 bytes = some (c, rest)) :
    rest.length < bytes.length := by
  cases bytes with
  | nil => cases h
  | cons a bytes =>
    rw [List.length_cons, Nat.lt_succ_iff]
    rw [takeUtf8] at h
    split at h
    · cases h
      exact Nat.le_refl _
    · split at h
      · cases h
      · split at h
        · exact length_continued h
        · split at h
          · exact length_continued (Option.filter_eq_some_iff.1 h).1
          · exact length_continued (Option.filter_eq_some_iff.1 h).1

/-- More fuel than there are bytes makes no difference. -/
theorem decodeUtf8From_congr {fuel fuel' : Nat} {bytes : Bytes} (h : bytes.length ≤ fuel) (h' : bytes.length ≤ fuel') :
    decodeUtf8From fuel bytes = decodeUtf8From fuel' bytes := by
  induction fuel generalizing fuel' bytes with
  | zero =>
    rw [List.eq_nil_of_length_eq_zero (Nat.le_zero.1 h), decodeUtf8From, decodeUtf8From]
  | succ fuel ih =>
    cases bytes with
    | nil => rw [decodeUtf8From, decodeUtf8From]
    | cons a bytes =>
      cases fuel' with
      | zero => cases h'
      | succ fuel' =>
        rw [decodeUtf8From, decodeUtf8From]
        cases htake : takeUtf8 (a :: bytes) with
        | none => rfl
        | some taken =>
          obtain ⟨c, rest⟩ := taken
          have hlt := length_takeUtf8 htake
          show (decodeUtf8From fuel rest >>= _) = (decodeUtf8From fuel' rest >>= _)
          rw [@ih fuel' rest (by simp at h hlt; omega) (by simp at h' hlt; omega)]

theorem decodeUtf8_of_takeUtf8 {bytes rest : Bytes} {c : Nat} (h : takeUtf8 bytes = some (c, rest)) :
    decodeUtf8 bytes = (decodeUtf8 rest).map (c :: ·) := by
  have hlt := length_takeUtf8 h
  rw [decodeUtf8, decodeUtf8]
  cases bytes with
  | nil => cases h
  | cons a bytes =>
    rw [List.length_cons, decodeUtf8From, h]
    show (decodeUtf8From bytes.length rest >>= fun text => some (c :: text)) = _
    rw [decodeUtf8From_congr (Nat.le_of_lt_succ hlt) (Nat.le_refl _)]
    cases decodeUtf8From rest.length rest with
    | none => rfl
    | some text => rfl

theorem decodeUtf8_eq_none {bytes : Bytes} (hbytes : bytes ≠ []) (h : takeUtf8 bytes = none) : decodeUtf8 bytes = none := by
  rw [decodeUtf8]
  cases bytes with
  | nil => exact absurd rfl hbytes
  | cons a bytes =>
    rw [List.length_cons, decodeUtf8From, h]
    rfl

theorem length_decodeUtf8 {bytes : Bytes} {text : Text} (h : decodeUtf8 bytes = some text) :
    text.length ≤ bytes.length := by
  induction hlength : bytes.length using Nat.strongRecOn generalizing bytes text with
  | ind length ih =>
    cases htake : takeUtf8 bytes with
    | none =>
      by_cases hbytes : bytes = []
      · rw [hbytes] at h
        cases h
        exact Nat.zero_le _
      · rw [decodeUtf8_eq_none hbytes htake] at h
        cases h
    | some taken =>
      obtain ⟨c, rest⟩ := taken
      have hlt := length_takeUtf8 htake
      rw [decodeUtf8_of_takeUtf8 htake, Option.map_eq_some_iff] at h
      obtain ⟨text', htext, rfl⟩ := h
      have hle := ih rest.length (hlength ▸ hlt) htext rfl
      rw [List.length_cons]
      omega

theorem length_units16 {bigEndian : Bool} {bytes : Bytes} {units : List Nat} (h : units16 bigEndian bytes = some units) :
    units.length ≤ bytes.length := by
  induction bytes using units16.induct generalizing units with
  | case1 =>
    cases h
    exact Nat.le_refl _
  | case2 => cases h
  | case3 a b rest ih =>
    rw [units16, Option.bind_eq_bind, Option.bind_eq_some_iff] at h
    obtain ⟨units', hunits, hcons⟩ := h
    cases hcons
    have hle := ih hunits
    rw [List.length_cons, List.length_cons, List.length_cons]
    omega

theorem length_joinPairs (units : List Nat) : (joinPairs units).length ≤ units.length := by
  induction units using joinPairs.induct with
  | case1 => exact Nat.le_refl _
  | case2 unit => exact Nat.le_refl _
  | case3 high low rest hpair ih =>
    rw [joinPairs, if_pos hpair, List.length_cons, List.length_cons, List.length_cons]
    omega
  | case4 high low rest hpair ih =>
    rw [joinPairs, if_neg hpair, List.length_cons, List.length_cons]
    exact Nat.succ_le_succ ih

theorem length_decodeUtf16 {bigEndian : Bool} {bytes : Bytes} {text : Text} (h : decodeUtf16 bigEndian bytes = some text) :
    text.length ≤ bytes.length := by
  obtain ⟨units, hunits, rfl⟩ := Option.map_eq_some_iff.1 h
  exact Nat.le_trans (length_joinPairs units) (length_units16 hunits)

theorem length_decodeUtf32 {bigEndian : Bool} {bytes : Bytes} {text : Text} (h : decodeUtf32 bigEndian bytes = some text) :
    text.length ≤ bytes.length := by
  fun_induction decodeUtf32 bigEndian bytes generalizing text with
  | case1 =>
    cases h
    exact Nat.le_refl _
  | case2 a b c d rest hunit ih =>
    obtain ⟨text', htext, rfl⟩ := Option.map_eq_some_iff.1 h
    have hle := ih htext
    simp only [List.length_cons]
    omega
  | case3 => cases h
  | case4 => cases h

/-- A text has no more code points than it had bytes. -/
theorem length_decode {bytes : Bytes} {text : Text} (h : decode bytes = some text) : text.length ≤ bytes.length := by
  have hdrop : ∀ n, (bytes.drop n).length ≤ bytes.length := fun n => by
    rw [List.length_drop]
    exact Nat.sub_le _ _
  rw [decode] at h
  split at h
  · exact length_decodeUtf8 h
  · exact Nat.le_trans (length_decodeUtf8 h) (hdrop 3)
  · exact Nat.le_trans (length_decodeUtf16 h) (hdrop 2)
  · exact length_decodeUtf16 h
  · exact length_decodeUtf16 h
  · exact Nat.le_trans (length_decodeUtf32 h) (hdrop 4)
  · exact length_decodeUtf32 h
  · exact length_decodeUtf32 h

/-! ### What is encoded is decoded -/

theorem toNat_ofNat {n : Nat} (h : n < 256) : (UInt8.ofNat n).toNat = n := Nat.mod_eq_of_lt h

theorem continued_cons (n c : Nat) {bits : Nat} (h : bits < 64) (rest : Bytes) :
    continued (n + 1) c (.ofNat (0x80 + bits) :: rest) = continued n (c * 64 + bits) rest := by
  have hbyte : (UInt8.ofNat (0x80 + bits)).toNat = 0x80 + bits := toNat_ofNat (by omega)
  rw [continued, isContinuation, hbyte, if_pos (by simp; omega), Nat.add_sub_cancel_left]

theorem takeUtf8_encodeCodePoint {c : Nat} (hc : c < 0x110000) (rest : Bytes) :
    takeUtf8 (encodeCodePoint c ++ rest) = some (c, rest) := by
  rw [encodeCodePoint]
  split
  · rw [List.singleton_append, takeUtf8, toNat_ofNat (by omega), if_pos (by omega)]
  · split
    · rw [List.cons_append, List.singleton_append, takeUtf8, toNat_ofNat (by omega), if_neg (by omega), if_neg (by omega),
        if_pos (by omega), continued_cons _ _ (by omega), continued]
      exact congrArg (fun c => some (c, rest)) (by omega)
    · split
      · rw [List.cons_append, List.cons_append, List.singleton_append, takeUtf8, toNat_ofNat (by omega), if_neg (by omega),
          if_neg (by omega), if_neg (by omega), if_pos (by omega), continued_cons _ _ (by omega),
          continued_cons _ _ (by omega), continued]
        have hvalue : ((0xe0 + c / 4096 - 0xe0) * 64 + c / 64 % 64) * 64 + c % 64 = c := by omega
        rw [hvalue, Option.filter_some, if_pos (by simp; omega)]
      · rw [List.cons_append, List.cons_append, List.cons_append, List.singleton_append, takeUtf8, toNat_ofNat (by omega),
          if_neg (by omega), if_neg (by omega), if_neg (by omega), if_neg (by omega), continued_cons _ _ (by omega),
          continued_cons _ _ (by omega), continued_cons _ _ (by omega), continued]
        have hvalue : (((0xf0 + c / 262144 - 0xf0) * 64 + c / 4096 % 64) * 64 + c / 64 % 64) * 64 + c % 64 = c := by omega
        rw [hvalue, Option.filter_some, if_pos (by simp; omega)]

theorem length_encodeCodePoint (c : Nat) : 0 < (encodeCodePoint c).length := by
  rw [encodeCodePoint]
  split
  · exact Nat.one_pos
  · split
    · exact Nat.two_pos
    · split
      · exact Nat.succ_pos 2
      · exact Nat.succ_pos 3

theorem decodeUtf8_flatMap {text : Text} (htext : ∀ c ∈ text, c < 0x110000) :
    decodeUtf8 (text.flatMap encodeCodePoint) = some text := by
  induction text with
  | nil => rfl
  | cons c text ih =>
    rw [List.forall_mem_cons] at htext
    rw [List.flatMap_cons, decodeUtf8_of_takeUtf8 (takeUtf8_encodeCodePoint htext.1 _), ih htext.2]
    rfl

/-- The strict decoder undoes the encoder. -/
theorem decodeStrict_of_encodeUtf8 {text : Text} {bytes : Bytes} (h : encodeUtf8 text = some bytes) :
    decodeStrict bytes = some text := by
  rw [encodeUtf8] at h
  split at h
  · rename_i hscalar
    cases h
    have hbound : ∀ c ∈ text, c < 0x110000 := fun c hc => by
      have hc := of_decide_eq_true (List.all_eq_true.1 hscalar c hc)
      omega
    rw [decodeStrict, decodeUtf8_flatMap hbound, Option.filter_some, if_pos hscalar]
  · cases h

theorem encodeUtf8_isSome {text : Text} : (encodeUtf8 text).isSome = text.all isScalar := by
  rw [encodeUtf8]
  cases text.all isScalar with
  | true => rfl
  | false => rfl

theorem length_encodeUtf8 {text : Text} {bytes : Bytes} (h : encodeUtf8 text = some bytes) :
    text.length ≤ bytes.length := by
  rw [encodeUtf8] at h
  split at h
  · cases h
    clear * -
    induction text with
    | nil => exact Nat.le_refl _
    | cons c text ih =>
      have hpos := length_encodeCodePoint c
      rw [List.flatMap_cons, List.length_append, List.length_cons]
      omega
  · cases h

/-- A text of ASCII characters as its bytes. -/
def ascii (text : Text) : Bytes := text.map UInt8.ofNat

theorem flatMap_ascii {text : Text} (h : ∀ c ∈ text, c < 0x80) : text.flatMap encodeCodePoint = ascii text := by
  induction text with
  | nil => rfl
  | cons c text ih =>
    rw [List.forall_mem_cons] at h
    rw [List.flatMap_cons, ih h.2, encodeCodePoint, if_pos h.1]
    rfl

theorem isPrefixOf_cons_eq_false {x a : UInt8} (h : a ≠ x) (xs bytes : Bytes) :
    (x :: xs).isPrefixOf (a :: bytes) = false := by
  rw [List.isPrefixOf, beq_eq_false_iff_ne.2 h.symm]
  rfl

/-- The first byte is none that a mark begins with. -/
theorem detectEncoding_cons {a : UInt8} (hzero : a ≠ 0) (hef : a ≠ 0xef) (hfe : a ≠ 0xfe) (hff : a ≠ 0xff) (bytes : Bytes) :
    detectEncoding (a :: bytes) = zeroPattern (a :: bytes) := by
  rw [detectEncoding, isPrefixOf_cons_eq_false hzero, isPrefixOf_cons_eq_false hff, isPrefixOf_cons_eq_false hfe,
    isPrefixOf_cons_eq_false hff, isPrefixOf_cons_eq_false hef]
  rfl

theorem zeroPattern_cons_cons {a b : UInt8} (ha : a ≠ 0) (hb : b ≠ 0) (bytes : Bytes) :
    zeroPattern (a :: b :: bytes) = .utf8 := by
  match bytes with
  | [] => rw [zeroPattern, if_neg ha, if_neg hb]
  | [c] => rfl
  | c :: d :: rest => rw [zeroPattern, if_neg ha, if_neg hb]

theorem zeroPattern_cons {a : UInt8} (ha : a ≠ 0) (bytes : Bytes) : zeroPattern (a :: bytes) = .utf8 ∨
    zeroPattern (a :: bytes) = .utf16le ∨ zeroPattern (a :: bytes) = .utf32le := by
  match bytes with
  | [] | [_, _] => exact .inl rfl
  | [b] =>
    rw [zeroPattern, if_neg ha]
    split
    · exact .inr (.inl rfl)
    · exact .inl rfl
  | b :: c :: d :: rest =>
    rw [zeroPattern, if_neg ha]
    split
    · split
      · exact .inr (.inl rfl)
      · exact .inr (.inr rfl)
    · exact .inl rfl

theorem detectEncoding_eq_utf8 {bytes : Bytes} (h : ∀ b ∈ bytes, 0 < b.toNat ∧ b.toNat < 0x80) :
    detectEncoding bytes = .utf8 := by
  have hne : ∀ b ∈ bytes, b ≠ 0 ∧ b ≠ 0xef ∧ b ≠ 0xfe ∧ b ≠ 0xff := by
    intro b hb
    have hb := h b hb
    refine ⟨?_, ?_, ?_, ?_⟩ <;> rintro rfl <;> revert hb <;> decide
  match bytes with
  | [] => rfl
  | [a] =>
    obtain ⟨hzero, hef, hfe, hff⟩ := hne a List.mem_cons_self
    rw [detectEncoding_cons hzero hef hfe hff]
    rfl
  | a :: b :: rest =>
    obtain ⟨hzero, hef, hfe, hff⟩ := hne a List.mem_cons_self
    have hsecond := hne b (List.mem_cons_of_mem _ List.mem_cons_self)
    rw [detectEncoding_cons hzero hef hfe hff, zeroPattern_cons_cons hzero hsecond.1]

theorem le_continued {n c c' : Nat} {bytes rest : Bytes} (h : continued n c bytes = some (c', rest)) : c * 64 ^ n ≤ c' := by
  induction n generalizing c bytes with
  | zero =>
    cases h
    exact Nat.le_of_eq (Nat.mul_one _)
  | succ n ih =>
    cases bytes with
    | nil => cases h
    | cons b bytes =>
      rw [continued] at h
      split at h
      · calc c * 64 ^ (n + 1) = c * 64 * 64 ^ n := by rw [Nat.pow_succ, Nat.mul_comm (64 ^ n), Nat.mul_assoc]
          _ ≤ (c * 64 + (b.toNat - 0x80)) * 64 ^ n := Nat.mul_le_mul_right _ (Nat.le_add_right _ _)
          _ ≤ c' := ih h
      · cases h

theorem takeUtf8_high {a : UInt8} (ha : 0xf8 ≤ a.toNat) (bytes : Bytes) : takeUtf8 (a :: bytes) = none := by
  rw [takeUtf8, if_neg (by omega), if_neg (by omega), if_neg (by omega), if_neg (by omega), Option.filter_eq_none_iff]
  intro taken htaken
  have hle := le_continued htaken
  rw [decide_eq_true_eq]
  omega

theorem le_join (high low : Nat) : 0x80 ≤ join high low := by
  unfold join
  omega

theorem joinPairs_cons {unit : Nat} {units : List Nat} (h : 0x80 ≤ unit) :
    ∃ c rest, joinPairs (unit :: units) = c :: rest ∧ 0x80 ≤ c := by
  cases units with
  | nil => exact ⟨unit, [], rfl, h⟩
  | cons low units =>
    rw [joinPairs]
    split
    · exact ⟨join unit low, joinPairs units, rfl, le_join unit low⟩
    · exact ⟨unit, joinPairs (low :: units), rfl, h⟩

/-- A byte that no UTF-8 begins with: read in another encoding, it begins no ASCII text. -/
theorem decode_cons_high {a : UInt8} (hlow : 0xf8 ≤ a.toNat) (hhigh : a.toNat < 0xfc) {bytes : Bytes} {text : Text}
    (h : decode (a :: bytes) = some text) : ∃ c rest, text = c :: rest ∧ 0x80 ≤ c := by
  have hne : a ≠ 0 ∧ a ≠ 0xef ∧ a ≠ 0xfe ∧ a ≠ 0xff := by
    refine ⟨?_, ?_, ?_, ?_⟩ <;> rintro rfl <;> revert hlow hhigh <;> decide
  have hutf8 : decodeUtf8 (a :: bytes) = none := decodeUtf8_eq_none (List.cons_ne_nil _ _) (takeUtf8_high hlow bytes)
  have hutf16 : ∀ {text}, decodeUtf16 false (a :: bytes) = some text → ∃ c rest, text = c :: rest ∧ 0x80 ≤ c := by
    intro text h
    obtain ⟨units, hunits, rfl⟩ := Option.map_eq_some_iff.1 h
    cases bytes with
    | nil => cases hunits
    | cons b bytes =>
      rw [units16, Option.bind_eq_bind, Option.bind_eq_some_iff] at hunits
      obtain ⟨units', -, hcons⟩ := hunits
      cases hcons
      exact joinPairs_cons (by simp; omega)
  have hutf32 : ∀ {text}, decodeUtf32 false (a :: bytes) = some text → ∃ c rest, text = c :: rest ∧ 0x80 ≤ c := by
    intro text h
    match bytes with
    | [] | [_] | [_, _] => cases h
    | b :: c :: d :: rest =>
      rw [decodeUtf32] at h
      split at h
      · obtain ⟨text', -, rfl⟩ := Option.map_eq_some_iff.1 h
        exact ⟨_, text', rfl, by simp [unit32]; omega⟩
      · cases h
  rw [decode, detectEncoding_cons hne.1 hne.2.1 hne.2.2.1 hne.2.2.2] at h
  obtain hpattern | hpattern | hpattern := zeroPattern_cons hne.1 bytes
  · rw [hpattern] at h
    cases hutf8.symm.trans h
  · rw [hpattern] at h
    exact hutf16 h
  · rw [hpattern] at h
    exact hutf32 h

theorem decode_ascii {text : Text} (h : ∀ c ∈ text, 0 < c ∧ c < 0x80) : decode (ascii text) = some text := by
  have hbytes : ∀ b ∈ ascii text, 0 < b.toNat ∧ b.toNat < 0x80 := by
    intro b hb
    obtain ⟨c, hc, rfl⟩ := List.mem_map.1 hb
    rw [toNat_ofNat (by have := h c hc; omega)]
    exact h c hc
  rw [decode, detectEncoding_eq_utf8 hbytes]
  dsimp only
  rw [← flatMap_ascii fun c hc => (h c hc).2]
  exact decodeUtf8_flatMap fun c hc => by have := h c hc; omega

end UnicodeText
