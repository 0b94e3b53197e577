import SafetyConfirmation.Lib.UnicodeText

/-!
# Base64, read leniently

`base64.b64encode`, and `base64.b64decode` as it reads a text without validation: characters outside the alphabet are
skipped, a padding that does not complete a group too, and nothing is read after one that does.
-/

namespace Base64

def padding : Nat := 61

/-- The character of six bits. -/
def symbol (bits : Nat) : Nat :=
  if bits < 26 then 65 + bits
  else if bits < 52 then 97 + (bits - 26)
  else if bits < 62 then 48 + (bits - 52)
  else if bits = 62 then 43 else 47

def value? (c : Nat) : Option Nat :=
  if 65 ≤ c ∧ c ≤ 90 then some (c - 65)
  else if 97 ≤ c ∧ c ≤ 122 then some (c - 97 + 26)
  else if 48 ≤ c ∧ c ≤ 57 then some (c - 48 + 52)
  else if c = 43 then some 62
  else if c = 47 then some 63
  else none

/-- `b64encode`, with the bytes as text. -/
def encode : Bytes → Text
  | [] => []
  | [a] => [symbol (a.toNat / 4), symbol (a.toNat % 4 * 16), padding, padding]
  | [a, b] => [symbol (a.toNat / 4), symbol (a.toNat % 4 * 16 + b.toNat / 16), symbol (b.toNat % 16 * 4), padding]
  | a :: b :: c :: rest =>
    symbol (a.toNat / 4) :: symbol (a.toNat % 4 * 16 + b.toNat / 16) :: symbol (b.toNat % 16 * 4 + c.toNat / 64) ::
      symbol (c.toNat % 64) :: encode rest

/-- `binascii.a2b_base64`, from a place in a group of four: how many characters of it were read, the bits left of the last,
and the padding seen since. -/
def decodeFrom (quad left pads : Nat) : Text → Option Bytes
  | [] => if quad = 0 then some [] else none
  | c :: cs =>
    if c = padding then
      if 2 ≤ quad then if 4 ≤ quad + (pads + 1) then some [] else decodeFrom quad left (pads + 1) cs
      else decodeFrom quad left pads cs
    else
      match value? c with
      | none => decodeFrom quad left pads cs
      | some bits =>
        match quad with
        | 0 => decodeFrom 1 bits 0 cs
        | 1 => (decodeFrom 2 (bits % 16) 0 cs).map (.ofNat (left * 4 + bits / 16) :: ·)
        | 2 => (decodeFrom 3 (bits % 4) 0 cs).map (.ofNat (left * 16 + bits / 4) :: ·)
        | _ => (decodeFrom 0 0 0 cs).map (.ofNat (left * 64 + bits) :: ·)

/-- `b64decode`: a text that is not ASCII is an error. -/
def decode (text : Text) : Option Bytes := if text.all (· < 0x80) then decodeFrom 0 0 0 text else none

-- Without padding, with noise in it, and with something after its end.
example : [decode (UnicodeText.ofString "TWE"), decode (UnicodeText.ofString "T.W E=\n"), decode (UnicodeText.ofString "TQ==TWE=")] =
    [none, some [77, 97], some [77]] := by decide

/-! ### What is encoded is decoded -/

theorem value?_symbol {bits : Nat} (h : bits < 64) : value? (symbol bits) = some bits := by
  rw [symbol]
  split
  · rw [value?, if_pos (by omega)]
    exact congrArg some (by omega)
  · split
    · rw [value?, if_neg (by omega), if_pos (by omega)]
      exact congrArg some (by omega)
    · split
      · rw [value?, if_neg (by omega), if_neg (by omega), if_pos (by omega)]
        exact congrArg some (by omega)
      · split
        · rename_i h62
          rw [h62]
          rfl
        · rw [show bits = 63 by omega]
          rfl

theorem value?_lt {c bits : Nat} (h : value? c = some bits) : bits < 64 := by
  rw [value?] at h
  repeat' split at h
  all_goals cases h
  all_goals omega

theorem ne_padding {c bits : Nat} (h : value? c = some bits) : c ≠ padding := by
  rintro rfl
  cases h

theorem symbol_ne_padding (bits : Nat) : symbol bits ≠ padding := by
  rw [symbol, padding]
  split
  · omega
  · split
    · omega
    · split
      · omega
      · split
        · decide
        · decide

theorem symbol_lt (bits : Nat) : 0x20 < symbol bits ∧ symbol bits < 0x80 ∧ symbol bits ≠ 0x22 ∧ symbol bits ≠ 0x5c := by
  rw [symbol]
  split
  · omega
  · split
    · omega
    · split
      · omega
      · split
        · decide
        · decide

section

variable {left pads bits : Nat} (h : bits < 64) (cs : Text)

include h

theorem decodeFrom_zero_symbol : decodeFrom 0 left pads (symbol bits :: cs) = decodeFrom 1 bits 0 cs := by
  rw [decodeFrom, if_neg (symbol_ne_padding bits), value?_symbol h]
  rfl

theorem decodeFrom_one_symbol : decodeFrom 1 left pads (symbol bits :: cs) =
    (decodeFrom 2 (bits % 16) 0 cs).map (.ofNat (left * 4 + bits / 16) :: ·) := by
  rw [decodeFrom, if_neg (symbol_ne_padding bits), value?_symbol h]
  rfl

theorem decodeFrom_two_symbol : decodeFrom 2 left pads (symbol bits :: cs) =
    (decodeFrom 3 (bits % 4) 0 cs).map (.ofNat (left * 16 + bits / 4) :: ·) := by
  rw [decodeFrom, if_neg (symbol_ne_padding bits), value?_symbol h]
  rfl

theorem decodeFrom_three_symbol : decodeFrom 3 left pads (symbol bits :: cs) =
    (decodeFrom 0 0 0 cs).map (.ofNat (left * 64 + bits) :: ·) := by
  rw [decodeFrom, if_neg (symbol_ne_padding bits), value?_symbol h]
  rfl

end

theorem ofNat_eq {n : Nat} {b : UInt8} (h : n = b.toNat) : UInt8.ofNat n = b := by
  rw [h]
  exact UInt8.ofNat_toNat

theorem decodeFrom_encode (bytes : Bytes) : decodeFrom 0 0 0 (encode bytes) = some bytes := by
  fun_induction encode bytes with
  | case1 => rfl
  | case2 a =>
    have ha := a.toNat_lt
    rw [decodeFrom_zero_symbol (by omega), decodeFrom_one_symbol (by omega), ofNat_eq (b := a) (by omega)]
    rfl
  | case3 a b =>
    have ha := a.toNat_lt
    have hb := b.toNat_lt
    rw [decodeFrom_zero_symbol (by omega), decodeFrom_one_symbol (by omega), decodeFrom_two_symbol (by omega),
      ofNat_eq (b := a) (by omega), ofNat_eq (b := b) (by omega)]
    rfl
  | case4 a b c rest ih =>
    have ha := a.toNat_lt
    have hb := b.toNat_lt
    have hc := c.toNat_lt
    rw [decodeFrom_zero_symbol (by omega), decodeFrom_one_symbol (by omega), decodeFrom_two_symbol (by omega),
      decodeFrom_three_symbol (by omega), ofNat_eq (b := a) (by omega), ofNat_eq (b := b) (by omega),
      ofNat_eq (b := c) (by omega), ih]
    rfl

theorem mem_encode {bytes : Bytes} {c : Nat} (h : c ∈ encode bytes) : 0x20 < c ∧ c < 0x80 ∧ c ≠ 0x22 ∧ c ≠ 0x5c := by
  have hpadding : 0x20 < padding ∧ padding < 0x80 ∧ padding ≠ 0x22 ∧ padding ≠ 0x5c := by decide
  fun_induction encode bytes with
  | case1 => cases h
  | case2 a =>
    simp only [List.mem_cons, List.not_mem_nil, or_false] at h
    rcases h with rfl | rfl | rfl | rfl
    · exact symbol_lt _
    · exact symbol_lt _
    · exact hpadding
    · exact hpadding
  | case3 a b =>
    simp only [List.mem_cons, List.not_mem_nil, or_false] at h
    rcases h with rfl | rfl | rfl | rfl
    · exact symbol_lt _
    · exact symbol_lt _
    · exact symbol_lt _
    · exact hpadding
  | case4 a b d rest ih =>
    simp only [List.mem_cons] at h
    rcases h with rfl | rfl | rfl | rfl | h
    · exact symbol_lt _
    · exact symbol_lt _
    · exact symbol_lt _
    · exact symbol_lt _
    · exact ih h

theorem decode_encode (bytes : Bytes) : decode (encode bytes) = some bytes := by
  rw [decode, if_pos, decodeFrom_encode]
  rw [List.all_eq_true]
  exact fun c hc => decide_eq_true (mem_encode hc).2.1

theorem length_encode (bytes : Bytes) : bytes.length ≤ (encode bytes).length := by
  fun_induction encode bytes with
  | case1 => exact Nat.le_refl _
  | case2 a => simp
  | case3 a b => simp
  | case4 a b c rest ih =>
    simp only [List.length_cons]
    omega

/-! ### What is decoded at all -/

/-- A character gives one byte at most. -/
theorem length_decodeFrom {quad left pads : Nat} {text : Text} {bytes : Bytes}
    (h : decodeFrom quad left pads text = some bytes) : bytes.length ≤ text.length := by
  induction text generalizing quad left pads bytes with
  | nil =>
    rw [decodeFrom] at h
    split at h
    · cases h
      exact Nat.le_refl _
    · cases h
  | cons c text ih =>
    have hcons : ∀ {quad left : Nat} {b : UInt8}, (decodeFrom quad left 0 text).map (b :: ·) = some bytes →
        bytes.length ≤ (c :: text).length := by
      intro quad left b h
      obtain ⟨bytes', hbytes, rfl⟩ := Option.map_eq_some_iff.1 h
      exact Nat.succ_le_succ (ih hbytes)
    rw [decodeFrom] at h
    split at h
    · split at h
      · split at h
        · cases h
          exact Nat.zero_le _
        · exact Nat.le_succ_of_le (ih h)
      · exact Nat.le_succ_of_le (ih h)
    · split at h
      · exact Nat.le_succ_of_le (ih h)
      · split at h
        · exact Nat.le_succ_of_le (ih h)
        · exact hcons h
        · exact hcons h
        · exact hcons h

theorem length_decode {text : Text} {bytes : Bytes} (h : decode text = some bytes) : bytes.length ≤ text.length := by
  rw [decode] at h
  split at h
  · exact length_decodeFrom h
  · cases h

/-- The first byte starts with the six bits of the first character. -/
theorem decodeFrom_one {left pads : Nat} {text : Text} {bytes : Bytes} (h : decodeFrom 1 left pads text = some bytes) :
    ∃ bits rest, bits < 64 ∧ bytes = .ofNat (left * 4 + bits / 16) :: rest := by
  induction text with
  | nil => cases h
  | cons c text ih =>
    rw [decodeFrom] at h
    split at h
    · exact ih h
    · split at h
      · exact ih h
      · rename_i bits hbits
        obtain ⟨rest, -, rfl⟩ := Option.map_eq_some_iff.1 h
        exact ⟨bits, rest, value?_lt hbits, rfl⟩

theorem decode_cons {c bits : Nat} (hc : value? c = some bits) {text : Text} {bytes : Bytes}
    (h : decode (c :: text) = some bytes) : ∃ a rest, bytes = a :: rest ∧ bits * 4 ≤ a.toNat ∧ a.toNat < bits * 4 + 4 := by
  rw [decode] at h
  split at h
  · rw [decodeFrom, if_neg (ne_padding hc), hc] at h
    obtain ⟨low, rest, hlow, rfl⟩ := decodeFrom_one h
    refine ⟨_, rest, rfl, ?_⟩
    have hbits := value?_lt hc
    rw [UnicodeText.toNat_ofNat (by omega)]
    omega
  · cases h

end Base64
