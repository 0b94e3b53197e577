import SafetyConfirmation.Data.Value

/-!
# Field encryption

`shared.crypto` over AES-GCM, HMAC-SHA256 and the data key, which are not of this repository: what the lambdas call, and
what they rely on.
-/

namespace SafetyConfirmation

/-- `encryptField` takes the nonce that the source draws at random. -/
structure FieldCrypto where
  encryptField : String → String → String
  decryptField : String → Except PyError String
  isEncrypted : String → Bool
  computeBlindIndex : String → String

namespace FieldCrypto

/-- `_encrypt`: nothing is encrypted where encryption is off, and the empty string never is. -/
def encrypt (crypto : FieldCrypto) (encryptionEnabled : Bool) (nonce value : String) : String :=
  if !encryptionEnabled || value = "" then value else crypto.encryptField nonce value

/-- `_decrypt`, which takes plaintext rows, too. -/
def decrypt (crypto : FieldCrypto) (value : String) : Except PyError String :=
  if value = "" then .ok value else if crypto.isEncrypted value then crypto.decryptField value else .ok value

/-- What an envelope is: it is recognised as one, it holds the plaintext, and it is longer. In base64 a leading `+` stands
for a byte that no JSON text begins with. -/
structure Lawful (crypto : FieldCrypto) : Prop where
  isEncrypted_encryptField : ∀ nonce value, value ≠ "" → crypto.isEncrypted (crypto.encryptField nonce value) = true
  decryptField_encryptField : ∀ nonce value, value ≠ "" →
    crypto.decryptField (crypto.encryptField nonce value) = .ok value
  length_lt_encryptField : ∀ nonce value, value ≠ "" → value.length < (crypto.encryptField nonce value).length
  isEncrypted_number : ∀ value, value.toList.head? = some '+' → crypto.isEncrypted value = false

/-- The smallest envelope there is: a mark in front of the plaintext. -/
def marked : FieldCrypto where
  encryptField _ value := "#" ++ value
  decryptField value := .ok (String.ofList value.toList.tail)
  isEncrypted value := value.toList.head? == some '#'
  computeBlindIndex value := value

theorem lawful_marked : marked.Lawful where
  isEncrypted_encryptField nonce value hvalue := by
    have hmark : ("#" ++ value).toList = '#' :: value.toList := by simp
    simp [marked, hmark]
  decryptField_encryptField nonce value hvalue := by
    have hmark : ("#" ++ value).toList = '#' :: value.toList := by simp
    simp [marked, hmark]
  length_lt_encryptField nonce value hvalue := by
    have hlength : ("#" ++ value).length = 1 + value.length := String.length_append ..
    simp only [marked, hlength]
    omega
  isEncrypted_number value hvalue := by
    simp [marked, hvalue]

theorem encrypt_ne_empty {crypto : FieldCrypto} (hlawful : crypto.Lawful) (encryptionEnabled : Bool) (nonce : String)
    {value : String} (hvalue : value ≠ "") : crypto.encrypt encryptionEnabled nonce value ≠ "" := by
  rw [encrypt]
  split
  · exact hvalue
  · intro hempty
    have hlength := hlawful.length_lt_encryptField nonce value hvalue
    rw [hempty] at hlength
    exact absurd hlength (Nat.not_lt_zero _)

/-- What is encrypted is decrypted. -/
theorem decrypt_encrypt_true {crypto : FieldCrypto} (hlawful : crypto.Lawful) (nonce value : String) :
    crypto.decrypt (crypto.encrypt true nonce value) = .ok value := by
  by_cases hvalue : value = ""
  · rw [hvalue]
    rfl
  · have hsealed : crypto.encrypt true nonce value = crypto.encryptField nonce value := by
      rw [encrypt, if_neg (by simpa using hvalue)]
    have hne := encrypt_ne_empty hlawful true nonce hvalue
    rw [hsealed] at hne
    rw [hsealed, decrypt, if_neg hne, hlawful.isEncrypted_encryptField nonce value hvalue, if_pos rfl,
      hlawful.decryptField_encryptField nonce value hvalue]

/-- The plaintext of a stored string, where it has one. -/
def plaintext (crypto : FieldCrypto) (stored : String) : Option String := (crypto.decrypt stored).toOption

theorem plaintext_eq_some {crypto : FieldCrypto} {stored value : String} :
    crypto.plaintext stored = some value ↔ crypto.decrypt stored = .ok value := by
  rw [plaintext]
  cases crypto.decrypt stored with
  | ok result => exact ⟨fun h => congrArg Except.ok (Option.some.inj h), fun h => congrArg some (Except.ok.inj h)⟩
  | error e => exact iff_of_false nofun nofun

/-- In either mode the plaintext of what is stored of a number is the number. -/
theorem plaintext_encrypt {crypto : FieldCrypto} (hlawful : crypto.Lawful) (encryptionEnabled : Bool) (nonce : String)
    {number : String} (hnumber : number.toList.head? = some '+') :
    crypto.plaintext (crypto.encrypt encryptionEnabled nonce number) = some number := by
  have hne : number ≠ "" := by
    rintro rfl
    cases hnumber
  cases encryptionEnabled with
  | false =>
    rw [plaintext, encrypt, if_pos (by rfl), decrypt, if_neg hne, hlawful.isEncrypted_number number hnumber]
    rfl
  | true => exact plaintext_eq_some.2 (decrypt_encrypt_true hlawful nonce number)

end FieldCrypto

end SafetyConfirmation
