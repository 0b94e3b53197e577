import SafetyConfirmation.Data.Crypto
import SafetyConfirmation.Lib.Base64
import SafetyConfirmation.Lib.Checks
import SafetyConfirmation.Lib.JsonText

/-!
# Envelopes

`shared.crypto.envelope`: a field that is encrypted is the base64 text of a JSON object, with a version, a nonce and a
ciphertext. A plaintext is told from an envelope by reading it as one. AES-GCM and the data key are parameters.
-/

namespace SafetyConfirmation

namespace Envelope

open Checks UnicodeText

/-- A key that KMS made for AES-256, and a nonce of 96 bits. -/
abbrev DataKey := { key : Bytes // key.length = 32 }

abbrev Nonce := { nonce : Bytes // nonce.length = 12 }

/-- `AESGCM(key)`, with no associated data. What cannot be decrypted raises. -/
structure Aead where
  encrypt : DataKey → Bytes → Bytes → Bytes
  decrypt : DataKey → Bytes → Bytes → Option Bytes

/-- Decryption undoes encryption, and the ciphertext is longer than the plaintext by the tag. -/
structure Aead.Lawful (aead : Aead) : Prop where
  decrypt_encrypt : ∀ (key : DataKey) (nonce : Nonce) (plaintext : Bytes),
    aead.decrypt key nonce.1 (aead.encrypt key nonce.1 plaintext) = some plaintext
  length_decrypt : ∀ {key : DataKey} {nonce ciphertext plaintext : Bytes},
    aead.decrypt key nonce ciphertext = some plaintext → ciphertext.length = plaintext.length + 16

def formatVersion : Nat := 2

/-- `json.dumps(envelope, separators=(",", ":"))`. -/
def dumps (iv ct : Text) : Text :=
  ofString "\x7b\"v\":2,\"iv\":\"" ++ iv ++ ofString "\",\"ct\":\"" ++ ct ++ ofString "\"\x7d"

/-- What `json.loads(base64.b64decode(value))` makes of a text. -/
def read (value : Text) : Option Json := do
  let envelopeJson ← Base64.decode value
  let text ← decode envelopeJson
  Json.loads text

def isVersion (items : List (Text × Json)) : Bool := (Json.get? (ofString "v") items).any (Json.equals formatVersion)

def isEncrypted (value : Text) : Bool :=
  if value = [] then false
  else
    match read value with
    | some (.dict items) => isVersion items
    | _ => false

section

variable (aead : Aead) (dataKey : Option DataKey)

def getDataKey : Except PyError DataKey :=
  demand dataKey (.valueError ("FIELD_ENCRYPTION_KEY_ENCRYPTED environment variable is required. Generate with: " ++
    "aws kms generate-data-key --key-id <CMK> --key-spec AES_256"))

/-- `encrypt_field`, with the nonce that the source draws at random. A text with a surrogate has no UTF-8. -/
def encryptField (nonce : Nonce) (plaintext : Text) : Except PyError Text :=
  if plaintext = [] then .ok []
  else do
    let key ← getDataKey dataKey
    let bytes ← demand (encodeUtf8 plaintext) (.valueError "surrogates not allowed")
    let ciphertext := aead.encrypt key nonce.1 bytes
    return Base64.encode (ascii (dumps (Base64.encode nonce.1) (Base64.encode ciphertext)))

/-- `base64.b64decode(envelope[key])`. -/
def decodeMember (key : Text) (items : List (Text × Json)) : Except PyError Bytes :=
  match Json.get? key items with
  | none => .error (.other "KeyError")
  | some (.str s) => demand (Base64.decode s) (.valueError "Invalid base64-encoded string")
  | some _ => .error (.typeError "argument should be a bytes-like object or ASCII string")

/-- The plaintext of an envelope of the right version. -/
def decryptMembers (key : DataKey) (items : List (Text × Json)) : Except PyError Text := do
  let nonce ← decodeMember (ofString "iv") items
  let ciphertext ← decodeMember (ofString "ct") items
  let plaintext ← demand (aead.decrypt key nonce ciphertext) (.valueError "Decryption failed")
  demand (decodeStrict plaintext) (.valueError "invalid utf-8")

def decryptField (encryptedValue : Text) : Except PyError Text :=
  if encryptedValue = [] then .ok []
  else do
    let key ← getDataKey dataKey
    match read encryptedValue with
    | none => .error (.valueError "Malformed encrypted envelope")
    | some (.dict items) =>
      if isVersion items then decryptMembers aead key items else .error (.valueError "Unsupported envelope version")
    | some _ => .error (.other "AttributeError")

/-- `_encrypt`. -/
def encrypt (encryptionEnabled : Bool) (nonce : Nonce) (value : Text) : Except PyError Text :=
  if !encryptionEnabled || value = [] then .ok value else encryptField aead dataKey nonce value

/-- `_decrypt`. -/
def decrypt (value : Text) : Except PyError Text :=
  if value = [] then .ok value else if isEncrypted value then decryptField aead dataKey value else .ok value

end

-- A name that is read as an envelope, and one that is base64 of JSON but of no envelope.
example : isEncrypted (ofString "eyJ2IjoyfQ==") = true ∧ isEncrypted (ofString "eyJ2IjozfQ==") = false ∧
    isEncrypted (ofString "Sato") = false := by decide +kernel

/-! ### Reading an envelope -/

theorem isPlain_encode {bytes : Bytes} : ∀ c ∈ Base64.encode bytes, Json.IsPlain c := fun c hc => by
  obtain ⟨hlow, -, hquote, hbackslash⟩ := Base64.mem_encode hc
  exact ⟨Nat.le_of_lt hlow, hquote, hbackslash⟩

/-- The members of an envelope. -/
def members (iv ct : Text) : List (Text × Json) :=
  [(ofString "v", .int formatVersion), (ofString "iv", .str iv), (ofString "ct", .str ct)]

theorem dumps_eq (iv ct : Text) : dumps iv ct =
    [0x7b, 0x22, 0x76, 0x22, 0x3a, 0x32, 0x2c, 0x22, 0x69, 0x76, 0x22, 0x3a, 0x22] ++ iv ++
      [0x22, 0x2c, 0x22, 0x63, 0x74, 0x22, 0x3a, 0x22] ++ ct ++ [0x22, 0x7d] := by
  have hopening : ofString "\x7b\"v\":2,\"iv\":\"" =
      [0x7b, 0x22, 0x76, 0x22, 0x3a, 0x32, 0x2c, 0x22, 0x69, 0x76, 0x22, 0x3a, 0x22] := by decide
  have hmiddle : ofString "\",\"ct\":\"" = [0x22, 0x2c, 0x22, 0x63, 0x74, 0x22, 0x3a, 0x22] := by decide
  have hclosing : ofString "\"\x7d" = [0x22, 0x7d] := by decide
  rw [dumps, hopening, hmiddle, hclosing]

theorem mem_dumps {iv ct : Bytes} {c : Nat} (h : c ∈ dumps (Base64.encode iv) (Base64.encode ct)) : 0 < c ∧ c < 0x80 := by
  have hencode : ∀ {bytes : Bytes}, c ∈ Base64.encode bytes → 0 < c ∧ c < 0x80 := fun hc => by
    have hbounds := Base64.mem_encode hc
    omega
  have hopening : ∀ c ∈ [0x7b, 0x22, 0x76, 0x22, 0x3a, 0x32, 0x2c, 0x22, 0x69, 0x76, 0x22, 0x3a, 0x22], 0 < c ∧ c < 0x80 := by
    decide
  have hmiddle : ∀ c ∈ [0x22, 0x2c, 0x22, 0x63, 0x74, 0x22, 0x3a, 0x22], 0 < c ∧ c < 0x80 := by decide
  have hclosing : ∀ c ∈ [0x22, 0x7d], 0 < c ∧ c < 0x80 := by decide
  rw [dumps_eq] at h
  simp only [List.mem_append] at h
  obtain (((h | h) | h) | h) | h := h
  · exact hopening c h
  · exact hencode h
  · exact hmiddle c h
  · exact hencode h
  · exact hclosing c h

theorem loads_dumps {iv ct : Text} (hiv : ∀ c ∈ iv, Json.IsPlain c) (hct : ∀ c ∈ ct, Json.IsPlain c) :
    Json.loads (dumps iv ct) = some (.dict (members iv ct)) := by
  have hversion : ∀ c ∈ ofString "v", Json.IsPlain c := by
    simp [ofString, Json.IsPlain]
  have hivKey : ∀ c ∈ ofString "iv", Json.IsPlain c := by
    simp [ofString, Json.IsPlain]
  have hctKey : ∀ c ∈ ofString "ct", Json.IsPlain c := by
    simp [ofString, Json.IsPlain]
  have htext : dumps iv ct = 0x7b :: 0x22 :: (ofString "v" ++ 0x22 :: 0x3a :: 0x32 :: 0x2c :: 0x22 :: (ofString "iv" ++ 0x22 ::
      0x3a :: 0x22 :: (iv ++ 0x22 :: 0x2c :: 0x22 :: (ofString "ct" ++ 0x22 :: 0x3a :: 0x22 :: (ct ++ 0x22 :: 0x7d :: []))))) := by
    rw [dumps_eq]
    simp [ofString]
  obtain ⟨fuel, hfuel⟩ : ∃ fuel, 2 * (dumps iv ct).length + 1 = fuel + 5 :=
    ⟨2 * (dumps iv ct).length + 1 - 5, by simp [htext]; omega⟩
  have hlast : Json.scanMembers (fuel + 2) (0x22 :: (ofString "ct" ++ 0x22 :: 0x3a :: 0x22 :: (ct ++ 0x22 :: 0x7d :: []))) =
      some ([(ofString "ct", .str ct)], []) :=
    Json.scanMembers_brace hctKey (Json.scanValue_plain hct fuel _)
  have hnext : Json.scanMembers (fuel + 3) (0x22 :: (ofString "iv" ++ 0x22 :: 0x3a :: 0x22 :: (iv ++ 0x22 :: 0x2c :: 0x22 ::
      (ofString "ct" ++ 0x22 :: 0x3a :: 0x22 :: (ct ++ 0x22 :: 0x7d :: []))))) =
        some ([(ofString "iv", .str iv), (ofString "ct", .str ct)], []) := by
    rw [Json.scanMembers_comma hivKey (Json.scanValue_plain hiv (fuel + 1) _)]
    show (Json.scanMembers (fuel + 2) (0x22 :: (ofString "ct" ++ _))).map _ = _
    rw [hlast]
    rfl
  have hfirst : Json.scanMembers (fuel + 4) (0x22 :: (ofString "v" ++ 0x22 :: 0x3a :: 0x32 :: 0x2c :: 0x22 :: (ofString "iv" ++
      0x22 :: 0x3a :: 0x22 :: (iv ++ 0x22 :: 0x2c :: 0x22 :: (ofString "ct" ++ 0x22 :: 0x3a :: 0x22 ::
        (ct ++ 0x22 :: 0x7d :: [])))))) = some (members iv ct, []) := by
    rw [Json.scanMembers_comma hversion (v := .int formatVersion) rfl]
    show (Json.scanMembers (fuel + 3) (0x22 :: (ofString "iv" ++ _))).map _ = _
    rw [hnext]
    rfl
  rw [Json.loads, hfuel, htext]
  show (Json.scanValue (fuel + 4 + 1) (0x7b :: 0x22 :: (ofString "v" ++ _)) >>= _) = _
  rw [Json.scanValue_brace, hfirst]
  rfl

theorem read_of_decode {value : Text} {bytes : Bytes} (h : Base64.decode value = some bytes) :
    read value = (decode bytes).bind Json.loads := by
  rw [read, h, Option.bind_eq_bind, Option.bind_some]
  rfl

theorem read_encode (iv ct : Bytes) :
    read (Base64.encode (ascii (dumps (Base64.encode iv) (Base64.encode ct)))) =
      some (.dict (members (Base64.encode iv) (Base64.encode ct))) := by
  rw [read_of_decode (Base64.decode_encode _), decode_ascii fun c hc => mem_dumps hc, Option.bind_some]
  exact loads_dumps isPlain_encode isPlain_encode

/-- In base64 a leading `+` stands for a byte that no JSON text begins with. -/
theorem read_plus (rest : Text) : read (0x2b :: rest) = none := by
  cases hdecode : Base64.decode (0x2b :: rest) with
  | none => rw [read, hdecode, Option.bind_eq_bind, Option.bind_none]
  | some bytes =>
    obtain ⟨a, tail, rfl, hlow, hhigh⟩ := Base64.decode_cons (show Base64.value? 0x2b = some 62 from rfl) hdecode
    rw [read_of_decode hdecode, Option.bind_eq_none_iff]
    intro text htext
    obtain ⟨c, rest', rfl, hc⟩ := decode_cons_high hlow hhigh htext
    exact Json.loads_high hc rest'

theorem isEncrypted_plus (rest : Text) : isEncrypted (0x2b :: rest) = false := by
  rw [isEncrypted, if_neg (List.cons_ne_nil _ _), read_plus]

/-! ### What is written is read back -/

section

variable {aead : Aead} {dataKey : Option DataKey} {key : DataKey} {nonce : Nonce} {value plaintext : Text}

/-- The envelope of a plaintext. -/
theorem encryptField_eq (hkey : dataKey = some key) (hne : plaintext ≠ []) {bytes : Bytes}
    (hbytes : encodeUtf8 plaintext = some bytes) : encryptField aead dataKey nonce plaintext =
      .ok (Base64.encode (ascii (dumps (Base64.encode nonce.1) (Base64.encode (aead.encrypt key nonce.1 bytes))))) := by
  rw [encryptField, if_neg hne, hkey, hbytes]
  rfl

theorem length_envelope (iv ct : Bytes) :
    ct.length < (Base64.encode (ascii (dumps (Base64.encode iv) (Base64.encode ct)))).length := by
  have houter := Base64.length_encode (ascii (dumps (Base64.encode iv) (Base64.encode ct)))
  have hinner := Base64.length_encode ct
  rw [ascii, List.length_map, dumps_eq] at houter
  simp only [List.length_append, List.length_cons, List.length_nil] at houter
  rw [dumps_eq, ascii]
  omega

theorem envelope_ne_nil (iv ct : Bytes) : Base64.encode (ascii (dumps (Base64.encode iv) (Base64.encode ct))) ≠ [] := by
  intro h
  have hlength := length_envelope iv ct
  rw [h] at hlength
  cases hlength

theorem isEncrypted_envelope (iv ct : Bytes) :
    isEncrypted (Base64.encode (ascii (dumps (Base64.encode iv) (Base64.encode ct)))) = true := by
  rw [isEncrypted, if_neg (envelope_ne_nil iv ct), read_encode]
  rfl

theorem decryptField_of_read (hkey : dataKey = some key) (hne : value ≠ []) {items : List (Text × Json)}
    (hread : read value = some (.dict items)) (hversion : isVersion items = true) :
    decryptField aead dataKey value = decryptMembers aead key items := by
  rw [decryptField, if_neg hne, hkey, hread]
  show (if isVersion items then decryptMembers aead key items else _) = _
  rw [if_pos hversion]

theorem decryptField_envelope (hlawful : aead.Lawful) (hkey : dataKey = some key) {bytes : Bytes}
    (hbytes : encodeUtf8 plaintext = some bytes) :
    decryptField aead dataKey (Base64.encode (ascii (dumps (Base64.encode nonce.1)
      (Base64.encode (aead.encrypt key nonce.1 bytes))))) = .ok plaintext := by
  rw [decryptField_of_read hkey (envelope_ne_nil _ _) (read_encode _ _) rfl]
  show (demand (Base64.decode (Base64.encode nonce.1)) _ >>= fun nonce =>
    demand (Base64.decode (Base64.encode _)) _ >>= fun ciphertext => _) = _
  rw [Base64.decode_encode, Base64.decode_encode]
  show (demand (aead.decrypt key nonce.1 (aead.encrypt key nonce.1 bytes)) _ >>= _) = _
  rw [hlawful.decrypt_encrypt]
  show demand (decodeStrict bytes) _ = _
  rw [decodeStrict_of_encodeUtf8 hbytes, demand_some]

theorem length_decodeMember {name : Text} {items : List (Text × Json)} {bytes : Bytes}
    (h : decodeMember name items = .ok bytes) {n : Nat} (hfit : Json.StringsFit n (.dict items)) : bytes.length ≤ n := by
  rw [decodeMember] at h
  split at h
  · cases h
  · rename_i s hs
    obtain ⟨before, after, heq, -⟩ := List.lookup_eq_some_iff.1 hs
    have hmem : (name, .str s) ∈ items.reverse := heq ▸ List.mem_append_right before List.mem_cons_self
    exact Nat.le_trans (Base64.length_decode (demand_eq_ok.1 h)) (hfit _ (List.mem_reverse.1 hmem) s rfl)
  · cases h

theorem length_decryptMembers (hlawful : aead.Lawful) {items : List (Text × Json)} {n : Nat}
    (hfit : Json.StringsFit n (.dict items)) (h : decryptMembers aead key items = .ok plaintext) : plaintext.length < n := by
  obtain ⟨nonce, -, h⟩ := bind_eq_ok.1 h
  obtain ⟨ciphertext, hciphertext, h⟩ := bind_eq_ok.1 h
  obtain ⟨bytes, hbytes, h⟩ := bind_eq_ok.1 h
  have htag := hlawful.length_decrypt (demand_eq_ok.1 hbytes)
  have hle := length_decodeMember hciphertext hfit
  have hutf8 := length_decodeUtf8 (Option.filter_eq_some_iff.1 (demand_eq_ok.1 h)).1
  omega

/-- A text that is read holds no longer strings than it is itself. -/
theorem stringsFit_read {v : Json} (h : read value = some v) : Json.StringsFit value.length v := by
  simp only [read, Option.bind_eq_bind, Option.bind_eq_some_iff] at h
  obtain ⟨bytes, hbytes, text, htext, hv⟩ := h
  exact (Json.stringsFit_loads hv).mono (Nat.le_trans (length_decode htext) (Base64.length_decode hbytes))

/-- What is decrypted is shorter than its envelope. -/
theorem length_decryptField (hlawful : aead.Lawful) (hne : value ≠ []) (h : decryptField aead dataKey value = .ok plaintext) :
    plaintext.length < value.length := by
  cases hkey : dataKey with
  | none =>
    rw [decryptField, if_neg hne, hkey] at h
    cases h
  | some key =>
    rw [decryptField, if_neg hne, hkey] at h
    cases hread : read value with
    | none =>
      rw [hread] at h
      cases h
    | some v =>
      rw [hread] at h
      cases v with
      | dict items =>
        have hitems : (if isVersion items then decryptMembers aead key items
          else .error (.valueError "Unsupported envelope version")) = .ok plaintext := h
        split at hitems
        · exact length_decryptMembers hlawful (stringsFit_read hread) hitems
        · cases hitems
      | _ => cases h

end

end Envelope

end SafetyConfirmation
