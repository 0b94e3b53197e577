import SafetyConfirmation.Crypto.Envelope
import SafetyConfirmation.Employee.Requests

/-!
# Fields that are read back

What is shown of a field is what was entered, or else an envelope was mistaken: the field was stored as it is, and is read
as an envelope. The envelopes of `shared.crypto` are a `FieldCrypto`, and the list of the employees is made with it.
-/

namespace SafetyConfirmation

namespace Envelope

open Checks UnicodeText

/-! ### Names and numbers -/

/-- `\s`, of which no surrogate is. -/
def isSpace (c : Nat) : Bool :=
  decide (9 ≤ c ∧ c ≤ 13) || decide (28 ≤ c ∧ c ≤ 32) || decide (0x2000 ≤ c ∧ c ≤ 0x200a) ||
    [0x85, 0xa0, 0x1680, 0x2028, 0x2029, 0x202f, 0x205f, 0x3000].contains c

def strip (text : Text) : Text := ((text.dropWhile isSpace).reverse.dropWhile isSpace).reverse

/-- `is_valid_name`, of any text. -/
def isValidName (name : Text) : Bool :=
  decide (0 < (strip name).length ∧ (strip name).length ≤ Employee.maxNameLength)

theorem dropWhile_ofString (cs : List Char) :
    (cs.map Char.toNat).dropWhile isSpace = (cs.dropWhile Pattern.isSpace).map Char.toNat := List.dropWhile_map ..

theorem isValidName_ofString (name : String) : isValidName (ofString name) = Employee.isValidName (.str name) := by
  have hstrip : strip (ofString name) = (Pattern.strip name.toList).map Char.toNat := by
    rw [strip, Pattern.strip, ofString, dropWhile_ofString, ← List.map_reverse, dropWhile_ofString, ← List.map_reverse]
  rw [isValidName, hstrip, List.length_map]
  rfl

/-- What is entered into a field: a name, or a number in the form that is stored. -/
abbrev Entered := { text : Text // isValidName text = true ∨ text.head? = some 0x2b }

/-! ### One field -/

section

variable {aead : Aead} {dataKey : Option DataKey} {nonce : Nonce} {encryptionEnabled : Bool} {x : Text}

variable (aead dataKey nonce encryptionEnabled x) in
/-- What is written of the text is read as the text. -/
def RoundTrips : Prop := (encrypt aead dataKey encryptionEnabled nonce x >>= decrypt aead dataKey) = .ok x

variable (encryptionEnabled x) in
/-- The text has UTF-8, where it is encrypted, and is no envelope, where it is not. -/
def IsReadBack : Prop := if encryptionEnabled then x.all isScalar = true else isEncrypted x = false

theorem isEncrypted_nil : isEncrypted [] = false := rfl

theorem roundTrips_plain_iff (hlawful : aead.Lawful) : RoundTrips aead dataKey nonce false x ↔ isEncrypted x = false := by
  have hplain : RoundTrips aead dataKey nonce false x ↔ decrypt aead dataKey x = .ok x := Iff.rfl
  rw [hplain, decrypt]
  split
  · rename_i hnil
    rw [hnil]
    exact iff_of_true rfl isEncrypted_nil
  · rename_i hne
    split
    · rename_i hencrypted
      refine iff_of_false (fun h => ?_) (by rw [hencrypted]; decide)
      exact absurd (length_decryptField hlawful hne h) (Nat.lt_irrefl _)
    · rename_i hencrypted
      exact iff_of_true rfl (Bool.eq_false_iff.2 hencrypted)

theorem roundTrips_sealed_iff (hlawful : aead.Lawful) {key : DataKey} (hkey : dataKey = some key) :
    RoundTrips aead dataKey nonce true x ↔ x.all isScalar = true := by
  rw [RoundTrips, encrypt]
  by_cases hnil : x = []
  · rw [hnil]
    exact iff_of_true rfl rfl
  · rw [if_neg (by simpa using hnil)]
    cases hbytes : encodeUtf8 x with
    | none =>
      have hscalar : (encodeUtf8 x).isSome = x.all isScalar := encodeUtf8_isSome
      rw [hbytes] at hscalar
      refine iff_of_false (fun h => ?_) (by rw [← hscalar]; decide)
      rw [encryptField, if_neg hnil, hkey, hbytes] at h
      cases h
    | some bytes =>
      have hscalar : (encodeUtf8 x).isSome = x.all isScalar := encodeUtf8_isSome
      rw [hbytes] at hscalar
      rw [encryptField_eq hkey hnil hbytes, ok_bind, decrypt, if_neg (envelope_ne_nil _ _), if_pos (isEncrypted_envelope _ _),
        decryptField_envelope hlawful hkey hbytes]
      exact iff_of_true rfl hscalar.symm

theorem roundTrips_iff_isReadBack (hlawful : aead.Lawful) (hkey : encryptionEnabled = true → dataKey.isSome = true) :
    RoundTrips aead dataKey nonce encryptionEnabled x ↔ IsReadBack encryptionEnabled x := by
  cases encryptionEnabled with
  | false => exact roundTrips_plain_iff hlawful
  | true =>
    obtain ⟨key, hkey⟩ := Option.isSome_iff_exists.1 (hkey rfl)
    exact roundTrips_sealed_iff hlawful hkey

end

/-! ### The crypto of the lambdas -/

/-- The string of a text, where the text has one. -/
def toString (text : Text) : String := String.ofList (text.map Char.ofNat)

theorem toString_ofString (s : String) : toString (ofString s) = s := by
  rw [toString, ofString, List.map_map]
  have hid : Char.ofNat ∘ Char.toNat = id := funext Char.ofNat_toNat
  rw [hid, List.map_id, String.ofList_toList]

/-- Strings have UTF-8. -/
theorem all_isScalar (s : String) : (ofString s).all isScalar = true := by
  rw [ofString, List.all_map, List.all_eq_true]
  intro c hc
  have hvalid : Nat.isValidChar c.toNat := c.valid
  rcases hvalid with hlow | hhigh
  · exact decide_eq_true (.inl hlow)
  · exact decide_eq_true (.inr ⟨hhigh.1, hhigh.2⟩)

theorem ofString_toString {text : Text} (h : text.all isScalar = true) : ofString (toString text) = text := by
  rw [toString, ofString, String.toList_ofList, List.map_map]
  conv => rhs; rw [← List.map_id text]
  refine List.map_congr_left fun c hc => ?_
  have hscalar := of_decide_eq_true (List.all_eq_true.1 h c hc)
  have hvalid : Nat.isValidChar c := hscalar.imp id fun hhigh => ⟨hhigh.1, hhigh.2⟩
  show (Char.ofNat c).toNat = c
  rw [Char.ofNat, dif_pos hvalid]
  rfl

section

variable (aead : Aead) (dataKey : Option DataKey) (nonceOf : String → Nonce) (computeBlindIndex : String → String)

/-- `shared.crypto` with its envelopes. -/
def fieldCrypto : FieldCrypto where
  encryptField nonce value := ((encryptField aead dataKey (nonceOf nonce) (ofString value)).map toString).toOption.getD ""
  decryptField value := (decryptField aead dataKey (ofString value)).map toString
  isEncrypted value := isEncrypted (ofString value)
  computeBlindIndex := computeBlindIndex

end

variable {aead : Aead} {key : DataKey} {nonceOf : String → Nonce} {computeBlindIndex : String → String}

theorem ofString_eq_nil {s : String} : ofString s = [] ↔ s = "" := by
  rw [ofString, List.map_eq_nil_iff, String.toList_eq_nil_iff]

theorem length_ofString (s : String) : (ofString s).length = s.length := List.length_map ..

/-- An envelope is a string. -/
theorem ofString_toString_encode (bytes : Bytes) : ofString (toString (Base64.encode bytes)) = Base64.encode bytes := by
  refine ofString_toString (List.all_eq_true.2 fun c hc => decide_eq_true ?_)
  have hbounds := Base64.mem_encode hc
  omega

/-- The envelope that a value is written as. -/
theorem ofString_encryptField {value : String} (hvalue : value ≠ "") (nonce : String) : ∃ bytes,
    encodeUtf8 (ofString value) = some bytes ∧
      ofString ((fieldCrypto aead (some key) nonceOf computeBlindIndex).encryptField nonce value) =
        Base64.encode (ascii (dumps (Base64.encode (nonceOf nonce).1)
          (Base64.encode (aead.encrypt key (nonceOf nonce).1 bytes)))) := by
  have hne : ofString value ≠ [] := fun h => hvalue (ofString_eq_nil.1 h)
  obtain ⟨bytes, hbytes⟩ := Option.isSome_iff_exists.1
    (show (encodeUtf8 (ofString value)).isSome = true by rw [encodeUtf8_isSome, all_isScalar])
  refine ⟨bytes, hbytes, ?_⟩
  show ofString (((encryptField aead (some key) (nonceOf nonce) (ofString value)).map toString).toOption.getD "") = _
  rw [encryptField_eq rfl hne hbytes]
  exact ofString_toString_encode _

theorem lawful_fieldCrypto (hlawful : aead.Lawful) :
    (fieldCrypto aead (some key) nonceOf computeBlindIndex).Lawful where
  isEncrypted_encryptField nonce value hvalue := by
    obtain ⟨bytes, -, hsealed⟩ := @ofString_encryptField aead key nonceOf computeBlindIndex value hvalue nonce
    show isEncrypted (ofString _) = true
    rw [hsealed]
    exact isEncrypted_envelope _ _
  decryptField_encryptField nonce value hvalue := by
    obtain ⟨bytes, hbytes, hsealed⟩ := @ofString_encryptField aead key nonceOf computeBlindIndex value hvalue nonce
    show (decryptField aead (some key) (ofString _)).map toString = _
    rw [hsealed, decryptField_envelope hlawful rfl hbytes]
    exact congrArg Except.ok (toString_ofString value)
  length_lt_encryptField nonce value hvalue := by
    obtain ⟨bytes, hbytes, hsealed⟩ := @ofString_encryptField aead key nonceOf computeBlindIndex value hvalue nonce
    have hlength := length_encodeUtf8 hbytes
    have htag := hlawful.length_decrypt (hlawful.decrypt_encrypt key (nonceOf nonce) bytes)
    have henvelope := length_envelope (nonceOf nonce).1 (aead.encrypt key (nonceOf nonce).1 bytes)
    rw [← length_ofString, ← length_ofString, hsealed]
    omega
  isEncrypted_number value hvalue := by
    obtain ⟨rest, hrest⟩ := List.head?_eq_some_iff.1 hvalue
    show isEncrypted ((value.toList).map Char.toNat) = false
    rw [hrest]
    exact isEncrypted_plus _

/-- A stored string that was entered as it is, against what it is read as. -/
theorem decrypt_fieldCrypto_iff (hlawful : aead.Lawful) {dataKey : Option DataKey} {encryptionEnabled : Bool}
    (hkey : encryptionEnabled = true → dataKey.isSome = true) (nonce value : String) :
    (fieldCrypto aead dataKey nonceOf computeBlindIndex).decrypt
        ((fieldCrypto aead dataKey nonceOf computeBlindIndex).encrypt encryptionEnabled nonce value) = .ok value ↔
      encryptionEnabled = true ∨ isEncrypted (ofString value) = false := by
  cases encryptionEnabled with
  | true =>
    obtain ⟨key, rfl⟩ := Option.isSome_iff_exists.1 (hkey rfl)
    exact iff_of_true (FieldCrypto.decrypt_encrypt_true (lawful_fieldCrypto hlawful) nonce value) (.inl rfl)
  | false =>
    have hplain : (fieldCrypto aead dataKey nonceOf computeBlindIndex).encrypt false nonce value = value := rfl
    rw [hplain, FieldCrypto.decrypt]
    split
    · rename_i hempty
      rw [hempty]
      exact iff_of_true rfl (.inr rfl)
    · rename_i hne
      split
      · rename_i hencrypted
        have hencrypted : isEncrypted (ofString value) = true := hencrypted
        refine iff_of_false (fun h => ?_) (by rw [hencrypted]; decide)
        have h : (decryptField aead dataKey (ofString value)).map toString = .ok value := h
        cases hdecrypt : decryptField aead dataKey (ofString value) with
        | error e =>
          rw [hdecrypt] at h
          cases h
        | ok text =>
          rw [hdecrypt] at h
          have hlength := length_decryptField hlawful (fun hnil => hne (ofString_eq_nil.1 hnil)) hdecrypt
          rw [← Except.ok.inj h, length_ofString, toString, String.length_ofList, List.length_map] at hlength
          exact absurd hlength (Nat.lt_irrefl _)
      · rename_i hencrypted
        exact iff_of_true rfl (.inr (Bool.eq_false_iff.2 hencrypted))

/-! ### The list of the employees -/

open EmployeeApi KeyedStore

/-- What was entered of an employee, and how it was written. A number is gone after a deletion. -/
structure Entry where
  name : String
  phoneNumber : String
  encryptionEnabled : Bool
  nonces : String × String
  isNumber : phoneNumber = "" ∨ EmployeeApi.isNumber phoneNumber

structure Entry.Wrote (entry : Entry) (crypto : FieldCrypto) (item : EmployeeItem) : Prop where
  name : item.name = some (crypto.encrypt entry.encryptionEnabled entry.nonces.1 entry.name)
  phoneNumber : item.phoneNumber = some (crypto.encrypt entry.encryptionEnabled entry.nonces.2 entry.phoneNumber)

/-- The employee as it was entered. -/
def Entry.shown (entry : Entry) (row : String × EmployeeItem) : Value :=
  .dict [("employeeId", .str row.1), ("name", .str entry.name), ("phoneNumber", .str entry.phoneNumber),
    ("isAdmin", .bool (row.2.role == some "admin")), ("deleted", .bool row.2.isDeleted)]

/-- The rows that are listed. -/
def listed (includeDeleted : Value) (w : World) : List (String × EmployeeItem) :=
  w.employees.rows.filter fun row => !row.2.isDeleted || Invocation.isTrueText includeDeleted

/-- The answer that shows every row as it was entered. -/
def shownAll (entered : String → Entry) (rows : List (String × EmployeeItem)) : HttpResponse where
  statusCode := 200
  body := .dict [("employees", .list (rows.map fun row => (entered row.1).shown row)), ("total", .int rows.length)]

section

variable {library : Library} {dataKey : Option DataKey} {inv : Invocation} {w : World} {includeDeleted : Value}
  {entered : String → Entry}

theorem isEncrypted_number {phoneNumber : String} (h : phoneNumber = "" ∨ EmployeeApi.isNumber phoneNumber) :
    isEncrypted (ofString phoneNumber) = false := by
  rcases h with rfl | hnumber
  · rfl
  · obtain ⟨rest, hrest⟩ := List.head?_eq_some_iff.1 hnumber
    show isEncrypted (phoneNumber.toList.map Char.toNat) = false
    rw [hrest]
    exact isEncrypted_plus _

theorem listEntry_iff (hlawful : aead.Lawful) (hcrypto : library.crypto = fieldCrypto aead dataKey nonceOf computeBlindIndex)
    {entry : Entry} {row : String × EmployeeItem} (hwrote : entry.Wrote library.crypto row.2)
    (hkey : entry.encryptionEnabled = true → dataKey.isSome = true) :
    Invocation.listEntry library row = .ok (entry.shown row) ↔
      entry.encryptionEnabled = true ∨ isEncrypted (ofString entry.name) = false := by
  have hname := @decrypt_fieldCrypto_iff aead nonceOf computeBlindIndex hlawful dataKey _ hkey entry.nonces.1 entry.name
  have hphone := (@decrypt_fieldCrypto_iff aead nonceOf computeBlindIndex hlawful dataKey _ hkey entry.nonces.2
    entry.phoneNumber).2 (.inr (isEncrypted_number entry.isNumber))
  rw [← hname, Invocation.listEntry, Invocation.decrypted, Invocation.decrypted, hwrote.name, hwrote.phoneNumber, hcrypto,
    Option.getD_some, Option.getD_some, hphone]
  constructor
  · intro h
    obtain ⟨name, hdecrypt, h⟩ := bind_eq_ok.1 h
    have hshown : Entry.shown { entry with name } row = entry.shown row := Except.ok.inj h
    have hsame : name = entry.name := by simpa [Entry.shown] using hshown
    rw [hdecrypt, hsame]
  · intro h
    rw [h]
    rfl

theorem run_listEmployees
    (hquery : inv.event.queryStringParameters.getOrEmpty "includeDeleted" = .ok includeDeleted) :
    ((inv.listEmployees library).run (fun w c => respond w {} c) w).1 =
      ((listed includeDeleted w).mapM (Invocation.listEntry library)).map fun entries =>
        { statusCode := 200, body := .dict [("employees", .list entries), ("total", .int entries.length)] } := by
  rw [Invocation.listEmployees, hquery]
  show ((Program.ofExcept ((listed includeDeleted w).mapM (Invocation.listEntry library)) >>= _ :
    Action HttpResponse).run _ w).1 = _
  rw [Program.run_bind, Program.run_ofExcept]
  cases (listed includeDeleted w).mapM (Invocation.listEntry library) with
  | ok entries => rfl
  | error e => rfl

theorem listEmployees_iff (hlawful : aead.Lawful)
    (hcrypto : library.crypto = fieldCrypto aead dataKey nonceOf computeBlindIndex)
    (hquery : inv.event.queryStringParameters.getOrEmpty "includeDeleted" = .ok includeDeleted)
    (hwrote : ∀ row ∈ listed includeDeleted w, (entered row.1).Wrote library.crypto row.2)
    (hkey : ∀ row ∈ listed includeDeleted w, (entered row.1).encryptionEnabled = true → dataKey.isSome = true) :
    ((inv.listEmployees library).run (fun w c => respond w {} c) w).1 =
        .ok (shownAll entered (listed includeDeleted w)) ↔
      ∀ row ∈ listed includeDeleted w, (entered row.1).encryptionEnabled = true ∨
        isEncrypted (ofString (entered row.1).name) = false := by
  have hmap : (∀ row ∈ listed includeDeleted w, (entered row.1).encryptionEnabled = true ∨
      isEncrypted (ofString (entered row.1).name) = false) ↔
        (listed includeDeleted w).mapM (Invocation.listEntry library) =
          .ok ((listed includeDeleted w).map fun row => (entered row.1).shown row) := by
    rw [mapM_eq_ok_map]
    exact forall₂_congr fun row hrow => (listEntry_iff hlawful hcrypto (hwrote row hrow) (hkey row hrow)).symm
  rw [hmap, run_listEmployees hquery]
  cases (listed includeDeleted w).mapM (Invocation.listEntry library) with
  | error e => exact iff_of_false nofun nofun
  | ok entries =>
    constructor
    · intro h
      have hbody : entries = (listed includeDeleted w).map fun row => (entered row.1).shown row := by
        have hresponse := Except.ok.inj h
        rw [shownAll, HttpResponse.mk.injEq] at hresponse
        have hfields := hresponse.2
        simp only [Value.dict.injEq, List.cons.injEq, Prod.mk.injEq, Value.list.injEq] at hfields
        exact hfields.1.2
      rw [hbody]
    · intro h
      rw [Except.ok.inj h]
      simp only [Except.map, shownAll, List.length_map]

end

theorem isReadBack_ofString {encryptionEnabled : Bool} {s : String} : IsReadBack encryptionEnabled (ofString s) ↔
    encryptionEnabled = true ∨ isEncrypted (ofString s) = false := by
  cases encryptionEnabled with
  | true => exact iff_of_true (all_isScalar s) (.inl rfl)
  | false => simp [IsReadBack]

/-- A stored number is read back in either mode. -/
theorem isReadBack_number {encryptionEnabled : Bool} {phoneNumber : String} (h : EmployeeApi.isNumber phoneNumber) :
    IsReadBack encryptionEnabled (ofString phoneNumber) :=
  isReadBack_ofString.2 (.inr (isEncrypted_number (.inr h)))

/-- A name or a number is read back exactly when its text has UTF-8, where it is encrypted, and is no envelope, where it is
not; a stored number always is; and the list of the employees is answered, and shows what was entered, exactly when every
name in it is read back. -/
theorem roundTrips_iff (aead : Aead) (hlawful : aead.Lawful) (dataKey : Option DataKey) (nonceOf : String → Nonce)
    (computeBlindIndex : String → String) :
    (∀ (x : Entered) (nonce : Nonce) (enabledAtWrite enabledAtRead : Bool),
      (enabledAtWrite = true ∨ enabledAtRead = true → dataKey.isSome = true) →
        (RoundTrips aead dataKey nonce enabledAtWrite x.1 ↔ IsReadBack enabledAtWrite x.1)) ∧
    (∀ (phoneNumber : String) (enabledAtWrite : Bool), EmployeeApi.isNumber phoneNumber →
      IsReadBack enabledAtWrite (ofString phoneNumber)) ∧
    ∀ (library : Library) (inv : Invocation) (w : World) (includeDeleted : Value) (entered : String → Entry),
      library.crypto = fieldCrypto aead dataKey nonceOf computeBlindIndex →
      inv.event.queryStringParameters.getOrEmpty "includeDeleted" = .ok includeDeleted →
      (∀ row ∈ listed includeDeleted w, (entered row.1).Wrote library.crypto row.2) →
      ((∃ row ∈ listed includeDeleted w, (entered row.1).encryptionEnabled = true) ∨ inv.encryptionEnabled = true →
        dataKey.isSome = true) →
      (((inv.listEmployees library).run (fun w c => respond w {} c) w).1 =
          .ok (shownAll entered (listed includeDeleted w)) ↔
        ∀ row ∈ listed includeDeleted w,
          IsReadBack (entered row.1).encryptionEnabled (ofString (entered row.1).name)) := by
  refine ⟨?_, fun phoneNumber enabledAtWrite hnumber => isReadBack_number hnumber, ?_⟩
  · intro x nonce enabledAtWrite enabledAtRead hkey
    exact roundTrips_iff_isReadBack hlawful fun henabled => hkey (.inl henabled)
  · intro library inv w includeDeleted entered hcrypto hquery hwrote hkey
    rw [listEmployees_iff hlawful hcrypto hquery hwrote fun row hrow henabled => hkey (.inl ⟨row, hrow, henabled⟩)]
    exact forall₂_congr fun row hrow => isReadBack_ofString.symm

/-! ### Fields to try -/

/-- No cipher at all, with a tag of zeros. -/
def tagging : Aead where
  encrypt _ _ plaintext := plaintext ++ List.replicate 16 0
  decrypt _ _ ciphertext :=
    if (List.replicate 16 0).isSuffixOf ciphertext then some (ciphertext.take (ciphertext.length - 16)) else none

theorem lawful_tagging : tagging.Lawful where
  decrypt_encrypt key nonce plaintext := by
    have hsuffix : (List.replicate 16 0).isSuffixOf (plaintext ++ List.replicate 16 (0 : UInt8)) = true :=
      List.isSuffixOf_iff_suffix.2 (List.suffix_append _ _)
    show (if (List.replicate 16 0).isSuffixOf (plaintext ++ List.replicate 16 (0 : UInt8)) then
      some ((plaintext ++ List.replicate 16 0).take ((plaintext ++ List.replicate 16 (0 : UInt8)).length - 16))
      else none) = _
    rw [if_pos hsuffix, List.length_append, List.length_replicate, Nat.add_sub_cancel, List.take_left]
  length_decrypt {key nonce ciphertext plaintext} h := by
    have h : (if (List.replicate 16 0).isSuffixOf ciphertext then some (ciphertext.take (ciphertext.length - 16)) else none) =
      some plaintext := h
    split at h
    · rename_i hsuffix
      have hlength := (List.isSuffixOf_iff_suffix.1 hsuffix).length_le
      rw [List.length_replicate] at hlength
      rw [← Option.some.inj h, List.length_take]
      omega
    · cases h

def zeroKey : DataKey := ⟨List.replicate 32 0, rfl⟩

def zeroNonce : Nonce := ⟨List.replicate 12 0, rfl⟩

def plainLibrary : Library where
  crypto := fieldCrypto tagging (some zeroKey) (fun _ => zeroNonce) id
  decodeCsv _ := .error "Incorrect padding"
  anonymizeEmployeeId employeeId _ := employeeId

/-- An employee as a creation leaves it with encryption off. -/
def oneRow (name : String) : World where
  employees := AList.insert "e1" {
    name := some name
    phoneNumber := some "+819012345678"
    phoneNumberBlindIndex := some ""
    role := some "employee"
    deleted := some false } ∅

def oneEntry (name : String) : Entry where
  name := name
  phoneNumber := "+819012345678"
  encryptionEnabled := false
  nonces := ("", "")
  isNumber := .inr rfl

def listing : Invocation where
  event := { httpMethod := "GET", resource := "/employees" }

theorem isReadBack_sato : IsReadBack false (ofString "Sato") := by
  show isEncrypted (ofString "Sato") = false
  decide +kernel

theorem roundTrips_sato : RoundTrips tagging (some zeroKey) zeroNonce false (ofString "Sato") ∧
    ((listing.listEmployees plainLibrary).run (fun w c => respond w {} c) (oneRow "Sato")).1 =
      .ok (shownAll (fun _ => oneEntry "Sato") (listed .none (oneRow "Sato"))) := by
  obtain ⟨hfield, -, hlist⟩ := roundTrips_iff tagging lawful_tagging (some zeroKey) (fun _ => zeroNonce) id
  refine ⟨(hfield ⟨ofString "Sato", .inl (by decide)⟩ zeroNonce false false fun _ => rfl).2 isReadBack_sato,
    (hlist plainLibrary listing (oneRow "Sato") .none (fun _ => oneEntry "Sato") rfl rfl (fun row hrow => ?_) fun _ => rfl).2
      fun _ _ => isReadBack_sato⟩
  cases List.mem_singleton.1 (show row ∈ [_] from hrow)
  exact ⟨rfl, rfl⟩

/-- The base64 of `{"v":2}` is a name; it is stored as it is, read as an envelope, and ends the list. -/
theorem not_roundTrips_envelopeName : isValidName (ofString "eyJ2IjoyfQ==") = true ∧
    ¬ RoundTrips tagging (some zeroKey) zeroNonce false (ofString "eyJ2IjoyfQ==") ∧
    ((listing.listEmployees plainLibrary).run (fun w c => respond w {} c) (oneRow "eyJ2IjoyfQ==")).1.isOk = false := by
  refine ⟨by decide, fun h => ?_, by decide +kernel⟩
  have hraises : (encrypt tagging (some zeroKey) false zeroNonce (ofString "eyJ2IjoyfQ==") >>=
      decrypt tagging (some zeroKey)).isOk = false := by decide +kernel
  rw [show _ = Except.ok _ from h] at hraises
  cases hraises

end Envelope

end SafetyConfirmation
