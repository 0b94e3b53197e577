import SafetyConfirmation.Data.Value
import SafetyConfirmation.Lib.Checks
import SafetyConfirmation.Lib.Decimals

/-!
# The marshalling of anonymised rows

The anonymisation deletes a Response row and puts it back under the new id in one transaction, which takes attribute values
where the query has given Python values. `_marshal_attribute_value` turns the one into the other, and what it drops or
changes is lost with the row.
-/

namespace SafetyConfirmation

open Checks Decimals

/-! ### Values -/

/-- A hashable value, as a key or an element of a set. -/
inductive PyKey where
  | str (s : String)
  | int (n : Int)
  | other (typeName : String)
  deriving DecidableEq, Repr

/-- A Python value with its decimals as they are written; `object` is one of a class that the code below does not name. -/
inductive PyValue where
  | none
  | bool (b : Bool)
  | str (s : String)
  | int (n : Int)
  | decimal (d : Decimal)
  | float (x : Numerals.Number)
  | bytes (bs : List UInt8)
  | list (items : List PyValue)
  | set (elements : List PyKey)
  | dict (entries : List (PyKey × PyValue))
  | object (typeName : String)

/-- A value of the wire format. The keys of an `M` are those of the dictionary that it was made of. -/
inductive AttributeValue where
  | null
  | bool (b : Bool)
  | s (s : String)
  | n (text : String)
  | b (bs : List UInt8)
  | l (items : List AttributeValue)
  | m (entries : List (PyKey × AttributeValue))

/-- Induction on an attribute value: of what an `L` or an `M` holds, at any place. -/
@[elab_as_elim]
theorem AttributeValue.induction {motive : AttributeValue → Prop} (null : motive null) (bool : ∀ b, motive (bool b))
    (s : ∀ text, motive (s text)) (n : ∀ text, motive (n text)) (b : ∀ bs, motive (b bs))
    (l : ∀ items, (∀ a ∈ items, motive a) → motive (l items))
    (m : ∀ entries, (∀ entry ∈ entries, motive entry.2) → motive (m entries)) (a : AttributeValue) : motive a :=
  AttributeValue.rec (motive_1 := motive) (motive_2 := fun items => ∀ a ∈ items, motive a)
    (motive_3 := fun entries => ∀ entry ∈ entries, motive entry.2) (motive_4 := fun entry => motive entry.2)
    null bool s n b l m nofun (fun _ _ ha hitems => List.forall_mem_cons.2 ⟨ha, hitems⟩) nofun
    (fun _ _ hentry hentries => List.forall_mem_cons.2 ⟨hentry, hentries⟩) (fun _ _ ha => ha) a

namespace PyValue

/-- Induction on a value: of what a list or a dictionary holds, at any place. -/
@[elab_as_elim]
theorem induction {motive : PyValue → Prop} (none : motive none) (bool : ∀ b, motive (bool b)) (str : ∀ s, motive (str s))
    (int : ∀ n, motive (int n)) (decimal : ∀ d, motive (decimal d)) (float : ∀ x, motive (float x))
    (bytes : ∀ bs, motive (bytes bs)) (list : ∀ items, (∀ v ∈ items, motive v) → motive (list items))
    (set : ∀ elements, motive (set elements))
    (dict : ∀ entries, (∀ entry ∈ entries, motive entry.2) → motive (dict entries))
    (object : ∀ typeName, motive (object typeName)) (v : PyValue) : motive v :=
  PyValue.rec (motive_1 := motive) (motive_2 := fun items => ∀ v ∈ items, motive v)
    (motive_3 := fun entries => ∀ entry ∈ entries, motive entry.2) (motive_4 := fun entry => motive entry.2)
    none bool str int decimal float bytes list set dict object nofun
    (fun _ _ hv hitems => List.forall_mem_cons.2 ⟨hv, hitems⟩) nofun
    (fun _ _ hentry hentries => List.forall_mem_cons.2 ⟨hentry, hentries⟩) (fun _ _ hv => hv) v

end PyValue

/-! ### Marshalling -/

/-- More digits are not converted. -/
def maxStrDigits : Nat := 4300

/-- `str(n)`. -/
def strOfInt (n : Int) : Except PyError String :=
  if n.natAbs < 10 ^ maxStrDigits then .ok (toString n)
  else
    .error (.valueError ("Exceeds the limit (4300 digits) for integer string conversion; " ++
      "use sys.set_int_max_str_digits() to increase the limit"))

mutual

def marshalAttributeValue : PyValue → Except PyError AttributeValue
  | .none => .ok .null
  | .bool b => .ok (.bool b)
  | .str s => .ok (.s s)
  | .int n => do return .n (← strOfInt n)
  | .decimal d => .ok (.n (.ofList d.toText))
  | .float _ => .error (.typeError "float values cannot be marshalled to DynamoDB; use Decimal")
  | .bytes bs => .ok (.b bs)
  | .list items => do return .l (← marshalItems items)
  | .set _ => .error (.typeError "set values not supported by anonymize marshalling")
  | .dict entries => do return .m (← marshalEntries entries)
  | .object typeName => .error (.typeError ("anonymize marshalling: unsupported value type " ++ typeName))

def marshalItems : List PyValue → Except PyError (List AttributeValue)
  | [] => .ok []
  | v :: items => do
    let a ← marshalAttributeValue v
    let marshalled ← marshalItems items
    return a :: marshalled

def marshalEntries : List (PyKey × PyValue) → Except PyError (List (PyKey × AttributeValue))
  | [] => .ok []
  | (key, v) :: entries => do
    let a ← marshalAttributeValue v
    let marshalled ← marshalEntries entries
    return (key, a) :: marshalled

end

/-! ### Reading -/

def PyKey.isStr : PyKey → Bool
  | str _ => true
  | _ => false

section

-- Which numbers the table can hold.
variable (canHold : Finite → Bool)

mutual

/-- What a client reads an attribute value as: a number has a text that is one, and the keys of an `M` are strings. -/
def deserialize : AttributeValue → Option PyValue
  | .null => some .none
  | .bool b => some (.bool b)
  | .s s => some (.str s)
  | .n text => do
    let x ← Finite.ofText text.toList
    if canHold x then return .decimal (.finite x) else none
  | .b bs => some (.bytes bs)
  | .l items => (deserializeItems items).map .list
  | .m entries => (deserializeEntries entries).map .dict

def deserializeItems : List AttributeValue → Option (List PyValue)
  | [] => some []
  | a :: items => do
    let v ← deserialize a
    let values ← deserializeItems items
    return v :: values

def deserializeEntries : List (PyKey × AttributeValue) → Option (List (PyKey × PyValue))
  | [] => some []
  | (key, a) :: entries =>
    if key.isStr then do
      let v ← deserialize a
      let values ← deserializeEntries entries
      return (key, v) :: values
    else none

end

end

namespace PyValue

mutual

/-- The value with decimals for its integers, which is what DynamoDB has for numbers. -/
def withDecimals : PyValue → PyValue
  | int n => decimal (.finite (.ofInt n))
  | list items => list (itemsWithDecimals items)
  | dict entries => dict (entriesWithDecimals entries)
  | v => v

def itemsWithDecimals : List PyValue → List PyValue
  | [] => []
  | v :: items => v.withDecimals :: itemsWithDecimals items

def entriesWithDecimals : List (PyKey × PyValue) → List (PyKey × PyValue)
  | [] => []
  | (key, v) :: entries => (key, v.withDecimals) :: entriesWithDecimals entries

end

/-- Null, booleans, strings, bytes and numbers of a kind, and the lists and string-keyed dictionaries of such values. -/
inductive BuiltFrom (isNumber : PyValue → Prop) : PyValue → Prop where
  | none : BuiltFrom isNumber none
  | bool (b : Bool) : BuiltFrom isNumber (bool b)
  | str (s : String) : BuiltFrom isNumber (str s)
  | number {v : PyValue} (hnumber : isNumber v) : BuiltFrom isNumber v
  | bytes (bs : List UInt8) : BuiltFrom isNumber (bytes bs)
  | list {items : List PyValue} (hitems : ∀ v ∈ items, BuiltFrom isNumber v) : BuiltFrom isNumber (list items)
  | dict {entries : List (PyKey × PyValue)} (hkeys : ∀ entry ∈ entries, entry.1.isStr = true)
      (hvalues : ∀ entry ∈ entries, BuiltFrom isNumber entry.2) : BuiltFrom isNumber (dict entries)

/-- `isinstance(v, (int, Decimal))` of what is no `bool`. -/
def IsNumber : PyValue → Prop
  | int _ | decimal _ => True
  | _ => False

/-- A number that can be written and that the table can hold. -/
def IsHeld (canHold : Finite → Bool) : PyValue → Prop
  | int n => n.natAbs < 10 ^ maxStrDigits ∧ canHold (.ofInt n) = true
  | decimal (.finite x) => canHold x = true
  | _ => False

def IsStorable (canHold : Finite → Bool) : PyValue → Prop := BuiltFrom (IsHeld canHold)

/-- `w` is a value that `v` contains, or `v`. -/
inductive Within (w : PyValue) : PyValue → Prop where
  | self : Within w w
  | list {items : List PyValue} {v : PyValue} (hv : v ∈ items) (h : Within w v) : Within w (list items)
  | dict {entries : List (PyKey × PyValue)} {entry : PyKey × PyValue} (hentry : entry ∈ entries) (h : Within w entry.2) :
      Within w (dict entries)

def IsUnsupported : PyValue → Prop
  | float _ | set _ | object _ => True
  | _ => False

/-- No integer in the value has too many digits to be written. -/
def IsPrintable (v : PyValue) : Prop := ∀ n : Int, (int n).Within v → n.natAbs < 10 ^ maxStrDigits

end PyValue

/-! ### The loops -/

section

variable {κ : Type}

def marshalEntry (entry : κ × PyValue) : Except PyError (κ × AttributeValue) := do
  let a ← marshalAttributeValue entry.2
  return (entry.1, a)

def deserializeEntry (canHold : Finite → Bool) (entry : κ × AttributeValue) : Option (κ × PyValue) :=
  (deserialize canHold entry.2).map fun v => (entry.1, v)

def entryWithDecimals (entry : κ × PyValue) : κ × PyValue := (entry.1, entry.2.withDecimals)

theorem marshalEntry_eq_ok {entry : κ × PyValue} {marshalled : κ × AttributeValue} :
    marshalEntry entry = .ok marshalled ↔ marshalAttributeValue entry.2 = .ok marshalled.2 ∧ entry.1 = marshalled.1 := by
  rw [marshalEntry, bind_eq_ok]
  constructor
  · rintro ⟨a, ha, h⟩
    cases h
    exact ⟨ha, rfl⟩
  · rintro ⟨ha, hkey⟩
    exact ⟨_, ha, by rw [hkey]; rfl⟩

theorem marshalEntry_eq_error {entry : κ × PyValue} {e : PyError} (h : marshalEntry entry = .error e) :
    marshalAttributeValue entry.2 = .error e := by
  rw [marshalEntry] at h
  obtain hvalue | ⟨a, -, h⟩ := bind_eq_error.1 h
  · exact hvalue
  · cases h

end

/-- An entry of an `M`. -/
def deserializeMember (canHold : Finite → Bool) (entry : PyKey × AttributeValue) : Option (PyKey × PyValue) :=
  if entry.1.isStr then deserializeEntry canHold entry else none

theorem deserializeMember_eq_some {canHold : Finite → Bool} {entry : PyKey × AttributeValue} {member : PyKey × PyValue} :
    deserializeMember canHold entry = some member ↔
      entry.1.isStr = true ∧ deserialize canHold entry.2 = some member.2 ∧ entry.1 = member.1 := by
  obtain ⟨key, a⟩ := entry
  obtain ⟨key', v⟩ := member
  by_cases hkey : key.isStr = true
  · rw [deserializeMember, if_pos hkey, deserializeEntry, Option.map_eq_some_iff]
    simp [hkey]
  · rw [deserializeMember, if_neg hkey]
    simp [hkey]

theorem marshalItems_eq (items : List PyValue) : marshalItems items = items.mapM marshalAttributeValue := by
  induction items with
  | nil => rfl
  | cons v items ih =>
    rw [marshalItems, List.mapM_cons, ih]

theorem marshalEntries_eq (entries : List (PyKey × PyValue)) : marshalEntries entries = entries.mapM marshalEntry := by
  induction entries with
  | nil => rfl
  | cons entry entries ih =>
    rw [marshalEntries, List.mapM_cons, ih, marshalEntry]
    cases marshalAttributeValue entry.2 <;> rfl

theorem deserializeItems_eq (canHold : Finite → Bool) (items : List AttributeValue) :
    deserializeItems canHold items = items.mapM (deserialize canHold) := by
  induction items with
  | nil => rfl
  | cons a items ih =>
    rw [deserializeItems, List.mapM_cons, ih]

theorem deserializeEntries_eq (canHold : Finite → Bool) (entries : List (PyKey × AttributeValue)) :
    deserializeEntries canHold entries = entries.mapM (deserializeMember canHold) := by
  induction entries with
  | nil => rfl
  | cons entry entries ih =>
    rw [deserializeEntries, List.mapM_cons, ih, deserializeMember]
    by_cases hkey : entry.1.isStr = true
    · rw [if_pos hkey, if_pos hkey, deserializeEntry]
      cases deserialize canHold entry.2 <;> rfl
    · rw [if_neg hkey, if_neg hkey]
      rfl

namespace PyValue

theorem itemsWithDecimals_eq (items : List PyValue) : itemsWithDecimals items = items.map withDecimals := by
  induction items with
  | nil => rfl
  | cons v items ih => rw [itemsWithDecimals, List.map_cons, ih]

theorem entriesWithDecimals_eq (entries : List (PyKey × PyValue)) :
    entriesWithDecimals entries = entries.map entryWithDecimals := by
  induction entries with
  | nil => rfl
  | cons entry entries ih => rw [entriesWithDecimals, List.map_cons, ih, entryWithDecimals]

end PyValue

/-! ### Round trip -/

variable {canHold : Finite → Bool} {v w : PyValue} {a : AttributeValue}

theorem strOfInt_eq_ok {n : Int} {text : String} : strOfInt n = .ok text ↔ n.natAbs < 10 ^ maxStrDigits ∧ text = toString n := by
  rw [strOfInt]
  split
  · rename_i hlimit
    rw [Except.ok.injEq, eq_comm]
    exact (and_iff_right hlimit).symm
  · rename_i hlimit
    exact iff_of_false nofun fun h => hlimit h.1

theorem deserialize_number {text : String} :
    deserialize canHold (.n text) = some v ↔ ∃ x, Finite.ofText text.toList = some x ∧ canHold x = true ∧
      v = .decimal (.finite x) := by
  rw [deserialize, Option.bind_eq_bind, Option.bind_eq_some_iff]
  refine exists_congr fun x => and_congr_right fun _ => ?_
  split
  · rename_i hholds
    rw [Option.pure_def, Option.some.injEq, eq_comm]
    exact (and_iff_right hholds).symm
  · rename_i hholds
    exact iff_of_false nofun fun h => hholds h.1

/-- A value that the table can hold comes back from it, with decimals for its integers. -/
theorem PyValue.IsStorable.exists_marshal (h : v.IsStorable canHold) :
    ∃ a, marshalAttributeValue v = .ok a ∧ deserialize canHold a = some v.withDecimals := by
  induction h with
  | none => exact ⟨_, rfl, rfl⟩
  | bool b => exact ⟨_, rfl, rfl⟩
  | str s => exact ⟨_, rfl, rfl⟩
  | bytes bs => exact ⟨_, rfl, rfl⟩
  | @number v hnumber =>
    cases v with
    | int n =>
      obtain ⟨hlimit, hholds⟩ := hnumber
      refine ⟨.n (toString n), ?_, deserialize_number.2 ⟨_, ?_, hholds, rfl⟩⟩
      · rw [marshalAttributeValue, strOfInt_eq_ok.2 ⟨hlimit, rfl⟩]
        rfl
      · rw [Finite.toList_toString, Finite.ofText_toText]
    | decimal d =>
      cases d with
      | finite x =>
        refine ⟨_, rfl, deserialize_number.2 ⟨x, ?_, hnumber, rfl⟩⟩
        rw [String.toList_ofList, Decimal.ofText_toText_eq_some]
      | _ => cases hnumber
    | _ => cases hnumber
  | @list items _ ih =>
    obtain ⟨marshalled, hmarshal, hread⟩ := exists_mapM_of_forall ih
    refine ⟨.l marshalled, ?_, ?_⟩
    · rw [marshalAttributeValue, marshalItems_eq, hmarshal]
      rfl
    · rw [deserialize, deserializeItems_eq, hread, withDecimals, itemsWithDecimals_eq]
      rfl
  | @dict entries hkeys _ ih =>
    obtain ⟨marshalled, hmarshal, hread⟩ := @exists_mapM_of_forall _ _ _ _ entries marshalEntry (deserializeMember canHold)
      entryWithDecimals fun entry hentry => by
        obtain ⟨a, ha, hv⟩ := ih entry hentry
        exact ⟨(entry.1, a), marshalEntry_eq_ok.2 ⟨ha, rfl⟩, deserializeMember_eq_some.2 ⟨hkeys entry hentry, hv, rfl⟩⟩
    refine ⟨.m marshalled, ?_, ?_⟩
    · rw [marshalAttributeValue, marshalEntries_eq, hmarshal]
      rfl
    · rw [deserialize, deserializeEntries_eq, hread, withDecimals, entriesWithDecimals_eq]
      rfl

/-- What is read back is the value, and one that the table can hold. -/
theorem eq_of_deserialize_marshal (hmarshal : marshalAttributeValue v = .ok a) (hread : deserialize canHold a = some w) :
    w = v.withDecimals ∧ v.IsStorable canHold := by
  induction v using PyValue.induction generalizing a w with
  | none =>
    cases hmarshal
    cases hread
    exact ⟨rfl, .none⟩
  | bool b =>
    cases hmarshal
    cases hread
    exact ⟨rfl, .bool b⟩
  | str s =>
    cases hmarshal
    cases hread
    exact ⟨rfl, .str s⟩
  | bytes bs =>
    cases hmarshal
    cases hread
    exact ⟨rfl, .bytes bs⟩
  | int n =>
    rw [marshalAttributeValue] at hmarshal
    obtain ⟨text, htext, hmarshal⟩ := bind_eq_ok.1 hmarshal
    cases hmarshal
    obtain ⟨hlimit, rfl⟩ := strOfInt_eq_ok.1 htext
    obtain ⟨x, hx, hholds, rfl⟩ := deserialize_number.1 hread
    rw [Finite.toList_toString, Finite.ofText_toText, Option.some.injEq] at hx
    subst hx
    exact ⟨rfl, .number ⟨hlimit, hholds⟩⟩
  | decimal d =>
    cases hmarshal
    obtain ⟨x, hx, hholds, rfl⟩ := deserialize_number.1 hread
    rw [String.toList_ofList, Decimal.ofText_toText_eq_some] at hx
    subst hx
    exact ⟨rfl, .number hholds⟩
  | float x => cases hmarshal
  | set elements => cases hmarshal
  | object typeName => cases hmarshal
  | list items ih =>
    rw [marshalAttributeValue, marshalItems_eq] at hmarshal
    obtain ⟨marshalled, hitems, hmarshal⟩ := bind_eq_ok.1 hmarshal
    cases hmarshal
    rw [deserialize, deserializeItems_eq] at hread
    obtain ⟨values, hvalues, rfl⟩ := Option.map_eq_some_iff.1 hread
    obtain ⟨rfl, hall⟩ := eq_map_of_mapM hitems hvalues fun x hx _ _ => ih x hx
    exact ⟨by rw [PyValue.withDecimals, PyValue.itemsWithDecimals_eq], .list hall⟩
  | dict entries ih =>
    rw [marshalAttributeValue, marshalEntries_eq] at hmarshal
    obtain ⟨marshalled, hentries, hmarshal⟩ := bind_eq_ok.1 hmarshal
    cases hmarshal
    rw [deserialize, deserializeEntries_eq] at hread
    obtain ⟨values, hvalues, rfl⟩ := Option.map_eq_some_iff.1 hread
    have hentry : ∀ entry ∈ entries, ∀ y z, marshalEntry entry = .ok y → deserializeMember canHold y = some z →
        z = entryWithDecimals entry ∧ entry.1.isStr = true ∧ entry.2.IsStorable canHold := by
      rintro ⟨key, v⟩ hmem ⟨_, a⟩ ⟨_, u⟩ hy hz
      obtain ⟨ha, rfl⟩ := marshalEntry_eq_ok.1 hy
      obtain ⟨hkey, hu, rfl⟩ := deserializeMember_eq_some.1 hz
      obtain ⟨rfl, hstorable⟩ := ih (key, v) hmem ha hu
      exact ⟨rfl, hkey, hstorable⟩
    obtain ⟨rfl, hall⟩ := eq_map_of_mapM hentries hvalues hentry
    refine ⟨by rw [PyValue.withDecimals, PyValue.entriesWithDecimals_eq], .dict ?_ ?_⟩
    · exact fun entry hmem => (hall entry hmem).1
    · exact fun entry hmem => (hall entry hmem).2

/-- A value that was read is one that the table can hold, with decimals for its integers already. -/
theorem of_deserialize (h : deserialize canHold a = some v) : v.IsStorable canHold ∧ v.withDecimals = v := by
  induction a using AttributeValue.induction generalizing v with
  | null =>
    cases h
    exact ⟨.none, rfl⟩
  | bool b =>
    cases h
    exact ⟨.bool b, rfl⟩
  | s text =>
    cases h
    exact ⟨.str text, rfl⟩
  | n text =>
    obtain ⟨x, -, hholds, rfl⟩ := deserialize_number.1 h
    exact ⟨.number hholds, rfl⟩
  | b bs =>
    cases h
    exact ⟨.bytes bs, rfl⟩
  | l items ih =>
    rw [deserialize, deserializeItems_eq] at h
    obtain ⟨values, hvalues, rfl⟩ := Option.map_eq_some_iff.1 h
    have hall : ∀ v ∈ values, v.IsStorable canHold ∧ v.withDecimals = v := by
      intro v hv
      obtain ⟨a, ha, hread⟩ := exists_of_mem_mapM_eq_some hvalues hv
      exact ih a ha hread
    refine ⟨.list fun v hv => (hall v hv).1, ?_⟩
    rw [PyValue.withDecimals, PyValue.itemsWithDecimals_eq, List.map_congr_left fun v hv => (hall v hv).2, List.map_id']
  | m entries ih =>
    rw [deserialize, deserializeEntries_eq] at h
    obtain ⟨values, hvalues, rfl⟩ := Option.map_eq_some_iff.1 h
    have hall : ∀ entry ∈ values, entry.1.isStr = true ∧ entry.2.IsStorable canHold ∧ entryWithDecimals entry = entry := by
      rintro ⟨_, v⟩ hentry
      obtain ⟨⟨key, a⟩, hmember, hread⟩ := exists_of_mem_mapM_eq_some hvalues hentry
      obtain ⟨hkey, hv, rfl⟩ := deserializeMember_eq_some.1 hread
      obtain ⟨hstorable, hsame⟩ := ih (key, a) hmember hv
      exact ⟨hkey, hstorable, by rw [entryWithDecimals, hsame]⟩
    refine ⟨.dict (fun entry hentry => (hall entry hentry).1) fun entry hentry => (hall entry hentry).2.1, ?_⟩
    rw [PyValue.withDecimals, PyValue.entriesWithDecimals_eq,
      List.map_congr_left fun entry hentry => (hall entry hentry).2.2, List.map_id']

/-! ### What is refused -/

theorem marshal_ne_ok_of_within (hwithin : w.Within v) (hw : w.IsUnsupported) : marshalAttributeValue v ≠ .ok a := by
  induction hwithin generalizing a with
  | self =>
    cases w with
    | float x => nofun
    | set elements => nofun
    | object typeName => nofun
    | _ => cases hw
  | list hv _ ih =>
    intro hmarshal
    rw [marshalAttributeValue, marshalItems_eq] at hmarshal
    obtain ⟨marshalled, hitems, -⟩ := bind_eq_ok.1 hmarshal
    obtain ⟨a, ha⟩ := exists_eq_ok_of_mapM hitems hv
    exact ih ha
  | dict hentry _ ih =>
    intro hmarshal
    rw [marshalAttributeValue, marshalEntries_eq] at hmarshal
    obtain ⟨marshalled, hentries, -⟩ := bind_eq_ok.1 hmarshal
    obtain ⟨entry', hentry'⟩ := exists_eq_ok_of_mapM hentries hentry
    exact ih (marshalEntry_eq_ok.1 hentry').1

/-- What raises is a value that is not supported, with a `TypeError`, or an integer with too many digits. -/
theorem marshal_eq_error {e : PyError} (h : marshalAttributeValue v = .error e) :
    (∃ message, e = .typeError message) ∨ ∃ n : Int, (PyValue.int n).Within v ∧ 10 ^ maxStrDigits ≤ n.natAbs := by
  induction v using PyValue.induction generalizing e with
  | none => cases h
  | bool b => cases h
  | str s => cases h
  | bytes bs => cases h
  | decimal d => cases h
  | float x =>
    cases h
    exact .inl ⟨_, rfl⟩
  | set elements =>
    cases h
    exact .inl ⟨_, rfl⟩
  | object typeName =>
    cases h
    exact .inl ⟨_, rfl⟩
  | int n =>
    right
    refine ⟨n, .self, ?_⟩
    by_contra hlimit
    rw [marshalAttributeValue, strOfInt_eq_ok.2 ⟨not_le.1 hlimit, rfl⟩] at h
    cases h
  | list items ih =>
    rw [marshalAttributeValue, marshalItems_eq] at h
    obtain hitems | ⟨marshalled, -, h⟩ := bind_eq_error.1 h
    · obtain ⟨v, hv, herror⟩ := exists_of_mapM_eq_error hitems
      refine (ih v hv herror).imp_right ?_
      rintro ⟨n, hn, hlimit⟩
      exact ⟨n, .list hv hn, hlimit⟩
    · cases h
  | dict entries ih =>
    rw [marshalAttributeValue, marshalEntries_eq] at h
    obtain hentries | ⟨marshalled, -, h⟩ := bind_eq_error.1 h
    · obtain ⟨entry, hentry, herror⟩ := exists_of_mapM_eq_error hentries
      refine (ih entry hentry (marshalEntry_eq_error herror)).imp_right ?_
      rintro ⟨n, hn, hlimit⟩
      exact ⟨n, .dict hentry hn, hlimit⟩
    · cases h

theorem exists_typeError_of_within (hwithin : w.Within v) (hw : w.IsUnsupported) (hprintable : v.IsPrintable) :
    ∃ message, marshalAttributeValue v = .error (.typeError message) := by
  cases hmarshal : marshalAttributeValue v with
  | ok a => exact absurd hmarshal (marshal_ne_ok_of_within hwithin hw)
  | error e =>
    obtain ⟨message, rfl⟩ | ⟨n, hn, hlong⟩ := marshal_eq_error hmarshal
    · exact ⟨message, rfl⟩
    · exact absurd hlong (not_le.2 (hprintable n hn))

end SafetyConfirmation
