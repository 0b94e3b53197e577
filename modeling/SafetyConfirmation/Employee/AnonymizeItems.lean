import SafetyConfirmation.Employee.Marshalling
import SafetyConfirmation.Employee.Service
import SafetyConfirmation.Response.Api

/-!
# The transaction of an anonymisation

`_build_anonymize_transact_items` and what the rows are that it puts back: under the new id, with every other attribute as
the table reads it. A row that it cannot carry over whole is not deleted either, since it raises before there is a
transaction.
-/

namespace SafetyConfirmation

open Checks Decimals KeyedStore

/-! ### Items -/

/-- A dictionary whose keys are strings, each of them there once. -/
structure Item where
  entries : List (String × PyValue)
  nodup : (entries.map Prod.fst).Nodup

namespace Item

def lookup (item : Item) (key : String) : Option PyValue := item.entries.lookup key

def assignEntries (key : String) (v : PyValue) : List (String × PyValue) → List (String × PyValue)
  | [] => [(key, v)]
  | entry :: entries => if entry.1 = key then (key, v) :: entries else entry :: assignEntries key v entries

theorem lookup_cons (entry : String × PyValue) (entries : List (String × PyValue)) (key : String) :
    (entry :: entries).lookup key = if key = entry.1 then some entry.2 else entries.lookup key := by
  obtain ⟨name, v⟩ := entry
  rw [List.lookup_cons]
  by_cases hkey : key = name
  · rw [if_pos hkey, beq_iff_eq.2 hkey]
  · rw [if_neg hkey, beq_eq_false_iff_ne.2 hkey]

theorem lookup_assignEntries (key : String) (v : PyValue) (entries : List (String × PyValue)) (key' : String) :
    (assignEntries key v entries).lookup key' = if key' = key then some v else entries.lookup key' := by
  induction entries with
  | nil => rw [assignEntries, lookup_cons]
  | cons entry entries ih =>
    rw [assignEntries]
    split
    · rename_i hentry
      subst hentry
      rw [lookup_cons, lookup_cons]
      split <;> rfl
    · rename_i hentry
      rw [lookup_cons, lookup_cons, ih]
      by_cases hkey : key' = entry.1
      · rw [if_pos hkey, if_pos hkey, if_neg (hkey ▸ hentry)]
      · rw [if_neg hkey, if_neg hkey]

theorem keys_assignEntries_of_mem {key : String} {entries : List (String × PyValue)} (hkey : key ∈ entries.map Prod.fst)
    (v : PyValue) : (assignEntries key v entries).map Prod.fst = entries.map Prod.fst := by
  induction entries with
  | nil => cases hkey
  | cons entry entries ih =>
    rw [assignEntries]
    split
    · rename_i hentry
      rw [List.map_cons, List.map_cons, hentry]
    · rename_i hentry
      have hrest := (List.mem_cons.1 hkey).resolve_left fun heq => hentry heq.symm
      rw [List.map_cons, List.map_cons, ih hrest]

theorem assignEntries_of_notMem {key : String} {entries : List (String × PyValue)} (hkey : key ∉ entries.map Prod.fst)
    (v : PyValue) : assignEntries key v entries = entries ++ [(key, v)] := by
  induction entries with
  | nil => rfl
  | cons entry entries ih =>
    rw [List.map_cons, List.mem_cons, not_or] at hkey
    rw [assignEntries, if_neg fun heq => hkey.1 heq.symm, ih hkey.2, List.cons_append]

theorem mem_assignEntries {key : String} {v : PyValue} {entries : List (String × PyValue)}
    (hnodup : (entries.map Prod.fst).Nodup) {entry : String × PyValue} (h : entry ∈ assignEntries key v entries) :
    entry = (key, v) ∨ entry ∈ entries ∧ entry.1 ≠ key := by
  induction entries with
  | nil => exact .inl (List.mem_singleton.1 h)
  | cons head entries ih =>
    rw [List.map_cons, List.nodup_cons] at hnodup
    rw [assignEntries] at h
    split at h
    · rename_i hhead
      obtain rfl | hentry := List.mem_cons.1 h
      · exact .inl rfl
      · refine .inr ⟨List.mem_cons_of_mem _ hentry, fun heq => hnodup.1 ?_⟩
        rw [hhead, ← heq]
        exact List.mem_map_of_mem hentry
    · rename_i hhead
      obtain rfl | hentry := List.mem_cons.1 h
      · exact .inr ⟨List.mem_cons_self, hhead⟩
      · exact (ih hnodup.2 hentry).imp_right fun hmem => ⟨List.mem_cons_of_mem _ hmem.1, hmem.2⟩

theorem mem_assignEntries_of_mem {key : String} {v : PyValue} {entries : List (String × PyValue)}
    {entry : String × PyValue} (hentry : entry ∈ entries) (hkey : entry.1 ≠ key) : entry ∈ assignEntries key v entries := by
  induction entries with
  | nil => cases hentry
  | cons head entries ih =>
    rw [assignEntries]
    split
    · rename_i hhead
      refine List.mem_cons_of_mem _ ((List.mem_cons.1 hentry).resolve_left ?_)
      rintro rfl
      exact hkey hhead
    · obtain rfl | hentry := List.mem_cons.1 hentry
      · exact List.mem_cons_self
      · exact List.mem_cons_of_mem _ (ih hentry)

/-- `item[key] = v`. -/
def assign (item : Item) (key : String) (v : PyValue) : Item where
  entries := assignEntries key v item.entries
  nodup := by
    by_cases hkey : key ∈ item.entries.map Prod.fst
    · rw [keys_assignEntries_of_mem hkey]
      exact item.nodup
    · rw [assignEntries_of_notMem hkey, List.map_append]
      refine List.nodup_append.2 ⟨item.nodup, List.pairwise_singleton _ _, ?_⟩
      intro key' hkey' key'' hkey'' heq
      rw [List.map_singleton, List.mem_singleton] at hkey''
      rw [heq, hkey''] at hkey'
      exact hkey hkey'

@[simp] theorem entries_assign (item : Item) (key : String) (v : PyValue) :
    (item.assign key v).entries = assignEntries key v item.entries := rfl

end Item

namespace PyValue

mutual

/-- The value with the numbers that its decimals are; bytes, sets and other objects have none. -/
def toValue : PyValue → Option Value
  | none => some .none
  | bool b => some (.bool b)
  | str s => some (.str s)
  | int n => some (.int n)
  | decimal (.finite x) => some (.decimal x.value)
  | float (.finite q) => some (.float q)
  | list items => (itemsToValues items).map .list
  | dict entries => (entriesToFields entries).map .dict
  | _ => Option.none

def itemsToValues : List PyValue → Option (List Value)
  | [] => some []
  | v :: items => do
    let value ← toValue v
    let values ← itemsToValues items
    return value :: values

def entriesToFields : List (PyKey × PyValue) → Option (List (String × Value))
  | [] => some []
  | (.str key, v) :: entries => do
    let value ← toValue v
    let fields ← entriesToFields entries
    return (key, value) :: fields
  | _ :: _ => Option.none

end

theorem eq_str_of_toValue {v : PyValue} {s : String} (h : v.toValue = some (.str s)) : v = .str s := by
  cases v with
  | str s' =>
    cases h
    rfl
  | decimal d => cases d <;> cases h
  | float x => cases x <;> cases h
  | list items =>
    obtain ⟨values, -, heq⟩ := Option.map_eq_some_iff.1 h
    cases heq
  | dict entries =>
    obtain ⟨fields, -, heq⟩ := Option.map_eq_some_iff.1 h
    cases heq
  | _ => cases h

end PyValue

namespace Item

def fieldToValue (entry : String × PyValue) : Option (String × Value) := entry.2.toValue.map fun v => (entry.1, v)

def toValue (item : Item) : Option Value := (item.entries.mapM fieldToValue).map .dict

theorem fieldToValue_eq_str {entry : String × PyValue} {key s : String} (h : fieldToValue entry = some (key, .str s)) :
    entry = (key, .str s) := by
  obtain ⟨v, hv, heq⟩ := Option.map_eq_some_iff.1 h
  cases heq
  exact Prod.ext rfl (PyValue.eq_str_of_toValue hv)

end Item

namespace EmployeeApi

/-- An element of the transaction. The two values of a key stand under `S` as the row has them. -/
inductive TransactItem where
  | delete (tableName : String) (cycleId employeeId : PyValue)
  | put (tableName : String) (item : List (String × AttributeValue))

def marshalResponseItem (item : Item) : Except PyError (List (String × AttributeValue)) :=
  item.entries.mapM marshalEntry

/-- The Delete and the Put of one row. -/
def rewriteRow (responseTableName anonymizedId : String) (row : Item) : Except PyError (List TransactItem) := do
  let cycleId ← demand (row.lookup "cycleId") (.other "KeyError")
  let originalId ← demand (row.lookup "employeeId") (.other "KeyError")
  let newRow := row.assign "employeeId" (.str anonymizedId)
  let item ← marshalResponseItem newRow
  return [.delete responseTableName cycleId originalId, .put responseTableName item]

def buildAnonymizeTransactItems (responseTableName : String) (rows : List Item) (anonymizedId : String) :
    Except PyError (List TransactItem) := do
  let pairs ← rows.mapM (rewriteRow responseTableName anonymizedId)
  return pairs.flatten

/-! ### What is put back -/

def deserializeItem (canHold : Finite → Bool) (item : List (String × AttributeValue)) : Option (List (String × PyValue)) :=
  item.mapM (deserializeEntry canHold)

/-- Every attribute of the row, with only `employeeId` changed. -/
structure CarriesOver (anonymizedId : String) (row : Item) (stored : List (String × PyValue)) : Prop where
  keys : stored.map Prod.fst = row.entries.map Prod.fst
  employeeId : stored.lookup "employeeId" = some (.str anonymizedId)
  others : ∀ key, key ≠ "employeeId" → stored.lookup key = (row.lookup key).map PyValue.withDecimals

/-- A row with its key, whose attributes the table can hold. -/
structure IsStorableRow (canHold : Finite → Bool) (row : Item) : Prop where
  cycleId : (row.lookup "cycleId").isSome = true
  employeeId : (row.lookup "employeeId").isSome = true
  others : ∀ entry ∈ row.entries, entry.1 ≠ "employeeId" → entry.2.IsStorable canHold

variable {canHold : Finite → Bool} {row : Item} {responseTableName anonymizedId : String}

theorem lookup_map_withDecimals (entries : List (String × PyValue)) (key : String) :
    (entries.map entryWithDecimals).lookup key = (entries.lookup key).map PyValue.withDecimals := by
  induction entries with
  | nil => rfl
  | cons entry entries ih =>
    rw [List.map_cons, Item.lookup_cons, Item.lookup_cons, ih]
    by_cases hkey : key = entry.1
    · rw [entryWithDecimals, if_pos hkey, if_pos hkey]
      rfl
    · rw [entryWithDecimals, if_neg hkey, if_neg hkey]

theorem mem_keys_of_lookup {key : String} (h : (row.lookup key).isSome = true) : key ∈ row.entries.map Prod.fst := by
  rw [Item.lookup] at h
  generalize row.entries = entries at h
  induction entries with
  | nil => cases h
  | cons entry entries ih =>
    rw [Item.lookup_cons] at h
    rw [List.map_cons, List.mem_cons]
    split at h
    · exact .inl ‹_›
    · exact .inr (ih h)

theorem carriesOver_assign (h : (row.lookup "employeeId").isSome = true) :
    CarriesOver anonymizedId row ((row.assign "employeeId" (.str anonymizedId)).entries.map entryWithDecimals) where
  keys := by
    have hkeys : (Prod.fst ∘ entryWithDecimals : String × PyValue → String) = Prod.fst := rfl
    rw [List.map_map, hkeys]
    exact Item.keys_assignEntries_of_mem (mem_keys_of_lookup h) _
  employeeId := by
    rw [lookup_map_withDecimals, Item.entries_assign, Item.lookup_assignEntries, if_pos rfl]
    rfl
  others key hkey := by
    rw [lookup_map_withDecimals, Item.entries_assign, Item.lookup_assignEntries, if_neg hkey]
    rfl

/-- What the transaction puts back for a row is read as the row under the new id, if the table can hold it. -/
def PutsBack (canHold : Finite → Bool) (responseTableName anonymizedId : String) (row : Item) (pair : List TransactItem) :
    Prop :=
  ∃ cycleId employeeId item, row.lookup "cycleId" = some cycleId ∧ row.lookup "employeeId" = some employeeId ∧
    pair = [.delete responseTableName cycleId employeeId, .put responseTableName item] ∧
    (∀ stored, deserializeItem canHold item = some stored → CarriesOver anonymizedId row stored) ∧
    (IsStorableRow canHold row → (deserializeItem canHold item).isSome = true)

theorem eq_of_deserializeItem {item : Item} {marshalled : List (String × AttributeValue)} {stored : List (String × PyValue)}
    (hmarshal : marshalResponseItem item = .ok marshalled) (hread : deserializeItem canHold marshalled = some stored) :
    stored = item.entries.map entryWithDecimals := by
  refine (eq_map_of_mapM (p := fun _ => True) hmarshal hread fun entry _ y z hy hz => ?_).1
  obtain ⟨ha, hkey⟩ := marshalEntry_eq_ok.1 hy
  obtain ⟨u, hu, rfl⟩ := Option.map_eq_some_iff.1 hz
  rw [(eq_of_deserialize_marshal ha hu).1, ← hkey]
  exact ⟨rfl, trivial⟩

theorem exists_marshalResponseItem {item : Item} (h : ∀ entry ∈ item.entries, entry.2.IsStorable canHold) :
    ∃ marshalled, marshalResponseItem item = .ok marshalled ∧ (deserializeItem canHold marshalled).isSome = true := by
  obtain ⟨marshalled, hmarshal, hread⟩ := @exists_mapM_of_forall _ _ _ _ item.entries marshalEntry
    (deserializeEntry canHold) entryWithDecimals fun entry hentry => by
      obtain ⟨a, ha, hv⟩ := (h entry hentry).exists_marshal
      refine ⟨(entry.1, a), marshalEntry_eq_ok.2 ⟨ha, rfl⟩, ?_⟩
      rw [deserializeEntry, hv]
      rfl
  exact ⟨marshalled, hmarshal, Option.isSome_of_eq_some hread⟩

theorem IsStorableRow.exists_marshal (h : IsStorableRow canHold row) :
    ∃ marshalled, marshalResponseItem (row.assign "employeeId" (.str anonymizedId)) = .ok marshalled ∧
      (deserializeItem canHold marshalled).isSome = true := by
  refine exists_marshalResponseItem fun entry hentry => ?_
  obtain rfl | ⟨hmem, hkey⟩ := Item.mem_assignEntries row.nodup hentry
  · exact .str anonymizedId
  · exact h.others entry hmem hkey

theorem rewriteRow_eq_ok {pair : List TransactItem} (h : rewriteRow responseTableName anonymizedId row = .ok pair) :
    PutsBack canHold responseTableName anonymizedId row pair := by
  obtain ⟨cycleId, hcycle, h⟩ := bind_eq_ok.1 h
  obtain ⟨employeeId, hemployee, h⟩ := bind_eq_ok.1 h
  obtain ⟨item, hitem, h⟩ := bind_eq_ok.1 h
  cases h
  rw [demand_eq_ok] at hcycle hemployee
  refine ⟨cycleId, employeeId, item, hcycle, hemployee, rfl, ?_, ?_⟩
  · intro stored hstored
    rw [eq_of_deserializeItem hitem hstored]
    exact carriesOver_assign (Option.isSome_of_eq_some hemployee)
  · intro hstorable
    obtain ⟨marshalled, hmarshal, hread⟩ := @IsStorableRow.exists_marshal _ _ anonymizedId hstorable
    rw [hitem] at hmarshal
    cases hmarshal
    exact hread

theorem build_eq_ok {rows : List Item} {items : List TransactItem}
    (h : buildAnonymizeTransactItems responseTableName rows anonymizedId = .ok items) :
    ∃ pairs, items = pairs.flatten ∧ List.Forall₂ (PutsBack canHold responseTableName anonymizedId) rows pairs := by
  obtain ⟨pairs, hpairs, h⟩ := bind_eq_ok.1 h
  cases h
  exact ⟨pairs, rfl, (forall₂_of_mapM_eq_ok hpairs).imp fun _ _ => rewriteRow_eq_ok⟩

theorem exists_build {rows : List Item} (h : ∀ row ∈ rows, IsStorableRow canHold row) :
    ∃ items, buildAnonymizeTransactItems responseTableName rows anonymizedId = .ok items := by
  cases hpairs : rows.mapM (rewriteRow responseTableName anonymizedId) with
  | ok pairs =>
    refine ⟨pairs.flatten, ?_⟩
    rw [buildAnonymizeTransactItems, hpairs]
    rfl
  | error e =>
    obtain ⟨row, hrow, herror⟩ := exists_of_mapM_eq_error hpairs
    obtain ⟨cycleId, hcycle⟩ := Option.isSome_iff_exists.1 (h row hrow).cycleId
    obtain ⟨employeeId, hemployee⟩ := Option.isSome_iff_exists.1 (h row hrow).employeeId
    obtain ⟨marshalled, hmarshal, -⟩ := @IsStorableRow.exists_marshal _ _ anonymizedId (h row hrow)
    rw [rewriteRow, hcycle, hemployee] at herror
    simp only [demand_some, ok_bind, hmarshal] at herror
    cases herror

/-- A row with its key, whose integers can all be written. -/
structure IsPrintableRow (row : Item) : Prop where
  cycleId : (row.lookup "cycleId").isSome = true
  employeeId : (row.lookup "employeeId").isSome = true
  others : ∀ entry ∈ row.entries, entry.2.IsPrintable

/-- An attribute besides `employeeId` that contains a value that is not supported. -/
def HasUnsupported (row : Item) : Prop :=
  ∃ entry ∈ row.entries, entry.1 ≠ "employeeId" ∧ ∃ w : PyValue, w.Within entry.2 ∧ w.IsUnsupported

theorem rewriteRow_ne_ok {pair : List TransactItem} (h : HasUnsupported row) :
    rewriteRow responseTableName anonymizedId row ≠ .ok pair := by
  obtain ⟨entry, hentry, hkey, w, hwithin, hw⟩ := h
  intro hok
  obtain ⟨cycleId, -, hok⟩ := bind_eq_ok.1 hok
  obtain ⟨employeeId, -, hok⟩ := bind_eq_ok.1 hok
  obtain ⟨item, hitem, -⟩ := bind_eq_ok.1 hok
  obtain ⟨marshalled, hmarshalled⟩ := exists_eq_ok_of_mapM hitem (Item.mem_assignEntries_of_mem hentry hkey)
  exact marshal_ne_ok_of_within hwithin hw (marshalEntry_eq_ok.1 hmarshalled).1

theorem rewriteRow_eq_error (hrow : IsPrintableRow row) {e : PyError}
    (h : rewriteRow responseTableName anonymizedId row = .error e) : ∃ message, e = .typeError message := by
  obtain ⟨cycleId, hcycle⟩ := Option.isSome_iff_exists.1 hrow.cycleId
  obtain ⟨employeeId, hemployee⟩ := Option.isSome_iff_exists.1 hrow.employeeId
  rw [rewriteRow, hcycle, hemployee] at h
  simp only [demand_some, ok_bind] at h
  obtain hitem | ⟨item, -, h⟩ := bind_eq_error.1 h
  · obtain ⟨entry, hentry, herror⟩ := exists_of_mapM_eq_error hitem
    have hvalue := marshalEntry_eq_error herror
    obtain rfl | ⟨hmem, -⟩ := Item.mem_assignEntries row.nodup hentry
    · cases hvalue
    · refine (marshal_eq_error hvalue).resolve_right ?_
      rintro ⟨n, hn, hlong⟩
      exact absurd hlong (not_le.2 (hrow.others entry hmem n hn))
  · cases h

theorem exists_typeError_of_hasUnsupported {rows : List Item} (hrows : ∀ row ∈ rows, IsPrintableRow row) (hrow : row ∈ rows)
    (hunsupported : HasUnsupported row) :
    ∃ message, buildAnonymizeTransactItems responseTableName rows anonymizedId = .error (.typeError message) := by
  cases hpairs : rows.mapM (rewriteRow responseTableName anonymizedId) with
  | ok pairs =>
    obtain ⟨pair, hpair⟩ := exists_eq_ok_of_mapM hpairs hrow
    exact absurd hpair (rewriteRow_ne_ok hunsupported)
  | error e =>
    obtain ⟨row', hrow', herror⟩ := exists_of_mapM_eq_error hpairs
    obtain ⟨message, rfl⟩ := rewriteRow_eq_error (hrows row' hrow') herror
    refine ⟨message, ?_⟩
    rw [buildAnonymizeTransactItems, hpairs]
    rfl

/-! ### Rows that a query has read -/

/-- A row that was read is put back as it is, with only `employeeId` changed. -/
theorem exists_rewriteRow_of_read {read : List (String × AttributeValue)} {cycleId employeeId : PyValue}
    (hread : deserializeItem canHold read = some row.entries) (hcycle : row.lookup "cycleId" = some cycleId)
    (hemployee : row.lookup "employeeId" = some employeeId) :
    ∃ item, rewriteRow responseTableName anonymizedId row =
        .ok [.delete responseTableName cycleId employeeId, .put responseTableName item] ∧
      deserializeItem canHold item = some (row.assign "employeeId" (.str anonymizedId)).entries := by
  have hentries : ∀ entry ∈ (row.assign "employeeId" (.str anonymizedId)).entries,
      entry.2.IsStorable canHold ∧ entryWithDecimals entry = entry := by
    intro entry hentry
    obtain rfl | ⟨hmem, -⟩ := Item.mem_assignEntries row.nodup hentry
    · exact ⟨.str anonymizedId, rfl⟩
    · obtain ⟨stored, -, hattribute⟩ := exists_of_mem_mapM_eq_some hread hmem
      obtain ⟨v, hv, rfl⟩ := Option.map_eq_some_iff.1 hattribute
      obtain ⟨hstorable, hsame⟩ := of_deserialize hv
      exact ⟨hstorable, by rw [entryWithDecimals, hsame]⟩
  obtain ⟨item, hitem, hstored⟩ := exists_marshalResponseItem fun entry hentry => (hentries entry hentry).1
  obtain ⟨stored, hstored⟩ := Option.isSome_iff_exists.1 hstored
  refine ⟨item, ?_, ?_⟩
  · rw [rewriteRow, hcycle, hemployee]
    simp only [demand_some, ok_bind, hitem]
    rfl
  · rw [hstored, eq_of_deserializeItem hitem hstored,
      List.map_congr_left fun entry hentry => (hentries entry hentry).2, List.map_id']

/-- The key of a Response row stands in its item before the other attributes. -/
theorem exists_item_eq (response : Response) : ∃ others, ∀ key : String × String,
    response.item key = .dict (("cycleId", .str key.1) :: ("employeeId", .str key.2) :: others) :=
  ⟨_, fun _ => rfl⟩

/-- A row that reads as a Response row is deleted under its key and put back as that row under the new id. -/
theorem toValue_assign {cycleId employeeId : String} {response : Response}
    (h : row.toValue = some (response.item (cycleId, employeeId))) :
    row.lookup "cycleId" = some (.str cycleId) ∧ row.lookup "employeeId" = some (.str employeeId) ∧
      (row.assign "employeeId" (.str anonymizedId)).toValue = some (response.item (cycleId, anonymizedId)) := by
  obtain ⟨others, hitem⟩ := exists_item_eq response
  obtain ⟨fields, hfields, hdict⟩ := Option.map_eq_some_iff.1 h
  rw [hitem, Value.dict.injEq] at hdict
  subst hdict
  have hentries : ∃ rest, row.entries = ("cycleId", .str cycleId) :: ("employeeId", .str employeeId) :: rest ∧
      rest.mapM Item.fieldToValue = some others := by
    generalize row.entries = entries at hfields
    cases entries with
    | nil => cases hfields
    | cons first entries =>
      rw [List.mapM_cons] at hfields
      obtain ⟨field, hfirst, hfields⟩ := Option.bind_eq_some_iff.1 hfields
      obtain ⟨fields, hrest, hfields⟩ := Option.bind_eq_some_iff.1 hfields
      cases hfields
      cases entries with
      | nil => cases hrest
      | cons second rest =>
        rw [List.mapM_cons] at hrest
        obtain ⟨field, hsecond, hrest⟩ := Option.bind_eq_some_iff.1 hrest
        obtain ⟨fields, hothers, hrest⟩ := Option.bind_eq_some_iff.1 hrest
        cases hrest
        exact ⟨rest, by rw [Item.fieldToValue_eq_str hfirst, Item.fieldToValue_eq_str hsecond], hothers⟩
  obtain ⟨rest, hrow, hothers⟩ := hentries
  have hassigned : (row.assign "employeeId" (.str anonymizedId)).entries =
      ("cycleId", .str cycleId) :: ("employeeId", .str anonymizedId) :: rest := by
    rw [Item.entries_assign, hrow]
    rfl
  refine ⟨by rw [Item.lookup, hrow]; rfl, by rw [Item.lookup, hrow]; rfl, ?_⟩
  rw [Item.toValue, hassigned, hitem]
  simp only [List.mapM_cons, hothers]
  rfl

/-- What an element of the transaction does to the rows that its key and its item stand for. -/
inductive TransactItem.Applies (canHold : Finite → Bool) :
    TransactItem → Store (String × String) Response → Store (String × String) Response → Prop where
  | delete {tableName cycleId employeeId : String} {responses : Store (String × String) Response} :
      Applies canHold (.delete tableName (.str cycleId) (.str employeeId)) responses
        (responses.set (cycleId, employeeId) none)
  | put {tableName : String} {item : List (String × AttributeValue)} {stored : Item} {key : String × String}
      {response : Response} {responses : Store (String × String) Response}
      (hstored : deserializeItem canHold item = some stored.entries) (hvalue : stored.toValue = some (response.item key)) :
      Applies canHold (.put tableName item) responses (responses.set key (some response))

/-- One element after the other. -/
inductive Transacts (canHold : Finite → Bool) :
    List TransactItem → Store (String × String) Response → Store (String × String) Response → Prop where
  | nil {responses : Store (String × String) Response} : Transacts canHold [] responses responses
  | cons {item : TransactItem} {items : List TransactItem} {responses next last : Store (String × String) Response}
      (hitem : item.Applies canHold responses next) (hitems : Transacts canHold items next last) :
      Transacts canHold (item :: items) responses last

theorem Transacts.append {items items' : List TransactItem} {responses next last : Store (String × String) Response}
    (h : Transacts canHold items responses next) (h' : Transacts canHold items' next last) :
    Transacts canHold (items ++ items') responses last := by
  induction h with
  | nil => exact h'
  | cons hitem _ ih => exact .cons hitem (ih h')

/-- A row as a query has read it, that stands for a Response row. -/
structure ReadAs (canHold : Finite → Bool) (row : Item) (entry : (String × String) × Response) : Prop where
  exists_read : ∃ read, deserializeItem canHold read = some row.entries
  toValue_eq : row.toValue = some (entry.2.item entry.1)

theorem ReadAs.exists_rewriteRow {entry : (String × String) × Response} (h : ReadAs canHold row entry)
    (responses : Store (String × String) Response) :
    ∃ pair, rewriteRow responseTableName anonymizedId row = .ok pair ∧
      Transacts canHold pair responses (rewrite anonymizedId responses entry) := by
  obtain ⟨⟨cycleId, employeeId⟩, response⟩ := entry
  obtain ⟨read, hread⟩ := h.exists_read
  obtain ⟨hcycle, hemployee, hassigned⟩ := toValue_assign h.toValue_eq
  obtain ⟨item, hpair, hstored⟩ := exists_rewriteRow_of_read hread hcycle hemployee
  exact ⟨_, hpair, .cons .delete (.cons (.put hstored hassigned) .nil)⟩

/-- The transaction over the rows of a query is the typed rewriting of them, and building it raises nothing. -/
theorem transacts_build {rows : List Item} {entries : List ((String × String) × Response)}
    (h : List.Forall₂ (ReadAs canHold) rows entries) (responses : Store (String × String) Response) :
    ∃ items, buildAnonymizeTransactItems responseTableName rows anonymizedId = .ok items ∧
      Transacts canHold items responses (entries.foldl (rewrite anonymizedId) responses) := by
  induction h generalizing responses with
  | nil => exact ⟨[], rfl, .nil⟩
  | @cons row entry rows entries hrow _ ih =>
    obtain ⟨pair, hpair, hfirst⟩ := hrow.exists_rewriteRow responses
    obtain ⟨items, hitems, hrest⟩ := ih (rewrite anonymizedId responses entry)
    obtain ⟨pairs, hpairs, hflatten⟩ := bind_eq_ok.1 hitems
    cases hflatten
    refine ⟨pair ++ pairs.flatten, ?_, hfirst.append hrest⟩
    rw [buildAnonymizeTransactItems, List.mapM_cons, hpair, hpairs]
    rfl

/-! ### Nothing is lost -/

/-- What DynamoDB documents of its numbers: at most 38 digits, and from 1E-130 to 9.9…9E+125 or zero. -/
def dynamoDbHolds (x : Finite) : Bool :=
  let digits := Nat.toDigits 10 x.coefficient
  let adjusted := x.exponent + digits.length - 1
  x.coefficient == 0 ||
    decide ((digits.reverse.dropWhile (· == '0')).length ≤ 38 ∧ -130 ≤ adjusted ∧ adjusted ≤ 125)

/-- An integer that DynamoDB holds is never too long to be written. -/
theorem isHeld_int_dynamoDbHolds {n : Int} : PyValue.IsHeld dynamoDbHolds (.int n) ↔ dynamoDbHolds (.ofInt n) = true := by
  refine ⟨And.right, fun h => ⟨?_, h⟩⟩
  rw [dynamoDbHolds, Bool.or_eq_true, beq_iff_eq, decide_eq_true_eq] at h
  obtain hzero | ⟨-, -, hadjusted⟩ := h
  · have hn : n.natAbs = 0 := hzero
    rw [hn]
    exact Nat.pow_pos (by omega)
  · have hlength : (Nat.toDigits 10 n.natAbs).length ≤ 126 := by
      have hexponent : (Finite.ofInt n).exponent = 0 := rfl
      rw [hexponent] at hadjusted
      change 0 + ((Nat.toDigits 10 n.natAbs).length : Int) - 1 ≤ 125 at hadjusted
      omega
    have hsmall := (Nat.length_toDigits_le_iff (by omega) (by omega)).1 hlength
    have hlimit : 126 ≤ maxStrDigits := by decide
    exact hsmall.trans_le (Nat.pow_le_pow_right (by omega) hlimit)

/-- A value comes back with decimals for its integers if it is built from null, booleans, strings, numbers and bytes, and
raises `TypeError` if it contains anything else. -/
def LosesNothing (canHold : Finite → Bool) (v : PyValue) : Prop :=
  (v.BuiltFrom PyValue.IsNumber → ∃ a, marshalAttributeValue v = .ok a ∧ deserialize canHold a = some v.withDecimals) ∧
    (¬ v.BuiltFrom PyValue.IsNumber → ∃ message, marshalAttributeValue v = .error (.typeError message))

/-- A key that is no string raises nothing, and of the numbers some have no text that is one, some no text at all, and some
too many digits for the table. -/
theorem not_losesNothing :
    ¬ LosesNothing (fun _ => true) (.dict [(.int 1, .str "a")]) ∧
      ¬ LosesNothing (fun _ => true) (.decimal (.nan false false 0)) ∧
      ¬ LosesNothing (fun _ => true) (.int (10 ^ maxStrDigits : Nat)) ∧
      ¬ LosesNothing dynamoDbHolds (.int (10 ^ 38 + 1)) := by
  refine ⟨?_, ?_, ?_, ?_⟩
  · intro h
    have hkey : ¬ PyValue.BuiltFrom PyValue.IsNumber (.dict [(.int 1, .str "a")]) := by
      intro hbuilt
      cases hbuilt with
      | number hnumber => cases hnumber
      | dict hkeys _ => cases hkeys _ List.mem_cons_self
    obtain ⟨message, hmessage⟩ := h.2 hkey
    cases hmessage
  · intro h
    obtain ⟨a, ha, hread⟩ := h.1 (.number trivial)
    cases ha
    cases hread
  · intro h
    obtain ⟨a, ha, -⟩ := h.1 (.number trivial)
    rw [marshalAttributeValue] at ha
    obtain ⟨text, htext, -⟩ := bind_eq_ok.1 ha
    obtain ⟨hlimit, -⟩ := strOfInt_eq_ok.1 htext
    exact hlimit.ne (Int.natAbs_natCast _)
  · intro h
    obtain ⟨a, ha, hread⟩ := h.1 (.number trivial)
    have hholds := (eq_of_deserialize_marshal ha hread).2
    cases hholds with
    | number hnumber =>
      have hlong : dynamoDbHolds (.ofInt (10 ^ 38 + 1)) = false := by decide +kernel
      exact Bool.false_ne_true (hlong.symm.trans hnumber.2)

/-- A value comes back exactly when the table can hold it, and as nothing else ever; one that contains an unsupported value
raises. What the transaction puts back for a row is then the row under the new id. -/
theorem anonymizeItems_lose_nothing (canHold : Finite → Bool) :
    (∀ v : PyValue, (∃ a, marshalAttributeValue v = .ok a ∧ deserialize canHold a = some v.withDecimals) ↔
      v.IsStorable canHold) ∧
    (∀ (v w : PyValue) (a : AttributeValue), marshalAttributeValue v = .ok a → deserialize canHold a = some w →
      w = v.withDecimals) ∧
    (∀ n : Int, (Finite.ofInt n).value = n) ∧
    (∀ v w : PyValue, w.Within v → w.IsUnsupported → (∀ a, marshalAttributeValue v ≠ .ok a) ∧
      (v.IsPrintable → ∃ message, marshalAttributeValue v = .error (.typeError message))) ∧
    ∀ (responseTableName anonymizedId : String) (rows : List Item),
      (∀ items, buildAnonymizeTransactItems responseTableName rows anonymizedId = .ok items →
        ∃ pairs, items = pairs.flatten ∧ List.Forall₂ (PutsBack canHold responseTableName anonymizedId) rows pairs) ∧
      ((∀ row ∈ rows, IsStorableRow canHold row) →
        ∃ items, buildAnonymizeTransactItems responseTableName rows anonymizedId = .ok items) ∧
      ((∃ row ∈ rows, HasUnsupported row) →
        (∀ items, buildAnonymizeTransactItems responseTableName rows anonymizedId ≠ .ok items) ∧
        ((∀ row ∈ rows, IsPrintableRow row) → ∃ message,
          buildAnonymizeTransactItems responseTableName rows anonymizedId = .error (.typeError message))) := by
  refine ⟨?_, fun _ _ _ ha hread => (eq_of_deserialize_marshal ha hread).1, Finite.value_ofInt, ?_, ?_⟩
  · intro v
    constructor
    · rintro ⟨a, ha, hread⟩
      exact (eq_of_deserialize_marshal ha hread).2
    · exact PyValue.IsStorable.exists_marshal
  · intro v w hwithin hw
    exact ⟨fun _ => marshal_ne_ok_of_within hwithin hw, exists_typeError_of_within hwithin hw⟩
  · intro responseTableName anonymizedId rows
    refine ⟨fun _ => build_eq_ok, exists_build, ?_⟩
    rintro ⟨row, hrow, hunsupported⟩
    refine ⟨?_, fun hrows => exists_typeError_of_hasUnsupported hrows hrow hunsupported⟩
    intro items hitems
    obtain ⟨pairs, hpairs, -⟩ := bind_eq_ok.1 hitems
    obtain ⟨pair, hpair⟩ := exists_eq_ok_of_mapM hpairs hrow
    exact rewriteRow_ne_ok hunsupported hpair

/-- A row as a call leaves it. -/
def answered : Item where
  entries := [("cycleId", .str "c1"), ("employeeId", .str "e1"), ("voiceStatus", .str "SAFE"),
    ("callAttempts", .decimal (.finite ⟨false, 2, 0⟩)), ("callResultCodes", .list [.str "NO_ANSWER", .none])]
  nodup := by decide

/-- The same with a float in a map of a list. -/
def drifted : Item where
  entries := [("cycleId", .str "c1"), ("employeeId", .str "e1"),
    ("callResultCodes", .list [.dict [(.str "score", .float .nan)]])]
  nodup := by decide

theorem isStorableRow_answered : IsStorableRow dynamoDbHolds answered where
  cycleId := rfl
  employeeId := rfl
  others := by
    have hcodes : PyValue.IsStorable dynamoDbHolds (.list [.str "NO_ANSWER", .none]) :=
      .list (List.forall_mem_cons.2 ⟨.str _, List.forall_mem_cons.2 ⟨.none, nofun⟩⟩)
    have hattempts : dynamoDbHolds ⟨false, 2, 0⟩ = true := by decide +kernel
    intro entry hentry _
    simp only [answered, List.mem_cons, List.not_mem_nil, or_false] at hentry
    obtain rfl | rfl | rfl | rfl | rfl := hentry
    · exact .str _
    · exact .str _
    · exact .str _
    · exact .number hattempts
    · exact hcodes

theorem isPrintableRow_drifted : IsPrintableRow drifted where
  cycleId := rfl
  employeeId := rfl
  others := by
    intro entry hentry n hn
    simp only [drifted, List.mem_cons, List.not_mem_nil, or_false] at hentry
    obtain rfl | rfl | rfl := hentry
    · cases hn
    · cases hn
    · cases hn with
      | list hmap hn =>
        cases List.mem_singleton.1 hmap
        cases hn with
        | dict hscore hn =>
          cases List.mem_singleton.1 hscore
          cases hn

theorem answered_carried_over :
    (∃ items, buildAnonymizeTransactItems "responses" [answered] "anon" = .ok items) ∧
      (∃ message, marshalAttributeValue (.list [.bool true, .float .nan]) = .error (.typeError message)) ∧
      (∃ message, buildAnonymizeTransactItems "responses" [drifted] "anon" = .error (.typeError message)) ∧
      ∃ a, marshalAttributeValue (.list [.bool true, .int (-7)]) = .ok a ∧
        deserialize dynamoDbHolds a = some (.list [.bool true, .decimal (.finite ⟨true, 7, 0⟩)]) := by
  obtain ⟨hback, -, -, hrefused, hrows⟩ := anonymizeItems_lose_nothing dynamoDbHolds
  obtain ⟨-, hstorable, -⟩ := hrows "responses" "anon" [answered]
  obtain ⟨-, -, hunsupported⟩ := hrows "responses" "anon" [drifted]
  refine ⟨hstorable ?_, ?_, (hunsupported ?_).2 ?_, ?_⟩
  · intro row hrow
    rw [List.mem_singleton] at hrow
    exact hrow ▸ isStorableRow_answered
  · refine (hrefused _ (.float .nan) (.list (List.mem_cons_of_mem _ List.mem_cons_self) .self) trivial).2 ?_
    intro n hn
    cases hn with
    | list hv hn =>
      simp only [List.mem_cons, List.not_mem_nil, or_false] at hv
      obtain rfl | rfl := hv <;> cases hn
  · refine ⟨drifted, List.mem_cons_self, _, List.mem_cons_of_mem _ (List.mem_cons_of_mem _ List.mem_cons_self), by decide,
      .float .nan, ?_, trivial⟩
    exact .list List.mem_cons_self (.dict List.mem_cons_self .self)
  · intro row hrow
    rw [List.mem_singleton] at hrow
    exact hrow ▸ isPrintableRow_drifted
  · have hseven : dynamoDbHolds (.ofInt (-7)) = true := by decide +kernel
    exact (hback _).2 (.list (List.forall_mem_cons.2 ⟨.bool true, List.forall_mem_cons.2
      ⟨.number (isHeld_int_dynamoDbHolds.2 hseven), nofun⟩⟩))

end EmployeeApi

end SafetyConfirmation
