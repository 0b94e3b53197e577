import Mathlib.Order.Lattice
import Mathlib.Data.List.AList

/-!
# Keyed stores with conditional writes

A store maps each key to at most one row. A write names one key, tests a condition on the row it finds there
and, in the same atomic step, replaces that row; a write whose condition fails changes nothing. A missing
row is `none`, so that put, update (which creates the row it does not find) and delete are one shape.
-/

universe u v

namespace KeyedStore

/-- A write of one row: the condition it tests and the row it leaves. -/
structure Write (ρ : Type v) where
  condition : Option ρ → Bool := fun _ => true
  update : Option ρ → Option ρ

namespace Write

variable {ρ : Type v}

def run (w : Write ρ) (row : Option ρ) : Option ρ :=
  if w.condition row then w.update row else row

theorem run_of_condition {w : Write ρ} {row : Option ρ} (h : w.condition row = true) :
    w.run row = w.update row := by
  rw [run, if_pos h]

theorem run_of_not_condition {w : Write ρ} {row : Option ρ} (h : w.condition row = false) : w.run row = row := by
  rw [run, h]
  rfl

/-- A write keeps a property of rows when its update does wherever its condition holds. -/
theorem run_induction {w : Write ρ} {motive : Option ρ → Prop} {row : Option ρ} (hrow : motive row)
    (hupdate : w.condition row = true → motive (w.update row)) : motive (w.run row) := by
  rw [run]
  split
  · exact hupdate ‹_›
  · exact hrow

def put (item : ρ) (condition : Option ρ → Bool := fun _ => true) : Write ρ :=
  { condition, update := fun _ => some item }

/-- Change attributes of the row, starting from `fresh` where there is none. -/
def modify (fresh : ρ) (change : ρ → ρ) (condition : Option ρ → Bool := fun _ => true) : Write ρ :=
  { condition, update := fun row => some (change (row.getD fresh)) }

def delete (condition : Option ρ → Bool := fun _ => true) : Write ρ :=
  { condition, update := fun _ => none }

def skip : Write ρ := { update := id }

@[simp] theorem run_skip (row : Option ρ) : (skip : Write ρ).run row = row := rfl

@[simp] theorem put_update (item : ρ) (condition : Option ρ → Bool) (row : Option ρ) :
    (put item condition).update row = some item := rfl

@[simp] theorem put_condition (item : ρ) (condition : Option ρ → Bool) :
    (put item condition).condition = condition := rfl

@[simp] theorem modify_update (fresh : ρ) (change : ρ → ρ) (condition : Option ρ → Bool) (row : Option ρ) :
    (modify fresh change condition).update row = some (change (row.getD fresh)) := rfl

@[simp] theorem modify_condition (fresh : ρ) (change : ρ → ρ) (condition : Option ρ → Bool) :
    (modify fresh change condition).condition = condition := rfl

@[simp] theorem delete_update (condition : Option ρ → Bool) (row : Option ρ) :
    (delete condition).update row = none := rfl

@[simp] theorem delete_condition (condition : Option ρ → Bool) :
    (delete condition : Write ρ).condition = condition := rfl

end Write

/-- A store holds at most one row for each key. -/
abbrev Store (κ : Type u) (ρ : Type v) := AList fun _ : κ => ρ

namespace Store

variable {κ : Type u} {ρ : Type v}

/-- The rows with their keys, in no particular order. -/
def rows (store : Store κ ρ) : List (κ × ρ) := store.entries.map fun entry => (entry.1, entry.2)

theorem keys_eq_map_rows (store : Store κ ρ) : store.keys = store.rows.map Prod.fst := by
  simp [rows, AList.keys, List.keys]

theorem nodup_map_fst_rows (store : Store κ ρ) : (store.rows.map Prod.fst).Nodup := by
  rw [← keys_eq_map_rows]
  exact store.keys_nodup

theorem nodup_rows (store : Store κ ρ) : store.rows.Nodup := store.nodup_map_fst_rows.of_map _

@[simp] theorem length_rows (store : Store κ ρ) : store.rows.length = store.keys.length := by
  simp [rows, AList.keys, List.keys]

/-- The same keys with other rows. -/
def mapRows {ρ' : Type*} (f : ρ → ρ') (store : Store κ ρ) : Store κ ρ' where
  entries := store.entries.map fun entry => ⟨entry.1, f entry.2⟩
  nodupKeys := by
    show ((store.entries.map fun entry => (⟨entry.1, f entry.2⟩ : Sigma fun _ : κ => ρ')).map Sigma.fst).Nodup
    rw [List.map_map]
    exact store.nodupKeys

theorem rows_mapRows {ρ' : Type*} (f : ρ → ρ') (store : Store κ ρ) :
    (store.mapRows f).rows = store.rows.map fun entry => (entry.1, f entry.2) := by
  simp [rows, mapRows]

/-- A page of a read in the order of `position`: the rows after the cursor, as far as the page reaches (`none` for the
last one). -/
def page {ι : Type*} [LinearOrder ι] (position : κ → ι) (store : Store κ ρ) (cursor upTo : Option ι) : List (κ × ρ) :=
  store.rows.filter fun entry =>
    cursor.all (fun c => decide (c < position entry.1)) && upTo.all fun u => decide (position entry.1 ≤ u)

theorem page_none_none {ι : Type*} [LinearOrder ι] (position : κ → ι) (store : Store κ ρ) :
    store.page position none none = store.rows := by
  simp [page]

variable [DecidableEq κ]

theorem mem_rows {store : Store κ ρ} {key : κ} {row : ρ} :
    (key, row) ∈ store.rows ↔ store.lookup key = some row := by
  rw [← Option.mem_def, AList.mem_lookup_iff]
  constructor
  · intro hmem
    obtain ⟨⟨k, r⟩, hentry, heq⟩ := List.mem_map.1 hmem
    cases heq
    exact hentry
  · exact fun hentry => List.mem_map.2 ⟨⟨key, row⟩, hentry, rfl⟩

theorem lookup_mapRows {ρ' : Type*} {f : ρ → ρ'} {store : Store κ ρ} {key : κ} {row : ρ'} :
    (store.mapRows f).lookup key = some row ↔ ∃ r, store.lookup key = some r ∧ f r = row := by
  rw [← mem_rows, rows_mapRows, List.mem_map]
  constructor
  · intro hmem
    obtain ⟨⟨k, r⟩, hentry, heq⟩ := hmem
    cases heq
    exact ⟨r, mem_rows.1 hentry, rfl⟩
  · intro hrow
    obtain ⟨r, hlookup, rfl⟩ := hrow
    exact ⟨(key, r), mem_rows.2 hlookup, rfl⟩

theorem mem_keys_iff {store : Store κ ρ} {key : κ} : key ∈ store.keys ↔ ∃ row, store.lookup key = some row := by
  rw [← AList.mem_keys, ← AList.lookup_isSome, Option.isSome_iff_exists]

def set (store : Store κ ρ) (key : κ) : Option ρ → Store κ ρ
  | some row => store.insert key row
  | none => store.erase key

@[simp] theorem lookup_set_self (store : Store κ ρ) (key : κ) (row : Option ρ) :
    (store.set key row).lookup key = row := by
  cases row with
  | none => exact AList.lookup_erase key store
  | some row => exact AList.lookup_insert store

theorem lookup_set_ne (store : Store κ ρ) {key other : κ} (row : Option ρ) (h : other ≠ key) :
    (store.set key row).lookup other = store.lookup other := by
  cases row with
  | none => exact AList.lookup_erase_ne h
  | some row => exact AList.lookup_insert_ne h

theorem lookup_set (store : Store κ ρ) (key other : κ) (row : Option ρ) :
    (store.set key row).lookup other = if other = key then row else store.lookup other := by
  split
  · subst other
    exact lookup_set_self store key row
  · exact lookup_set_ne store row ‹_›

theorem forall_lookup_set {store : Store κ ρ} {key : κ} {row : ρ} {P : κ → ρ → Prop}
    (hall : ∀ other row', other ≠ key → store.lookup other = some row' → P other row') (hone : P key row) :
    ∀ other row', (store.set key (some row)).lookup other = some row' → P other row' := by
  intro other row' h
  by_cases hother : other = key
  · subst other
    rw [lookup_set_self] at h
    cases h
    exact hone
  · rw [lookup_set_ne _ _ hother] at h
    exact hall other row' hother h

/-- What some row has, some row still has after one was set, when the set one does not lose it. -/
theorem exists_lookup_set {store : Store κ ρ} {key : κ} {row : ρ} {P : ρ → Prop}
    (hkeep : ∀ row', store.lookup key = some row' → P row' → P row)
    (h : ∃ other row', store.lookup other = some row' ∧ P row') :
    ∃ other row', (store.set key (some row)).lookup other = some row' ∧ P row' := by
  obtain ⟨other, row', hrow, hP⟩ := h
  by_cases hother : other = key
  · subst other
    exact ⟨key, row, lookup_set_self .., hkeep row' hrow hP⟩
  · exact ⟨other, row', by rw [lookup_set_ne _ _ hother]; exact hrow, hP⟩

theorem exists_lookup_set_of_lookup {store : Store κ ρ} {key : κ} {old row : ρ} {P : ρ → Prop}
    (hold : store.lookup key = some old) (hkeep : P old → P row)
    (h : ∃ other row', store.lookup other = some row' ∧ P row') :
    ∃ other row', (store.set key (some row)).lookup other = some row' ∧ P row' := by
  apply exists_lookup_set _ h
  intro row' hrow' hP
  rw [hold] at hrow'
  cases hrow'
  exact hkeep hP

def write (store : Store κ ρ) (key : κ) (w : Write ρ) : Store κ ρ := store.set key (w.run (store.lookup key))

@[simp] theorem lookup_write_self (store : Store κ ρ) (key : κ) (w : Write ρ) :
    (store.write key w).lookup key = w.run (store.lookup key) := lookup_set_self ..

theorem lookup_write_ne (store : Store κ ρ) {key other : κ} (w : Write ρ) (h : other ≠ key) :
    (store.write key w).lookup other = store.lookup other := lookup_set_ne _ _ h

theorem forall_lookup_write {store : Store κ ρ} {key : κ} {w : Write ρ} {P : κ → ρ → Prop}
    (hall : ∀ other row, store.lookup other = some row → P other row)
    (hone : ∀ row, w.run (store.lookup key) = some row → P key row) :
    ∀ other row, (store.write key w).lookup other = some row → P other row := by
  intro other row h
  by_cases hother : other = key
  · subst other
    rw [lookup_write_self] at h
    exact hone row h
  · rw [lookup_write_ne store w hother] at h
    exact hall other row h

/-- The same write at each of the keys, one after another. -/
def writeAll (store : Store κ ρ) (keys : List κ) (w : Write ρ) : Store κ ρ :=
  keys.foldl (fun store key => store.write key w) store

theorem lookup_writeAll (store : Store κ ρ) {keys : List κ} (hkeys : keys.Nodup) (w : Write ρ) (key : κ) :
    (store.writeAll keys w).lookup key = if key ∈ keys then w.run (store.lookup key) else store.lookup key := by
  induction keys generalizing store with
  | nil => rfl
  | cons head keys ih =>
    obtain ⟨hhead, htail⟩ := List.nodup_cons.1 hkeys
    have hstep : (store.writeAll (head :: keys) w).lookup key = _ := ih (store.write head w) htail
    rw [hstep]
    by_cases hkey : key = head
    · subst key
      rw [if_neg hhead, lookup_write_self, if_pos List.mem_cons_self]
    · rw [lookup_write_ne store w hkey]
      simp [hkey]

theorem length_keys_eq {store store' : Store κ ρ}
    (h : ∀ key, (store.lookup key).isSome = (store'.lookup key).isSome) : store.keys.length = store'.keys.length := by
  apply List.Perm.length_eq
  rw [List.perm_ext_iff_of_nodup store.keys_nodup store'.keys_nodup]
  intro key
  rw [mem_keys_iff, mem_keys_iff, ← Option.isSome_iff_exists, ← Option.isSome_iff_exists, h]

theorem mem_page {ι : Type*} [LinearOrder ι] {position : κ → ι} {store : Store κ ρ} {cursor upTo : Option ι} {key : κ}
    {row : ρ} (hrow : store.lookup key = some row) (hcursor : ∀ c ∈ cursor, c < position key)
    (hupTo : ∀ u ∈ upTo, position key ≤ u) : (key, row) ∈ store.page position cursor upTo := by
  rw [page, List.mem_filter, Bool.and_eq_true]
  refine ⟨mem_rows.2 hrow, ?_, ?_⟩
  · rw [Option.all_eq_true]
    exact fun c hc => decide_eq_true (hcursor c hc)
  · rw [Option.all_eq_true]
    exact fun u hu => decide_eq_true (hupTo u hu)

/-! ### Stores with rows that go together -/

section Alike

variable {R : ρ → ρ → Prop} {store store' : Store κ ρ}

/-- Entries with one key, and rows that go together. -/
def EntryAlike (R : ρ → ρ → Prop) (entry entry' : Sigma fun _ : κ => ρ) : Prop := entry.1 = entry'.1 ∧ R entry.2 entry'.2

/-- The same keys in the same order, with rows that go together. -/
def Alike (R : ρ → ρ → Prop) (store store' : Store κ ρ) : Prop :=
  List.Forall₂ (EntryAlike R) store.entries store'.entries

omit [DecidableEq κ] in
theorem Alike.rows (h : Alike R store store') :
    List.Forall₂ (fun entry entry' => entry.1 = entry'.1 ∧ R entry.2 entry'.2) store.rows store'.rows := by
  rw [Store.rows, Store.rows, List.forall₂_map_left_iff, List.forall₂_map_right_iff]
  exact h

theorem rel_dlookup {entries entries' : List (Sigma fun _ : κ => ρ)} (h : List.Forall₂ (EntryAlike R) entries entries')
    (key : κ) : Option.Rel R (entries.dlookup key) (entries'.dlookup key) := by
  induction h with
  | nil => exact .none
  | @cons entry entry' rest rest' hhead _ ih =>
    obtain ⟨other, row⟩ := entry
    obtain ⟨other', row'⟩ := entry'
    obtain ⟨hsame, hrow⟩ := hhead
    dsimp only at hsame
    subst hsame
    by_cases hkey : key = other
    · subst key
      rw [List.dlookup_cons_eq, List.dlookup_cons_eq]
      exact .some hrow
    · rw [List.dlookup_cons_ne rest ⟨other, row⟩ hkey, List.dlookup_cons_ne rest' ⟨other, row'⟩ hkey]
      exact ih

theorem forall₂_kerase {entries entries' : List (Sigma fun _ : κ => ρ)}
    (h : List.Forall₂ (EntryAlike R) entries entries') (key : κ) :
    List.Forall₂ (EntryAlike R) (entries.kerase key) (entries'.kerase key) := by
  induction h with
  | nil => exact .nil
  | @cons entry entry' rest rest' hhead hrest ih =>
    by_cases hkey : key = entry.1
    · rw [List.kerase_cons_eq hkey, List.kerase_cons_eq (hkey.trans hhead.1)]
      exact hrest
    · rw [List.kerase_cons_ne hkey, List.kerase_cons_ne fun heq => hkey (heq.trans hhead.1.symm)]
      exact .cons hhead ih

theorem Alike.lookup (h : Alike R store store') (key : κ) : Option.Rel R (store.lookup key) (store'.lookup key) :=
  rel_dlookup h key

theorem Alike.set (h : Alike R store store') (key : κ) {row row' : Option ρ} (hrow : Option.Rel R row row') :
    Alike R (store.set key row) (store'.set key row') := by
  cases hrow with
  | none => exact forall₂_kerase h key
  | some hrow => exact .cons ⟨rfl, hrow⟩ (forall₂_kerase h key)

end Alike

end Store

end KeyedStore
