import Mathlib.Data.List.Sort
import Mathlib.Data.String.Basic
import SafetyConfirmation.Lib.KeyedStore
import SafetyConfirmation.Keyword.Matcher

/-!
# The keyword dictionary and its history

KeywordDictionary holds the active keywords and, under the key `META`/`META`, the current version. Each write of
DictionaryApi wins the next version on that row, writes its keyword's row and copies the active keywords into
KeywordDictionaryHistory under the version it won. A snapshot of a version is read from the history.
-/

namespace SafetyConfirmation

namespace Dictionary

open KeyedStore

abbrev Key := String × String

def metaKey : Key := ("META", "META")

/-- A row of KeywordDictionary: `version` on a keyword, `currentVersion` on the META row. -/
structure Row where
  version : Option Int := none
  currentVersion : Option Int := none
  deriving DecidableEq

/-- A row of KeywordDictionaryHistory, keyed by `version` and `categoryKeyword`. -/
abbrev History := Store (Int × String) Key

structure Tables where
  dictionary : Store Key Row := ∅
  history : History := ∅

/-! ### Winning a version -/

/-- A value that passes `isinstance(v, int)`. DynamoDB stores the two kinds under different types. -/
inductive ExpectedVersion where
  | int (n : Int)
  | bool (b : Bool)
  deriving DecidableEq

namespace ExpectedVersion

def ofValue? : Value → Option ExpectedVersion
  | .int n => some (int n)
  | .bool b => some (bool b)
  | _ => none

def toInt : ExpectedVersion → Int
  | int n => n
  | bool b => if b then 1 else 0

/-- The comparison of a condition expression: a `BOOL` never equals an `N`. -/
def equalsNumber : ExpectedVersion → Int → Bool
  | int n, m => n == m
  | bool _, _ => false

theorem toInt_of_equalsNumber {expected : ExpectedVersion} {n : Int} (h : expected.equalsNumber n = true) :
    expected.toInt = n := by
  cases expected with
  | int m => exact eq_of_beq h
  | bool b => cases h

end ExpectedVersion

/-- `_increment_version`: the update of the META row. -/
def incrementVersion (expected : ExpectedVersion) : Write Row :=
  .modify {} (fun row => { row with currentVersion := some (expected.toInt + 1) })
    fun row =>
      (decide (expected.toInt = 0) && row.isNone) || (row.bind Row.currentVersion).any expected.equalsNumber

/-- `_get_current_version`, on the META row. -/
def versionOf (metaRow : Option Row) : Int := (metaRow.bind Row.currentVersion).getD 0

def currentVersion (dictionary : Store Key Row) : Int := versionOf (dictionary.lookup metaKey)

/-! ### Writing a keyword -/

inductive Op where
  | create
  | update
  | delete
  deriving DecidableEq, Repr

/-- A write that passed the checks of its request. -/
structure KeywordWrite where
  op : Op
  category : Category
  keyword : String
  keyword_ne : keyword ≠ ""
  deriving DecidableEq

namespace KeywordWrite

def key (w : KeywordWrite) : Key := (w.category.name, w.keyword)

/-- The write of the keyword's row: PutItem on `attribute_not_exists`, UpdateItem without a condition, DeleteItem on
`attribute_exists`. -/
def write (w : KeywordWrite) (newVersion : Int) : Write Row :=
  match w.op with
  | .create => .put { version := some newVersion } fun row => row.isNone
  | .update => .modify {} fun row => { row with version := some newVersion }
  | .delete => .delete fun row => row.isSome

end KeywordWrite

/-- `_scan_all_active`: the keys of every row but META. -/
def scanAllActive (dictionary : Store Key Row) : List Key := dictionary.keys.filter fun key => key.1 != "META"

/-! ### Snapshots -/

def categoryKeyword (key : Key) : String := key.1 ++ "#" ++ key.2

def putHistoryRow (history : History) (newVersion : Int) (key : Key) : History :=
  history.write (newVersion, categoryKeyword key) (.put key)

def writeHistorySnapshot (tables : Tables) (newVersion : Int) : Tables :=
  { tables with
    history := (scanAllActive tables.dictionary).foldl (fun history key => putHistoryRow history newVersion key)
      tables.history }

def keywordsIn (category : Category) (items : List Key) : List String :=
  ((items.filter fun item => item.1 == category.name && item.2 != "").map Prod.snd).insertionSort (· ≤ ·)

def toSnapshot (items : List Key) : KeywordLists where
  safe := keywordsIn .safe items
  injured := keywordsIn .injured items
  unavailable := keywordsIn .unavailable items

def getDictionarySnapshot (history : History) (version : Int) : KeywordLists :=
  toSnapshot ((history.rows.filter fun entry => entry.1.1 == version).map Prod.snd)

/-! ### What the lock lets through -/

/-- The update of the META row goes through on the current version, and on `0` or `false` while there is no row. -/
theorem incrementVersion_condition {expected : ExpectedVersion} {row : Option Row}
    (h : (incrementVersion expected).condition row = true) : expected.toInt = versionOf row := by
  rw [incrementVersion, Write.modify_condition, Bool.or_eq_true] at h
  rcases h with h | h
  · rw [Bool.and_eq_true] at h
    obtain ⟨hzero, hnone⟩ := h
    rw [Option.isNone_iff_eq_none.1 hnone]
    exact of_decide_eq_true hzero
  · obtain ⟨n, hn, hequals⟩ := (Option.any_eq_true _ _).1 h
    rw [versionOf, hn]
    exact ExpectedVersion.toInt_of_equalsNumber hequals

theorem versionOf_incrementVersion {expected : ExpectedVersion} {row : Option Row}
    (h : (incrementVersion expected).condition row = true) :
    versionOf ((incrementVersion expected).run row) = versionOf row + 1 := by
  rw [Write.run_of_condition h, ← incrementVersion_condition h]
  rfl

/-- The row write fails exactly on a POST of a keyword that is there and a DELETE of one that is not. -/
theorem write_condition_eq_false_iff (w : KeywordWrite) (newVersion : Int) (row : Option Row) :
    (w.write newVersion).condition row = false ↔
      (w.op = .create ∧ row.isSome = true) ∨ (w.op = .delete ∧ row = none) := by
  unfold KeywordWrite.write
  cases hop : w.op <;> cases row <;> simp

theorem category_name_ne_meta (category : Category) : category.name ≠ "META" := by
  cases category <;> decide

theorem KeywordWrite.key_ne_metaKey (w : KeywordWrite) : w.key ≠ metaKey := by
  intro h
  exact category_name_ne_meta w.category (congrArg Prod.fst h)

theorem mem_scanAllActive {dictionary : Store Key Row} {key : Key} :
    key ∈ scanAllActive dictionary ↔ (dictionary.lookup key).isSome = true ∧ key.1 ≠ "META" := by
  rw [scanAllActive, List.mem_filter, ← AList.mem_keys, AList.lookup_isSome, bne_iff_ne]

theorem nodup_scanAllActive (dictionary : Store Key Row) : (scanAllActive dictionary).Nodup :=
  dictionary.keys_nodup.filter _

/-! ### What a version's rows are read as -/

def IsKeywordKey (key : Key) : Prop := ∃ category : Category, key.1 = category.name

theorem KeywordWrite.isKeywordKey (w : KeywordWrite) : IsKeywordKey w.key := ⟨w.category, rfl⟩

theorem IsKeywordKey.ne_metaKey {key : Key} (h : IsKeywordKey key) : key.1 ≠ "META" := by
  obtain ⟨category, hcategory⟩ := h
  rw [hcategory]
  exact category_name_ne_meta category

theorem append_separator_inj {separator : Char} {left left' right right' : List Char} (h : separator ∉ left)
    (h' : separator ∉ left') (heq : left ++ separator :: right = left' ++ separator :: right') :
    left = left' ∧ right = right' := by
  induction left generalizing left' with
  | nil =>
    cases left' with
    | nil => exact ⟨rfl, List.tail_eq_of_cons_eq heq⟩
    | cons c rest => exact absurd (List.head_eq_of_cons_eq heq ▸ List.mem_cons_self) h'
  | cons c rest ih =>
    cases left' with
    | nil => exact absurd (List.head_eq_of_cons_eq heq ▸ List.mem_cons_self) h
    | cons c' rest' =>
      obtain ⟨hrest, hright⟩ := ih (List.not_mem_of_not_mem_cons h) (List.not_mem_of_not_mem_cons h')
        (List.tail_eq_of_cons_eq heq)
      have hhead : c = c' := List.head_eq_of_cons_eq heq
      rw [hhead, hrest]
      exact ⟨rfl, hright⟩

/-- No category has a `#` in its name, so the sort key determines category and keyword. -/
theorem categoryKeyword_inj {key key' : Key} (hkey : IsKeywordKey key) (hkey' : IsKeywordKey key')
    (h : categoryKeyword key = categoryKeyword key') : key = key' := by
  have hnotMem : ∀ {key : Key}, IsKeywordKey key → '#' ∉ key.1.toList := by
    intro key ⟨category, hcategory⟩
    rw [hcategory]
    cases category <;> decide
  have hlist := congrArg String.toList h
  simp only [categoryKeyword, String.toList_append] at hlist
  have hsplit : key.1.toList ++ '#' :: key.2.toList = key'.1.toList ++ '#' :: key'.2.toList := by
    simpa using hlist
  obtain ⟨hcategory, hkeyword⟩ := append_separator_inj (hnotMem hkey) (hnotMem hkey') hsplit
  exact Prod.ext (String.toList_inj.1 hcategory) (String.toList_inj.1 hkeyword)

theorem toSnapshot_eq_of_perm {items items' : List Key} (h : items.Perm items') : toSnapshot items = toSnapshot items' := by
  have hkeywords : ∀ category, keywordsIn category items = keywordsIn category items' := by
    intro category
    have hperm := (h.filter fun item => item.1 == category.name && item.2 != "").map Prod.snd
    exact List.Perm.eq_of_pairwise' (List.pairwise_insertionSort _ _) (List.pairwise_insertionSort _ _)
      (((List.perm_insertionSort _ _).trans hperm).trans (List.perm_insertionSort _ _).symm)
  simp only [toSnapshot, hkeywords]

def HistoryAt (history : History) (version : Int) (keys : Key → Prop) : Prop :=
  ∀ sortKey key, history.lookup (version, sortKey) = some key ↔ keys key ∧ sortKey = categoryKeyword key

/-- What a version is read as depends only on the keys its rows are of. -/
theorem getDictionarySnapshot_eq {history : History} {version : Int} {keys : List Key}
    (h : HistoryAt history version (· ∈ keys)) (hnodup : keys.Nodup) :
    getDictionarySnapshot history version = toSnapshot keys := by
  have hentry : ∀ entry ∈ history.rows.filter fun entry => entry.1.1 == version,
      entry.2 ∈ keys ∧ entry.1 = (version, categoryKeyword entry.2) := by
    intro ⟨⟨version', sortKey⟩, key⟩ hmem
    obtain ⟨hrow, hversion⟩ := List.mem_filter.1 hmem
    have hversion : version' = version := eq_of_beq hversion
    subst version'
    obtain ⟨hkey, hsort⟩ := (h sortKey key).1 (Store.mem_rows.1 hrow)
    exact ⟨hkey, by rw [hsort]⟩
  apply toSnapshot_eq_of_perm
  rw [List.perm_ext_iff_of_nodup _ hnodup]
  · intro key
    constructor
    · intro hmem
      obtain ⟨entry, hrow, rfl⟩ := List.mem_map.1 hmem
      exact (hentry entry hrow).1
    · intro hkey
      have hrow := Store.mem_rows.2 ((h (categoryKeyword key) key).2 ⟨hkey, rfl⟩)
      exact List.mem_map.2 ⟨_, List.mem_filter.2 ⟨hrow, beq_self_eq_true _⟩, rfl⟩
  · apply List.Nodup.map_on _ (history.nodup_rows.filter _)
    intro entry hmem entry' hmem' heq
    have hfst : entry.1 = entry'.1 := by rw [(hentry entry hmem).2, (hentry entry' hmem').2, heq]
    exact Prod.ext hfst heq

theorem HistoryAt.put {history : History} {version : Int} {keys : Key → Prop} {key : Key}
    (h : HistoryAt history version keys) (hkeys : ∀ key', keys key' → IsKeywordKey key') (hkey : IsKeywordKey key) :
    HistoryAt (putHistoryRow history version key) version fun key' => key' = key ∨ keys key' := by
  intro sortKey key'
  by_cases hsort : sortKey = categoryKeyword key
  · subst sortKey
    have hlookup : (putHistoryRow history version key).lookup (version, categoryKeyword key) = some key :=
      Store.lookup_write_self ..
    rw [hlookup, Option.some.injEq]
    constructor
    · rintro rfl
      exact ⟨.inl rfl, rfl⟩
    · rintro ⟨rfl | hold, hsame⟩
      · rfl
      · exact categoryKeyword_inj hkey (hkeys key' hold) hsame
  · have hne : (version, sortKey) ≠ (version, categoryKeyword key) := fun heq => hsort (congrArg Prod.snd heq)
    rw [putHistoryRow, Store.lookup_write_ne _ _ hne, h sortKey key']
    constructor
    · rintro ⟨hold, hsame⟩
      exact ⟨.inr hold, hsame⟩
    · rintro ⟨rfl | hold, hsame⟩
      · exact absurd hsame hsort
      · exact ⟨hold, hsame⟩

theorem HistoryAt.put_ne {history : History} {version version' : Int} {keys : Key → Prop} {key : Key}
    (h : HistoryAt history version keys) (hne : version ≠ version') :
    HistoryAt (putHistoryRow history version' key) version keys := by
  intro sortKey key'
  have hkey : (version, sortKey) ≠ (version', categoryKeyword key) := fun heq => hne (congrArg Prod.fst heq)
  rw [putHistoryRow, Store.lookup_write_ne _ _ hkey, h sortKey key']

end Dictionary

end SafetyConfirmation
