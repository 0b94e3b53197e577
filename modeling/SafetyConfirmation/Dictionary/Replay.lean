import SafetyConfirmation.Dictionary.Versions

/-!
# The dictionary a list of writes makes

What the writes that won the versions up to one add up to when they are applied in version order: the meaning of a
snapshot.
-/

namespace SafetyConfirmation

namespace Dictionary

open KeyedStore StepMachine

/-- A write on the keys of the dictionary. PATCH refreshes a row that is there. -/
def KeywordWrite.apply (w : KeywordWrite) (keys : List Key) : List Key :=
  match w.op with
  | .create => keys.insert w.key
  | .update => keys
  | .delete => keys.erase w.key

def replay (writes : List KeywordWrite) : List Key := writes.foldl (fun keys w => w.apply keys) []

/-- The writes that won the versions up to this one, in version order. -/
def wonUpTo (wins : List Win) (version : Int) : List KeywordWrite :=
  (wins.filter fun win => win.version ≤ version).map Win.write

def dictionaryAt (wins : List Win) (version : Int) : List Key := replay (wonUpTo wins version)

theorem replay_append_singleton (writes : List KeywordWrite) (w : KeywordWrite) :
    replay (writes ++ [w]) = w.apply (replay writes) := by
  rw [replay, List.foldl_append]
  rfl

theorem nodup_replay (writes : List KeywordWrite) : (replay writes).Nodup := by
  induction writes using List.reverseRecOn with
  | nil => exact List.nodup_nil
  | append_singleton writes w ih =>
    rw [replay_append_singleton, KeywordWrite.apply]
    cases w.op with
    | create => exact ih.insert
    | update => exact ih
    | delete => exact ih.erase _

theorem mem_apply {w : KeywordWrite} {keys : List Key} (hnodup : keys.Nodup) {key : Key} :
    key ∈ w.apply keys ↔ if key = w.key then w.op = .create ∨ (w.op = .update ∧ key ∈ keys) else key ∈ keys := by
  rw [KeywordWrite.apply]
  cases hop : w.op with
  | create =>
    show key ∈ keys.insert w.key ↔ _
    rw [List.mem_insert_iff]
    split <;> simp_all
  | update => simp
  | delete =>
    show key ∈ keys.erase w.key ↔ _
    rw [hnodup.mem_erase_iff]
    split <;> simp_all

theorem isKeywordKey_of_mem_replay {writes : List KeywordWrite} {key : Key} (h : key ∈ replay writes) :
    IsKeywordKey key := by
  induction writes using List.reverseRecOn with
  | nil => cases h
  | append_singleton writes w ih =>
    rw [replay_append_singleton, mem_apply (nodup_replay writes)] at h
    split at h
    · rename_i heq
      rw [heq]
      exact w.isKeywordKey
    · exact ih h

/-! ### The wins up to a version -/

theorem filter_eq_take {wins : List Win} (h : ∀ (k : Nat) win, wins[k]? = some win → win.version = k + 1)
    (version : Int) : (wins.filter fun win => win.version ≤ version) = wins.take version.toNat := by
  induction wins using List.reverseRecOn with
  | nil => simp
  | append_singleton wins win ih =>
    have hlast : win.version = wins.length + 1 := h wins.length win (by simp)
    have hrest := ih fun k win' hwin' =>
      h k win' (by rw [List.getElem?_append_left (List.getElem?_eq_some_iff.1 hwin').1]; exact hwin')
    rw [List.filter_append, hrest, List.take_append]
    congr 1
    by_cases hversion : win.version ≤ version
    · have hpos : version.toNat - wins.length = version.toNat - wins.length - 1 + 1 := by omega
      rw [hpos]
      simp [hversion]
    · have hzero : version.toNat - wins.length = 0 := by omega
      rw [hzero]
      simp [hversion]

namespace VersionSound

variable {ι : Type} {s : State ι}

theorem wonUpTo_eq_take (hs : VersionSound s) (version : Int) :
    wonUpTo s.wins version = (s.wins.take version.toNat).map Win.write := by
  rw [wonUpTo, filter_eq_take hs.nth]

theorem dictionaryAt_of_nonpos (hs : VersionSound s) {version : Int} (h : version ≤ 0) :
    dictionaryAt s.wins version = [] := by
  have hzero : version.toNat = 0 := by omega
  rw [dictionaryAt, hs.wonUpTo_eq_take, hzero]
  rfl

theorem version_pos (hs : VersionSound s) {win : Win} (h : win ∈ s.wins) :
    1 ≤ win.version ∧ win.version ≤ s.wins.length := by
  obtain ⟨k, hk⟩ := List.mem_iff_getElem?.1 h
  have hversion := hs.nth k win hk
  have hlength := (List.getElem?_eq_some_iff.1 hk).1
  omega

/-- The write that won a version is the last one applied up to it. -/
theorem dictionaryAt_of_win (hs : VersionSound s) {win : Win} (h : win ∈ s.wins) :
    dictionaryAt s.wins win.version = win.write.apply (dictionaryAt s.wins (win.version - 1)) := by
  obtain ⟨k, hk⟩ := List.mem_iff_getElem?.1 h
  have hversion := hs.nth k win hk
  have hlast : win.version.toNat = k + 1 := by omega
  have hbefore : (win.version - 1).toNat = k := by omega
  rw [dictionaryAt, dictionaryAt, hs.wonUpTo_eq_take, hs.wonUpTo_eq_take, hlast, hbefore, List.take_add_one, hk,
    List.map_append]
  exact replay_append_singleton _ _

end VersionSound

theorem dictionaryAt_append {wins wins' : List Win} {version : Int} (h : ∀ win ∈ wins', version < win.version) :
    dictionaryAt (wins ++ wins') version = dictionaryAt wins version := by
  have hnone : (wins'.filter fun win => win.version ≤ version) = [] := by
    rw [List.filter_eq_nil_iff]
    intro win hwin
    have hlater := h win hwin
    simp only [decide_eq_true_eq]
    omega
  rw [dictionaryAt, wonUpTo, List.filter_append, hnone, List.append_nil]
  rfl

/-- The row write of a keyword does to the keys what the write means, when it finds what it expects. -/
theorem isSome_lookup_write {dictionary : Store Key Row} {keys : List Key} {w : KeywordWrite} {version : Int} {key : Key}
    (hnodup : keys.Nodup) (hmeta : key.1 ≠ "META")
    (hkeys : ∀ key, key.1 ≠ "META" → ((dictionary.lookup key).isSome = true ↔ key ∈ keys))
    (hcondition : (w.write version).condition (dictionary.lookup w.key) = true)
    (hpatch : w.op = .update → (dictionary.lookup w.key).isSome = true) :
    ((dictionary.write w.key (w.write version)).lookup key).isSome = true ↔ key ∈ w.apply keys := by
  rw [mem_apply hnodup]
  by_cases hkey : key = w.key
  · subst key
    rw [if_pos rfl, Store.lookup_write_self, Write.run_of_condition hcondition, ← hkeys w.key hmeta]
    unfold KeywordWrite.write
    cases hop : w.op with
    | create => simp
    | update => simp [hpatch hop]
    | delete => simp
  · rw [if_neg hkey, Store.lookup_write_ne _ _ hkey]
    exact hkeys key hmeta

end Dictionary

end SafetyConfirmation
