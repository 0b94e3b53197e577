import SafetyConfirmation.Lib.StepMachine
import SafetyConfirmation.Dictionary.Handler

/-!
# Histories of requests, one after another

After a request the snapshot of the current version is to be the dictionary. It is, until the first request that wins
a version and then fails to write its row: that version stays without a snapshot.
-/

namespace SafetyConfirmation

namespace Dictionary

open KeyedStore StepMachine

/-- The snapshot of the current version is the active rows. -/
def Agrees (tables : Tables) : Prop :=
  getDictionarySnapshot tables.history (currentVersion tables.dictionary) = toSnapshot (scanAllActive tables.dictionary)

/-- The version, the active rows and the history are as they were. -/
def Unchanged (tables tables' : Tables) : Prop :=
  currentVersion tables'.dictionary = currentVersion tables.dictionary ∧
  scanAllActive tables'.dictionary = scanAllActive tables.dictionary ∧ tables'.history = tables.history

def AgreesAfter (tables : Tables) (request : Request) : Prop :=
  Agrees (lambdaHandler request tables).2 ∧
  ((lambdaHandler request tables).1.IsClientError → Unchanged tables (lambdaHandler request tables).2)

def next (tables : Tables) (request : Request) : Option Tables := some (lambdaHandler request tables).2

/-- The request passes the version check, and is a POST of a keyword that is there or a DELETE of one that is not. -/
def WinsInVain (tables : Tables) (request : Request) : Prop :=
  ∃ w expected, parseRequest request = some (.ok (w, expected)) ∧
    (incrementVersion expected).condition (tables.dictionary.lookup metaKey) = true ∧
    ((w.op = .create ∧ (tables.dictionary.lookup w.key).isSome = true) ∨
      (w.op = .delete ∧ tables.dictionary.lookup w.key = none))

/-! ### What one request does -/

theorem applyWrite_cases (w : KeywordWrite) (expected : ExpectedVersion) (tables : Tables) :
    (applyWrite w expected tables).2 = tables ∧
        ((incrementVersion expected).condition (tables.dictionary.lookup metaKey) = true →
          w.op = .update ∧ tables.dictionary.lookup w.key = none) ∨
    (incrementVersion expected).condition (tables.dictionary.lookup metaKey) = true ∧
      ((w.op = .create ∧ (tables.dictionary.lookup w.key).isSome = true) ∨
        (w.op = .delete ∧ tables.dictionary.lookup w.key = none)) ∧
      applyWrite w expected tables =
        (conflict, { tables with dictionary := tables.dictionary.write metaKey (incrementVersion expected) }) ∨
    (incrementVersion expected).condition (tables.dictionary.lookup metaKey) = true ∧
      ¬ ((w.op = .create ∧ (tables.dictionary.lookup w.key).isSome = true) ∨
        (w.op = .delete ∧ tables.dictionary.lookup w.key = none)) ∧
      applyWrite w expected tables =
        (success w (expected.toInt + 1), writeHistorySnapshot { tables with
          dictionary := (tables.dictionary.write metaKey (incrementVersion expected)).write w.key
            (w.write (expected.toInt + 1)) } (expected.toInt + 1)) := by
  have hkey : (tables.dictionary.write metaKey (incrementVersion expected)).lookup w.key =
      tables.dictionary.lookup w.key := Store.lookup_write_ne _ _ w.key_ne_metaKey
  by_cases hpatch : w.op = .update ∧ (tables.dictionary.lookup w.key).isNone = true
  · left
    rw [applyWrite, if_pos hpatch]
    exact ⟨rfl, fun _ => ⟨hpatch.1, Option.isNone_iff_eq_none.1 hpatch.2⟩⟩
  · rw [applyWrite, if_neg hpatch]
    by_cases hwins : (incrementVersion expected).condition (tables.dictionary.lookup metaKey) = true
    · right
      have hfails := write_condition_eq_false_iff w (expected.toInt + 1) (tables.dictionary.lookup w.key)
      rw [if_pos hwins]
      dsimp only
      rw [hkey]
      by_cases hcondition : (w.write (expected.toInt + 1)).condition (tables.dictionary.lookup w.key) = true
      · right
        rw [if_pos hcondition]
        exact ⟨hwins, fun hvain => Bool.noConfusion (hcondition.symm.trans (hfails.2 hvain)), rfl⟩
      · left
        rw [if_neg hcondition]
        exact ⟨hwins, hfails.1 (Bool.eq_false_of_not_eq_true hcondition), rfl⟩
    · left
      rw [if_neg hwins]
      exact ⟨rfl, fun h => absurd h hwins⟩

theorem lambdaHandler_cases {tables : Tables} {request : Request} (h : ¬ WinsInVain tables request) :
    (lambdaHandler request tables).2 = tables ∨
    ∃ w expected, (incrementVersion expected).condition (tables.dictionary.lookup metaKey) = true ∧
      lambdaHandler request tables =
        (success w (expected.toInt + 1), writeHistorySnapshot { tables with
          dictionary := (tables.dictionary.write metaKey (incrementVersion expected)).write w.key
            (w.write (expected.toInt + 1)) } (expected.toInt + 1)) := by
  rw [lambdaHandler]
  split
  · rename_i w expected hparse
    rcases applyWrite_cases w expected tables with ⟨hsame, -⟩ | ⟨hwins, hvain, -⟩ | ⟨hwins, -, hrun⟩
    · exact .inl hsame
    · exact absurd ⟨w, expected, hparse, hwins, hvain⟩ h
    · exact .inr ⟨w, expected, hwins, hrun⟩
  · exact .inl rfl
  · exact .inl rfl

theorem lambdaHandler_of_winsInVain {tables : Tables} {request : Request} (h : WinsInVain tables request) :
    (lambdaHandler request tables).1 = conflict ∧
    currentVersion (lambdaHandler request tables).2.dictionary = currentVersion tables.dictionary + 1 := by
  obtain ⟨w, expected, hparse, hwins, hvain⟩ := h
  have hrun : applyWrite w expected tables =
      (conflict, { tables with dictionary := tables.dictionary.write metaKey (incrementVersion expected) }) := by
    rcases applyWrite_cases w expected tables with ⟨-, hpatch⟩ | ⟨-, -, hrun⟩ | ⟨-, hnot, -⟩
    · obtain ⟨hop, -⟩ := hpatch hwins
      rw [hop] at hvain
      simp at hvain
    · exact hrun
    · exact absurd hvain hnot
  rw [lambdaHandler, hparse]
  dsimp only
  rw [hrun]
  refine ⟨rfl, ?_⟩
  rw [currentVersion, Store.lookup_write_self, versionOf_incrementVersion hwins]
  rfl

/-! ### The invariant of a history -/

/-- What holds between requests: beside the agreement, the keys are keywords' and no later version has a row. -/
structure Consistent (tables : Tables) : Prop where
  agrees : Agrees tables
  keys : ∀ key ∈ scanAllActive tables.dictionary, IsKeywordKey key
  fresh : ∀ version, currentVersion tables.dictionary < version → HistoryAt tables.history version fun _ => False

theorem consistent_empty : Consistent {} where
  agrees := rfl
  keys key hkey := by simp [scanAllActive] at hkey
  fresh version _ sortKey key := by simp

theorem historyAt_foldl {history : History} {version : Int} {keys : Key → Prop} (items : List Key)
    (h : HistoryAt history version keys) (hkeys : ∀ key, keys key → IsKeywordKey key)
    (hitems : ∀ key ∈ items, IsKeywordKey key) :
    HistoryAt (items.foldl (fun history key => putHistoryRow history version key) history) version
      fun key => key ∈ items ∨ keys key := by
  induction items generalizing history keys with
  | nil => simpa using h
  | cons item items ih =>
    have hitem := hitems item List.mem_cons_self
    have hrest := ih (h.put hkeys hitem)
      (fun key hkey => hkey.elim (fun heq => heq ▸ hitem) (hkeys key))
      (fun key hkey => hitems key (List.mem_cons_of_mem _ hkey))
    intro sortKey key
    rw [List.foldl_cons, hrest sortKey key]
    simp only [List.mem_cons, or_assoc, or_left_comm]

theorem historyAt_foldl_ne {history : History} {version version' : Int} {keys : Key → Prop} (items : List Key)
    (h : HistoryAt history version keys) (hne : version ≠ version') :
    HistoryAt (items.foldl (fun history key => putHistoryRow history version' key) history) version keys := by
  induction items generalizing history with
  | nil => exact h
  | cons item items ih => exact ih (h.put_ne hne)

theorem consistent_writeHistorySnapshot {tables : Tables} {w : KeywordWrite} {expected : ExpectedVersion}
    (h : Consistent tables) (hwins : (incrementVersion expected).condition (tables.dictionary.lookup metaKey) = true) :
    Consistent (writeHistorySnapshot { tables with
      dictionary := (tables.dictionary.write metaKey (incrementVersion expected)).write w.key
        (w.write (expected.toInt + 1)) } (expected.toInt + 1)) := by
  have hexpected : expected.toInt = currentVersion tables.dictionary := incrementVersion_condition hwins
  let dictionary := (tables.dictionary.write metaKey (incrementVersion expected)).write w.key
    (w.write (expected.toInt + 1))
  have hversion : currentVersion dictionary = expected.toInt + 1 := by
    rw [currentVersion, Store.lookup_write_ne _ _ w.key_ne_metaKey.symm, Store.lookup_write_self,
      versionOf_incrementVersion hwins, hexpected]
    rfl
  have hkeys : ∀ key ∈ scanAllActive dictionary, IsKeywordKey key := by
    intro key hkey
    by_cases hw : key = w.key
    · rw [hw]
      exact w.isKeywordKey
    · obtain ⟨hrow, hmeta⟩ := mem_scanAllActive.1 hkey
      have hne : key ≠ metaKey := fun heq => hmeta (congrArg Prod.fst heq)
      rw [Store.lookup_write_ne _ _ hw, Store.lookup_write_ne _ _ hne] at hrow
      exact h.keys key (mem_scanAllActive.2 ⟨hrow, hmeta⟩)
  have hsnapshot := historyAt_foldl (scanAllActive dictionary) (h.fresh (expected.toInt + 1) (by omega))
    (fun _ hfalse => hfalse.elim) hkeys
  refine ⟨?_, hkeys, ?_⟩
  · show getDictionarySnapshot _ (currentVersion dictionary) = toSnapshot (scanAllActive dictionary)
    rw [hversion]
    apply getDictionarySnapshot_eq _ (nodup_scanAllActive dictionary)
    simp only [or_false] at hsnapshot
    exact hsnapshot
  · intro version hlater
    have hlater : expected.toInt + 1 < version := by
      rw [← hversion]
      exact hlater
    exact historyAt_foldl_ne _ (h.fresh version (by omega)) (by omega)

theorem statusCode_success_lt (w : KeywordWrite) (newVersion : Int) : (success w newVersion).statusCode < 400 := by
  show (if w.op = .create then 201 else 200) < 400
  split <;> decide

/-- On consistent tables a request is answered as it is asked to be exactly when it does not win in vain. -/
theorem agreesAfter_iff {tables : Tables} (request : Request) (h : Consistent tables) :
    AgreesAfter tables request ↔ ¬ WinsInVain tables request := by
  constructor
  · intro hafter hvain
    obtain ⟨hconflict, hversion⟩ := lambdaHandler_of_winsInVain hvain
    have hrefused : (lambdaHandler request tables).1.IsClientError := by
      rw [hconflict]
      exact ⟨by decide, by decide⟩
    have hsame := (hafter.2 hrefused).1
    omega
  · intro hvain
    rcases lambdaHandler_cases hvain with hsame | ⟨w, expected, hwins, hrun⟩
    · rw [AgreesAfter, hsame]
      exact ⟨h.agrees, fun _ => ⟨rfl, rfl, rfl⟩⟩
    · rw [AgreesAfter, hrun]
      refine ⟨(consistent_writeHistorySnapshot h hwins).agrees, ?_⟩
      intro hrefused
      exact absurd hrefused.1 (Nat.not_le.2 (statusCode_success_lt w (expected.toInt + 1)))

theorem consistent_next {tables tables' : Tables} {request : Request} (h : Consistent tables)
    (hvain : ¬ WinsInVain tables request) (hstep : next tables request = some tables') : Consistent tables' := by
  cases hstep
  rcases lambdaHandler_cases hvain with hsame | ⟨w, expected, hwins, hrun⟩
  · rw [hsame]
    exact h
  · rw [hrun]
    exact consistent_writeHistorySnapshot h hwins

/-- Version and snapshot agree after every request of a history exactly when none of its requests wins in vain. -/
theorem snapshot_agrees_iff (requests : List Request) :
    Guarded next AgreesAfter {} requests ↔ Guarded next (fun tables request => ¬ WinsInVain tables request) {} requests :=
  @guarded_iff_of_invariant _ _ next AgreesAfter (fun tables request => ¬ WinsInVain tables request) Consistent
    (fun _ request h => agreesAfter_iff request h)
    (fun _ request _ h hafter hstep => consistent_next h ((agreesAfter_iff request h).1 hafter) hstep)
    {} consistent_empty requests

/-- The same keyword is posted twice, each time with the current version: the second POST is answered 409, and leaves
version 2 without a snapshot. -/
theorem second_post_loses_snapshot :
    ∃ tables, exec next {} [post "ok" (.int 0)] = some tables ∧
      (lambdaHandler (post "ok" (.int 1)) tables).1.statusCode = 409 ∧
      currentVersion (lambdaHandler (post "ok" (.int 1)) tables).2.dictionary = 2 ∧
      getDictionarySnapshot (lambdaHandler (post "ok" (.int 1)) tables).2.history 2 = {} ∧
      toSnapshot (scanAllActive (lambdaHandler (post "ok" (.int 1)) tables).2.dictionary) = { safe := ["ok"] } ∧
      ¬ Guarded next AgreesAfter {} [post "ok" (.int 0), post "ok" (.int 1)] := by
  refine ⟨_, rfl, rfl, by decide, by decide, by decide, ?_⟩
  intro h
  obtain ⟨-, hrest⟩ := h
  obtain ⟨⟨hagrees, -⟩, -⟩ := hrest _ rfl
  rw [Agrees] at hagrees
  exact absurd hagrees (by decide)

end Dictionary

end SafetyConfirmation
