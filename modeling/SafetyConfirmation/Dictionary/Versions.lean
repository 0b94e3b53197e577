import SafetyConfirmation.Dictionary.Concurrent

/-!
# A version is won once

The META row as a lock: whatever the writers are asked to expect, the version grows by one at a time, and the wins
carry the numbers 1, 2, 3, … in the order in which they were won.
-/

namespace SafetyConfirmation

namespace Dictionary

open KeyedStore StepMachine

variable {ι : Type}

/-! ### Holding a version -/

theorem winOf_answered (i : Nat) (writer : Writer ι) (response : HttpResponse) : winOf i writer (.answered response) = [] := by
  cases writer <;> rfl

theorem winOf_afterPut (i : Nat) (writer : Writer ι) (w : KeywordWrite) (version : Int) (pending : List Key) :
    winOf i writer (.afterPut w version pending) = [] := by
  rw [Writer.afterPut]
  split <;> cases writer <;> rfl

theorem held_afterPut {w : KeywordWrite} {version : Int} {pending : List Key} {held : KeywordWrite × Int}
    (h : (Writer.afterPut w version pending : Writer ι).held = some held) : held = (w, version) := by
  rw [Writer.afterPut] at h
  split at h
  · cases h
  · exact (Option.some.inj h).symm

theorem eq_success_of_afterPut {w : KeywordWrite} {version : Int} {pending : List Key} {response : HttpResponse}
    (h : (Writer.afterPut w version pending : Writer ι) = .answered response) : response = success w version := by
  rw [Writer.afterPut] at h
  split at h
  · cases h
    rfl
  · cases h

theorem lookup_metaKey_write (dictionary : Store Key Row) (w : KeywordWrite) (version : Int) :
    (dictionary.write w.key (w.write version)).lookup metaKey = dictionary.lookup metaKey :=
  Store.lookup_write_ne _ _ w.key_ne_metaKey.symm

theorem Writer.start_spec {request : Request} {writer : Writer ι} (h : Writer.start request = some writer) :
    writer.held = none ∧ ∀ response, writer = .answered response → ¬ response.IsSuccess := by
  unfold Writer.start at h
  split at h
  · cases h
    split
    · exact ⟨rfl, fun _ heq => (by cases heq)⟩
    · exact ⟨rfl, fun _ heq => (by cases heq)⟩
  · cases h
    refine ⟨rfl, ?_⟩
    intro response heq hsuccess
    cases heq
    exact absurd hsuccess.2 (by show ¬ 400 < 300; omega)
  · cases h

/-! ### The invariant -/

/-- What holds of the wins: they carry the versions from 1 to the current one, and every request that holds a version
or was answered with one is the request that won it. -/
structure VersionSound (s : State ι) : Prop where
  current : currentVersion s.tables.dictionary = s.wins.length
  nth : ∀ (k : Nat) win, s.wins[k]? = some win → win.version = k + 1
  held : ∀ i writer, s.writers.lookup i = some writer →
    ∀ w version, writer.held = some (w, version) → { request := i, version, write := w } ∈ s.wins
  answered : ∀ i writer, s.writers.lookup i = some writer → ∀ response, writer = .answered response →
    response.IsSuccess → ∃ w version, response = success w version ∧ { request := i, version, write := w } ∈ s.wins

theorem versionSound_start {tables : Tables} (hmeta : tables.dictionary.lookup metaKey = none)
    (cycles : Store String Cycle) : VersionSound ({ tables, cycles } : State ι) where
  current := by
    rw [currentVersion, hmeta]
    rfl
  nth _ _ h := by simp at h
  held _ _ h := by cases h
  answered _ _ h := by cases h

theorem VersionSound.won {s : State ι} {i : Nat} {w : KeywordWrite} {expected : ExpectedVersion} (hs : VersionSound s)
    (hwon : (incrementVersion expected).condition (s.tables.dictionary.lookup metaKey) = true) :
    VersionSound { s with
      tables := { s.tables with dictionary := s.tables.dictionary.write metaKey (incrementVersion expected) }
      writers := s.writers.set i (some (.row w (expected.toInt + 1)))
      wins := s.wins ++ [{ request := i, version := expected.toInt + 1, write := w }] } := by
  have hexpected : expected.toInt = s.wins.length := by
    rw [← hs.current]
    exact incrementVersion_condition hwon
  constructor
  · show currentVersion (s.tables.dictionary.write metaKey (incrementVersion expected)) = _
    rw [currentVersion, Store.lookup_write_self, versionOf_incrementVersion hwon, ← incrementVersion_condition hwon,
      hexpected, List.length_append]
    rfl
  · intro k win hwin
    rcases Nat.lt_or_ge k s.wins.length with hk | hk
    · rw [List.getElem?_append_left hk] at hwin
      exact hs.nth k win hwin
    · rw [List.getElem?_append_right hk] at hwin
      have hzero : k - s.wins.length = 0 := by
        by_contra hne
        rw [List.getElem?_eq_none (by simp only [List.length_singleton]; omega)] at hwin
        cases hwin
      rw [hzero] at hwin
      cases hwin
      show expected.toInt + 1 = k + 1
      omega
  · apply Store.forall_lookup_set
    · intro j other _ hother w' version hheld
      exact List.mem_append_left _ (hs.held j other hother w' version hheld)
    · intro w' version hheld
      cases hheld
      exact List.mem_append_right _ List.mem_cons_self
  · apply Store.forall_lookup_set
    · intro j other _ hother response heq hsuccess
      obtain ⟨w', version, hresponse, hmem⟩ := hs.answered j other hother response heq hsuccess
      exact ⟨w', version, hresponse, List.mem_append_left _ hmem⟩
    · intro response heq
      cases heq

theorem VersionSound.kept {s : State ι} {tables' : Tables} {i : Nat} {writer' : Writer ι} (hs : VersionSound s)
    (hmeta : tables'.dictionary.lookup metaKey = s.tables.dictionary.lookup metaKey)
    (hheld : ∀ w version, writer'.held = some (w, version) → { request := i, version, write := w } ∈ s.wins)
    (hanswered : ∀ response, writer' = .answered response → response.IsSuccess →
      ∃ w version, response = success w version ∧ { request := i, version, write := w } ∈ s.wins) :
    VersionSound { s with tables := tables', writers := s.writers.set i (some writer') } where
  current := by
    show currentVersion tables'.dictionary = _
    rw [currentVersion, hmeta]
    exact hs.current
  nth := hs.nth
  held := Store.forall_lookup_set (fun j other _ => hs.held j other) hheld
  answered := Store.forall_lookup_set (fun j other _ => hs.answered j other) hanswered

theorem VersionSound.win_unique {s : State ι} (hs : VersionSound s) {win win' : Win} (h : win ∈ s.wins)
    (h' : win' ∈ s.wins) (heq : win.version = win'.version) : win = win' := by
  obtain ⟨k, hk⟩ := List.mem_iff_getElem?.1 h
  obtain ⟨k', hk'⟩ := List.mem_iff_getElem?.1 h'
  have hversion := hs.nth k win hk
  have hversion' := hs.nth k' win' hk'
  have hsame : k = k' := by omega
  subst k'
  rw [hk] at hk'
  exact Option.some.inj hk'

variable [LinearOrder ι] {position : Key → ι}

/-! ### What one step can do to a version -/

/-- A call wins a version, or it leaves the META row alone and the request goes on with the version it had. -/
theorem Writer.Moves.won_or_kept {tables tables' : Tables} {writer writer' : Writer ι} {c : Call ι}
    (h : Writer.Moves position tables writer c writer' tables') :
    (∃ w expected, writer = .increment w expected ∧ c = .next ∧
      (incrementVersion expected).condition (tables.dictionary.lookup metaKey) = true ∧
      writer' = .row w (expected.toInt + 1) ∧
      tables' = { tables with dictionary := tables.dictionary.write metaKey (incrementVersion expected) }) ∨
    ((∀ i, winOf i writer writer' = []) ∧ tables'.dictionary.lookup metaKey = tables.dictionary.lookup metaKey ∧
      (∀ held, writer'.held = some held → writer.held = some held) ∧
      ∀ response, writer' = .answered response → response.IsSuccess →
        ∃ w version, response = success w version ∧ writer.held = some (w, version)) := by
  cases h with
  | refused hresponse _ =>
    refine .inr ⟨fun i => winOf_answered i _ _, rfl, fun _ hheld => (by cases hheld), ?_⟩
    intro response heq hsuccess
    cases heq
    rcases hresponse with rfl | ⟨key, rfl⟩
    · exact absurd hsuccess.2 (by decide)
    · have hcode : (keywordNotFound key).statusCode < 300 := hsuccess.2
      exact absurd hcode (by show ¬ 400 < 300; omega)
  | found => exact .inr ⟨fun _ => rfl, rfl, fun _ hheld => (by cases hheld), fun _ heq => (by cases heq)⟩
  | won hcondition => exact .inl ⟨_, _, rfl, rfl, hcondition, rfl, rfl⟩
  | written _ =>
    exact .inr ⟨fun _ => rfl, lookup_metaKey_write _ _ _, fun _ hheld => hheld, fun _ heq => (by cases heq)⟩
  | paged _ => exact .inr ⟨fun _ => rfl, rfl, fun _ hheld => hheld, fun _ heq => (by cases heq)⟩
  | scanned | put _ =>
    refine .inr ⟨fun i => winOf_afterPut i _ _ _ _, rfl, ?_, ?_⟩
    · intro held hheld
      rw [held_afterPut hheld]
      rfl
    · intro response heq _
      exact ⟨_, _, eq_success_of_afterPut heq, rfl⟩

theorem step_cases {s t : State ι} {label : Label ι} (h : step position s label = some t) :
    (∃ i writer c writer' tables', label = .writer i c ∧ s.writers.lookup i = some writer ∧
      Writer.Moves position s.tables writer c writer' tables' ∧
      t = { s with
        tables := tables', writers := s.writers.set i (some writer'), wins := s.wins ++ winOf i writer writer' }) ∨
    (∃ i request writer, s.writers.lookup i = none ∧ Writer.start request = some writer ∧
      t = { s with writers := s.writers.set i (some writer) }) ∨
    ∃ cycles starts, t = { s with cycles, starts } := by
  cases label with
  | request i request =>
    simp only [step, Option.ite_none_right_eq_some] at h
    obtain ⟨hnone, h⟩ := h
    obtain ⟨writer, hstart, rfl⟩ := Option.map_eq_some_iff.1 h
    exact .inr (.inl ⟨i, request, writer, Option.isNone_iff_eq_none.1 hnone, hstart, rfl⟩)
  | writer i c =>
    obtain ⟨writer, hwriter, h⟩ := Option.bind_eq_some_iff.1 h
    obtain ⟨⟨writer', tables'⟩, hcall, rfl⟩ := Option.map_eq_some_iff.1 h
    exact .inl ⟨i, writer, c, writer', tables', rfl, hwriter, Writer.moves_of_call hcall, rfl⟩
  | cycle j request =>
    simp only [step, Option.ite_none_right_eq_some, Option.some.injEq] at h
    obtain ⟨-, rfl⟩ := h
    exact .inr (.inr ⟨s.cycles, _, rfl⟩)
  | start j cycleId startedAt =>
    obtain ⟨start, -, h⟩ := Option.bind_eq_some_iff.1 h
    obtain ⟨next, -, rfl⟩ := Option.map_eq_some_iff.1 h
    exact .inr (.inr ⟨_, _, rfl⟩)
  | startFailed cycleId | finish cycleId newStatus now =>
    cases h
    exact .inr (.inr ⟨_, s.starts, rfl⟩)

theorem versionSound_step {s t : State ι} {label : Label ι} (hs : VersionSound s) (h : step position s label = some t) :
    VersionSound t := by
  rcases step_cases h with ⟨i, writer, c, writer', tables', -, hwriter, hmoves, rfl⟩ |
    ⟨i, request, writer, -, hstart, rfl⟩ | ⟨cycles, starts, rfl⟩
  · rcases hmoves.won_or_kept with ⟨w, expected, rfl, -, hwon, rfl, rfl⟩ | ⟨hwins, hmeta, hheld, hanswered⟩
    · exact hs.won hwon
    · rw [hwins i, List.append_nil]
      apply hs.kept hmeta
      · intro w version hnew
        exact hs.held i writer hwriter w version (hheld _ hnew)
      · intro response heq hsuccess
        obtain ⟨w, version, hresponse, hold⟩ := hanswered response heq hsuccess
        exact ⟨w, version, hresponse, hs.held i writer hwriter w version hold⟩
  · obtain ⟨hheld, hanswered⟩ := Writer.start_spec hstart
    apply hs.kept rfl
    · intro w version hnew
      rw [hheld] at hnew
      cases hnew
    · intro response heq hsuccess
      exact absurd hsuccess (hanswered response heq)
  · exact ⟨hs.current, hs.nth, hs.held, hs.answered⟩

/-! ### Every interleaving -/

/-- What a step does to the META row: nothing, or the version grows by one because a request won it. -/
theorem meta_step {s t : State ι} {label : Label ι} (h : step position s label = some t) :
    t.tables.dictionary.lookup metaKey = s.tables.dictionary.lookup metaKey ∨
    ∃ i w expected row, label = .writer i .next ∧ s.writers.lookup i = some (.increment w expected) ∧
      t.tables.dictionary.lookup metaKey = some row ∧
      row.currentVersion = some (currentVersion s.tables.dictionary + 1) := by
  rcases step_cases h with ⟨i, writer, c, writer', tables', hlabel, hwriter, hmoves, rfl⟩ |
    ⟨i, request, writer, -, -, rfl⟩ | ⟨cycles, starts, rfl⟩
  · rcases hmoves.won_or_kept with ⟨w, expected, rfl, rfl, hwon, rfl, rfl⟩ | ⟨-, hmeta, -, -⟩
    · right
      refine ⟨i, w, expected, { (s.tables.dictionary.lookup metaKey).getD {} with
        currentVersion := some (expected.toInt + 1) }, hlabel, hwriter, ?_, ?_⟩
      · show (s.tables.dictionary.write metaKey (incrementVersion expected)).lookup metaKey = some _
        rw [Store.lookup_write_self, Write.run_of_condition hwon]
        rfl
      · rw [currentVersion, ← incrementVersion_condition hwon]
    · exact .inl hmeta
  · exact .inl rfl
  · exact .inl rfl

/-- In every interleaving from a table without a META row: the version stays or grows by one, only a request that wins
a version touches the META row, no two requests win one version, and no two answered 2xx return one. -/
theorem versions_won_once {tables : Tables} {cycles : Store String Cycle} {labels : List (Label ι)} {s : State ι}
    (hmeta : tables.dictionary.lookup metaKey = none)
    (hrun : exec (step position) { tables, cycles } labels = some s) :
    (∀ label t, step position s label = some t →
      (currentVersion t.tables.dictionary = currentVersion s.tables.dictionary ∨
        currentVersion t.tables.dictionary = currentVersion s.tables.dictionary + 1) ∧
      (t.tables.dictionary.lookup metaKey = s.tables.dictionary.lookup metaKey ∨
        ∃ i w expected row, label = .writer i .next ∧ s.writers.lookup i = some (.increment w expected) ∧
          t.tables.dictionary.lookup metaKey = some row ∧
          row.currentVersion = some (currentVersion s.tables.dictionary + 1))) ∧
    (∀ win ∈ s.wins, ∀ win' ∈ s.wins, win.version = win'.version → win = win') ∧
    (∀ i j response response', s.writers.lookup i = some (.answered response) →
      s.writers.lookup j = some (.answered response') → response.IsSuccess → response'.IsSuccess →
      response.version? = response'.version? → i = j) := by
  have hs : VersionSound s :=
    invariant (fun _ _ _ hs hstep => versionSound_step hs hstep) (versionSound_start hmeta cycles) hrun
  refine ⟨?_, ?_, ?_⟩
  · intro label t hstep
    have hstepMeta := meta_step hstep
    refine ⟨?_, hstepMeta⟩
    rcases hstepMeta with hsame | ⟨i, w, expected, row, -, -, hrow, hversion⟩
    · left
      rw [currentVersion, hsame]
      rfl
    · right
      have hcurrent : currentVersion t.tables.dictionary = (row.currentVersion).getD 0 := by
        rw [currentVersion, hrow]
        rfl
      rw [hcurrent, hversion]
      rfl
  · intro win h win' h' heq
    exact hs.win_unique h h' heq
  · intro i j response response' hi hj hsuccess hsuccess' heq
    obtain ⟨w, version, rfl, hwin⟩ := hs.answered i _ hi response rfl hsuccess
    obtain ⟨w', version', rfl, hwin'⟩ := hs.answered j _ hj response' rfl hsuccess'
    have hversion : version = version' := Option.some.inj heq
    exact congrArg Win.request (hs.win_unique hwin hwin' hversion)

/-- Two requests race for the first version, one of them expecting `false`. -/
def race : List (Label Nat) :=
  [.request 0 (post "ok" (.bool false)), .request 1 (post "fine" (.int 0)), .writer 0 .next, .writer 1 .next,
    .writer 0 .next, .writer 0 (.page none), .writer 0 (.put ("SAFE", "ok"))]

theorem versions_won_once_race :
    ∃ s, exec (step fun _ => 0) {} race = some s ∧ s.wins.map Win.version = [1] ∧
      ∀ win ∈ s.wins, ∀ win' ∈ s.wins, win.version = win'.version → win = win' :=
  ⟨_, rfl, rfl, (@versions_won_once Nat _ (fun _ => 0) {} ∅ race _ rfl rfl).2.1⟩

end Dictionary

end SafetyConfirmation
