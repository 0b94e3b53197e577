import SafetyConfirmation.Dictionary.SnapshotInvariant

/-!
# Snapshots of accepted cycles

In an orderly interleaving the snapshot of an accepted cycle's version is, from the put of its row on, what the writes
that won the versions up to it make of the empty dictionary.
-/

namespace SafetyConfirmation

namespace Dictionary

open KeyedStore StepMachine

variable {ι : Type}

theorem Writer.eq_row_of_orderly {s : State ι} {i : Nat} {w : KeywordWrite} {version : Int}
    (hwriter : s.writers.lookup i = some (.row w version)) (h : orderly s (.writer i .next) = true) :
    w.finds (s.tables.dictionary.lookup w.key) = true ∧
    ∀ j other, s.writers.lookup j = some other → ∀ version' ∈ other.unscanned, version ≤ version' := by
  simp only [orderly, hwriter, Bool.and_eq_true, List.all_eq_true] at h
  refine ⟨h.1, ?_⟩
  intro j other hother version' hversion'
  have hall := h.2 (j, other) (Store.mem_rows.2 hother)
  rw [Option.mem_def.1 hversion'] at hall
  exact of_decide_eq_true hall

theorem answered_of_orderly {s : State ι} {j : Nat} {request : CycleApi.Request} {version : Int} {cycleId : String}
    {startedAt : Instant} (hstart : s.starts.lookup j = some (.put request version))
    (h : orderly s (.start j cycleId startedAt) = true) :
    ∀ i writer, s.writers.lookup i = some writer → ∀ held, writer.held = some held → held.2 ≠ version := by
  simp only [orderly, hstart, List.all_eq_true] at h
  intro i writer hwriter held hheld
  have hall := h (i, writer) (Store.mem_rows.2 hwriter)
  rw [hheld] at hall
  exact ne_of_beq_false (by simpa using hall)

/-! ### From one moment to a later one -/

/-- The wins only grow, and a cycle that was accepted stays with its version. -/
structure Later (s t : State ι) : Prop where
  wins : s.wins <+: t.wins
  cycles : ∀ cycleId version, (s.cycles.lookup cycleId).map Cycle.dictionaryVersion = some version →
    (t.cycles.lookup cycleId).map Cycle.dictionaryVersion = some version

theorem later_refl (s : State ι) : Later s s := ⟨List.prefix_rfl, fun _ _ h => h⟩

theorem Later.trans {s m t : State ι} (h : Later s m) (h' : Later m t) : Later s t :=
  ⟨h.wins.trans h'.wins, fun cycleId version hcycle => h'.cycles cycleId version (h.cycles cycleId version hcycle)⟩

theorem Later.dictionaryAt_eq {s t : State ι} (h : Later s t) (hs : VersionSound s) (ht : VersionSound t)
    {version : Int} (hle : version ≤ s.wins.length) : dictionaryAt t.wins version = dictionaryAt s.wins version := by
  obtain ⟨rest, hrest⟩ := h.wins
  have hlength : version.toNat ≤ s.wins.length := by omega
  rw [dictionaryAt, dictionaryAt, ht.wonUpTo_eq_take, hs.wonUpTo_eq_take, ← hrest, List.take_append_of_le_length hlength]

variable [LinearOrder ι] {position : Key → ι}

/-! ### Orderly steps -/

theorem snapshotSound_call {s : State ι} {written : Int} {i : Nat} {writer writer' : Writer ι} {c : Call ι}
    {tables' : Tables} (hs : VersionSound s) (h : SnapshotSound position s written)
    (horderly : orderly s (.writer i c) = true) (hwriter : s.writers.lookup i = some writer)
    (hmoves : Writer.Moves position s.tables writer c writer' tables') :
    ∃ written', SnapshotSound position { s with
      tables := tables', writers := s.writers.set i (some writer'), wins := s.wins ++ winOf i writer writer' }
      written' := by
  rcases hmoves.won_or_kept with ⟨w, expected, rfl, -, hwon, rfl, rfl⟩ | ⟨hwins, -⟩
  · exact ⟨written, h.won hs hwriter hwon⟩
  rw [hwins i, List.append_nil]
  cases hmoves with
  | refused _ hheld =>
    have hrow : ∀ w version, writer.held ≠ some (w, version) := by
      intro w version heq
      obtain ⟨rfl, hcondition⟩ := hheld w version heq
      have hfinds := (Writer.eq_row_of_orderly hwriter horderly).1
      rw [KeywordWrite.condition_of_finds hfinds] at hcondition
      cases hcondition
    refine ⟨written, h.moved_in_place ?_ (fun _ hnew => (by cases hnew)) trivial ?_⟩
    · intro w version heq
      rw [hwriter] at heq
      cases heq
      exact hrow w version rfl
    · intro other hother version key _ howes
      rw [hwriter] at hother
      cases hother
      obtain ⟨w, hholds⟩ := Writer.held_of_owes howes
      exact absurd hholds (hrow w version)
  | found =>
    refine ⟨written, h.moved_in_place (by simp [hwriter]) (fun _ hnew => (by cases hnew)) trivial ?_⟩
    intro other hother version key _ howes
    rw [hwriter] at hother
    cases hother
    exact howes
  | won _ => cases hwins i
  | written _ =>
    obtain ⟨hfinds, hfirst⟩ := Writer.eq_row_of_orderly hwriter horderly
    exact ⟨_, h.written hs hwriter hfinds hfirst⟩
  | paged hcursor => exact ⟨written, h.paged hwriter hcursor⟩
  | scanned => exact ⟨written, h.scanned hwriter⟩
  | put hkey => exact ⟨written, h.put hwriter hkey⟩

theorem snapshotSound_step {s t : State ι} {written : Int} {label : Label ι} (hs : VersionSound s)
    (h : SnapshotSound position s written) (horderly : orderly s label = true)
    (hstep : step position s label = some t) : ∃ written', SnapshotSound position t written' := by
  cases label with
  | request i request =>
    simp only [step, Option.ite_none_right_eq_some] at hstep
    obtain ⟨hnone, hstep⟩ := hstep
    obtain ⟨writer, hstart, rfl⟩ := Option.map_eq_some_iff.1 hstep
    exact ⟨written, h.arrived (Option.isNone_iff_eq_none.1 hnone) hstart⟩
  | writer i c =>
    obtain ⟨writer, hwriter, hstep⟩ := Option.bind_eq_some_iff.1 hstep
    obtain ⟨⟨writer', tables'⟩, hcall, rfl⟩ := Option.map_eq_some_iff.1 hstep
    exact snapshotSound_call hs h horderly hwriter (Writer.moves_of_call hcall)
  | cycle j request =>
    simp only [step, Option.ite_none_right_eq_some, Option.some.injEq] at hstep
    obtain ⟨-, rfl⟩ := hstep
    refine ⟨written, h.of_cycles h.cycles ?_⟩
    apply Store.forall_lookup_set (fun other start _ => h.starts other start)
    intro request version heq
    cases heq
  | start j cycleId startedAt =>
    obtain ⟨start, hstart, hstep⟩ := Option.bind_eq_some_iff.1 hstep
    obtain ⟨⟨start', cycles'⟩, hcall, rfl⟩ := Option.map_eq_some_iff.1 hstep
    rcases Start.call_cases hcall with ⟨rfl, hnew⟩ | ⟨rfl, request, version, rfl, hnone, rfl⟩
    · refine ⟨written, h.of_cycles h.cycles ?_⟩
      apply Store.forall_lookup_set (fun other start _ => h.starts other start)
      intro request version heq
      rw [hnew request version heq, hs.current]
      omega
    · obtain ⟨hnonneg, hle⟩ := h.starts j _ hstart request version rfl
      refine ⟨written, h.of_cycles ?_ ?_⟩
      · intro cycleId' version' hcycle
        by_cases hid : cycleId' = cycleId
        · subst cycleId'
          rw [Store.lookup_write_self, hnone] at hcycle
          cases hcycle
          exact h.settled hnonneg hle (answered_of_orderly hstart horderly)
        · rw [Store.lookup_write_ne _ _ hid] at hcycle
          exact h.cycles cycleId' version' hcycle
      · apply Store.forall_lookup_set (fun other start _ => h.starts other start)
        intro request version heq
        cases heq
  | startFailed cycleId =>
    cases hstep
    refine ⟨written, h.of_cycles ?_ h.starts⟩
    intro cycleId' version hcycle
    rw [map_dictionaryVersion_write cycleId cycleId' map_dictionaryVersion_setStartFailed] at hcycle
    exact h.cycles cycleId' version hcycle
  | finish cycleId newStatus now =>
    cases hstep
    refine ⟨written, h.of_cycles ?_ h.starts⟩
    intro cycleId' version hcycle
    rw [map_dictionaryVersion_write cycleId cycleId' (map_dictionaryVersion_setCycleStatus newStatus now)] at hcycle
    exact h.cycles cycleId' version hcycle

/-- Both invariants hold after every orderly interleaving from the empty tables. -/
theorem sound_of_orderly {labels : List (Label ι)} {s : State ι} (hrun : exec (step position) {} labels = some s)
    (horderly : Guarded (step position) (fun s label => orderly s label = true) {} labels) :
    VersionSound s ∧ ∃ written, SnapshotSound position s written := by
  apply invariant_of_guarded _ _ horderly hrun
  · rintro s label t ⟨hs, written, h⟩ horderly hstep
    exact ⟨versionSound_step hs hstep, snapshotSound_step hs h horderly hstep⟩
  · exact ⟨versionSound_start rfl ∅, 0, snapshotSound_start position⟩

theorem later_step {s t : State ι} {label : Label ι} (h : step position s label = some t) : Later s t := by
  cases label with
  | request i request =>
    simp only [step, Option.ite_none_right_eq_some] at h
    obtain ⟨-, h⟩ := h
    obtain ⟨writer, -, rfl⟩ := Option.map_eq_some_iff.1 h
    exact ⟨List.prefix_rfl, fun _ _ hcycle => hcycle⟩
  | writer i c =>
    obtain ⟨writer, -, h⟩ := Option.bind_eq_some_iff.1 h
    obtain ⟨next, -, rfl⟩ := Option.map_eq_some_iff.1 h
    exact ⟨List.prefix_append _ _, fun _ _ hcycle => hcycle⟩
  | cycle j request =>
    simp only [step, Option.ite_none_right_eq_some, Option.some.injEq] at h
    obtain ⟨-, rfl⟩ := h
    exact ⟨List.prefix_rfl, fun _ _ hcycle => hcycle⟩
  | start j cycleId startedAt =>
    obtain ⟨start, -, h⟩ := Option.bind_eq_some_iff.1 h
    obtain ⟨⟨start', cycles'⟩, hcall, rfl⟩ := Option.map_eq_some_iff.1 h
    rcases Start.call_cases hcall with ⟨rfl, -⟩ | ⟨-, request, version, -, hnone, rfl⟩
    · exact ⟨List.prefix_rfl, fun _ _ hcycle => hcycle⟩
    · refine ⟨List.prefix_rfl, ?_⟩
      intro cycleId' version' hcycle
      have hne : cycleId' ≠ cycleId := by
        rintro rfl
        rw [hnone] at hcycle
        cases hcycle
      show ((s.cycles.write cycleId _).lookup cycleId').map Cycle.dictionaryVersion = some version'
      rw [Store.lookup_write_ne _ _ hne]
      exact hcycle
  | startFailed cycleId =>
    cases h
    refine ⟨List.prefix_rfl, ?_⟩
    intro cycleId' version hcycle
    rw [map_dictionaryVersion_write cycleId cycleId' map_dictionaryVersion_setStartFailed]
    exact hcycle
  | finish cycleId newStatus now =>
    cases h
    refine ⟨List.prefix_rfl, ?_⟩
    intro cycleId' version hcycle
    rw [map_dictionaryVersion_write cycleId cycleId' (map_dictionaryVersion_setCycleStatus newStatus now)]
    exact hcycle

theorem later_of_exec {labels : List (Label ι)} {s t : State ι} (hrun : exec (step position) s labels = some t) :
    Later s t :=
  @relation_of_guarded _ _ (step position) (fun _ _ => True) Later later_refl Later.trans
    (fun _ _ _ _ h => later_step h) s t labels (guarded_of_forall fun _ _ => trivial) hrun

/-- Property 19, for orderly interleavings: at any two moments after the row of a cycle was put, the snapshot of its
version is the same, and it is what the writes that won the versions from 1 up to it make of the empty dictionary. -/
theorem snapshot_immutable_of_orderly {labels labels' : List (Label ι)} {s t : State ι} {cycleId : String}
    {cycle : Cycle} (hrun : exec (step position) {} labels = some s) (hcycle : s.cycles.lookup cycleId = some cycle)
    (hlater : exec (step position) s labels' = some t)
    (horderly : Guarded (step position) (fun s label => orderly s label = true) {} (labels ++ labels')) :
    getDictionarySnapshot t.tables.history cycle.dictionaryVersion =
        getDictionarySnapshot s.tables.history cycle.dictionaryVersion ∧
    getDictionarySnapshot s.tables.history cycle.dictionaryVersion =
        toSnapshot (replay (wonUpTo s.wins cycle.dictionaryVersion)) ∧
    ∀ (k : Nat) win, s.wins[k]? = some win → win.version = k + 1 := by
  obtain ⟨hs, written, hsound⟩ := sound_of_orderly hrun ((guarded_append hrun).1 horderly).1
  obtain ⟨ht, written', hsound'⟩ :=
    sound_of_orderly ((exec_append_of_eq hrun labels').trans hlater) horderly
  have hversion : (s.cycles.lookup cycleId).map Cycle.dictionaryVersion = some cycle.dictionaryVersion := by
    rw [hcycle]
    rfl
  have hsettled := hsound.cycles cycleId _ hversion
  have hsettled' := hsound'.cycles cycleId _ ((later_of_exec hlater).cycles cycleId _ hversion)
  have hle : cycle.dictionaryVersion ≤ s.wins.length := hsettled.le.trans hsound.bounds.2
  have hsnapshot := hsound.snapshot_eq hs hsettled
  refine ⟨?_, hsnapshot, hs.nth⟩
  rw [hsound'.snapshot_eq ht hsettled', (later_of_exec hlater).dictionaryAt_eq hs ht hle, hsnapshot]

/-! ### A cycle started during a write -/

def finishWrite (i : Nat) (keywords : List String) : List (Label Nat) :=
  [.writer i .next, .writer i (.page none)] ++ keywords.map fun keyword => .writer i (.put ("SAFE", keyword))

def startCycle (j : Nat) (cycleId : String) : List (Label Nat) :=
  .cycle j { mode := .all, retryCount := .int 3, retryIntervalMinutes := .int 5 } ::
    List.replicate 6 (.start j cycleId 0)

def orderlyStart : List (Label Nat) :=
  [.request 0 (post "ok" (.int 0)), .writer 0 .next] ++ finishWrite 0 ["ok"] ++ startCycle 0 "c1"

def laterWrite : List (Label Nat) :=
  [.request 1 (post "fine" (.int 1)), .writer 1 .next] ++ finishWrite 1 ["ok", "fine"]

theorem snapshot_immutable_of_orderly_start :
    ∃ s t cycle, exec (step fun _ => 0) {} orderlyStart = some s ∧ exec (step fun _ => 0) s laterWrite = some t ∧
      s.cycles.lookup "c1" = some cycle ∧ cycle.dictionaryVersion = 1 ∧
      getDictionarySnapshot t.tables.history cycle.dictionaryVersion =
        getDictionarySnapshot s.tables.history cycle.dictionaryVersion :=
  ⟨_, _, _, rfl, rfl, rfl, rfl,
    (@snapshot_immutable_of_orderly Nat _ (fun _ => 0) orderlyStart laterWrite _ _ "c1" _ rfl rfl rfl (by decide)).1⟩

/-- The cycle reads the second version between its increment and its snapshot. -/
def earlyStart : List (Label Nat) :=
  [.request 0 (post "ok" (.int 0)), .writer 0 .next] ++ finishWrite 0 ["ok"] ++
    [.request 1 (post "fine" (.int 1)), .writer 1 .next] ++ startCycle 0 "c1"

/-- Every call succeeds and the cycle is accepted with version 2, whose snapshot is first empty and later not. -/
theorem snapshot_of_accepted_cycle_changes :
    ∃ s t cycle, exec (step fun _ => 0) {} earlyStart = some s ∧
      exec (step fun _ => 0) s (finishWrite 1 ["ok", "fine"]) = some t ∧
      s.cycles.lookup "c1" = some cycle ∧ cycle.dictionaryVersion = 2 ∧
      getDictionarySnapshot s.tables.history cycle.dictionaryVersion = {} ∧
      getDictionarySnapshot t.tables.history cycle.dictionaryVersion = { safe := ["fine", "ok"] } :=
  ⟨_, _, _, rfl, rfl, rfl, rfl, by decide, by decide⟩

end Dictionary

end SafetyConfirmation
