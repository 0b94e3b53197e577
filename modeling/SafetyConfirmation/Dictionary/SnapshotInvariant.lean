import SafetyConfirmation.Dictionary.Replay

/-!
# What the history owes a version

The lock orders the versions, but not the row writes, the scans and the batches that follow, nor the cycles that read
them. `orderly` says which order these have to come in, and `SnapshotSound` what then holds at every moment.
-/

namespace SafetyConfirmation

namespace Dictionary

open KeyedStore StepMachine

variable {ι : Type}

namespace Writer

/-- The version of a request that has won it and has not read the whole table since. -/
def unscanned : Writer ι → Option Int
  | row _ version | scan _ version _ _ => some version
  | _ => none

/-- The request has still to put the row of this key under this version. -/
def Owes (version : Int) (key : Key) : Writer ι → Prop
  | scan _ version' _ _ => version' = version
  | batch _ version' pending => version' = version ∧ key ∈ pending
  | _ => False

end Writer

/-- A POST expects no row of its keyword, PATCH and DELETE expect one. -/
def KeywordWrite.finds (w : KeywordWrite) (row : Option Row) : Bool :=
  match w.op with
  | .create => row.isNone
  | .update | .delete => row.isSome

/-- A row is written only where it finds what it expects and when every request with an earlier version has read the
whole table; a cycle's row is put only when the request that won its version has been answered. -/
def orderly (s : State ι) : Label ι → Bool
  | .writer i .next =>
    match s.writers.lookup i with
    | some (.row w version) =>
      w.finds (s.tables.dictionary.lookup w.key) &&
        s.writers.rows.all fun entry => entry.2.unscanned.all fun version' => decide (version ≤ version')
    | _ => true
  | .start j _ _ =>
    match s.starts.lookup j with
    | some (.put _ version) => s.writers.rows.all fun entry => entry.2.held.all fun held => held.2 != version
    | _ => true
  | _ => true

theorem Writer.held_of_owes {version : Int} {key : Key} {writer : Writer ι} (h : writer.Owes version key) :
    ∃ w, writer.held = some (w, version) := by
  cases writer with
  | scan w version' _ _ =>
    have hversion : version' = version := h
    subst version'
    exact ⟨w, rfl⟩
  | batch w version' _ =>
    have hversion : version' = version := h.1
    subst version'
    exact ⟨w, rfl⟩
  | _ => exact h.elim

/-! ### The invariant -/

/-- The version has been written, and no request holds it any more. -/
structure Settled (s : State ι) (written version : Int) : Prop where
  nonneg : 0 ≤ version
  le : version ≤ written
  answered : ∀ i writer, s.writers.lookup i = some writer → ∀ held, writer.held = some held → held.2 ≠ version

theorem Settled.set {s : State ι} {tables' : Tables} {written version : Int} {i : Nat} {writer' : Writer ι}
    (h : Settled s written version) (hheld : ∀ held, writer'.held = some held → held.2 ≠ version) :
    Settled { s with tables := tables', writers := s.writers.set i (some writer') } written version where
  nonneg := h.nonneg
  le := h.le
  answered := Store.forall_lookup_set (fun j other _ => h.answered j other) hheld

variable [LinearOrder ι] (position : Key → ι)

/-- What the phase of a request says about the version it holds, when the rows of the versions up to `written` have
been written. -/
def Writer.PhaseSound (wins : List Win) (written : Int) : Writer ι → Prop
  | row _ version => written < version
  | scan _ version cursor found => version = written ∧ 1 ≤ version ∧
      ∀ key, key ∈ found ↔ key ∈ dictionaryAt wins version ∧ ∃ c ∈ cursor, position key ≤ c
  | batch _ version pending => version ≤ written ∧ 1 ≤ version ∧ ∀ key ∈ pending, key ∈ dictionaryAt wins version
  | _ => True

namespace Writer.PhaseSound

variable {position}

theorem of_dictionaryAt_eq {wins wins' : List Win} {written : Int} {writer : Writer ι}
    (h : writer.PhaseSound position wins written)
    (hsame : ∀ version, version ≤ written → dictionaryAt wins' version = dictionaryAt wins version) :
    writer.PhaseSound position wins' written := by
  cases writer with
  | scan w version cursor found =>
    obtain ⟨hversion, hpos, hfound⟩ := h
    refine ⟨hversion, hpos, ?_⟩
    rw [hsame version (by omega)]
    exact hfound
  | batch w version pending =>
    obtain ⟨hversion, hpos, hpending⟩ := h
    refine ⟨hversion, hpos, ?_⟩
    rw [hsame version (by omega)]
    exact hpending
  | _ => exact h

/-- The row write of the next version keeps the phases of the other requests: the earlier scans are over, and no other
request waits to write this version. -/
theorem of_written {wins : List Win} {written version : Int} {writer : Writer ι}
    (h : writer.PhaseSound position wins written) (hlater : written < version)
    (hfirst : ∀ version' ∈ writer.unscanned, version ≤ version') (hother : ∀ w, writer ≠ .row w version) :
    writer.PhaseSound position wins version := by
  cases writer with
  | row w version' =>
    have hle : version ≤ version' := hfirst version' rfl
    have hne : version ≠ version' := fun heq => hother w (by rw [heq])
    exact lt_of_le_of_ne hle hne
  | scan w version' cursor found =>
    have hle : version ≤ version' := hfirst version' rfl
    have hversion : version' = written := h.1
    omega
  | batch w version' pending =>
    obtain ⟨hversion, hpos, hpending⟩ := h
    exact ⟨by omega, hpos, hpending⟩
  | _ => trivial

end Writer.PhaseSound

/-- The rows of the versions up to `written` have been written, in this order; every version up to there has its rows
in the history, or a request that owes them; and the later versions wait for their row writes. -/
structure SnapshotSound (s : State ι) (written : Int) : Prop where
  bounds : 0 ≤ written ∧ written ≤ s.wins.length
  rows : ∀ key, key.1 ≠ "META" →
    ((s.tables.dictionary.lookup key).isSome = true ↔ key ∈ dictionaryAt s.wins written)
  waiting : ∀ version, written < version → version ≤ s.wins.length →
    ∃ i writer, s.writers.lookup i = some writer ∧ ∃ w, writer = .row w version
  phases : ∀ i writer, s.writers.lookup i = some writer → writer.PhaseSound position s.wins written
  history : ∀ version sortKey key, s.tables.history.lookup (version, sortKey) = some key →
    sortKey = categoryKeyword key ∧ 1 ≤ version ∧ version ≤ written ∧ key ∈ dictionaryAt s.wins version
  complete : ∀ version, 1 ≤ version → version ≤ written → ∀ key ∈ dictionaryAt s.wins version,
    s.tables.history.lookup (version, categoryKeyword key) = some key ∨
      ∃ i writer, s.writers.lookup i = some writer ∧ writer.Owes version key
  cycles : ∀ cycleId version, (s.cycles.lookup cycleId).map Cycle.dictionaryVersion = some version →
    Settled s written version
  starts : ∀ j start, s.starts.lookup j = some start → ∀ request version, start = .put request version →
    0 ≤ version ∧ version ≤ (s.wins.length : Int)

theorem snapshotSound_start : SnapshotSound position ({} : State ι) 0 where
  bounds := ⟨by omega, by simp⟩
  rows key _ := by simp [dictionaryAt, wonUpTo, replay]
  waiting version h h' := by
    simp only [List.length_nil] at h'
    omega
  phases _ _ h := by cases h
  history _ _ _ h := by cases h
  complete version h h' := by omega
  cycles _ _ h := by cases h
  starts _ _ h := by cases h

variable {position}

/-- A settled version is read as the dictionary its writes make. -/
theorem SnapshotSound.snapshot_eq {s : State ι} {written version : Int} (h : SnapshotSound position s written)
    (hs : VersionSound s) (hsettled : Settled s written version) :
    getDictionarySnapshot s.tables.history version = toSnapshot (dictionaryAt s.wins version) := by
  apply getDictionarySnapshot_eq _ (nodup_replay _)
  intro sortKey key
  constructor
  · intro hrow
    obtain ⟨hsort, -, -, hkey⟩ := h.history version sortKey key hrow
    exact ⟨hkey, hsort⟩
  · rintro ⟨hkey, rfl⟩
    have hkey : key ∈ dictionaryAt s.wins version := hkey
    rcases lt_or_ge version 1 with hzero | hpos
    · rw [hs.dictionaryAt_of_nonpos (by omega)] at hkey
      cases hkey
    · rcases h.complete version hpos hsettled.le key hkey with hrow | ⟨i, writer, hwriter, howes⟩
      · exact hrow
      · obtain ⟨w, hheld⟩ := Writer.held_of_owes howes
        exact absurd rfl (hsettled.answered i writer hwriter _ hheld)

/-! ### The calls of a writer -/

/-- A call that neither wins a version nor writes a row: the request keeps the version it has or gives it up, and what
it owed it still owes or has put. -/
theorem SnapshotSound.moved {s : State ι} {written : Int} {i : Nat} {writer' : Writer ι} {history : History}
    (h : SnapshotSound position s written) (hrow : ∀ w version, s.writers.lookup i ≠ some (.row w version))
    (hheld : ∀ held, writer'.held = some held → ∃ writer, s.writers.lookup i = some writer ∧ writer.held = some held)
    (hphase : writer'.PhaseSound position s.wins written)
    (hhistory : ∀ version sortKey key, history.lookup (version, sortKey) = some key →
      sortKey = categoryKeyword key ∧ 1 ≤ version ∧ version ≤ written ∧ key ∈ dictionaryAt s.wins version)
    (hkept : ∀ version, ∀ key ∈ dictionaryAt s.wins version,
      s.tables.history.lookup (version, categoryKeyword key) = some key →
        history.lookup (version, categoryKeyword key) = some key)
    (howes : ∀ writer, s.writers.lookup i = some writer → ∀ version, ∀ key ∈ dictionaryAt s.wins version,
      writer.Owes version key → history.lookup (version, categoryKeyword key) = some key ∨ writer'.Owes version key) :
    SnapshotSound position { s with
      tables := { s.tables with history }, writers := s.writers.set i (some writer') } written where
  bounds := h.bounds
  rows := h.rows
  waiting version hlater hle := by
    apply Store.exists_lookup_set _ (h.waiting version hlater hle)
    rintro writer hwriter ⟨w, rfl⟩
    exact absurd hwriter (hrow w version)
  phases := Store.forall_lookup_set (fun j other _ => h.phases j other) hphase
  history := hhistory
  complete version hpos hle key hkey := by
    rcases h.complete version hpos hle key hkey with hdone | howed
    · exact .inl (hkept version key hkey hdone)
    · by_cases hput : history.lookup (version, categoryKeyword key) = some key
      · exact .inl hput
      · right
        apply Store.exists_lookup_set _ howed
        intro writer hwriter hold
        exact (howes writer hwriter version key hkey hold).resolve_left hput
  cycles cycleId version hcycle := by
    have hsettled := h.cycles cycleId version hcycle
    apply hsettled.set
    intro held hnew
    obtain ⟨writer, hwriter, hold⟩ := hheld held hnew
    exact hsettled.answered i writer hwriter held hold
  starts := h.starts

theorem SnapshotSound.moved_in_place {s : State ι} {written : Int} {i : Nat} {writer' : Writer ι}
    (h : SnapshotSound position s written) (hrow : ∀ w version, s.writers.lookup i ≠ some (.row w version))
    (hheld : ∀ held, writer'.held = some held → ∃ writer, s.writers.lookup i = some writer ∧ writer.held = some held)
    (hphase : writer'.PhaseSound position s.wins written)
    (howes : ∀ writer, s.writers.lookup i = some writer → ∀ version, ∀ key ∈ dictionaryAt s.wins version,
      writer.Owes version key → writer'.Owes version key) :
    SnapshotSound position { s with writers := s.writers.set i (some writer') } written :=
  h.moved hrow hheld hphase h.history (fun _ _ _ hdone => hdone)
    (fun writer hwriter version key hkey hold => .inr (howes writer hwriter version key hkey hold))

theorem mem_page {dictionary : Store Key Row} {cursor upTo : Option ι} {key : Key} :
    key ∈ Writer.page position dictionary cursor upTo ↔
      key ∈ scanAllActive dictionary ∧ (∀ c ∈ cursor, c < position key) ∧ ∀ u ∈ upTo, position key ≤ u := by
  rw [Writer.page, List.mem_filter, Bool.and_eq_true]
  cases cursor <;> cases upTo <;> simp

/-- The active keys are those of the writes whose rows have been written. -/
theorem SnapshotSound.mem_scanAllActive_iff {s : State ι} {written : Int} (h : SnapshotSound position s written)
    (key : Key) : key ∈ scanAllActive s.tables.dictionary ↔ key ∈ dictionaryAt s.wins written := by
  rw [mem_scanAllActive]
  constructor
  · rintro ⟨hrow, hmeta⟩
    exact (h.rows key hmeta).1 hrow
  · intro hkey
    have hmeta := (isKeywordKey_of_mem_replay hkey).ne_metaKey
    exact ⟨(h.rows key hmeta).2 hkey, hmeta⟩

theorem SnapshotSound.paged {s : State ι} {written : Int} {i : Nat} {w : KeywordWrite} {version : Int}
    {cursor : Option ι} {found : List Key} {upTo : ι} (h : SnapshotSound position s written)
    (hwriter : s.writers.lookup i = some (.scan w version cursor found))
    (hcursor : cursor.all (fun c => decide (c < upTo)) = true) :
    SnapshotSound position { s with
      writers := s.writers.set i (some (.scan w version (some upTo)
        (found ++ Writer.page position s.tables.dictionary cursor (some upTo)))) } written := by
  obtain ⟨rfl, hpos, hfound⟩ := h.phases i _ hwriter
  apply h.moved_in_place (by simp [hwriter])
  · exact fun held hheld => ⟨_, hwriter, hheld⟩
  · refine ⟨rfl, hpos, ?_⟩
    intro key
    rw [List.mem_append, hfound, mem_page, h.mem_scanAllActive_iff]
    have hbefore : ∀ c ∈ cursor, c < upTo := by
      intro c hc
      rw [Option.mem_def.1 hc] at hcursor
      exact of_decide_eq_true hcursor
    cases cursor with
    | none => simp
    | some c =>
      have hc := hbefore c rfl
      simp only [Option.mem_some_iff, exists_eq_left', forall_eq']
      constructor
      · rintro (⟨hkey, hle⟩ | ⟨hkey, -, hle⟩)
        · exact ⟨hkey, hle.trans hc.le⟩
        · exact ⟨hkey, hle⟩
      · rintro ⟨hkey, hle⟩
        rcases le_or_gt (position key) c with hold | hnew
        · exact .inl ⟨hkey, hold⟩
        · exact .inr ⟨hkey, hnew, hle⟩
  · intro writer hold version' key _ howes
    rw [hwriter] at hold
    cases hold
    exact howes

theorem SnapshotSound.scanned {s : State ι} {written : Int} {i : Nat} {w : KeywordWrite} {version : Int}
    {cursor : Option ι} {found : List Key} (h : SnapshotSound position s written)
    (hwriter : s.writers.lookup i = some (.scan w version cursor found)) :
    SnapshotSound position { s with
      writers := s.writers.set i (some (.afterPut w version
        (found ++ Writer.page position s.tables.dictionary cursor none))) } written := by
  obtain ⟨rfl, hpos, hfound⟩ := h.phases i _ hwriter
  have hall : ∀ key, key ∈ found ++ Writer.page position s.tables.dictionary cursor none ↔
      key ∈ dictionaryAt s.wins version := by
    intro key
    rw [List.mem_append, hfound, mem_page, h.mem_scanAllActive_iff]
    cases cursor with
    | none => simp
    | some c =>
      simp only [Option.mem_some_iff, exists_eq_left', forall_eq']
      constructor
      · rintro (⟨hkey, -⟩ | ⟨hkey, -, -⟩) <;> exact hkey
      · intro hkey
        rcases le_or_gt (position key) c with hold | hnew
        · exact .inl ⟨hkey, hold⟩
        · exact .inr ⟨hkey, hnew, fun _ hnone => by cases hnone⟩
  apply h.moved_in_place (by simp [hwriter])
  · intro held hheld
    rw [held_afterPut hheld]
    exact ⟨_, hwriter, rfl⟩
  · rw [Writer.afterPut]
    split
    · trivial
    · exact ⟨le_refl _, hpos, fun key hkey => (hall key).1 hkey⟩
  · intro writer hold version' key hkey howes
    rw [hwriter] at hold
    cases hold
    have hversion : version = version' := howes
    subst version'
    have hpending := (hall key).2 hkey
    rw [Writer.afterPut, if_neg (List.ne_nil_of_mem hpending)]
    exact ⟨rfl, hpending⟩

theorem SnapshotSound.put {s : State ι} {written : Int} {i : Nat} {w : KeywordWrite} {version : Int}
    {pending : List Key} {key : Key} (h : SnapshotSound position s written)
    (hwriter : s.writers.lookup i = some (.batch w version pending)) (hkey : key ∈ pending) :
    SnapshotSound position { s with
      tables := { s.tables with history := putHistoryRow s.tables.history version key }
      writers := s.writers.set i (some (.afterPut w version (pending.erase key))) } written := by
  obtain ⟨hle, hpos, hpending⟩ := h.phases i _ hwriter
  have hself : (putHistoryRow s.tables.history version key).lookup (version, categoryKeyword key) = some key :=
    Store.lookup_write_self ..
  apply h.moved (by simp [hwriter])
  · intro held hheld
    rw [held_afterPut hheld]
    exact ⟨_, hwriter, rfl⟩
  · rw [Writer.afterPut]
    split
    · trivial
    · exact ⟨hle, hpos, fun key' hkey' => hpending key' (List.mem_of_mem_erase hkey')⟩
  · intro version' sortKey key' hrow
    by_cases hsame : (version', sortKey) = (version, categoryKeyword key)
    · rw [hsame, hself] at hrow
      cases hrow
      cases hsame
      exact ⟨rfl, hpos, hle, hpending key hkey⟩
    · rw [putHistoryRow, Store.lookup_write_ne _ _ hsame] at hrow
      exact h.history version' sortKey key' hrow
  · intro version' key' hkey' hrow
    by_cases hsame : (version', categoryKeyword key') = (version, categoryKeyword key)
    · have heq : key' = key := categoryKeyword_inj (isKeywordKey_of_mem_replay hkey')
        (isKeywordKey_of_mem_replay (hpending key hkey)) (congrArg Prod.snd hsame)
      rw [hsame, hself, heq]
    · rw [putHistoryRow, Store.lookup_write_ne _ _ hsame]
      exact hrow
  · intro writer hold version' key' hkey' howes
    rw [hwriter] at hold
    cases hold
    obtain ⟨hversion, hmem⟩ := howes
    subst version'
    by_cases heq : key' = key
    · subst key'
      exact .inl hself
    · right
      have hrest : key' ∈ pending.erase key := (List.mem_erase_of_ne heq).2 hmem
      rw [Writer.afterPut, if_neg (List.ne_nil_of_mem hrest)]
      exact ⟨rfl, hrest⟩

theorem SnapshotSound.won {s : State ι} {written : Int} {i : Nat} {w : KeywordWrite} {expected : ExpectedVersion}
    (h : SnapshotSound position s written) (hs : VersionSound s)
    (hwriter : s.writers.lookup i = some (.increment w expected))
    (hwon : (incrementVersion expected).condition (s.tables.dictionary.lookup metaKey) = true) :
    SnapshotSound position { s with
      tables := { s.tables with dictionary := s.tables.dictionary.write metaKey (incrementVersion expected) }
      writers := s.writers.set i (some (.row w (expected.toInt + 1)))
      wins := s.wins ++ [{ request := i, version := expected.toInt + 1, write := w }] } written := by
  have hexpected : expected.toInt = s.wins.length := by
    rw [← hs.current]
    exact incrementVersion_condition hwon
  obtain ⟨hnonneg, hle⟩ := h.bounds
  let win : Win := { request := i, version := expected.toInt + 1, write := w }
  have hlength : ((s.wins ++ [win]).length : Int) = s.wins.length + 1 := by
    rw [List.length_append]
    rfl
  have hsame : ∀ version, version ≤ written →
      dictionaryAt (s.wins ++ [win]) version = dictionaryAt s.wins version := by
    intro version hversion
    apply dictionaryAt_append
    intro win' hwin'
    rw [List.mem_singleton.1 hwin']
    show version < expected.toInt + 1
    omega
  constructor
  · refine ⟨hnonneg, ?_⟩
    show written ≤ ((s.wins ++ [win]).length : Int)
    omega
  · intro key hmeta
    have hne : key ≠ metaKey := fun heq => hmeta (congrArg Prod.fst heq)
    show (((s.tables.dictionary.write metaKey (incrementVersion expected)).lookup key).isSome = true ↔ _)
    rw [Store.lookup_write_ne _ _ hne, hsame written (le_refl _)]
    exact h.rows key hmeta
  · intro version hlater hversion
    have hversion : version ≤ ((s.wins ++ [win]).length : Int) := hversion
    by_cases hnew : version = expected.toInt + 1
    · exact ⟨i, _, Store.lookup_set_self .., w, by rw [hnew]⟩
    · apply Store.exists_lookup_set_of_lookup hwriter _ (h.waiting version hlater (by omega))
      rintro ⟨w', heq⟩
      cases heq
  · apply Store.forall_lookup_set
    · exact fun j other _ hother => (h.phases j other hother).of_dictionaryAt_eq hsame
    · show written < expected.toInt + 1
      omega
  · intro version sortKey key hrow
    obtain ⟨hsort, hpos, hversion, hkey⟩ := h.history version sortKey key hrow
    rw [hsame version hversion]
    exact ⟨hsort, hpos, hversion, hkey⟩
  · intro version hpos hversion key hkey
    rw [hsame version hversion] at hkey
    rcases h.complete version hpos hversion key hkey with hdone | howed
    · exact .inl hdone
    · exact .inr (Store.exists_lookup_set_of_lookup hwriter (fun howes => howes.elim) howed)
  · intro cycleId version hcycle
    have hsettled := h.cycles cycleId version hcycle
    have hversion := hsettled.le
    refine ⟨hsettled.nonneg, hversion, ?_⟩
    apply Store.forall_lookup_set (fun j other _ => hsettled.answered j other)
    intro held hheld
    cases hheld
    show expected.toInt + 1 ≠ version
    omega
  · intro j start hstart request version heq
    have hbounds := h.starts j start hstart request version heq
    refine ⟨hbounds.1, ?_⟩
    show version ≤ ((s.wins ++ [win]).length : Int)
    omega

theorem KeywordWrite.condition_of_finds {w : KeywordWrite} {row : Option Row} (h : w.finds row = true) (version : Int) :
    (w.write version).condition row = true := by
  unfold KeywordWrite.finds at h
  unfold KeywordWrite.write
  cases hop : w.op with
  | create => simpa [hop] using h
  | update => simp
  | delete => simpa [hop] using h

/-- The next version's row is written once the scans of the earlier ones are over. -/
theorem SnapshotSound.written {s : State ι} {written : Int} {i : Nat} {w : KeywordWrite} {version : Int}
    (h : SnapshotSound position s written) (hs : VersionSound s) (hwriter : s.writers.lookup i = some (.row w version))
    (hfinds : w.finds (s.tables.dictionary.lookup w.key) = true)
    (hfirst : ∀ j other, s.writers.lookup j = some other → ∀ version' ∈ other.unscanned, version ≤ version') :
    SnapshotSound position { s with
      tables := { s.tables with dictionary := s.tables.dictionary.write w.key (w.write version) }
      writers := s.writers.set i (some (.scan w version none [])) } version := by
  have hwin := hs.held i _ hwriter w version rfl
  obtain ⟨hpos, hle⟩ : 1 ≤ version ∧ version ≤ s.wins.length := hs.version_pos hwin
  obtain ⟨hnonneg, -⟩ := h.bounds
  have hphase : written < version := h.phases i _ hwriter
  have hnext : version = written + 1 := by
    by_contra hne
    obtain ⟨j, other, hother, w', rfl⟩ := h.waiting (written + 1) (by omega) (by omega)
    have hearlier := hfirst j _ hother (written + 1) rfl
    omega
  have happly : dictionaryAt s.wins version = w.apply (dictionaryAt s.wins written) := by
    have hprevious : version - 1 = written := by omega
    rw [← hprevious]
    exact hs.dictionaryAt_of_win hwin
  constructor
  · exact ⟨by omega, hle⟩
  · intro key hmeta
    rw [happly]
    apply isSome_lookup_write (nodup_replay _) hmeta h.rows (KeywordWrite.condition_of_finds hfinds version)
    intro hop
    simpa [KeywordWrite.finds, hop] using hfinds
  · intro version' hlater hversion'
    apply Store.exists_lookup_set_of_lookup hwriter _ (h.waiting version' (by omega) hversion')
    rintro ⟨w', heq⟩
    cases heq
    omega
  · apply Store.forall_lookup_set
    · intro j other hj hother
      apply (h.phases j other hother).of_written hphase (hfirst j other hother)
      rintro w' rfl
      have hwin' := hs.held j _ hother w' version rfl
      exact hj (congrArg Win.request (hs.win_unique hwin' hwin rfl))
    · refine ⟨rfl, hpos, ?_⟩
      intro key
      simp
  · intro version' sortKey key hrow
    obtain ⟨hsort, hpos', hversion', hkey⟩ := h.history version' sortKey key hrow
    exact ⟨hsort, hpos', by omega, hkey⟩
  · intro version' hpos' hversion' key hkey
    by_cases heq : version' = version
    · exact .inr ⟨i, _, Store.lookup_set_self .., heq.symm⟩
    · rcases h.complete version' hpos' (by omega) key hkey with hdone | howed
      · exact .inl hdone
      · exact .inr (Store.exists_lookup_set_of_lookup hwriter (fun howes => howes.elim) howed)
  · intro cycleId version' hcycle
    have hsettled := h.cycles cycleId version' hcycle
    have hversion' := hsettled.le
    refine ⟨hsettled.nonneg, by omega, ?_⟩
    apply Store.forall_lookup_set (fun j other _ => hsettled.answered j other)
    intro held hheld
    exact hsettled.answered i _ hwriter held hheld
  · exact h.starts

/-! ### The other steps -/

theorem SnapshotSound.arrived {s : State ι} {written : Int} {i : Nat} {request : Request} {writer : Writer ι}
    (h : SnapshotSound position s written) (hnone : s.writers.lookup i = none)
    (hstart : Writer.start request = some writer) :
    SnapshotSound position { s with writers := s.writers.set i (some writer) } written := by
  have hheld := (Writer.start_spec hstart).1
  apply h.moved_in_place (by simp [hnone])
  · intro held hnew
    rw [hheld] at hnew
    cases hnew
  · cases writer with
    | row _ _ | scan _ _ _ _ | batch _ _ _ => cases hheld
    | _ => trivial
  · intro other hother
    rw [hnone] at hother
    cases hother

theorem SnapshotSound.of_cycles {s : State ι} {written : Int} {cycles : Store String Cycle} {starts : Store Nat Start}
    (h : SnapshotSound position s written)
    (hcycles : ∀ cycleId version, (cycles.lookup cycleId).map Cycle.dictionaryVersion = some version →
      Settled s written version)
    (hstarts : ∀ j start, starts.lookup j = some start → ∀ request version, start = .put request version →
      0 ≤ version ∧ version ≤ (s.wins.length : Int)) :
    SnapshotSound position { s with cycles, starts } written where
  bounds := h.bounds
  rows := h.rows
  waiting := h.waiting
  phases := h.phases
  history := h.history
  complete := h.complete
  cycles cycleId version hcycle :=
    have hsettled := hcycles cycleId version hcycle
    ⟨hsettled.nonneg, hsettled.le, hsettled.answered⟩
  starts := hstarts

theorem SnapshotSound.settled {s : State ι} {written version : Int} (h : SnapshotSound position s written)
    (hnonneg : 0 ≤ version) (hle : version ≤ s.wins.length)
    (hanswered : ∀ i writer, s.writers.lookup i = some writer → ∀ held, writer.held = some held → held.2 ≠ version) :
    Settled s written version := by
  refine ⟨hnonneg, ?_, hanswered⟩
  by_contra hlater
  obtain ⟨i, writer, hwriter, w, rfl⟩ := h.waiting version (by omega) hle
  exact hanswered i _ hwriter _ rfl rfl

theorem map_dictionaryVersion_write {cycles : Store String Cycle} {w : Write Cycle} (cycleId other : String)
    (hkeep : ∀ row, (w.run row).map Cycle.dictionaryVersion = row.map Cycle.dictionaryVersion) :
    ((cycles.write cycleId w).lookup other).map Cycle.dictionaryVersion =
      (cycles.lookup other).map Cycle.dictionaryVersion := by
  by_cases heq : other = cycleId
  · subst other
    rw [Store.lookup_write_self, hkeep]
  · rw [Store.lookup_write_ne _ _ heq]

theorem map_dictionaryVersion_setStartFailed (row : Option Cycle) :
    (Cycle.setStartFailed.run row).map Cycle.dictionaryVersion = row.map Cycle.dictionaryVersion := by
  cases row <;> rfl

theorem map_dictionaryVersion_setCycleStatus (newStatus : CycleStatus) (now : Instant) (row : Option Cycle) :
    ((Cycle.setCycleStatus newStatus now).run row).map Cycle.dictionaryVersion = row.map Cycle.dictionaryVersion := by
  rw [Write.run]
  split <;> cases row <;> rfl

theorem Start.call_cases {tables : Tables} {cycles cycles' : Store String Cycle} {cycleId : String}
    {startedAt : Instant} {start start' : Start} (h : start.call tables cycles cycleId startedAt = some (start', cycles')) :
    (cycles' = cycles ∧ ∀ request version, start' = .put request version → version = currentVersion tables.dictionary) ∨
    (start' = .accepted cycleId ∧ ∃ request version, start = .put request version ∧ cycles.lookup cycleId = none ∧
      cycles' = cycles.write cycleId (.put (CycleApi.newCycle request version startedAt))) := by
  unfold Start.call at h
  split at h
  · dsimp only at h
    split at h
    · cases h
      refine .inl ⟨rfl, fun _ _ heq => ?_⟩
      split at heq <;> cases heq
    · cases h
      exact .inl ⟨rfl, fun _ _ heq => by cases heq⟩
  · split at h
    · cases h
      exact .inl ⟨rfl, fun _ _ heq => by cases heq⟩
    · cases h
      exact .inl ⟨rfl, fun _ _ heq => by cases heq⟩
  · cases h
    refine .inl ⟨rfl, ?_⟩
    intro request version heq
    cases heq
    rfl
  · rename_i request version
    simp only [Option.ite_none_right_eq_some, Option.some.injEq, Prod.mk.injEq] at h
    obtain ⟨hnone, rfl, rfl⟩ := h
    exact .inr ⟨rfl, request, version, rfl, Option.isNone_iff_eq_none.1 hnone, rfl⟩
  · cases h

end Dictionary

end SafetyConfirmation
