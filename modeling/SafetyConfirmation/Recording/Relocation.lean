import SafetyConfirmation.Lib.StepMachine
import SafetyConfirmation.Recording.Relocator

/-!
# Relocating the recordings of a campaign

ConnectDispatcher places the calls of all employees, Connect writes a recording for a contact, and RecordingRelocator
runs on each of them later. The number of the attempt that placed a contact is not written down: the relocator takes
`callAttempts` as it is when it runs, from the row whose `contactId` is the contact then.
-/

namespace SafetyConfirmation

open KeyedStore StepMachine

namespace Response

def contactIdOf (row : Option Response) : Option String := row.bind contactId

end Response

namespace RowWrite

/-- The two writes of ConnectDispatcher. -/
def isDispatch : RowWrite → Bool
  | recordSuccess .. | recordError _ => true
  | _ => false

/-- Only a placed call changes the contact of a row. -/
theorem contactIdOf_run {w : RowWrite} (hw : ∀ contactId now, w ≠ .recordSuccess contactId now)
    (row : Option Response) : Response.contactIdOf (w.run row) = Response.contactIdOf row := by
  refine Write.run_induction (motive := fun row' => Response.contactIdOf row' = Response.contactIdOf row) rfl ?_
  intro hcondition
  cases w with
  | recordSuccess contactId now => exact absurd rfl (hw contactId now)
  | putInbound =>
    cases row with
    | none => rfl
    | some row => cases hcondition
  | _ => cases row <;> rfl

end RowWrite

namespace RecordingRelocator

open Recording

/-- The row of a call. Both ids are UUIDs. -/
@[ext]
structure CallKey where
  cycleId : String
  employeeId : String
  isSegment_cycleId : IsSegment cycleId
  isSegment_employeeId : IsSegment employeeId
  deriving DecidableEq

/-- The attempt that placed a contact. -/
structure Placement where
  call : CallKey
  attempt : Nat
  deriving DecidableEq

structure Config where
  bucket : String
  connectRecordingsPrefix : String
  bucket_ne_empty : bucket ≠ ""

variable {β : Type}

structure ContactRecording (β : Type) where
  contactId : String
  object : β

structure Run where
  contactId : String
  sourceKey : String
  result : Except PyError Relocation

/-- `attempts`, `placed`, `recorded` and `runs` keep what happened: the calls dispatched, the attempt of each contact,
what Connect wrote under each native key, and the runs of the relocator. -/
structure State (β : Type) where
  responses : Store (String × String) Response
  objects : Store (String × String) β
  attempts : List CallKey := []
  placed : Store String Placement := ∅
  recorded : Store String (ContactRecording β) := ∅
  runs : List Run := []

inductive Label (β : Type) where
  | place (call : CallKey) (contactId : String) (now : Instant)
  | refuse (call : CallKey) (now : Instant)
  | write (call : CallKey) (w : RowWrite)
  | record (key : String) (object : β)
  | deliver (key : String)

namespace CallKey

def key (call : CallKey) : String × String := (call.cycleId, call.employeeId)

end CallKey

namespace Placement

def targetKey (placement : Placement) : String :=
  outboundKey placement.call.cycleId placement.call.employeeId (toString placement.attempt)

theorem targetKey_injective {placement placement' : Placement} (h : placement.targetKey = placement'.targetKey) :
    placement = placement' := by
  obtain ⟨call, attempt⟩ := placement
  obtain ⟨call', attempt'⟩ := placement'
  obtain ⟨hcycle, hemployee, hattempt⟩ := outboundKey_injective call.isSegment_cycleId call.isSegment_employeeId
    call'.isSegment_cycleId call'.isSegment_employeeId h
  cases CallKey.ext hcycle hemployee
  cases hattempt
  rfl

theorem targetKey_ne_of_parse {key : String} {info : ConnectNativeKeyInfo} (h : parseConnectNativeKey key = some info)
    (bucket : String) (placement : Placement) : (bucket, placement.targetKey) ≠ (bucket, key) := by
  intro heq
  cases heq
  rw [targetKey, parseConnectNativeKey_outboundKey placement.call.isSegment_cycleId
    placement.call.isSegment_employeeId] at h
  cases h

end Placement

def start (responses : Store (String × String) Response) (objects : Store (String × String) β) : State β :=
  { responses, objects }

/-- Connect gives every call a contact of its own, and writes each recording under a native key of its contact. -/
def step (config : Config) (s : State β) : Label β → Option (State β)
  | .place call contactId now =>
    match s.placed.lookup contactId with
    | some _ => none
    | none => some { s with
        responses := s.responses.write call.key (RowWrite.recordSuccess contactId now).write
        attempts := call :: s.attempts
        placed := s.placed.set contactId (some { call, attempt := s.attempts.count call + 1 }) }
  | .refuse call now => some { s with
      responses := s.responses.write call.key (RowWrite.recordError now).write
      attempts := call :: s.attempts }
  | .write call w =>
    if w.isDispatch then none else some { s with responses := s.responses.write call.key w.write }
  | .record key object =>
    match parseConnectNativeKey key with
    | none => none
    | some info =>
      if config.connectRecordingsPrefix.toList <+: key.toList ∧ (s.placed.lookup info.contactId).isSome = true ∧
          s.recorded.lookup key = none then
        some { s with
          objects := s.objects.set (config.bucket, key) (some object)
          recorded := s.recorded.set key (some { contactId := info.contactId, object }) }
      else none
  | .deliver key =>
    match s.recorded.lookup key with
    | none => none
    | some recording =>
      match lambdaHandler config.connectRecordingsPrefix (caughtUp s.responses) s.objects
          (objectCreated config.bucket key) with
      | .ok (relocation, objects) => some { s with
          objects
          runs := { contactId := recording.contactId, sourceKey := key, result := .ok relocation } :: s.runs }
      | .error e => some { s with
          runs := { contactId := recording.contactId, sourceKey := key, result := .error e } :: s.runs }

/-- No recording of the contact was delivered before, and the row still has the contact and the number of the attempt
that placed it. -/
def InTime (s : State β) : Label β → Prop
  | .deliver key => ∀ recording ∈ s.recorded.lookup key, ∀ placement ∈ s.placed.lookup recording.contactId,
      (∀ run ∈ s.runs, run.contactId ≠ recording.contactId) ∧
      Response.contactIdOf (s.responses.lookup placement.call.key) = some recording.contactId ∧
      (s.responses.lookup placement.call.key).bind Response.callAttempts = some placement.attempt
  | _ => True

instance InTime.decidable (s : State β) : ∀ label, Decidable (InTime s label)
  | .deliver _ => inferInstanceAs (Decidable (∀ recording ∈ _, ∀ placement ∈ _, _))
  | .place .. | .refuse .. | .write .. | .record .. => .isTrue trivial

/-- The run copied the recording to the key of the attempt that placed its contact, and it is still there. -/
def Relocated (config : Config) (s : State β) (run : Run) : Prop :=
  ∃ recording placement relocation,
    s.recorded.lookup run.sourceKey = some recording ∧ recording.contactId = run.contactId ∧
    s.placed.lookup run.contactId = some placement ∧ run.result = .ok relocation ∧
    relocation.targetKey = placement.targetKey ∧
    s.objects.lookup (config.bucket, placement.targetKey) = some recording.object

/-- Every run relocated its recording, the recordings that were not delivered are where Connect wrote them, and no two
contacts share a key. -/
structure AllRelocated (config : Config) (s : State β) : Prop where
  relocated : ∀ run ∈ s.runs, Relocated config s run
  waiting : ∀ key recording, s.recorded.lookup key = some recording → (∀ run ∈ s.runs, run.sourceKey ≠ key) →
    s.objects.lookup (config.bucket, key) = some recording.object
  distinct : ∀ contactId contactId' placement placement', s.placed.lookup contactId = some placement →
    s.placed.lookup contactId' = some placement' → contactId ≠ contactId' → placement.targetKey ≠ placement'.targetKey

/-! ### What a step does -/

variable {config : Config} {s t : State β}

theorem step_place {call : CallKey} {contactId : String} {now : Instant}
    (h : step config s (.place call contactId now) = some t) :
    s.placed.lookup contactId = none ∧
      t = { s with
        responses := s.responses.write call.key (RowWrite.recordSuccess contactId now).write
        attempts := call :: s.attempts
        placed := s.placed.set contactId (some { call, attempt := s.attempts.count call + 1 }) } := by
  rw [step] at h
  cases hfresh : s.placed.lookup contactId with
  | some placement =>
    rw [hfresh] at h
    cases h
  | none =>
    rw [hfresh] at h
    exact ⟨rfl, (Option.some.inj h).symm⟩

theorem step_write {call : CallKey} {w : RowWrite} (h : step config s (.write call w) = some t) :
    w.isDispatch = false ∧ t = { s with responses := s.responses.write call.key w.write } := by
  rw [step] at h
  split at h
  · cases h
  · exact ⟨Bool.eq_false_iff.2 ‹_›, (Option.some.inj h).symm⟩

theorem step_record {key : String} {object : β} (h : step config s (.record key object) = some t) :
    ∃ info placement, parseConnectNativeKey key = some info ∧ config.connectRecordingsPrefix.toList <+: key.toList ∧
      s.placed.lookup info.contactId = some placement ∧ s.recorded.lookup key = none ∧
      t = { s with
        objects := s.objects.set (config.bucket, key) (some object)
        recorded := s.recorded.set key (some { contactId := info.contactId, object }) } := by
  rw [step] at h
  cases hparse : parseConnectNativeKey key with
  | none =>
    rw [hparse] at h
    cases h
  | some info =>
    simp only [hparse] at h
    split at h
    · obtain ⟨hstarts, hplaced, hfresh⟩ := ‹_ ∧ _›
      obtain ⟨placement, hplacement⟩ := Option.isSome_iff_exists.1 hplaced
      exact ⟨info, placement, rfl, hstarts, hplacement, hfresh, (Option.some.inj h).symm⟩
    · cases h

theorem step_deliver {key : String} (h : step config s (.deliver key) = some t) :
    ∃ recording, s.recorded.lookup key = some recording ∧
      ((∃ relocation objects, lambdaHandler config.connectRecordingsPrefix (caughtUp s.responses) s.objects
          (objectCreated config.bucket key) = .ok (relocation, objects) ∧
        t = { s with
          objects
          runs := { contactId := recording.contactId, sourceKey := key, result := .ok relocation } :: s.runs }) ∨
      ∃ e, lambdaHandler config.connectRecordingsPrefix (caughtUp s.responses) s.objects
          (objectCreated config.bucket key) = .error e ∧
        t = { s with
          runs := { contactId := recording.contactId, sourceKey := key, result := .error e } :: s.runs }) := by
  rw [step] at h
  cases hrecording : s.recorded.lookup key with
  | none =>
    rw [hrecording] at h
    cases h
  | some recording =>
    refine ⟨recording, rfl, ?_⟩
    simp only [hrecording] at h
    split at h
    · exact .inl ⟨_, _, ‹_›, (Option.some.inj h).symm⟩
    · exact .inr ⟨_, ‹_›, (Option.some.inj h).symm⟩

/-! ### What holds however late the recordings are delivered -/

/-- A row carries the contact of a call of its own, and every attempt placed one contact at most. -/
structure Placed (config : Config) (s : State β) : Prop where
  row : ∀ key contactId, Response.contactIdOf (s.responses.lookup key) = some contactId →
    ∃ placement, s.placed.lookup contactId = some placement ∧ placement.call.key = key
  numbered : ∀ contactId placement, s.placed.lookup contactId = some placement →
    placement.attempt ≤ s.attempts.count placement.call
  unique : ∀ contactId contactId' placement, s.placed.lookup contactId = some placement →
    s.placed.lookup contactId' = some placement → contactId = contactId'
  native : ∀ key recording, s.recorded.lookup key = some recording →
    ∃ info placement, parseConnectNativeKey key = some info ∧ info.contactId = recording.contactId ∧
      config.connectRecordingsPrefix.toList <+: key.toList ∧ s.placed.lookup recording.contactId = some placement

theorem placed_start {responses : Store (String × String) Response} (objects : Store (String × String) β)
    (hresponses : ∀ key, Response.contactIdOf (responses.lookup key) = none) :
    Placed config (start responses objects) where
  row key contactId h := by
    have hnone := hresponses key
    rw [show (start responses objects).responses = responses from rfl, hnone] at h
    cases h
  numbered contactId placement h := by cases h
  unique contactId contactId' placement h := by cases h
  native key recording h := by cases h

/-- A write of a row that does not place a call. -/
theorem Placed.write (hs : Placed config s) {call : CallKey} {w : RowWrite}
    (hw : ∀ contactId now, w ≠ .recordSuccess contactId now)
    (hresponses : t.responses = s.responses.write call.key w.write) (hplaced : t.placed = s.placed)
    (hrecorded : t.recorded = s.recorded) (hattempts : ∀ call, s.attempts.count call ≤ t.attempts.count call) :
    Placed config t where
  row key contactId h := by
    rw [hplaced]
    apply hs.row key contactId
    by_cases hkey : key = call.key
    · subst key
      rw [hresponses, Store.lookup_write_self] at h
      exact (RowWrite.contactIdOf_run hw _).symm.trans h
    · rw [hresponses, Store.lookup_write_ne _ _ hkey] at h
      exact h
  numbered contactId placement h := by
    rw [hplaced] at h
    exact (hs.numbered contactId placement h).trans (hattempts placement.call)
  unique := by
    rw [hplaced]
    exact hs.unique
  native := by
    rw [hplaced, hrecorded]
    exact hs.native

/-- A further call of some row, with a contact of its own. -/
theorem Placed.place (hs : Placed config s) {call : CallKey} {contactId : String} {now : Instant}
    (hfresh : s.placed.lookup contactId = none) :
    Placed config { s with
      responses := s.responses.write call.key (RowWrite.recordSuccess contactId now).write
      attempts := call :: s.attempts
      placed := s.placed.set contactId (some { call, attempt := s.attempts.count call + 1 }) } := by
  have hold : ∀ other placement, s.placed.lookup other = some placement →
      (s.placed.set contactId (some { call, attempt := s.attempts.count call + 1 })).lookup other = some placement := by
    intro other placement h
    have hne : other ≠ contactId := by
      rintro rfl
      rw [hfresh] at h
      cases h
    rw [Store.lookup_set_ne _ _ hne, h]
  have hnew : ∀ other placement, s.placed.lookup other = some placement →
      placement ≠ { call, attempt := s.attempts.count call + 1 } := by
    rintro other placement h rfl
    have hle := hs.numbered other _ h
    dsimp only at hle
    omega
  refine ⟨?_, ?_, ?_, ?_⟩
  · intro key other h
    dsimp only at h ⊢
    by_cases hkey : key = call.key
    · subst key
      rw [Store.lookup_write_self] at h
      cases h
      exact ⟨_, Store.lookup_set_self .., rfl⟩
    · rw [Store.lookup_write_ne _ _ hkey] at h
      obtain ⟨placement, hplacement, hcall⟩ := hs.row key other h
      exact ⟨placement, hold other placement hplacement, hcall⟩
  · refine Store.forall_lookup_set ?_ ?_
    · intro other placement _ h
      exact (hs.numbered other placement h).trans (List.count_le_count_cons ..)
    · rw [List.count_cons_self]
  · intro other other' placement h h'
    dsimp only at h h'
    by_cases hother : other = contactId
    · by_cases hother' : other' = contactId
      · rw [hother, hother']
      · subst other
        rw [Store.lookup_set_self] at h
        rw [Store.lookup_set_ne _ _ hother'] at h'
        exact absurd (Option.some.inj h).symm (hnew other' placement h')
    · rw [Store.lookup_set_ne _ _ hother] at h
      by_cases hother' : other' = contactId
      · subst other'
        rw [Store.lookup_set_self] at h'
        exact absurd (Option.some.inj h').symm (hnew other placement h)
      · rw [Store.lookup_set_ne _ _ hother'] at h'
        exact hs.unique other other' placement h h'
  · intro key recording h
    obtain ⟨info, placement, hparse, hcontact, hstarts, hplacement⟩ := hs.native key recording h
    exact ⟨info, placement, hparse, hcontact, hstarts, hold _ _ hplacement⟩

theorem placed_step (hs : Placed config s) {label : Label β} (hstep : step config s label = some t) :
    Placed config t := by
  cases label with
  | place call contactId now =>
    obtain ⟨hfresh, rfl⟩ := step_place hstep
    exact hs.place hfresh
  | refuse call now =>
    cases hstep
    exact @Placed.write _ _ _ _ hs call (.recordError now) (fun _ _ => nofun) rfl rfl rfl fun _ => List.count_le_count_cons ..
  | write call w =>
    obtain ⟨hdispatch, rfl⟩ := step_write hstep
    refine hs.write ?_ rfl rfl rfl fun _ => le_rfl
    rintro contactId now rfl
    cases hdispatch
  | record key object =>
    obtain ⟨info, placement, hparse, hstarts, hplacement, -, rfl⟩ := step_record hstep
    refine ⟨hs.row, hs.numbered, hs.unique, Store.forall_lookup_set ?_ ?_⟩
    · intro other recording _ h
      exact hs.native other recording h
    · exact ⟨info, placement, hparse, rfl, hstarts, hplacement⟩
  | deliver key =>
    obtain ⟨recording, -, ⟨relocation, objects, -, rfl⟩ | ⟨e, -, rfl⟩⟩ := step_deliver hstep
    · exact ⟨hs.row, hs.numbered, hs.unique, hs.native⟩
    · exact ⟨hs.row, hs.numbered, hs.unique, hs.native⟩

theorem Placed.index (hs : Placed config s) {contactId : String} {placement : Placement}
    (hplacement : s.placed.lookup contactId = some placement)
    (hcontact : Response.contactIdOf (s.responses.lookup placement.call.key) = some contactId) :
    ∃ row, s.responses.lookup placement.call.key = some row ∧
      contactIdIndex s.responses contactId = some (placement.call.key, row) := by
  obtain ⟨row, hrow, hrowContact⟩ := Option.bind_eq_some_iff.1 hcontact
  refine ⟨row, hrow, contactIdIndex_eq_some hrow hrowContact ?_⟩
  intro key row' hrow' hcontact'
  obtain ⟨placement', hplacement', rfl⟩ := hs.row key contactId (Option.bind_eq_some_iff.2 ⟨row', hrow', hcontact'⟩)
  rw [hplacement] at hplacement'
  cases hplacement'
  rfl

/-- A run on the original of a recording, while the row still has the contact and the number of its attempt. -/
theorem Placed.lambdaHandler_eq_ok (hs : Placed config s) {key : String} {recording : ContactRecording β}
    {placement : Placement} {object : β} (hrecording : s.recorded.lookup key = some recording)
    (hplacement : s.placed.lookup recording.contactId = some placement)
    (hobject : s.objects.lookup (config.bucket, key) = some object)
    (hcontact : Response.contactIdOf (s.responses.lookup placement.call.key) = some recording.contactId)
    (hattempt : (s.responses.lookup placement.call.key).bind Response.callAttempts = some placement.attempt) :
    ∃ relocation, lambdaHandler config.connectRecordingsPrefix (caughtUp s.responses) s.objects
        (objectCreated config.bucket key) = .ok (relocation,
          (s.objects.set (config.bucket, placement.targetKey) (some object)).set (config.bucket, key) none) ∧
      relocation.targetKey = placement.targetKey := by
  obtain ⟨info, _, hparse, hinfo, hstarts, -⟩ := hs.native key recording hrecording
  obtain ⟨row, hrow, hindex⟩ := hs.index hplacement hcontact
  rw [hrow, Option.bind_some] at hattempt
  rw [← hinfo] at hindex
  exact ⟨_, RecordingRelocator.lambdaHandler_eq_ok config.bucket_ne_empty hstarts hparse hindex
    placement.call.isSegment_cycleId placement.call.isSegment_employeeId hattempt hobject, rfl⟩

theorem placed_of_run {responses : Store (String × String) Response} {objects : Store (String × String) β}
    {labels : List (Label β)} (hresponses : ∀ key, Response.contactIdOf (responses.lookup key) = none)
    (hrun : exec (step config) (start responses objects) labels = some s) : Placed config s :=
  invariant (fun _ _ _ hs hstep => placed_step hs hstep) (placed_start objects hresponses) hrun

/-- However the run went, a delivery relocates the recording to the key of its own attempt exactly when the original is
there and the row still has the contact and the number of the attempt. -/
theorem relocates_iff {responses : Store (String × String) Response} {objects : Store (String × String) β}
    {labels : List (Label β)} {key : String} {recording : ContactRecording β} {placement : Placement}
    (hresponses : ∀ key, Response.contactIdOf (responses.lookup key) = none)
    (hrun : exec (step config) (start responses objects) labels = some s) (hrecording : s.recorded.lookup key = some recording)
    (hplacement : s.placed.lookup recording.contactId = some placement) :
    (∃ relocation objects, lambdaHandler config.connectRecordingsPrefix (caughtUp s.responses) s.objects
        (objectCreated config.bucket key) = .ok (relocation, objects) ∧ relocation.targetKey = placement.targetKey) ↔
      (s.objects.lookup (config.bucket, key)).isSome = true ∧
      Response.contactIdOf (s.responses.lookup placement.call.key) = some recording.contactId ∧
      (s.responses.lookup placement.call.key).bind Response.callAttempts = some placement.attempt := by
  have hs := placed_of_run hresponses hrun
  constructor
  · rintro ⟨relocation, objects, hrun, htarget⟩
    obtain ⟨info, _, hparse, hinfo, -, -⟩ := hs.native key recording hrecording
    obtain ⟨call, row, seq, hrow, hcontact, hseq, hcall, hobject⟩ :=
      row_of_lambdaHandler config.bucket_ne_empty hparse hrun
    rw [hinfo] at hcontact
    have hcontactOf : Response.contactIdOf (s.responses.lookup call) = some recording.contactId := by
      rw [hrow]
      exact hcontact
    obtain ⟨placement', hplacement', rfl⟩ := hs.row call recording.contactId hcontactOf
    rw [hplacement] at hplacement'
    cases hplacement'
    have hown : ({ placement with attempt := seq } : Placement).targetKey = placement.targetKey :=
      hcall.symm.trans htarget
    have hattempt : seq = placement.attempt := congrArg Placement.attempt (Placement.targetKey_injective hown)
    refine ⟨hobject, hcontactOf, ?_⟩
    rw [hrow, Option.bind_some, hseq, hattempt]
  · rintro ⟨hobject, hcontact, hattempt⟩
    obtain ⟨object, hobject⟩ := Option.isSome_iff_exists.1 hobject
    obtain ⟨relocation, hrun, htarget⟩ := hs.lambdaHandler_eq_ok hrecording hplacement hobject hcontact hattempt
    exact ⟨relocation, _, hrun, htarget⟩

/-! ### Deliveries in time -/

structure Sound (config : Config) (s : State β) : Prop extends Placed config s where
  relocated : ∀ run ∈ s.runs, Relocated config s run
  waiting : ∀ key recording, s.recorded.lookup key = some recording → (∀ run ∈ s.runs, run.sourceKey ≠ key) →
    s.objects.lookup (config.bucket, key) = some recording.object

theorem Sound.allRelocated (hs : Sound config s) : AllRelocated config s where
  relocated := hs.relocated
  waiting := hs.waiting
  distinct contactId contactId' placement placement' h h' hne htarget := by
    cases Placement.targetKey_injective htarget
    exact hne (hs.unique contactId contactId' placement h h')

theorem sound_start {responses : Store (String × String) Response} (objects : Store (String × String) β)
    (hresponses : ∀ key, Response.contactIdOf (responses.lookup key) = none) :
    Sound config (start responses objects) where
  toPlaced := placed_start objects hresponses
  relocated run hrun := by cases hrun
  waiting key recording h := by cases h

/-- A recording that was relocated stays so when its contact and its object do. -/
theorem Relocated.keep {run : Run} (h : Relocated config s run)
    (hrecorded : ∀ recording, s.recorded.lookup run.sourceKey = some recording →
      t.recorded.lookup run.sourceKey = some recording)
    (hplaced : ∀ placement, s.placed.lookup run.contactId = some placement →
      t.placed.lookup run.contactId = some placement ∧
      t.objects.lookup (config.bucket, placement.targetKey) = s.objects.lookup (config.bucket, placement.targetKey)) :
    Relocated config t run := by
  obtain ⟨recording, placement, relocation, hrecording, hcontact, hplacement, hresult, htarget, hobject⟩ := h
  obtain ⟨hplacement', hobjects⟩ := hplaced placement hplacement
  exact ⟨recording, placement, relocation, hrecorded recording hrecording, hcontact, hplacement', hresult, htarget,
    hobjects.trans hobject⟩

theorem Sound.record (hs : Sound config s) {key : String} {object : β} (hstep : step config s (.record key object) = some t) :
    Sound config t := by
  have hplaced := placed_step hs.toPlaced hstep
  obtain ⟨info, placement, hparse, -, hplacement, hfresh, rfl⟩ := step_record hstep
  have hsource : ∀ run ∈ s.runs, run.sourceKey ≠ key := by
    rintro run hrun rfl
    obtain ⟨recording, _, _, hrecording, -⟩ := hs.relocated run hrun
    rw [hfresh] at hrecording
    cases hrecording
  refine ⟨hplaced, ?_, ?_⟩
  · intro run hrun
    refine (hs.relocated run hrun).keep ?_ ?_
    · intro recording h
      rw [← h]
      exact Store.lookup_set_ne _ _ (hsource run hrun)
    · intro placement' h
      exact ⟨h, Store.lookup_set_ne _ _ (placement'.targetKey_ne_of_parse hparse config.bucket)⟩
  · refine Store.forall_lookup_set ?_ ?_
    · intro other recording hother h hruns
      rw [← hs.waiting other recording h hruns]
      refine Store.lookup_set_ne _ _ ?_
      intro hkey
      exact hother (congrArg Prod.snd hkey)
    · intro _
      exact Store.lookup_set_self ..

/-- A delivery in time moves one recording to a key that no other recording has or had. -/
theorem Sound.deliver (hs : Sound config s) {key : String} (hguard : InTime s (.deliver key))
    (hstep : step config s (.deliver key) = some t) : Sound config t := by
  have hplaced := placed_step hs.toPlaced hstep
  obtain ⟨recording, hrecording, hcases⟩ := step_deliver hstep
  obtain ⟨info, placement, hparse, -, -, hplacement⟩ := hs.native key recording hrecording
  obtain ⟨hfirst, hcontact, hattempt⟩ := hguard recording hrecording placement hplacement
  have hsource : ∀ run ∈ s.runs, run.sourceKey ≠ key := by
    rintro run hrun rfl
    obtain ⟨recording', _, _, hrecording', hcontact', -⟩ := hs.relocated run hrun
    rw [hrecording] at hrecording'
    cases hrecording'
    exact hfirst run hrun hcontact'.symm
  have hobject := hs.waiting key recording hrecording hsource
  obtain ⟨relocation, hrun, htarget⟩ := hs.lambdaHandler_eq_ok hrecording hplacement hobject hcontact hattempt
  rw [hrun] at hcases
  obtain ⟨_, _, heq, rfl⟩ | ⟨_, herror, -⟩ := hcases
  · cases heq
    refine ⟨hplaced, ?_, ?_⟩
    · refine List.forall_mem_cons.2 ⟨?_, ?_⟩
      · refine ⟨recording, placement, relocation, hrecording, rfl, hplacement, rfl, htarget, ?_⟩
        rw [Store.lookup_set_ne _ _ (placement.targetKey_ne_of_parse hparse config.bucket), Store.lookup_set_self]
      · intro run hmem
        refine (hs.relocated run hmem).keep (fun _ h => h) ?_
        intro placement' hplacement'
        have hother : (config.bucket, placement'.targetKey) ≠ (config.bucket, placement.targetKey) := by
          intro hkey
          exact hs.allRelocated.distinct _ _ _ _ hplacement' hplacement (hfirst run hmem) (congrArg Prod.snd hkey)
        refine ⟨hplacement', ?_⟩
        rw [Store.lookup_set_ne _ _ (placement'.targetKey_ne_of_parse hparse config.bucket), Store.lookup_set_ne _ _ hother]
    · intro other recording' hrecording' hruns
      obtain ⟨hhead, htail⟩ := List.forall_mem_cons.1 hruns
      obtain ⟨info', _, hparse', -⟩ := hs.native other recording' hrecording'
      rw [← hs.waiting other recording' hrecording' htail]
      refine (Store.lookup_set_ne _ _ ?_).trans (Store.lookup_set_ne _ _ ?_)
      · intro hkey
        exact hhead (congrArg Prod.snd hkey).symm
      · exact (placement.targetKey_ne_of_parse hparse' config.bucket).symm
  · cases herror

theorem sound_step (hs : Sound config s) {label : Label β} (hguard : InTime s label)
    (hstep : step config s label = some t) : Sound config t := by
  have hplaced := placed_step hs.toPlaced hstep
  cases label with
  | place call contactId now =>
    obtain ⟨hfresh, rfl⟩ := step_place hstep
    refine ⟨hplaced, ?_, hs.waiting⟩
    intro run hrun
    refine (hs.relocated run hrun).keep (fun _ h => h) ?_
    intro placement h
    refine ⟨(Store.lookup_set_ne _ _ ?_).trans h, rfl⟩
    intro hcontact
    rw [hcontact, hfresh] at h
    cases h
  | refuse call now =>
    cases hstep
    exact ⟨hplaced, hs.relocated, hs.waiting⟩
  | write call w =>
    obtain ⟨-, rfl⟩ := step_write hstep
    exact ⟨hplaced, hs.relocated, hs.waiting⟩
  | record key object => exact hs.record hstep
  | deliver key => exact hs.deliver hguard hstep

/-- In every run whose deliveries come in time every recording is relocated to the key of its own attempt. -/
theorem allRelocated_of_inTime {responses : Store (String × String) Response} {objects : Store (String × String) β}
    {labels : List (Label β)} (hresponses : ∀ key, Response.contactIdOf (responses.lookup key) = none)
    (hguard : Guarded (step config) InTime (start responses objects) labels)
    (hrun : exec (step config) (start responses objects) labels = some s) : AllRelocated config s :=
  (invariant_of_guarded (fun _ _ _ hs hguard hstep => sound_step hs hguard hstep) (sound_start objects hresponses)
    hguard hrun).allRelocated

/-! ### Deliveries out of time -/

/-- Where the runs copied to, the latest first and `none` for a run that raised. -/
def targetKeys (s : State β) : List (Option String) := s.runs.map fun run => run.result.toOption.map Relocation.targetKey

theorem none_notMem_targetKeys (h : AllRelocated config s) : none ∉ targetKeys s := by
  intro hmem
  obtain ⟨run, hrun, hnone⟩ := List.mem_map.1 hmem
  obtain ⟨_, _, relocation, -, -, -, hresult, -⟩ := h.relocated run hrun
  rw [hresult] at hnone
  cases hnone

def connectRaw : Config where
  bucket := "recordings-bucket"
  connectRecordingsPrefix := "connect-raw/"
  bucket_ne_empty := by decide

def call : CallKey where
  cycleId := "c1"
  employeeId := "e1"
  isSegment_cycleId := by decide
  isSegment_employeeId := by decide

def nativeKey : String := "connect-raw/i/CallRecordings/2026/06/25/k1_2026-06-25T07:00:00_UTC.wav"

/-- The recording of the first call, delivered after the redial. -/
def redialed : List (Label Nat) := [.place call "k1" 10, .record nativeKey 1, .place call "k2" 70, .deliver nativeKey]

def redelivered : List (Label Nat) := [.place call "k1" 10, .record nativeKey 1, .deliver nativeKey, .deliver nativeKey]

/-- The recording of the first call, delivered after a redial that Connect refused. -/
def refused : List (Label Nat) := [.place call "k1" 10, .record nativeKey 1, .refuse call 70, .deliver nativeKey]

/-- A late or repeated delivery raises, and one after a refused redial copies to that attempt's key. -/
theorem late_recording_not_relocated :
    (exec (step connectRaw) (start ∅ ∅) redialed).map targetKeys = some [none] ∧
      (exec (step connectRaw) (start ∅ ∅) redelivered).map targetKeys = some [none, some "recordings/c1/e1/1.wav"] ∧
      (exec (step connectRaw) (start ∅ ∅) refused).map targetKeys = some [some "recordings/c1/e1/2.wav"] ∧
      ∀ s, exec (step connectRaw) (start ∅ ∅) redialed = some s → ¬ AllRelocated connectRaw s := by
  have hraised : (exec (step connectRaw) (start ∅ ∅) redialed).map targetKeys = some [none] := by decide
  refine ⟨hraised, by decide, by decide, ?_⟩
  intro s hs hall
  rw [hs, Option.map_some, Option.some.injEq] at hraised
  have hnone := none_notMem_targetKeys hall
  rw [hraised] at hnone
  exact hnone List.mem_cons_self

/-- The recording is delivered before the redial. -/
def promptly : List (Label Nat) := [.place call "k1" 10, .record nativeKey 1, .deliver nativeKey, .place call "k2" 70]

theorem allRelocated_promptly : ∃ s, exec (step connectRaw) (start ∅ ∅) promptly = some s ∧ AllRelocated connectRaw s := by
  have hruns : (exec (step connectRaw) (start ∅ ∅) promptly).isSome = true := by decide
  obtain ⟨s, hs⟩ := Option.isSome_iff_exists.1 hruns
  exact ⟨s, hs, allRelocated_of_inTime (fun _ => rfl) (by decide) hs⟩

end RecordingRelocator

end SafetyConfirmation
