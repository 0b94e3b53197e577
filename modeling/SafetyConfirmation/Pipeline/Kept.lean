import SafetyConfirmation.Dictionary.SnapshotInvariant
import SafetyConfirmation.Pipeline.Reasons

/-!
# What a run keeps

What a call changes in the world, what no step takes back, and what an answer says of the world from then on.
-/

namespace SafetyConfirmation

namespace Pipeline

open Checks KeyedStore Interleaving
open Dictionary (History getDictionarySnapshot)

/-! ### What a call changes -/

/-- The effect of a call, where it has one. -/
inductive Effect (world : World) : PipelineCall → World → Prop
  | recordingMeta (key : String × String) (item : RecordingMeta) (hnone : world.recordingMeta.lookup key = none) :
      Effect world (.putRecordingMeta key item)
        { world with recordingMeta := world.recordingMeta.write key (recordingMetaPut item) }
  | job (jobName : String) (job : TranscriptionJob) (hnone : world.jobs.lookup jobName = none) :
      Effect world (.startTranscriptionJob jobName job) { world with jobs := world.jobs.set jobName (some job) }
  | transcript (key : String) (payload : Value) :
      Effect world (.putTranscript key payload) { world with transcripts := (key, some payload) :: world.transcripts }
  | jobMeta (key : String × String) (jobName transcriptS3Key : String) (hnone : world.transcriptMeta.lookup key = none) :
      Effect world (.putTranscriptMeta key jobName transcriptS3Key)
        { world with transcriptMeta := world.transcriptMeta.write key (TranscriptMeta.recordJob jobName transcriptS3Key) }
  | excerptMeta (key : String × String) (excerpt : String) (confidence : ℚ) :
      Effect world (.updateTranscriptMeta key excerpt confidence)
        { world with transcriptMeta := world.transcriptMeta.write key (TranscriptMeta.recordExcerpt excerpt confidence) }
  | transcribeFailed (key : String × String) : Effect world (.updateTranscribeFailed key)
      { world with responses := world.responses.write key Response.recordTranscribeFailed }
  | response (key : String × String) (c : Classification) : Effect world (.updateResponse key c)
      { world with responses := world.responses.write key (Response.recordResponse c) }
  | fallback (key : String × String) : Effect world (.updateOtherFallback key)
      { world with responses := world.responses.write key Response.recordOtherFallback }

namespace World

variable {world : World} {environment : Environment}

/-- A world in which a write was carried out, or was not. -/
theorem carryOut_cases (world : World) (environment : Environment) (done : World) :
    (world.carryOut environment done).2 = done ∨
      ((world.carryOut environment done).2 = world ∧ environment.applied = false ∧
        ∃ e, environment.error = some e ∧ (world.carryOut environment done).1 = .error e) := by
  rw [carryOut]
  cases herror : environment.error with
  | none => exact .inl rfl
  | some e =>
    cases happlied : environment.applied with
    | true => exact .inl rfl
    | false => exact .inr ⟨rfl, rfl, e, rfl, rfl⟩

theorem answer_world {α : Type} (world : World) (environment : Environment) (result : Except PyError α) :
    (world.answer environment result).2 = world := by
  rw [answer]
  split <;> rfl

theorem answer_eq_ok {α : Type} {result : Except PyError α} {a : α} (h : (world.answer environment result).1 = .ok a) :
    result = .ok a := by
  rw [answer] at h
  split at h
  · exact h
  · cases h

theorem attempt_cases (world : World) (environment : Environment) (condition : Bool) (refusal : String) (done : World) :
    (world.attempt environment condition refusal done).2 = world ∨
      (condition = true ∧ (world.attempt environment condition refusal done).2 = done) := by
  rw [attempt]
  split
  · rcases carryOut_cases world environment done with hdone | ⟨hsame, -⟩
    · exact .inr ⟨‹_›, hdone⟩
    · exact .inl hsame
  · exact .inl (answer_world ..)

theorem carryOut_world (world : World) (environment : Environment) (done : World) :
    (world.carryOut environment done).2 = world ∨ (world.carryOut environment done).2 = done := by
  rcases carryOut_cases world environment done with hdone | ⟨hsame, -⟩
  · exact .inr hdone
  · exact .inl hsame

theorem respond_cases (world : World) (environment : Environment) (c : PipelineCall) :
    (world.respond environment c).2 = world ∨ Effect world c (world.respond environment c).2 := by
  cases c with
  | utcNow | sleep _ => exact .inl rfl
  | getTranscript _ _ | getCycle _ | queryHistory _ => exact .inl (answer_world ..)
  | putRecordingMeta key item =>
    rcases attempt_cases world environment ((recordingMetaPut item).condition (world.recordingMeta.lookup key))
      "ConditionalCheckFailedException" { world with recordingMeta := world.recordingMeta.write key (recordingMetaPut item) }
      with hsame | ⟨hcondition, hdone⟩
    · exact .inl hsame
    · exact .inr (hdone ▸ .recordingMeta key item (Option.isNone_iff_eq_none.1 hcondition))
  | startTranscriptionJob jobName job =>
    rcases attempt_cases world environment (world.jobs.lookup jobName).isNone "ConflictException"
      { world with jobs := world.jobs.set jobName (some job) } with hsame | ⟨hcondition, hdone⟩
    · exact .inl hsame
    · exact .inr (hdone ▸ .job jobName job (Option.isNone_iff_eq_none.1 hcondition))
  | putTranscript key payload =>
    rcases carryOut_world world environment { world with transcripts := (key, some payload) :: world.transcripts } with
      hsame | hdone
    · exact .inl hsame
    · exact .inr (hdone ▸ .transcript key payload)
  | putTranscriptMeta key jobName transcriptS3Key =>
    rcases attempt_cases world environment
      ((TranscriptMeta.recordJob jobName transcriptS3Key).condition (world.transcriptMeta.lookup key))
      "ConditionalCheckFailedException"
      { world with transcriptMeta := world.transcriptMeta.write key (TranscriptMeta.recordJob jobName transcriptS3Key) }
      with hsame | ⟨hcondition, hdone⟩
    · exact .inl hsame
    · exact .inr (hdone ▸ .jobMeta key jobName transcriptS3Key (Option.isNone_iff_eq_none.1 hcondition))
  | updateTranscribeFailed key =>
    rcases attempt_cases world environment (Response.recordTranscribeFailed.condition (world.responses.lookup key))
      "ConditionalCheckFailedException" { world with responses := world.responses.write key Response.recordTranscribeFailed }
      with hsame | ⟨-, hdone⟩
    · exact .inl hsame
    · exact .inr (hdone ▸ .transcribeFailed key)
  | updateResponse key c =>
    rcases carryOut_world world environment { world with responses := world.responses.write key (Response.recordResponse c) }
      with hsame | hdone
    · exact .inl hsame
    · exact .inr (hdone ▸ .response key c)
  | updateOtherFallback key =>
    rcases carryOut_world world environment { world with responses := world.responses.write key Response.recordOtherFallback }
      with hsame | hdone
    · exact .inl hsame
    · exact .inr (hdone ▸ .fallback key)
  | updateTranscriptMeta key excerpt confidence =>
    rcases carryOut_world world environment
      { world with transcriptMeta := world.transcriptMeta.write key (TranscriptMeta.recordExcerpt excerpt confidence) }
      with hsame | hdone
    · exact .inl hsame
    · exact .inr (hdone ▸ .excerptMeta key excerpt confidence)

end World

/-! ### What no step takes back -/

/-- The history table has been in this state. -/
def World.HasBeen (world : World) (history : History) : Prop := history = world.history ∨ history ∈ world.past

structure Later (world world' : World) : Prop where
  recordings : world.recordings ⊆ world'.recordings
  transcripts : world.transcripts ⊆ world'.transcripts
  jobs : ∀ {jobName job}, world.jobs.lookup jobName = some job → world'.jobs.lookup jobName = some job
  recordingMeta : ∀ {key row}, world.recordingMeta.lookup key = some row → world'.recordingMeta.lookup key = some row
  transcriptMeta : ∀ {key}, (world.transcriptMeta.lookup key).isSome = true →
    (world'.transcriptMeta.lookup key).isSome = true
  dictionaryVersion : ∀ {cycleId version}, world.dictionaryVersion cycleId = some version →
    world'.dictionaryVersion cycleId = some version
  history : ∀ {history}, world.HasBeen history → world'.HasBeen history

namespace Later

variable {world world' world'' : World}

theorem refl (world : World) : Later world world :=
  ⟨List.Subset.refl _, List.Subset.refl _, fun h => h, fun h => h, fun h => h, fun h => h, fun h => h⟩

theorem trans (h : Later world world') (h' : Later world' world'') : Later world world'' where
  recordings := List.Subset.trans h.recordings h'.recordings
  transcripts := List.Subset.trans h.transcripts h'.transcripts
  jobs hjob := h'.jobs (h.jobs hjob)
  recordingMeta hrow := h'.recordingMeta (h.recordingMeta hrow)
  transcriptMeta hrow := h'.transcriptMeta (h.transcriptMeta hrow)
  dictionaryVersion hversion := h'.dictionaryVersion (h.dictionaryVersion hversion)
  history hhistory := h'.history (h.history hhistory)

end Later

/-- A row that is put where there is none leaves the others. -/
theorem lookup_set_of_none {κ ρ : Type} [DecidableEq κ] {store : Store κ ρ} {key other : κ} {row : ρ} {new : Option ρ}
    (hnone : store.lookup key = none) (h : store.lookup other = some row) : (store.set key new).lookup other = some row := by
  have hne : other ≠ key := by
    rintro rfl
    rw [hnone] at h
    cases h
  rw [Store.lookup_set_ne _ _ hne]
  exact h

/-- A write that leaves a row where it finds one. -/
theorem isSome_lookup_write {κ ρ : Type} [DecidableEq κ] {store : Store κ ρ} {key other : κ} {w : Write ρ}
    (hw : ∀ row, (w.run (some row)).isSome = true) (h : (store.lookup other).isSome = true) :
    ((store.write key w).lookup other).isSome = true := by
  by_cases hkey : other = key
  · subst other
    obtain ⟨row, hrow⟩ := Option.isSome_iff_exists.1 h
    rw [Store.lookup_write_self, hrow]
    exact hw row
  · rw [Store.lookup_write_ne _ _ hkey]
    exact h

theorem later_of_effect {world world' : World} {c : PipelineCall} (h : Effect world c world') : Later world world' := by
  have hrefl := Later.refl world
  cases h with
  | recordingMeta key item hnone => exact { hrefl with recordingMeta := fun hrow => lookup_set_of_none hnone hrow }
  | job jobName job hnone => exact { hrefl with jobs := fun hjob => lookup_set_of_none hnone hjob }
  | transcript key payload => exact { hrefl with transcripts := List.subset_cons_self _ _ }
  | jobMeta key jobName transcriptS3Key hnone =>
    exact { hrefl with transcriptMeta := fun hrow => isSome_lookup_write (fun _ => rfl) hrow }
  | excerptMeta key excerpt confidence =>
    exact { hrefl with transcriptMeta := fun hrow => isSome_lookup_write (fun _ => rfl) hrow }
  | transcribeFailed key | response key c | fallback key => exact { hrefl with }

theorem dictionaryVersion_run (w : CycleWrite) (row : Option Cycle) :
    (w.write.run row).map Cycle.dictionaryVersion = row.map Cycle.dictionaryVersion := by
  cases w with
  | setStartFailed => exact Dictionary.map_dictionaryVersion_setStartFailed row
  | setCycleStatus newStatus now => exact Dictionary.map_dictionaryVersion_setCycleStatus newStatus now row
  | setSlaWarningFlag =>
    apply Write.run_induction (motive := fun row' => row'.map Cycle.dictionaryVersion = row.map Cycle.dictionaryVersion) rfl
    intro _
    cases row <;> rfl

theorem later_move {world world' : World} {m : Move} (h : world.move m = some world') : Later world world' := by
  have hrefl := Later.refl world
  cases m with
  | upload key fileSizeBytes =>
    cases h
    exact { hrefl with recordings := List.subset_cons_self _ _ }
  | complete jobName body =>
    obtain ⟨job, -, rfl⟩ := Option.map_eq_some_iff.1 h
    exact { hrefl with transcripts := List.subset_cons_self _ _ }
  | createCycle cycleId cycle =>
    rw [World.move] at h
    split at h
    · rename_i hnone
      cases h
      refine { hrefl with dictionaryVersion := ?_ }
      intro id version hversion
      obtain ⟨row, hrow, hrowVersion⟩ := Option.map_eq_some_iff.1 hversion
      exact Option.map_eq_some_iff.2
        ⟨row, lookup_set_of_none (Option.isNone_iff_eq_none.1 hnone) hrow, hrowVersion⟩
    · cases h
  | writeCycle cycleId w =>
    cases h
    refine { hrefl with dictionaryVersion := ?_ }
    intro id version hversion
    exact (Dictionary.map_dictionaryVersion_write cycleId id (dictionaryVersion_run w)).trans hversion
  | publish history =>
    cases h
    refine { hrefl with history := ?_ }
    rintro history' (rfl | hpast)
    · exact .inr List.mem_cons_self
    · exact .inr (List.mem_cons_of_mem _ hpast)
  | write key w =>
    cases h
    exact { hrefl with }

theorem eq_of_arrive {world world' : World} {request : Request} (h : arrive world request = some world') :
    world' = world := by
  cases request with
  | writeMetadata _ _ | transcribe _ _ | classify _ _ =>
    rw [arrive] at h
    split at h
    · exact (Option.some.inj h).symm
    · cases h

variable {deployment : Deployment}

theorem kept_later : Arrivals.Kept (system deployment) Later where
  refl := Later.refl
  trans := Later.trans
  respond world environment c := by
    show Later world (world.respond environment c).2
    rcases World.respond_cases world environment c with hsame | heffect
    · rw [hsame]
      exact Later.refl world
    · exact later_of_effect heffect
  arrive h := by
    rw [eq_of_arrive h]
    exact Later.refl _
  move h := later_move h

/-! ### What an answer says -/

def Tells (world : World) : (c : PipelineCall) → Except PyError c.Reply → Prop
  | .getTranscript _ key, .ok body => (key, body) ∈ world.transcripts
  | .getCycle cycleId, .ok item => ∀ version, KeywordMatcher.dictionaryVersionOf cycleId item = .ok version →
      world.dictionaryVersion cycleId = some version
  | .queryHistory version, .ok dictionary => ∃ history, world.HasBeen history ∧
      dictionary = getDictionarySnapshot history version
  | .startTranscriptionJob jobName _, answer =>
    (answer = .ok () ∨ ∃ e, answer = .error e ∧ TranscribeStarter.isConflict e = true) →
      (world.jobs.lookup jobName).isSome = true
  | .putRecordingMeta key _, answer => PipelineCall.settled answer = .ok () → (world.recordingMeta.lookup key).isSome = true
  | .putTranscriptMeta key _ _, answer =>
    PipelineCall.settled answer = .ok () → (world.transcriptMeta.lookup key).isSome = true
  | _, _ => True

theorem tells_later {world world' : World} {c : PipelineCall} {answer : Except PyError c.Reply} (hlater : Later world world')
    (h : Tells world c answer) : Tells world' c answer := by
  cases c with
  | utcNow | sleep _ | putTranscript _ _ | updateTranscribeFailed _ | updateResponse _ _ | updateOtherFallback _
  | updateTranscriptMeta _ _ _ => trivial
  | getTranscript bucket key =>
    cases answer with
    | ok body => exact hlater.transcripts h
    | error e => trivial
  | getCycle cycleId =>
    cases answer with
    | ok item => exact fun version hversion => hlater.dictionaryVersion (h version hversion)
    | error e => trivial
  | queryHistory version =>
    cases answer with
    | ok dictionary =>
      obtain ⟨history, hhistory, hdictionary⟩ := h
      exact ⟨history, hlater.history hhistory, hdictionary⟩
    | error e => trivial
  | startTranscriptionJob jobName job =>
    intro htook
    obtain ⟨job', hjob⟩ := Option.isSome_iff_exists.1 (h htook)
    exact Option.isSome_iff_exists.2 ⟨job', hlater.jobs hjob⟩
  | putRecordingMeta key item =>
    intro hsettled
    obtain ⟨row, hrow⟩ := Option.isSome_iff_exists.1 (h hsettled)
    exact Option.isSome_iff_exists.2 ⟨row, hlater.recordingMeta hrow⟩
  | putTranscriptMeta key jobName transcriptS3Key => exact fun hsettled => hlater.transcriptMeta (h hsettled)

theorem mem_of_lookup {α β : Type} [BEq α] [LawfulBEq α] {key : α} {value : β} {entries : List (α × β)}
    (h : entries.lookup key = some value) : (key, value) ∈ entries := by
  obtain ⟨before, after, rfl, -⟩ := List.lookup_eq_some_iff.1 h
  exact List.mem_append_right _ List.mem_cons_self

/-- The version of a cycle is read as it stands in the row. -/
theorem dictionaryVersionOf_cycleItem (cycleId : String) (cycle : Cycle) :
    KeywordMatcher.dictionaryVersionOf cycleId (some (cycleItem cycleId cycle)) = .ok cycle.dictionaryVersion := rfl

/-- A write that took effect, or was refused because it had, has its row. -/
theorem attempt_settled (there : World → Prop) {world done : World} {environment : Environment} {condition : Bool}
    {refusal : String} (hdone : there done) (hthere : condition = false → there world)
    (h : (world.attempt environment condition refusal done).1 = .ok () ∨
      ∃ e, (world.attempt environment condition refusal done).1 = .error e ∧ isVerdict e = true) :
    there (world.attempt environment condition refusal done).2 := by
  rw [World.attempt] at h ⊢
  cases condition with
  | false =>
    rw [if_neg Bool.false_ne_true, World.answer_world]
    exact hthere rfl
  | true =>
    rw [if_pos rfl] at h ⊢
    rcases World.carryOut_cases world environment done with hworld | ⟨-, happlied, e, herror, hanswer⟩
    · rw [hworld]
      exact hdone
    · have hverdict : isVerdict e = true := by
        rcases h with hok | ⟨e', he', hverdict⟩
        · rw [hanswer] at hok
          cases hok
        · rw [hanswer] at he'
          cases he'
          exact hverdict
      have hall := environment.verdict (by rw [herror]; exact hverdict)
      rw [happlied] at hall
      cases hall

theorem isVerdict_of_settled {answer : Except PyError Unit} (h : PipelineCall.settled answer = .ok ()) :
    answer = .ok () ∨ ∃ e, answer = .error e ∧ isVerdict e = true := by
  cases answer with
  | ok _ => exact .inl rfl
  | error e =>
    rw [PipelineCall.settled] at h
    split at h
    · rename_i hfailed
      refine .inr ⟨e, rfl, ?_⟩
      cases e with
      | clientError code =>
        have hcode : code = "ConditionalCheckFailedException" := beq_iff_eq.1 hfailed
        subst hcode
        rfl
      | _ => cases hfailed
    · cases h

theorem isVerdict_of_isConflict {e : PyError} (h : TranscribeStarter.isConflict e = true) : isVerdict e = true := by
  cases e with
  | clientError code =>
    have hcode : code = "ConflictException" := beq_iff_eq.1 h
    subst hcode
    rfl
  | _ => cases h

theorem tells_respond (world : World) (environment : Environment) (c : PipelineCall) :
    Tells (world.respond environment c).2 c (world.respond environment c).1 := by
  cases c with
  | utcNow | sleep _ | putTranscript _ _ | updateTranscribeFailed _ | updateResponse _ _ | updateOtherFallback _
  | updateTranscriptMeta _ _ _ => trivial
  | getTranscript bucket key =>
    cases hanswer : (world.respond environment (.getTranscript bucket key)).1 with
    | error e => trivial
    | ok body =>
      have hread : world.getTranscript key = .ok body := World.answer_eq_ok hanswer
      have hworld : (world.respond environment (.getTranscript bucket key)).2 = world := World.answer_world ..
      rw [hworld]
      rw [World.getTranscript] at hread
      split at hread
      · cases hread
        exact mem_of_lookup ‹_›
      · cases hread
  | getCycle cycleId =>
    cases hanswer : (world.respond environment (.getCycle cycleId)).1 with
    | error e => trivial
    | ok item =>
      have hread := Except.ok.inj (World.answer_eq_ok hanswer)
      have hworld : (world.respond environment (.getCycle cycleId)).2 = world := World.answer_world ..
      rw [hworld]
      intro version hversion
      rw [← hread] at hversion
      cases hcycle : world.cycles.lookup cycleId with
      | none =>
        rw [hcycle] at hversion
        cases hversion
      | some cycle =>
        rw [hcycle, Option.map_some, dictionaryVersionOf_cycleItem] at hversion
        cases hversion
        rw [World.dictionaryVersion, hcycle, Option.map_some]
  | queryHistory version =>
    cases hanswer : (world.respond environment (.queryHistory version)).1 with
    | error e => trivial
    | ok dictionary =>
      have hread := Except.ok.inj (World.answer_eq_ok hanswer)
      have hworld : (world.respond environment (.queryHistory version)).2 = world := World.answer_world ..
      rw [hworld]
      exact ⟨world.history, .inl rfl, hread.symm⟩
  | startTranscriptionJob jobName job =>
    intro htook
    apply attempt_settled fun world => (world.jobs.lookup jobName).isSome = true
    · rw [Store.lookup_set_self]
      rfl
    · intro hcondition
      rwa [← Option.not_isSome, Bool.not_eq_false'] at hcondition
    · exact htook.imp_right fun ⟨e, herror, hconflict⟩ => ⟨e, herror, isVerdict_of_isConflict hconflict⟩
  | putRecordingMeta key item =>
    intro hsettled
    apply attempt_settled fun world => (world.recordingMeta.lookup key).isSome = true
    · rw [Store.lookup_write_self]
      cases world.recordingMeta.lookup key <;> rfl
    · intro hcondition
      rwa [recordingMetaPut, Write.put_condition, ← Option.not_isSome, Bool.not_eq_false'] at hcondition
    · exact isVerdict_of_settled hsettled
  | putTranscriptMeta key jobName transcriptS3Key =>
    intro hsettled
    apply attempt_settled fun world => (world.transcriptMeta.lookup key).isSome = true
    · rw [Store.lookup_write_self]
      cases world.transcriptMeta.lookup key <;> rfl
    · intro hcondition
      rwa [TranscriptMeta.recordJob, Write.put_condition, ← Option.not_isSome, Bool.not_eq_false'] at hcondition
    · exact isVerdict_of_settled hsettled

end Pipeline

end SafetyConfirmation
