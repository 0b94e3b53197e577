import SafetyConfirmation.Pipeline.World

/-!
# Why a lambda makes a call

What is true of the calls that a run has made when it has come to a stage: where the text, the dictionary and its version
come from that it writes, and how often it was throttled.
-/

namespace SafetyConfirmation

namespace Pipeline

open Checks Recording

abbrev Calls := List (Made PipelineCall PipelineCall.Reply PyError)

/-! ### The events -/

theorem parseEvent_objectCreated {bucket key : String} {fileSizeBytes : Nat} {name object : Value}
    (h : RecordingRelocator.parseEvent (objectCreated bucket key fileSizeBytes) = .ok (name, object)) :
    name = .str bucket ∧ object = .str key := by
  have hblock : ∀ {message field : String} {fields : List (String × Value)} {v : Value},
      RecordingRelocator.requireBlock message field (some (.dict fields)) = .ok v → fields.lookup field = some v := by
    intro message field fields v hv
    rw [RecordingRelocator.requireBlock] at hv
    split at hv
    · split at hv
      · cases hv
        assumption
      · cases hv
    · cases hv
  obtain ⟨name', hname, h⟩ := bind_eq_ok.1 h
  obtain ⟨object', hobject, h⟩ := bind_eq_ok.1 h
  cases h
  exact ⟨(Option.some.inj (hblock hname)).symm, (Option.some.inj (hblock hobject)).symm⟩

theorem recordingInfo_eq_ok {key : String} {info : RecordingKeyInfo} (h : recordingInfo (.str key) = .ok info) :
    Recording.parseRecordingKey key = some info := demand_eq_ok.1 h

end Pipeline

namespace RecordingMetadataWriter

open Checks Pipeline

theorem deliveryOf_objectCreated {bucket key : String} {fileSizeBytes : Nat} {delivery : Delivery}
    (h : deliveryOf (objectCreated bucket key fileSizeBytes) = .ok delivery) :
    Recording.parseRecordingKey key = some delivery.info ∧
      delivery = { bucket := .str bucket, objectKey := key, fileSizeBytes, info := delivery.info } := by
  obtain ⟨⟨name, object, size⟩, hparse, h⟩ := bind_eq_ok.1 h
  obtain ⟨⟨name', object'⟩, hevent, hsize⟩ := bind_eq_ok.1 hparse
  obtain ⟨rfl, rfl⟩ := parseEvent_objectCreated hevent
  cases hsize
  obtain ⟨info, hinfo, h⟩ := bind_eq_ok.1 h
  cases h
  exact ⟨recordingInfo_eq_ok hinfo, rfl⟩

/-- What a run has called when it has come to a stage. -/
def Known (event : Value) (calls : Calls) : Stage → Prop
  | .asking | .exhausted | .failed => True
  | .putting recordedAt _ | .pausing recordedAt _ => ⟨.utcNow, .ok recordedAt⟩ ∈ calls
  | .written => ∃ delivery recordedAt answer, deliveryOf event = .ok delivery ∧
      ⟨.putRecordingMeta delivery.key (delivery.item recordedAt), answer⟩ ∈ calls ∧ PipelineCall.settled answer = .ok ()

theorem known_call {event : Value} {calls : Calls} {stage : Stage} {c : PipelineCall} (h : Known event calls stage)
    (hallowed : (protocol event).allowed stage c) (answer : Except PyError c.Reply) :
    Known event (⟨c, answer⟩ :: calls) (stage.advance c answer) := by
  obtain ⟨delivery, hdelivery, hcall⟩ := hallowed
  cases stage with
  | asking =>
    cases hcall
    cases answer with
    | ok recordedAt => exact List.mem_cons_self
    | error e => trivial
  | putting recordedAt tryIdx =>
    cases hcall
    show Known event _ (.afterPut recordedAt tryIdx answer)
    rw [Stage.afterPut]
    cases hsettled : PipelineCall.settled answer with
    | ok _ => exact ⟨delivery, recordedAt, answer, hdelivery, List.mem_cons_self, hsettled⟩
    | error e =>
      dsimp only
      split
      · rw [Stage.afterThrottle]
        split
        · exact List.mem_cons_of_mem _ h
        · trivial
      · trivial
  | pausing recordedAt tryIdx =>
    cases hcall
    cases answer with
    | ok _ => exact List.mem_cons_of_mem _ h
    | error e => trivial
  | exhausted | written | failed => cases hcall

end RecordingMetadataWriter

namespace Pipeline

open Checks

namespace TranscribeStarter

open SafetyConfirmation.TranscribeStarter (Settings maxTranscribeAttempts)

theorem deliveryOf_objectCreated {bucket key : String} {fileSizeBytes : Nat} {delivery : Delivery}
    (h : deliveryOf (objectCreated bucket key fileSizeBytes) = .ok delivery) :
    Recording.parseRecordingKey key = some delivery.info ∧
      delivery = { bucket := .str bucket, objectKey := key, info := delivery.info } := by
  obtain ⟨⟨name, object⟩, hevent, h⟩ := bind_eq_ok.1 h
  obtain ⟨rfl, rfl⟩ := parseEvent_objectCreated hevent
  obtain ⟨info, hinfo, h⟩ := bind_eq_ok.1 h
  cases h
  exact ⟨recordingInfo_eq_ok hinfo, rfl⟩

/-! ### Starts -/

structure Start where
  jobName : String
  job : TranscriptionJob
  answer : Except PyError Unit

def startOf : Made PipelineCall PipelineCall.Reply PyError → Option Start
  | { call := .startTranscriptionJob jobName job, answer } => some { jobName, job, answer }
  | _ => none

/-- The starts among the calls, the last one first. -/
def starts (calls : Calls) : List Start := calls.filterMap startOf

theorem mem_starts {calls : Calls} {s : Start} :
    s ∈ starts calls ↔ ⟨.startTranscriptionJob s.jobName s.job, s.answer⟩ ∈ calls := by
  rw [starts, List.mem_filterMap]
  constructor
  · rintro ⟨⟨c, answer⟩, hmem, hstart⟩
    cases c with
    | startTranscriptionJob jobName job =>
      cases hstart
      exact hmem
    | _ => cases hstart
  · exact fun hmem => ⟨_, hmem, rfl⟩

def Start.Throttled (s : Start) : Prop := ∃ e, s.answer = .error e ∧ isRetryable e = true

/-- The job is there, by this start or by an earlier one. -/
def Start.Took (s : Start) : Prop := s.answer = .ok () ∨ ∃ e, s.answer = .error e ∧ isConflict e = true

/-- At most as many starts as there are tries, and another one only after one that was throttled. -/
def AtMost (ss : List Start) : Prop := ss.length ≤ maxTranscribeAttempts ∧ ∀ s ∈ ss.tail, s.Throttled

def AllThrottled (ss : List Start) : Prop := ss.length = maxTranscribeAttempts ∧ ∀ s ∈ ss, s.Throttled

/-- What a run has called when it has come to a stage. -/
def Known (settings : Settings) (event : Value) (calls : Calls) : Stage → Prop
  | .uploading => settings.mockMode = true ∧ starts calls = []
  | .starting tryIdx => settings.mockMode = false ∧
      tryIdx < maxTranscribeAttempts ∧ (starts calls).length = tryIdx ∧ ∀ s ∈ starts calls, s.Throttled
  | .pausing tryIdx => settings.mockMode = false ∧
      tryIdx + 1 < maxTranscribeAttempts ∧ (starts calls).length = tryIdx + 1 ∧ ∀ s ∈ starts calls, s.Throttled
  | .exhausted => AllThrottled (starts calls)
  | .reported => AllThrottled (starts calls) ∧ ∃ delivery answer, deliveryOf event = .ok delivery ∧
      ⟨.updateTranscribeFailed (delivery.info.metaPk, delivery.info.employeeId), answer⟩ ∈ calls ∧
      PipelineCall.settled answer = .ok ()
  | .started => AtMost (starts calls) ∧ (settings.mockMode = true ∨ ∃ s ∈ starts calls, s.Took)
  | .recorded => AtMost (starts calls) ∧ (settings.mockMode = true ∨ ∃ s ∈ starts calls, s.Took) ∧
      ∃ delivery jobName answer, deliveryOf event = .ok delivery ∧
        ⟨.putTranscriptMeta (delivery.info.metaPk, delivery.info.metaSk) jobName delivery.info.transcriptS3Key, answer⟩ ∈ calls ∧
        PipelineCall.settled answer = .ok ()
  | .failed => AtMost (starts calls)

variable {settings : Settings} {event : Value} {calls : Calls}

theorem AllThrottled.atMost {ss : List Start} (h : AllThrottled ss) : AtMost ss :=
  ⟨Nat.le_of_eq h.1, fun s hs => h.2 s (List.mem_of_mem_tail hs)⟩

theorem Known.atMost {stage : Stage} (h : Known settings event calls stage) : AtMost (starts calls) := by
  cases stage with
  | uploading =>
    rw [h.2]
    exact ⟨Nat.zero_le _, by simp⟩
  | starting tryIdx | pausing tryIdx =>
    obtain ⟨-, hlt, hlength, hall⟩ := h
    exact ⟨by omega, fun s hs => hall s (List.mem_of_mem_tail hs)⟩
  | exhausted => exact AllThrottled.atMost h
  | reported => exact h.1.atMost
  | started | recorded => exact h.1
  | failed => exact h

/-- One more start. -/
theorem known_start {tryIdx : Nat} (h : Known settings event calls (.starting tryIdx)) (jobName : String)
    (job : TranscriptionJob) (answer : Except PyError Unit) :
    Known settings event (⟨.startTranscriptionJob jobName job, answer⟩ :: calls) (.afterStart tryIdx answer) := by
  obtain ⟨hreal, hlt, hlength, hall⟩ := h
  have hstarts : starts (⟨.startTranscriptionJob jobName job, answer⟩ :: calls) = { jobName, job, answer } :: starts calls :=
    List.filterMap_cons_some rfl
  have hmost : AtMost (starts (⟨.startTranscriptionJob jobName job, answer⟩ :: calls)) := by
    rw [hstarts]
    refine ⟨?_, hall⟩
    rw [List.length_cons]
    omega
  have htook : Start.Took { jobName, job, answer } →
      Known settings event (⟨.startTranscriptionJob jobName job, answer⟩ :: calls) .started := by
    intro htook
    refine ⟨hmost, .inr ⟨{ jobName, job, answer }, ?_, htook⟩⟩
    rw [hstarts]
    exact List.mem_cons_self
  cases answer with
  | ok _ => exact htook (.inl rfl)
  | error e =>
    rw [Stage.afterStart]
    split
    · exact htook (.inr ⟨e, rfl, ‹_›⟩)
    · split
      · rename_i hretry
        have hthrottled : ∀ s ∈ starts (⟨.startTranscriptionJob jobName job, .error e⟩ :: calls), s.Throttled := by
          rw [hstarts, List.forall_mem_cons]
          exact ⟨⟨e, rfl, hretry⟩, hall⟩
        have hone : (starts (⟨.startTranscriptionJob jobName job, .error e⟩ :: calls)).length = tryIdx + 1 := by
          rw [hstarts, List.length_cons, hlength]
        rw [Stage.afterThrottle]
        split
        · exact ⟨hreal, ‹_›, hone, hthrottled⟩
        · refine ⟨?_, hthrottled⟩
          rw [hone]
          omega
      · exact hmost

theorem known_call {stage : Stage} {c : PipelineCall} (h : Known settings event calls stage)
    (hallowed : (protocol settings event).allowed stage c) (answer : Except PyError c.Reply) :
    Known settings event (⟨c, answer⟩ :: calls) (stage.advance c answer) := by
  obtain ⟨delivery, hdelivery, hcall⟩ := hallowed
  cases stage with
  | starting tryIdx =>
    obtain ⟨jobName, -, rfl⟩ := hcall
    exact known_start h _ _ _
  | uploading =>
    obtain ⟨callResultCode, text, jobName, -, -, rfl⟩ := hcall
    obtain ⟨hmock, hnone⟩ := h
    have hstarts : starts (⟨.putTranscript delivery.info.transcriptS3Key (buildMockTranscriptJson jobName text), answer⟩ ::
        calls) = [] := hnone
    cases answer with
    | ok _ => exact ⟨by rw [hstarts]; exact ⟨Nat.zero_le _, by simp⟩, .inl hmock⟩
    | error e =>
      show AtMost _
      rw [hstarts]
      exact ⟨Nat.zero_le _, by simp⟩
  | pausing tryIdx =>
    cases hcall
    cases answer with
    | ok _ => exact h
    | error e =>
      have hmost : AtMost (starts calls) := h.atMost
      exact hmost
  | started =>
    obtain ⟨jobName, -, rfl⟩ := hcall
    show Known settings event _ (.afterWrite .recorded answer)
    rw [Stage.afterWrite]
    cases hsettled : PipelineCall.settled answer with
    | ok _ => exact ⟨h.1, h.2, delivery, jobName, answer, hdelivery, List.mem_cons_self, hsettled⟩
    | error e => exact h.1
  | exhausted =>
    obtain ⟨-, rfl⟩ := hcall
    show Known settings event _ (.afterWrite .reported answer)
    rw [Stage.afterWrite]
    cases hsettled : PipelineCall.settled answer with
    | ok _ => exact ⟨h, delivery, answer, hdelivery, List.mem_cons_self, hsettled⟩
    | error e => exact AllThrottled.atMost h
  | recorded | reported | failed => exact hcall.elim

end TranscribeStarter

namespace KeywordMatcher

open SafetyConfirmation.KeywordMatcher (classification)

theorem deliveryOf_objectCreated {bucket key : String} {fileSizeBytes : Nat} {delivery : Delivery}
    (h : deliveryOf (objectCreated bucket key fileSizeBytes) = .ok delivery) :
    Recording.parseTranscriptKey key = some delivery.info ∧ delivery.info.kind = .outbound ∧
      delivery = { bucket := .str bucket, key, info := delivery.info } := by
  obtain ⟨⟨name, object⟩, hevent, h⟩ := bind_eq_ok.1 h
  obtain ⟨rfl, rfl⟩ := parseEvent_objectCreated hevent
  obtain ⟨info, hinfo, h⟩ := bind_eq_ok.1 h
  obtain ⟨_, hkind, h⟩ := bind_eq_ok.1 h
  cases h
  exact ⟨demand_eq_ok.1 hinfo, require_eq_ok.1 hkind, rfl⟩

/-! ### What is read -/

variable {lower : String → String} {event : Value} {calls : Calls} {delivery : Delivery}

/-- The text was read of the transcript. -/
def HasRead (delivery : Delivery) (calls : Calls) (text : String) (confidence : ℚ) : Prop :=
  ∃ body, ⟨.getTranscript delivery.bucket delivery.key, .ok body⟩ ∈ calls ∧
    payloadOf delivery.bucket delivery.key body = .ok (text, confidence)

def HasResolved (delivery : Delivery) (calls : Calls) (dictionaryVersion : Int) : Prop :=
  ∃ item, ⟨.getCycle delivery.info.metaPk, .ok item⟩ ∈ calls ∧
    dictionaryVersionOf delivery.info.metaPk item = .ok dictionaryVersion

/-- The classification is that of a text that was read, by a dictionary that was. -/
def HasClassified (lower : String → String) (delivery : Delivery) (calls : Calls) (c : Classification) (confidence : ℚ) : Prop :=
  ∃ text dictionaryVersion dictionary, HasRead delivery calls text confidence ∧
    HasResolved delivery calls dictionaryVersion ∧ ⟨.queryHistory dictionaryVersion, .ok dictionary⟩ ∈ calls ∧
    c = classification lower text dictionary dictionaryVersion

/-- What a run has called when it has come to a stage. -/
def KnownOf (lower : String → String) (delivery : Delivery) (calls : Calls) : Stage → Prop
  | .reading _ | .pausing _ | .exhausted | .failed => True
  | .resolving _ text confidence => HasRead delivery calls text confidence
  | .querying _ text confidence dictionaryVersion =>
    HasRead delivery calls text confidence ∧ HasResolved delivery calls dictionaryVersion
  | .responding _ c confidence => HasClassified lower delivery calls c confidence
  | .augmenting _ c confidence => HasClassified lower delivery calls c confidence ∧
      ⟨.updateResponse (delivery.info.metaPk, delivery.info.employeeId) c, .ok ()⟩ ∈ calls
  | .matched c confidence => HasClassified lower delivery calls c confidence ∧
      ⟨.updateResponse (delivery.info.metaPk, delivery.info.employeeId) c, .ok ()⟩ ∈ calls ∧
      ⟨.updateTranscriptMeta (delivery.info.metaPk, delivery.info.metaSk) c.excerpt confidence, .ok ()⟩ ∈ calls
  | .fallenBack => ⟨.updateOtherFallback (delivery.info.metaPk, delivery.info.employeeId), .ok ()⟩ ∈ calls

def Known (lower : String → String) (event : Value) (calls : Calls) (stage : Stage) : Prop :=
  ∀ delivery, deliveryOf event = .ok delivery → KnownOf lower delivery calls stage

theorem HasRead.mono {text : String} {confidence : ℚ} (h : HasRead delivery calls text confidence) {later : Calls}
    (hsub : calls ⊆ later) : HasRead delivery later text confidence := by
  obtain ⟨body, hmem, hpayload⟩ := h
  exact ⟨body, hsub hmem, hpayload⟩

theorem HasResolved.mono {dictionaryVersion : Int} (h : HasResolved delivery calls dictionaryVersion) {later : Calls}
    (hsub : calls ⊆ later) : HasResolved delivery later dictionaryVersion := by
  obtain ⟨item, hmem, hversion⟩ := h
  exact ⟨item, hsub hmem, hversion⟩

theorem HasClassified.mono {c : Classification} {confidence : ℚ} (h : HasClassified lower delivery calls c confidence)
    {later : Calls} (hsub : calls ⊆ later) : HasClassified lower delivery later c confidence := by
  obtain ⟨text, dictionaryVersion, dictionary, hread, hresolved, hmem, hc⟩ := h
  exact ⟨text, dictionaryVersion, dictionary, hread.mono hsub, hresolved.mono hsub, hsub hmem, hc⟩

theorem knownOf_afterError (tryIdx : Nat) (e : PyError) : KnownOf lower delivery calls (.afterError tryIdx e) := by
  rw [Stage.afterError]
  split
  · split <;> trivial
  · trivial

theorem knownOf_onward {α : Type} {tryIdx : Nat} {result : Except PyError α} {next : α → Stage}
    (h : ∀ a, result = .ok a → KnownOf lower delivery calls (next a)) :
    KnownOf lower delivery calls (.onward tryIdx result next) := by
  cases result with
  | ok a => exact h a rfl
  | error e => exact knownOf_afterError tryIdx e

theorem known_call {stage : Stage} {c : PipelineCall} (h : Known lower event calls stage)
    (hallowed : (protocol lower event).allowed stage c) (answer : Except PyError c.Reply) :
    Known lower event (⟨c, answer⟩ :: calls) (stage.advance lower c answer) := by
  intro delivery hdelivery
  obtain ⟨delivery', hdelivery', hcall⟩ := hallowed
  rw [hdelivery] at hdelivery'
  cases hdelivery'
  have hbefore := h delivery hdelivery
  have hsub : calls ⊆ ⟨c, answer⟩ :: calls := List.subset_cons_self _ _
  cases stage with
  | reading tryIdx =>
    cases hcall
    apply knownOf_onward
    rintro ⟨text, confidence⟩ hread
    obtain ⟨body, rfl, hpayload⟩ := bind_eq_ok.1 hread
    exact ⟨body, List.mem_cons_self, hpayload⟩
  | resolving tryIdx text confidence =>
    cases hcall
    apply knownOf_onward
    intro dictionaryVersion hresolved
    obtain ⟨item, rfl, hversion⟩ := bind_eq_ok.1 hresolved
    exact ⟨HasRead.mono hbefore hsub, item, List.mem_cons_self, hversion⟩
  | querying tryIdx text confidence dictionaryVersion =>
    cases hcall
    apply knownOf_onward
    rintro dictionary rfl
    exact ⟨text, dictionaryVersion, dictionary, hbefore.1.mono hsub, hbefore.2.mono hsub, List.mem_cons_self, rfl⟩
  | responding tryIdx c confidence =>
    cases hcall
    apply knownOf_onward
    rintro _ rfl
    exact ⟨HasClassified.mono hbefore hsub, List.mem_cons_self⟩
  | augmenting tryIdx c confidence =>
    cases hcall
    apply knownOf_onward
    rintro _ rfl
    exact ⟨hbefore.1.mono hsub, hsub hbefore.2, List.mem_cons_self⟩
  | pausing tryIdx =>
    cases hcall
    cases answer <;> trivial
  | exhausted =>
    cases hcall
    cases answer with
    | ok _ => exact List.mem_cons_self
    | error e => trivial
  | matched _ _ | fallenBack | failed => cases hcall

end KeywordMatcher

end Pipeline

end SafetyConfirmation
