import Mathlib.Data.Option.Basic
import SafetyConfirmation.KeywordMatcher.Handler

/-!
# What one invocation leaves in the Response row

The four fields that KeywordMatcher owns, after one run of the handler on a transcript: every call may succeed, or fail
with any error, and a write that fails may have been applied. The fallback does not know whether an earlier try has stored
the classification, and overwrites half of it.
-/

namespace SafetyConfirmation

namespace KeywordMatcher

open Response

/-- What the calls of the run read where they succeed. -/
structure Content where
  text : String
  confidence : ℚ
  dictionaryVersion : Int
  dictionary : KeywordLists

def Answer.error? : Answer → Option PyError
  | .ok => none
  | .error e _ => some e

def Answer.applied : Answer → Bool
  | .ok => true
  | .error _ applied => applied

/-- How the calls of one try end: the error of a read, the answer of a write. -/
structure Outcomes where
  readTranscript : Option PyError := none
  resolveDictionaryVersion : Option PyError := none
  getDictionarySnapshot : Option PyError := none
  recordResponse : Answer := .ok
  recordTranscriptMeta : Answer := .ok

def readAs {α : Type} (value : α) : Option PyError → Except PyError α
  | none => .ok value
  | some e => .error e

def Outcomes.toTry (content : Content) (o : Outcomes) : Try where
  readTranscript := readAs (content.text, content.confidence) o.readTranscript
  resolveDictionaryVersion := readAs content.dictionaryVersion o.resolveDictionaryVersion
  getDictionarySnapshot := readAs content.dictionary o.getDictionarySnapshot
  recordResponse := o.recordResponse
  recordTranscriptMeta := o.recordTranscriptMeta

/-- The first error of the reads. -/
def Outcomes.readError? (o : Outcomes) : Option PyError :=
  o.readTranscript <|> o.resolveDictionaryVersion <|> o.getDictionarySnapshot

/-- The first error of the try. -/
def Outcomes.error? (o : Outcomes) : Option PyError :=
  o.readError? <|> o.recordResponse.error? <|> o.recordTranscriptMeta.error?

/-- The try has stored the classification. -/
def Outcomes.stores (o : Outcomes) : Bool := o.readError?.isNone && o.recordResponse.applied

/-- The try ends in an error that calls for another one. -/
def Outcomes.retries (o : Outcomes) : Bool := o.error?.any isRetryable

/-- The four fields. -/
structure Fields where
  voiceStatus : Option VoiceStatus
  matchedKeywords : Option (List String)
  transcriptExcerpt : Option String
  dictionaryVersion : Option Int
  deriving DecidableEq

def fieldsOf (row : Option Response) : Fields where
  voiceStatus := row.bind Response.voiceStatus
  matchedKeywords := row.bind Response.matchedKeywords
  transcriptExcerpt := row.bind Response.transcriptExcerpt
  dictionaryVersion := row.bind Response.dictionaryVersion

def Fields.ofClassification (c : Classification) : Fields where
  voiceStatus := some c.voiceStatus
  matchedKeywords := some c.matchedKeywords
  transcriptExcerpt := some c.excerpt
  dictionaryVersion := some c.dictionaryVersion

/-- What the fallback leaves of the fields. -/
def Fields.fallback (fields : Fields) : Fields :=
  { fields with voiceStatus := some .other, matchedKeywords := some [] }

def runWrites (writes : List RowWrite) (row : Option Response) : Option Response := writes.foldl (fun row w => w.run row) row

variable (lower : String → String)

def Content.classification (content : Content) : Classification :=
  KeywordMatcher.classification lower content.text content.dictionary content.dictionaryVersion

/-- What a try writes of the Response row. -/
def Outcomes.stored (content : Content) (o : Outcomes) : List RowWrite :=
  if o.stores then [.recordResponse (content.classification lower)] else []

/-- The four fields are as before and the handler has raised, or they are the classification, or `OTHER` was written and
no try had written the classification. The answers of a fourth try are not asked for. -/
structure Consistent (content : Content) (outcomes : Nat → Outcomes) (fallback : Answer) (row : Option Response) :
    Prop where
  tries : ∀ others : Nat → Outcomes, (∀ i < 3, others i = outcomes i) →
    lambdaHandler lower (fun i => (others i).toTry content) fallback =
      lambdaHandler lower (fun i => (outcomes i).toTry content) fallback
  fields :
    let run := lambdaHandler lower (fun i => (outcomes i).toTry content) fallback
    let after := fieldsOf (runWrites run.1 row)
    (after = fieldsOf row ∧ ∃ e, run.2 = .error e) ∨ after = .ofClassification (content.classification lower) ∨
      (∀ c, .recordResponse c ∉ run.1) ∧ after = (fieldsOf row).fallback

/-- The fallback is written over a classification that an earlier try has stored. -/
structure Overwrites (content : Content) (outcomes : Nat → Outcomes) (fallback : Answer) : Prop where
  classified : (content.classification lower).voiceStatus ≠ .other
  retries : ∀ i < 3, (outcomes i).retries = true
  stores : ∃ i < 3, (outcomes i).stores = true
  applied : fallback.applied = true

/-! ### One try -/

section

variable {lower} {content : Content} {outcomes : Nat → Outcomes} {fallback : Answer}

theorem classify_toTry (o : Outcomes) :
    classify lower (o.toTry content) = readAs (content.classification lower) o.readError? := by
  obtain ⟨transcript, version, snapshot, response, transcriptMeta⟩ := o
  cases transcript with
  | some e => rfl
  | none =>
    cases version with
    | some e => rfl
    | none => cases snapshot <;> rfl

/-- A try writes the classification or nothing, and ends with its first error. -/
theorem runMatchingPipeline_toTry (o : Outcomes) :
    runMatchingPipeline lower (o.toTry content) =
      (o.stored lower content, readAs (content.classification lower) o.error?) := by
  rw [runMatchingPipeline, classify_toTry, Outcomes.stored, Outcomes.stores, Outcomes.error?, Outcomes.toTry]
  generalize o.readError? = readError
  obtain ⟨transcript, version, snapshot, response, transcriptMeta⟩ := o
  cases readError with
  | some e => rfl
  | none =>
    cases response with
    | error e applied => rfl
    | ok => cases transcriptMeta <;> rfl

theorem stores_of_error?_eq_none {o : Outcomes} (h : o.error? = none) : o.stores = true := by
  rw [Outcomes.error?, Option.orElse_eq_none, Option.orElse_eq_none] at h
  obtain ⟨hread, hresponse, -⟩ := h
  rw [Outcomes.stores, hread, Option.isNone_none, Bool.true_and]
  cases hanswer : o.recordResponse with
  | ok => rfl
  | error e applied =>
    rw [hanswer] at hresponse
    cases hresponse

/-! ### The tries -/

/-- The first try ends the run or leaves it to the others. -/
theorem runWithRetry_succ (tryIdx left : Nat) :
    let later := runWithRetry lower (fun i => (outcomes i).toTry content) (tryIdx + 1) left
    let stored := (outcomes tryIdx).stored lower content
    runWithRetry lower (fun i => (outcomes i).toTry content) tryIdx (left + 1) =
      match (outcomes tryIdx).error? with
      | none => (stored, .ok (content.classification lower))
      | some e => if isRetryable e then (stored ++ later.1, later.2) else (stored, .error (.raised e)) := by
  simp only [runWithRetry, runMatchingPipeline_toTry]
  generalize (outcomes tryIdx).error? = error
  cases error <;> rfl

theorem mem_stored {o : Outcomes} {w : RowWrite} (h : w ∈ o.stored lower content) :
    w = .recordResponse (content.classification lower) := by
  rw [Outcomes.stored, List.mem_ite_nil_right] at h
  exact List.mem_singleton.1 h.2

theorem mem_runWithRetry_toTry {tryIdx left : Nat} {w : RowWrite}
    (h : w ∈ (runWithRetry lower (fun i => (outcomes i).toTry content) tryIdx left).1) :
    w = .recordResponse (content.classification lower) := by
  induction left generalizing tryIdx with
  | zero => cases h
  | succ left ih =>
    rw [runWithRetry_succ] at h
    split at h
    · exact mem_stored h
    · split at h
      · obtain hfirst | hlater := List.mem_append.1 h
        · exact mem_stored hfirst
        · exact ih hlater
      · exact mem_stored h

/-- How the run of the tries ends: with a try that succeeds, with one that is not to be made again, or with none left. -/
theorem runWithRetry_cases (tryIdx left : Nat) :
    let run := runWithRetry lower (fun i => (outcomes i).toTry content) tryIdx left
    (run.2 = .ok (content.classification lower) ∧ run.1 ≠ [] ∧
        ∃ i ∈ List.range' tryIdx left, (outcomes i).retries = false) ∨
      (∃ e, run.2 = .error (.raised e) ∧ ∃ i ∈ List.range' tryIdx left, (outcomes i).retries = false) ∨
      (run.2 = .error .exhausted ∧ (∀ i ∈ List.range' tryIdx left, (outcomes i).retries = true) ∧
        (run.1 ≠ [] ↔ ∃ i ∈ List.range' tryIdx left, (outcomes i).stores = true)) := by
  induction left generalizing tryIdx with
  | zero => exact .inr (.inr ⟨rfl, fun _ h => (List.not_mem_nil h).elim, by simp [runWithRetry]⟩)
  | succ left ih =>
    intro run
    have hrun : run = _ := runWithRetry_succ tryIdx left
    have hretries : (outcomes tryIdx).retries = (outcomes tryIdx).error?.any isRetryable := rfl
    have hfirst : tryIdx ∈ List.range' tryIdx (left + 1) := List.mem_range'.2 ⟨0, Nat.succ_pos _, rfl⟩
    clear_value run
    cases herror : (outcomes tryIdx).error? with
    | none =>
      rw [herror] at hrun hretries
      rw [hrun]
      refine .inl ⟨rfl, ?_, tryIdx, hfirst, hretries⟩
      simp [Outcomes.stored, stores_of_error?_eq_none herror]
    | some e =>
      rw [herror] at hrun hretries
      dsimp only at hrun
      rw [Option.any_some] at hretries
      cases hretry : isRetryable e with
      | false =>
        rw [hretry, if_neg Bool.false_ne_true] at hrun
        rw [hrun]
        exact .inr (.inl ⟨e, rfl, tryIdx, hfirst, hretries.trans hretry⟩)
      | true =>
        rw [hretry, if_pos rfl] at hrun
        rw [hrun, List.range'_succ]
        simp only [List.exists_mem_cons_iff, List.forall_mem_cons]
        obtain ⟨hok, hwrites, hlater⟩ | ⟨e', hraised, hlater⟩ | ⟨hexhausted, hall, hwrites⟩ := ih (tryIdx + 1)
        · exact .inl ⟨hok, fun h => hwrites (List.append_eq_nil_iff.1 h).2, .inr hlater⟩
        · exact .inr (.inl ⟨e', hraised, .inr hlater⟩)
        · refine .inr (.inr ⟨hexhausted, ⟨hretries.trans hretry, hall⟩, ?_⟩)
          rw [← hwrites, Ne, List.append_eq_nil_iff, not_and_or]
          refine or_congr_left ?_
          cases hstores : (outcomes tryIdx).stores <;> simp [Outcomes.stored, hstores]

/-! ### The row -/

theorem fieldsOf_recordResponse (c : Classification) (row : Option Response) :
    fieldsOf ((RowWrite.recordResponse c).run row) = .ofClassification c := by
  cases row <;> rfl

theorem fieldsOf_recordOtherFallback (row : Option Response) :
    fieldsOf (RowWrite.recordOtherFallback.run row) = (fieldsOf row).fallback := by
  cases row <;> rfl

theorem runWrites_append (writes later : List RowWrite) (row : Option Response) :
    runWrites (writes ++ later) row = runWrites later (runWrites writes row) := List.foldl_append

/-- Writes of one classification leave it, however many there are. -/
theorem fieldsOf_runWrites {writes : List RowWrite} {c : Classification} (h : ∀ w ∈ writes, w = .recordResponse c)
    (hne : writes ≠ []) (row : Option Response) : fieldsOf (runWrites writes row) = .ofClassification c := by
  rw [← List.dropLast_append_getLast hne, runWrites_append, h _ (List.getLast_mem hne)]
  exact fieldsOf_recordResponse c _

theorem runWithRetry_congr {env env' : Nat → Try} {tryIdx left : Nat}
    (h : ∀ i ∈ List.range' tryIdx left, env' i = env i) :
    runWithRetry lower env' tryIdx left = runWithRetry lower env tryIdx left := by
  induction left generalizing tryIdx with
  | zero => rfl
  | succ left ih =>
    rw [List.range'_succ, List.forall_mem_cons] at h
    rw [runWithRetry, runWithRetry, h.1, ih h.2]

theorem mem_range'_zero {i n : Nat} : i ∈ List.range' 0 n ↔ i < n := by
  rw [← List.range_eq_range', List.mem_range]

/-- Where the tries run out, the fallback is written after what they have written. -/
theorem lambdaHandler_of_exhausted {env : Nat → Try}
    (h : (runWithRetry lower env 0 maxKeywordMatcherAttempts).2 = .error .exhausted) :
    lambdaHandler lower env fallback =
      ((runWithRetry lower env 0 maxKeywordMatcherAttempts).1 ++ (if fallback.applied then [.recordOtherFallback] else []),
        readAs .other fallback.error?) := by
  rw [lambdaHandler]
  generalize runWithRetry lower env 0 maxKeywordMatcherAttempts = run at h ⊢
  obtain ⟨writes, result⟩ := run
  cases h
  cases fallback with
  | ok => rfl
  | error e applied => cases applied <;> simp [Answer.applied, Answer.error?, readAs]

theorem ofClassification_fallback {c : Classification} (hmatched : c.voiceStatus = .other → c.matchedKeywords = []) :
    (Fields.ofClassification c).fallback = .ofClassification c ↔ c.voiceStatus = .other := by
  constructor
  · intro h
    have hstatus := congrArg Fields.voiceStatus h
    exact (Option.some.inj hstatus).symm
  · intro h
    rw [Fields.fallback, Fields.ofClassification, h, hmatched h]

/-- Where a fallback is written, the fields are as the claim has them unless it is over another classification; a row that
already was what is left does not show it. -/
theorem fields_of_exhausted (row : Option Response)
    (hexhausted : (runWithRetry lower (fun i => (outcomes i).toTry content) 0 maxKeywordMatcherAttempts).2 =
      .error .exhausted)
    (hretries : ∀ i < 3, (outcomes i).retries = true)
    (hwrites : (runWithRetry lower (fun i => (outcomes i).toTry content) 0 maxKeywordMatcherAttempts).1 ≠ [] ↔
      ∃ i < 3, (outcomes i).stores = true) :
    (let run := lambdaHandler lower (fun i => (outcomes i).toTry content) fallback
      let after := fieldsOf (runWrites run.1 row)
      (after = fieldsOf row ∧ ∃ e, run.2 = .error e) ∨ after = .ofClassification (content.classification lower) ∨
        (∀ c, .recordResponse c ∉ run.1) ∧ after = (fieldsOf row).fallback) ↔
      ¬ Overwrites lower content outcomes fallback ∨
        fieldsOf row = (Fields.ofClassification (content.classification lower)).fallback ∧ fallback ≠ .ok := by
  have hmem : ∀ w ∈ (runWithRetry lower (fun i => (outcomes i).toTry content) 0 maxKeywordMatcherAttempts).1,
      w = .recordResponse (content.classification lower) := fun w hw => mem_runWithRetry_toTry hw
  dsimp only
  rw [lambdaHandler_of_exhausted hexhausted]
  generalize (runWithRetry lower (fun i => (outcomes i).toTry content) 0 maxKeywordMatcherAttempts).1 = writes
    at hwrites hmem ⊢
  have hother := @ofClassification_fallback (content.classification lower) (Keyword.eq_nil_of_classifyIn lower)
  cases happlied : fallback.applied with
  | false =>
    -- The fallback was not written: the row is as the tries have left it.
    have hover : ¬ Overwrites lower content outcomes fallback := fun h => absurd (h.applied.symm.trans happlied) (by decide)
    refine iff_of_true ?_ (.inl hover)
    rw [if_neg Bool.false_ne_true, List.append_nil]
    by_cases hnil : writes = []
    · cases fallback with
      | ok => cases happlied
      | error e applied =>
        rw [hnil]
        exact .inl ⟨rfl, e, rfl⟩
    · exact .inr (.inl (fieldsOf_runWrites hmem hnil row))
  | true =>
    rw [if_pos rfl, runWrites_append]
    show (fieldsOf (RowWrite.recordOtherFallback.run _) = _ ∧ _ ∨ fieldsOf (RowWrite.recordOtherFallback.run _) = _ ∨
      _ ∧ fieldsOf (RowWrite.recordOtherFallback.run _) = _) ↔ _
    rw [fieldsOf_recordOtherFallback]
    by_cases hnil : writes = []
    · have hover : ¬ Overwrites lower content outcomes fallback := fun h => hwrites.2 h.stores hnil
      refine iff_of_true (.inr (.inr ⟨?_, ?_⟩)) (.inl hover)
      · rw [hnil]
        intro c hc
        cases List.mem_singleton.1 hc
      · rw [hnil]
        rfl
    · rw [fieldsOf_runWrites hmem hnil row, hother]
      have hstored : .recordResponse (content.classification lower) ∈ writes := by
        have hlast := List.getLast_mem hnil
        rwa [hmem _ hlast] at hlast
      have hthird : ¬ ∀ c, RowWrite.recordResponse c ∉ writes ++ [.recordOtherFallback] := fun h =>
        h _ (List.mem_append_left _ hstored)
      have hover : Overwrites lower content outcomes fallback ↔ (content.classification lower).voiceStatus ≠ .other :=
        ⟨fun h => h.classified, fun h => ⟨h, hretries, hwrites.1 hnil, happlied⟩⟩
      have hraised : (∃ e, readAs VoiceStatus.other fallback.error? = .error e) ↔ fallback ≠ .ok := by
        cases fallback with
        | ok => exact iff_of_false (fun ⟨e, he⟩ => by cases he) (fun h => h rfl)
        | error e applied => exact iff_of_true ⟨e, rfl⟩ Answer.noConfusion
      constructor
      · rintro (⟨hrow, hne⟩ | hsame | ⟨hnone, -⟩)
        · exact .inr ⟨hrow.symm, hraised.1 hne⟩
        · exact .inl fun h => h.classified hsame
        · exact absurd hnone hthird
      · rintro (hfree | ⟨hrow, hne⟩)
        · exact .inr (.inl (not_not.1 (mt hover.2 hfree)))
        · exact .inl ⟨hrow.symm, hraised.2 hne⟩

/-- One run leaves one consistent classification, unless the fallback is written over one that a try before it has
stored. A row that was what is left of it, after a fallback that raised, does not show it. -/
theorem consistent_iff (lower : String → String) (content : Content) (outcomes : Nat → Outcomes) (fallback : Answer)
    (row : Option Response) :
    Consistent lower content outcomes fallback row ↔ ¬ Overwrites lower content outcomes fallback ∨
      fieldsOf row = (Fields.ofClassification (content.classification lower)).fallback ∧ fallback ≠ .ok := by
  have htries : ∀ others : Nat → Outcomes, (∀ i < 3, others i = outcomes i) →
      lambdaHandler lower (fun i => (others i).toTry content) fallback =
        lambdaHandler lower (fun i => (outcomes i).toTry content) fallback := by
    intro others hsame
    rw [lambdaHandler, lambdaHandler, runWithRetry_congr]
    intro i hi
    rw [hsame i (mem_range'_zero.1 hi)]
  have hmem : ∀ w ∈ (runWithRetry lower (fun i => (outcomes i).toTry content) 0 maxKeywordMatcherAttempts).1,
      w = .recordResponse (content.classification lower) := fun w hw => mem_runWithRetry_toTry hw
  have hfields : Consistent lower content outcomes fallback row ↔ _ := ⟨fun h => h.fields, fun h => ⟨htries, h⟩⟩
  rw [hfields]
  obtain ⟨hok, hne, i, hi, hstop⟩ | ⟨e, hraised, i, hi, hstop⟩ | ⟨hexhausted, hall, hwrites⟩ :=
    @runWithRetry_cases lower content outcomes 0 maxKeywordMatcherAttempts
  · have hover : ¬ Overwrites lower content outcomes fallback := fun h =>
      absurd ((h.retries i (mem_range'_zero.1 hi)).symm.trans hstop) (by decide)
    refine iff_of_true (.inr (.inl ?_)) (.inl hover)
    have hhandler : (lambdaHandler lower (fun i => (outcomes i).toTry content) fallback).1 =
        (runWithRetry lower (fun i => (outcomes i).toTry content) 0 maxKeywordMatcherAttempts).1 := by
      rw [lambdaHandler]
      generalize runWithRetry lower (fun i => (outcomes i).toTry content) 0 maxKeywordMatcherAttempts = run at hok ⊢
      obtain ⟨writes, result⟩ := run
      cases hok
      rfl
    rw [hhandler]
    exact fieldsOf_runWrites hmem hne row
  · have hover : ¬ Overwrites lower content outcomes fallback := fun h =>
      absurd ((h.retries i (mem_range'_zero.1 hi)).symm.trans hstop) (by decide)
    refine iff_of_true ?_ (.inl hover)
    dsimp only
    have hhandler : lambdaHandler lower (fun i => (outcomes i).toTry content) fallback =
        ((runWithRetry lower (fun i => (outcomes i).toTry content) 0 maxKeywordMatcherAttempts).1, .error e) := by
      rw [lambdaHandler]
      generalize runWithRetry lower (fun i => (outcomes i).toTry content) 0 maxKeywordMatcherAttempts = run at hraised ⊢
      obtain ⟨writes, result⟩ := run
      cases hraised
      rfl
    rw [hhandler]
    by_cases hnil : (runWithRetry lower (fun i => (outcomes i).toTry content) 0 maxKeywordMatcherAttempts).1 = []
    · rw [hnil]
      exact .inl ⟨rfl, e, rfl⟩
    · exact .inr (.inl (fieldsOf_runWrites hmem hnil row))
  · refine fields_of_exhausted row hexhausted (fun i hi => hall i (mem_range'_zero.2 hi)) (hwrites.trans ?_)
    exact exists_congr fun i => and_congr_left fun _ => mem_range'_zero

end

/-- A transcript that is told to be from someone safe. -/
def fineContent : Content where
  text := "I am fine"
  confidence := 1
  dictionaryVersion := 1
  dictionary := { safe := ["fine"] }

/-- The classification is stored, and the second write of the try is throttled. -/
def throttled : Outcomes where
  recordTranscriptMeta := .error (.clientError "ThrottlingException") false

/-- Three such tries and the fallback: the row of someone safe says `OTHER`, beside the excerpt of the answer. -/
theorem not_consistent_throttled :
    let run := lambdaHandler id (fun _ => throttled.toTry fineContent) .ok
    fieldsOf (runWrites run.1 none) =
        { voiceStatus := some .other, matchedKeywords := some [], transcriptExcerpt := some "I am fine",
          dictionaryVersion := some 1 } ∧
      ¬ Consistent id fineContent (fun _ => throttled) .ok none := by
  refine ⟨by decide, fun h => ?_⟩
  obtain ⟨-, e, hraised⟩ | hsame | ⟨hnone, -⟩ := h.fields
  · cases hraised
  · exact absurd hsame (by decide)
  · exact hnone (fineContent.classification id) (by decide)

end KeywordMatcher

end SafetyConfirmation
