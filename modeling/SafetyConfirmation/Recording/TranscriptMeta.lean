import SafetyConfirmation.KeywordMatcher.Handler

/-!
# The TranscriptMeta row and its writers

One row for each recording. TranscribeStarter puts the job and the key of the transcript, and KeywordMatcher adds what
it read there.
-/

namespace SafetyConfirmation

open KeyedStore Checks

/-- A row of the TranscriptMeta table, keyed by `cycleId` and `employeeIdSeq`. -/
structure TranscriptMeta where
  transcribeJobId : Option String := none
  transcriptS3Key : Option String := none
  transcriptExcerpt : Option String := none
  confidence : Option ℚ := none
  languageCode : Option String := none
  deriving DecidableEq

namespace TranscriptMeta

/-- `_record_transcript_meta` of TranscribeStarter: PutItem on `attribute_not_exists(cycleId)`, whose failure is
swallowed. -/
def recordJob (jobName transcriptS3Key : String) : Write TranscriptMeta :=
  .put { transcribeJobId := some jobName, transcriptS3Key := some transcriptS3Key } fun row => row.isNone

/-- `_record_transcript_meta` of KeywordMatcher: UpdateItem without a condition. -/
def recordExcerpt (excerpt : String) (confidence : ℚ) : Write TranscriptMeta :=
  .modify {} fun row =>
    { row with transcriptExcerpt := some excerpt, confidence := some confidence, languageCode := some "ja-JP" }

/-- The item a read returns. -/
def item (key : String × String) (row : TranscriptMeta) : Value :=
  .dict ([("cycleId", .str key.1), ("employeeIdSeq", .str key.2)] ++
    Value.entry "transcribeJobId" (row.transcribeJobId.map .str) ++
    Value.entry "transcriptS3Key" (row.transcriptS3Key.map .str) ++
    Value.entry "transcriptExcerpt" (row.transcriptExcerpt.map .str) ++
    Value.entry "confidence" (row.confidence.map .decimal) ++
    Value.entry "languageCode" (row.languageCode.map .str))

end TranscriptMeta

namespace Recording

/-! ### The job -/

def transcribeJobNameMax : Nat := 200

/-- `_JOB_NAME_SANITIZE_RE.sub("-", …)`, one character at a time. -/
def sanitizeJobNameChar (c : Char) : Char := if c = ':' ∨ c = '/' ∨ c = '#' then '-' else c

def deriveTranscribeJobName (metaPk metaSk : String) : Except PyError String := do
  require (metaPk ≠ "" ∧ metaSk ≠ "") (.valueError "meta_pk and meta_sk must be non-empty; got"
    (some (.dict [("meta_pk", .str metaPk), ("meta_sk", .str metaSk)])))
  return String.ofList
    ((("safety-confirm-" ++ metaPk ++ "-" ++ metaSk).toList.map sanitizeJobNameChar).take transcribeJobNameMax)

end Recording

namespace KeywordMatcher

/-- What a try writes into the row, if it gets there: nothing when an earlier call of it failed, or when the update
failed and was not applied. -/
def transcriptMetaWrite? (lower : String → String) (t : Try) : Option (String × ℚ) :=
  match t.readTranscript, classify lower t, t.recordResponse, t.recordTranscriptMeta with
  | .ok (_, confidence), .ok c, .ok, .ok => some (c.excerpt, confidence)
  | .ok (_, confidence), .ok c, .ok, .error _ applied => if applied then some (c.excerpt, confidence) else none
  | _, _, _, _ => none

theorem transcriptMetaWrite?_eq_some {lower : String → String} {t : Try} {written : String × ℚ}
    (h : transcriptMetaWrite? lower t = some written) :
    ∃ text confidence, t.readTranscript = .ok (text, confidence) ∧ written = (truncateExcerpt text, confidence) := by
  rw [transcriptMetaWrite?] at h
  have hexcerpt : ∀ {text confidence c}, t.readTranscript = .ok (text, confidence) → classify lower t = .ok c →
      c.excerpt = truncateExcerpt text := by
    intro text confidence c hread hc
    rw [classify, hread, ok_bind] at hc
    obtain ⟨_, -, hc⟩ := bind_eq_ok.1 hc
    obtain ⟨_, -, hc⟩ := bind_eq_ok.1 hc
    cases hc
    rfl
  split at h
  · rename_i text confidence c hread hc _ _
    cases h
    exact ⟨text, confidence, hread, by rw [hexcerpt hread hc]⟩
  · rename_i text confidence c _ _ hread hc _ _
    split at h
    · cases h
      exact ⟨text, confidence, hread, by rw [hexcerpt hread hc]⟩
    · cases h
  · cases h

/-- A try that succeeds wrote the row. -/
theorem transcriptMetaWrite?_isSome {lower : String → String} {t : Try} {writes : List RowWrite} {c : Classification}
    (h : runMatchingPipeline lower t = (writes, .ok c)) : (transcriptMetaWrite? lower t).isSome = true := by
  rw [runMatchingPipeline] at h
  cases hclassify : classify lower t with
  | error e =>
    simp only [hclassify] at h
    cases h
  | ok c' =>
    obtain ⟨⟨text, confidence⟩, hread, -⟩ := bind_eq_ok.1 hclassify
    simp only [hclassify] at h
    rw [transcriptMetaWrite?, hread, hclassify]
    cases hresponse : t.recordResponse with
    | error e applied =>
      simp only [hresponse] at h
      cases h
    | ok =>
      cases hmeta : t.recordTranscriptMeta with
      | error e applied =>
        simp only [hresponse, hmeta] at h
        cases h
      | ok => rfl

end KeywordMatcher

end SafetyConfirmation
