import SafetyConfirmation.Lib.Checks
import SafetyConfirmation.Response.Row

/-!
# The KeywordMatcher lambda

One handler run: up to three tries of the read, classify and write pipeline, and the `OTHER` fallback when
every try met a retryable error. The environment answers each AWS call; a write whose answer is an error may
have been applied all the same. What a run does to the Response table is the list of its writes, in order.
-/

namespace SafetyConfirmation

namespace KeywordMatcher

open Checks

inductive Answer where
  | ok
  | error (e : PyError) (applied : Bool)

/-- The answers of one try: what its reads return, and how its two writes end. -/
structure Try where
  readTranscript : Except PyError (String × ℚ)
  resolveDictionaryVersion : Except PyError Int
  getDictionarySnapshot : Except PyError KeywordLists
  recordResponse : Answer
  recordTranscriptMeta : Answer

def excerptMaxChars : Nat := 100

def truncateExcerpt (text : String) : String := String.ofList (text.toList.take excerptMaxChars)

def maxKeywordMatcherAttempts : Nat := 3

def retryableErrorCodes : List String :=
  ["ThrottlingException", "ProvisionedThroughputExceededException", "RequestLimitExceeded", "InternalServerError",
    "ServiceUnavailable", "SlowDown"]

def isRetryable : PyError → Bool
  | .clientError code => retryableErrorCodes.contains code
  | _ => false

variable (lower : String → String)

def classification (text : String) (dictionary : KeywordLists) (dictionaryVersion : Int) : Classification where
  voiceStatus := (Keyword.classifyVoiceStatus lower text dictionary).1
  matchedKeywords := (Keyword.classifyVoiceStatus lower text dictionary).2
  excerpt := truncateExcerpt text
  dictionaryVersion := dictionaryVersion
  isClassified := Keyword.isClassified_classifyVoiceStatus lower text dictionary

/-- The pipeline up to its first write. -/
def classify (t : Try) : Except PyError Classification := do
  let (text, _) ← t.readTranscript
  let dictionaryVersion ← t.resolveDictionaryVersion
  let dictionary ← t.getDictionarySnapshot
  return classification lower text dictionary dictionaryVersion

/-- `_run_matching_pipeline`: the writes of the Response row, and what it returns. -/
def runMatchingPipeline (t : Try) : List RowWrite × Except PyError Classification :=
  match classify lower t with
  | .error e => ([], .error e)
  | .ok c =>
    match t.recordResponse, t.recordTranscriptMeta with
    | .error e applied, _ => (if applied then [.recordResponse c] else [], .error e)
    | .ok, .error e _ => ([.recordResponse c], .error e)
    | .ok, .ok => ([.recordResponse c], .ok c)

inductive Failure where
  | exhausted
  | raised (e : PyError)

/-- `_run_with_retry`, with `left` tries to go from `tryIdx` on. -/
def runWithRetry (env : Nat → Try) (tryIdx : Nat) : Nat → List RowWrite × Except Failure Classification
  | 0 => ([], .error .exhausted)
  | left + 1 =>
    let (writes, result) := runMatchingPipeline lower (env tryIdx)
    match result with
    | .ok c => (writes, .ok c)
    | .error e =>
      if isRetryable e then
        let (later, result) := runWithRetry env (tryIdx + 1) left
        (writes ++ later, result)
      else (writes, .error (.raised e))

/-- `lambda_handler` on an outbound transcript key: its writes, and the status it returns. -/
def lambdaHandler (env : Nat → Try) (fallback : Answer) : List RowWrite × Except PyError VoiceStatus :=
  match runWithRetry lower env 0 maxKeywordMatcherAttempts with
  | (writes, .ok c) => (writes, .ok c.voiceStatus)
  | (writes, .error (.raised e)) => (writes, .error e)
  | (writes, .error .exhausted) =>
    match fallback with
    | .ok => (writes ++ [.recordOtherFallback], .ok .other)
    | .error e applied => (if applied then writes ++ [.recordOtherFallback] else writes, .error e)

end KeywordMatcher

end SafetyConfirmation
