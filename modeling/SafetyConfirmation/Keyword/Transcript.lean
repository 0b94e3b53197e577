import Mathlib.Algebra.BigOperators.Group.List.Basic
import Mathlib.Data.Rat.Lemmas
import SafetyConfirmation.Data.Value
import SafetyConfirmation.Lib.Checks
import SafetyConfirmation.Lib.Numerals

/-!
# The two readers of a transcript

`extract_transcript_payload` of the lambdas and `parseTranscript` of the pages, on the value that a JSON text stands for.
They find the same transcript, unless Python refuses a large integer. Of an item the lambda counts the confidence when it is
a pronunciation and the confidence lies between 0 and 1, the page whenever it can make a number of it.
-/

namespace SafetyConfirmation

namespace Transcript

open Checks Numerals

/-! ### `json.loads` -/

mutual

/-- The integers of a value, at any depth. -/
def integers : Value → List Int
  | .int n => [n]
  | .list items => integersOfItems items
  | .dict entries => integersOfEntries entries
  | _ => []

def integersOfItems : List Value → List Int
  | [] => []
  | item :: items => integers item ++ integersOfItems items

def integersOfEntries : List (String × Value) → List Int
  | [] => []
  | (_, v) :: entries => integers v ++ integersOfEntries entries

end

/-- No integer has more digits than `int` reads. -/
def Loadable (v : Value) : Prop := ∀ n ∈ integers v, n.natAbs < 10 ^ 4300

instance : DecidablePred Loadable := fun v => inferInstanceAs (Decidable (∀ n ∈ integers v, n.natAbs < 10 ^ 4300))

/-- `json.loads`, on a text that stands for the value. -/
def loads (v : Value) : Except PyError Value := do
  require (Loadable v) (.valueError "Exceeds the limit (4300 digits) for integer string conversion")
  return v

/-! ### `extract_transcript_payload` -/

/-- Integers from here on are rounded past the greatest float. -/
def floatLimit : Nat := 2 ^ 1024 - 2 ^ 970

/-- `float(v)`, `none` where it raises an exception that the loop skips the item for. -/
def floatOf? : Value → Except PyError (Option Number)
  | .str s => .ok (floatOf s.toList)
  | .int n => if n.natAbs < floatLimit then .ok (some (.finite n)) else .error (.other "OverflowError")
  | v => .ok (v.number?.map .finite)

def InUnit (q : ℚ) : Prop := 0 ≤ q ∧ q ≤ 1

instance (q : ℚ) : Decidable (InUnit q) := inferInstanceAs (Decidable (_ ∧ _))

/-- The number of an exact float in `[0, 1]`. -/
def inUnit? : Number → Option ℚ
  | .finite q => if InUnit q then some q else none
  | _ => none

/-- `v[0]` of a list that is not empty. -/
def firstOf (v : Option Value) : Option Value :=
  match v with
  | some (.list (first :: _)) => some first
  | _ => none

def isDict : Value → Bool
  | .dict _ => true
  | _ => false

def isPronunciation (item : Value) : Bool := (item.get? "type").bind Value.asStr? == some "pronunciation"

/-- An iteration of `_iter_pronunciation_confidences`. -/
def pronunciationConfidence (item : Value) : Except PyError (Option ℚ) :=
  if isPronunciation item then
    match firstOf (item.get? "alternatives") with
    | some first =>
      match first.get? "confidence" with
      | none | some .none => .ok none
      | some raw => do
        let conf ← floatOf? raw
        return conf.bind inUnit?
    | none => .ok none
  else .ok none

def iterPronunciationConfidences (items : List Value) : Except PyError (List ℚ) := do
  let confidences ← items.mapM pronunciationConfidence
  return confidences.filterMap id

def mean (confidences : List ℚ) : ℚ := if confidences = [] then 0 else confidences.sum / confidences.length

def typeNameOf (v : Option Value) : String := (v.getD .none).typeName

/-- The average of the items, 0 where `items` is no list. -/
def avgConfidence (results : Value) : Except PyError ℚ :=
  match results.get? "items" with
  | some (.list items) => do
    let confidences ← iterPronunciationConfidences items
    return mean confidences
  | _ => .ok 0

def extractTranscriptPayload (body : Value) : Except PyError (String × ℚ) := do
  let body ← demand ((some body).filter isDict)
    (.valueError ("transcript body must be a dict; got " ++ body.typeName))
  let results ← demand ((body.get? "results").filter isDict)
    (.valueError ("transcript.results must be a dict; got " ++ typeNameOf (body.get? "results")))
  let first ← demand (firstOf (results.get? "transcripts"))
    (.valueError "transcript.results.transcripts must be a non-empty list; got" (results.get? "transcripts"))
  let first ← demand ((some first).filter isDict)
    (.valueError ("transcript.results.transcripts[0] must be a dict; got " ++ first.typeName))
  let text ← demand ((first.get? "transcript").bind Value.asStr?) (.valueError
    ("transcript.results.transcripts[0].transcript must be str; got " ++ typeNameOf (first.get? "transcript")))
  let confidence ← avgConfidence results
  return (text, confidence)

/-! ### `parseTranscript` -/

structure ParsedTranscript where
  text : String
  confidence : Option Number

/-- The number that a confidence is for the page, `NaN` where it is none. -/
def numberOf (c : Value) : Number :=
  match c with
  | .str c => parseFloat c.toList
  | c => (c.asNumber?.map Number.finite).getD .nan

/-- An iteration of `collectConfidences`. -/
def collectedConfidence (item : Value) : Option Number :=
  if item.isObject then
    match firstOf (item.get? "alternatives") with
    | some first =>
      if first.isObject then (some (numberOf ((first.get? "confidence").getD .none))).filter (· ≠ .nan) else none
    | none => none
  else none

def collectConfidences (items : List Value) : List Number := items.filterMap collectedConfidence

def average (values : List Number) : Option Number :=
  if values = [] then none else some ((Number.sum values).divNat values.length)

/-- The average of the items, `null` where `items` is no array. -/
def confidenceOf (results : Value) : Option Number :=
  match results.get? "items" with
  | some (.list items) => average (collectConfidences items)
  | _ => none

/-- `parseTranscript` after `JSON.parse`. -/
def parseTranscript (parsed : Value) : Except String ParsedTranscript := do
  let root ← demand ((some parsed).filter Value.isObject) "Transcript JSON のルートが object ではありません。"
  let results ← demand ((root.get? "results").filter Value.isObject) "Transcript JSON に results フィールドがありません。"
  let first ← demand (firstOf (results.get? "transcripts")) "Transcript JSON の results.transcripts が空です。"
  let first ← demand ((some first).filter Value.isObject)
    "Transcript JSON の results.transcripts[0] が object ではありません。"
  let text ← demand ((first.get? "transcript").bind Value.asStr?)
    "Transcript JSON の results.transcripts[0].transcript が文字列ではありません。"
  return { text, confidence := confidenceOf results }

/-! ### The transcript that both find -/

def itemsOf (results : Value) : List Value :=
  match results.get? "items" with
  | some (.list items) => items
  | _ => []

/-- The text and the items of a transcript, where there is one. -/
def documentOf (v : Value) : Option (String × List Value) :=
  (v.get? "results").bind fun results => (firstOf (results.get? "transcripts")).bind fun first =>
    ((first.get? "transcript").bind Value.asStr?).map fun text => (text, itemsOf results)

theorem get?_of_not_isObject {v : Value} (h : v.isObject = false) (key : String) : v.get? key = none := by
  cases v <;> first | rfl | cases h

theorem get?_of_not_isDict {v : Value} (h : isDict v = false) (key : String) : v.get? key = none := by
  cases v <;> first | rfl | cases h

theorem filter_bind {α β : Type} {p : α → Bool} {f : α → Option β} (h : ∀ a, p a = false → f a = none) (x : Option α) :
    (x.filter p).bind f = x.bind f := by
  cases x with
  | none => rfl
  | some a =>
    cases hp : p a with
    | true => rw [Option.filter_some_pos hp]
    | false => rw [Option.filter_some_neg (by simp [hp]), Option.bind_some, h a hp]; rfl

theorem confidenceOf_eq (results : Value) : confidenceOf results = average (collectConfidences (itemsOf results)) := by
  rw [confidenceOf, itemsOf]
  split <;> rfl

theorem avgConfidence_eq (results : Value) :
    avgConfidence results = (iterPronunciationConfidences (itemsOf results)).map mean := by
  rw [avgConfidence, itemsOf]
  split
  · rename_i items _
    cases iterPronunciationConfidences items <;> rfl
  · rfl

/-- A chain of lookups through values of a class fails where one of them is outside the class. -/
theorem lookups_eq {p : Value → Bool} (hp : ∀ v, p v = false → ∀ key, v.get? key = none) {α : Type}
    (result : Value → String → Option α) (v : Value) :
    (((some v).filter p).bind fun root => ((root.get? "results").filter p).bind fun results =>
      (firstOf (results.get? "transcripts")).bind fun first => ((some first).filter p).bind fun first =>
        ((first.get? "transcript").bind Value.asStr?).bind (result results)) =
    (v.get? "results").bind fun results => (firstOf (results.get? "transcripts")).bind fun first =>
      ((first.get? "transcript").bind Value.asStr?).bind (result results) := by
  rw [filter_bind, Option.bind_some, filter_bind]
  · congr 1
    funext results
    congr 1
    funext first
    rw [filter_bind, Option.bind_some]
    intro first hfirst
    rw [hp first hfirst]
    rfl
  · intro results hresults
    rw [hp results hresults]
    rfl
  · intro root hroot
    rw [hp root hroot]
    rfl

theorem parseTranscript_eq (v : Value) :
    (parseTranscript v).toOption = (documentOf v).map fun document =>
      { text := document.1, confidence := average (collectConfidences document.2) } := by
  have h := @lookups_eq Value.isObject (fun v hv => get?_of_not_isObject hv) _
    (fun results text => some (ParsedTranscript.mk text (average (collectConfidences (itemsOf results))))) v
  simp only [parseTranscript, documentOf, toOption_bind, toOption_demand, toOption_pure, confidenceOf_eq,
    Function.comp_def, Option.map_eq_bind, Option.bind_assoc, Option.bind_some] at h ⊢
  exact h

theorem extractTranscriptPayload_eq (v : Value) :
    (extractTranscriptPayload v).toOption = (documentOf v).bind fun document =>
      (iterPronunciationConfidences document.2).toOption.map fun confidences => (document.1, mean confidences) := by
  have h := @lookups_eq isDict (fun v hv => get?_of_not_isDict hv) _
    (fun results text => (iterPronunciationConfidences (itemsOf results)).toOption.map fun confidences =>
      (text, mean confidences)) v
  have hmap : ∀ x : Except PyError (List ℚ), (x.map mean).toOption = x.toOption.map mean := by
    intro x
    cases x <;> rfl
  simp only [extractTranscriptPayload, documentOf, toOption_bind, toOption_demand, toOption_pure, avgConfidence_eq, hmap,
    Function.comp_def, Option.map_eq_bind, Option.bind_assoc, Option.bind_some] at h ⊢
  exact h

/-! ### The items that both read alike -/

/-- The confidence of the first alternative of an item, `None` where there is none. -/
def topConfidence (item : Value) : Value := ((firstOf (item.get? "alternatives")).bind (·.get? "confidence")).getD .none

/-- The number in `[0, 1]` that the text has for `float`. -/
def unitText? (s : String) : Option ℚ := (floatOf s.toList).bind inUnit?

/-- Both count the text as the same number, or neither counts it. -/
def TextAlike (s : String) : Prop :=
  match unitText? s with
  | some q => parseFloat s.toList = .finite q
  | none => parseFloat s.toList = .nan

/-- A plain literal of a number in `[0, 1]` is the same for both. -/
theorem textAlike_of_plain {s : String} (hplain : ∀ c ∈ s.toList, isPlain c = true) {q : ℚ} (h : unitText? s = some q) :
    TextAlike s := by
  rw [TextAlike, h]
  obtain ⟨x, hx, hunit⟩ := Option.bind_eq_some_iff.1 h
  cases x with
  | finite p =>
    rw [inUnit?] at hunit
    split at hunit
    · cases hunit
      exact parseFloat_of_floatOf hplain hx
    · cases hunit
  | infinity negative => cases hunit
  | nan => cases hunit

/-- The number in `[0, 1]` that the lambda has for a confidence. -/
def unitNumber? : Value → Option ℚ
  | .str s => unitText? s
  | v => v.number?.bind fun q => inUnit? (.finite q)

/-- What the lambda counts for an item. -/
def countedConfidence (item : Value) : Option ℚ := if isPronunciation item then unitNumber? (topConfidence item) else none

/-- A pronunciation with an integer that no float is near to. -/
def Overflows (item : Value) : Prop :=
  match topConfidence item with
  | .int n => isPronunciation item = true ∧ floatLimit ≤ n.natAbs
  | _ => False

/-- A pronunciation whose confidence is a number in `[0, 1]` or a text that is one for both, and anything else whose
confidence is nothing for either. -/
def ReadAlike (item : Value) : Prop :=
  match topConfidence item with
  | .int n => isPronunciation item = true ∧ InUnit n
  | .float q => isPronunciation item = true ∧ InUnit q
  | .str s => if isPronunciation item then TextAlike s else parseFloat s.toList = .nan
  | .bool _ => isPronunciation item = false
  | .decimal q => isPronunciation item = true → ¬ InUnit q
  | _ => True

theorem collectedConfidence_eq (item : Value) :
    collectedConfidence item = (some (numberOf (topConfidence item))).filter (· ≠ .nan) := by
  rw [collectedConfidence, topConfidence]
  cases hitem : item.isObject with
  | false =>
    rw [get?_of_not_isObject hitem]
    rfl
  | true =>
    rw [if_pos rfl]
    cases firstOf (item.get? "alternatives") with
    | none => rfl
    | some first =>
      cases hfirst : first.isObject with
      | false =>
        dsimp only [Option.bind_some]
        rw [get?_of_not_isObject hfirst, hfirst]
        rfl
      | true =>
        dsimp only [Option.bind_some]
        rw [hfirst, if_pos rfl]

theorem pronunciationConfidence_eq (item : Value) : pronunciationConfidence item =
    if isPronunciation item then (floatOf? (topConfidence item)).map (·.bind inUnit?) else .ok none := by
  rw [pronunciationConfidence, topConfidence]
  congr 1
  cases firstOf (item.get? "alternatives") with
  | none => rfl
  | some first =>
    dsimp only [Option.bind_some]
    cases first.get? "confidence" with
    | none => rfl
    | some raw =>
      have hbind : (floatOf? raw >>= fun conf => pure (conf.bind inUnit?)) = (floatOf? raw).map (·.bind inUnit?) := by
        cases floatOf? raw <;> rfl
      cases raw with
      | none => rfl
      | _ => exact hbind

theorem pronunciationConfidence_eq_ok {item : Value} (h : ¬ Overflows item) :
    pronunciationConfidence item = .ok (countedConfidence item) := by
  rw [pronunciationConfidence_eq, countedConfidence]
  rw [Overflows] at h
  cases hpronunciation : isPronunciation item with
  | false => rfl
  | true =>
    rw [if_pos rfl, if_pos rfl]
    cases htop : topConfidence item with
    | int n =>
      rw [htop] at h
      have hlt : n.natAbs < floatLimit := Nat.not_le.1 fun hle => h ⟨hpronunciation, hle⟩
      rw [floatOf?, if_pos hlt]
      rfl
    | _ => rfl

theorem pronunciationConfidence_eq_error {item : Value} (h : Overflows item) :
    pronunciationConfidence item = .error (.other "OverflowError") := by
  rw [Overflows] at h
  cases htop : topConfidence item with
  | int n =>
    rw [htop] at h
    rw [pronunciationConfidence_eq, if_pos h.1, htop, floatOf?, if_neg (Nat.not_lt.2 h.2)]
    rfl
  | _ =>
    rw [htop] at h
    exact h.elim

theorem iterPronunciationConfidences_eq_ok {items : List Value} (h : ∀ item ∈ items, ¬ Overflows item) :
    iterPronunciationConfidences items = .ok (items.filterMap countedConfidence) := by
  rw [iterPronunciationConfidences, mapM_eq_ok_map.2 fun item hitem => pronunciationConfidence_eq_ok (h item hitem), ok_bind,
    List.filterMap_map]
  rfl

theorem not_overflows_of_iterPronunciationConfidences {items : List Value} {confidences : List ℚ}
    (h : iterPronunciationConfidences items = .ok confidences) : ∀ item ∈ items, ¬ Overflows item := by
  intro item hitem hoverflows
  obtain ⟨all, hall, -⟩ := bind_eq_ok.1 h
  obtain ⟨confidence, hconfidence⟩ := exists_eq_ok_of_mapM hall hitem
  rw [pronunciationConfidence_eq_error hoverflows] at hconfidence
  cases hconfidence

theorem inUnit?_finite (q : ℚ) : inUnit? (.finite q) = if InUnit q then some q else none := rfl

theorem inUnit_ofBool (b : Bool) : InUnit (if b then 1 else 0) := by
  cases b <;> decide

/-- An item is read alike exactly when both count the same number for it, or neither counts it. -/
theorem readAlike_iff (item : Value) :
    ReadAlike item ↔ collectedConfidence item = (countedConfidence item).map .finite := by
  rw [collectedConfidence_eq, countedConfidence, ReadAlike]
  cases htop : topConfidence item with
  | none | list items | dict items =>
    cases isPronunciation item <;> simp [numberOf, Value.asNumber?, unitNumber?, Value.number?]
  | bool b =>
    have hunit : inUnit? (.finite (if b then 1 else 0)) = some (if b then 1 else 0) := if_pos (inUnit_ofBool b)
    cases isPronunciation item <;> simp [numberOf, Value.asNumber?, unitNumber?, Value.number?, hunit]
  | int n =>
    cases isPronunciation item <;> by_cases hunit : InUnit n <;>
      simp [numberOf, Value.asNumber?, unitNumber?, Value.number?, inUnit?_finite, hunit]
  | float q =>
    cases isPronunciation item <;> by_cases hunit : InUnit q <;>
      simp [numberOf, Value.asNumber?, unitNumber?, Value.number?, inUnit?_finite, hunit]
  | decimal q =>
    cases isPronunciation item <;> by_cases hunit : InUnit q <;>
      simp [numberOf, Value.asNumber?, unitNumber?, Value.number?, inUnit?_finite, hunit]
  | str s =>
    have hfilter : (some (parseFloat s.toList)).filter (· ≠ .nan) = none ↔ parseFloat s.toList = .nan := by simp
    cases isPronunciation item with
    | false => exact hfilter.symm
    | true =>
      show TextAlike s ↔ (some (parseFloat s.toList)).filter (· ≠ .nan) = (unitText? s).map .finite
      rw [TextAlike]
      cases unitText? s with
      | none => exact hfilter.symm
      | some q =>
        constructor
        · intro h
          rw [h]
          rfl
        · intro h
          exact Option.some.inj (Option.filter_eq_some_iff.1 h).1

instance : DecidablePred ReadAlike := fun item => decidable_of_iff _ (readAlike_iff item).symm

/-- A number that both count lies between 0 and 1. -/
theorem not_overflows_of_readAlike {item : Value} (h : ReadAlike item) : ¬ Overflows item := by
  rw [ReadAlike] at h
  rw [Overflows]
  cases htop : topConfidence item with
  | int n =>
    rw [htop] at h
    obtain ⟨hpos, hle⟩ := h.2
    have hsmall : n.natAbs ≤ 1 := by
      have hpos : (0 : Int) ≤ n := by exact_mod_cast hpos
      have hle : n ≤ (1 : Int) := by exact_mod_cast hle
      omega
    have hlimit : 1 < floatLimit := by decide +kernel
    exact fun hoverflows => absurd (hoverflows.2.trans hsmall) (Nat.not_le.2 hlimit)
  | _ => exact id

/-! ### When the two agree -/

/-- The two readers agree on a document: on whether there is a transcript, on its text, and on the confidence, where
`null` counts as 0. -/
def Agree (v : Value) : Prop :=
  match (parseTranscript v).toOption, (loads v >>= extractTranscriptPayload).toOption with
  | none, none => True
  | some page, some (text, confidence) => page.text = text ∧ page.confidence.getD (.finite 0) = .finite confidence
  | _, _ => False

theorem average_map_finite (qs : List ℚ) : (average (qs.map .finite)).getD (.finite 0) = .finite (mean qs) := by
  rw [average, mean]
  by_cases hnil : qs = []
  · rw [if_pos hnil, hnil]
    rfl
  · rw [if_neg hnil, if_neg (by simpa using hnil), Number.sum_map_finite, List.length_map]
    rfl

theorem collectConfidences_of_readAlike {items : List Value} (h : ∀ item ∈ items, ReadAlike item) :
    collectConfidences items = (items.filterMap countedConfidence).map .finite := by
  rw [collectConfidences, List.map_filterMap]
  apply List.filterMap_congr
  intro item hitem
  exact (readAlike_iff item).1 (h item hitem)

theorem loads_of_loadable {v : Value} (h : Loadable v) : loads v = .ok v := by
  rw [loads, require_of h]
  rfl

/-- The two readers agree on every document without a transcript, and on one with a transcript that `json.loads` reads and
whose items they read alike. -/
theorem agree_of_readAlike (v : Value)
    (h : ∀ text items, documentOf v = some (text, items) → Loadable v ∧ ∀ item ∈ items, ReadAlike item) : Agree v := by
  rw [Agree, toOption_bind, parseTranscript_eq]
  cases hdocument : documentOf v with
  | none =>
    have hnone : ((loads v).toOption.bind fun v => (extractTranscriptPayload v).toOption) = none := by
      by_cases hload : Loadable v
      · rw [loads_of_loadable hload, Except.toOption, Option.bind_some, extractTranscriptPayload_eq, hdocument]
        rfl
      · rw [loads, require, if_neg hload]
        rfl
    rw [hnone]
    trivial
  | some document =>
    obtain ⟨text, items⟩ := document
    obtain ⟨hload, halike⟩ := h text items hdocument
    have hiter := iterPronunciationConfidences_eq_ok fun item hitem => not_overflows_of_readAlike (halike item hitem)
    rw [loads_of_loadable hload, Except.toOption, Option.bind_some, extractTranscriptPayload_eq, hdocument, Option.bind_some, hiter,
      Option.map_some, collectConfidences_of_readAlike halike]
    exact ⟨rfl, average_map_finite _⟩

/-- Where there is a transcript they agree only if no integer is too large for Python. -/
theorem loadable_of_agree {v : Value} (h : Agree v) {text : String} {items : List Value}
    (hdocument : documentOf v = some (text, items)) : Loadable v ∧ ∀ item ∈ items, ¬ Overflows item := by
  rw [Agree, toOption_bind, parseTranscript_eq, hdocument, Option.map_some] at h
  cases hload : loads v with
  | error e =>
    rw [hload] at h
    exact h.elim
  | ok loaded =>
    obtain ⟨_, hloadable, hloaded⟩ := bind_eq_ok.1 hload
    cases hloaded
    refine ⟨require_eq_ok.1 hloadable, ?_⟩
    rw [hload, Except.toOption, Option.bind_some, extractTranscriptPayload_eq, hdocument, Option.bind_some] at h
    cases hiter : iterPronunciationConfidences items with
    | error e =>
      rw [hiter] at h
      exact h.elim
    | ok confidences => exact not_overflows_of_iterPronunciationConfidences hiter

/-- A document with the words and the punctuation marks of a transcription. -/
def transcribed (text : String) (items : List Value) : Value :=
  .dict [("results", .dict [("transcripts", .list [.dict [("transcript", .str text)]]), ("items", .list items)])]

def token (type : String) (confidence : Value) : Value :=
  .dict [("type", .str type), ("alternatives", .list [.dict [("confidence", confidence)]])]

/-- Two words, one of them with a number, and a mark without a confidence. -/
theorem agree_spoken :
    Agree (transcribed "ok fine." [token "pronunciation" (.str "0.9"), token "pronunciation" (.float (1 / 2)),
      token "punctuation" .none]) := by
  apply agree_of_readAlike
  intro text items hdocument
  cases hdocument
  exact ⟨by decide +kernel, by decide +kernel⟩

/-- A punctuation mark with the confidence that a transcription gives it: the page shows one half, the lambda has 1. -/
theorem not_agree_punctuated :
    let punctuated := transcribed "ok." [token "pronunciation" (.str "1.0"), token "punctuation" (.str "0.0")]
    (parseTranscript punctuated).toOption.map (fun page => (page.text, page.confidence)) =
        some ("ok.", some (.finite (1 / 2))) ∧
      (loads punctuated >>= extractTranscriptPayload).toOption = some ("ok.", 1) ∧ ¬ Agree punctuated := by
  intro punctuated
  have hpage : (parseTranscript punctuated).toOption.map (fun page => (page.text, page.confidence)) =
    some ("ok.", some (.finite (1 / 2))) := by decide +kernel
  have hlambda : (loads punctuated >>= extractTranscriptPayload).toOption = some ("ok.", 1) := by decide +kernel
  refine ⟨hpage, hlambda, fun hagree => ?_⟩
  obtain ⟨page, hsome, hvalues⟩ := Option.map_eq_some_iff.1 hpage
  rw [Agree, hsome, hlambda] at hagree
  have hconfidence := hagree.2
  rw [(Prod.mk.inj hvalues).2] at hconfidence
  exact absurd hconfidence (by decide +kernel)

end Transcript

end SafetyConfirmation
