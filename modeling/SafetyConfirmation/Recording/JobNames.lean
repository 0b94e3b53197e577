import SafetyConfirmation.Recording.KeyCodecs
import SafetyConfirmation.Recording.TranscriptMeta

/-!
# The names of transcription jobs

Amazon Transcribe takes `^[0-9a-zA-Z._-]{1,200}$`, and a name that a job has already is answered with a conflict, which
TranscribeStarter takes for its own job. `derive_transcribe_job_name` writes `-` for three characters and between the two
keys, and cuts the name off.
-/

namespace SafetyConfirmation

namespace Recording

open Checks Pattern

/-- `[0-9a-zA-Z._-]`. -/
def isJobNameChar (c : Char) : Bool := c.isAlphanum || c == '.' || c == '_' || c == '-'

def jobNameRe : Matcher Unit := between 1 transcribeJobNameMax isJobNameChar fun _ => finish ()

def IsJobName (name : String) : Prop := (jobNameRe name.toList).isSome = true

instance (name : String) : Decidable (IsJobName name) := inferInstanceAs (Decidable (_ = true))

/-- The job of a recording has a name that Transcribe takes, and that another recording's job has only for the same row. -/
structure NamedApart (info info' : RecordingKeyInfo) : Prop where
  valid : ∃ name, deriveTranscribeJobName info.metaPk info.metaSk = .ok name ∧ IsJobName name
  unique : deriveTranscribeJobName info.metaPk info.metaSk = deriveTranscribeJobName info'.metaPk info'.metaSk →
    info.metaPk = info'.metaPk ∧ info.metaSk = info'.metaSk

/-! ### What the names come from -/

/-- The two keys as they are joined. -/
def jobText (info : RecordingKeyInfo) : List Char := info.metaPk.toList ++ '-' :: info.metaSk.toList

/-- How much of it the name has room for, after `safety-confirm-`. -/
def jobTextMax : Nat := transcribeJobNameMax - "safety-confirm-".length

/-- A character that is written as `-`. -/
def IsReplaced (c : Char) : Prop := c = ':' ∨ c = '/' ∨ c = '#'

/-- A character that reads as `-` in the name. -/
def IsDash (c : Char) : Prop := IsReplaced c ∨ c = '-'

/-- Two places of the texts that the names do not tell apart. -/
def Alike : Option Char → Option Char → Prop
  | some c, some c' => c = c' ∨ (IsDash c ∧ IsDash c')
  | none, none => True
  | _, _ => False

/-- The names tell the texts apart, before they are cut off. -/
def ToldApart (text text' : List Char) : Prop := ∃ i, i < jobTextMax ∧ ¬ Alike text[i]? text'[i]?

/-- What the name keeps of the text has only characters that a name may have or that are replaced. -/
def Nameable (text : List Char) : Prop := ∀ c ∈ text.take jobTextMax, isJobNameChar c = true ∨ IsReplaced c

/-! ### A name and its text -/

variable {key key' : String} {info info' : RecordingKeyInfo} {c c' : Char}

theorem sanitizeJobNameChar_of_isReplaced (h : IsReplaced c) : sanitizeJobNameChar c = '-' := if_pos h

theorem sanitizeJobNameChar_of_not (h : ¬ IsReplaced c) : sanitizeJobNameChar c = c := if_neg h

theorem isJobNameChar_sanitize : isJobNameChar (sanitizeJobNameChar c) = true ↔ isJobNameChar c = true ∨ IsReplaced c := by
  by_cases h : IsReplaced c
  · rw [sanitizeJobNameChar_of_isReplaced h]
    exact iff_of_true (by decide) (.inr h)
  · rw [sanitizeJobNameChar_of_not h]
    exact ⟨.inl, fun hor => hor.resolve_right h⟩

theorem sanitizeJobNameChar_eq_dash : sanitizeJobNameChar c = '-' ↔ IsDash c := by
  by_cases h : IsReplaced c
  · exact iff_of_true (sanitizeJobNameChar_of_isReplaced h) (.inl h)
  · rw [sanitizeJobNameChar_of_not h]
    exact ⟨.inr, fun hor => hor.resolve_left h⟩

theorem sanitizeJobNameChar_eq_iff : sanitizeJobNameChar c = sanitizeJobNameChar c' ↔ c = c' ∨ (IsDash c ∧ IsDash c') := by
  constructor
  · intro heq
    by_cases hdash : IsDash c
    · have hdash' : sanitizeJobNameChar c' = '-' := heq ▸ sanitizeJobNameChar_eq_dash.2 hdash
      exact .inr ⟨hdash, sanitizeJobNameChar_eq_dash.1 hdash'⟩
    · have hdash' : ¬ IsDash c' := fun h => by
        rw [sanitizeJobNameChar_eq_dash.2 h] at heq
        exact hdash (sanitizeJobNameChar_eq_dash.1 heq)
      rw [sanitizeJobNameChar_of_not fun h => hdash (.inl h), sanitizeJobNameChar_of_not fun h => hdash' (.inl h)] at heq
      exact .inl heq
  · rintro (rfl | ⟨h, h'⟩)
    · rfl
    · rw [sanitizeJobNameChar_eq_dash.2 h, sanitizeJobNameChar_eq_dash.2 h']

theorem map_sanitize_eq_iff {a b : Option Char} : a.map sanitizeJobNameChar = b.map sanitizeJobNameChar ↔ Alike a b := by
  cases a with
  | none =>
    cases b with
    | none => exact iff_of_true rfl trivial
    | some c' => exact iff_of_false nofun id
  | some c =>
    cases b with
    | none => exact iff_of_false nofun id
    | some c' =>
      rw [Option.map_some, Option.map_some, Option.some.injEq]
      exact sanitizeJobNameChar_eq_iff

theorem metaKeys_ne_empty (h : parseRecordingKey key = some info) : info.metaPk ≠ "" ∧ info.metaSk ≠ "" := by
  have happend : ∀ {s t : String}, t ≠ "" → s ++ t ≠ "" := fun ht hempty => ht (String.append_eq_empty_iff.1 hempty).2
  have happend' : ∀ {s t : String}, s ≠ "" → s ++ t ≠ "" := fun hs hempty => hs (String.append_eq_empty_iff.1 hempty).1
  obtain ⟨parts, -, hparts, -, -, rfl⟩ | ⟨parts, -, hparts, -, -, rfl⟩ := parseRecordingKey_cases h
  · exact ⟨hparts.cycleId.1, happend hparts.seq.1⟩
  · exact ⟨happend hparts.contactId.1, happend' hparts.employeeId.1⟩

/-- The name of an accepted key: its head, and what it keeps of the text. -/
theorem deriveTranscribeJobName_eq (h : parseRecordingKey key = some info) :
    deriveTranscribeJobName info.metaPk info.metaSk =
      .ok (.ofList ("safety-confirm-".toList ++ ((jobText info).take jobTextMax).map sanitizeJobNameChar)) := by
  have hhead : "safety-confirm-".toList.map sanitizeJobNameChar = "safety-confirm-".toList := by decide
  have htake : "safety-confirm-".toList.take transcribeJobNameMax = "safety-confirm-".toList := by decide
  have hlength : transcribeJobNameMax - "safety-confirm-".toList.length = jobTextMax := rfl
  have htext : ("safety-confirm-" ++ info.metaPk ++ "-" ++ info.metaSk).toList = "safety-confirm-".toList ++ jobText info := by
    rw [jobText]
    simp only [String.toList_append, List.append_assoc]
    rfl
  have hrequire : require (info.metaPk ≠ "" ∧ info.metaSk ≠ "") (PyError.valueError
      "meta_pk and meta_sk must be non-empty; got"
      (some (.dict [("meta_pk", .str info.metaPk), ("meta_sk", .str info.metaSk)]))) = .ok PUnit.unit :=
    require_eq_ok.2 (metaKeys_ne_empty h)
  rw [deriveTranscribeJobName, hrequire, htext, List.map_append, hhead, List.take_append, htake, hlength, List.map_take]
  rfl

theorem isJobName_iff {name : String} : IsJobName name ↔
    (1 ≤ name.toList.length ∧ name.toList.length ≤ transcribeJobNameMax) ∧ ∀ c ∈ name.toList, isJobNameChar c = true := by
  rw [IsJobName, jobNameRe, isSome_between (by decide)]
  constructor
  · rintro ⟨taken, rest, hlength, hall, heq, hfinish⟩
    rw [isSome_finish.1 hfinish, List.append_nil] at heq
    rw [heq]
    exact ⟨hlength, hall⟩
  · rintro ⟨hlength, hall⟩
    exact ⟨_, [], hlength, hall, (List.append_nil _).symm, rfl⟩

/-- The name is one that Transcribe takes exactly when the text is nameable. -/
theorem isJobName_ofList_iff (text : List Char) :
    IsJobName (.ofList ("safety-confirm-".toList ++ (text.take jobTextMax).map sanitizeJobNameChar)) ↔ Nameable text := by
  have hhead : "safety-confirm-".toList.length = 15 := by decide
  have hchars : ∀ c ∈ "safety-confirm-".toList, isJobNameChar c = true := by
    have hall : "safety-confirm-".toList.all isJobNameChar = true := by decide
    exact List.all_eq_true.1 hall
  have hlength : (text.take jobTextMax).length ≤ 185 := List.length_take_le _ _
  rw [isJobName_iff, String.toList_ofList, List.length_append, hhead, List.length_map, Nameable]
  simp only [List.forall_mem_append, List.forall_mem_map, isJobNameChar_sanitize]
  have hbounds : 1 ≤ 15 + (text.take jobTextMax).length ∧ 15 + (text.take jobTextMax).length ≤ transcribeJobNameMax := by
    rw [transcribeJobNameMax]
    omega
  exact ⟨fun h => h.2.2, fun h => ⟨hbounds, hchars, h⟩⟩

theorem take_map_eq_iff {text text' : List Char} :
    (text.take jobTextMax).map sanitizeJobNameChar = (text'.take jobTextMax).map sanitizeJobNameChar ↔
      ¬ ToldApart text text' := by
  rw [ToldApart]
  simp only [not_exists, not_and, not_not]
  constructor
  · intro heq i hi
    have hplace := congrArg (fun cs => cs[i]?) heq
    simp only [List.getElem?_map, List.getElem?_take, hi, if_true] at hplace
    exact map_sanitize_eq_iff.1 hplace
  · intro halike
    refine List.ext_getElem? fun i => ?_
    rw [List.getElem?_map, List.getElem?_map, List.getElem?_take, List.getElem?_take]
    split
    · rename_i hi
      exact map_sanitize_eq_iff.2 (halike i hi)
    · rfl

/-! ### Which names are valid and unique -/

/-- A name is valid and unique exactly when what it keeps of the two keys has only characters it may have or replaces, and
tells them from the other keys. -/
theorem namedApart_iff (h : parseRecordingKey key = some info) (h' : parseRecordingKey key' = some info') :
    NamedApart info info' ↔ Nameable (jobText info) ∧
      ((info.metaPk = info'.metaPk ∧ info.metaSk = info'.metaSk) ∨ ToldApart (jobText info) (jobText info')) := by
  have hname := deriveTranscribeJobName_eq h
  have hsame : deriveTranscribeJobName info.metaPk info.metaSk = deriveTranscribeJobName info'.metaPk info'.metaSk ↔
      ¬ ToldApart (jobText info) (jobText info') := by
    rw [hname, deriveTranscribeJobName_eq h', Except.ok.injEq, String.ofList_inj, List.append_cancel_left_eq,
      take_map_eq_iff]
  constructor
  · rintro ⟨⟨name, hok, hvalid⟩, hunique⟩
    rw [hname] at hok
    cases hok
    refine ⟨(isJobName_ofList_iff _).1 hvalid, ?_⟩
    by_cases htold : ToldApart (jobText info) (jobText info')
    · exact .inr htold
    · exact .inl (hunique (hsame.2 htold))
  · rintro ⟨hnameable, hkeys⟩
    refine ⟨⟨_, hname, (isJobName_ofList_iff _).2 hnameable⟩, fun heq => ?_⟩
    exact hkeys.resolve_right (hsame.1 heq)

/-- What the parser makes of the key of a call. -/
def callInfo (cycleId employeeId seq : String) : RecordingKeyInfo where
  kind := .outbound
  cycleIdOrInboundPrefix := cycleId
  employeeId := employeeId
  seqOrContact := seq
  transcriptS3Key := "transcripts/" ++ cycleId ++ "/" ++ employeeId ++ "/" ++ seq ++ ".json"
  metaPk := cycleId
  metaSk := employeeId ++ "#" ++ seq

theorem namedApart_secondCall :
    NamedApart (callInfo "6fa459ea-ee8a-3ca4-894e-db77e160355e" "16fd2706-8baf-433b-82eb-8c7fada847da" "1")
      (callInfo "6fa459ea-ee8a-3ca4-894e-db77e160355e" "16fd2706-8baf-433b-82eb-8c7fada847da" "2") := by
  have hcycle : IsSegment "6fa459ea-ee8a-3ca4-894e-db77e160355e" := by decide
  have hemployee : IsSegment "16fd2706-8baf-433b-82eb-8c7fada847da" := by decide
  refine (namedApart_iff (parseRecordingKey_outboundKey hcycle hemployee 1)
    (parseRecordingKey_outboundKey hcycle hemployee 2)).2 ⟨?_, .inr ⟨74, by decide, ?_⟩⟩
  · have hall : ((jobText (callInfo "6fa459ea-ee8a-3ca4-894e-db77e160355e" "16fd2706-8baf-433b-82eb-8c7fada847da"
        "1")).take jobTextMax).all (fun c => isJobNameChar c || c == '#') = true := by decide
    intro c hc
    have hchar := List.all_eq_true.1 hall c hc
    rw [Bool.or_eq_true, beq_iff_eq] at hchar
    exact hchar.imp_right fun heq => .inr (.inr heq)
  · show ¬ ('1' = '2' ∨ _)
    rintro (heq | ⟨(hdash | hdash | hdash) | hdash, -⟩)
    · exact absurd heq (by decide)
    all_goals exact absurd hdash (by decide)

/-- A blank in an id gives a name that Transcribe does not take, and a dash between two ids is one like those in them. -/
theorem not_namedApart :
    ¬ NamedApart (callInfo "cycle 1" "emp-1" "0") (callInfo "cycle 1" "emp-1" "0") ∧
    ¬ NamedApart (callInfo "a-b" "c" "0") (callInfo "a" "b-c" "0") ∧
    parseRecordingKey "recordings/cycle 1/emp-1/0.wav" = some (callInfo "cycle 1" "emp-1" "0") ∧
    parseRecordingKey "recordings/a-b/c/0.wav" = some (callInfo "a-b" "c" "0") ∧
    parseRecordingKey "recordings/a/b-c/0.wav" = some (callInfo "a" "b-c" "0") := by
  refine ⟨?_, ?_, by decide +kernel, by decide +kernel, by decide +kernel⟩
  · rintro ⟨⟨name, hname, hvalid⟩, -⟩
    have hblank : name = "safety-confirm-cycle 1-emp-1-0" := Except.ok.inj (hname.symm.trans rfl)
    rw [hblank] at hvalid
    exact absurd hvalid (by decide +kernel)
  · rintro ⟨-, hunique⟩
    obtain ⟨hpk, -⟩ := hunique rfl
    exact absurd hpk (by decide)

end Recording

end SafetyConfirmation
