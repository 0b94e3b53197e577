import SafetyConfirmation.Recording.Keys

/-!
# The keys of transcripts

`parse_transcript_key`, and what the two parsers and the two formatters have to do with each other: a transcript is found
for the recording it was made of, and is never taken for a recording.
-/

namespace SafetyConfirmation

namespace Recording

open Checks Pattern

/-- The keys of a cycle, below a root and with an extension. -/
def outboundKeyRe (root extension : String) : Matcher (String × String × String) :=
  lit root.toList <|
  plus (noneOf ['/']) fun cycleId => lit ['/'] <|
  plus (noneOf ['/']) fun employeeId => lit ['/'] <|
  plus isDecimal fun seq => lit extension.toList <|
  atEnd (.ofList cycleId, .ofList employeeId, .ofList seq)

/-- The keys of a month, below a root and with an extension. -/
def inboundKeyRe (root extension : String) : Matcher (String × String × String) :=
  lit root.toList <|
  exactly 6 isDecimal fun yyyymm => lit ['/'] <|
  plus (noneOf ['/']) fun employeeId => lit ['/'] <|
  plus (noneOf ['/']) fun contactId => lit extension.toList <|
  atEnd (.ofList yyyymm, .ofList employeeId, .ofList contactId)

theorem outboundRe_eq : outboundRe = outboundKeyRe "recordings/" ".wav" := rfl

theorem inboundRe_eq : inboundRe = inboundKeyRe "inbound/" ".wav" := rfl

def outboundTranscriptRe : Matcher (String × String × String) := outboundKeyRe "transcripts/" ".json"

def inboundTranscriptRe : Matcher (String × String × String) := inboundKeyRe "inbound/" ".json"

def parseTranscriptKey (key : String) : Option RecordingKeyInfo :=
  if key = "" then none
  else
    match outboundTranscriptRe key.toList with
    | some (cycleId, employeeId, seq) => some {
        kind := .outbound
        cycleIdOrInboundPrefix := cycleId
        employeeId := employeeId
        seqOrContact := seq
        transcriptS3Key := key
        metaPk := cycleId
        metaSk := employeeId ++ "#" ++ seq }
    | none =>
      (inboundTranscriptRe key.toList).map fun (_, employeeId, contactId) => {
        kind := .inbound
        cycleIdOrInboundPrefix := "INBOUND#" ++ contactId
        employeeId := employeeId
        seqOrContact := contactId
        transcriptS3Key := key
        metaPk := "INBOUND#" ++ contactId
        metaSk := employeeId ++ "#0" }

/-! ### The parts of a key -/

/-- A cycle, an employee and the digits of a call. -/
structure OutboundParts (parts : String × String × String) : Prop where
  cycleId : IsSegment parts.1
  employeeId : IsSegment parts.2.1
  seq : parts.2.2 ≠ "" ∧ ∀ c ∈ parts.2.2.toList, isDecimal c = true

/-- The digits of a month, an employee and a contact. -/
structure InboundParts (parts : String × String × String) : Prop where
  yyyymm : parts.1.toList.length = 6 ∧ ∀ c ∈ parts.1.toList, isDecimal c = true
  employeeId : IsSegment parts.2.1
  contactId : IsSegment parts.2.2

/-- A key of three parts, of either kind. -/
def keyText (root extension : String) (parts : String × String × String) : List Char :=
  root.toList ++ (parts.1.toList ++ '/' :: (parts.2.1.toList ++ '/' :: (parts.2.2.toList ++ extension.toList)))

variable {root extension : String} {parts : String × String × String} {cs : List Char}

theorem ofList_ne_empty {taken : List Char} (hne : taken ≠ []) : String.ofList taken ≠ "" := by
  intro hempty
  refine hne ?_
  rw [← String.toList_ofList (l := taken), hempty]
  rfl

theorem isSegment_ofList {taken : List Char} (hne : taken ≠ []) (hcls : ∀ c ∈ taken, noneOf ['/'] c = true) :
    IsSegment (.ofList taken) := by
  refine ⟨ofList_ne_empty hne, ?_⟩
  rw [String.toList_ofList]
  intro hmem
  have hslash := hcls '/' hmem
  revert hslash
  decide

theorem outboundKeyRe_eq_some (h : outboundKeyRe root extension cs = some parts) :
    OutboundParts parts ∧ ∃ ending, IsEnding ending ∧ cs = keyText root extension parts ++ ending := by
  obtain ⟨_, rfl, hcycle⟩ := lit_eq_some h
  obtain ⟨cycleId, _, hcycleNe, hcycleId, rfl, hafterCycle⟩ := plus_eq_some hcycle
  obtain ⟨_, rfl, hemployee⟩ := lit_eq_some hafterCycle
  obtain ⟨employeeId, _, hemployeeNe, hemployeeId, rfl, hafterEmployee⟩ := plus_eq_some hemployee
  obtain ⟨_, rfl, hdigits⟩ := lit_eq_some hafterEmployee
  obtain ⟨seq, _, hseqNe, hseq, rfl, hafterSeq⟩ := plus_eq_some hdigits
  obtain ⟨ending, rfl, hend⟩ := lit_eq_some hafterSeq
  obtain ⟨hending, rfl⟩ := atEnd_eq_some hend
  refine ⟨⟨isSegment_ofList hcycleNe hcycleId, isSegment_ofList hemployeeNe hemployeeId, ofList_ne_empty hseqNe, ?_⟩,
    ending, hending, ?_⟩
  · rw [String.toList_ofList]
    exact hseq
  · simp [keyText]

theorem inboundKeyRe_eq_some (h : inboundKeyRe root extension cs = some parts) :
    InboundParts parts ∧ ∃ ending, IsEnding ending ∧ cs = keyText root extension parts ++ ending := by
  obtain ⟨_, rfl, hmonth⟩ := lit_eq_some h
  obtain ⟨yyyymm, _, hlength, hdigits, rfl, hafterMonth⟩ := exactly_eq_some hmonth
  obtain ⟨_, rfl, hemployee⟩ := lit_eq_some hafterMonth
  obtain ⟨employeeId, _, hemployeeNe, hemployeeId, rfl, hafterEmployee⟩ := plus_eq_some hemployee
  obtain ⟨_, rfl, hcontact⟩ := lit_eq_some hafterEmployee
  obtain ⟨contactId, _, hcontactNe, hcontactId, rfl, hafterContact⟩ := plus_eq_some hcontact
  obtain ⟨ending, rfl, hend⟩ := lit_eq_some hafterContact
  obtain ⟨hending, rfl⟩ := atEnd_eq_some hend
  refine ⟨⟨?_, isSegment_ofList hemployeeNe hemployeeId, isSegment_ofList hcontactNe hcontactId⟩, ending, hending, ?_⟩
  · rw [String.toList_ofList]
    exact ⟨hlength, hdigits⟩
  · simp [keyText]

theorem exists_keyText_eq (root extension : String) (parts : String × String × String) :
    ∃ front, keyText root extension parts = front ++ extension.toList := by
  refine ⟨root.toList ++ (parts.1.toList ++ '/' :: (parts.2.1.toList ++ '/' :: parts.2.2.toList)), ?_⟩
  simp [keyText]

theorem outboundKeyRe_keyText (h : OutboundParts parts) {rest : List Char} (hextension : extension.toList = '.' :: rest) :
    outboundKeyRe root extension (keyText root extension parts) = some parts := by
  have hslash : noneOf ['/'] '/' = false := rfl
  have hdot : isDecimal '.' = false := by decide
  have hseq : parts.2.2.toList ≠ [] := fun hnil => h.seq.1 (String.toList_inj.1 hnil)
  rw [keyText, outboundKeyRe, hextension, lit_append,
    plus_append_cons (toList_ne_nil h.cycleId) (noneOf_slash h.cycleId) hslash fun _ => startsWith_lit _ _ _, lit_singleton,
    plus_append_cons (toList_ne_nil h.employeeId) (noneOf_slash h.employeeId) hslash fun _ => startsWith_lit _ _ _,
    lit_singleton, plus_append_cons hseq h.seq.2 hdot fun _ => startsWith_lit _ _ _]
  have hend := @lit_append _ ('.' :: rest) (atEnd (String.ofList parts.1.toList, String.ofList parts.2.1.toList,
    String.ofList parts.2.2.toList)) []
  rw [List.append_nil] at hend
  rw [hend, atEnd_of_isEnding (.inl rfl), String.ofList_toList, String.ofList_toList, String.ofList_toList]

theorem inboundKeyRe_keyText (h : InboundParts parts) (hextension : extension.toList ≠ [])
    (hlast : extension.toList.getLast? ≠ some '\n') :
    inboundKeyRe root extension (keyText root extension parts) = some parts := by
  have hslash : noneOf ['/'] '/' = false := rfl
  have hcontact := @plus_append_lit_atEnd _ (noneOf ['/']) (fun contactId =>
    (String.ofList parts.1.toList, String.ofList parts.2.1.toList, String.ofList contactId)) parts.2.2.toList
    extension.toList [] (toList_ne_nil h.contactId) (noneOf_slash h.contactId) hextension hlast (.inl rfl)
  rw [List.append_nil] at hcontact
  rw [keyText, inboundKeyRe, lit_append, exactly_append h.yyyymm.1 h.yyyymm.2, lit_singleton,
    plus_append_cons (toList_ne_nil h.employeeId) (noneOf_slash h.employeeId) hslash fun _ => startsWith_lit _ _ _,
    lit_singleton, hcontact, String.ofList_toList, String.ofList_toList, String.ofList_toList]

/-! ### The two parsers -/

/-- The transcript is that of the same call. -/
structure RecordingKeyInfo.SameCall (info info' : RecordingKeyInfo) : Prop where
  kind : info'.kind = info.kind
  employeeId : info'.employeeId = info.employeeId
  seqOrContact : info'.seqOrContact = info.seqOrContact
  metaPk : info'.metaPk = info.metaPk
  metaSk : info'.metaSk = info.metaSk

/-- What the parser has found in a key that it accepts. -/
theorem parseRecordingKey_cases {key : String} {info : RecordingKeyInfo} (h : parseRecordingKey key = some info) :
    (∃ parts ending, OutboundParts parts ∧ IsEnding ending ∧
      key.toList = keyText "recordings/" ".wav" parts ++ ending ∧ info = {
        kind := .outbound
        cycleIdOrInboundPrefix := parts.1
        employeeId := parts.2.1
        seqOrContact := parts.2.2
        transcriptS3Key := "transcripts/" ++ parts.1 ++ "/" ++ parts.2.1 ++ "/" ++ parts.2.2 ++ ".json"
        metaPk := parts.1
        metaSk := parts.2.1 ++ "#" ++ parts.2.2 }) ∨
    ∃ parts ending, InboundParts parts ∧ IsEnding ending ∧ key.toList = keyText "inbound/" ".wav" parts ++ ending ∧ info = {
        kind := .inbound
        cycleIdOrInboundPrefix := "INBOUND#" ++ parts.2.2
        employeeId := parts.2.1
        seqOrContact := parts.2.2
        transcriptS3Key := "inbound/" ++ parts.1 ++ "/" ++ parts.2.1 ++ "/" ++ parts.2.2 ++ ".json"
        metaPk := "INBOUND#" ++ parts.2.2
        metaSk := parts.2.1 ++ "#0" } := by
  rw [parseRecordingKey] at h
  split at h
  · cases h
  · split at h
    · rename_i hout
      obtain ⟨hparts, ending, hending, hkey⟩ := outboundKeyRe_eq_some (outboundRe_eq ▸ hout)
      exact .inl ⟨_, ending, hparts, hending, hkey, (Option.some.inj h).symm⟩
    · rw [Option.map_eq_some_iff] at h
      obtain ⟨parts, hin, rfl⟩ := h
      obtain ⟨hparts, ending, hending, hkey⟩ := inboundKeyRe_eq_some (inboundRe_eq ▸ hin)
      exact .inr ⟨parts, ending, hparts, hending, hkey, rfl⟩

/-- What a key ends in that either parser accepts. -/
theorem exists_ending_of_parseTranscriptKey {key : String} (h : (parseTranscriptKey key).isSome = true) :
    ∃ front ending, IsEnding ending ∧ key.toList = (front ++ ".json".toList) ++ ending := by
  rw [parseTranscriptKey] at h
  split at h
  · cases h
  · split at h
    · rename_i hout
      obtain ⟨-, ending, hending, hkey⟩ := outboundKeyRe_eq_some hout
      obtain ⟨front, hfront⟩ := exists_keyText_eq "transcripts/" ".json" _
      exact ⟨front, ending, hending, hkey.trans (congrArg (· ++ ending) hfront)⟩
    · rw [Option.isSome_map] at h
      obtain ⟨parts, hin⟩ := Option.isSome_iff_exists.1 h
      obtain ⟨-, ending, hending, hkey⟩ := inboundKeyRe_eq_some hin
      obtain ⟨front, hfront⟩ := exists_keyText_eq "inbound/" ".json" parts
      exact ⟨front, ending, hending, hkey.trans (congrArg (· ++ ending) hfront)⟩

theorem exists_ending_of_parseRecordingKey {key : String} {info : RecordingKeyInfo} (h : parseRecordingKey key = some info) :
    ∃ front ending, IsEnding ending ∧ key.toList = (front ++ ".wav".toList) ++ ending := by
  obtain ⟨parts, ending, -, hending, hkey, -⟩ | ⟨parts, ending, -, hending, hkey, -⟩ := parseRecordingKey_cases h
  · obtain ⟨front, hfront⟩ := exists_keyText_eq "recordings/" ".wav" parts
    exact ⟨front, ending, hending, hkey.trans (congrArg (· ++ ending) hfront)⟩
  · obtain ⟨front, hfront⟩ := exists_keyText_eq "inbound/" ".wav" parts
    exact ⟨front, ending, hending, hkey.trans (congrArg (· ++ ending) hfront)⟩

/-- A transcript is no recording. -/
theorem parseRecordingKey_eq_none {key : String} (h : (parseTranscriptKey key).isSome = true) :
    parseRecordingKey key = none := by
  have hjson : ∀ front : List Char, (front ++ ".json".toList).getLast? = some 'n' := fun front =>
    List.getLast?_append_of_ne_nil front (List.cons_ne_nil _ _)
  have hwav : ∀ front : List Char, (front ++ ".wav".toList).getLast? = some 'v' := fun front =>
    List.getLast?_append_of_ne_nil front (List.cons_ne_nil _ _)
  rw [Option.eq_none_iff_forall_ne_some]
  intro info hinfo
  obtain ⟨front, ending, hending, hkey⟩ := exists_ending_of_parseTranscriptKey h
  obtain ⟨front', ending', hending', hkey'⟩ := exists_ending_of_parseRecordingKey hinfo
  have hfronts := append_ending_inj (by rw [hjson]; decide) (by rw [hwav]; decide) hending hending' (hkey.symm.trans hkey')
  have hlast := congrArg List.getLast? hfronts
  rw [hjson, hwav] at hlast
  exact absurd hlast (by decide)

theorem outboundTranscriptRe_keyText (parts : String × String × String) :
    outboundTranscriptRe (keyText "inbound/" ".json" parts) = none := by
  rw [Option.eq_none_iff_forall_ne_some]
  intro parts' hparts
  obtain ⟨-, ending, -, heq⟩ := outboundKeyRe_eq_some hparts
  rw [keyText, keyText, show "inbound/".toList = 'i' :: "nbound/".toList from rfl,
    show "transcripts/".toList = 't' :: "ranscripts/".toList from rfl] at heq
  exact absurd (List.cons.inj heq).1 (by decide)

/-- A transcript is found for the call that its recording is of. -/
theorem parseTranscriptKey_transcriptS3Key {key : String} {info : RecordingKeyInfo} (h : parseRecordingKey key = some info) :
    ∃ info', parseTranscriptKey info.transcriptS3Key = some info' ∧ info.SameCall info' := by
  obtain ⟨parts, -, hparts, -, -, rfl⟩ | ⟨parts, -, hparts, -, -, rfl⟩ := parseRecordingKey_cases h
  · dsimp only
    generalize htranscript : "transcripts/" ++ parts.1 ++ "/" ++ parts.2.1 ++ "/" ++ parts.2.2 ++ ".json" = transcript
    have htext : transcript.toList = keyText "transcripts/" ".json" parts := by
      rw [← htranscript, keyText]
      simp only [String.toList_append, List.append_assoc]
      rfl
    have hne : transcript ≠ "" := by
      rintro rfl
      cases htext
    rw [parseTranscriptKey, if_neg hne, htext, outboundTranscriptRe, outboundKeyRe_keyText hparts rfl]
    exact ⟨_, rfl, rfl, rfl, rfl, rfl, rfl⟩
  · dsimp only
    generalize htranscript : "inbound/" ++ parts.1 ++ "/" ++ parts.2.1 ++ "/" ++ parts.2.2 ++ ".json" = transcript
    have htext : transcript.toList = keyText "inbound/" ".json" parts := by
      rw [← htranscript, keyText]
      simp only [String.toList_append, List.append_assoc]
      rfl
    have hne : transcript ≠ "" := by
      rintro rfl
      cases htext
    have hlast : ".json".toList.getLast? ≠ some '\n' := by decide
    rw [parseTranscriptKey, if_neg hne, htext, outboundTranscriptRe_keyText, inboundTranscriptRe,
      inboundKeyRe_keyText hparts (by decide) hlast]
    exact ⟨_, rfl, rfl, rfl, rfl, rfl, rfl⟩

/-- The last `#` of a sort key stands before the digits of the call. -/
theorem metaSk_injective {employeeId employeeId' seq seq' : String} (hseq : ∀ c ∈ seq.toList, isDecimal c = true)
    (hseq' : ∀ c ∈ seq'.toList, isDecimal c = true) (h : employeeId ++ "#" ++ seq = employeeId' ++ "#" ++ seq') :
    employeeId = employeeId' ∧ seq = seq' := by
  have hnot : ∀ {cs : List Char}, (∀ c ∈ cs, isDecimal c = true) → '#' ∉ cs := fun hall hmem => by
    have hhash := hall '#' hmem
    revert hhash
    decide
  have htext := congrArg String.toList h
  have hhash : "#".toList = ['#'] := rfl
  simp only [String.toList_append, hhash, List.append_assoc, List.singleton_append] at htext
  obtain ⟨hemployee, hdigits⟩ := append_cons_inj_right (hnot hseq) (hnot hseq') htext
  exact ⟨String.toList_inj.1 hemployee, String.toList_inj.1 hdigits⟩

theorem outbound_injective {key key' : String} {info info' : RecordingKeyInfo} (h : parseRecordingKey key = some info)
    (h' : parseRecordingKey key' = some info') (hkind : info.kind = .outbound) (hkind' : info'.kind = .outbound)
    (hpk : info.metaPk = info'.metaPk) (hsk : info.metaSk = info'.metaSk) :
    info.cycleIdOrInboundPrefix = info'.cycleIdOrInboundPrefix ∧ info.employeeId = info'.employeeId ∧
      info.seqOrContact = info'.seqOrContact := by
  obtain ⟨parts, -, hparts, -, -, rfl⟩ | ⟨_, -, -, -, -, rfl⟩ := parseRecordingKey_cases h
  · obtain ⟨parts', -, hparts', -, -, rfl⟩ | ⟨_, -, -, -, -, rfl⟩ := parseRecordingKey_cases h'
    · exact ⟨hpk, metaSk_injective hparts.seq.2 hparts'.seq.2 hsk⟩
    · cases hkind'
  · cases hkind

/-- What was derived is parsed back, a transcript is parsed as its recording was and is no recording itself, and the row
of an outbound recording tells the cycle, the employee and the call. -/
theorem keys_roundTrip :
    (∀ (cycleId employeeId : String) (seq : Nat), IsSegment cycleId → IsSegment employeeId → ∃ key info,
      deriveTargetOutboundKey cycleId employeeId seq = .ok key ∧ parseRecordingKey key = some info ∧
        info.kind = .outbound ∧ info.cycleIdOrInboundPrefix = cycleId ∧ info.employeeId = employeeId ∧
        info.seqOrContact = toString seq) ∧
    (∀ key info, parseRecordingKey key = some info →
      ∃ info', parseTranscriptKey info.transcriptS3Key = some info' ∧ info.SameCall info') ∧
    (∀ key info, parseTranscriptKey key = some info → parseRecordingKey key = none) ∧
    ∀ key key' info info', parseRecordingKey key = some info → parseRecordingKey key' = some info' →
      info.kind = .outbound → info'.kind = .outbound → info.metaPk = info'.metaPk → info.metaSk = info'.metaSk →
      info.cycleIdOrInboundPrefix = info'.cycleIdOrInboundPrefix ∧ info.employeeId = info'.employeeId ∧
        info.seqOrContact = info'.seqOrContact := by
  refine ⟨fun cycleId employeeId seq hcycle hemployee => ?_, fun _ _ => parseTranscriptKey_transcriptS3Key,
    fun key info h => parseRecordingKey_eq_none (h ▸ rfl), fun _ _ _ _ => outbound_injective⟩
  exact ⟨_, _, deriveTargetOutboundKey_eq_ok.2 ⟨hcycle, hemployee, rfl⟩, parseRecordingKey_outboundKey hcycle hemployee seq,
    rfl, rfl, rfl, rfl⟩

/-- The second call of an employee, and the inbound call of one. -/
theorem keys_roundTrip_secondCall :
    (∃ key info, deriveTargetOutboundKey "c1" "e1" 2 = .ok key ∧ parseRecordingKey key = some info ∧
      info.kind = .outbound ∧ info.cycleIdOrInboundPrefix = "c1" ∧ info.employeeId = "e1" ∧
      info.seqOrContact = toString 2) ∧
    ∃ info info', parseRecordingKey "inbound/202601/e1/k1.wav" = some info ∧
      parseTranscriptKey info.transcriptS3Key = some info' ∧ info.SameCall info' := by
  refine ⟨keys_roundTrip.1 "c1" "e1" 2 (by decide) (by decide), ?_⟩
  obtain ⟨info, hinfo⟩ := Option.isSome_iff_exists.1
    (show (parseRecordingKey "inbound/202601/e1/k1.wav").isSome = true by decide)
  obtain ⟨info', hparse, hsame⟩ := keys_roundTrip.2.1 _ info hinfo
  exact ⟨info, info', hinfo, hparse, hsame⟩

end Recording

end SafetyConfirmation
