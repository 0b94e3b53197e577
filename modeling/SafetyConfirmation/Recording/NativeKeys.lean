import SafetyConfirmation.Recording.Relocator

/-!
# Native keys

The keys that Connect writes and what `parse_connect_native_key` reads from them. The prefix of the bucket is opaque, and
may hold a `/CallRecordings/` and a date of its own, and the timestamp may hold another `_UTC_`: a match is found because
the key has the layout, and it is the right one because its date stands in the last folders of the key and its contact
before the first `_` of the file, whichever way the pattern took.
-/

namespace SafetyConfirmation

namespace Recording

open Pattern Checks

/-- `n` digits. -/
def IsDigits (n : Nat) (s : String) : Prop := s.toList.length = n ∧ ∀ c ∈ s.toList, isDecimal c = true

instance (n : Nat) (s : String) : Decidable (IsDigits n s) :=
  decidable_of_iff (s.toList.length = n ∧ s.toList.all isDecimal = true) (and_congr_right' List.all_eq_true)

/-- A recording as Connect names it. -/
structure NativeRecording where
  bucketPrefix : String
  yyyy : String
  mm : String
  dd : String
  contactId : String
  timestamp : String
  channel : Option String
  bucketPrefix_ne : bucketPrefix ≠ ""
  newline_notMem : '\n' ∉ bucketPrefix.toList
  yyyy_digits : IsDigits 4 yyyy
  mm_digits : IsDigits 2 mm
  dd_digits : IsDigits 2 dd
  contactId_segment : IsSegment contactId
  underscore_notMem : '_' ∉ contactId.toList
  timestamp_segment : IsSegment timestamp
  channel_segment : ∀ c ∈ channel, IsSegment c

namespace NativeRecording

/-- `_<channel>`, for the recording of one channel. -/
def channelSuffix (recording : NativeRecording) : String := recording.channel.elim "" fun channel => "_" ++ channel

def fileName (recording : NativeRecording) : String :=
  recording.contactId ++ "_" ++ recording.timestamp ++ "_UTC" ++ recording.channelSuffix ++ ".wav"

def key (recording : NativeRecording) : String :=
  recording.bucketPrefix ++ "/CallRecordings/" ++ recording.yyyy ++ "/" ++ recording.mm ++ "/" ++ recording.dd ++ "/" ++
    recording.fileName

variable (recording : NativeRecording)

/-! ### The layout -/

/-- The file, from the `_` after the contact on. -/
def tail : List Char :=
  recording.timestamp.toList ++ ("_UTC".toList ++ (recording.channelSuffix.toList ++ ".wav".toList))

theorem toList_key : recording.key.toList =
    recording.bucketPrefix.toList ++ "/CallRecordings".toList ++ '/' :: recording.yyyy.toList ++
      '/' :: recording.mm.toList ++ '/' :: recording.dd.toList ++
      '/' :: (recording.contactId.toList ++ '_' :: recording.tail) := by
  have hfolder : "/CallRecordings/".toList = "/CallRecordings".toList ++ ['/'] := rfl
  have hslash : "/".toList = ['/'] := rfl
  have hunderscore : "_".toList = ['_'] := rfl
  simp only [key, fileName, tail, String.toList_append, hfolder, hslash, hunderscore, List.append_assoc, List.cons_append,
    List.nil_append]

theorem slash_notMem_channelSuffix : '/' ∉ recording.channelSuffix.toList := by
  rw [channelSuffix]
  cases hchannel : recording.channel with
  | none => decide
  | some channel =>
    have hunderscore : '/' ∉ "_".toList := by decide
    rw [Option.elim_some, String.toList_append]
    exact List.not_mem_append hunderscore (recording.channel_segment channel hchannel).2

theorem slash_notMem_tail : '/' ∉ recording.tail := by
  have hutc : '/' ∉ "_UTC".toList := by decide
  have hextension : '/' ∉ ".wav".toList := by decide
  exact List.not_mem_append recording.timestamp_segment.2
    (List.not_mem_append hutc (List.not_mem_append recording.slash_notMem_channelSuffix hextension))

/-! ### There is a match -/

theorem noneOf_of_notMem {excluded chars : List Char} (h : ∀ c ∈ excluded, c ∉ chars) :
    ∀ c ∈ chars, noneOf excluded c = true := by
  intro c hc
  rw [noneOf, Bool.not_eq_true', ← Bool.not_eq_true, List.contains_iff_mem]
  intro hexcluded
  exact h c hexcluded hc

/-- What follows `_UTC` is read with the channel or without. -/
theorem isSome_channelSuffix {α : Type} (a : α) :
    (Pattern.optional (fun k => lit ['_'] <| plus (noneOf ['/']) fun _ => k) (lit ".wav".toList (atEnd a))
      (recording.channelSuffix.toList ++ ".wav".toList)).isSome = true := by
  have hextension : (lit ".wav".toList (atEnd a) ".wav".toList).isSome = true := rfl
  rw [isSome_optional, channelSuffix]
  cases hchannel : recording.channel with
  | none => exact .inr hextension
  | some channel =>
    left
    have hsegment := recording.channel_segment channel hchannel
    have hunderscore : "_".toList = ['_'] := rfl
    rw [Option.elim_some, String.toList_append, List.append_assoc, hunderscore, lit_append, isSome_plus]
    exact ⟨channel.toList, ".wav".toList, toList_ne_nil hsegment, noneOf_slash hsegment, rfl, hextension⟩

theorem isSome_connectRe : (connectRe recording.key.toList).isSome = true := by
  have hprefix : ∀ c ∈ recording.bucketPrefix.toList, notNewline c = true := by
    intro c hc
    rw [notNewline, bne_iff_ne]
    rintro rfl
    exact recording.newline_notMem hc
  have hcontact : ∀ c ∈ recording.contactId.toList, noneOf ['/', '_'] c = true := by
    apply noneOf_of_notMem
    simp [recording.contactId_segment.2, recording.underscore_notMem]
  have hne : recording.bucketPrefix.toList ≠ [] := fun hnil => recording.bucketPrefix_ne (String.toList_inj.1 hnil)
  have hfolder : "/CallRecordings/".toList = "/CallRecordings".toList ++ ['/'] := rfl
  rw [connectRe, isSome_plusLazy]
  refine ⟨_, "/CallRecordings/".toList ++ (recording.yyyy.toList ++ '/' :: (recording.mm.toList ++
    '/' :: (recording.dd.toList ++ '/' :: (recording.contactId.toList ++ '_' :: recording.tail)))), hne, hprefix, ?_, ?_⟩
  · simp [toList_key, hfolder]
  rw [lit_append, exactly_append recording.yyyy_digits.1 recording.yyyy_digits.2, lit_singleton,
    exactly_append recording.mm_digits.1 recording.mm_digits.2, lit_singleton,
    exactly_append recording.dd_digits.1 recording.dd_digits.2, lit_singleton, isSome_plus]
  refine ⟨_, _, toList_ne_nil recording.contactId_segment, hcontact, rfl, ?_⟩
  rw [lit_singleton, isSome_plusLazy]
  refine ⟨_, _, toList_ne_nil recording.timestamp_segment, noneOf_slash recording.timestamp_segment, rfl, ?_⟩
  rw [lit_append]
  exact recording.isSome_channelSuffix _

/-! ### Every match is right -/

/-- Two texts that end in the same folders and file, each without a slash. -/
theorem folders_inj {front front' yyyy yyyy' mm mm' dd dd' file file' : List Char} (hyyyy : '/' ∉ yyyy) (hmm : '/' ∉ mm)
    (hdd : '/' ∉ dd) (hfile : '/' ∉ file) (hyyyy' : '/' ∉ yyyy') (hmm' : '/' ∉ mm') (hdd' : '/' ∉ dd')
    (hfile' : '/' ∉ file') (h : front ++ '/' :: yyyy ++ '/' :: mm ++ '/' :: dd ++ '/' :: file =
      front' ++ '/' :: yyyy' ++ '/' :: mm' ++ '/' :: dd' ++ '/' :: file') :
    yyyy = yyyy' ∧ mm = mm' ∧ dd = dd' ∧ file = file' := by
  obtain ⟨hday, hfiles⟩ := append_cons_inj_right hfile hfile' h
  obtain ⟨hmonth, hdays⟩ := append_cons_inj_right hdd hdd' hday
  obtain ⟨hyear, hmonths⟩ := append_cons_inj_right hmm hmm' hmonth
  obtain ⟨-, hyears⟩ := append_cons_inj_right hyyyy hyyyy' hyear
  exact ⟨hyears, hmonths, hdays, hfiles⟩

theorem eq_of_connectRe {info : ConnectNativeKeyInfo} (h : connectRe recording.key.toList = some info) :
    info.contactId = recording.contactId ∧ info.yyyy = recording.yyyy ∧ info.mm = recording.mm ∧ info.dd = recording.dd := by
  obtain ⟨before, tail, heq, hyyyy, hmm, hdd, hcontact, hunderscore, htail⟩ := connectRe_eq_some h
  have hfile : '/' ∉ info.contactId.toList ++ '_' :: tail :=
    List.not_mem_append hcontact (List.not_mem_cons_of_ne_of_not_mem (by decide) htail)
  have hfile' : '/' ∉ recording.contactId.toList ++ '_' :: recording.tail :=
    List.not_mem_append recording.contactId_segment.2
      (List.not_mem_cons_of_ne_of_not_mem (by decide) recording.slash_notMem_tail)
  rw [toList_key] at heq
  obtain ⟨hyears, hmonths, hdays, hfiles⟩ := folders_inj (slash_notMem_of_isDecimal recording.yyyy_digits.2)
    (slash_notMem_of_isDecimal recording.mm_digits.2) (slash_notMem_of_isDecimal recording.dd_digits.2) hfile' hyyyy hmm hdd
    hfile heq
  obtain ⟨hcontacts, -⟩ := append_cons_inj recording.underscore_notMem hunderscore hfiles
  exact ⟨(String.toList_inj.1 hcontacts).symm, (String.toList_inj.1 hyears).symm, (String.toList_inj.1 hmonths).symm,
    (String.toList_inj.1 hdays).symm⟩

theorem key_ne : recording.key ≠ "" := by
  intro hempty
  have hnil := congrArg String.toList hempty
  rw [toList_key] at hnil
  exact List.append_ne_nil_of_right_ne_nil _ (List.cons_ne_nil _ _) hnil

theorem parse_key : ∃ info, parseConnectNativeKey recording.key = some info ∧ info.contactId = recording.contactId ∧
    info.yyyy = recording.yyyy ∧ info.mm = recording.mm ∧ info.dd = recording.dd := by
  obtain ⟨info, hinfo⟩ := Option.isSome_iff_exists.1 recording.isSome_connectRe
  exact ⟨info, by rw [parseConnectNativeKey, if_neg recording.key_ne, hinfo], recording.eq_of_connectRe hinfo⟩

end NativeRecording

/-! ### Keys of the design -/

theorem parseConnectNativeKey_derived {cycleId employeeId key : String} {seq : Int}
    (h : deriveTargetOutboundKey cycleId employeeId seq = .ok key) : parseConnectNativeKey key = none := by
  have hseq : 0 ≤ seq := by
    rw [deriveTargetOutboundKey] at h
    obtain ⟨_, -, h⟩ := bind_eq_ok.1 h
    obtain ⟨_, -, h⟩ := bind_eq_ok.1 h
    obtain ⟨_, hseq, -⟩ := bind_eq_ok.1 h
    exact require_eq_ok.1 hseq
  obtain ⟨n, rfl⟩ := Int.eq_ofNat_of_zero_le hseq
  obtain ⟨hcycle, hemployee, rfl⟩ := deriveTargetOutboundKey_eq_ok.1 h
  exact parseConnectNativeKey_outboundKey hcycle hemployee n

end Recording

namespace RecordingRelocator

open KeyedStore Checks Recording

variable {β : Type} {connectRecordingsPrefix : String} {query : String → Nat → Except String (Option Row)}
  {objects : Store (String × String) β}

theorem parseEvent_eq_ok {bucket key : String} {name sourceKey : Value}
    (h : parseEvent (objectCreated bucket key) = .ok (name, sourceKey)) : sourceKey = .str key := by
  by_cases hbucket : bucket = ""
  · subst hbucket
    cases h
  · by_cases hkey : key = ""
    · subst hkey
      simp only [parseEvent, objectCreated, List.lookup_cons, beq_self_eq_true] at h
      obtain ⟨_, -, h⟩ := bind_eq_ok.1 h
      cases h
    · rw [parseEvent_objectCreated hbucket hkey] at h
      cases h
      rfl

/-- A run gets nowhere with a key that Connect does not write. -/
theorem lambdaHandler_ne_ok {bucket key : String} (hkey : parseConnectNativeKey key = none)
    (result : Relocation × Store (String × String) β) :
    lambdaHandler connectRecordingsPrefix query objects (objectCreated bucket key) ≠ .ok result := by
  intro h
  obtain ⟨_, sourceKey, info, _, _, _, _, _, hevent, -, hparse, -⟩ := exists_of_lambdaHandler h
  cases parseEvent_eq_ok hevent
  rw [hkey] at hparse
  cases hparse

theorem targetKey_derived {event : Value} {relocation : Relocation} {objects' : Store (String × String) β}
    (h : lambdaHandler connectRecordingsPrefix query objects event = .ok (relocation, objects')) :
    deriveTargetOutboundKey relocation.cycleId relocation.employeeId relocation.seq = .ok relocation.targetKey := by
  obtain ⟨_, _, _, _, _, _, _, _, -, -, -, -, -, htarget, -, rfl⟩ := exists_of_lambdaHandler h
  exact htarget

/-- The key of a recording gives back its contact and its date, and where a run has put a recording no run takes it up. -/
theorem nativeKey_parsed_outboundKey_refused {β : Type} :
    (∀ recording : NativeRecording, ∃ info, parseConnectNativeKey recording.key = some info ∧
      info.contactId = recording.contactId ∧ info.yyyy = recording.yyyy ∧ info.mm = recording.mm ∧
      info.dd = recording.dd) ∧
    (∀ (cycleId employeeId key : String) (seq : Int), deriveTargetOutboundKey cycleId employeeId seq = .ok key →
      parseConnectNativeKey key = none) ∧
    ∀ (connectRecordingsPrefix : String) (query : String → Nat → Except String (Option Row))
      (objects : Store (String × String) β) (event : Value) (relocation : Relocation) (objects' : Store (String × String) β),
      lambdaHandler connectRecordingsPrefix query objects event = .ok (relocation, objects') →
      ∀ (query' : String → Nat → Except String (Option Row)) (later : Store (String × String) β) (bucket : String)
        (result : Relocation × Store (String × String) β),
        lambdaHandler connectRecordingsPrefix query' later (objectCreated bucket relocation.targetKey) ≠ .ok result := by
  refine ⟨NativeRecording.parse_key, fun _ _ _ _ => parseConnectNativeKey_derived, ?_⟩
  intro connectRecordingsPrefix query objects event relocation objects' hrun query' later bucket result
  exact lambdaHandler_ne_ok (parseConnectNativeKey_derived (targetKey_derived hrun)) result

/-- The prefix holds a date of its own, and the timestamp another `_UTC_`. -/
def nested : NativeRecording where
  bucketPrefix := "raw/CallRecordings/2020/01/02"
  yyyy := "2026"
  mm := "06"
  dd := "25"
  contactId := "k1"
  timestamp := "07:00_UTC_1"
  channel := some "ch_0"
  bucketPrefix_ne := by decide
  newline_notMem := by decide
  yyyy_digits := by decide
  mm_digits := by decide
  dd_digits := by decide
  contactId_segment := by decide
  underscore_notMem := by decide
  timestamp_segment := by decide
  channel_segment := by decide

theorem nested_parsed :
    nested.key = "raw/CallRecordings/2020/01/02/CallRecordings/2026/06/25/k1_07:00_UTC_1_UTC_ch_0.wav" ∧
      (∃ info, parseConnectNativeKey nested.key = some info ∧ info.contactId = "k1" ∧ info.yyyy = "2026" ∧
        info.mm = "06" ∧ info.dd = "25") ∧
      parseConnectNativeKey "recordings/c1/e1/2.wav" = none := by
  obtain ⟨hnative, hderived, -⟩ := @nativeKey_parsed_outboundKey_refused Nat
  exact ⟨by decide, hnative nested, hderived "c1" "e1" _ 2 rfl⟩

end RecordingRelocator

end SafetyConfirmation
