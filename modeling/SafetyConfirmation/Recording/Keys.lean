import SafetyConfirmation.Data.Value
import SafetyConfirmation.Lib.Checks
import SafetyConfirmation.Lib.Pattern

/-!
# The keys of recordings

`shared.recording.connect_key` and the recording half of `shared.recording.s3_keys`: the layout Amazon Connect writes,
the layout of the design, and the ids that a key carries.
-/

namespace SafetyConfirmation

namespace Recording

open Checks Pattern

/-! ### `connect_key` -/

structure ConnectNativeKeyInfo where
  contactId : String
  yyyy : String
  mm : String
  dd : String
  timestamp : String
  deriving DecidableEq, Repr

def connectRe : Matcher ConnectNativeKeyInfo :=
  plusLazy notNewline fun _ =>
  lit "/CallRecordings/".toList <|
  exactly 4 isDecimal fun yyyy => lit ['/'] <|
  exactly 2 isDecimal fun mm => lit ['/'] <|
  exactly 2 isDecimal fun dd => lit ['/'] <|
  plus (noneOf ['/', '_']) fun contactId => lit ['_'] <|
  plusLazy (noneOf ['/']) fun timestamp => lit "_UTC".toList <|
  optional (fun k => lit ['_'] <| plus (noneOf ['/']) fun _ => k) <|
  lit ".wav".toList <|
  atEnd {
    contactId := .ofList contactId
    yyyy := .ofList yyyy
    mm := .ofList mm
    dd := .ofList dd
    timestamp := .ofList timestamp }

def parseConnectNativeKey (key : String) : Option ConnectNativeKeyInfo :=
  if key = "" then none else connectRe key.toList

/-- A component of a key: not empty, and without a slash. -/
def IsSegment (s : String) : Prop := s ≠ "" ∧ '/' ∉ s.toList

instance (s : String) : Decidable (IsSegment s) := inferInstanceAs (Decidable (_ ∧ _))

def outboundKey (cycleId employeeId seq : String) : String :=
  "recordings/" ++ cycleId ++ "/" ++ employeeId ++ "/" ++ seq ++ ".wav"

/-- `derive_target_outbound_key`. The number of a call is far from the 4300 digits from which on Python's `str` raises. -/
def deriveTargetOutboundKey (cycleId employeeId : String) (seq : Int) : Except PyError String := do
  require (IsSegment cycleId) (.valueError "cycle_id must be a non-empty string without '/'; got" (some (.str cycleId)))
  require (IsSegment employeeId)
    (.valueError "employee_id must be a non-empty string without '/'; got" (some (.str employeeId)))
  require (0 ≤ seq) (.valueError "seq must be a non-negative int; got" (some (.int seq)))
  return outboundKey cycleId employeeId (toString seq)

/-! ### `s3_keys` -/

inductive RecordingKind where
  | outbound
  | inbound
  deriving DecidableEq, Repr

structure RecordingKeyInfo where
  kind : RecordingKind
  cycleIdOrInboundPrefix : String
  employeeId : String
  seqOrContact : String
  transcriptS3Key : String
  metaPk : String
  metaSk : String
  deriving DecidableEq, Repr

def outboundRe : Matcher (String × String × String) :=
  lit "recordings/".toList <|
  plus (noneOf ['/']) fun cycleId => lit ['/'] <|
  plus (noneOf ['/']) fun employeeId => lit ['/'] <|
  plus isDecimal fun seq => lit ".wav".toList <|
  atEnd (.ofList cycleId, .ofList employeeId, .ofList seq)

def inboundRe : Matcher (String × String × String) :=
  lit "inbound/".toList <|
  exactly 6 isDecimal fun yyyymm => lit ['/'] <|
  plus (noneOf ['/']) fun employeeId => lit ['/'] <|
  plus (noneOf ['/']) fun contactId => lit ".wav".toList <|
  atEnd (.ofList yyyymm, .ofList employeeId, .ofList contactId)

def parseRecordingKey (key : String) : Option RecordingKeyInfo :=
  if key = "" then none
  else
    match outboundRe key.toList with
    | some (cycleId, employeeId, seq) => some {
        kind := .outbound
        cycleIdOrInboundPrefix := cycleId
        employeeId := employeeId
        seqOrContact := seq
        transcriptS3Key := "transcripts/" ++ cycleId ++ "/" ++ employeeId ++ "/" ++ seq ++ ".json"
        metaPk := cycleId
        metaSk := employeeId ++ "#" ++ seq }
    | none =>
      (inboundRe key.toList).map fun (yyyymm, employeeId, contactId) => {
        kind := .inbound
        cycleIdOrInboundPrefix := "INBOUND#" ++ contactId
        employeeId := employeeId
        seqOrContact := contactId
        transcriptS3Key := "inbound/" ++ yyyymm ++ "/" ++ employeeId ++ "/" ++ contactId ++ ".json"
        metaPk := "INBOUND#" ++ contactId
        metaSk := employeeId ++ "#0" }

/-! ### The outbound key and its parts -/

theorem noneOf_slash {s : String} (h : IsSegment s) : ∀ c ∈ s.toList, noneOf ['/'] c = true := by
  intro c hc
  rw [noneOf, Bool.not_eq_true', ← Bool.not_eq_true, List.contains_iff_mem, List.mem_singleton]
  rintro rfl
  exact h.2 hc

theorem toList_ne_nil {s : String} (h : IsSegment s) : s.toList ≠ [] := by
  intro hnil
  exact h.1 (String.toList_inj.1 hnil)

theorem isDecimal_of_mem_toString {n : Nat} : ∀ c ∈ (toString n).toList, isDecimal c = true := by
  intro c hc
  rw [Nat.toString_eq_repr, Nat.toList_repr] at hc
  exact isDecimal_of_isDigit (Nat.isDigit_of_mem_toDigits (by omega) (by omega) hc)

theorem toString_nat_injective {m n : Nat} (h : toString m = toString n) : m = n := by
  have hdigits := congrArg String.toList h
  rw [Nat.toString_eq_repr, Nat.toString_eq_repr, Nat.toList_repr, Nat.toList_repr] at hdigits
  rw [← Nat.ofDigitChars_ten_toDigits (n := m), hdigits, Nat.ofDigitChars_ten_toDigits]

theorem deriveTargetOutboundKey_eq_ok {cycleId employeeId key : String} {seq : Nat} :
    deriveTargetOutboundKey cycleId employeeId seq = .ok key ↔
      IsSegment cycleId ∧ IsSegment employeeId ∧ key = outboundKey cycleId employeeId (toString seq) := by
  have hseq : (0 : Int) ≤ seq := Int.natCast_nonneg seq
  have hvalue : (Except.ok (outboundKey cycleId employeeId (toString (seq : Int))) : Except PyError String) = .ok key ↔
      key = outboundKey cycleId employeeId (toString seq) := by
    rw [Except.ok.injEq, eq_comm]
    rfl
  simp only [deriveTargetOutboundKey, bind_eq_ok, require_eq_ok, exists_and_left, exists_const, hseq, true_and]
  exact and_congr_right' (and_congr_right' hvalue)

theorem toList_outboundKey (cycleId employeeId seq : String) : (outboundKey cycleId employeeId seq).toList =
    "recordings/".toList ++ (cycleId.toList ++ '/' :: (employeeId.toList ++ '/' :: (seq.toList ++ '.' :: "wav".toList))) := by
  have hkey : outboundKey cycleId employeeId seq =
      "recordings/" ++ cycleId ++ "/" ++ employeeId ++ "/" ++ seq ++ ".wav" := rfl
  have hslash : "/".toList = ['/'] := rfl
  have hextension : ".wav".toList = '.' :: "wav".toList := rfl
  simp only [hkey, String.toList_append, List.append_assoc, hslash, hextension, List.cons_append, List.nil_append]

theorem outboundRe_outboundKey {cycleId employeeId : String} (hcycle : IsSegment cycleId)
    (hemployee : IsSegment employeeId) (seq : Nat) :
    outboundRe (outboundKey cycleId employeeId (toString seq)).toList = some (cycleId, employeeId, toString seq) := by
  have hslash : noneOf ['/'] '/' = false := rfl
  have hdot : isDecimal '.' = false := by decide
  have hdigits : (toString seq).toList ≠ [] := by
    rw [Nat.toString_eq_repr, Nat.toList_repr]
    exact Nat.toDigits_ne_nil
  have hwav : ".wav".toList = '.' :: "wav".toList := rfl
  rw [toList_outboundKey, outboundRe, hwav, lit_append,
    plus_append_cons (toList_ne_nil hcycle) (noneOf_slash hcycle) hslash fun _ => startsWith_lit _ _ _, lit_singleton,
    plus_append_cons (toList_ne_nil hemployee) (noneOf_slash hemployee) hslash fun _ => startsWith_lit _ _ _, lit_singleton,
    plus_append_cons hdigits isDecimal_of_mem_toString hdot fun _ => startsWith_lit _ _ _]
  have hend : ∀ a : String × String × String,
      lit ('.' :: "wav".toList) (atEnd a) ('.' :: "wav".toList) = some a := fun _ => rfl
  rw [hend, String.ofList_toList, String.ofList_toList, String.ofList_toList]

/-- What the key was derived from can be read back from it, and TranscribeStarter writes the transcript beside it. -/
theorem parseRecordingKey_outboundKey {cycleId employeeId : String} (hcycle : IsSegment cycleId)
    (hemployee : IsSegment employeeId) (seq : Nat) :
    parseRecordingKey (outboundKey cycleId employeeId (toString seq)) = some {
      kind := .outbound
      cycleIdOrInboundPrefix := cycleId
      employeeId := employeeId
      seqOrContact := toString seq
      transcriptS3Key := "transcripts/" ++ cycleId ++ "/" ++ employeeId ++ "/" ++ toString seq ++ ".json"
      metaPk := cycleId
      metaSk := employeeId ++ "#" ++ toString seq } := by
  have hne : outboundKey cycleId employeeId (toString seq) ≠ "" := by
    intro hempty
    have hnil := congrArg String.toList hempty
    rw [toList_outboundKey] at hnil
    cases hnil
  rw [parseRecordingKey, if_neg hne, outboundRe_outboundKey hcycle hemployee]

theorem outboundKey_injective {cycleId employeeId cycleId' employeeId' : String} {seq seq' : Nat}
    (hcycle : IsSegment cycleId) (hemployee : IsSegment employeeId) (hcycle' : IsSegment cycleId')
    (hemployee' : IsSegment employeeId')
    (h : outboundKey cycleId employeeId (toString seq) = outboundKey cycleId' employeeId' (toString seq')) :
    cycleId = cycleId' ∧ employeeId = employeeId' ∧ seq = seq' := by
  have hparsed := outboundRe_outboundKey hcycle hemployee seq
  rw [h, outboundRe_outboundKey hcycle' hemployee' seq'] at hparsed
  simp only [Option.some.injEq, Prod.mk.injEq] at hparsed
  exact ⟨hparsed.1.symm, hparsed.2.1.symm, toString_nat_injective hparsed.2.2.symm⟩

/-! ### Native keys -/

theorem notMem_of_noneOf {excluded chars : List Char} (h : ∀ c ∈ chars, noneOf excluded c = true) {c : Char}
    (hc : c ∈ excluded) : c ∉ chars := by
  intro hmem
  have hnone := h c hmem
  rw [noneOf, Bool.not_eq_true', ← Bool.not_eq_true, List.contains_iff_mem] at hnone
  exact hnone hc

theorem slash_notMem_of_isDecimal {chars : List Char} (h : ∀ c ∈ chars, isDecimal c = true) : '/' ∉ chars := by
  intro hmem
  have hdecimal := h '/' hmem
  revert hdecimal
  decide

theorem slash_notMem_of_isEnding {ending : List Char} (h : IsEnding ending) : '/' ∉ ending := by
  obtain rfl | rfl := h <;> decide

/-- What a match says about a key: the date in its last folders, and the contact before the first `_` of its file. -/
theorem connectRe_eq_some {cs : List Char} {info : ConnectNativeKeyInfo} (h : connectRe cs = some info) :
    ∃ before tail,
      cs = before ++ "/CallRecordings".toList ++ '/' :: info.yyyy.toList ++ '/' :: info.mm.toList ++
        '/' :: info.dd.toList ++ '/' :: (info.contactId.toList ++ '_' :: tail) ∧
      '/' ∉ info.yyyy.toList ∧ '/' ∉ info.mm.toList ∧ '/' ∉ info.dd.toList ∧
      '/' ∉ info.contactId.toList ∧ '_' ∉ info.contactId.toList ∧ '/' ∉ tail := by
  obtain ⟨before, rest, -, -, heq, hfolder⟩ := plusLazy_eq_some h
  obtain ⟨rest, rfl, hyear⟩ := lit_eq_some hfolder
  obtain ⟨yyyy, rest, -, hyyyy, rfl, hafterYear⟩ := exactly_eq_some hyear
  obtain ⟨rest, rfl, hmonth⟩ := lit_eq_some hafterYear
  obtain ⟨mm, rest, -, hmm, rfl, hafterMonth⟩ := exactly_eq_some hmonth
  obtain ⟨rest, rfl, hday⟩ := lit_eq_some hafterMonth
  obtain ⟨dd, rest, -, hdd, rfl, hafterDay⟩ := exactly_eq_some hday
  obtain ⟨rest, rfl, hfile⟩ := lit_eq_some hafterDay
  obtain ⟨contactId, rest, -, hcontact, rfl, hafterContact⟩ := plus_eq_some hfile
  obtain ⟨rest, rfl, htimestamp⟩ := lit_eq_some hafterContact
  obtain ⟨timestamp, rest, -, hstamp, rfl, hafterStamp⟩ := plusLazy_eq_some htimestamp
  obtain ⟨rest, rfl, hchannel⟩ := lit_eq_some hafterStamp
  have hrest : '/' ∉ rest ∧ info = {
      contactId := .ofList contactId
      yyyy := .ofList yyyy
      mm := .ofList mm
      dd := .ofList dd
      timestamp := .ofList timestamp } := by
    have hextension : '/' ∉ ".wav".toList := by decide
    obtain hsuffix | hnone := optional_eq_some hchannel
    · obtain ⟨rest, rfl, hname⟩ := lit_eq_some hsuffix
      obtain ⟨channel, rest, -, hslash, rfl, hwav⟩ := plus_eq_some hname
      obtain ⟨rest, rfl, hend⟩ := lit_eq_some hwav
      obtain ⟨hending, hinfo⟩ := atEnd_eq_some hend
      refine ⟨?_, hinfo.symm⟩
      simp [notMem_of_noneOf hslash, slash_notMem_of_isEnding hending]
    · obtain ⟨rest, rfl, hend⟩ := lit_eq_some hnone
      obtain ⟨hending, hinfo⟩ := atEnd_eq_some hend
      exact ⟨List.not_mem_append hextension (slash_notMem_of_isEnding hending), hinfo.symm⟩
  obtain ⟨hrest, rfl⟩ := hrest
  refine ⟨before, timestamp ++ "_UTC".toList ++ rest, ?_, ?_⟩
  · have hcut : "/CallRecordings/".toList = "/CallRecordings".toList ++ ['/'] := rfl
    simp [heq, hcut]
  · simp only [String.toList_ofList]
    have hutc : '/' ∉ "_UTC".toList := by decide
    refine ⟨slash_notMem_of_isDecimal hyyyy, slash_notMem_of_isDecimal hmm, slash_notMem_of_isDecimal hdd,
      notMem_of_noneOf hcontact List.mem_cons_self, notMem_of_noneOf hcontact (by decide), ?_⟩
    exact List.not_mem_append (List.not_mem_append (notMem_of_noneOf hstamp List.mem_cons_self) hutc) hrest

/-- A Connect-native key has more slashes than a derived one. -/
theorem five_le_count_slash {key : String} {info : ConnectNativeKeyInfo} (h : parseConnectNativeKey key = some info) :
    5 ≤ key.toList.count '/' := by
  rw [parseConnectNativeKey] at h
  split at h
  · cases h
  · obtain ⟨before, tail, heq, -⟩ := connectRe_eq_some h
    have hfolder : "/CallRecordings".toList.count '/' = 1 := by decide
    rw [heq]
    simp only [List.count_append, List.count_cons_self, hfolder]
    omega

theorem count_slash_outboundKey {cycleId employeeId : String} (hcycle : IsSegment cycleId)
    (hemployee : IsSegment employeeId) (seq : Nat) : (outboundKey cycleId employeeId (toString seq)).toList.count '/' = 3 := by
  have hseq : '/' ∉ (toString seq).toList := by
    intro hmem
    have hdecimal := isDecimal_of_mem_toString _ hmem
    revert hdecimal
    decide
  have hroot : "recordings/".toList.count '/' = 1 := by decide
  have hextension : "wav".toList.count '/' = 0 := by decide
  rw [toList_outboundKey]
  simp only [List.count_append, List.count_cons, List.count_eq_zero_of_not_mem hcycle.2,
    List.count_eq_zero_of_not_mem hemployee.2, List.count_eq_zero_of_not_mem hseq, hroot, hextension]
  decide

/-- A recording that was relocated is not taken for a new one. -/
theorem parseConnectNativeKey_outboundKey {cycleId employeeId : String} (hcycle : IsSegment cycleId)
    (hemployee : IsSegment employeeId) (seq : Nat) :
    parseConnectNativeKey (outboundKey cycleId employeeId (toString seq)) = none := by
  rw [Option.eq_none_iff_forall_ne_some]
  intro info hinfo
  have hcount := five_le_count_slash hinfo
  rw [count_slash_outboundKey hcycle hemployee] at hcount
  omega

end Recording

end SafetyConfirmation
