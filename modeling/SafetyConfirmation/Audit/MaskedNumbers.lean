import SafetyConfirmation.Employee.LogRuns
import SafetyConfirmation.Inbound.Renumbered

/-!
# Phone numbers in the logs

Two runs of EmployeeApi or of InboundHandler that differ in phone numbers with the same last four digits write the same
lines, but for the rollback of an import: the line about a call of it that fails has the number in full.
-/

namespace SafetyConfirmation

namespace Audit

open KeyedStore Employee EmployeeCsv EmployeeApi EmployeeApi.Renumbered

theorem indexing_marked : Indexing .marked where
  computeBlindIndex_inj _ _ h := h
  computeBlindIndex_ne_empty h := Inbound.ne_empty_of_e164 h

/-- EmployeeApi writes the same in both runs exactly where no rollback is answered with a `ClientError` for a number that
differs, and InboundHandler always does. -/
theorem emitted_eq_iff_rollbacks (library : Library) (pairs : NumberPairs) (hlawful : library.crypto.Lawful)
    (hindexing : Indexing library.crypto) :
    (∀ (inv : Invocation) (body : RawBody) (w w' : World) (environments : Nat → Environment),
      BodyAlike library pairs inv.event.body body → WorldAlike library.crypto pairs w w' →
      ((serveLogged library inv environments w).emitted =
          (serveLogged library (inv.withBody body) environments w').emitted ↔
        ∀ phone ∈ (serveLogged library inv environments w).failures, pairs.paired phone phone)) ∧
    (∀ (windowDays : Int) (now : Instant) (event event' : Value) (faults : Nat → Option (PyError × Bool))
      (tables tables' : Inbound.Tables),
      Inbound.EventAlike pairs event event' → Inbound.TablesAlike library.crypto pairs tables tables' →
      (Inbound.receive windowDays now event faults tables).2.emitted =
        (Inbound.receive windowDays now event' faults tables').2.emitted) := by
  refine ⟨?_, ?_⟩
  · intro inv body w w' environments hbody hw
    exact serveLogged_emitted_eq_iff hlawful hindexing hbody hw environments
  · intro windowDays now event event' faults tables tables' hevent htables
    exact Inbound.receive_emitted_eq hlawful windowDays now hevent faults htables

/-! ### An import to try -/

/-- One number stands for another, and every third one for itself. -/
def NumberPairs.exchange (p q : String) (hp : e164Re p = true) (hq : e164Re q = true) (hlength : p.length = q.length)
    (hlast : lastFour p = lastFour q) : NumberPairs where
  paired s s' := s = p ∧ s' = q ∨ s = s' ∧ e164Re s = true ∧ s ≠ p ∧ s ≠ q
  e164_left := by
    rintro s s' (⟨rfl, -⟩ | ⟨-, h, -⟩)
    · exact hp
    · exact h
  e164_right := by
    rintro s s' (⟨-, rfl⟩ | ⟨rfl, h, -⟩)
    · exact hq
    · exact h
  length_eq := by
    rintro s s' (⟨rfl, rfl⟩ | ⟨rfl, -⟩)
    · exact hlength
    · rfl
  lastFour_eq := by
    rintro s s' (⟨rfl, rfl⟩ | ⟨rfl, -⟩)
    · exact hlast
    · rfl
  eq_iff := by
    rintro s s' t t' (⟨rfl, rfl⟩ | ⟨rfl, -, hsp, hsq⟩) (⟨rfl, rfl⟩ | ⟨rfl, -, htp, htq⟩)
    · exact iff_of_true rfl rfl
    · exact iff_of_false htp.symm htq.symm
    · exact iff_of_false hsp hsq
    · exact Iff.rfl

def numbersToTry : NumberPairs :=
  .exchange "+819012345678" "+819087655678" (by decide) (by decide) (by decide) (by decide)

/-- Two batches of rows. -/
def rowsToTry (first : String) : List (List String) :=
  ["Sato", first] :: (List.range 25).map fun i => ["Suzuki", "08000000" ++ toString (100 + i)]

/-- Two files that differ in the first number. -/
def filesToTry : Library where
  crypto := .marked
  decodeCsv raw :=
    if raw = "bmFtZQ==" then
      .ok { size := 512, text := some { records := ["name", "phoneNumber"] :: rowsToTry "09012345678" } }
    else if raw = "bmFtZR==" then
      .ok { size := 512, text := some { records := ["name", "phoneNumber"] :: rowsToTry "09087655678" } }
    else .error "Incorrect padding"
  anonymizeEmployeeId employeeId _ := employeeId

def uploadOf (raw : String) : Invocation where
  event := {
    httpMethod := "POST"
    resource := "/employees/import"
    body := .json (.dict [("csvBase64", .str raw)]) }
  uuid n := toString n

/-- The second batch is refused, and then a look-up of the rollback. -/
def throttled (n : Nat) : Environment :=
  if n = 27 ∨ n = 29 then { fault := some ⟨.clientError "ThrottlingException", false⟩ } else {}

def callToTry (callerNumber : String) : Value :=
  .dict [("step", .str "identify"), ("contactId", .str "c1"), ("callerNumber", .str callerNumber)]

def calledTables (phoneNumber : String) : Inbound.Tables where
  employees := (∅ : Store String Employee).set "e1" (some { name := "Sato", phoneNumber := some (.str phoneNumber) })

theorem alike_filesToTry : BodyAlike filesToTry numbersToTry (uploadOf "bmFtZQ==").event.body
    (uploadOf "bmFtZR==").event.body := by
  have hothers : ∀ i ∈ List.range 25, domesticJpRe (stripped ("08000000" ++ toString (100 + i))) = true ∧
      e164Re (domesticToE164 (stripped ("08000000" ++ toString (100 + i)))) = true ∧
      domesticToE164 (stripped ("08000000" ++ toString (100 + i))) ≠ "+819012345678" ∧
      domesticToE164 (stripped ("08000000" ++ toString (100 + i))) ≠ "+819087655678" := by decide +kernel
  have hrecords : List.Forall₂ (RecordAlike numbersToTry) (["name", "phoneNumber"] :: rowsToTry "09012345678")
      (["name", "phoneNumber"] :: rowsToTry "09087655678") := by
    refine .cons (.cells "name" (.same _ (by decide) (by decide))) (.cons (.cells "Sato" ?_) ?_)
    · exact .domestic (by decide) (by decide) (.inl (by decide))
    · rw [List.forall₂_map_left_iff, List.forall₂_map_right_iff, List.forall₂_same]
      intro i hi
      obtain ⟨hdomestic, he164⟩ := hothers i hi
      exact .cells "Suzuki" (.domestic hdomestic hdomestic (.inr ⟨rfl, he164⟩))
  refine .fields ⟨.none, .some (.file (by decide) (by decide) ?_), ?_⟩
  · exact .ok ⟨rfl, .some ⟨hrecords, rfl⟩⟩
  · intro key hphone hcsv
    have hne : (key == "csvBase64") = false := beq_eq_false_iff_ne.2 hcsv
    simp [Value.get?, List.lookup_cons, hne]

theorem alike_empty_world : WorldAlike filesToTry.crypto numbersToTry {} {} := ⟨.nil, rfl, rfl, rfl⟩

theorem alike_callToTry : Inbound.EventAlike numbersToTry (callToTry "+819012345678") (callToTry "+819087655678") := by
  refine .fields (.ok ⟨.inr ⟨_, _, rfl, rfl, .inl ⟨rfl, rfl⟩⟩, ?_⟩)
  intro key hcaller
  have hne : (key == "callerNumber") = false := beq_eq_false_iff_ne.2 hcaller
  simp [Inbound.field, Value.get?, List.lookup_cons, hne]

theorem alike_calledTables : Inbound.TablesAlike filesToTry.crypto numbersToTry (calledTables "+819012345678")
    (calledTables "+819087655678") where
  employees := .cons ⟨rfl, .some (.stored (.plain (.number (.inl ⟨rfl, rfl⟩)) (by decide) (by decide))), rfl, rfl⟩ .nil
  cycles := rfl
  responses := rfl
  inboundContacts := .nil

/-- An import that succeeds, and a call of the employee. -/
theorem emitted_eq_filesToTry :
    (serveLogged filesToTry (uploadOf "bmFtZQ==") (fun _ => {}) {}).emitted =
        (serveLogged filesToTry ((uploadOf "bmFtZQ==").withBody (uploadOf "bmFtZR==").event.body) (fun _ => {}) {}).emitted ∧
      (Inbound.receive 30 0 (callToTry "+819012345678") (fun _ => none) (calledTables "+819012345678")).2.emitted =
        (Inbound.receive 30 0 (callToTry "+819087655678") (fun _ => none) (calledTables "+819087655678")).2.emitted := by
  obtain ⟨hemployee, hinbound⟩ :=
    emitted_eq_iff_rollbacks filesToTry numbersToTry FieldCrypto.lawful_marked indexing_marked
  have hnone : (serveLogged filesToTry (uploadOf "bmFtZQ==") (fun _ => {}) {}).failures = [] := by decide +kernel
  refine ⟨(hemployee _ _ _ _ _ alike_filesToTry alike_empty_world).2 ?_,
    hinbound 30 0 _ _ _ _ _ alike_callToTry alike_calledTables⟩
  rw [hnone]
  exact fun _ h => (List.not_mem_nil h).elim

/-- The line of the rollback tells the two imports apart. -/
theorem emitted_ne_throttled :
    BodyAlike filesToTry numbersToTry (uploadOf "bmFtZQ==").event.body (uploadOf "bmFtZR==").event.body ∧
      WorldAlike filesToTry.crypto numbersToTry {} {} ∧
      (serveLogged filesToTry (uploadOf "bmFtZQ==") throttled {}).emitted ≠
        (serveLogged filesToTry ((uploadOf "bmFtZQ==").withBody (uploadOf "bmFtZR==").event.body) throttled {}).emitted := by
  refine ⟨alike_filesToTry, alike_empty_world, fun hsame => ?_⟩
  have hnamed := congrArg (fun lines => lines.flatMap namedNumbers) hsame
  rw [← failures_eq_namedNumbers, ← failures_eq_namedNumbers] at hnamed
  have hdiffer : (serveLogged filesToTry (uploadOf "bmFtZQ==") throttled {}).failures ≠
      (serveLogged filesToTry ((uploadOf "bmFtZQ==").withBody (uploadOf "bmFtZR==").event.body) throttled {}).failures := by
    decide +kernel
  exact hdiffer hnamed

end Audit

end SafetyConfirmation
