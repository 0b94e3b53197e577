import SafetyConfirmation.Cycle.Exclusivity

/-!
# Replaying an idempotency key

A request is answered with the cycle of its key only while that cycle is the running one it finds. Once the cycle has
ended, or while the request that creates it has not put its row, the key starts a second cycle.
-/

namespace SafetyConfirmation

namespace CycleApi

open KeyedStore StepMachine

/-! ### The rows of a key -/

def keyOf (row : Option Cycle) : Option String := row.bind Cycle.idempotencyKey

def Keyed (cycles : Store String Cycle) (key cycleId : String) : Prop := keyOf (cycles.lookup cycleId) = some key

theorem keyOf_setStartFailed (row : Option Cycle) : keyOf (Cycle.setStartFailed.run row) = keyOf row := by
  cases row <;> rfl

theorem keyOf_setCycleStatus (newStatus : CycleStatus) (now : Instant) (row : Option Cycle) :
    keyOf ((Cycle.setCycleStatus newStatus now).run row) = keyOf row := by
  apply Write.run_induction (motive := fun row' => keyOf row' = keyOf row) rfl
  intro _
  cases row <;> rfl

theorem keyOf_setSlaWarningFlag (row : Option Cycle) : keyOf (Cycle.setSlaWarningFlag.run row) = keyOf row := by
  apply Write.run_induction (motive := fun row' => keyOf row' = keyOf row) rfl
  intro _
  cases row <;> rfl

theorem keyed_write_iff {cycles : Store String Cycle} {w : Write Cycle} {key written : String}
    (hw : ∀ row, keyOf (w.run row) = keyOf row) (cycleId : String) :
    Keyed (cycles.write written w) key cycleId ↔ Keyed cycles key cycleId := by
  by_cases hwritten : cycleId = written
  · subst cycleId
    rw [Keyed, Store.lookup_write_self, hw, Keyed]
  · rw [Keyed, Store.lookup_write_ne cycles w hwritten, Keyed]

theorem keyed_of_mem_rows {cycles : Store String Cycle} {key : String} {entry : String × Cycle}
    (hentry : entry ∈ cycles.rows) (hkey : entry.2.idempotencyKey = some key) : Keyed cycles key entry.1 := by
  rw [Keyed, Store.mem_rows.1 hentry]
  exact hkey

theorem exists_mem_rows_of_keyed {cycles : Store String Cycle} {key cycleId : String} (h : Keyed cycles key cycleId) :
    ∃ entry ∈ cycles.rows, entry.2.idempotencyKey = some key := by
  obtain ⟨cycle, hlookup, hkey⟩ := Option.bind_eq_some_iff.1 h
  exact ⟨(cycleId, cycle), Store.mem_rows.2 hlookup, hkey⟩

theorem keyOf_newCycle {request : Request} {dictVersion : Int} {startedAt : Instant} {key : String} (hkey : key ≠ "") :
    keyOf (some (newCycle request dictVersion startedAt)) = some key ↔ request.idempotencyKey = key := by
  simp only [keyOf, Option.bind_some, newCycle]
  split
  · rename_i hempty
    rw [hempty]
    simp [hkey.symm]
  · exact Option.some_inj

/-! ### The requests of a key -/

/-- The id a 200 or a 201 carries. -/
def Answer.cycleId? : Answer → Option String
  | .created cycleId | .replay cycleId => some cycleId
  | _ => none

/-- What a refused request is answered 200 with is a row of its own key. -/
theorem keyed_of_refuse {cycles : Store String Cycle} {request : Request} {answer : Answer} {cycleId : String}
    (h : refuse request false cycles = some answer) (hid : cycleId ∈ answer.cycleId?) :
    Keyed cycles request.idempotencyKey cycleId := by
  simp only [refuse, Bool.false_eq_true, if_false] at h
  split at h
  · cases h
  · split at h
    · cases h
    · rename_i existing rest hquery
      split at h
      · rename_i hkey
        cases h
        cases hid
        have hmem : existing ∈ queryRunningCycles cycles := by
          rw [hquery]
          exact List.mem_cons_self
        apply keyed_of_mem_rows (mem_queryRunningCycles hmem).1
        obtain ⟨hne, hsame⟩ := hkey
        cases hexisting : existing.2.idempotencyKey with
        | none =>
          rw [hexisting] at hsame
          exact absurd hsame.symm hne
        | some key =>
          rw [hexisting] at hsame
          exact congrArg some hsame
      · cases h
        cases hid

/-- The cycle a request has put or is answered with. -/
def Stage.cycleId? : Stage → Option String
  | .starting cycleId | .failing cycleId => some cycleId
  | .answered answer => answer.cycleId?
  | _ => none

def Stage.request? : Stage → Option Request
  | .reading (.probe request _ _) | .reading (.queryRunning request) => some request
  | .reading (.readVersion request) | .reading (.put request _) => some request
  | _ => none

def Stage.isAtQuery : Stage → Bool
  | .reading (.queryRunning _) => true
  | _ => false

/-- One cycle carries the key, and every request with the key that was answered 200 or 201 was answered its id. -/
structure OneCycle (key : String) (s : State) : Prop where
  row_unique : ∀ cycleId other, Keyed s.cycles key cycleId → Keyed s.cycles key other → cycleId = other
  answers_agree : ∀ i j left right leftAnswer rightAnswer cycleId other,
    s.posts.lookup i = some left → left.request.idempotencyKey = key → left.stage = .answered leftAnswer →
    leftAnswer.cycleId? = some cycleId →
    s.posts.lookup j = some right → right.request.idempotencyKey = key → right.stage = .answered rightAnswer →
    rightAnswer.cycleId? = some other → cycleId = other

/-- A request with the key finds a running cycle when one with the key was put before, and no put of the key falls
between another such request's query and its put. -/
def ReplayedWhileRunning (key : String) (s : State) : Label → Prop
  | .call i (.next _ _ _) => ∀ post ∈ s.posts.lookup i, post.request.idempotencyKey = key →
      (post.stage.isAtQuery = true → canStartCycle (queryRunningCycles s.cycles) = true →
        ∀ entry ∈ s.cycles.rows, entry.2.idempotencyKey ≠ some key) ∧
      (post.stage.isAtPut = true → ∀ entry ∈ s.posts.rows, entry.1 ≠ i → entry.2.request.idempotencyKey = key →
        entry.2.stage.isDecided = false)
  | _ => True

instance ReplayedWhileRunning.decidable (key : String) (s : State) :
    ∀ label, Decidable (ReplayedWhileRunning key s label)
  | .call i (.next _ _ _) => inferInstanceAs (Decidable (∀ post ∈ s.posts.lookup i, _ → _ ∧ _))
  | .call _ (.startExecution _) | .call _ .markFailed | .call _ .raise => .isTrue trivial
  | .post _ _ | .finish _ _ _ | .warn _ => .isTrue trivial

structure Keeps (key : String) (s : State) : Prop where
  request : ∀ i post, s.posts.lookup i = some post → ∀ request ∈ post.stage.request?, request = post.request
  row_unique : ∀ cycleId other, Keyed s.cycles key cycleId → Keyed s.cycles key other → cycleId = other
  undecided : ∀ cycleId, Keyed s.cycles key cycleId → ∀ i post, s.posts.lookup i = some post →
    post.request.idempotencyKey = key → post.stage.isDecided = false
  named : ∀ i post, s.posts.lookup i = some post → post.request.idempotencyKey = key →
    ∀ cycleId ∈ post.stage.cycleId?, Keyed s.cycles key cycleId

theorem Keeps.oneCycle {key : String} {s : State} (hs : Keeps key s) : OneCycle key s where
  row_unique := hs.row_unique
  answers_agree i j left right leftAnswer rightAnswer cycleId other hleft hleftKey hleftStage hleftId hright hrightKey
      hrightStage hrightId := by
    apply hs.row_unique
    · apply hs.named i left hleft hleftKey
      rw [hleftStage]
      exact hleftId
    · apply hs.named j right hright hrightKey
      rw [hrightStage]
      exact hrightId

theorem keeps_of_not_keyed {key : String} {s : State} (hposts : s.posts = ∅)
    (hnone : ∀ cycleId, ¬ Keyed s.cycles key cycleId) : Keeps key s where
  request i post hpost := by
    rw [hposts] at hpost
    cases hpost
  row_unique cycleId _ h := absurd h (hnone cycleId)
  undecided cycleId h := absurd h (hnone cycleId)
  named i post hpost := by
    rw [hposts] at hpost
    cases hpost

/-- A step that keeps the rows of the key and moves one request, or none, to a stage it may be at. -/
theorem Keeps.move {key : String} {s : State} (hs : Keeps key s) {i : Nat} (post : Post) {cycles : Store String Cycle}
    (hkeyed : ∀ cycleId, Keyed cycles key cycleId ↔ Keyed s.cycles key cycleId)
    (hrequest : ∀ request ∈ post.stage.request?, request = post.request)
    (hdecided : post.request.idempotencyKey = key → post.stage.isDecided = true →
      ∀ cycleId, ¬ Keyed s.cycles key cycleId)
    (hnamed : post.request.idempotencyKey = key → ∀ cycleId ∈ post.stage.cycleId?, Keyed s.cycles key cycleId) :
    Keeps key { cycles, posts := s.posts.set i (some post) } where
  request := Store.forall_lookup_set (fun j other _ => hs.request j other) hrequest
  row_unique cycleId other h h' := hs.row_unique cycleId other ((hkeyed _).1 h) ((hkeyed _).1 h')
  undecided cycleId h := by
    apply Store.forall_lookup_set (fun j other _ => hs.undecided cycleId ((hkeyed _).1 h) j other)
    intro hkey
    apply Bool.eq_false_of_not_eq_true
    exact fun hdecided' => hdecided hkey hdecided' cycleId ((hkeyed _).1 h)
  named := by
    apply Store.forall_lookup_set
    · intro j other _ hother hkey cycleId hid
      exact (hkeyed _).2 (hs.named j other hother hkey cycleId hid)
    · intro hkey cycleId hid
      exact (hkeyed _).2 (hnamed hkey cycleId hid)

theorem Keeps.write {key : String} {s : State} (hs : Keeps key s) {cycles : Store String Cycle}
    (hkeyed : ∀ cycleId, Keyed cycles key cycleId ↔ Keyed s.cycles key cycleId) : Keeps key { s with cycles } where
  request := hs.request
  row_unique cycleId other h h' := hs.row_unique cycleId other ((hkeyed _).1 h) ((hkeyed _).1 h')
  undecided cycleId h := hs.undecided cycleId ((hkeyed _).1 h)
  named i post hpost hkey cycleId hid := (hkeyed _).2 (hs.named i post hpost hkey cycleId hid)

theorem keyed_put_iff {cycles : Store String Cycle} {request : Request} {dictVersion : Int} {startedAt : Instant}
    {key cycleId : String} (hkey : key ≠ "") (hfresh : cycles.lookup cycleId = none) (other : String) :
    Keyed (cycles.write cycleId (.put (newCycle request dictVersion startedAt))) key other ↔
      (other = cycleId ∧ request.idempotencyKey = key) ∨ Keyed cycles key other := by
  by_cases hother : other = cycleId
  · subst other
    have hold : ¬ Keyed cycles key cycleId := by
      rw [Keyed, hfresh]
      simp [keyOf]
    have hnew : (Write.put (newCycle request dictVersion startedAt)).run (cycles.lookup cycleId) =
        some (newCycle request dictVersion startedAt) := rfl
    rw [Keyed, Store.lookup_write_self, hnew, keyOf_newCycle hkey]
    simp [hold]
  · rw [Keyed, Store.lookup_write_ne _ _ hother]
    simp [hother, Keyed]

/-- A put of the key, while no other request of the key is between its query and its put. -/
theorem Keeps.put {key : String} {s : State} (hs : Keeps key s) {i : Nat} {request : Request} {dictVersion : Int}
    {cycleId : String} {startedAt : Instant} (hkey : key ≠ "") (hrequest : request.idempotencyKey = key)
    (hfresh : s.cycles.lookup cycleId = none) (hnone : ∀ other, ¬ Keyed s.cycles key other)
    (halone : ∀ entry ∈ s.posts.rows, entry.1 ≠ i → entry.2.request.idempotencyKey = key →
      entry.2.stage.isDecided = false) :
    Keeps key {
      cycles := s.cycles.write cycleId (.put (newCycle request dictVersion startedAt))
      posts := s.posts.set i (some { request, stage := .starting cycleId }) } where
  request := by
    apply Store.forall_lookup_set (fun j other _ => hs.request j other)
    intro other hother
    cases hother
  row_unique left right hleft hright := by
    have honly : ∀ other, Keyed (s.cycles.write cycleId (.put (newCycle request dictVersion startedAt))) key other →
        other = cycleId := by
      intro other hother
      exact ((keyed_put_iff hkey hfresh other).1 hother).elim And.left fun hold => absurd hold (hnone other)
    rw [honly left hleft, honly right hright]
  undecided _ _ := by
    apply Store.forall_lookup_set
    · intro j other hj hother hotherKey
      exact halone (j, other) (Store.mem_rows.2 hother) hj hotherKey
    · exact fun _ => rfl
  named := by
    apply Store.forall_lookup_set
    · intro j other _ hother hotherKey named hnamed
      exact absurd (hs.named j other hother hotherKey named hnamed) (hnone named)
    · intro _ named hnamed
      cases hnamed
      exact (keyed_put_iff hkey hfresh cycleId).2 (.inl ⟨rfl, hrequest⟩)

theorem Keeps.step {key : String} {s t : State} {label : Label} (hkey : key ≠ "") (hs : Keeps key s)
    (hguard : ReplayedWhileRunning key s label) (hstep : step s label = some t) : Keeps key t := by
  cases steps_of_step hstep with
  | @began i request hfresh =>
    apply hs.move { request, stage := .init request } (fun _ => Iff.rfl)
    · intro other hother
      cases hother
      rfl
    · intro _ hdecided
      cases hdecided
    · intro _ _ hid
      cases hid
  | finished _ => exact hs.write (keyed_write_iff (keyOf_setCycleStatus _ _))
  | warned => exact hs.write (keyed_write_iff keyOf_setSlaWarningFlag)
  | @moved i c post stage cycles hpost hmoves =>
    obtain ⟨request, before⟩ := post
    have hbefore := hs.request i _ hpost
    have hnamed := hs.named i _ hpost
    have hmove : ∀ {after : Stage}, after.isDecided = false → (∀ r ∈ after.request?, r ∈ before.request?) →
        (request.idempotencyKey = key → ∀ cycleId ∈ after.cycleId?, Keyed s.cycles key cycleId) →
        Keeps key { s with posts := s.posts.set i (some { request, stage := after }) } := by
      intro after hafter hrequest hid
      apply hs.move { request, stage := after } (fun _ => Iff.rfl) (fun r hr => hbefore r (hrequest r hr)) _ hid
      intro _ hdecided
      rw [hafter] at hdecided
      cases hdecided
    cases hmoves with
    | probed | nonempty =>
      refine hmove rfl (fun _ => id) ?_
      intro _ _ hid
      cases hid
    | empty | raised =>
      refine hmove rfl (fun _ hr => by cases hr) ?_
      intro _ _ hid
      cases hid
    | @refused _ queried answer hrefuse =>
      refine hmove rfl (fun _ hr => by cases hr) ?_
      intro hrequest cycleId hid
      have hqueried : queried = request := hbefore queried rfl
      have hkeyed := keyed_of_refuse hrefuse hid
      rwa [hqueried, hrequest] at hkeyed
    | decided hrefuse =>
      refine hs.move _ (fun _ => Iff.rfl) hbefore ?_ ?_
      · intro hrequest _ cycleId hkeyed
        obtain ⟨entry, hentry, hentryKey⟩ := exists_mem_rows_of_keyed hkeyed
        exact (hguard _ hpost hrequest).1 rfl (canStartCycle_of_refuse hrefuse) entry hentry hentryKey
      · intro _ _ hid
        cases hid
    | versioned =>
      refine hs.move _ (fun _ => Iff.rfl) hbefore ?_ ?_
      · intro hrequest _ cycleId hkeyed
        have hdecided := hs.undecided cycleId hkeyed i _ hpost hrequest
        cases hdecided
      · intro _ _ hid
        cases hid
    | @put putRequest dictVersion tables cycleId startedAt hid hfresh =>
      have hput : putRequest = request := hbefore putRequest rfl
      subst hput
      by_cases hrequest : putRequest.idempotencyKey = key
      · apply hs.put hkey hrequest hfresh _ ((hguard _ hpost hrequest).2 rfl)
        intro other hother
        have hdecided := hs.undecided other hother i _ hpost hrequest
        cases hdecided
      · refine hs.move _ ?_ (fun _ hr => by cases hr) (fun h => absurd h hrequest) fun h => absurd h hrequest
        intro other
        rw [keyed_put_iff hkey hfresh]
        simp [hrequest]
    | started | notStarted =>
      refine hmove rfl (fun _ hr => by cases hr) ?_
      intro hrequest cycleId hid
      exact hnamed hrequest cycleId hid
    | marked =>
      refine hs.move _ (keyed_write_iff keyOf_setStartFailed) (fun _ hr => by cases hr) ?_ ?_
      · intro _ hdecided
        cases hdecided
      · intro _ _ hid
        cases hid

/-- A key starts one cycle and is answered its id as long as every request with it that comes after the put finds a
running cycle, and no put of the key falls between another such request's query and its put. -/
theorem oneCycle_of_replayedWhileRunning {key : String} {s t : State} {labels : List Label} (hkey : key ≠ "")
    (hposts : s.posts = ∅) (hnone : ∀ cycleId, ¬ Keyed s.cycles key cycleId)
    (hguard : Guarded step (ReplayedWhileRunning key) s labels) (hrun : exec step s labels = some t) :
    OneCycle key t :=
  (invariant_of_guarded (fun _ _ _ => Keeps.step hkey) (keeps_of_not_keyed hposts hnone) hguard hrun).oneCycle

/-! ### A key sent twice -/

def keyedRequest : Request := { startRequest with idempotencyKey := "k" }

/-- The second request comes when the cycle of the first one has been completed. -/
theorem replay_creates_second_cycle :
    ∃ t, exec step {} ([.post 0 keyedRequest] ++ nextCalls 0 6 "c0" 0 ++
        [.call 0 (.startExecution false), .finish "c0" false 60, .post 1 keyedRequest] ++ nextCalls 1 6 "c1" 90 ++
        [.call 1 (.startExecution false)]) = some t ∧
      ¬ OneCycle "k" t := by
  refine ⟨_, rfl, ?_⟩
  intro hone
  have heq : "c0" = "c1" := hone.row_unique _ _ rfl rfl
  exact absurd heq (by decide)

def replayed : List Label :=
  [.post 0 keyedRequest] ++ nextCalls 0 6 "c0" 0 ++ [.post 1 keyedRequest, .call 0 (.startExecution false)] ++
    nextCalls 1 4 "c1" 30 ++ [.finish "c0" false 60]

theorem oneCycle_replayed :
    ∃ t, exec step {} replayed = some t ∧
      (t.posts.lookup 1).map Post.stage = some (.answered (.replay "c0")) ∧ OneCycle "k" t := by
  refine ⟨_, rfl, rfl, ?_⟩
  refine @oneCycle_of_replayedWhileRunning "k" {} _ replayed (by decide) rfl ?_ (by decide) rfl
  intro cycleId h
  cases h

end CycleApi

end SafetyConfirmation
