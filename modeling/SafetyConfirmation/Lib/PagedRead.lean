import SafetyConfirmation.Lib.Checks

/-!
# Paged reads

A service gives a table out in pages: with each page comes the key to read on from, and none with the last. A reader
gives every key back as it got it and goes on until there is none. Which pages the service makes is its own affair; the
reader gets all of them, in order, and stops.
-/

universe u v w

namespace PagedRead

open Checks

structure Page (κ : Type u) (α : Type v) where
  items : List α
  lastKey : Option κ

variable {κ : Type u} {α : Type v} {β : Type w}

/-- From the cursor on, the service gives out these pages. -/
inductive Serves (read : Option κ → Page κ α) : Option κ → List (List α) → Prop
  | last {cursor : Option κ} {items : List α} (hread : read cursor = ⟨items, none⟩) : Serves read cursor [items]
  | more {cursor : Option κ} {items : List α} {key : κ} {pages : List (List α)} (hread : read cursor = ⟨items, some key⟩)
      (hrest : Serves read (some key) pages) : Serves read cursor (items :: pages)

/-- The reader's loop, which takes something out of each page: `none` where the fuel does not suffice. -/
def drain (read : Option κ → Page κ α) (take : List α → List β) : Nat → Option κ → List β → Option (List β)
  | 0, _, _ => none
  | fuel + 1, cursor, taken =>
    let page := read cursor
    match page.lastKey with
    | none => some (taken ++ take page.items)
    | some key => drain read take fuel (some key) (taken ++ take page.items)

theorem drain_eq {read : Option κ → Page κ α} (take : List α → List β) {cursor : Option κ} {pages : List (List α)}
    (h : Serves read cursor pages) {fuel : Nat} (hfuel : pages.length ≤ fuel) (taken : List β) :
    drain read take fuel cursor taken = some (taken ++ pages.flatMap take) := by
  induction h generalizing fuel taken with
  | last hread =>
    obtain ⟨fuel, rfl⟩ := Nat.exists_eq_add_one.2 hfuel
    rw [drain, hread, List.flatMap_singleton]
  | more hread _ ih =>
    obtain ⟨fuel, rfl⟩ := Nat.exists_eq_add_one.2 (Nat.zero_lt_of_lt hfuel)
    rw [drain, hread]
    dsimp only
    rw [ih (Nat.le_of_succ_le_succ hfuel), List.flatMap_cons, List.append_assoc]

/-- The loop of a reader that may fail on a page, and then reads no other. -/
def drainExcept {ε : Type*} (read : Option κ → Page κ α) (take : List α → Except ε (List β)) :
    Nat → Option κ → List β → Option (Except ε (List β))
  | 0, _, _ => none
  | fuel + 1, cursor, taken =>
    let page := read cursor
    match take page.items with
    | .error e => some (.error e)
    | .ok items =>
      match page.lastKey with
      | none => some (.ok (taken ++ items))
      | some key => drainExcept read take fuel (some key) (taken ++ items)

theorem drainExcept_eq {ε : Type*} {read : Option κ → Page κ α} (take : List α → Except ε (List β)) {cursor : Option κ}
    {pages : List (List α)} (h : Serves read cursor pages) {fuel : Nat} (hfuel : pages.length ≤ fuel) (taken : List β) :
    drainExcept read take fuel cursor taken = some ((pages.mapM take).map fun items => taken ++ items.flatten) := by
  induction h generalizing fuel taken with
  | @last _ items hread =>
    obtain ⟨fuel, rfl⟩ := Nat.exists_eq_add_one.2 hfuel
    rw [drainExcept, hread, List.mapM_cons, List.mapM_nil]
    cases take items with
    | error e => rfl
    | ok kept => simp [Except.map]
  | @more _ items key pages hread _ ih =>
    obtain ⟨fuel, rfl⟩ := Nat.exists_eq_add_one.2 (Nat.zero_lt_of_lt hfuel)
    rw [drainExcept, hread, List.mapM_cons]
    cases take items with
    | error e => rfl
    | ok kept =>
      dsimp only
      rw [ih (Nat.le_of_succ_le_succ hfuel), ok_bind]
      cases pages.mapM take with
      | error e => rfl
      | ok others => simp [Except.map]

/-! ### Batches -/

structure Batch (κ : Type u) (α : Type v) where
  items : List α
  unprocessedKeys : List κ

/-- The batch answers for at least one of the keys, with the rows that exist of those it answers for. -/
def Answers (lookup : κ → Option α) (keys : List κ) (batch : Batch κ α) : Prop :=
  ∃ processed, processed ≠ [] ∧ keys.Perm (processed ++ batch.unprocessedKeys) ∧
    batch.items.Perm (processed.filterMap lookup)

/-- A service that answers whenever it is asked for some keys, none of them twice and no more than `limit`. -/
def Answering (lookup : κ → Option α) (limit : Nat) (request : Nat → List κ → Batch κ α) : Prop :=
  ∀ call keys, keys ≠ [] → keys.Nodup → keys.length ≤ limit → Answers lookup keys (request call keys)

/-- Ask until no key is returned. The calls are numbered, as no two of them need be answered alike. -/
def drainBatch (request : Nat → List κ → Batch κ α) : Nat → Nat → List κ → List α → Option (List α × Nat)
  | _, call, [], taken => some (taken, call)
  | 0, _, _ :: _, _ => none
  | fuel + 1, call, key :: keys, taken =>
    let batch := request call (key :: keys)
    drainBatch request fuel (call + 1) batch.unprocessedKeys (taken ++ batch.items)

def drainBatches (request : Nat → List κ → Batch κ α) (fuel : Nat) : Nat → List (List κ) → List α → Option (List α)
  | _, [], taken => some taken
  | call, chunk :: chunks, taken =>
    (drainBatch request fuel call chunk taken).bind fun drained => drainBatches request fuel drained.2 chunks drained.1

/-- The slices of `size` elements each, the last of which may be shorter. -/
def chunks (size : Nat) : List κ → List (List κ)
  | [] => []
  | key :: keys => (key :: keys.take (size - 1)) :: chunks size (keys.drop (size - 1))
termination_by keys => keys.length
decreasing_by
  rw [List.length_drop, List.length_cons]
  omega

theorem flatten_chunks (size : Nat) (keys : List κ) : (chunks size keys).flatten = keys := by
  induction keys using chunks.induct size with
  | case1 => rw [chunks, List.flatten_nil]
  | case2 key keys ih => rw [chunks, List.flatten_cons, ih, List.cons_append, List.take_append_drop]

theorem length_le_of_mem_chunks {size : Nat} (hsize : 0 < size) {keys chunk : List κ} (h : chunk ∈ chunks size keys) :
    chunk.length ≤ size := by
  induction keys using chunks.induct size with
  | case1 =>
    rw [chunks] at h
    exact (List.not_mem_nil h).elim
  | case2 key keys ih =>
    rw [chunks] at h
    rcases List.mem_cons.1 h with rfl | h
    · rw [List.length_cons, List.length_take]
      omega
    · exact ih h

/-- More fuel changes nothing. -/
theorem drainBatch_mono {request : Nat → List κ → Batch κ α} {fuel more call : Nat} {keys : List κ} {taken : List α}
    {drained : List α × Nat} (h : drainBatch request fuel call keys taken = some drained) (hmore : fuel ≤ more) :
    drainBatch request more call keys taken = some drained := by
  induction fuel generalizing more call keys taken with
  | zero =>
    cases keys with
    | nil => rwa [drainBatch] at h ⊢
    | cons key keys => cases h
  | succ fuel ih =>
    cases keys with
    | nil => rwa [drainBatch] at h ⊢
    | cons key keys =>
      obtain ⟨more, rfl⟩ := Nat.exists_eq_add_one.2 (Nat.zero_lt_of_lt hmore)
      rw [drainBatch] at h ⊢
      exact ih h (Nat.le_of_succ_le_succ hmore)

theorem drainBatches_mono {request : Nat → List κ → Batch κ α} {fuel more call : Nat} {chunks : List (List κ)}
    {taken items : List α} (h : drainBatches request fuel call chunks taken = some items) (hmore : fuel ≤ more) :
    drainBatches request more call chunks taken = some items := by
  induction chunks generalizing call taken with
  | nil => exact h
  | cons chunk chunks ih =>
    obtain ⟨drained, hdrain, hrest⟩ := Option.bind_eq_some_iff.1 h
    rw [drainBatches, drainBatch_mono hdrain hmore]
    exact ih hrest

theorem drainBatch_spec {lookup : κ → Option α} {limit : Nat} {request : Nat → List κ → Batch κ α}
    (hrequest : Answering lookup limit request) {fuel : Nat} {keys : List κ} (hfuel : keys.length ≤ fuel)
    (hnodup : keys.Nodup) (hlimit : keys.length ≤ limit) (call : Nat) (taken : List α) :
    ∃ items call', drainBatch request fuel call keys taken = some (taken ++ items, call') ∧
      items.Perm (keys.filterMap lookup) := by
  induction fuel generalizing keys call taken with
  | zero =>
    obtain rfl := List.length_eq_zero_iff.1 (Nat.le_zero.1 hfuel)
    exact ⟨[], call, by rw [drainBatch, List.append_nil], List.Perm.nil⟩
  | succ fuel ih =>
    cases keys with
    | nil => exact ⟨[], call, by rw [drainBatch, List.append_nil], List.Perm.nil⟩
    | cons key keys =>
      obtain ⟨processed, hsome, hsplit, hitems⟩ := hrequest call (key :: keys) (List.cons_ne_nil _ _) hnodup hlimit
      have hlength := hsplit.length_eq
      rw [List.length_append] at hlength
      have hpos : 0 < processed.length := List.length_pos_iff.2 hsome
      have hrest : ((request call (key :: keys)).unprocessedKeys).Nodup :=
        (List.nodup_append.1 (hsplit.nodup_iff.1 hnodup)).2.1
      obtain ⟨items, call', hdrain, hrows⟩ := @ih (request call (key :: keys)).unprocessedKeys (by omega) hrest
        (by omega) (call + 1) (taken ++ (request call (key :: keys)).items)
      refine ⟨(request call (key :: keys)).items ++ items, call', ?_, ?_⟩
      · rw [drainBatch, ← List.append_assoc]
        exact hdrain
      · have hall := (hsplit.filterMap lookup).symm
        rw [List.filterMap_append] at hall
        exact (hitems.append hrows).trans hall

/-- All the rows that exist are read, each once, whatever the service returned on the way. -/
theorem drainBatches_spec {lookup : κ → Option α} {limit : Nat} {request : Nat → List κ → Batch κ α}
    (hrequest : Answering lookup limit request) {fuel : Nat} {chunks : List (List κ)} (hnodup : chunks.flatten.Nodup)
    (hlimit : ∀ chunk ∈ chunks, chunk.length ≤ limit) (hfuel : ∀ chunk ∈ chunks, chunk.length ≤ fuel) (call : Nat)
    (taken : List α) :
    ∃ items, drainBatches request fuel call chunks taken = some (taken ++ items) ∧
      items.Perm (chunks.flatten.filterMap lookup) := by
  induction chunks generalizing call taken with
  | nil => exact ⟨[], by rw [drainBatches, List.append_nil], List.Perm.nil⟩
  | cons chunk chunks ih =>
    rw [List.flatten_cons, List.nodup_append] at hnodup
    obtain ⟨hchunk, hrest, -⟩ := hnodup
    obtain ⟨items, call', hdrain, hitems⟩ := drainBatch_spec hrequest (hfuel chunk List.mem_cons_self) hchunk
      (hlimit chunk List.mem_cons_self) call taken
    obtain ⟨others, hothers, hrows⟩ := ih hrest (fun other hother => hlimit other (List.mem_cons_of_mem _ hother))
      (fun other hother => hfuel other (List.mem_cons_of_mem _ hother)) call' (taken ++ items)
    refine ⟨items ++ others, ?_, ?_⟩
    · rw [drainBatches, hdrain, Option.bind_some, hothers, List.append_assoc]
    · rw [List.flatten_cons, List.filterMap_append]
      exact hitems.append hrows

end PagedRead
