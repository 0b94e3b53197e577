import SafetyConfirmation.Lib.PagedRead
import SafetyConfirmation.Response.Api
import Mathlib.Data.String.Basic

/-!
# The list of inbound contacts

`GET /inbound` answers with one page of a scan, newest contact first, and the key to scan on from. Following the tokens
gives every contact once, but each page is sorted by itself: the list as a whole is in order when the scan happens to
return the contacts so that no page holds one older than a contact of a later page. `shared.inbound.listing` describes,
and sorts, the whole table.
-/

namespace SafetyConfirmation

namespace InboundListing

open PagedRead Checks ResponseApi

/-- A row of the table as the scan returns it, with whatever attributes it has; `receivedAt` is a text where it is there. -/
structure ContactRow where
  contactId : String
  attributes : List (String × Value)
  isText : ∀ raw, attributes.lookup "receivedAt" = some raw → ∃ s, raw = .str s

namespace ContactRow

def get? (row : ContactRow) (key : String) : Option Value := (Value.dict row.attributes).get? key

/-- The key of both sorts. -/
def receivedAt (row : ContactRow) : String := ((row.get? "receivedAt").bind Value.asStr?).getD ""

end ContactRow

/-- `sort_by_received_at_desc`, which is the sort of the handler on such rows. -/
def sortByReceivedAtDesc (rows : List ContactRow) : List ContactRow :=
  rows.insertionSort fun left right => right.receivedAt ≤ left.receivedAt

variable (resolveEmployeeName : String → Option String)

def reportContact (row : ContactRow) : Value :=
  .dict [
    ("contactId", .str row.contactId),
    ("receivedAt", (row.get? "receivedAt").getD .none),
    ("callerNumberMasked", (row.get? "callerNumberMasked").getD (.str "***")),
    ("cycleId", (row.get? "cycleId").getD .none),
    ("employeeName", strOrNone ((((row.get? "employeeId").bind Value.asStr?).filter (· != "")).bind resolveEmployeeName)),
    ("flow", (row.get? "flow").getD .none),
    ("voiceStatus", (row.get? "voiceStatus").getD .none),
    ("transcriptExcerpt", (row.get? "transcriptExcerpt").getD .none)]

variable (scan : Option String → Page String ContactRow)

/-- `_list_inbound_contacts`. A key of the scan is the `contactId` of the row it stopped at. -/
def listInboundContacts (nextToken : RawBody) : Except PyError HttpResponse := do
  let startKey ← parseContactStartKey nextToken
  let page := scan startKey
  return {
    statusCode := 200
    body := .dict [
      ("items", .list ((sortByReceivedAtDesc page.items).map (reportContact resolveEmployeeName))),
      ("pageSize", .int pageSize),
      ("nextToken", page.lastKey.elim .none fun contactId => .dict [("contactId", .str contactId)])] }

/-- Ask with each token for the next page, until there is none. -/
def followTokens : Nat → RawBody → Option (List (List Value))
  | 0, _ => none
  | fuel + 1, nextToken =>
    match listInboundContacts resolveEmployeeName scan nextToken with
    | .error _ => none
    | .ok response =>
      match response.body.get? "items", response.body.get? "nextToken" with
      | some (.list items), some .none => some [items]
      | some (.list items), some token => (followTokens fuel (.json token)).map (items :: ·)
      | _, _ => none

/-- When an item says its contact was received. -/
def receivedAtOf (item : Value) : String := ((item.get? "receivedAt").bind Value.asStr?).getD ""

/-- The pages list the table: each contact once, no page too long, all of them newest first. -/
structure Lists (table : List ContactRow) (listed : List (List Value)) : Prop where
  once : listed.flatten.Perm (table.map (reportContact resolveEmployeeName))
  bounded : ∀ items ∈ listed, items.length ≤ pageSize
  descending : listed.flatten.Pairwise fun earlier later => receivedAtOf later ≤ receivedAtOf earlier
  sorted : listed.flatten.map receivedAtOf = (sortByReceivedAtDesc table).map ContactRow.receivedAt

/-- No page holds a contact that is older than one of a later page. -/
def PagesInOrder (pages : List (List ContactRow)) : Prop :=
  pages.Pairwise fun earlier later => ∀ row ∈ earlier, ∀ other ∈ later, other.receivedAt ≤ row.receivedAt

/-! ### What the pages hold -/

variable {resolveEmployeeName scan}

theorem receivedAtOf_reportContact (row : ContactRow) :
    receivedAtOf (reportContact resolveEmployeeName row) = row.receivedAt := by
  have hget : (reportContact resolveEmployeeName row).get? "receivedAt" = some ((row.get? "receivedAt").getD .none) := rfl
  rw [receivedAtOf, hget, ContactRow.receivedAt]
  cases row.get? "receivedAt" <;> rfl

def tokenOf : Option String → RawBody
  | none => .missing
  | some contactId => .json (.dict [("contactId", .str contactId)])

theorem parseContactStartKey_tokenOf (cursor : Option String) : parseContactStartKey (tokenOf cursor) = .ok cursor := by
  cases cursor <;> rfl

/-- A page of the answers is a page of the scan, sorted. -/
def reportPage (resolveEmployeeName : String → Option String) (page : List ContactRow) : List Value :=
  (sortByReceivedAtDesc page).map (reportContact resolveEmployeeName)

theorem followTokens_eq {cursor : Option String} {pages : List (List ContactRow)} (h : Serves scan cursor pages) {fuel : Nat}
    (hfuel : pages.length ≤ fuel) :
    followTokens resolveEmployeeName scan fuel (tokenOf cursor) = some (pages.map (reportPage resolveEmployeeName)) := by
  induction h generalizing fuel with
  | last hread =>
    obtain ⟨fuel, rfl⟩ := Nat.exists_eq_add_one.2 hfuel
    rw [followTokens, listInboundContacts, parseContactStartKey_tokenOf, ok_bind, hread]
    rfl
  | @more cursor items key pages hread hrest ih =>
    obtain ⟨fuel, rfl⟩ := Nat.exists_eq_add_one.2 (Nat.zero_lt_of_lt hfuel)
    have hnext := ih (Nat.le_of_succ_le_succ hfuel)
    rw [followTokens, listInboundContacts, parseContactStartKey_tokenOf, ok_bind, hread]
    exact congrArg (Option.map _) hnext

theorem perm_sortByReceivedAtDesc (rows : List ContactRow) : (sortByReceivedAtDesc rows).Perm rows :=
  List.perm_insertionSort _ rows

theorem pairwise_sortByReceivedAtDesc (rows : List ContactRow) :
    (sortByReceivedAtDesc rows).Pairwise fun earlier later => later.receivedAt ≤ earlier.receivedAt := by
  have : Std.Total fun left right : ContactRow => right.receivedAt ≤ left.receivedAt :=
    ⟨fun left right => le_total right.receivedAt left.receivedAt⟩
  have : IsTrans ContactRow fun left right => right.receivedAt ≤ left.receivedAt := ⟨fun _ _ _ h h' => h'.trans h⟩
  exact List.pairwise_insertionSort _ rows

theorem perm_flatten_map_sort (pages : List (List ContactRow)) :
    (pages.map sortByReceivedAtDesc).flatten.Perm pages.flatten := by
  induction pages with
  | nil => exact List.Perm.nil
  | cons page pages ih => exact (perm_sortByReceivedAtDesc page).append ih

/-- Pages that are sorted one by one are in order together exactly when the scan returned them so. -/
theorem pairwise_flatten_iff (pages : List (List ContactRow)) :
    (pages.map sortByReceivedAtDesc).flatten.Pairwise (fun earlier later => later.receivedAt ≤ earlier.receivedAt) ↔
      PagesInOrder pages := by
  rw [List.pairwise_flatten, and_iff_right, List.pairwise_map]
  · have hmem : ∀ rows (row : ContactRow), row ∈ sortByReceivedAtDesc rows ↔ row ∈ rows := fun rows row =>
      (perm_sortByReceivedAtDesc rows).mem_iff
    simp only [hmem, PagesInOrder]
  · intro rows hrows
    obtain ⟨page, -, rfl⟩ := List.mem_map.1 hrows
    exact pairwise_sortByReceivedAtDesc page

/-- Two lists of the same contacts in descending order agree up to ties. -/
theorem map_receivedAt_eq {rows others : List ContactRow} (hperm : rows.Perm others)
    (hrows : rows.Pairwise fun earlier later => later.receivedAt ≤ earlier.receivedAt)
    (hothers : others.Pairwise fun earlier later => later.receivedAt ≤ earlier.receivedAt) :
    rows.map ContactRow.receivedAt = others.map ContactRow.receivedAt :=
  (hperm.map ContactRow.receivedAt).eq_of_pairwise (fun _ _ _ _ h h' => le_antisymm h' h)
    (List.pairwise_map.2 hrows) (List.pairwise_map.2 hothers)

/-! ### The rows the system writes -/

/-- The item that InboundHandler's writes leave. -/
def rowOf (entry : String × InboundContact) : ContactRow where
  contactId := entry.1
  attributes := [("contactId", .str entry.1), ("receivedAt", .str entry.2.receivedAt.isoText),
      ("callerNumberMasked", .str entry.2.callerNumberMasked), ("flow", .str entry.2.flow.name)] ++
    Value.entry "employeeId" (entry.2.employeeId.map .str) ++ Value.entry "cycleId" (entry.2.cycleId.map .str) ++
    Value.entry "voiceStatus" (entry.2.voiceStatus.map fun status => .str status.name)
  isText := by
    intro raw hraw
    have htext : some (Value.str entry.2.receivedAt.isoText) = some raw := hraw
    exact ⟨_, (Option.some.inj htext).symm⟩

/-- One call of the scan on the table as ResponseApi's route has it. -/
def scanTable (tables : Tables) (evaluated : Nat) (startKey : Option String) : Page String ContactRow :=
  let page := takePage (scanInboundContacts tables startKey) evaluated
  ⟨page.1.map rowOf, page.2.map Prod.fst⟩

theorem reportContact_rowOf (entry : String × InboundContact) :
    reportContact resolveEmployeeName (rowOf entry) = .dict [
      ("contactId", .str entry.1),
      ("receivedAt", .str entry.2.receivedAt.isoText),
      ("callerNumberMasked", .str entry.2.callerNumberMasked),
      ("cycleId", strOrNone entry.2.cycleId),
      ("employeeName", strOrNone ((entry.2.employeeId.filter (· != "")).bind resolveEmployeeName)),
      ("flow", .str entry.2.flow.name),
      ("voiceStatus", strOrNone (entry.2.voiceStatus.map VoiceStatus.name)),
      ("transcriptExcerpt", .none)] := by
  have hcycle : (rowOf entry).get? "cycleId" = entry.2.cycleId.map .str := by
    simp [ContactRow.get?, rowOf, Value.get?, List.lookup_append, lookup_entry, List.lookup_cons]
  have hemployee : (rowOf entry).get? "employeeId" = entry.2.employeeId.map .str := by
    simp [ContactRow.get?, rowOf, Value.get?, List.lookup_append, lookup_entry, List.lookup_cons]
  have hstatus : (rowOf entry).get? "voiceStatus" = entry.2.voiceStatus.map fun status => .str status.name := by
    simp [ContactRow.get?, rowOf, Value.get?, List.lookup_append, lookup_entry, List.lookup_cons]
  have hexcerpt : (rowOf entry).get? "transcriptExcerpt" = none := by
    simp [ContactRow.get?, rowOf, Value.get?, List.lookup_append, lookup_entry, List.lookup_cons]
  rw [reportContact, hcycle, hemployee, hstatus, hexcerpt]
  cases entry.2.cycleId <;> cases entry.2.employeeId <;> cases entry.2.voiceStatus <;> rfl

theorem bind_resolveEmployeeName (settings : Settings) (environment : Environment) (tables : Tables)
    (employeeId : Option String) :
    (employeeId.filter (· != "")).bind (ResponseApi.resolveEmployeeName settings environment tables) =
      employeeId.bind (ResponseApi.resolveEmployeeName settings environment tables) := by
  cases employeeId with
  | none => rfl
  | some employeeId =>
    by_cases hempty : employeeId = ""
    · rw [hempty]
      rfl
    · have hkept : (some employeeId).filter (· != "") = some employeeId := by simp [Option.filter, hempty]
      rw [hkept]

/-- ResponseApi's route answers so on those rows, where their texts are ordered as the instants they stand for. -/
theorem listInboundContacts_eq {settings : Settings} {environment : Environment} {tables : Tables} {request : Request}
    (hconfigured : settings.inboundContactTable = true) (hquery : environment.failsQuery = none)
    (horder : ∀ entry ∈ tables.inboundContacts.rows, ∀ other ∈ tables.inboundContacts.rows,
      entry.2.receivedAt.isoText ≤ other.2.receivedAt.isoText ↔ entry.2.receivedAt ≤ other.2.receivedAt) :
    ResponseApi.listInboundContacts settings environment tables request =
      listInboundContacts (ResponseApi.resolveEmployeeName settings environment tables)
        (scanTable tables environment.evaluated) request.nextToken := by
  have hsort : ∀ page : List (String × InboundContact), (∀ entry ∈ page, entry ∈ tables.inboundContacts.rows) →
      sortByReceivedAtDesc (page.map rowOf) =
        (page.insertionSort fun left right => right.2.receivedAt ≤ left.2.receivedAt).map rowOf := by
    intro page hpage
    refine (List.map_insertionSort _ _ rowOf page fun left hleft right hright => ?_).symm
    exact (horder right (hpage right hright) left (hpage left hleft)).symm
  have hscan : ∀ startKey, ∀ entry ∈ (takePage (scanInboundContacts tables startKey) environment.evaluated).1,
      entry ∈ tables.inboundContacts.rows := by
    intro startKey entry hentry
    have hmem := List.mem_of_mem_take hentry
    cases startKey with
    | none => exact hmem
    | some contactId => exact (List.dropWhile_sublist _).subset (List.mem_of_mem_drop hmem)
  rw [ResponseApi.listInboundContacts, listInboundContacts, hconfigured, if_neg (by simp), hquery]
  cases parseContactStartKey request.nextToken with
  | error e => rfl
  | ok startKey =>
    rw [ok_bind, ok_bind]
    dsimp only [scanTable]
    rw [hsort _ (hscan startKey), List.map_map]
    simp only [Function.comp_def, reportContact_rowOf, bind_resolveEmployeeName]
    cases (takePage (scanInboundContacts tables startKey) environment.evaluated).2 <;> rfl

/-! ### When the list is in order -/

theorem flatten_reportPages (pages : List (List ContactRow)) :
    (pages.map (reportPage resolveEmployeeName)).flatten =
      (pages.map sortByReceivedAtDesc).flatten.map (reportContact resolveEmployeeName) := by
  rw [List.map_flatten, List.map_map]
  rfl

theorem map_receivedAtOf_report (rows : List ContactRow) :
    (rows.map (reportContact resolveEmployeeName)).map receivedAtOf = rows.map ContactRow.receivedAt := by
  rw [List.map_map]
  exact List.map_congr_left fun row _ => receivedAtOf_reportContact row

theorem descending_iff (pages : List (List ContactRow)) :
    (pages.map (reportPage resolveEmployeeName)).flatten.Pairwise
      (fun earlier later => receivedAtOf later ≤ receivedAtOf earlier) ↔ PagesInOrder pages := by
  rw [flatten_reportPages, List.pairwise_map, ← pairwise_flatten_iff]
  simp only [receivedAtOf_reportContact]

/-- Whatever pages the scan makes of the table, following the tokens returns one answer for each, and they list the table
exactly when no page holds a contact that is older than one of a later page. -/
theorem lists_iff {table : List ContactRow} {pages : List (List ContactRow)} (hserves : Serves scan none pages)
    (htable : pages.flatten.Perm table) (hlimit : ∀ page ∈ pages, page.length ≤ pageSize) :
    ∃ listed, (∀ fuel, pages.length ≤ fuel → followTokens resolveEmployeeName scan fuel .missing = some listed) ∧
      listed.flatten.Perm (table.map (reportContact resolveEmployeeName)) ∧ (∀ items ∈ listed, items.length ≤ pageSize) ∧
      (Lists resolveEmployeeName table listed ↔ PagesInOrder pages) := by
  have honce : (pages.map (reportPage resolveEmployeeName)).flatten.Perm
      (table.map (reportContact resolveEmployeeName)) := by
    rw [flatten_reportPages]
    exact ((perm_flatten_map_sort pages).trans htable).map _
  have hbounded : ∀ items ∈ pages.map (reportPage resolveEmployeeName), items.length ≤ pageSize := by
    intro items hitems
    obtain ⟨page, hpage, rfl⟩ := List.mem_map.1 hitems
    rw [reportPage, List.length_map, (perm_sortByReceivedAtDesc page).length_eq]
    exact hlimit page hpage
  refine ⟨_, fun fuel hfuel => followTokens_eq hserves hfuel, honce, hbounded, ?_⟩
  constructor
  · exact fun hlists => (descending_iff pages).1 hlists.descending
  · intro horder
    refine ⟨honce, hbounded, (descending_iff pages).2 horder, ?_⟩
    rw [flatten_reportPages, map_receivedAtOf_report]
    exact map_receivedAt_eq ((perm_flatten_map_sort pages).trans (htable.trans (perm_sortByReceivedAtDesc table).symm))
      ((pairwise_flatten_iff pages).2 horder) (pairwise_sortByReceivedAtDesc table)

/-- A contact with nothing but its key and its time. -/
def contactAt (contactId receivedAt : String) : ContactRow where
  contactId := contactId
  attributes := [("contactId", .str contactId), ("receivedAt", .str receivedAt)]
  isText := fun _ hraw => ⟨receivedAt, (Option.some.inj hraw).symm⟩

/-- A service that returns two pages, cut after the row `k`. -/
def scanTwice (first second : List ContactRow) (k : String) : Option String → Page String ContactRow
  | none => ⟨first, some k⟩
  | some _ => ⟨second, none⟩

theorem serves_scanTwice (first second : List ContactRow) (k : String) :
    Serves (scanTwice first second k) none [first, second] := .more rfl (.last rfl)

theorem lists_iff_inOrder : ∃ listed,
    followTokens (fun _ => none)
      (scanTwice [contactAt "k2" "2026-06-02T00:00:00Z"] [contactAt "k1" "2026-06-01T00:00:00Z"] "k2") 2 .missing =
        some listed ∧
    Lists (fun _ => none) [contactAt "k1" "2026-06-01T00:00:00Z", contactAt "k2" "2026-06-02T00:00:00Z"] listed := by
  obtain ⟨listed, hfollow, -, -, hiff⟩ := @lists_iff (fun _ => none)
    (scanTwice [contactAt "k2" "2026-06-02T00:00:00Z"] [contactAt "k1" "2026-06-01T00:00:00Z"] "k2")
    [contactAt "k1" "2026-06-01T00:00:00Z", contactAt "k2" "2026-06-02T00:00:00Z"] _ (serves_scanTwice _ _ _)
    (List.Perm.swap _ _ _) (by
      intro page hpage
      simp only [List.mem_cons, List.not_mem_nil, or_false] at hpage
      rcases hpage with rfl | rfl <;> decide)
  refine ⟨listed, hfollow 2 (by decide), hiff.2 ?_⟩
  refine List.pairwise_pair.2 fun row hrow other hother => ?_
  rw [List.mem_singleton.1 hrow, List.mem_singleton.1 hother]
  decide

/-- A full page of contacts of one day. -/
def fullPage : List ContactRow :=
  (List.range pageSize).map fun i => contactAt ("k" ++ toString i) "2026-06-01T00:00:00Z"

def newest : ContactRow := contactAt "k50" "2026-06-02T00:00:00Z"

/-- The scan returns the newest contact last, and so does the list. -/
theorem not_lists_fullPage : Serves (scanTwice fullPage [newest] "k49") none [fullPage, [newest]] ∧
    fullPage.length = pageSize ∧ ∃ listed,
      followTokens (fun _ => none) (scanTwice fullPage [newest] "k49") 2 .missing = some listed ∧
      ¬ Lists (fun _ => none) (fullPage ++ [newest]) listed := by
  have hserves := serves_scanTwice fullPage [newest] "k49"
  refine ⟨hserves, by rw [fullPage, List.length_map, List.length_range], _, followTokens_eq hserves (by simp), ?_⟩
  intro hlists
  have horder := List.pairwise_pair.1 ((descending_iff [fullPage, [newest]]).1 hlists.descending)
  have holder := horder (contactAt "k0" "2026-06-01T00:00:00Z")
    (List.mem_map.2 ⟨0, List.mem_range.2 (by decide), rfl⟩) newest List.mem_cons_self
  exact absurd holder (by decide)

end InboundListing

end SafetyConfirmation
