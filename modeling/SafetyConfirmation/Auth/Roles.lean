import SafetyConfirmation.Auth.Authorization
import SafetyConfirmation.Lib.Tokens

/-!
# The administrator check of the pages

`extractCognitoGroups` and `isAdministrator` of the pages, against `is_authorized` of the handlers. The two read a list of
groups alike. A string is cut at commas by the one and at white space by the other.
-/

namespace SafetyConfirmation

namespace Roles

open Auth Tokens

def extractCognitoGroups (claims : List (String × Value)) : List String :=
  match (claims.lookup "cognito:groups").getD .none with
  | .list raw => raw.filterMap Value.asStr?
  | .str raw =>
    ((raw.toList.splitOn ',').map fun s => String.ofList (trim s)).filter fun s => decide (0 < s.length)
  | _ => []

def isAdministrator (groups : List String) : Bool := groups.contains administratorGroup

/-! ### Where the name of the role stands -/

/-- The role is an item of a list with commas, up to white space around it. -/
def IsItem (raw : List Char) : Prop :=
  ∃ before lead trail after, raw = before ++ (lead ++ administratorGroup.toList ++ trail) ++ after ∧
    (∀ c ∈ lead, isWhiteSpace c = true) ∧ (∀ c ∈ trail, isWhiteSpace c = true) ∧ Bounded (· == ',') before after

/-- The role is a word between white space. -/
def IsWord (raw : List Char) : Prop :=
  ∃ before after, raw = before ++ administratorGroup.toList ++ after ∧ Bounded Pattern.isSpace before after

/-- A comma, white space or the end is next on this side of a name. A side is read from the name outward. -/
def Breaks (side : List Char) : Prop :=
  ∀ c ∈ side.head?, c = ',' ∨ Pattern.isSpace c = true ∨ isWhiteSpace c = true

/-- A comma or a byte order mark is next, which do not end a word. -/
def Joined (side : List Char) : Prop := ∃ c ∈ side.head?, c = ',' ∨ c = byteOrderMark

/-- There is more before the next comma than white space of the pages: the characters of another word, or a control that
only `str.split` takes for a space. -/
def Crowded (side : List Char) : Prop :=
  ∃ c ∈ side.takeWhile (· != ','), (Pattern.isSpace c = false ∧ c ≠ byteOrderMark) ∨ c ∈ informationSeparators

/-- The name of the role stands between two breaks. -/
structure Stands (raw left right : List Char) : Prop where
  eq : raw = left.reverse ++ administratorGroup.toList ++ right
  left : Breaks left
  right : Breaks right

/-- A list with commas: the name is alone between two of them, and has a comma or a byte order mark next to it wherever it
stands. -/
def IsCommaList (raw : List Char) : Prop :=
  (∃ left right, Stands raw left right ∧ ¬ Crowded left ∧ ¬ Crowded right) ∧
    ∀ left right, Stands raw left right → Joined left ∨ Joined right

/-- A list of words: the name has only spaces or ends next to it, and shares its part between two commas with other
characters wherever it stands. -/
def IsWordList (raw : List Char) : Prop :=
  (∃ left right, Stands raw left right ∧ ¬ Joined left ∧ ¬ Joined right) ∧
    ∀ left right, Stands raw left right → Crowded left ∨ Crowded right

/-- A string is neither of the two. -/
def ReadAlike : Value → Prop
  | .str raw => ¬ IsCommaList raw.toList ∧ ¬ IsWordList raw.toList
  | _ => True

theorem not_crowded_iff {side : List Char} :
    ¬ Crowded side ↔ ∀ c ∈ side.takeWhile (· != ','), isWhiteSpace c = true := by
  simp only [Crowded, ← isWhiteSpace_eq_false_iff]
  simp

theorem comma_of_isWhiteSpace {c : Char} (h : isWhiteSpace c = true) : (c == ',') = false := by
  rw [beq_eq_false_iff_ne]
  intro heq
  rw [heq] at h
  exact absurd h (by decide)

/-- An item ends on a side with a break and nothing but white space before the comma. -/
theorem breaks_and_not_crowded_iff {side : List Char} : Breaks side ∧ ¬ Crowded side ↔ ∃ space rest, side = space ++ rest ∧
    (∀ c ∈ space, isWhiteSpace c = true) ∧ ∀ c ∈ rest.head?, (c == ',') = true := by
  rw [not_crowded_iff]
  constructor
  · intro h
    refine ⟨_, _, List.takeWhile_append_dropWhile.symm, h.2, fun c hc => ?_⟩
    have hstop := List.head?_dropWhile_not (· != ',') side
    rw [hc] at hstop
    simpa using hstop
  · intro h
    obtain ⟨space, rest, rfl, hspace, hrest⟩ := h
    have hstop : rest.takeWhile (· != ',') = [] := by
      cases rest with
      | nil => rfl
      | cons c rest => rw [List.takeWhile_cons_of_neg (by simpa using hrest c rfl)]
    have hkeep : ∀ c ∈ space, (c != ',') = true := fun c hc => by
      rw [bne, comma_of_isWhiteSpace (hspace c hc)]
      rfl
    refine ⟨fun c hc => ?_, ?_⟩
    · cases space with
      | nil => exact .inl (eq_of_beq (hrest c hc))
      | cons d space =>
        obtain rfl := Option.some.inj hc
        exact .inr (.inr (hspace _ List.mem_cons_self))
    · rw [List.takeWhile_append_of_pos hkeep, hstop, List.append_nil]
      exact hspace

/-- A word ends on a side with a break that is no comma or byte order mark. -/
theorem breaks_and_not_joined_iff {side : List Char} :
    Breaks side ∧ ¬ Joined side ↔ ∀ c ∈ side.head?, Pattern.isSpace c = true := by
  constructor
  · intro h c hc
    have hjoined : ¬ (c = ',' ∨ c = byteOrderMark) := fun hnext => h.2 ⟨c, hc, hnext⟩
    rw [not_or] at hjoined
    obtain hcomma | hspace | hwhite := h.1 c hc
    · exact absurd hcomma hjoined.1
    · exact hspace
    · by_contra hspace
      rw [isWhiteSpace_eq_false_iff.2 (.inl ⟨Bool.eq_false_iff.2 hspace, hjoined.2⟩)] at hwhite
      cases hwhite
  · intro h
    refine ⟨fun c hc => .inr (.inl (h c hc)), fun hjoined => ?_⟩
    obtain ⟨c, hc, hnext⟩ := hjoined
    have hspace := h c hc
    obtain rfl | rfl := hnext <;> exact absurd hspace (by decide)

theorem isItem_iff {raw : List Char} :
    IsItem raw ↔ ∃ left right, Stands raw left right ∧ ¬ Crowded left ∧ ¬ Crowded right := by
  constructor
  · intro h
    obtain ⟨before, lead, trail, after, rfl, hlead, htrail, hbefore, hafter⟩ := h
    have hleft := breaks_and_not_crowded_iff.2 ⟨lead.reverse, before.reverse, rfl, by simpa using hlead, by simpa using hbefore⟩
    have hright := breaks_and_not_crowded_iff.2 ⟨trail, after, rfl, htrail, hafter⟩
    exact ⟨_, _, ⟨by simp, hleft.1, hright.1⟩, hleft.2, hright.2⟩
  · intro h
    obtain ⟨left, right, hstands, hleft, hright⟩ := h
    obtain ⟨lead, before, rfl, hlead, hbefore⟩ := breaks_and_not_crowded_iff.1 ⟨hstands.left, hleft⟩
    obtain ⟨trail, after, rfl, htrail, hafter⟩ := breaks_and_not_crowded_iff.1 ⟨hstands.right, hright⟩
    refine ⟨before.reverse, lead.reverse, trail, after, ?_, by simpa using hlead, htrail, by simpa using hbefore, hafter⟩
    rw [hstands.eq]
    simp

theorem isWord_iff {raw : List Char} :
    IsWord raw ↔ ∃ left right, Stands raw left right ∧ ¬ Joined left ∧ ¬ Joined right := by
  constructor
  · intro h
    obtain ⟨before, after, rfl, hbefore, hafter⟩ := h
    have hleft := @breaks_and_not_joined_iff before.reverse |>.2 (by simpa using hbefore)
    have hright := breaks_and_not_joined_iff.2 hafter
    exact ⟨_, _, ⟨by simp, hleft.1, hright.1⟩, hleft.2, hright.2⟩
  · intro h
    obtain ⟨left, right, hstands, hleft, hright⟩ := h
    refine ⟨left.reverse, right, hstands.eq, ?_, breaks_and_not_joined_iff.1 ⟨hstands.right, hright⟩⟩
    simpa using breaks_and_not_joined_iff.1 ⟨hstands.left, hleft⟩

/-- The two checks differ on a list with commas, which only the page reads, and on a list of words, which only the handlers
read. -/
theorem isItem_iff_isWord_iff {raw : List Char} : (IsItem raw ↔ IsWord raw) ↔ ¬ IsCommaList raw ∧ ¬ IsWordList raw := by
  have hcomma : IsCommaList raw ↔ IsItem raw ∧ ¬ IsWord raw := by
    rw [IsCommaList, isItem_iff, isWord_iff]
    simp only [not_exists, not_and, not_not, or_iff_not_imp_left]
  have hword : IsWordList raw ↔ IsWord raw ∧ ¬ IsItem raw := by
    rw [IsWordList, isItem_iff, isWord_iff]
    simp only [not_exists, not_and, not_not, or_iff_not_imp_left]
  rw [hcomma, hword]
  tauto

theorem isAdministrator_iff_isItem {items : List (String × Value)} {raw : String}
    (hraw : items.lookup cognitoGroupsClaim = some (.str raw)) :
    isAdministrator (extractCognitoGroups items) = true ↔ IsItem raw.toList := by
  have htrim : ∀ piece : List Char, String.ofList (trim piece) = administratorGroup ↔
      trim piece = administratorGroup.toList := by
    intro piece
    rw [← String.toList_inj, String.toList_ofList]
  have hgroup : ∀ c ∈ administratorGroup.toList, (c == ',') = false := by
    have hall : administratorGroup.toList.all (fun c => !(c == ',')) = true := by decide
    simpa using hall
  rw [isAdministrator, extractCognitoGroups, show items.lookup "cognito:groups" = _ from hraw]
  simp only [Option.getD_some, List.contains_eq_mem, decide_eq_true_eq, List.mem_filter, List.mem_map,
    List.splitOn_eq_splitOnP, mem_splitOnP, htrim]
  constructor
  · rintro ⟨⟨piece, ⟨-, before, after, hcut, hbounded⟩, hpiece⟩, -⟩
    obtain ⟨lead, trail, rfl, hlead, htrail⟩ := (trimBy_eq_iff (by decide) (by decide) (by decide)).1 hpiece
    exact ⟨before, lead, trail, after, hcut, hlead, htrail, hbounded⟩
  · rintro ⟨before, lead, trail, after, hcut, hlead, htrail, hbounded⟩
    refine ⟨⟨lead ++ administratorGroup.toList ++ trail, ⟨?_, before, after, hcut, hbounded⟩, ?_⟩, by decide⟩
    · intro c hc
      rw [List.mem_append, List.mem_append] at hc
      obtain (hc | hc) | hc := hc
      · exact comma_of_isWhiteSpace (hlead c hc)
      · exact hgroup c hc
      · exact comma_of_isWhiteSpace (htrail c hc)
    · exact (trimBy_eq_iff (by decide) (by decide) (by decide)).2 ⟨lead, trail, rfl, hlead, htrail⟩

theorem isAuthorized_iff_isWord {items : List (String × Value)} {raw : String}
    (hraw : items.lookup cognitoGroupsClaim = some (.str raw)) :
    isAuthorized (.dict items) (.str administratorGroup) = true ↔ IsWord raw.toList := by
  have hgroup : ∀ c ∈ administratorGroup.toList, Pattern.isSpace c = false := by
    have hall : administratorGroup.toList.all (fun c => !Pattern.isSpace c) = true := by decide
    simpa using hall
  have hmap : administratorGroup ∈ (Pattern.words raw.toList).map String.ofList ↔
      administratorGroup.toList ∈ Pattern.words raw.toList := by
    rw [List.mem_map]
    constructor
    · rintro ⟨word, hword, hofList⟩
      rwa [← hofList, String.toList_ofList]
    · exact fun hword => ⟨_, hword, String.ofList_toList⟩
  have hword : isAuthorized (.dict items) (.str administratorGroup) =
      ((Pattern.words raw.toList).map String.ofList).contains administratorGroup := by
    show (administratorGroup != "" && (groupsOf ((items.lookup cognitoGroupsClaim).getD .none)).contains _) = _
    rw [hraw]
    rfl
  rw [hword, List.contains_eq_mem, decide_eq_true_eq, hmap, mem_words]
  exact ⟨fun h => h.2.2, fun h => ⟨by decide, hgroup, h⟩⟩

/-- A claim that is no string is read alike. -/
theorem extractCognitoGroups_eq_groupsOf {items : List (String × Value)}
    (hraw : ∀ raw, items.lookup cognitoGroupsClaim ≠ some (.str raw)) :
    extractCognitoGroups items = groupsOf ((items.lookup cognitoGroupsClaim).getD .none) := by
  rw [extractCognitoGroups, show items.lookup "cognito:groups" = items.lookup cognitoGroupsClaim from rfl]
  cases hclaim : items.lookup cognitoGroupsClaim with
  | none => rfl
  | some claim =>
    cases claim with
    | str raw => exact absurd hclaim (hraw raw)
    | _ => rfl

/-- The page and the handlers agree on who is an administrator exactly for the claims that they read alike. -/
theorem isAdministrator_eq_isAuthorized_iff (items : List (String × Value)) :
    isAdministrator (extractCognitoGroups items) = isAuthorized (.dict items) (.str administratorGroup) ↔
      ReadAlike ((items.lookup cognitoGroupsClaim).getD .none) := by
  by_cases hstring : ∃ raw, items.lookup cognitoGroupsClaim = some (.str raw)
  · obtain ⟨raw, hraw⟩ := hstring
    rw [hraw, Bool.eq_iff_iff, isAdministrator_iff_isItem hraw, isAuthorized_iff_isWord hraw, isItem_iff_isWord_iff]
    rfl
  · have hother : ∀ raw, items.lookup cognitoGroupsClaim ≠ some (.str raw) := fun raw hraw => hstring ⟨raw, hraw⟩
    refine iff_of_true ?_ ?_
    · rw [isAdministrator, extractCognitoGroups_eq_groupsOf hother]
      rfl
    · cases hclaim : items.lookup cognitoGroupsClaim with
      | none => trivial
      | some claim =>
        cases claim with
        | str raw => exact absurd hclaim (hother raw)
        | _ => trivial

/-- Groups with a comma between them: the page shows what the handlers refuse. With a space between them it is the reverse. -/
theorem isAdministrator_ne_isAuthorized :
    isAdministrator (extractCognitoGroups [("cognito:groups", .str "Administrator,Staff")]) = true ∧
      isAuthorized (.dict [("cognito:groups", .str "Administrator,Staff")]) (.str administratorGroup) = false ∧
    isAdministrator (extractCognitoGroups [("cognito:groups", .str "Administrator Staff")]) = false ∧
      isAuthorized (.dict [("cognito:groups", .str "Administrator Staff")]) (.str administratorGroup) = true := by
  decide

end Roles

end SafetyConfirmation
