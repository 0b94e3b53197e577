import Mathlib.Data.List.Basic
import SafetyConfirmation.Keyword.Matcher

/-!
# The law of the classification

What `classify_voice_status` answers, said of the sets of keywords that stand in the text and not of the loops over them.
The answer with the keywords is that of the first category with a hit, and only more hits can come of more keywords or more
text.
-/

namespace SafetyConfirmation

namespace Keyword

variable (lower : String → String)

/-- A keyword that is not empty and, both in lower case, is a substring of the text. -/
def Hits (text keyword : String) : Prop := keyword ≠ "" ∧ (lower keyword).toList <:+: (lower text).toList

instance (text keyword : String) : Decidable (Hits lower text keyword) := inferInstanceAs (Decidable (_ ∧ _))

def HasHit (text : String) (keywords : List String) : Prop := ∃ keyword ∈ keywords, Hits lower text keyword

instance (text : String) (keywords : List String) : Decidable (HasHit lower text keywords) :=
  inferInstanceAs (Decidable (∃ _ ∈ keywords, _))

/-- The hits of a list of keywords, each once and in the order in which they are first in it. -/
structure FirstHits (text : String) (keywords matched : List String) : Prop where
  mem_iff : ∀ keyword, keyword ∈ matched ↔ keyword ∈ keywords ∧ Hits lower text keyword
  order : matched.Pairwise fun earlier later => keywords.idxOf earlier < keywords.idxOf later

/-- The answers, from the highest priority on. -/
def statusOrder : List VoiceStatus := [.injured, .unavailable, .safe, .other]

def priority (status : VoiceStatus) : Nat := statusOrder.idxOf status

/-- The categories have the same keywords, whatever their order and their number. -/
def SameKeywords (dictionary dictionary' : KeywordLists) : Prop :=
  ∀ category keyword, keyword ≠ "" → (keyword ∈ dictionary.get category ↔ keyword ∈ dictionary'.get category)

/-! ### A list of keywords -/

variable {lower} {text : String} {keywords matched : List String}

theorem firstHits_nil : FirstHits lower text [] [] := ⟨by simp, .nil⟩

theorem FirstHits.lt_length (h : FirstHits lower text keywords matched) {keyword : String} (hmem : keyword ∈ matched) :
    keyword ∈ keywords ∧ keywords.idxOf keyword < keywords.length := by
  have hkeyword := ((h.mem_iff keyword).1 hmem).1
  exact ⟨hkeyword, List.idxOf_lt_length_iff.2 hkeyword⟩

/-- The places of what was matched stay as they were when a keyword comes after. -/
theorem FirstHits.order_append (h : FirstHits lower text keywords matched) (keyword : String) :
    matched.Pairwise fun earlier later => (keywords ++ [keyword]).idxOf earlier < (keywords ++ [keyword]).idxOf later := by
  refine h.order.imp_of_mem fun hearlier hlater hlt => ?_
  rw [List.idxOf_append_of_mem (h.lt_length hearlier).1, List.idxOf_append_of_mem (h.lt_length hlater).1]
  exact hlt

/-- A keyword that is no hit, or that was matched before, leaves the list as it is. -/
theorem FirstHits.skip (h : FirstHits lower text keywords matched) {keyword : String}
    (hskip : ¬ Hits lower text keyword ∨ keyword ∈ matched) : FirstHits lower text (keywords ++ [keyword]) matched := by
  refine ⟨fun other => ?_, h.order_append keyword⟩
  rw [h.mem_iff, List.mem_append, List.mem_singleton]
  constructor
  · rintro ⟨hmem, hhits⟩
    exact ⟨.inl hmem, hhits⟩
  · rintro ⟨hmem | rfl, hhits⟩
    · exact ⟨hmem, hhits⟩
    · obtain hno | hmem := hskip
      · exact absurd hhits hno
      · exact ⟨((h.mem_iff other).1 hmem).1, hhits⟩

theorem FirstHits.take (h : FirstHits lower text keywords matched) {keyword : String} (hhits : Hits lower text keyword)
    (hnew : keyword ∉ matched) : FirstHits lower text (keywords ++ [keyword]) (matched ++ [keyword]) := by
  have hnot : keyword ∉ keywords := fun hmem => hnew ((h.mem_iff keyword).2 ⟨hmem, hhits⟩)
  constructor
  · intro other
    rw [List.mem_append, List.mem_append, h.mem_iff, List.mem_singleton, or_and_right]
    refine or_congr_right ⟨?_, And.left⟩
    rintro rfl
    exact ⟨rfl, hhits⟩
  · rw [List.pairwise_append]
    refine ⟨h.order_append keyword, List.pairwise_singleton _ _, fun earlier hearlier later hlater => ?_⟩
    obtain ⟨hmem, hlt⟩ := h.lt_length hearlier
    rw [List.mem_singleton.1 hlater, List.idxOf_append_of_mem hmem, List.idxOf_append_of_notMem hnot]
    exact Nat.lt_add_right _ hlt

theorem FirstHits.step (h : FirstHits lower text keywords matched) (keyword : String) :
    FirstHits lower text (keywords ++ [keyword]) (matchStep lower text matched keyword) := by
  rw [matchStep]
  split
  · rename_i hempty
    exact h.skip (.inl fun hhits => hhits.1 hempty)
  · rename_i hnonempty
    split
    · rename_i hmem
      exact h.skip (.inr hmem)
    · rename_i hnew
      split
      · rename_i hoccurs
        exact h.take ⟨hnonempty, of_decide_eq_true hoccurs⟩ hnew
      · rename_i hoccurs
        exact h.skip (.inl fun hhits => hoccurs (decide_eq_true hhits.2))

theorem firstHits_matchedKeywords (lower : String → String) (text : String) (keywords : List String) :
    FirstHits lower text keywords (matchedKeywords lower text keywords) := by
  induction keywords using List.reverseRecOn with
  | nil => exact firstHits_nil
  | append_singleton keywords keyword ih =>
    rw [matchedKeywords, List.foldl_append]
    exact ih.step keyword

theorem matchedKeywords_eq_nil_iff : matchedKeywords lower text keywords = [] ↔ ¬ HasHit lower text keywords := by
  have hmem := (firstHits_matchedKeywords lower text keywords).mem_iff
  rw [List.eq_nil_iff_forall_not_mem]
  simp only [hmem, HasHit, not_exists]

/-! ### The categories -/

variable {dictionary : KeywordLists}

/-- The loop over the categories answers for the first of them with a hit. -/
theorem classifyIn_eq (lower : String → String) (text : String) (dictionary : KeywordLists) (categories : List Category) :
    classifyIn lower text dictionary categories =
      match categories.find? fun category => decide (HasHit lower text (dictionary.get category)) with
      | some category => (category.voiceStatus, matchedKeywords lower text (dictionary.get category))
      | none => (.other, []) := by
  induction categories with
  | nil => rfl
  | cons category rest ih =>
    rw [classifyIn, List.find?_cons]
    by_cases hhit : HasHit lower text (dictionary.get category)
    · rw [decide_eq_true hhit, if_neg (mt matchedKeywords_eq_nil_iff.1 (not_not_intro hhit))]
    · rw [decide_eq_false hhit, if_pos (matchedKeywords_eq_nil_iff.2 hhit), ih]

/-- The category that is answered for. -/
def winner (lower : String → String) (text : String) (dictionary : KeywordLists) : Option Category :=
  priorityOrder.find? fun category => decide (HasHit lower text (dictionary.get category))

theorem hasHit_of_winner {category : Category} (h : winner lower text dictionary = some category) :
    HasHit lower text (dictionary.get category) := of_decide_eq_true (List.find?_some h :)

theorem status_eq (lower : String → String) (text : String) (dictionary : KeywordLists) :
    (classifyVoiceStatus lower text dictionary).1 = ((winner lower text dictionary).map Category.voiceStatus).getD .other := by
  rw [classifyVoiceStatus, classifyIn_eq, winner]
  split
  · rename_i hfind
    rw [hfind]
    rfl
  · rename_i hfind
    rw [hfind]
    rfl

/-- The order of the categories, written out. -/
theorem status_eq_ite (lower : String → String) (text : String) (dictionary : KeywordLists) :
    (classifyVoiceStatus lower text dictionary).1 =
      if HasHit lower text dictionary.injured then .injured
      else if HasHit lower text dictionary.unavailable then .unavailable
      else if HasHit lower text dictionary.safe then .safe
      else .other := by
  rw [status_eq, winner, priorityOrder]
  by_cases hinjured : HasHit lower text dictionary.injured
  · simp [KeywordLists.get, Category.voiceStatus, hinjured]
  by_cases hunavailable : HasHit lower text dictionary.unavailable
  · simp [KeywordLists.get, Category.voiceStatus, hinjured, hunavailable]
  by_cases hsafe : HasHit lower text dictionary.safe <;> simp [KeywordLists.get, Category.voiceStatus, hinjured, hunavailable, hsafe]

theorem voiceStatus_injective {category category' : Category} (h : category.voiceStatus = category'.voiceStatus) :
    category = category' := by
  cases category <;> cases category' <;> first | rfl | cases h

theorem voiceStatus_ne_other (category : Category) : category.voiceStatus ≠ .other := by
  cases category <;> exact nofun

/-- The priority is the place of the first category with a hit. -/
theorem priority_status (lower : String → String) (text : String) (dictionary : KeywordLists) :
    priority (classifyVoiceStatus lower text dictionary).1 =
      priorityOrder.findIdx fun category => decide (HasHit lower text (dictionary.get category)) := by
  rw [status_eq, winner, priorityOrder]
  simp only [List.find?_cons, List.findIdx_cons, List.find?_nil, List.findIdx_nil]
  generalize decide (HasHit lower text (dictionary.get .injured)) = injured
  generalize decide (HasHit lower text (dictionary.get .unavailable)) = unavailable
  generalize decide (HasHit lower text (dictionary.get .safe)) = safe
  revert injured unavailable safe
  decide

/-- More hits give no lower a priority. -/
theorem priority_le {text' : String} {dictionary' : KeywordLists}
    (h : ∀ category, HasHit lower text (dictionary.get category) → HasHit lower text' (dictionary'.get category)) :
    priority (classifyVoiceStatus lower text' dictionary').1 ≤ priority (classifyVoiceStatus lower text dictionary).1 := by
  rw [priority_status, priority_status]
  refine List.findIdx_le_findIdx fun category _ hhit => ?_
  exact decide_eq_true (h category (of_decide_eq_true hhit))

theorem status_congr {dictionary' : KeywordLists} (h : SameKeywords dictionary dictionary') :
    (classifyVoiceStatus lower text dictionary).1 = (classifyVoiceStatus lower text dictionary').1 := by
  have hsame : ∀ category, HasHit lower text (dictionary.get category) ↔ HasHit lower text (dictionary'.get category) :=
    fun category => exists_congr fun keyword => and_congr_left fun hhits => h category keyword hhits.1
  simp only [status_eq, winner, hsame]

/-! ### More text -/

/-- A keyword that stands in a part of the text stands in the text. -/
theorem Hits.extend {before after keyword : String} (h : Hits lower text keyword)
    (hlower : lower (before ++ text ++ after) = lower before ++ lower text ++ lower after) :
    Hits lower (before ++ text ++ after) keyword := by
  refine ⟨h.1, ?_⟩
  rw [hlower, String.toList_append, String.toList_append]
  exact h.2.trans (List.infix_append _ _ _)

/-- The first category with a hit is answered, with its hits; only the sets of keywords count, and neither more keywords
nor more text give a lower priority. -/
structure Law (lower : String → String) (text : String) (dictionary : KeywordLists) : Prop where
  answers : ∀ items, dictionary.IsReadFrom items →
    classifyValues lower (.str text) (.dict items) = .ok (classifyVoiceStatus lower text dictionary)
  status : (classifyVoiceStatus lower text dictionary).1 =
    if HasHit lower text dictionary.injured then .injured
    else if HasHit lower text dictionary.unavailable then .unavailable
    else if HasHit lower text dictionary.safe then .safe
    else .other
  matched : ∀ category, (classifyVoiceStatus lower text dictionary).1 = category.voiceStatus →
    FirstHits lower text (dictionary.get category) (classifyVoiceStatus lower text dictionary).2
  nil_iff : (classifyVoiceStatus lower text dictionary).2 = [] ↔ (classifyVoiceStatus lower text dictionary).1 = .other
  sets : ∀ dictionary', SameKeywords dictionary dictionary' →
    (classifyVoiceStatus lower text dictionary').1 = (classifyVoiceStatus lower text dictionary).1
  moreKeywords : ∀ dictionary' : KeywordLists, (∀ category, dictionary.get category ⊆ dictionary'.get category) →
    priority (classifyVoiceStatus lower text dictionary').1 ≤ priority (classifyVoiceStatus lower text dictionary).1
  moreText : (∀ s t, lower (s ++ t) = lower s ++ lower t) → ∀ before after,
    priority (classifyVoiceStatus lower (before ++ text ++ after) dictionary).1 ≤
      priority (classifyVoiceStatus lower text dictionary).1

theorem law_classifyVoiceStatus (lower : String → String) (text : String) (dictionary : KeywordLists) :
    Law lower text dictionary where
  answers _ hitems := classifyItems_eq lower hitems text priorityOrder
  status := status_eq_ite lower text dictionary
  matched := by
    intro category hstatus
    rw [classifyVoiceStatus, classifyIn_eq] at hstatus ⊢
    split at hstatus
    · rename_i category' hfind
      rw [← voiceStatus_injective hstatus]
      exact firstHits_matchedKeywords lower text (dictionary.get category')
    · exact absurd hstatus.symm (voiceStatus_ne_other category)
  nil_iff := by
    rw [classifyVoiceStatus, classifyIn_eq]
    split
    · rename_i category hfind
      exact iff_of_false (mt matchedKeywords_eq_nil_iff.1 (not_not_intro (hasHit_of_winner hfind)))
        (voiceStatus_ne_other category)
    · exact iff_of_true rfl rfl
  sets dictionary' h := (status_congr h).symm
  moreKeywords dictionary' h := by
    refine priority_le fun category hhit => ?_
    obtain ⟨keyword, hmem, hhits⟩ := hhit
    exact ⟨keyword, h category hmem, hhits⟩
  moreText hlower before after := by
    refine priority_le fun category hhit => ?_
    obtain ⟨keyword, hmem, hhits⟩ := hhit
    exact ⟨keyword, hmem, hhits.extend (by rw [hlower, hlower])⟩

/-- `lower()` on ASCII texts. -/
def asciiLower (s : String) : String := String.ofList (s.toList.map Char.toLower)

theorem asciiLower_append (s t : String) : asciiLower (s ++ t) = asciiLower s ++ asciiLower t := by
  simp [asciiLower, String.ofList_append]

def helpDictionary : KeywordLists where
  safe := ["fine"]
  injured := ["hurt", "help", "hurt"]

/-- A text with hits in two categories, and whatever else is said before and after it. -/
theorem law_classifyVoiceStatus_help :
    (classifyVoiceStatus asciiLower "Fine, but I need HELP" helpDictionary).1 = .injured ∧
      "help" ∈ (classifyVoiceStatus asciiLower "Fine, but I need HELP" helpDictionary).2 ∧
      ∀ before after, priority (classifyVoiceStatus asciiLower (before ++ "Fine, but I need HELP" ++ after) helpDictionary).1 ≤
        priority .injured := by
  have hlaw := law_classifyVoiceStatus asciiLower "Fine, but I need HELP" helpDictionary
  have hhelp : Hits asciiLower "Fine, but I need HELP" "help" := by decide +kernel
  have hinjured : HasHit asciiLower "Fine, but I need HELP" helpDictionary.injured := ⟨"help", by decide, hhelp⟩
  have hstatus : (classifyVoiceStatus asciiLower "Fine, but I need HELP" helpDictionary).1 = .injured := by
    rw [hlaw.status, if_pos hinjured]
  refine ⟨hstatus, ((hlaw.matched .injured hstatus).mem_iff "help").2 ⟨by decide, hhelp⟩, fun before after => ?_⟩
  rw [← hstatus]
  exact hlaw.moreText asciiLower_append before after

end Keyword

end SafetyConfirmation
