import Mathlib.Data.List.Infix
import SafetyConfirmation.Data.Value
import SafetyConfirmation.Data.VoiceStatus

/-!
# Classifying a transcript

`shared.keyword.matcher.classify_voice_status`. The case folding `str.lower` is a parameter: the laws below
hold for any.
-/

namespace SafetyConfirmation

inductive Category where
  | safe
  | injured
  | unavailable
  deriving DecidableEq, Repr, Inhabited

namespace Category

def name : Category → String
  | safe => "SAFE"
  | injured => "INJURED"
  | unavailable => "UNAVAILABLE"

def ofName? : String → Option Category
  | "SAFE" => some safe
  | "INJURED" => some injured
  | "UNAVAILABLE" => some unavailable
  | _ => none

@[simp] theorem ofName?_name (category : Category) : ofName? category.name = some category := by
  cases category <;> rfl

/-- The voice status an answer of this category is given. -/
def voiceStatus : Category → VoiceStatus
  | safe => .safe
  | injured => .injured
  | unavailable => .unavailable

theorem isConfirmed_voiceStatus (category : Category) : category.voiceStatus.isConfirmed = true := by
  cases category <;> rfl

end Category

/-- A dictionary snapshot: a list of keywords for each category. -/
structure KeywordLists where
  safe : List String := []
  injured : List String := []
  unavailable : List String := []
  deriving DecidableEq, Repr, Inhabited

namespace KeywordLists

def get (dictionary : KeywordLists) : Category → List String
  | .safe => dictionary.safe
  | .injured => dictionary.injured
  | .unavailable => dictionary.unavailable

/-- The items have lists of strings for the three categories, and perhaps others. -/
def IsReadFrom (dictionary : KeywordLists) (items : List (String × Value)) : Prop :=
  ∀ category : Category, items.lookup category.name = some (.list ((dictionary.get category).map .str))

end KeywordLists

namespace Keyword

def priorityOrder : List Category := [.injured, .unavailable, .safe]

variable (lower : String → String)

def occursIn (text keyword : String) : Bool := decide ((lower keyword).toList <:+: (lower text).toList)

/-- One turn of the loop over a category's keywords: empty ones and ones already matched are skipped. -/
def matchStep (text : String) (matched : List String) (keyword : String) : List String :=
  if keyword = "" then matched
  else if keyword ∈ matched then matched
  else if occursIn lower text keyword then matched ++ [keyword]
  else matched

def matchedKeywords (text : String) (keywords : List String) : List String :=
  keywords.foldl (matchStep lower text) []

/-- The first category of the list with a match, and its matches. -/
def classifyIn (text : String) (dictionary : KeywordLists) : List Category → VoiceStatus × List String
  | [] => (.other, [])
  | category :: rest =>
    let matched := matchedKeywords lower text (dictionary.get category)
    if matched = [] then classifyIn text dictionary rest else (category.voiceStatus, matched)

def classifyVoiceStatus (text : String) (dictionary : KeywordLists) : VoiceStatus × List String :=
  classifyIn lower text dictionary priorityOrder

/-- The loop over the entries of a category, from the keywords matched so far. -/
def matchEntries (text : String) (category : Category) : List Value → List String → Except PyError (List String)
  | [], matched => .ok matched
  | .str keyword :: rest, matched => matchEntries text category rest (matchStep lower text matched keyword)
  | entry :: _, _ =>
    .error (.valueError ("dictionary['" ++ category.name ++ "'] contains non-str entry") (some entry))

/-- The loop over the categories on a dictionary as it is read: a category is checked when its turn comes. -/
def classifyItems (text : String) (items : List (String × Value)) :
    List Category → Except PyError (VoiceStatus × List String)
  | [] => .ok (.other, [])
  | category :: rest =>
    match (items.lookup category.name).getD (.list []) with
    | .list entries => do
      let matched ← matchEntries lower text category entries []
      if matched = [] then classifyItems text items rest else return (category.voiceStatus, matched)
    | keywords => .error (.valueError
        ("dictionary['" ++ category.name ++ "'] must be a list of str; got " ++ keywords.typeName))

/-- `classify_voice_status`, with its checks. -/
def classifyValues (text dictionary : Value) : Except PyError (VoiceStatus × List String) :=
  match text, dictionary with
  | .str text, .dict items => classifyItems lower text items priorityOrder
  | .str _, dictionary => .error (.valueError ("dictionary must be a dict; got " ++ dictionary.typeName))
  | text, _ => .error (.valueError ("text must be a str; got " ++ text.typeName))

theorem matchEntries_map_str (text : String) (category : Category) (keywords matched : List String) :
    matchEntries lower text category (keywords.map .str) matched = .ok (keywords.foldl (matchStep lower text) matched) := by
  induction keywords generalizing matched with
  | nil => rfl
  | cons keyword rest ih =>
    rw [List.map_cons, matchEntries, ih]
    rfl

theorem classifyItems_eq {dictionary : KeywordLists} {items : List (String × Value)} (h : dictionary.IsReadFrom items)
    (text : String) (categories : List Category) :
    classifyItems lower text items categories = .ok (classifyIn lower text dictionary categories) := by
  induction categories with
  | nil => rfl
  | cons category rest ih =>
    rw [classifyItems, h category, Option.getD_some]
    dsimp only
    rw [matchEntries_map_str, classifyIn, matchedKeywords]
    show (if _ = [] then classifyItems lower text items rest else _) = _
    rw [ih]
    split <;> rfl

/-- The statuses a classification can answer with. -/
def IsClassified (status : VoiceStatus) : Prop := status.isConfirmed = true ∨ status = .other

instance (status : VoiceStatus) : Decidable (IsClassified status) := inferInstanceAs (Decidable (_ ∨ _))

theorem isClassified_classifyIn (text : String) (dictionary : KeywordLists) (categories : List Category) :
    IsClassified (classifyIn lower text dictionary categories).1 := by
  induction categories with
  | nil => exact .inr rfl
  | cons category rest ih =>
    rw [classifyIn]
    split
    · exact ih
    · exact .inl category.isConfirmed_voiceStatus

/-- `OTHER` is answered without a keyword. -/
theorem eq_nil_of_classifyIn {text : String} {dictionary : KeywordLists} {categories : List Category}
    (h : (classifyIn lower text dictionary categories).1 = .other) :
    (classifyIn lower text dictionary categories).2 = [] := by
  induction categories with
  | nil => rfl
  | cons category rest ih =>
    rw [classifyIn] at h ⊢
    split
    · rename_i hempty
      rw [if_pos hempty] at h
      exact ih h
    · rename_i hmatched
      rw [if_neg hmatched] at h
      cases category <;> cases h

theorem isClassified_classifyVoiceStatus (text : String) (dictionary : KeywordLists) :
    IsClassified (classifyVoiceStatus lower text dictionary).1 := isClassified_classifyIn ..

end Keyword

end SafetyConfirmation
