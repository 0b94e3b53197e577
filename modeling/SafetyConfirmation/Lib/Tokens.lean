import Mathlib.Data.List.DropRight
import SafetyConfirmation.Lib.Pattern

/-!
# Pieces of a text

A text is cut into the pieces between its separators, or freed of the white space around it. The rules below say what a
piece is in terms of where it stands in the text, so that two ways to cut a text can be compared without running them.
-/

universe u

namespace Tokens

variable {α : Type u}

/-- Nothing, or a separator, comes right before and right after a piece. -/
def Bounded (sep : α → Bool) (before after : List α) : Prop :=
  (∀ c ∈ before.getLast?, sep c = true) ∧ ∀ c ∈ after.head?, sep c = true

theorem exists_first (sep : α → Bool) (cs : List α) : (∀ c ∈ cs, sep c = false) ∨
    ∃ clean s rest, cs = clean ++ s :: rest ∧ (∀ c ∈ clean, sep c = false) ∧ sep s = true := by
  induction cs with
  | nil => exact .inl fun c hc => (List.not_mem_nil hc).elim
  | cons c cs ih =>
    cases hc : sep c with
    | true => exact .inr ⟨[], c, cs, rfl, fun d hd => (List.not_mem_nil hd).elim, hc⟩
    | false =>
      obtain hall | ⟨clean, s, rest, rfl, hclean, hs⟩ := ih
      · exact .inl (List.forall_mem_cons.2 ⟨hc, hall⟩)
      · exact .inr ⟨c :: clean, s, rest, rfl, List.forall_mem_cons.2 ⟨hc, hclean⟩, hs⟩

theorem mem_splitOnP {sep : α → Bool} {cs piece : List α} : piece ∈ cs.splitOnP sep ↔
    (∀ c ∈ piece, sep c = false) ∧ ∃ before after, cs = before ++ piece ++ after ∧ Bounded sep before after := by
  constructor
  · induction hn : cs.length using Nat.strong_induction_on generalizing cs with
    | _ n ih =>
    intro hpiece
    obtain hclean | ⟨clean, s, rest, rfl, hclean, hs⟩ := exists_first sep cs
    · rw [List.splitOnP_eq_singleton hclean, List.mem_singleton] at hpiece
      subst hpiece
      exact ⟨hclean, [], [], by simp, by simp [Bounded]⟩
    · rw [List.splitOnP_append_cons_of_forall_mem hclean s hs, List.mem_cons] at hpiece
      obtain rfl | hpiece := hpiece
      · exact ⟨hclean, [], s :: rest, by simp, by simp [Bounded, hs]⟩
      · rw [List.length_append, List.length_cons] at hn
        obtain ⟨hall, before, after, rfl, hbefore, hafter⟩ := ih rest.length (by omega) rfl hpiece
        refine ⟨hall, clean ++ s :: before, after, by simp, fun c hc => ?_, hafter⟩
        cases before using List.reverseRecOn with
        | nil =>
          rw [List.getLast?_append, List.getLast?_singleton] at hc
          cases hc
          exact hs
        | append_singleton before b =>
          apply hbefore c
          rw [← List.cons_append, ← List.append_assoc, List.getLast?_concat] at hc
          rwa [List.getLast?_concat]
  · rintro ⟨hall, before, after, rfl, hbefore, hafter⟩
    have hstart : piece ∈ (piece ++ after).splitOnP sep := by
      cases after with
      | nil => simp [List.splitOnP_eq_singleton hall]
      | cons s after =>
        rw [List.splitOnP_append_cons_of_forall_mem hall s (hafter s rfl)]
        exact List.mem_cons_self
    cases before using List.reverseRecOn with
    | nil => exact hstart
    | append_singleton before s =>
      have hs : sep s = true := hbefore s (by simp)
      rw [List.append_assoc, List.append_assoc, List.singleton_append, List.splitOnP_append_cons _ _ hs]
      exact List.mem_append_right _ hstart

/-- The words of a text are its pieces between white space that are not empty. -/
theorem words_eq_filter_splitOnP (cs : List Char) :
    Pattern.words cs = (cs.splitOnP Pattern.isSpace).filter fun word => !word.isEmpty := by
  induction cs with
  | nil => rfl
  | cons c cs ih =>
    rw [Pattern.words.eq_def, List.splitOnP_cons_eq_if_modifyHead]
    dsimp only
    by_cases hc : Pattern.isSpace c = true
    · rw [if_pos hc, if_pos hc, ih]
      simp
    · rw [if_neg hc, if_neg hc]
      cases cs with
      | nil => simp
      | cons d ds =>
        dsimp only
        rw [ih, List.splitOnP_cons_eq_if_modifyHead]
        by_cases hd : Pattern.isSpace d = true
        · simp [hd]
        · cases hsplit : ds.splitOnP Pattern.isSpace with
          | nil => exact absurd hsplit (List.splitOnP_ne_nil _ _)
          | cons word rest => simp [hd]

theorem mem_words {cs word : List Char} : word ∈ Pattern.words cs ↔ word ≠ [] ∧ (∀ c ∈ word, Pattern.isSpace c = false) ∧
    ∃ before after, cs = before ++ word ++ after ∧ Bounded Pattern.isSpace before after := by
  rw [words_eq_filter_splitOnP, List.mem_filter, mem_splitOnP, and_comm]
  simp

/-! ### Trimming -/

/-- The text without the characters of a class around it. -/
def trimBy (cls : α → Bool) (cs : List α) : List α := (cs.dropWhile cls).rdropWhile cls

theorem strip_eq_trimBy (cs : List Char) : Pattern.strip cs = trimBy Pattern.isSpace cs := rfl

theorem exists_eq_append_trimBy (cls : α → Bool) (cs : List α) :
    ∃ lead trail, cs = lead ++ trimBy cls cs ++ trail ∧ (∀ c ∈ lead, cls c = true) ∧ ∀ c ∈ trail, cls c = true := by
  refine ⟨cs.takeWhile cls, (cs.dropWhile cls).rtakeWhile cls, ?_, fun c => List.mem_takeWhile_imp,
    fun c => List.mem_rtakeWhile_imp⟩
  rw [trimBy, List.append_assoc, List.rdropWhile_append_rtakeWhile, List.takeWhile_append_dropWhile]

theorem trimBy_append {cls : α → Bool} {lead word trail : List α} (hlead : ∀ c ∈ lead, cls c = true)
    (htrail : ∀ c ∈ trail, cls c = true) (hne : word ≠ []) (hfirst : word.head?.any cls = false)
    (hlast : word.getLast?.any cls = false) : trimBy cls (lead ++ word ++ trail) = word := by
  obtain ⟨first, rest, rfl⟩ := List.exists_cons_of_ne_nil hne
  have hdrop : (lead ++ (first :: rest) ++ trail).dropWhile cls = (first :: rest) ++ trail := by
    rw [List.append_assoc, List.dropWhile_append_of_pos hlead, List.cons_append, List.dropWhile_cons_of_neg]
    exact Bool.eq_false_iff.1 hfirst
  rw [trimBy, hdrop, List.rdropWhile, List.reverse_append, List.dropWhile_append_of_pos (by simpa using htrail)]
  rw [List.reverse_eq_iff]
  apply List.dropWhile_eq_self_iff.2
  intro hlength
  have hmem : (first :: rest).reverse[0] ∈ (first :: rest).getLast? := by
    rw [Option.mem_def, ← List.head?_reverse, List.head?_eq_getElem?, List.getElem?_eq_getElem hlength]
  rw [hmem] at hlast
  exact Bool.eq_false_iff.1 hlast

theorem dropWhile_of_forall {cls : α → Bool} {cs : List α} (h : ∀ c ∈ cs, cls c = false) : cs.dropWhile cls = cs := by
  cases cs with
  | nil => rfl
  | cons c cs => rw [List.dropWhile_cons_of_neg (by simp [h c List.mem_cons_self])]

theorem trimBy_of_forall {cls : α → Bool} {cs : List α} (h : ∀ c ∈ cs, cls c = false) : trimBy cls cs = cs := by
  rw [trimBy, dropWhile_of_forall h, List.rdropWhile, dropWhile_of_forall (by simpa using h), List.reverse_reverse]

theorem trimBy_eq_nil_iff {cls : α → Bool} {cs : List α} : trimBy cls cs = [] ↔ ∀ c ∈ cs, cls c = true := by
  constructor
  · intro h c hc
    obtain ⟨lead, trail, heq, hlead, htrail⟩ := exists_eq_append_trimBy cls cs
    rw [h, List.append_nil] at heq
    rw [heq, List.mem_append] at hc
    exact hc.elim (hlead c) (htrail c)
  · intro h
    rw [trimBy, List.dropWhile_eq_nil_iff.2 h]
    rfl

/-- Trimming leaves a word that begins and ends outside the class exactly when only the class stands around it. -/
theorem trimBy_eq_iff {cls : α → Bool} {cs word : List α} (hne : word ≠ []) (hfirst : word.head?.any cls = false)
    (hlast : word.getLast?.any cls = false) : trimBy cls cs = word ↔
      ∃ lead trail, cs = lead ++ word ++ trail ∧ (∀ c ∈ lead, cls c = true) ∧ ∀ c ∈ trail, cls c = true := by
  constructor
  · rintro rfl
    exact exists_eq_append_trimBy cls cs
  · rintro ⟨lead, trail, rfl, hlead, htrail⟩
    exact trimBy_append hlead htrail hne hfirst hlast

/-- `\s` of ECMAScript, which is also what `trim` removes. -/
def isWhiteSpace (c : Char) : Bool :=
  let n := c.toNat
  decide (9 ≤ n ∧ n ≤ 13) || decide (0x2000 ≤ n ∧ n ≤ 0x200a) ||
    [0x20, 0xa0, 0x1680, 0x2028, 0x2029, 0x202f, 0x205f, 0x3000, 0xfeff].contains n

/-- The characters that only `str.isspace` counts as white space: four separators and the next line control. -/
def informationSeparators : List Char := ['\x1c', '\x1d', '\x1e', '\x1f', '\u0085']

/-- The character that only ECMAScript counts as white space. -/
def byteOrderMark : Char := '\ufeff'

theorem isWhiteSpace_eq_false_iff {c : Char} : isWhiteSpace c = false ↔
    (Pattern.isSpace c = false ∧ c ≠ byteOrderMark) ∨ c ∈ informationSeparators := by
  have htoNat : ∀ d : Char, c = d ↔ c.toNat = d.toNat := fun d => ⟨congrArg Char.toNat, Char.toNat_inj.1⟩
  simp only [isWhiteSpace, Pattern.isSpace, informationSeparators, byteOrderMark, List.mem_cons, List.not_mem_nil, or_false,
    Ne, htoNat, List.contains_eq_mem, Bool.or_eq_false_iff, decide_eq_false_iff_not]
  simp only [show '\x1c'.toNat = 0x1c from rfl, show '\x1d'.toNat = 0x1d from rfl, show '\x1e'.toNat = 0x1e from rfl,
    show '\x1f'.toNat = 0x1f from rfl, show '\u0085'.toNat = 0x85 from rfl, show '\ufeff'.toNat = 0xfeff from rfl]
  omega

/-- `s.trim()`. -/
def trim (cs : List Char) : List Char := trimBy isWhiteSpace cs

end Tokens
