import Mathlib.Data.List.Basic

/-!
# Patterns

Regular expressions with captures, as matchers in continuation-passing style: a matcher reads the rest of the text and
answers with what a match captured. Where there are several ways to go on, the first one that leads to a match of the
whole is taken, longest first for a greedy repetition and shortest first for a lazy one, as a backtracking engine does.

What a pattern accepts does not depend on that order, and where a repetition is followed by a character outside its
class there is only one way. The rules below say both.
-/

universe u v

namespace Pattern

variable {α : Type u} {β : Type v}

abbrev Matcher (α : Type u) := List Char → Option α

/-- A literal piece of text. -/
def lit : List Char → Matcher α → Matcher α
  | [], k, cs => k cs
  | _ :: _, _, [] => none
  | c :: text, k, d :: cs => if c = d then lit text k cs else none

/-- The ways to split off one or more characters of a class, shortest first. -/
def spans (cls : Char → Bool) : List Char → List (List Char × List Char)
  | [] => []
  | c :: cs => if cls c then ([c], cs) :: (spans cls cs).map fun span => (c :: span.1, span.2) else []

/-- `[…]+`. -/
def plus (cls : Char → Bool) (k : List Char → Matcher α) : Matcher α := fun cs =>
  (spans cls cs).reverse.findSome? fun span => k span.1 span.2

/-- `[…]+?`. -/
def plusLazy (cls : Char → Bool) (k : List Char → Matcher α) : Matcher α := fun cs =>
  (spans cls cs).findSome? fun span => k span.1 span.2

/-- `[…]{n}`. -/
def exactly (n : Nat) (cls : Char → Bool) (k : List Char → Matcher α) : Matcher α := fun cs =>
  if (cs.take n).length = n ∧ (cs.take n).all cls then k (cs.take n) (cs.drop n) else none

/-- `[…]{low,high}`, for a `low` that is not `0`. -/
def between (low high : Nat) (cls : Char → Bool) (k : List Char → Matcher α) : Matcher α := fun cs =>
  ((spans cls cs).filter fun span => decide (low ≤ span.1.length ∧ span.1.length ≤ high)).reverse.findSome? fun span =>
    k span.1 span.2

/-- `(?:…)?`. -/
def optional (m : Matcher α → Matcher α) (k : Matcher α) : Matcher α := fun cs => (m k cs).or (k cs)

/-- `$`, which also matches before a line break that ends the text. -/
def atEnd (a : α) : Matcher α := fun cs => if cs = [] ∨ cs = ['\n'] then some a else none

/-- `$` where nothing may follow. -/
def finish (a : α) : Matcher α := fun cs => if cs = [] then some a else none

/-! ### Character classes -/

/-- `[^…]`. -/
def noneOf (excluded : List Char) (c : Char) : Bool := !excluded.contains c

/-- `.`. -/
def notNewline (c : Char) : Bool := c != '\n'

/-- The zeros of the decimal digits of Unicode 15.0, each followed by the other nine. -/
def decimalZeros : List Nat :=
  [0x30, 0x660, 0x6f0, 0x7c0, 0x966, 0x9e6, 0xa66, 0xae6, 0xb66, 0xbe6, 0xc66, 0xce6, 0xd66, 0xde6, 0xe50, 0xed0,
    0xf20, 0x1040, 0x1090, 0x17e0, 0x1810, 0x1946, 0x19d0, 0x1a80, 0x1a90, 0x1b50, 0x1bb0, 0x1c40, 0x1c50, 0xa620,
    0xa8d0, 0xa900, 0xa9d0, 0xa9f0, 0xaa50, 0xabf0, 0xff10, 0x104a0, 0x10d30, 0x11066, 0x110f0, 0x11136, 0x111d0,
    0x112f0, 0x11450, 0x114d0, 0x11650, 0x116c0, 0x11730, 0x118e0, 0x11950, 0x11c50, 0x11d50, 0x11da0, 0x11f50,
    0x16a60, 0x16ac0, 0x16b50, 0x1d7ce, 0x1d7d8, 0x1d7e2, 0x1d7ec, 0x1d7f6, 0x1e140, 0x1e2f0, 0x1e4f0, 0x1e950,
    0x1fbf0]

/-- `\d` of a `str` pattern. -/
def isDecimal (c : Char) : Bool := decimalZeros.any fun start => decide (start ≤ c.toNat ∧ c.toNat < start + 10)

/-- `\s` of a `str` pattern, which is also what `str.strip` removes and `str.split` splits at. -/
def isSpace (c : Char) : Bool :=
  let n := c.toNat
  decide (9 ≤ n ∧ n ≤ 13) || decide (28 ≤ n ∧ n ≤ 32) || decide (0x2000 ≤ n ∧ n ≤ 0x200a) ||
    [0x85, 0xa0, 0x1680, 0x2028, 0x2029, 0x202f, 0x205f, 0x3000].contains n

/-! ### Trimming and splitting -/

/-- `str.strip()`. -/
def strip (cs : List Char) : List Char := ((cs.dropWhile isSpace).reverse.dropWhile isSpace).reverse

/-- `str.split()`: the words between runs of white space. -/
def words : List Char → List (List Char)
  | [] => []
  | c :: cs =>
    if isSpace c then words cs
    else
      match cs with
      | [] => [[c]]
      | d :: _ =>
        if isSpace d then [c] :: words cs
        else
          match words cs with
          | [] => [[c]]
          | word :: rest => (c :: word) :: rest

theorem isDecimal_of_isDigit {c : Char} (h : c.isDigit = true) : isDecimal c = true := by
  rw [Char.isDigit, Bool.and_eq_true, decide_eq_true_eq, decide_eq_true_eq] at h
  have hlow : 0x30 ≤ c.toNat := h.1
  have hhigh : c.toNat ≤ 0x39 := h.2
  rw [isDecimal, List.any_eq_true]
  exact ⟨0x30, List.mem_cons_self, decide_eq_true ⟨hlow, by omega⟩⟩

/-! ### What a match says about the text -/

theorem lit_eq_some {text : List Char} {k : Matcher α} {cs : List Char} {a : α} (h : lit text k cs = some a) :
    ∃ rest, cs = text ++ rest ∧ k rest = some a := by
  induction text generalizing cs with
  | nil => exact ⟨cs, rfl, h⟩
  | cons c text ih =>
    cases cs with
    | nil => cases h
    | cons d cs =>
      rw [lit] at h
      split at h
      · subst d
        obtain ⟨rest, rfl, hk⟩ := ih h
        exact ⟨rest, rfl, hk⟩
      · cases h

theorem mem_spans {cls : Char → Bool} {cs taken rest : List Char} :
    (taken, rest) ∈ spans cls cs ↔ taken ≠ [] ∧ (∀ c ∈ taken, cls c = true) ∧ cs = taken ++ rest := by
  induction cs generalizing taken with
  | nil =>
    refine iff_of_false List.not_mem_nil ?_
    rintro ⟨hne, -, heq⟩
    exact hne (List.append_eq_nil_iff.1 heq.symm).1
  | cons c cs ih =>
    rw [spans]
    by_cases hc : cls c = true
    · rw [if_pos hc, List.mem_cons, List.mem_map]
      constructor
      · rintro (heq | ⟨⟨tail, rest'⟩, hspan, heq⟩)
        · cases heq
          exact ⟨List.cons_ne_nil _ _, by simpa using hc, rfl⟩
        · cases heq
          obtain ⟨-, hall, rfl⟩ := ih.1 hspan
          exact ⟨List.cons_ne_nil _ _, List.forall_mem_cons.2 ⟨hc, hall⟩, rfl⟩
      · rintro ⟨hne, hall, heq⟩
        cases taken with
        | nil => exact absurd rfl hne
        | cons d tail =>
          cases heq
          cases tail with
          | nil => exact .inl rfl
          | cons e tail =>
            refine .inr ⟨(e :: tail, rest), ih.2 ⟨List.cons_ne_nil _ _, ?_, rfl⟩, rfl⟩
            exact fun x hx => hall x (List.mem_cons_of_mem _ hx)
    · rw [if_neg hc]
      refine iff_of_false List.not_mem_nil ?_
      rintro ⟨hne, hall, heq⟩
      cases taken with
      | nil => exact hne rfl
      | cons d tail =>
        cases heq
        exact hc (hall c List.mem_cons_self)

theorem plus_eq_some {cls : Char → Bool} {k : List Char → Matcher α} {cs : List Char} {a : α} (h : plus cls k cs = some a) :
    ∃ taken rest, taken ≠ [] ∧ (∀ c ∈ taken, cls c = true) ∧ cs = taken ++ rest ∧ k taken rest = some a := by
  obtain ⟨⟨taken, rest⟩, hmem, hk⟩ := List.exists_of_findSome?_eq_some h
  obtain ⟨hne, hall, heq⟩ := mem_spans.1 (List.mem_reverse.1 hmem)
  exact ⟨taken, rest, hne, hall, heq, hk⟩

theorem plusLazy_eq_some {cls : Char → Bool} {k : List Char → Matcher α} {cs : List Char} {a : α}
    (h : plusLazy cls k cs = some a) :
    ∃ taken rest, taken ≠ [] ∧ (∀ c ∈ taken, cls c = true) ∧ cs = taken ++ rest ∧ k taken rest = some a := by
  obtain ⟨⟨taken, rest⟩, hmem, hk⟩ := List.exists_of_findSome?_eq_some h
  obtain ⟨hne, hall, heq⟩ := mem_spans.1 hmem
  exact ⟨taken, rest, hne, hall, heq, hk⟩

theorem optional_eq_some {m : Matcher α → Matcher α} {k : Matcher α} {cs : List Char} {a : α} (h : optional m k cs = some a) :
    m k cs = some a ∨ k cs = some a := (Option.or_eq_some_iff.1 h).imp_right And.right

theorem exactly_eq_some {n : Nat} {cls : Char → Bool} {k : List Char → Matcher α} {cs : List Char} {a : α}
    (h : exactly n cls k cs = some a) :
    ∃ taken rest, taken.length = n ∧ (∀ c ∈ taken, cls c = true) ∧ cs = taken ++ rest ∧ k taken rest = some a := by
  rw [exactly] at h
  split at h
  · rename_i htake
    exact ⟨cs.take n, cs.drop n, htake.1, List.all_eq_true.1 htake.2, (List.take_append_drop n cs).symm, h⟩
  · cases h

/-! ### Whether there is a match -/

theorem isSome_lit {text : List Char} {k : Matcher α} {cs : List Char} :
    (lit text k cs).isSome = true ↔ ∃ rest, cs = text ++ rest ∧ (k rest).isSome = true := by
  induction text generalizing cs with
  | nil => simp [lit]
  | cons c text ih =>
    cases cs with
    | nil => simp [lit]
    | cons d cs =>
      rw [lit]
      split
      · subst d
        simp [ih]
      · rename_i hne
        simp [Ne.symm hne]

theorem isSome_plus {cls : Char → Bool} {k : List Char → Matcher α} {cs : List Char} :
    (plus cls k cs).isSome = true ↔
      ∃ taken rest, taken ≠ [] ∧ (∀ c ∈ taken, cls c = true) ∧ cs = taken ++ rest ∧ (k taken rest).isSome = true := by
  rw [plus, List.findSome?_isSome_iff]
  constructor
  · rintro ⟨⟨taken, rest⟩, hspan, hk⟩
    obtain ⟨hne, hall, heq⟩ := mem_spans.1 (List.mem_reverse.1 hspan)
    exact ⟨taken, rest, hne, hall, heq, hk⟩
  · rintro ⟨taken, rest, hne, hall, heq, hk⟩
    exact ⟨(taken, rest), List.mem_reverse.2 (mem_spans.2 ⟨hne, hall, heq⟩), hk⟩

theorem isSome_plusLazy {cls : Char → Bool} {k : List Char → Matcher α} {cs : List Char} :
    (plusLazy cls k cs).isSome = true ↔
      ∃ taken rest, taken ≠ [] ∧ (∀ c ∈ taken, cls c = true) ∧ cs = taken ++ rest ∧ (k taken rest).isSome = true := by
  rw [plusLazy, List.findSome?_isSome_iff]
  constructor
  · rintro ⟨⟨taken, rest⟩, hspan, hk⟩
    obtain ⟨hne, hall, heq⟩ := mem_spans.1 hspan
    exact ⟨taken, rest, hne, hall, heq, hk⟩
  · rintro ⟨taken, rest, hne, hall, heq, hk⟩
    exact ⟨(taken, rest), mem_spans.2 ⟨hne, hall, heq⟩, hk⟩

theorem isSome_optional {m : Matcher α → Matcher α} {k : Matcher α} {cs : List Char} :
    (optional m k cs).isSome = true ↔ (m k cs).isSome = true ∨ (k cs).isSome = true := by
  rw [optional, Option.isSome_or, Bool.or_eq_true]

theorem isSome_between {low high : Nat} (hlow : 0 < low) {cls : Char → Bool} {k : List Char → Matcher α} {cs : List Char} :
    (between low high cls k cs).isSome = true ↔
      ∃ taken rest, (low ≤ taken.length ∧ taken.length ≤ high) ∧ (∀ c ∈ taken, cls c = true) ∧ cs = taken ++ rest ∧
        (k taken rest).isSome = true := by
  rw [between, List.findSome?_isSome_iff]
  constructor
  · rintro ⟨⟨taken, rest⟩, hspan, hk⟩
    obtain ⟨hspan, hlength⟩ := List.mem_filter.1 (List.mem_reverse.1 hspan)
    obtain ⟨-, hall, heq⟩ := mem_spans.1 hspan
    exact ⟨taken, rest, of_decide_eq_true hlength, hall, heq, hk⟩
  · rintro ⟨taken, rest, hlength, hall, heq, hk⟩
    have hne : taken ≠ [] := by
      apply List.ne_nil_of_length_pos
      omega
    refine ⟨(taken, rest), List.mem_reverse.2 (List.mem_filter.2 ⟨mem_spans.2 ⟨hne, hall, heq⟩, ?_⟩), hk⟩
    exact decide_eq_true hlength

theorem isSome_atEnd {a : α} {cs : List Char} : (atEnd a cs).isSome = true ↔ cs = [] ∨ cs = ['\n'] := by
  rw [atEnd]
  split <;> simp_all

theorem isSome_finish {a : α} {cs : List Char} : (finish a cs).isSome = true ↔ cs = [] := by
  rw [finish]
  split <;> simp_all

/-! ### What a pattern does on a text of its shape -/

@[simp] theorem lit_append (text : List Char) (k : Matcher α) (rest : List Char) : lit text k (text ++ rest) = k rest := by
  induction text with
  | nil => rfl
  | cons c text ih => rw [List.cons_append, lit, if_pos rfl, ih]

theorem lit_singleton (c : Char) (k : Matcher α) (rest : List Char) : lit [c] k (c :: rest) = k rest := if_pos rfl

/-- The matcher fails on a text that does not start with `c`, as one that begins with a literal does. -/
def StartsWith (c : Char) (m : Matcher α) : Prop := ∀ cs a, m cs = some a → ∃ rest, cs = c :: rest

theorem startsWith_lit (c : Char) (text : List Char) (k : Matcher α) : StartsWith c (lit (c :: text) k) := by
  intro cs a h
  obtain ⟨rest, rfl, -⟩ := lit_eq_some h
  exact ⟨text ++ rest, rfl⟩

theorem findSome?_eq_of_forall {l : List β} {f : β → Option α} {b : β} (hmem : b ∈ l)
    (hothers : ∀ b' ∈ l, b' ≠ b → f b' = none) : l.findSome? f = f b := by
  induction l with
  | nil => cases hmem
  | cons head l ih =>
    rw [List.findSome?_cons]
    by_cases hhead : head = b
    · subst head
      cases hb : f b with
      | some a => rfl
      | none =>
        refine List.findSome?_eq_none_iff.2 fun b' hb' => ?_
        by_cases heq : b' = b
        · rw [heq, hb]
        · exact hothers b' (List.mem_cons_of_mem _ hb') heq
    · rw [hothers head List.mem_cons_self hhead]
      exact ih ((List.mem_cons.1 hmem).resolve_left fun heq => hhead heq.symm)
        fun b' hb' => hothers b' (List.mem_cons_of_mem _ hb')

theorem append_cons_inj {c : Char} {left right rest rest' : List Char} (hleft : c ∉ left) (hright : c ∉ right)
    (h : left ++ c :: rest = right ++ c :: rest') : left = right ∧ rest = rest' := by
  induction left generalizing right with
  | nil =>
    cases right with
    | nil =>
      cases h
      exact ⟨rfl, rfl⟩
    | cons d right =>
      cases h
      exact absurd List.mem_cons_self hright
  | cons d left ih =>
    cases right with
    | nil =>
      cases h
      exact absurd List.mem_cons_self hleft
    | cons e right =>
      rw [List.cons_append, List.cons_append, List.cons.injEq] at h
      obtain ⟨hrest, heq⟩ := ih (List.not_mem_of_not_mem_cons hleft) (List.not_mem_of_not_mem_cons hright) h.2
      exact ⟨by rw [h.1, hrest], heq⟩

/-- So have two texts that are cut at their last `c`. -/
theorem append_cons_inj_right {c : Char} {left right rest rest' : List Char} (hrest : c ∉ rest) (hrest' : c ∉ rest')
    (h : left ++ c :: rest = right ++ c :: rest') : left = right ∧ rest = rest' := by
  have hreverse := congrArg List.reverse h
  simp only [List.reverse_append, List.reverse_cons, List.append_assoc, List.singleton_append] at hreverse
  obtain ⟨htail, hhead⟩ := append_cons_inj (by simpa using hrest) (by simpa using hrest') hreverse
  exact ⟨List.reverse_inj.1 hhead, List.reverse_inj.1 htail⟩

/-- Before a character outside the class a repetition has only one way: all of it. -/
theorem plus_append_cons {cls : Char → Bool} {k : List Char → Matcher α} {taken rest : List Char} {c : Char}
    (hne : taken ≠ []) (hcls : ∀ d ∈ taken, cls d = true) (hc : cls c = false) (hk : ∀ taken, StartsWith c (k taken)) :
    plus cls k (taken ++ c :: rest) = k taken (c :: rest) := by
  have hnot : ∀ {chars : List Char}, (∀ d ∈ chars, cls d = true) → c ∉ chars := by
    intro chars hchars hmem
    rw [hchars c hmem] at hc
    cases hc
  have hmem : (taken, c :: rest) ∈ (spans cls (taken ++ c :: rest)).reverse :=
    List.mem_reverse.2 (mem_spans.2 ⟨hne, hcls, rfl⟩)
  refine findSome?_eq_of_forall hmem ?_
  intro span hspan hother
  rw [Option.eq_none_iff_forall_ne_some]
  intro a ha
  obtain ⟨rest', hrest⟩ := hk span.1 span.2 a ha
  obtain ⟨-, hall, heq⟩ := mem_spans.1 (List.mem_reverse.1 hspan)
  rw [hrest] at heq
  obtain ⟨htaken, htail⟩ := append_cons_inj (hnot hcls) (hnot hall) heq
  exact hother (Prod.ext htaken.symm (hrest.trans (congrArg (c :: ·) htail.symm)))

theorem exactly_append {n : Nat} {cls : Char → Bool} {k : List Char → Matcher α} {taken rest : List Char}
    (hlength : taken.length = n) (hcls : ∀ c ∈ taken, cls c = true) : exactly n cls k (taken ++ rest) = k taken rest := by
  subst hlength
  rw [exactly, List.take_left, List.drop_left, if_pos ⟨rfl, List.all_eq_true.2 hcls⟩]

/-! ### The end of the text -/

/-- What `$` matches before. -/
def IsEnding (cs : List Char) : Prop := cs = [] ∨ cs = ['\n']

theorem atEnd_eq_some {a b : α} {cs : List Char} (h : atEnd a cs = some b) : IsEnding cs ∧ a = b := by
  rw [atEnd] at h
  split at h
  · exact ⟨‹_›, Option.some.inj h⟩
  · cases h

theorem atEnd_of_isEnding {a : α} {cs : List Char} (h : IsEnding cs) : atEnd a cs = some a := if_pos h

/-- A text that does not end in a line break is the same with what `$` leaves after it. -/
theorem append_ending_inj {left right ending ending' : List Char} (hleft : left.getLast? ≠ some '\n')
    (hright : right.getLast? ≠ some '\n') (hending : IsEnding ending) (hending' : IsEnding ending')
    (h : left ++ ending = right ++ ending') : left = right := by
  obtain rfl | rfl := hending <;> obtain rfl | rfl := hending'
  · rwa [List.append_nil, List.append_nil] at h
  · rw [List.append_nil] at h
    exact absurd (by rw [h, List.getLast?_concat]) hleft
  · rw [List.append_nil] at h
    exact absurd (by rw [← h, List.getLast?_concat]) hright
  · exact List.append_cancel_right h

/-- Before a literal at the end a repetition has only one way, though its class may have the characters of the literal. -/
theorem plus_append_lit_atEnd {cls : Char → Bool} {f : List Char → α} {taken text ending : List Char} (hne : taken ≠ [])
    (hcls : ∀ c ∈ taken, cls c = true) (htext : text ≠ []) (hlast : text.getLast? ≠ some '\n') (hending : IsEnding ending) :
    plus cls (fun taken => lit text (atEnd (f taken))) (taken ++ (text ++ ending)) = some (f taken) := by
  have hlasts : ∀ front : List Char, (front ++ text).getLast? ≠ some '\n' := fun front => by
    rwa [List.getLast?_append_of_ne_nil front htext]
  have hmem : (taken, text ++ ending) ∈ (spans cls (taken ++ (text ++ ending))).reverse :=
    List.mem_reverse.2 (mem_spans.2 ⟨hne, hcls, rfl⟩)
  rw [plus, findSome?_eq_of_forall hmem]
  · rw [lit_append, atEnd_of_isEnding hending]
  · intro span hspan hother
    rw [Option.eq_none_iff_forall_ne_some]
    intro a ha
    obtain ⟨rest, hrest, hend⟩ := lit_eq_some ha
    obtain ⟨hending', -⟩ := atEnd_eq_some hend
    obtain ⟨-, -, heq⟩ := mem_spans.1 (List.mem_reverse.1 hspan)
    rw [hrest, ← List.append_assoc, ← List.append_assoc] at heq
    have hfront := append_ending_inj (hlasts taken) (hlasts span.1) hending hending' heq
    have hrest' : ending = rest := by
      rw [hfront] at heq
      exact List.append_cancel_left heq
    exact hother (Prod.ext (List.append_cancel_right hfront).symm (by rw [hrest, hrest']))

end Pattern
