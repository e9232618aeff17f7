/-
**Blank characters and trimming.**

A character is *blank* when it carries the `White_Space` property of Unicode.  Keys, option texts
and timestamps are trimmed by this class; the class is wider than the ASCII blanks and narrower
than "invisible" (a zero-width space is not blank).

Main definitions:

* `SqlFilter.Text.isBlank`: the twenty-five blank characters;
* `SqlFilter.Text.trimStart`, `SqlFilter.Text.trimEnd`, `SqlFilter.Text.trim`: dropping the
  blanks at the ends of a text;
* `SqlFilter.Text.trimmed`: the same on strings.

Main results:

* `SqlFilter.Text.trim_eq_self_iff`: a text is unchanged by trimming exactly when neither end is
  blank;
* `SqlFilter.Text.trim_surrounded`: blanks around a text do not count;
* `SqlFilter.Text.trim_trim`: trimming twice is trimming once;
* `SqlFilter.Text.exists_blanks`: only blanks are dropped.
-/

set_option relaxedAutoImplicit false
set_option autoImplicit false

namespace SqlFilter.Text

/-! ### The class -/

/-- Blank characters: the controls from tab to carriage return, the space, next line, the no-break
space, the Ogham space, the typographic spaces, the two separators, and the ideographic space. -/
def isBlank (c : Char) : Bool :=
  let n := c.toNat
  (9 ≤ n && n ≤ 13) || n == 0x20 || n == 0x85 || n == 0xA0 || n == 0x1680 ||
    (0x2000 ≤ n && n ≤ 0x200A) || n == 0x2028 || n == 0x2029 || n == 0x202F || n == 0x205F ||
    n == 0x3000

/-- A single space is blank. -/
theorem isBlank_of_mem_space : ∀ c ∈ [' '], isBlank c = true := List.all_eq_true.1 rfl

/-! ### Trimming -/

/-- Drops the blanks in front. -/
def trimStart (cs : List Char) : List Char := cs.dropWhile isBlank

/-- Drops the blanks at the end. -/
def trimEnd : List Char → List Char
  | [] => []
  | c :: cs =>
      match trimEnd cs with
      | [] => if isBlank c then [] else [c]
      | d :: ds => c :: d :: ds

/-- Drops the blanks at both ends. -/
def trim (cs : List Char) : List Char := trimEnd (trimStart cs)

/-- Drops the blanks at both ends of a string. -/
def trimmed (s : String) : String := String.ofList (trim s.toList)

@[simp] theorem trimStart_nil : trimStart [] = [] := rfl

theorem trimStart_cons (c : Char) (cs : List Char) :
    trimStart (c :: cs) = if isBlank c then trimStart cs else c :: cs := by
  simp [trimStart, List.dropWhile_cons]

@[simp] theorem trimEnd_nil : trimEnd [] = [] := rfl

theorem trimEnd_cons (c : Char) (cs : List Char) :
    trimEnd (c :: cs) =
      if trimEnd cs = [] then (if isBlank c then [] else [c]) else c :: trimEnd cs := by
  rw [trimEnd]
  cases h : trimEnd cs <;> simp

/-- A text of blanks alone trims to nothing. -/
theorem trimEnd_eq_nil_iff (cs : List Char) :
    trimEnd cs = [] ↔ ∀ c ∈ cs, isBlank c = true := by
  induction cs with
  | nil => simp
  | cons c cs ih =>
      rw [trimEnd_cons]
      by_cases h : trimEnd cs = []
      · by_cases hc : isBlank c = true
        · simpa [h, hc] using ih.1 h
        · simp [h, hc]
      · have : ¬ ∀ d ∈ cs, isBlank d = true := fun hall => h (ih.2 hall)
        simp only [h, if_false, List.mem_cons, forall_eq_or_imp, reduceCtorEq, false_iff]
        exact fun hall => this hall.2

/-- Trimming leaves a text alone exactly when neither of its ends is blank. -/
theorem trim_eq_self_iff (cs : List Char) :
    trim cs = cs ↔
      (∀ c ∈ cs.head?, isBlank c = false) ∧ (∀ c ∈ cs.getLast?, isBlank c = false) := by
  have hend : ∀ l : List Char, trimEnd l = l ↔ ∀ c ∈ l.getLast?, isBlank c = false := by
    intro l
    induction l with
    | nil => simp
    | cons d l ih =>
        rw [trimEnd_cons]
        cases l with
        | nil => by_cases hd : isBlank d = true <;> simp [hd]
        | cons e l =>
            by_cases h : trimEnd (e :: l) = []
            · have hall := (trimEnd_eq_nil_iff _).1 h
              have hl : isBlank ((e :: l).getLast (by simp)) = true := hall _ (List.getLast_mem _)
              have hg : (e :: l).getLast? = some ((e :: l).getLast (by simp)) :=
                List.getLast?_eq_some_getLast (by simp)
              constructor
              · intro habs
                rw [if_pos h] at habs
                by_cases hd : isBlank d = true <;> simp [hd] at habs
              · intro habs
                rw [List.getLast?_cons_cons, hg] at habs
                have := habs _ rfl
                rw [hl] at this
                exact absurd this (by simp)
            · rw [if_neg h, List.getLast?_cons_cons, List.cons.injEq]
              simpa using ih
  cases cs with
  | nil => simp [trim]
  | cons d l =>
      by_cases hd : isBlank d = true
      · constructor
        · intro h
          have hlen : ∀ k : List Char, (trimEnd k).length ≤ k.length := by
            intro k
            induction k with
            | nil => simp
            | cons a k ih =>
                rw [trimEnd_cons]
                split
                · split <;> simp
                · simpa using ih
          have h1 : (trimStart l).length ≤ l.length := (List.dropWhile_sublist _).length_le
          have h2 := hlen (trimStart l)
          have h3 : trim (d :: l) = trimEnd (trimStart l) := by simp [trim, trimStart_cons, hd]
          rw [h3] at h
          have h4 := congrArg List.length h
          simp only [List.length_cons] at h4
          omega
        · intro h
          have := h.1 d rfl
          rw [hd] at this
          exact absurd this (by simp)
      · have h3 : trim (d :: l) = trimEnd (d :: l) := by simp [trim, trimStart_cons, hd]
        rw [h3, hend]
        simp [hd]

/-- A text without blanks is unchanged by trimming. -/
theorem trim_eq_self_of_forall {cs : List Char} (h : ∀ c ∈ cs, isBlank c = false) :
    trim cs = cs := by
  rw [trim_eq_self_iff]
  exact ⟨fun c hc => h c (List.mem_of_mem_head? hc), fun c hc => h c (List.mem_of_getLast? hc)⟩

/-! ### Blanks around a text -/

theorem trimStart_append_of_blank {before : List Char} (h : ∀ c ∈ before, isBlank c = true)
    (cs : List Char) : trimStart (before ++ cs) = trimStart cs :=
  List.dropWhile_append_of_pos h

theorem trimEnd_append_of_blank (cs : List Char) {behind : List Char}
    (h : ∀ c ∈ behind, isBlank c = true) : trimEnd (cs ++ behind) = trimEnd cs := by
  induction cs with
  | nil => exact (trimEnd_eq_nil_iff behind).2 h
  | cons c cs ih => rw [List.cons_append, trimEnd_cons, ih, ← trimEnd_cons]

/-- Blanks around a text do not count. -/
theorem trim_surrounded {before behind : List Char} (hbefore : ∀ c ∈ before, isBlank c = true)
    (hbehind : ∀ c ∈ behind, isBlank c = true) (cs : List Char) :
    trim (before ++ cs ++ behind) = trim cs := by
  rw [trim, List.append_assoc, trimStart_append_of_blank hbefore, trimStart,
    List.dropWhile_append]
  split
  · next hempty =>
      -- the text is blank itself, so that everything is dropped
      have hnil : trimStart cs = [] := List.isEmpty_iff.1 hempty
      have hrest : trimStart behind = [] := by
        simpa using trimStart_append_of_blank hbehind []
      rw [← trimStart, hrest, trim, hnil]
  · exact trimEnd_append_of_blank _ hbehind

theorem exists_trimEnd_append (cs : List Char) :
    ∃ behind, (∀ c ∈ behind, isBlank c = true) ∧ cs = trimEnd cs ++ behind := by
  induction cs with
  | nil => exact ⟨[], by simp, rfl⟩
  | cons c cs ih =>
      rw [trimEnd_cons]
      split
      · next hnil =>
          have hcs := (trimEnd_eq_nil_iff cs).1 hnil
          split
          · next hc => exact ⟨c :: cs, by simpa [hc] using hcs, rfl⟩
          · exact ⟨cs, hcs, rfl⟩
      · obtain ⟨behind, hbehind, hcs⟩ := ih
        exact ⟨behind, hbehind, by rw [List.cons_append, ← hcs]⟩

/-- Only blanks are dropped. -/
theorem exists_blanks (cs : List Char) :
    ∃ before behind, (∀ c ∈ before, isBlank c = true) ∧ (∀ c ∈ behind, isBlank c = true) ∧
      cs = before ++ trim cs ++ behind := by
  obtain ⟨behind, hbehind, hstart⟩ := exists_trimEnd_append (trimStart cs)
  refine ⟨cs.takeWhile isBlank, behind, ?_, hbehind, ?_⟩
  · intro c hc
    exact List.all_eq_true.1 List.all_takeWhile c hc
  · rw [List.append_assoc, trim, ← hstart]
    exact List.takeWhile_append_dropWhile.symm

/-- Trimming twice is trimming once. -/
theorem trim_trim (cs : List Char) : trim (trim cs) = trim cs := by
  obtain ⟨before, behind, hbefore, hbehind, hcs⟩ := exists_blanks cs
  have htrim := trim_surrounded hbefore hbehind (trim cs)
  rw [← hcs] at htrim
  exact htrim.symm

/-- What is trimmed at both ends is trimmed at the second one. -/
theorem trimEnd_of_trim {cs : List Char} (h : trim cs = cs) : trimEnd cs = cs := by
  have hstart : trimStart cs = cs := by
    cases cs with
    | nil => rfl
    | cons c cs =>
        have hc : isBlank c = false := ((trim_eq_self_iff _).1 h).1 c rfl
        rw [trimStart_cons, hc, if_neg Bool.false_ne_true]
  rwa [trim, hstart] at h

/-- Two trimmed texts with anything between them are a trimmed text. -/
theorem trim_between {front back : List Char} (hfront : trim front = front)
    (hback : trim back = back) (hfront_ne : front ≠ []) (hback_ne : back ≠ []) (cs : List Char) :
    trim (front ++ cs ++ back) = front ++ cs ++ back := by
  obtain ⟨c, front, rfl⟩ := List.exists_cons_of_ne_nil hfront_ne
  obtain ⟨d, back, rfl⟩ := List.exists_cons_of_ne_nil hback_ne
  rw [trim_eq_self_iff]
  constructor
  · intro e he
    exact ((trim_eq_self_iff _).1 hfront).1 e he
  · intro e he
    rw [List.getLast?_append, List.getLast?_cons, Option.some_or] at he
    refine ((trim_eq_self_iff _).1 hback).2 e ?_
    rwa [List.getLast?_cons]

end SqlFilter.Text
