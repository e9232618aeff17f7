/-
**Cutting texts into pieces.**

The small operations on texts that several readers share: splitting at a separator, removing a
known ending, searching for a piece, doubling a character.

Main definitions:

* `SqlFilter.Text.splitOn`: the pieces between occurrences of a separator, empty ones included;
* `SqlFilter.Text.stripSuffix?`: the text in front of a given ending;
* `SqlFilter.Text.occursIn`: whether one text is a contiguous piece of another;
* `SqlFilter.Text.splitAtLast?`: the two sides of the last character of a class;
* `SqlFilter.Text.doubled`: every occurrence of one character written twice;
* `SqlFilter.Text.enclosed`: a text between two marks;
* `SqlFilter.Text.asciiLower`: the letters A to Z in lower case.

Main results:

* `SqlFilter.Text.intercalate_splitOn`: splitting loses nothing;
* `SqlFilter.Text.splitOn_intercalate`: pieces without the separator are found again;
* `SqlFilter.Text.splitAtLast?_append`, `SqlFilter.Text.splitAtLast?_eq_some`: where a text is split
  at its last character of a class;
* `SqlFilter.Text.stripSuffix?_eq_some_iff`: what it means to strip an ending;
* `SqlFilter.Text.occursIn_iff`: the search finds every contiguous piece.
-/

set_option relaxedAutoImplicit false
set_option autoImplicit false

namespace SqlFilter.Text

/-! ### Splitting -/

/-- The pieces of a text between the occurrences of `sep`; there is always at least one. -/
def splitOn (sep : Char) : List Char → List (List Char)
  | [] => [[]]
  | c :: cs =>
      if c = sep then [] :: splitOn sep cs
      else
        match splitOn sep cs with
        | [] => [[c]]
        | piece :: pieces => (c :: piece) :: pieces

@[simp] theorem splitOn_nil (sep : Char) : splitOn sep [] = [[]] := rfl

theorem splitOn_ne_nil (sep : Char) (cs : List Char) : splitOn sep cs ≠ [] := by
  cases cs with
  | nil => simp
  | cons c cs =>
      rw [splitOn]
      split
      · simp
      · split <;> simp

/-- The pieces, joined again by the separator, are the text. -/
theorem intercalate_splitOn (sep : Char) (cs : List Char) :
    [sep].intercalate (splitOn sep cs) = cs := by
  induction cs with
  | nil => simp
  | cons c cs ih =>
      rw [splitOn]
      have hne := splitOn_ne_nil sep cs
      by_cases hc : c = sep
      · subst hc
        rw [if_pos rfl]
        cases h : splitOn c cs with
        | nil => exact absurd h hne
        | cons p ps => rw [h] at ih; simp [List.intercalate_cons_cons, ih]
      · rw [if_neg hc]
        cases h : splitOn sep cs with
        | nil => exact absurd h hne
        | cons p ps =>
            rw [h] at ih
            cases ps with
            | nil => simpa using ih
            | cons q qs =>
                simp only [List.intercalate_cons_cons] at ih ⊢
                simpa using ih

/-- A text without the separator is one piece. -/
theorem splitOn_of_not_mem {sep : Char} {cs : List Char} (h : sep ∉ cs) :
    splitOn sep cs = [cs] := by
  induction cs with
  | nil => rfl
  | cons c cs ih =>
      simp only [List.mem_cons, not_or] at h
      rw [splitOn, if_neg (Ne.symm h.1), ih h.2]

/-- The first piece ends at the first separator. -/
theorem splitOn_append {sep : Char} {piece : List Char} (h : sep ∉ piece) (cs : List Char) :
    splitOn sep (piece ++ sep :: cs) = piece :: splitOn sep cs := by
  induction piece with
  | nil => simp [splitOn]
  | cons c piece ih =>
      simp only [List.mem_cons, not_or] at h
      rw [List.cons_append, splitOn, if_neg (Ne.symm h.1), ih h.2]

/-- Pieces without the separator, of which there is one at least, are found again. -/
theorem splitOn_intercalate {sep : Char} {pieces : List (List Char)} (hne : pieces ≠ [])
    (h : ∀ piece ∈ pieces, sep ∉ piece) : splitOn sep ([sep].intercalate pieces) = pieces := by
  induction pieces with
  | nil => exact absurd rfl hne
  | cons piece pieces ih =>
      cases pieces with
      | nil =>
          rw [List.intercalate_singleton]
          exact splitOn_of_not_mem (h piece List.mem_cons_self)
      | cons other pieces =>
          have hrest := ih (List.cons_ne_nil _ _) fun p hp => h p (List.mem_cons_of_mem piece hp)
          rw [List.intercalate_cons_cons, List.append_assoc, List.singleton_append,
            splitOn_append (h piece List.mem_cons_self), hrest]

/-- Splits a text at its last character of a class; the character itself is dropped. -/
def splitAtLast? (inClass : Char → Bool) : List Char → Option (List Char × List Char)
  | [] => none
  | c :: cs =>
      match splitAtLast? inClass cs with
      | some (front, back) => some (c :: front, back)
      | none => if inClass c then some ([], cs) else none

theorem splitAtLast?_eq_none {inClass : Char → Bool} {cs : List Char}
    (h : ∀ c ∈ cs, inClass c = false) : splitAtLast? inClass cs = none := by
  induction cs with
  | nil => rfl
  | cons c cs ih =>
      rw [splitAtLast?, ih fun d hd => h d (List.mem_cons_of_mem c hd), h c List.mem_cons_self]
      rfl

/-- A text is split at a character of the class when there is none behind it. -/
theorem splitAtLast?_append {inClass : Char → Bool} {c : Char} (hc : inClass c = true)
    {back : List Char} (hback : ∀ d ∈ back, inClass d = false) (front : List Char) :
    splitAtLast? inClass (front ++ c :: back) = some (front, back) := by
  induction front with
  | nil =>
      rw [List.nil_append, splitAtLast?, splitAtLast?_eq_none hback, hc]
      rfl
  | cons d front ih => rw [List.cons_append, splitAtLast?, ih]

/-- Where a text is split there is a character of the class, and none behind it. -/
theorem splitAtLast?_eq_some {inClass : Char → Bool} {cs front back : List Char}
    (h : splitAtLast? inClass cs = some (front, back)) :
    ∃ c, cs = front ++ c :: back ∧ inClass c = true ∧ ∀ d ∈ back, inClass d = false := by
  have hnone : ∀ cs : List Char, splitAtLast? inClass cs = none → ∀ d ∈ cs, inClass d = false := by
    intro cs hcs
    induction cs with
    | nil => simp
    | cons c cs ih =>
        rw [splitAtLast?] at hcs
        split at hcs
        · cases hcs
        · next hrest =>
            split at hcs
            · cases hcs
            · next hc => exact List.forall_mem_cons.2 ⟨Bool.eq_false_iff.2 hc, ih hrest⟩
  induction cs generalizing front with
  | nil => cases h
  | cons c cs ih =>
      rw [splitAtLast?] at h
      split at h
      · next front' back' hrest =>
          cases h
          obtain ⟨d, rfl, hd, hback⟩ := ih hrest
          exact ⟨d, rfl, hd, hback⟩
      · next hrest =>
          split at h
          · next hc =>
              cases h
              exact ⟨c, rfl, hc, hnone _ hrest⟩
          · cases h

/-! ### Endings and contents -/

/-- The text in front of the ending `suffix`, if the text has that ending. -/
def stripSuffix? (suffix : List Char) : List Char → Option (List Char)
  | [] => if suffix = [] then some [] else none
  | c :: cs => if c :: cs = suffix then some [] else (stripSuffix? suffix cs).map (c :: ·)

/-- Stripping succeeds exactly on texts with that ending, and gives what stands in front. -/
theorem stripSuffix?_eq_some_iff {suffix cs front : List Char} :
    stripSuffix? suffix cs = some front ↔ cs = front ++ suffix := by
  induction cs generalizing front with
  | nil =>
      by_cases h : suffix = []
      · subst h
        simp [stripSuffix?, eq_comm]
      · simp [stripSuffix?, h, eq_comm]
  | cons c cs ih =>
      rw [stripSuffix?]
      by_cases h : c :: cs = suffix
      · rw [if_pos h]
        constructor
        · intro hf
          simp only [Option.some.injEq] at hf
          simp [← hf, h]
        · intro hf
          have : front = [] := by
            have := congrArg List.length hf
            rw [h, List.length_append] at this
            exact List.length_eq_zero_iff.1 (by omega)
          rw [this]
      · rw [if_neg h]
        cases front with
        | nil => simp [h]
        | cons d front =>
            simp only [Option.map_eq_some_iff, List.cons.injEq, List.cons_append]
            constructor
            · rintro ⟨f, hf, rfl, rfl⟩
              exact ⟨rfl, ih.1 hf⟩
            · rintro ⟨rfl, hcs⟩
              exact ⟨front, ih.2 hcs, rfl, rfl⟩

/-- Whether `piece` stands somewhere in the text. -/
def occursIn (piece : List Char) : List Char → Bool
  | [] => piece.isEmpty
  | c :: cs => piece.isPrefixOf (c :: cs) || occursIn piece cs

/-- The search finds a piece exactly when the text can be cut around it. -/
theorem occursIn_iff (piece cs : List Char) :
    occursIn piece cs = true ↔ ∃ front back, cs = front ++ piece ++ back := by
  induction cs with
  | nil =>
      simp only [occursIn, List.isEmpty_iff]
      constructor
      · rintro rfl
        exact ⟨[], [], rfl⟩
      · rintro ⟨front, back, h⟩
        simp at h
        exact h.2.1
  | cons c cs ih =>
      simp only [occursIn, Bool.or_eq_true, List.isPrefixOf_iff_prefix, ih]
      constructor
      · rintro (⟨back, h⟩ | ⟨front, back, h⟩)
        · exact ⟨[], back, by simpa using h.symm⟩
        · exact ⟨c :: front, back, by simp [h]⟩
      · rintro ⟨front, back, h⟩
        cases front with
        | nil => exact .inl ⟨back, by simpa using h.symm⟩
        | cons d front =>
            simp only [List.cons_append, List.cons.injEq] at h
            exact .inr ⟨front, back, h.2⟩

/-! ### Letters -/

/-- Writes every occurrence of `c` twice. -/
def doubled (c : Char) : List Char → List Char
  | [] => []
  | d :: ds => if d = c then c :: c :: doubled c ds else d :: doubled c ds

@[simp] theorem doubled_nil (c : Char) : doubled c [] = [] := rfl

/-- A text without the character is written as it is. -/
theorem doubled_eq_self {c : Char} {cs : List Char} (h : c ∉ cs) : doubled c cs = cs := by
  induction cs with
  | nil => rfl
  | cons d ds ih =>
      simp only [List.mem_cons, not_or] at h
      rw [doubled, if_neg (Ne.symm h.1), ih h.2]

/-- A text with the same mark in front and behind. -/
def enclosed (mark : Char) (cs : List Char) : List Char := mark :: cs ++ [mark]

/-- Lower case for the letters A to Z, and nothing else. -/
def asciiLower (cs : List Char) : List Char := cs.map Char.toLower

/-- Only the letters A to Z have another lower case. -/
theorem toLower_eq_self {c : Char} (h : c.toNat < 65 ∨ 90 < c.toNat) : c.toLower = c := by
  refine dif_neg ?_
  intro hupper
  have hlow : 65 ≤ c.toNat := UInt32.le_iff_toNat_le.1 hupper.1
  have hhigh : c.toNat ≤ 90 := UInt32.le_iff_toNat_le.1 hupper.2
  omega

end SqlFilter.Text
