/-
**Texts with numbered gaps.**

The text of a statement is a fixed text with gaps, and each gap is filled by the placeholder of the
next parameter.  A *template* is such a text before it is filled.  Two facts about a template are
enough to read the placeholders back from the filled text: no gap stands directly in front of a
digit, so that a number ends where its placeholder does, and no dollar sign stands in the fixed
text, so that every dollar sign belongs to a placeholder.

Main definitions:

* `SqlFilter.placeholderNumbers`: the numbers behind the dollar signs of a text;
* `SqlFilter.Template`, `SqlFilter.Template.fill`: a text with gaps, and the text with the gaps
  filled from an offset on;
* `SqlFilter.Template.fillAll`: the same for texts that stand one behind the other;
* `SqlFilter.Template.Sound`: the two facts, the second one up to a source of dollar signs.

Main results:

* `SqlFilter.placeholderNumbers_append`, `SqlFilter.placeholderNumbers_intercalate`: the numbers in
  texts that stand one behind the other;
* `SqlFilter.Template.intercalate_fillAll`: filled texts, joined, are the joined template, filled;
* `SqlFilter.Template.placeholderNumbers_fill`: **the numbers in a filled text** are those behind
  the offset, in order.
-/

import SqlFilter.Condition.Predicate
import SqlFilter.Proofs.Number.Digits

set_option relaxedAutoImplicit false
set_option autoImplicit false

namespace SqlFilter

open SqlFilter.Number (takeWhile_isDigit_append)

/-! ### Placeholders in a text -/

/-- The numbers behind the dollar signs of a text, from left to right; a dollar sign without digits
counts as zero, which is the number of no placeholder. -/
def placeholderNumbers : List Char → List Nat
  | [] => []
  | c :: cs =>
      if c = '$' then Nat.ofDigitChars 10 (cs.takeWhile Char.isDigit) 0 :: placeholderNumbers cs
      else placeholderNumbers cs

@[simp] theorem placeholderNumbers_nil : placeholderNumbers [] = [] := rfl

/-- A text without dollar signs has no placeholders. -/
theorem placeholderNumbers_append_of_not_mem {cs : List Char} (h : '$' ∉ cs) (rest : List Char) :
    placeholderNumbers (cs ++ rest) = placeholderNumbers rest := by
  induction cs with
  | nil => rfl
  | cons c cs ih =>
      simp only [List.mem_cons, not_or] at h
      rw [List.cons_append, placeholderNumbers, if_neg (Ne.symm h.1), ih h.2]

theorem placeholderNumbers_eq_nil {cs : List Char} (h : '$' ∉ cs) : placeholderNumbers cs = [] := by
  rw [← List.append_nil cs, placeholderNumbers_append_of_not_mem h, placeholderNumbers_nil]

/-- The placeholders of two texts, when the number at the end of the first one does not go on. -/
theorem placeholderNumbers_append (cs : List Char) {rest : List Char}
    (h : ∀ c ∈ rest.head?, c.isDigit = false) :
    placeholderNumbers (cs ++ rest) = placeholderNumbers cs ++ placeholderNumbers rest := by
  induction cs with
  | nil => rfl
  | cons c cs ih =>
      rw [List.cons_append, placeholderNumbers, placeholderNumbers, ih,
        takeWhile_isDigit_append cs h]
      split <;> rfl

/-- The placeholders of joined texts, when the separator does not start with a digit. -/
theorem placeholderNumbers_intercalate {c : Char} {cs : List Char} (hdigit : c.isDigit = false)
    (hsep : '$' ∉ c :: cs) (parts : List (List Char)) :
    placeholderNumbers ((c :: cs).intercalate parts) = parts.flatMap placeholderNumbers := by
  induction parts with
  | nil => rfl
  | cons part parts ih =>
      cases parts with
      | nil => simp
      | cons next parts =>
          rw [List.intercalate_cons_cons, List.append_assoc,
            placeholderNumbers_append part (by simpa using hdigit),
            placeholderNumbers_append_of_not_mem hsep, ih]
          rfl

theorem toList_placeholder (offset : Nat) :
    (placeholder offset).toList = '$' :: Nat.toDigits 10 (offset + 1) := by
  simp [placeholder]

/-- A placeholder reads back. -/
theorem placeholderNumbers_toList_placeholder (offset : Nat) :
    placeholderNumbers (placeholder offset).toList = [offset + 1] := by
  have hdigits : ∀ c ∈ Nat.toDigits 10 (offset + 1), c.isDigit = true :=
    fun c hc => Nat.isDigit_of_mem_toDigits (by decide) (by decide) hc
  have hdollar : '$' ∉ Nat.toDigits 10 (offset + 1) := fun hmem =>
    absurd (hdigits _ hmem) (by decide)
  rw [toList_placeholder, ← List.append_nil (Nat.toDigits 10 (offset + 1)), placeholderNumbers,
    if_pos rfl, List.takeWhile_append_of_pos hdigits, List.takeWhile_nil, List.append_nil,
    Nat.ofDigitChars_ten_toDigits, placeholderNumbers_eq_nil hdollar]

/-- A placeholder reads back, when no digit follows it. -/
theorem placeholderNumbers_placeholder (offset : Nat) {rest : List Char}
    (h : ∀ c ∈ rest.head?, c.isDigit = false) :
    placeholderNumbers ((placeholder offset).toList ++ rest) =
      (offset + 1) :: placeholderNumbers rest := by
  rw [placeholderNumbers_append _ h, placeholderNumbers_toList_placeholder, List.singleton_append]

/-! ### Templates -/

/-- A text with gaps: its characters, and nothing where a placeholder belongs. -/
abbrev Template := List (Option Char)

namespace Template

/-- A text without gaps. -/
def ofText (cs : List Char) : Template := cs.map some

/-- A gap and nothing else. -/
def gap : Template := [none]

/-- How many gaps there are. -/
def gaps (t : Template) : Nat := t.count none

/-- The text, with the gaps filled by the placeholders behind `offset` others. -/
def fill (offset : Nat) : Template → List Char
  | [] => []
  | some c :: t => c :: fill offset t
  | none :: t => (placeholder offset).toList ++ fill (offset + 1) t

/-- The texts of templates that stand one behind the other. -/
def fillAll (offset : Nat) : List Template → List (List Char)
  | [] => []
  | t :: ts => t.fill offset :: fillAll (offset + t.gaps) ts

@[simp] theorem gaps_nil : gaps [] = 0 := rfl

@[simp] theorem gaps_gap : gaps gap = 1 := rfl

@[simp] theorem gaps_ofText (cs : List Char) : gaps (ofText cs) = 0 := by
  simp [gaps, ofText, List.count_eq_zero]

@[simp] theorem gaps_append (s t : Template) : gaps (s ++ t) = gaps s + gaps t := by
  simp [gaps]

@[simp] theorem fill_nil (offset : Nat) : fill offset [] = [] := rfl

@[simp] theorem fill_gap (offset : Nat) : fill offset gap = (placeholder offset).toList := by
  simp [gap, fill]

@[simp] theorem fill_ofText (offset : Nat) (cs : List Char) : fill offset (ofText cs) = cs := by
  induction cs with
  | nil => rfl
  | cons c cs ih => simpa [ofText, fill] using ih

/-- The gaps of the second template are numbered behind those of the first. -/
@[simp] theorem fill_append (offset : Nat) (s t : Template) :
    fill offset (s ++ t) = fill offset s ++ fill (offset + gaps s) t := by
  induction s generalizing offset with
  | nil => simp
  | cons a s ih =>
      cases a with
      | some c => simp [fill, ih, gaps]
      | none =>
          have h : offset + 1 + gaps s = offset + gaps (none :: s) := by
            simp only [gaps, List.count_cons_self]
            omega
          simp [fill, ih, h]

@[simp] theorem fillAll_nil (offset : Nat) : fillAll offset [] = [] := rfl

@[simp] theorem fillAll_append (offset : Nat) (ss ts : List Template) :
    fillAll offset (ss ++ ts) = fillAll offset ss ++ fillAll (offset + gaps ss.flatten) ts := by
  induction ss generalizing offset with
  | nil => simp
  | cons s ss ih => simp [fillAll, ih, Nat.add_assoc]

@[simp] theorem fillAll_eq_nil_iff (offset : Nat) (ts : List Template) :
    fillAll offset ts = [] ↔ ts = [] := by
  cases ts <;> simp [fillAll]

/-- A separator adds no gaps. -/
theorem gaps_intercalate (sep : List Char) (ts : List Template) :
    gaps ((ofText sep).intercalate ts) = gaps ts.flatten := by
  induction ts with
  | nil => rfl
  | cons t ts ih =>
      cases ts with
      | nil => simp
      | cons u us => rw [List.intercalate_cons_cons]; simpa using ih

/-- Filled texts, joined, are the joined template, filled. -/
theorem intercalate_fillAll (sep : List Char) (offset : Nat) (ts : List Template) :
    sep.intercalate (fillAll offset ts) = fill offset ((ofText sep).intercalate ts) := by
  induction ts generalizing offset with
  | nil => rfl
  | cons t ts ih =>
      cases ts with
      | nil => simp [fillAll]
      | cons u us =>
          have ih' := ih (offset + gaps t)
          simp only [fillAll] at ih' ⊢
          rw [List.intercalate_cons_cons, List.intercalate_cons_cons, ih']
          simp

/-! ### Reading placeholders back -/

/-- No digit stands at the front. -/
def NoDigitFirst (t : Template) : Prop := ∀ c, t.head? = some (some c) → c.isDigit = false

theorem noDigitFirst_ofText {cs : List Char} (h : ∀ c ∈ cs.head?, c.isDigit = false) :
    NoDigitFirst (ofText cs) := by
  intro c hc
  refine h c ?_
  simpa [ofText] using hc

/-- No gap stands directly in front of a digit. -/
def Separated : Template → Prop
  | [] => True
  | some _ :: t => Separated t
  | none :: t => NoDigitFirst t ∧ Separated t

theorem separated_ofText_append (cs : List Char) (t : Template) :
    Separated (ofText cs ++ t) ↔ Separated t := by
  induction cs with
  | nil => exact Iff.rfl
  | cons c cs ih => exact ih

theorem Separated.append {s t : Template} (hs : Separated s) (ht : Separated t)
    (hfirst : NoDigitFirst t) : Separated (s ++ t) := by
  induction s with
  | nil => exact ht
  | cons a s ih =>
      cases a with
      | some c => exact ih hs
      | none =>
          refine ⟨?_, ih hs.2⟩
          cases s with
          | nil => exact hfirst
          | cons b s => exact hs.1

/-- A template from which placeholders can be read back, but for dollar signs from `source`. -/
structure Sound (source : Prop) (t : Template) : Prop where
  separated : Separated t
  dollar : some '$' ∈ t → source

namespace Sound

variable {source : Prop}

theorem mono {other : Prop} {t : Template} (h : Sound source t) (himp : source → other) :
    Sound other t := ⟨h.separated, fun hmem => himp (h.dollar hmem)⟩

theorem ofText {cs : List Char} (h : '$' ∈ cs → source) : Sound source (Template.ofText cs) := by
  refine ⟨by simpa using (separated_ofText_append cs []).2 trivial, fun hmem => h ?_⟩
  simpa [Template.ofText] using hmem

theorem gap : Sound source Template.gap :=
  ⟨⟨fun c h => by simp at h, trivial⟩, fun hmem => by simp [Template.gap] at hmem⟩

theorem append {s t : Template} (hs : Sound source s) (ht : Sound source t)
    (hfirst : NoDigitFirst t) : Sound source (s ++ t) :=
  ⟨hs.separated.append ht.separated hfirst, fun hmem =>
    (List.mem_append.1 hmem).elim hs.dollar ht.dollar⟩

/-- Behind a text without gaps anything may stand. -/
theorem text_append {cs : List Char} {t : Template} (hcs : '$' ∈ cs → source)
    (ht : Sound source t) : Sound source (Template.ofText cs ++ t) :=
  ⟨(separated_ofText_append cs t).2 ht.separated, fun hmem =>
    (List.mem_append.1 hmem).elim (ofText hcs).dollar ht.dollar⟩

/-- Templates joined by a text that does not start with a digit. -/
theorem intercalate {c : Char} {cs : List Char} (hdigit : c.isDigit = false)
    (hsep : '$' ∉ c :: cs) {ts : List Template} (hts : ∀ t ∈ ts, Sound source t) :
    Sound source ((Template.ofText (c :: cs)).intercalate ts) := by
  induction ts with
  | nil => exact ⟨trivial, fun hmem => by simp at hmem⟩
  | cons t ts ih =>
      have ht := hts t (by simp)
      have ih' := ih fun u hu => hts u (by simp [hu])
      cases ts with
      | nil => simpa using ht
      | cons u us =>
          rw [List.intercalate_cons_cons, List.append_assoc]
          have hfirst : NoDigitFirst (Template.ofText (c :: cs)) :=
            noDigitFirst_ofText (by simpa using hdigit)
          exact ht.append (text_append (fun h => absurd h hsep) ih') fun d hd => hfirst d hd

end Sound

/-- A filled text starts with a digit only if the template does. -/
theorem head?_fill {t : Template} (h : NoDigitFirst t) (offset : Nat) :
    ∀ c ∈ (fill offset t).head?, c.isDigit = false := by
  intro c hc
  match t with
  | [] => simp at hc
  | some d :: t =>
      have hcd : d = c := by simpa [fill] using hc
      exact h c (by simp [hcd])
  | none :: t =>
      have hcd : '$' = c := by simpa [fill, toList_placeholder] using hc
      rw [← hcd]
      decide

/-- **The numbers in a filled text** are the numbers behind the offset, one for each gap, each once
and in order. -/
theorem placeholderNumbers_fill {t : Template} (hsep : Separated t) (hdollar : some '$' ∉ t)
    (offset : Nat) : placeholderNumbers (fill offset t) = List.range' (offset + 1) (gaps t) := by
  induction t generalizing offset with
  | nil => rfl
  | cons a t ih =>
      simp only [List.mem_cons, not_or] at hdollar
      cases a with
      | some c =>
          have hc : c ≠ '$' := fun h => hdollar.1 (by rw [h])
          rw [fill, placeholderNumbers, if_neg hc, ih hsep hdollar.2]
          simp [gaps]
      | none =>
          rw [fill, placeholderNumbers_placeholder _ (head?_fill hsep.1 _), ih hsep.2 hdollar.2]
          simp [gaps, List.range'_succ]

end Template

end SqlFilter
