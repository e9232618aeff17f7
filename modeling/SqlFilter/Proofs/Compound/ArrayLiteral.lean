/-
**Array literals and their elements.**

The server writes an array as its elements between braces, with commas between them.  A text may
always be put in quotes, with a backslash in front of every quote and backslash in it, and may stand
bare when it has none of the characters that mean something; an array in an array is its own
literal.  Splitting such a literal gives back the elements, and an array among them as its literal,
so that it can be split in turn.

The proof follows the scanner.  An element in quotes is unescaped up to its closing quote.  Any
other element is passed over without a change, and what carries this through nested literals is that
every piece of a literal leaves the scanner in the nesting it found it in, and never shows it a
comma outside of everything.

Main definitions:

* `SqlFilter.Compound.ArrayElement`: an element as it is written;
* `SqlFilter.Compound.ArrayElement.written`, `SqlFilter.Compound.arrayLiteral`: the texts;
* `SqlFilter.Compound.ArrayElement.content`: what an element stands for;
* `SqlFilter.Compound.Nested`, `SqlFilter.Compound.Recovers`: a nested list, and reading one by
  splitting again and again;
* `SqlFilter.Compound.Passes`: a text that takes the scanner from one nesting to another.

Main results:

* `SqlFilter.Compound.passes_written`: every element is passed over whole;
* `SqlFilter.Compound.elements_intercalate`, `SqlFilter.Compound.elements_joined`: text between
  elements is split at its commas;
* `SqlFilter.Compound.decodeArray_arrayLiteral`: **splitting undoes writing**.
-/

import Mathlib.Data.List.Forall2
import SqlFilter.Compound.Basic

set_option relaxedAutoImplicit false
set_option autoImplicit false

namespace SqlFilter.Compound

/-! ### Written elements -/

/-- A backslash in front of every quote and every backslash. -/
def escaped : List Char → List Char
  | [] => []
  | c :: cs => if c = '"' ∨ c = '\\' then '\\' :: c :: escaped cs else c :: escaped cs

/-- Whether a character means something in an array literal. -/
def isSpecial (c : Char) : Bool :=
  c == '{' || c == '}' || c == ',' || c == '"' || c == '\\'

/-- Whether a text may stand bare. -/
def isPlain (cs : List Char) : Bool :=
  cs ≠ [] && cs ≠ Kind.array.nullText && cs.all fun c => !isSpecial c

/-- An element of an array, with the way it is written. -/
inductive ArrayElement where
  | null
  | quoted (text : String)
  | bare (text : String) (plain : isPlain text.toList = true)
  | nested (elements : List ArrayElement)

/-- A list nested to any depth. -/
inductive Nested where
  | null
  | text (text : String)
  | list (items : List Nested)

/-- Text between braces. -/
def braced (cs : List Char) : List Char := '{' :: cs ++ ['}']

/-- An element in quotes. -/
def quotedText (cs : List Char) : List Char := '"' :: escaped cs ++ ['"']

mutual

/-- The text of an element. -/
def ArrayElement.written : ArrayElement → List Char
  | .null => Kind.array.nullText
  | .quoted text => quotedText text.toList
  | .bare text _ => text.toList
  | .nested elements => braced ([','].intercalate (writtenAll elements))

/-- The texts of elements. -/
def writtenAll : List ArrayElement → List (List Char)
  | [] => []
  | e :: es => e.written :: writtenAll es

end

mutual

/-- The list that an element spells, whichever way it is written. -/
def ArrayElement.nestedValue : ArrayElement → Nested
  | .null => .null
  | .quoted text => .text text
  | .bare text _ => .text text
  | .nested elements => .list (nestedValues elements)

/-- The same for elements. -/
def nestedValues : List ArrayElement → List Nested
  | [] => []
  | e :: es => e.nestedValue :: nestedValues es

end

/-- The literal of an array. -/
def arrayLiteral (elements : List ArrayElement) : String :=
  String.ofList (ArrayElement.nested elements).written

/-- What an element stands for: nothing for null, its text for a text, and the literal of an array
for an array. -/
def ArrayElement.content : ArrayElement → Option String
  | .null => none
  | .quoted text => some text
  | .bare text _ => some text
  | .nested elements => some (arrayLiteral elements)

/-- Reading a nested list: an array is split, and its elements are read in turn. -/
inductive Recovers : Option String → Nested → Prop
  | null : Recovers none .null
  | text (text : String) : Recovers (some text) (.text text)
  | list {literal : String} {elements : List (Option String)} {items : List Nested} :
      decodeArray literal = .ok elements → List.Forall₂ Recovers elements items →
      Recovers (some literal) (.list items)

/-! ### Quoted elements -/

theorem takeQuoted?_quote (rest : List Char) :
    takeQuoted? .array ('"' :: rest) = some ([], rest) := by
  cases rest with
  | nil => rfl
  | cons c cs =>
      by_cases hc : c = '"'
      · subst hc
        simp [takeQuoted?]
      · rw [takeQuoted?]
        intro cs' heq
        simp only [List.cons.injEq] at heq
        exact hc heq.1

theorem takeQuoted?_escape (kind : Kind) (c : Char) (cs : List Char) :
    takeQuoted? kind ('\\' :: c :: cs) =
      (takeQuoted? kind cs).map fun (element, rest) => (c :: element, rest) := by
  rw [takeQuoted?]

theorem takeQuoted?_ordinary (kind : Kind) {c : Char} (hquote : c ≠ '"') (hslash : c ≠ '\\')
    (cs : List Char) :
    takeQuoted? kind (c :: cs) =
      (takeQuoted? kind cs).map fun (element, rest) => (c :: element, rest) := by
  rw [takeQuoted?]
  · intro h
    exact absurd h hslash
  · intro _ _ h _
    exact hslash h
  · intro _ h _
    exact hquote h
  · exact hquote

/-- An element in quotes is unescaped up to its closing quote. -/
theorem takeQuoted?_escaped (text rest : List Char) :
    takeQuoted? .array (escaped text ++ '"' :: rest) = some (text, rest) := by
  induction text with
  | nil => exact takeQuoted?_quote rest
  | cons c cs ih =>
      rw [escaped]
      split
      · rw [List.cons_append, List.cons_append, takeQuoted?_escape, ih]
        rfl
      · next h =>
          rw [not_or] at h
          rw [List.cons_append, takeQuoted?_ordinary _ h.1 h.2, ih]
          rfl

/-! ### Passing over an element -/

/-- The scanner of bare elements goes over the whole text, from one nesting to the other. -/
def Passes (m n : Nesting) (text : List Char) : Prop :=
  ∀ rest, takeBare .array m (text ++ rest) =
    (text ++ (takeBare .array n rest).1, (takeBare .array n rest).2)

theorem Passes.nil (n : Nesting) : Passes n n [] := fun _ => rfl

theorem Passes.append {l m n : Nesting} {xs ys : List Char} (hxs : Passes l m xs)
    (hys : Passes m n ys) : Passes l n (xs ++ ys) := by
  intro rest
  rw [List.append_assoc, hxs, hys, List.append_assoc]

/-- One character, if the element does not end at it. -/
theorem Passes.char {m n : Nesting} {c : Char} (hgo : ¬(c = ',' ∧ m.isOutside = true))
    (hstep : m.step .array c = n) : Passes m n [c] := by
  intro rest
  rw [List.singleton_append, takeBare, if_neg hgo, hstep]
  rfl

/-- Text without special characters changes nothing. -/
theorem passes_plain (d : Nat) {cs : List Char} (h : ∀ c ∈ cs, isSpecial c = false) :
    Passes ⟨d, false, false⟩ ⟨d, false, false⟩ cs := by
  induction cs with
  | nil => exact Passes.nil _
  | cons c cs ih =>
      have hc := h c (by simp)
      simp only [isSpecial, Bool.or_eq_false_iff, beq_eq_false_iff_ne] at hc
      obtain ⟨⟨⟨⟨hopen, hclose⟩, hcomma⟩, hquote⟩, hslash⟩ := hc
      refine (Passes.char (fun hgo => hcomma hgo.1) ?_).append (ih fun e he => h e (by simp [he]))
      simp [Nesting.step, hopen, hclose, hquote, hslash]

/-- Escaped text stays within its quotes. -/
theorem passes_escaped (d : Nat) (cs : List Char) :
    Passes ⟨d, true, false⟩ ⟨d, true, false⟩ (escaped cs) := by
  -- within quotes a comma ends nothing, so no character has to be looked at for that
  have hquotes : ∀ c, ¬(c = ',' ∧ Nesting.isOutside ⟨d, true, false⟩ = true) := by
    simp [Nesting.isOutside]
  induction cs with
  | nil => exact Passes.nil _
  | cons c cs ih =>
      rw [escaped]
      split
      · have hslash : Passes ⟨d, true, false⟩ ⟨d, true, true⟩ ['\\'] :=
          Passes.char (hquotes _) (by simp [Nesting.step])
        have hchar : Passes ⟨d, true, true⟩ ⟨d, true, false⟩ [c] :=
          Passes.char (by simp [Nesting.isOutside]) (by simp [Nesting.step])
        exact (hslash.append hchar).append ih
      · next h =>
          rw [not_or] at h
          exact (Passes.char (hquotes c) (by simp [Nesting.step, h.1, h.2])).append ih

theorem passes_quotedText (d : Nat) (cs : List Char) :
    Passes ⟨d, false, false⟩ ⟨d, false, false⟩ (quotedText cs) := by
  have hopen : Passes ⟨d, false, false⟩ ⟨d, true, false⟩ ['"'] :=
    Passes.char (by simp) (by simp [Nesting.step])
  have hclose : Passes ⟨d, true, false⟩ ⟨d, false, false⟩ ['"'] :=
    Passes.char (by simp) (by simp [Nesting.step])
  exact (hopen.append (passes_escaped d cs)).append hclose

/-- Within braces a comma ends no element. -/
theorem passes_comma (d : Nat) : Passes ⟨d + 1, false, false⟩ ⟨d + 1, false, false⟩ [','] :=
  Passes.char (by simp [Nesting.isOutside]) (by simp [Nesting.step])

/-- Text that is passed over within braces is passed over with them. -/
theorem Passes.braced {d : Nat} {cs : List Char}
    (h : Passes ⟨d + 1, false, false⟩ ⟨d + 1, false, false⟩ cs) :
    Passes ⟨d, false, false⟩ ⟨d, false, false⟩ (Compound.braced cs) := by
  have hopen : Passes ⟨d, false, false⟩ ⟨d + 1, false, false⟩ ['{'] :=
    Passes.char (by simp) (by simp [Nesting.step])
  have hclose : Passes ⟨d + 1, false, false⟩ ⟨d, false, false⟩ ['}'] :=
    Passes.char (by simp) (by simp [Nesting.step])
  exact (hopen.append h).append hclose

theorem not_isSpecial_of_isPlain {cs : List Char} (h : isPlain cs = true) :
    ∀ c ∈ cs, isSpecial c = false := by
  simp only [isPlain, Bool.and_eq_true, List.all_eq_true, Bool.not_eq_true'] at h
  exact h.2

mutual

/-- Every element is passed over whole, at any depth. -/
theorem passes_written (d : Nat) :
    (e : ArrayElement) → Passes ⟨d, false, false⟩ ⟨d, false, false⟩ e.written
  | .null => passes_plain d (by simp [ArrayElement.written, Kind.nullText, isSpecial])
  | .quoted text => by
      rw [ArrayElement.written]
      exact passes_quotedText d text.toList
  | .bare text plain => by
      rw [ArrayElement.written]
      exact passes_plain d (not_isSpecial_of_isPlain plain)
  | .nested elements => by
      -- the elements of a nested array stand one level deeper, where commas are passed over
      rw [ArrayElement.written]
      exact (passes_joined d elements).braced

/-- Elements with commas between them are passed over whole within braces. -/
theorem passes_joined (d : Nat) :
    (es : List ArrayElement) →
      Passes ⟨d + 1, false, false⟩ ⟨d + 1, false, false⟩ ([','].intercalate (writtenAll es))
  | [] => Passes.nil _
  | [e] => by
      rw [writtenAll, writtenAll, List.intercalate_singleton]
      exact passes_written (d + 1) e
  | e :: e' :: es => by
      have hrest := passes_joined d (e' :: es)
      rw [writtenAll] at hrest ⊢
      rw [writtenAll, List.intercalate_cons_cons]
      exact ((passes_written (d + 1) e).append (passes_comma d)).append hrest

end

/-! ### Splitting -/

/-- What follows an element: nothing, or a comma. -/
def EndsElement (rest : List Char) : Prop := rest = [] ∨ rest.head? = some ','

theorem takeBare_of_endsElement {rest : List Char} (h : EndsElement rest) :
    takeBare .array .outside rest = ([], rest) := by
  cases rest with
  | nil => rfl
  | cons c cs =>
      have hc : c = ',' := by simpa [EndsElement] using h
      rw [takeBare, if_pos ⟨hc, rfl⟩]

theorem takeBare_written (e : ArrayElement) {rest : List Char} (h : EndsElement rest) :
    takeBare .array .outside (e.written ++ rest) = (e.written, rest) := by
  have hpasses : Passes .outside .outside e.written := passes_written 0 e
  rw [hpasses, takeBare_of_endsElement h]
  simp

theorem takeElement_of_head?_ne {text cs : List Char} (h : cs.head? ≠ some '"') :
    takeElement .array text cs =
      .ok (bareElement .array (takeBare .array .outside cs).1,
        (takeBare .array .outside cs).2) := by
  rw [takeElement]
  intro quoted heq
  rw [heq] at h
  exact h rfl

/-- An element is taken up to its end, as what it stands for. -/
theorem takeElement_written (text : List Char) (e : ArrayElement) {rest : List Char}
    (h : EndsElement rest) :
    takeElement .array text (e.written ++ rest) = .ok (e.content.map String.toList, rest) := by
  -- all but elements in quotes are taken by the scanner of bare elements, as they stand
  have hbare : ∀ cs : List Char, e.written = cs → cs ≠ [] → cs.head? ≠ some '"' →
      takeElement .array text (e.written ++ rest) = .ok (bareElement .array cs, rest) := by
    intro cs hcs hne hhead
    have hhead' : (e.written ++ rest).head? ≠ some '"' := by
      rw [List.head?_append_of_ne_nil _ (hcs ▸ hne), hcs]
      exact hhead
    rw [takeElement_of_head?_ne hhead', takeBare_written e h, hcs]
  cases e with
  | null => exact hbare Kind.array.nullText (by rw [ArrayElement.written]) (by decide) (by decide)
  | quoted s =>
      rw [ArrayElement.written, quotedText]
      simp [takeElement, takeQuoted?_escaped, ArrayElement.content]
  | bare s plain =>
      have hspecial := not_isSpecial_of_isPlain plain
      simp only [isPlain, Bool.and_eq_true, decide_eq_true_eq] at plain
      obtain ⟨⟨hne, hnull⟩, -⟩ := plain
      have hhead : s.toList.head? ≠ some '"' := fun hs =>
        absurd (hspecial _ (List.mem_of_mem_head? hs)) (by decide)
      rw [hbare s.toList (by rw [ArrayElement.written]) hne hhead, bareElement, if_neg hnull]
      rfl
  | nested es =>
      have hwritten : (ArrayElement.nested es).written =
          braced ([','].intercalate (writtenAll es)) := by
        rw [ArrayElement.written]
      rw [hbare _ hwritten (by simp [braced]) (by simp [braced]), bareElement, if_neg]
      · rw [← hwritten]
        simp [ArrayElement.content, arrayLiteral]
      · simp [braced, Kind.nullText]

/-- No element is written as nothing. -/
theorem written_ne_nil (e : ArrayElement) : e.written ≠ [] := by
  cases e with
  | null => simp [ArrayElement.written, Kind.nullText]
  | quoted s => simp [ArrayElement.written, quotedText]
  | bare s plain =>
      rw [ArrayElement.written]
      intro hs
      rw [hs] at plain
      exact absurd plain (by decide)
  | nested es => simp [ArrayElement.written, braced]

/-- Written elements with commas between them are split into what they stand for, if each of them
is taken whole in front of a comma and at the end. -/
theorem elements_intercalate {α : Type} {kind : Kind} {text : List Char} {written : α → List Char}
    {content : α → Option (List Char)}
    (htake : ∀ a rest, EndsElement rest →
      takeElement kind text (written a ++ rest) = .ok (content a, rest)) (a : α) (as : List α) :
    elements kind text ([','].intercalate ((a :: as).map written)) =
      .ok ((a :: as).map content) := by
  induction as generalizing a with
  | nil =>
      have hlast := htake a [] (Or.inl rfl)
      rw [List.append_nil] at hlast
      rw [List.map_singleton, List.intercalate_singleton, elements]
      split
      · next h => rw [hlast] at h; cases h
      · next h => rw [hlast] at h; cases h; rfl
      · next h => rw [hlast] at h; cases h
  | cons b bs ih =>
      -- what follows the comma is the text of the other elements
      have hcomma : EndsElement (',' :: [','].intercalate ((b :: bs).map written)) := Or.inr rfl
      have hfirst := htake a _ hcomma
      have htext : [','].intercalate ((a :: b :: bs).map written) =
          written a ++ ',' :: [','].intercalate ((b :: bs).map written) := by
        simp [List.intercalate_cons_cons]
      rw [htext, elements]
      split
      · next h => rw [hfirst] at h; cases h
      · next h => rw [hfirst] at h; cases h
      · next h =>
          rw [hfirst] at h
          cases h
          rw [if_pos rfl, ih b]
          rfl

theorem writtenAll_eq_map (es : List ArrayElement) :
    writtenAll es = es.map ArrayElement.written := by
  induction es with
  | nil => rw [writtenAll, List.map_nil]
  | cons e es ih => rw [writtenAll, ih, List.map_cons]

/-- Text between elements is split at its commas, each element as what it stands for. -/
theorem elements_joined (text : List Char) (e : ArrayElement) (es : List ArrayElement) :
    elements .array text ([','].intercalate (writtenAll (e :: es))) =
      .ok ((e :: es).map fun e => e.content.map String.toList) := by
  rw [writtenAll_eq_map]
  exact elements_intercalate (fun a rest => takeElement_written text a) e es

theorem inner?_braced (cs : List Char) : inner? .array (braced cs) = some cs := by
  simp [braced, inner?, Kind.opening, Kind.closing]

theorem intercalate_writtenAll_ne_nil (e : ArrayElement) (es : List ArrayElement) :
    [','].intercalate (writtenAll (e :: es)) ≠ [] := by
  cases es with
  | nil =>
      rw [writtenAll, writtenAll, List.intercalate_singleton]
      exact written_ne_nil e
  | cons e' es =>
      rw [writtenAll, writtenAll, List.intercalate_cons_cons]
      simp

theorem split_literal (text : List Char) (es : List ArrayElement)
    (h : text = braced ([','].intercalate (writtenAll es))) :
    split .array text = .ok (es.map fun e => e.content.map String.toList) := by
  have hinner : inner? .array text = some ([','].intercalate (writtenAll es)) := by
    rw [h, inner?_braced]
  rw [split, hinner]
  cases es with
  | nil => rfl
  | cons e es =>
      simp only [intercalate_writtenAll_ne_nil, and_false, if_false]
      exact elements_joined text e es

/-- One split gives the elements of the array. -/
theorem decodeArray_eq_content (es : List ArrayElement) :
    decodeArray (arrayLiteral es) = .ok (es.map ArrayElement.content) := by
  have hsplit := split_literal (arrayLiteral es).toList es (by
    rw [arrayLiteral, String.toList_ofList, ArrayElement.written])
  have hmap : (es.map fun e => e.content.map String.toList).map elementText =
      es.map ArrayElement.content := by
    rw [List.map_map]
    refine List.map_congr_left fun e _ => ?_
    cases hcontent : e.content with
    | none => simp [elementText, hcontent]
    | some text => simp [elementText, hcontent]
  rw [decodeArray, hsplit]
  exact congrArg Except.ok hmap

/-! ### Reading the elements -/

/-- Texts that are read as what they were written from are so in the elements of an array, too. -/
theorem readPresent_map_of_mem {α β : Type} {read : String → Except Error β} {write : α → String}
    {value : α → β} {items : List (Option α)}
    (h : ∀ a, some a ∈ items → read (write a) = .ok (value a)) :
    readPresent read (items.map fun item => item.map write) =
      .ok (items.map fun item => item.map value) := by
  induction items with
  | nil => rfl
  | cons item items ih =>
      have hrest := ih fun a ha => h a (List.mem_cons_of_mem item ha)
      cases item with
      | none => simp [readPresent, hrest]
      | some a => simp [readPresent, hrest, h a List.mem_cons_self]

theorem readPresent_map {α β : Type} {read : String → Except Error β} {write : α → String}
    {value : α → β} (h : ∀ a, read (write a) = .ok (value a)) (items : List (Option α)) :
    readPresent read (items.map fun item => item.map write) =
      .ok (items.map fun item => item.map value) :=
  readPresent_map_of_mem fun a _ => h a

/-- Reading ends at the first element that is not read, with its error. -/
theorem readPresent_map_of_error {α β : Type} {read : String → Except Error β}
    {write : α → String} {value : α → β} {front : List (Option α)}
    (hfront : ∀ a, some a ∈ front → read (write a) = .ok (value a)) {a : α} {e : Error}
    (ha : read (write a) = .error e) (behind : List (Option α)) :
    readPresent read ((front ++ some a :: behind).map fun item => item.map write) =
      .error e := by
  induction front with
  | nil => simp [readPresent, ha]
  | cons item front ih =>
      have hrest := ih fun b hb => hfront b (List.mem_cons_of_mem item hb)
      cases item with
      | none =>
          rw [List.cons_append, List.map_cons, Option.map_none, readPresent, hrest]
      | some b =>
          rw [List.cons_append, List.map_cons, Option.map_some, readPresent,
            hfront b List.mem_cons_self]
          simp only [hrest]

/-- In a list with missing elements either all that are there have a property, or there is a first
one that has not. -/
theorem forall_or_exists_first {α : Type} (p : α → Prop) (items : List (Option α)) :
    (∀ a, some a ∈ items → p a) ∨
      ∃ front a behind, items = front ++ some a :: behind ∧ (∀ b, some b ∈ front → p b) ∧ ¬p a := by
  induction items with
  | nil =>
      left
      intro a ha
      cases ha
  | cons item items ih =>
      by_cases hitem : ∀ a, item = some a → p a
      · rcases ih with hall | ⟨front, a, behind, rfl, hfront, ha⟩
        · left
          intro a hmem
          rcases List.mem_cons.1 hmem with heq | hmem
          · exact hitem a heq.symm
          · exact hall a hmem
        · right
          refine ⟨item :: front, a, behind, rfl, ?_, ha⟩
          intro b hmem
          rcases List.mem_cons.1 hmem with heq | hmem
          · exact hitem b heq.symm
          · exact hfront b hmem
      · right
        simp only [not_forall] at hitem
        obtain ⟨a, rfl, ha⟩ := hitem
        refine ⟨[], a, items, rfl, ?_, ha⟩
        intro b hmem
        cases hmem

/-! ### Splitting again and again -/

mutual

theorem recovers_content : (e : ArrayElement) → Recovers e.content e.nestedValue
  | .null => by
      rw [ArrayElement.nestedValue]
      exact .null
  | .quoted text => by
      rw [ArrayElement.nestedValue]
      exact .text text
  | .bare text _ => by
      rw [ArrayElement.nestedValue]
      exact .text text
  | .nested es => by
      rw [ArrayElement.nestedValue]
      exact .list (decodeArray_eq_content es) (recovers_contents es)

theorem recovers_contents :
    (es : List ArrayElement) → List.Forall₂ Recovers (es.map ArrayElement.content) (nestedValues es)
  | [] => by
      rw [nestedValues]
      exact .nil
  | e :: es => by
      rw [nestedValues]
      exact .cons (recovers_content e) (recovers_contents es)

end

/-- **Splitting undoes writing**: the literal of an array is split into what its elements stand
for, in order, and splitting the arrays among them in turn gives back the whole nested list,
whichever way each text was written. -/
theorem decodeArray_arrayLiteral (elements : List ArrayElement) :
    decodeArray (arrayLiteral elements) = .ok (elements.map ArrayElement.content) ∧
      Recovers (some (arrayLiteral elements)) (.list (nestedValues elements)) :=
  ⟨decodeArray_eq_content elements,
    .list (decodeArray_eq_content elements) (recovers_contents elements)⟩

end SqlFilter.Compound
