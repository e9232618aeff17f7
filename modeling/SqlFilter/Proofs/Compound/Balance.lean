/-
**Balanced literals.**

A literal is balanced when every section in double quotes is closed before its closing delimiter
and, for an array, the braces outside of such sections close what was opened and no more.  Splitting
sees to that for the elements in quotes: one that is not closed is refused, and so is anything but a
comma behind its closing quote.  An element without quotes is taken up to the next comma, and the
scanner that looks for the comma counts braces and quotes on its way but does not look at the counts
when the text ends.  So what is split is balanced as far as its bare elements are, and an array no
further: a bare element that is not balanced leaves the whole literal so.

The reader that says what is balanced is a fold over the characters; it and the scanner of bare
elements walk in step as long as no brace closes what was not opened.

Main definitions:

* `SqlFilter.Compound.Nesting.read?`, `SqlFilter.Compound.IsBalanced`: reading a text;
* `SqlFilter.Compound.bareTexts`: the elements that do not stand in quotes.

Main results:

* `SqlFilter.Compound.isBalanced_of_elements`, `SqlFilter.Compound.isBalanced_bare_of_isBalanced`:
  a text that is split and its bare elements;
* `SqlFilter.Compound.isBalanced_of_decode`: **balanced literals are all that is accepted**, as far
  as bare elements are balanced;
* `SqlFilter.Compound.not_isBalanced_unclosed`: a bare element that leaves its quotes open.
-/

import SqlFilter.Compound.Basic

set_option relaxedAutoImplicit false
set_option autoImplicit false

namespace SqlFilter.Compound

/-! ### Reading -/

namespace Nesting

/-- Reads one character.  A quote opens a section or closes it, and a backslash in a section stands
for the character behind it.  Outside of sections the braces of an array open and close; nothing is
read where a brace closes what was not opened. -/
def read? (kind : Kind) (n : Nesting) (c : Char) : Option Nesting :=
  if n.escaped then some { n with escaped := false }
  else if c = '"' then some { n with inQuotes := !n.inQuotes }
  else if n.inQuotes then some { n with escaped := c == '\\' }
  else if kind = .row then some n
  else if c = '{' then some { n with depth := n.depth + 1 }
  else if c = '}' then
    if n.depth = 0 then none else some { n with depth := n.depth - 1 }
  else some n

/-- Reads a text. -/
def readAll? (kind : Kind) (n : Nesting) (cs : List Char) : Option Nesting :=
  cs.foldlM (read? kind) n

theorem readAll?_cons (kind : Kind) (n : Nesting) (c : Char) (cs : List Char) :
    n.readAll? kind (c :: cs) = (n.read? kind c).bind fun m => m.readAll? kind cs := rfl

theorem readAll?_append (kind : Kind) (n : Nesting) (xs ys : List Char) :
    n.readAll? kind (xs ++ ys) = (n.readAll? kind xs).bind fun m => m.readAll? kind ys :=
  List.foldlM_append

end Nesting

/-- Every quoted section is closed, and the braces of an array outside of them balance. -/
def IsBalanced (kind : Kind) (cs : List Char) : Prop :=
  Nesting.outside.readAll? kind cs = some .outside

instance (kind : Kind) (cs : List Char) : Decidable (IsBalanced kind cs) :=
  inferInstanceAs (Decidable (_ = _))

/-- Behind a balanced text the rest decides. -/
theorem IsBalanced.append_iff {kind : Kind} {xs : List Char} (h : IsBalanced kind xs)
    (ys : List Char) : IsBalanced kind (xs ++ ys) ↔ IsBalanced kind ys := by
  rw [IsBalanced, Nesting.readAll?_append, h]
  rfl

theorem isBalanced_comma (kind : Kind) : IsBalanced kind [','] := by
  cases kind with
  | array => decide
  | row => decide

/-! ### Elements in quotes -/

/-- An element in quotes is read up to its closing quote, as the section that it is. -/
theorem exists_section_of_takeQuoted? {kind : Kind} {d : Nat} {cs element rest : List Char}
    (h : takeQuoted? kind cs = some (element, rest)) :
    ∃ written, cs = written ++ rest ∧
      (⟨d, true, false⟩ : Nesting).readAll? kind written = some ⟨d, false, false⟩ := by
  fun_induction takeQuoted? kind cs generalizing element rest with
  | case1 => cases h
  | case2 => cases h
  | case3 c cs ih =>
      obtain ⟨⟨element', rest'⟩, htake, heq⟩ := Option.map_eq_some_iff.1 h
      cases heq
      obtain ⟨written, rfl, hread⟩ := ih htake
      exact ⟨'\\' :: c :: written, rfl, hread⟩
  | case4 cs hrow ih =>
      obtain ⟨⟨element', rest'⟩, htake, heq⟩ := Option.map_eq_some_iff.1 h
      cases heq
      obtain ⟨written, rfl, hread⟩ := ih htake
      exact ⟨'"' :: '"' :: written, rfl, hread⟩
  | case5 cs _ =>
      cases h
      exact ⟨['"'], rfl, rfl⟩
  | case6 cs _ =>
      cases h
      exact ⟨['"'], rfl, rfl⟩
  | case7 c cs hend hescape _ hquote ih =>
      obtain ⟨⟨element', rest'⟩, htake, heq⟩ := Option.map_eq_some_iff.1 h
      cases heq
      obtain ⟨written, rfl, hread⟩ := ih htake
      have hslash : c ≠ '\\' := by
        cases hcs : written ++ rest with
        | nil => exact fun hc => hend hc hcs
        | cons c' cs' => exact fun hc => hescape c' cs' hc hcs
      refine ⟨c :: written, rfl, ?_⟩
      have hchar : (⟨d, true, false⟩ : Nesting).read? kind c = some ⟨d, true, false⟩ := by
        simp [Nesting.read?, show c ≠ '"' from hquote, hslash]
      rw [Nesting.readAll?_cons, hchar]
      exact hread

theorem isBalanced_of_takeQuoted? {kind : Kind} {quoted element rest : List Char}
    (h : takeQuoted? kind quoted = some (element, rest)) :
    ∃ written, '"' :: quoted = written ++ rest ∧ IsBalanced kind written := by
  obtain ⟨written, rfl, hread⟩ := exists_section_of_takeQuoted? (d := 0) h
  exact ⟨'"' :: written, rfl, hread⟩

/-! ### Bare elements -/

/-- An element of a text that does not stand in quotes, as it is written. -/
inductive BareIn (kind : Kind) : List Char → List Char → Prop
  | first {cs : List Char} : cs.head? ≠ some '"' → BareIn kind cs (takeBare kind .outside cs).1
  | later {text cs rest bare : List Char} {element : Option (List Char)} :
      takeElement kind text cs = .ok (element, ',' :: rest) → BareIn kind rest bare →
      BareIn kind cs bare

/-- The bare elements of a text are balanced, each by itself. -/
def BaresBalanced (kind : Kind) (cs : List Char) : Prop :=
  ∀ bare, BareIn kind cs bare → IsBalanced kind bare

/-- What is taken off the front is balanced, or a bare element. -/
theorem exists_written_of_takeElement {kind : Kind} {text cs rest : List Char}
    {element : Option (List Char)} (h : takeElement kind text cs = .ok (element, rest)) :
    ∃ written, cs = written ++ rest ∧ (IsBalanced kind written ∨
      cs.head? ≠ some '"' ∧ written = (takeBare kind .outside cs).1) := by
  unfold takeElement at h
  split at h
  · split at h
    · next htake =>
        cases h
        obtain ⟨written, heq, hbalanced⟩ := isBalanced_of_takeQuoted? htake
        exact ⟨written, heq, .inl hbalanced⟩
    · cases h
  · next hhead =>
      cases h
      refine ⟨_, (takeBare_append kind .outside cs).symm, .inr ⟨fun hquote => ?_, rfl⟩⟩
      obtain ⟨quoted, rfl⟩ := List.head?_eq_some_iff.1 hquote
      exact hhead quoted rfl

/-- A text is balanced behind a balanced element and a comma if it is balanced. -/
theorem isBalanced_behind_iff {kind : Kind} {written : List Char} (h : IsBalanced kind written)
    (rest : List Char) : IsBalanced kind (written ++ ',' :: rest) ↔ IsBalanced kind rest := by
  rw [h.append_iff, ← List.singleton_append, (isBalanced_comma kind).append_iff]

/-- A text that is split is balanced if its bare elements are. -/
theorem isBalanced_of_elements {kind : Kind} {text cs : List Char}
    {found : List (Option (List Char))} (h : elements kind text cs = .ok found)
    (hbare : BaresBalanced kind cs) : IsBalanced kind cs := by
  -- the element in front is balanced in either case, and what is behind it is by induction
  have hfront : ∀ cs rest element, takeElement kind text cs = .ok (element, rest) →
      BaresBalanced kind cs →
        ∃ written, cs = written ++ rest ∧ IsBalanced kind written := by
    intro cs rest element htake hbare
    obtain ⟨written, heq, hbalanced | ⟨hhead, rfl⟩⟩ := exists_written_of_takeElement htake
    · exact ⟨written, heq, hbalanced⟩
    · exact ⟨_, heq, hbare _ (.first hhead)⟩
  fun_induction elements kind text cs generalizing found with
  | case1 => cases h
  | case2 cs element htake =>
      obtain ⟨written, heq, hwritten⟩ := hfront cs [] element htake hbare
      rw [heq, List.append_nil]
      exact hwritten
  | case3 => cases h
  | case4 cs element rest others hrest htake _ ih =>
      obtain ⟨written, heq, hwritten⟩ := hfront cs _ element htake hbare
      rw [heq, isBalanced_behind_iff hwritten]
      exact ih hrest fun bare hmem => hbare bare (.later htake hmem)
  | case5 => cases h

/-! ### Bare elements of balanced arrays -/

namespace Nesting

/-- The scanner of bare elements follows the reader. -/
theorem step_of_read? {m n : Nesting} {c : Char} (h : n.read? .array c = some m) :
    n.step .array c = m := by
  obtain ⟨depth, inQuotes, escaped⟩ := n
  simp only [read?, reduceCtorEq, if_false] at h
  simp only [step, reduceCtorEq, if_false]
  grind

/-- An escape stands in a quoted section. -/
def Ordered (n : Nesting) : Prop := n.escaped = true → n.inQuotes = true

theorem ordered_outside : outside.Ordered := fun hescaped => nomatch hescaped

theorem Ordered.of_read? {m n : Nesting} {kind : Kind} {c : Char} (hn : n.Ordered)
    (h : n.read? kind c = some m) : m.Ordered := by
  rw [read?] at h
  grind [Ordered]

/-- Where a comma ends an element, nothing is open. -/
theorem Ordered.eq_outside {n : Nesting} (hn : n.Ordered) (h : n.isOutside = true) :
    n = .outside := by
  obtain ⟨depth, inQuotes, escaped⟩ := n
  simp only [isOutside, Bool.and_eq_true, beq_iff_eq, Bool.not_eq_true'] at h
  obtain ⟨rfl, rfl⟩ := h
  cases escaped with
  | false => rfl
  | true => exact nomatch hn rfl

end Nesting

/-- In a balanced text the scanner of bare elements stops where nothing is open. -/
theorem readAll?_takeBare {n : Nesting} {cs : List Char} (hn : n.Ordered)
    (h : n.readAll? .array cs = some .outside) :
    n.readAll? .array (takeBare .array n cs).1 = some .outside := by
  induction cs generalizing n with
  | nil => exact h
  | cons c cs ih =>
      rw [takeBare]
      split
      · next hstop =>
          rw [hn.eq_outside hstop.2]
          rfl
      · rw [Nesting.readAll?_cons] at h ⊢
        obtain ⟨m, hread, hrest⟩ := Option.bind_eq_some_iff.1 h
        rw [Nesting.step_of_read? hread, hread]
        exact ih (hn.of_read? hread) hrest

/-- The bare elements of a balanced array are balanced. -/
theorem isBalanced_of_bareIn {cs bare : List Char} (h : BareIn .array cs bare)
    (hcs : IsBalanced .array cs) : IsBalanced .array bare := by
  induction h with
  | first _ => exact readAll?_takeBare Nesting.ordered_outside hcs
  | later htake _ ih =>
      obtain ⟨written, heq, hwritten⟩ := exists_written_of_takeElement htake
      have hfront : IsBalanced .array written := by
        rcases hwritten with hbalanced | ⟨-, rfl⟩
        · exact hbalanced
        · exact readAll?_takeBare Nesting.ordered_outside hcs
      rw [heq, isBalanced_behind_iff hfront] at hcs
      exact ih hcs

/-! ### Literals -/

/-- The text between delimiters. -/
theorem inner?_eq_some_iff {kind : Kind} {text inner : List Char} :
    inner? kind text = some inner ↔ text = kind.opening :: inner ++ [kind.closing] := by
  cases text with
  | nil => simp [inner?]
  | cons c cs =>
      rw [inner?, List.cons_append, List.cons.injEq]
      constructor
      · intro h
        obtain ⟨⟨hopening, hlast⟩, heq⟩ := Option.ite_none_right_eq_some.1 h
        obtain ⟨front, rfl⟩ := List.getLast?_eq_some_iff.1 hlast
        cases heq
        exact ⟨hopening, by simp⟩
      · rintro ⟨rfl, rfl⟩
        simp

/-- What is split has delimiters and is balanced between them as far as its bare elements are. -/
theorem exists_inner_of_split {kind : Kind} {text : List Char} {found : List (Option (List Char))}
    (h : split kind text = .ok found) :
    ∃ inner, text = kind.opening :: inner ++ [kind.closing] ∧
      (BaresBalanced kind inner → IsBalanced kind inner) := by
  rw [split] at h
  split at h
  · cases h
  · next inner hinner =>
      refine ⟨inner, inner?_eq_some_iff.1 hinner, fun hbare => ?_⟩
      split at h
      · next hempty =>
          rw [hempty.2]
          rfl
      · exact isBalanced_of_elements h hbare

/-- A quoted section that is not closed is malformed. -/
theorem decode_of_takeElement {kind : Kind} {text cs : List Char} {e : Error}
    (h : takeElement kind text cs = .error e) : ∃ detail, e = .decode detail := by
  unfold takeElement at h
  split at h
  · split at h
    · cases h
    · cases h
      exact ⟨_, rfl⟩
  · cases h

/-- So is a text with anything but a comma behind an element. -/
theorem decode_of_elements {kind : Kind} {text cs : List Char} {e : Error}
    (h : elements kind text cs = .error e) : ∃ detail, e = .decode detail := by
  fun_induction elements kind text cs with
  | case1 cs e' he =>
      cases h
      exact decode_of_takeElement he
  | case2 => cases h
  | case3 cs element rest e' he _ _ ih =>
      cases h
      exact ih he
  | case4 => cases h
  | case5 =>
      cases h
      exact ⟨_, rfl⟩

/-- A text is refused as malformed. -/
theorem decode_of_split {kind : Kind} {text : List Char} {e : Error}
    (h : split kind text = .error e) : ∃ detail, e = .decode detail := by
  rw [split] at h
  split at h
  · cases h
    exact ⟨_, rfl⟩
  · split at h
    · cases h
    · exact decode_of_elements h

/-- What an accepted array has between its braces is balanced exactly when its bare elements are. -/
theorem exists_inner_of_decodeArray {text : String} {found : List (Option String)}
    (h : decodeArray text = .ok found) :
    ∃ inner, text.toList = '{' :: inner ++ ['}'] ∧
      (IsBalanced .array inner ↔ BaresBalanced .array inner) := by
  rw [decodeArray] at h
  cases hsplit : split .array text.toList with
  | error e =>
      rw [hsplit] at h
      cases h
  | ok elements =>
      obtain ⟨inner, heq, hbalanced⟩ := exists_inner_of_split hsplit
      exact ⟨inner, heq, fun hinner _ hmem => isBalanced_of_bareIn hmem hinner, hbalanced⟩

/-- What an accepted row has between its parentheses is balanced if its bare fields are. -/
theorem exists_inner_of_decodeRow {text : String} {found : List (Option String)}
    (h : decodeRow text = .ok found) :
    ∃ inner, text.toList = '(' :: inner ++ [')'] ∧
      (BaresBalanced .row inner → IsBalanced .row inner) := by
  rw [decodeRow] at h
  cases hsplit : split .row text.toList with
  | error e =>
      rw [hsplit] at h
      cases h
  | ok fields => exact exists_inner_of_split hsplit

theorem decode_of_map_split {kind : Kind} {text : List Char} {e : Error}
    {f : List (Option (List Char)) → List (Option String)}
    (h : (split kind text).map f = .error e) : ∃ detail, e = .decode detail := by
  cases hsplit : split kind text with
  | error e' =>
      rw [hsplit] at h
      cases h
      exact decode_of_split hsplit
  | ok elements =>
      rw [hsplit] at h
      cases h

theorem eq_of_delimited {xs ys : List Char} {c d : Char} (h : c :: xs ++ [d] = c :: ys ++ [d]) :
    xs = ys := by simpa using h

/-- **Literals that are not balanced are refused, as far as bare elements are balanced.**  What is
accepted is balanced between its delimiters if its bare elements are, and of an array exactly then;
so a literal that is not balanced, though its bare elements are, is refused as malformed, and so is
everything else that is refused. -/
theorem isBalanced_of_decode (text : String) :
    (∀ found, decodeArray text = .ok found → ∃ inner, text.toList = '{' :: inner ++ ['}'] ∧
      (IsBalanced .array inner ↔ BaresBalanced .array inner)) ∧
    (∀ found, decodeRow text = .ok found → ∃ inner, text.toList = '(' :: inner ++ [')'] ∧
      (BaresBalanced .row inner → IsBalanced .row inner)) ∧
    (∀ inner, text.toList = '{' :: inner ++ ['}'] → ¬IsBalanced .array inner →
      BaresBalanced .array inner → ∃ detail, decodeArray text = .error (.decode detail)) ∧
    (∀ inner, text.toList = '(' :: inner ++ [')'] → ¬IsBalanced .row inner →
      BaresBalanced .row inner → ∃ detail, decodeRow text = .error (.decode detail)) ∧
    ∀ e, decodeArray text = .error e ∨ decodeRow text = .error e →
      ∃ detail, e = .decode detail := by
  refine ⟨fun _ => exists_inner_of_decodeArray, fun _ => exists_inner_of_decodeRow,
    fun inner htext hinner hbare => ?_, fun inner htext hinner hbare => ?_, fun e he => ?_⟩
  · cases hrun : decodeArray text with
    | error e =>
        obtain ⟨detail, rfl⟩ := decode_of_map_split hrun
        exact ⟨detail, rfl⟩
    | ok found =>
        obtain ⟨inner', htext', hbalanced⟩ := exists_inner_of_decodeArray hrun
        cases eq_of_delimited (htext.symm.trans htext')
        exact absurd (hbalanced.2 hbare) hinner
  · cases hrun : decodeRow text with
    | error e =>
        obtain ⟨detail, rfl⟩ := decode_of_map_split hrun
        exact ⟨detail, rfl⟩
    | ok found =>
        obtain ⟨inner', htext', hbalanced⟩ := exists_inner_of_decodeRow hrun
        cases eq_of_delimited (htext.symm.trans htext')
        exact absurd (hbalanced hbare) hinner
  · exact he.elim decode_of_map_split decode_of_map_split

/-- An array in an array is accepted, and texts that are not closed are refused in an array and in a
row. -/
theorem isBalanced_of_decode_truncated :
    (decodeArray "\x7b\x7b1,\"\x7d\"\x7d\x7d" = .ok [some "\x7b1,\"\x7d\"\x7d"] ∧
      IsBalanced .array "\x7b1,\"\x7d\"\x7d".toList) ∧
    (¬IsBalanced .array "\"open".toList ∧ BaresBalanced .array "\"open".toList ∧
      ∃ detail, decodeArray r#"{"open}"# = .error (.decode detail)) ∧
    (¬IsBalanced .row "\"open".toList ∧ BaresBalanced .row "\"open".toList ∧
      ∃ detail, decodeRow "(\"open)" = .error (.decode detail)) := by
  have hnested : decodeArray "\x7b\x7b1,\"\x7d\"\x7d\x7d" = .ok [some "\x7b1,\"\x7d\"\x7d"] := by
    cbv
  have hnestedBares : BaresBalanced .array "\x7b1,\"\x7d\"\x7d".toList := by
    intro bare hmem
    cases hmem with
    | first _ => decide
    | later htake _ => cases htake
  have hopenBares : ∀ kind, BaresBalanced kind "\"open".toList := by
    intro kind bare hmem
    cases hmem with
    | first hhead => exact absurd rfl hhead
    | later htake _ =>
        cases kind with
        | array => cases htake
        | row => cases htake
  obtain ⟨inner, htext, hbalanced⟩ := (isBalanced_of_decode _).1 _ hnested
  have hinner : inner = "\x7b1,\"\x7d\"\x7d".toList := eq_of_delimited htext.symm
  rw [hinner] at hbalanced
  exact ⟨⟨hnested, hbalanced.2 hnestedBares⟩,
    ⟨by decide, hopenBares .array,
      (isBalanced_of_decode _).2.2.1 _ rfl (by decide) (hopenBares .array)⟩,
    by decide, hopenBares .row,
    (isBalanced_of_decode _).2.2.2.1 _ rfl (by decide) (hopenBares .row)⟩

/-- **A bare element may leave its quotes open**: an array whose element is an array with a text
that is not closed is accepted. -/
theorem not_isBalanced_unclosed :
    ¬∀ text found, decodeArray text = .ok found →
      ∃ inner, text.toList = '{' :: inner ++ ['}'] ∧ IsBalanced .array inner := by
  intro h
  have hrun : decodeArray r#"{{"open}}"# = .ok [some r#"{"open}"#] := by cbv
  obtain ⟨inner, htext, hbalanced⟩ := h _ _ hrun
  have hinner : inner = r#"{"open}"#.toList := eq_of_delimited htext.symm
  rw [hinner] at hbalanced
  exact absurd hbalanced (by decide)

end SqlFilter.Compound
