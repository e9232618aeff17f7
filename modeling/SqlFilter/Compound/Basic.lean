/-
**Literals of arrays and rows.**

The server writes an array as elements between braces and a row as fields between parentheses, with
commas between them.  An element in double quotes is unescaped; any other element is taken as it
stands, up to the next comma outside of nested braces and quotes, so that an array within an array
keeps its own literal.  A missing element is written `NULL` in an array and as nothing in a row.

Main definitions:

* `SqlFilter.Compound.Kind`: array or row;
* `SqlFilter.Compound.takeQuoted?`: the element behind an opening quote;
* `SqlFilter.Compound.takeBare`: an element that is not quoted;
* `SqlFilter.Compound.elements`: the elements between the delimiters;
* `SqlFilter.Compound.split`: the elements of a literal;
* `SqlFilter.Compound.decodeArray`, `SqlFilter.Compound.decodeRow`,
  `SqlFilter.Compound.decodeRowArray`: the same on strings.

Main results:

* `SqlFilter.Compound.takeBare_append`: a bare element and what follows it are the text;
* `SqlFilter.Compound.takeQuoted?_length`: a quoted element takes its closing quote with it.
-/

import SqlFilter.Error
import SqlFilter.Text.Pieces

set_option relaxedAutoImplicit false
set_option autoImplicit false

namespace SqlFilter.Compound

/-- The two kinds of literals. -/
inductive Kind where
  | array
  | row
  deriving Repr, DecidableEq

namespace Kind

/-- The opening delimiter. -/
def opening : Kind → Char
  | .array => '{'
  | .row => '('

/-- The closing delimiter. -/
def closing : Kind → Char
  | .array => '}'
  | .row => ')'

/-- The name of a kind. -/
def name : Kind → String
  | .array => "array"
  | .row => "composite"

/-- How a missing element is written. -/
def nullText : Kind → List Char
  | .array => ['N', 'U', 'L', 'L']
  | .row => []

end Kind

/-! ### Errors -/

/-- The delimiters are missing. -/
def malformed (kind : Kind) (text : List Char) : Error :=
  .decode ("Malformed " ++ kind.name ++ " literal '" ++ String.ofList text ++ "'")

/-- A quoted element has no end. -/
def unterminated (kind : Kind) (text : List Char) : Error :=
  .decode ("Unterminated quoted element in " ++ kind.name ++ " literal '" ++
    String.ofList text ++ "'")

/-- Something other than a comma follows a quoted element. -/
def unexpected (kind : Kind) (c : Char) (text : List Char) : Error :=
  .decode ("Unexpected '" ++ String.ofList [c] ++ "' after quoted element in " ++ kind.name ++
    " literal '" ++ String.ofList text ++ "'")

/-! ### Quoted elements -/

/-- Takes the element behind an opening quote, with its closing quote.  A backslash stands for the
character behind it; in a row two quotes stand for one. -/
def takeQuoted? (kind : Kind) : List Char → Option (List Char × List Char)
  | [] => none
  | ['\\'] => none
  | '\\' :: c :: cs => (takeQuoted? kind cs).map fun (element, rest) => (c :: element, rest)
  | '"' :: '"' :: cs =>
      if kind = .row then
        (takeQuoted? kind cs).map fun (element, rest) => ('"' :: element, rest)
      else some ([], '"' :: cs)
  | '"' :: cs => some ([], cs)
  | c :: cs => (takeQuoted? kind cs).map fun (element, rest) => (c :: element, rest)

/-- A quoted element takes its closing quote with it. -/
theorem takeQuoted?_length {kind : Kind} {cs element rest : List Char}
    (h : takeQuoted? kind cs = some (element, rest)) : rest.length < cs.length := by
  fun_induction takeQuoted? kind cs generalizing element rest with
  | case1 => cases h
  | case2 => cases h
  | case3 c cs ih =>
      simp only [Option.map_eq_some_iff, Prod.exists, Prod.mk.injEq] at h
      obtain ⟨a, b, hab, -, rfl⟩ := h
      have := ih hab
      simp only [List.length_cons]
      omega
  | case4 cs hk ih =>
      simp only [Option.map_eq_some_iff, Prod.exists, Prod.mk.injEq] at h
      obtain ⟨a, b, hab, -, rfl⟩ := h
      have := ih hab
      simp only [List.length_cons]
      omega
  | case5 cs hk =>
      simp only [Option.some.injEq, Prod.mk.injEq] at h
      rw [← h.2]
      simp
  | case6 cs _ =>
      simp only [Option.some.injEq, Prod.mk.injEq] at h
      rw [← h.2]
      simp
  | case7 c cs _ _ _ _ ih =>
      simp only [Option.map_eq_some_iff, Prod.exists, Prod.mk.injEq] at h
      obtain ⟨a, b, hab, -, rfl⟩ := h
      have := ih hab
      simp only [List.length_cons]
      omega

/-! ### Bare elements -/

/-- Where a bare element stands: how many braces are open, and whether a quoted section and an
escape in it are. -/
structure Nesting where
  depth : Nat
  inQuotes : Bool
  escaped : Bool
  deriving Repr, DecidableEq

namespace Nesting

/-- Outside of everything. -/
def outside : Nesting := ⟨0, false, false⟩

/-- Whether a comma ends the element here. -/
def isOutside (n : Nesting) : Bool := n.depth == 0 && !n.inQuotes

/-- Steps over one character.  Only arrays have nesting. -/
def step (kind : Kind) (n : Nesting) (c : Char) : Nesting :=
  if n.escaped then { n with escaped := false }
  else if kind = .row then n
  else if c = '\\' then { n with escaped := n.inQuotes }
  else if c = '"' then { n with inQuotes := !n.inQuotes }
  else if n.inQuotes then n
  else if c = '{' then { n with depth := n.depth + 1 }
  else if c = '}' then { n with depth := n.depth - 1 }
  else n

end Nesting

/-- Takes a bare element: everything up to the next comma outside of nested parts. -/
def takeBare (kind : Kind) (nesting : Nesting) : List Char → List Char × List Char
  | [] => ([], [])
  | c :: cs =>
      if c = ',' ∧ nesting.isOutside then ([], c :: cs)
      else
        let (element, rest) := takeBare kind (nesting.step kind c) cs
        (c :: element, rest)

/-- A bare element and what follows it are the text. -/
theorem takeBare_append (kind : Kind) (nesting : Nesting) (cs : List Char) :
    (takeBare kind nesting cs).1 ++ (takeBare kind nesting cs).2 = cs := by
  induction cs generalizing nesting with
  | nil => rfl
  | cons c cs ih =>
      rw [takeBare]
      split
      · rfl
      · simpa using ih (nesting.step kind c)

/-! ### Elements -/

/-- A bare element, unless it is the spelling of a missing one. -/
def bareElement (kind : Kind) (element : List Char) : Option (List Char) :=
  if element = kind.nullText then none else some element

/-- Takes one element; `text` is the whole literal, for errors. -/
def takeElement (kind : Kind) (text : List Char) (cs : List Char) :
    Except Error (Option (List Char) × List Char) :=
  match cs with
  | '"' :: quoted =>
      match takeQuoted? kind quoted with
      | some (element, rest) => .ok (some element, rest)
      | none => .error (unterminated kind text)
  | cs => .ok (bareElement kind (takeBare kind .outside cs).1, (takeBare kind .outside cs).2)

theorem takeElement_length {kind : Kind} {text cs rest : List Char} {element : Option (List Char)}
    (h : takeElement kind text cs = .ok (element, rest)) : rest.length ≤ cs.length := by
  unfold takeElement at h
  split at h
  · split at h
    · simp only [Except.ok.injEq, Prod.mk.injEq] at h
      have := takeQuoted?_length ‹_›
      simp only [List.length_cons]
      rw [← h.2]
      omega
    · cases h
  · simp only [Except.ok.injEq, Prod.mk.injEq] at h
    have := congrArg List.length (takeBare_append kind .outside cs)
    rw [List.length_append] at this
    rw [← h.2]
    omega

/-- The elements of a text between delimiters. -/
def elements (kind : Kind) (text : List Char) (cs : List Char) :
    Except Error (List (Option (List Char))) :=
  match h : takeElement kind text cs with
  | .error e => .error e
  | .ok (element, []) => .ok [element]
  | .ok (element, c :: rest) =>
      if c = ',' then
        have := takeElement_length h
        match elements kind text rest with
        | .error e => .error e
        | .ok others => .ok (element :: others)
      else .error (unexpected kind c text)
termination_by cs.length
decreasing_by
  simp only [List.length_cons] at this
  omega

/-- The text between the delimiters. -/
def inner? (kind : Kind) : List Char → Option (List Char)
  | [] => none
  | c :: cs =>
      if c = kind.opening ∧ cs.getLast? = some kind.closing then some cs.dropLast else none

/-- The elements of a literal; an array may have none. -/
def split (kind : Kind) (text : List Char) : Except Error (List (Option (List Char))) :=
  match inner? kind text with
  | none => .error (malformed kind text)
  | some cs => if kind = .array ∧ cs = [] then .ok [] else elements kind text cs

/-! ### On strings -/

/-- An element as a string. -/
def elementText (element : Option (List Char)) : Option String := element.map String.ofList

/-- The elements of an array literal. -/
def decodeArray (text : String) : Except Error (List (Option String)) :=
  (split .array text.toList).map fun elements => elements.map elementText

/-- The fields of a row literal. -/
def decodeRow (text : String) : Except Error (List (Option String)) :=
  (split .row text.toList).map fun fields => fields.map elementText

/-- Applies a fallible reader to the elements that are not missing; the first failure counts. -/
def readPresent {α : Type} (read : String → Except Error α) :
    List (Option String) → Except Error (List (Option α))
  | [] => .ok []
  | none :: elements =>
      match readPresent read elements with
      | .error e => .error e
      | .ok others => .ok (none :: others)
  | some text :: elements =>
      match read text with
      | .error e => .error e
      | .ok value =>
          match readPresent read elements with
          | .error e => .error e
          | .ok others => .ok (some value :: others)

/-- The elements of an array literal, each read on its own. -/
def decodeArrayWith {α : Type} (read : String → Except Error α) (text : String) :
    Except Error (List (Option α)) :=
  match decodeArray text with
  | .error e => .error e
  | .ok elements => readPresent read elements

/-- The rows of an array of rows. -/
def decodeRowArray (text : String) : Except Error (List (Option (List (Option String)))) :=
  decodeArrayWith decodeRow text

end SqlFilter.Compound
