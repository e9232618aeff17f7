/-
**The tokens of a statement.**

A statement is read one character at a time, as the server does it.  Letters, digits, underscores
and dollar signs make words; quotes, single or double, hold everything up to the next quote of their
kind, of which two stand for one; any other character that is not blank is a mark of its own.

What a text is read as does not depend on what follows it, as long as that neither goes on with a
word nor opens another quote right behind it.  So the tokens of a compiled predicate can be found
piece by piece.

Main definitions:

* `SqlFilter.Sql.Token`: words, quoted texts and marks;
* `SqlFilter.Sql.Mode`, `SqlFilter.Sql.step`: the scanner, one character at a time;
* `SqlFilter.Sql.tokens`: the tokens of a text, if its quotes are closed;
* `SqlFilter.Sql.Breaks`: a text that ends a token in front of it.

Main results:

* `SqlFilter.Sql.tokens_append`: **texts are read one after the other**;
* `SqlFilter.Sql.tokens_quoted`: a text in quotes is one token, whatever it holds.
-/

import SqlFilter.Text.Blank
import SqlFilter.Text.Pieces

set_option relaxedAutoImplicit false
set_option autoImplicit false

namespace SqlFilter.Sql

open SqlFilter.Text (doubled enclosed isBlank)

/-! ### The scanner -/

/-- The two kinds of quotes. -/
inductive Quote where
  | double
  | single
  deriving Repr, DecidableEq

/-- The character of a quote. -/
def Quote.char : Quote → Char
  | .double => '"'
  | .single => '\''

/-- A token of a statement. -/
inductive Token where
  | word (text : List Char)
  /-- A text in quotes, without them. -/
  | quoted (quote : Quote) (content : List Char)
  | mark (c : Char)
  deriving Repr, DecidableEq

/-- Whether a character may stand in a word. -/
def isWordChar (c : Char) : Bool := c.isAlphanum || c == '_' || c == '$'

/-- Digits make words, too. -/
theorem isWordChar_of_isDigit {c : Char} (h : c.isDigit = true) : isWordChar c = true := by
  simp [isWordChar, Char.isAlphanum, h]

/-- The quote that a character is. -/
def quote? (c : Char) : Option Quote :=
  if c = '"' then some .double else if c = '\'' then some .single else none

/-- Where the scanner stands, with what it has read of its token. -/
inductive Mode where
  | between
  | inWord (read : List Char)
  | inQuotes (quote : Quote) (read : List Char)
  /-- Behind a quote that closes the text, unless another one follows it. -/
  | behindQuote (quote : Quote) (read : List Char)
  deriving Repr, DecidableEq

/-- Reads the first character of a token. -/
def start (c : Char) : List Token × Mode :=
  if isWordChar c then ([], .inWord [c])
  else
    match quote? c with
    | some quote => ([], .inQuotes quote [])
    | none => if isBlank c then ([], .between) else ([.mark c], .between)

/-- Reads one character: the tokens that are complete with it, and where the scanner stands then. -/
def step : Mode → Char → List Token × Mode
  | .between, c => start c
  | .inWord read, c =>
      if isWordChar c then ([], .inWord (read ++ [c])) else (.word read :: (start c).1, (start c).2)
  | .inQuotes quote read, c =>
      if c = quote.char then ([], .behindQuote quote read) else ([], .inQuotes quote (read ++ [c]))
  | .behindQuote quote read, c =>
      if c = quote.char then ([], .inQuotes quote (read ++ [c]))
      else (.quoted quote read :: (start c).1, (start c).2)

/-- Reads a text. -/
def scan (mode : Mode) : List Char → List Token × Mode
  | [] => ([], mode)
  | c :: cs => ((step mode c).1 ++ (scan (step mode c).2 cs).1, (scan (step mode c).2 cs).2)

/-- The token that ends with the text, if its quotes are closed. -/
def finish : Mode → Option (List Token)
  | .between => some []
  | .inWord read => some [.word read]
  | .inQuotes _ _ => none
  | .behindQuote quote read => some [.quoted quote read]

/-- The tokens of a text that is read on from a mode. -/
def tokensFrom (mode : Mode) (cs : List Char) : Option (List Token) :=
  (finish (scan mode cs).2).map ((scan mode cs).1 ++ ·)

/-- The tokens of a text. -/
def tokens (cs : List Char) : Option (List Token) := tokensFrom .between cs

/-! ### One text after the other -/

theorem scan_append (mode : Mode) (xs ys : List Char) :
    scan mode (xs ++ ys) =
      ((scan mode xs).1 ++ (scan (scan mode xs).2 ys).1, (scan (scan mode xs).2 ys).2) := by
  induction xs generalizing mode with
  | nil => rfl
  | cons c cs ih =>
      rw [List.cons_append, scan, ih, scan]
      simp

theorem tokensFrom_cons (mode : Mode) (c : Char) (cs : List Char) :
    tokensFrom mode (c :: cs) = (tokensFrom (step mode c).2 cs).map ((step mode c).1 ++ ·) := by
  simp only [tokensFrom, scan, Option.map_map]
  congr 1
  funext ts
  simp

theorem tokensFrom_append (mode : Mode) (xs ys : List Char) :
    tokensFrom mode (xs ++ ys) =
      (tokensFrom (scan mode xs).2 ys).map ((scan mode xs).1 ++ ·) := by
  simp only [tokensFrom, scan_append, Option.map_map]
  congr 1
  funext ts
  simp

/-- A text that ends a token in front of it: it does not go on with a word, nor does it start with a
quote, which might belong to the one in front. -/
def Breaks (cs : List Char) : Prop := ∀ c ∈ cs.head?, isWordChar c = false ∧ quote? c = none

theorem breaks_cons {c : Char} {cs : List Char} (hword : isWordChar c = false)
    (hquote : quote? c = none) : Breaks (c :: cs) := by
  intro d hd
  cases hd
  exact ⟨hword, hquote⟩

/-- At a break the token in front ends, and the text is read as if it stood alone. -/
theorem tokensFrom_of_breaks {mode : Mode} {last : List Token} (hlast : finish mode = some last)
    {cs : List Char} (h : Breaks cs) :
    tokensFrom mode cs = (tokens cs).map (last ++ ·) := by
  cases cs with
  | nil =>
      have hnil : tokens [] = some [] := rfl
      rw [tokensFrom, scan, hlast, hnil]
      simp
  | cons c cs =>
      obtain ⟨hword, hquote⟩ := h c rfl
      -- whichever token is open, the first character ends it and starts anew
      have hstep : step mode c = (last ++ (start c).1, (start c).2) := by
        cases mode with
        | between =>
            cases hlast
            rfl
        | inWord read =>
            cases hlast
            rw [step, if_neg (by simp [hword])]
            rfl
        | inQuotes quote read => cases hlast
        | behindQuote quote read =>
            cases hlast
            have hne : c ≠ quote.char := by
              rintro rfl
              cases quote <;> cases hquote
            rw [step, if_neg hne]
            rfl
      rw [tokens, tokensFrom_cons, tokensFrom_cons, hstep, Option.map_map]
      congr 1
      funext ts
      simp [step]

/-- **Texts are read one after the other**, if the second one ends the last token of the first. -/
theorem tokens_append {xs ys : List Char} {ts us : List Token} (hxs : tokens xs = some ts)
    (hys : tokens ys = some us) (h : Breaks ys) : tokens (xs ++ ys) = some (ts ++ us) := by
  obtain ⟨last, hlast, hts⟩ := Option.map_eq_some_iff.1 hxs
  rw [tokens, tokensFrom_append, tokensFrom_of_breaks hlast h, hys, ← hts]
  simp

/-! ### Tokens -/

theorem tokens_blank (cs : List Char) : tokens (' ' :: cs) = tokens cs := by
  have hstep : step .between ' ' = ([], .between) := by decide
  rw [tokens, tokensFrom_cons, hstep]
  simp [tokens]

/-- A mark is a token, whatever follows it. -/
theorem tokens_mark {c : Char} (hc : start c = ([.mark c], .between)) (cs : List Char) :
    tokens (c :: cs) = (tokens cs).map (.mark c :: ·) := by
  rw [tokens, tokensFrom_cons, step, hc]
  rfl

theorem scan_word {read cs : List Char} (h : ∀ c ∈ cs, isWordChar c = true) :
    scan (.inWord read) cs = ([], .inWord (read ++ cs)) := by
  induction cs generalizing read with
  | nil => simp [scan]
  | cons c cs ih =>
      have hstep : step (.inWord read) c = ([], .inWord (read ++ [c])) := by
        rw [step, if_pos (h c (by simp))]
      rw [scan, hstep, ih fun d hd => h d (by simp [hd])]
      simp

theorem tokens_word {cs : List Char} (hne : cs ≠ []) (h : ∀ c ∈ cs, isWordChar c = true) :
    tokens cs = some [.word cs] := by
  cases cs with
  | nil => exact absurd rfl hne
  | cons c cs =>
      have hstart : step .between c = ([], .inWord [c]) := by
        rw [step, start, if_pos (h c (by simp))]
      rw [tokens, tokensFrom_cons, hstart, tokensFrom, scan_word fun d hd => h d (by simp [hd])]
      rfl

/-- Within quotes two quotes stand for one, and anything else for itself. -/
theorem scan_doubled (quote : Quote) (read cs : List Char) :
    scan (.inQuotes quote read) (doubled quote.char cs) = ([], .inQuotes quote (read ++ cs)) := by
  induction cs generalizing read with
  | nil => simp [scan]
  | cons c cs ih =>
      rw [doubled]
      split
      · next h =>
          subst h
          simp [scan, step, ih]
      · next h => simp [scan, step, h, ih]

/-- A text in quotes is one token, whatever it holds. -/
theorem tokens_quoted (quote : Quote) (cs : List Char) :
    tokens (enclosed quote.char (doubled quote.char cs)) = some [.quoted quote cs] := by
  have hstart : step .between quote.char = ([], .inQuotes quote []) := by
    cases quote <;> decide
  rw [tokens, enclosed, List.cons_append, tokensFrom_cons, hstart, tokensFrom_append, scan_doubled]
  simp [tokensFrom, scan, step, finish]

end SqlFilter.Sql
