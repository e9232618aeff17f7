/-
**Boolean expressions of statements.**

The condition of a statement is a boolean expression over three truth values: a comparison with null
is neither true nor false.  The reader below finds its structure the way the server does.  It
works on tokens, so nothing within quotes counts; what stands between parentheses is read on its
own; and a text is split at `OR` before it is split at `AND`, which therefore binds tighter.
Whatever is left is an operand: a parenthesized expression, the constant `TRUE`, or else an atom, in
which parentheses are part of its text.

Main definitions:

* `SqlFilter.Sql.Truth`: the truth values, with conjunction and disjunction;
* `SqlFilter.Sql.Formula`: expressions over atoms;
* `SqlFilter.Sql.Formula.eval`: the value of an expression, each atom by its place in the text;
* `SqlFilter.Sql.Piece`, `SqlFilter.Sql.group?`: tokens with their parentheses resolved;
* `SqlFilter.Sql.join`: splitting at connectives;
* `SqlFilter.Sql.Formula.ofSql`: reading a text.

Main results:

* `SqlFilter.Sql.Truth.and_assoc`: conjunction is associative, and true changes nothing in it;
* `SqlFilter.Sql.Formula.eval_conjoin`, `SqlFilter.Sql.Formula.eval_disjoin`: the values of joined
  expressions.
-/

import SqlFilter.Proofs.Sql.Token

set_option relaxedAutoImplicit false
set_option autoImplicit false

namespace SqlFilter.Sql

/-! ### Truth values -/

/-- The truth values; a comparison with null is unknown. -/
inductive Truth where
  | true
  | false
  | unknown
  deriving Repr, DecidableEq

namespace Truth

/-- False if one side is, true if both are. -/
def and : Truth → Truth → Truth
  | .true, b => b
  | .false, _ => .false
  | .unknown, .false => .false
  | .unknown, _ => .unknown

/-- True if one side is, false if both are. -/
def or : Truth → Truth → Truth
  | .true, _ => .true
  | .false, b => b
  | .unknown, .true => .true
  | .unknown, _ => .unknown

@[simp] theorem true_and (a : Truth) : Truth.true.and a = a := rfl

@[simp] theorem and_true (a : Truth) : a.and .true = a := by
  cases a <;> rfl

@[simp] theorem false_or (a : Truth) : Truth.false.or a = a := rfl

@[simp] theorem or_false (a : Truth) : a.or .false = a := by
  cases a <;> rfl

theorem and_assoc (a b c : Truth) : (a.and b).and c = a.and (b.and c) := by
  cases a <;> cases b <;> cases c <;> rfl

end Truth

/-! ### Expressions -/

/-- A boolean expression; an atom is known by its tokens. -/
inductive Formula where
  | always
  | atom (text : List Token)
  | and (left right : Formula)
  | or (left right : Formula)
  deriving Repr, DecidableEq

namespace Formula

/-- The atoms of an expression, from left to right. -/
def atoms : Formula → List (List Token)
  | .always => []
  | .atom text => [text]
  | .and left right => left.atoms ++ right.atoms
  | .or left right => left.atoms ++ right.atoms

/-- The value of an expression that starts with the atom number `i`, if the atoms have the values
`σ`. -/
def eval (σ : Nat → Truth) (i : Nat) : Formula → Truth
  | .always => .true
  | .atom _ => σ i
  | .and left right => (left.eval σ i).and (right.eval σ (i + left.atoms.length))
  | .or left right => (left.eval σ i).or (right.eval σ (i + left.atoms.length))

/-- All of some expressions. -/
def conjoin : List Formula → Formula
  | [] => .always
  | [e] => e
  | e :: e' :: es => .and e (conjoin (e' :: es))

/-- One of some expressions. -/
def disjoin : List Formula → Formula
  | [] => .always
  | [e] => e
  | e :: e' :: es => .or e (disjoin (e' :: es))

/-- The conjunction of the values of expressions that stand one after the other. -/
def evalAll (σ : Nat → Truth) (i : Nat) : List Formula → Truth
  | [] => .true
  | e :: es => (e.eval σ i).and (evalAll σ (i + e.atoms.length) es)

/-- Their disjunction. -/
def evalAny (σ : Nat → Truth) (i : Nat) : List Formula → Truth
  | [] => .false
  | e :: es => (e.eval σ i).or (evalAny σ (i + e.atoms.length) es)

variable (σ : Nat → Truth)

theorem atoms_conjoin (es : List Formula) : (conjoin es).atoms = es.flatMap atoms := by
  fun_induction conjoin es with
  | case1 => rfl
  | case2 e => simp
  | case3 e e' es ih =>
      rw [atoms, ih]
      rfl

theorem atoms_disjoin (es : List Formula) : (disjoin es).atoms = es.flatMap atoms := by
  fun_induction disjoin es with
  | case1 => rfl
  | case2 e => simp
  | case3 e e' es ih =>
      rw [atoms, ih]
      rfl

/-- The value of all of some expressions. -/
theorem eval_conjoin (i : Nat) (es : List Formula) :
    (conjoin es).eval σ i = evalAll σ i es := by
  fun_induction conjoin es generalizing i with
  | case1 => rfl
  | case2 e => simp [evalAll]
  | case3 e e' es ih =>
      rw [eval, ih]
      rfl

/-- The value of one of some expressions, of which there has to be one. -/
theorem eval_disjoin (i : Nat) {es : List Formula} (h : es ≠ []) :
    (disjoin es).eval σ i = evalAny σ i es := by
  fun_induction disjoin es generalizing i with
  | case1 => exact absurd rfl h
  | case2 e => simp [evalAny]
  | case3 e e' es ih =>
      rw [eval, ih _ (List.cons_ne_nil e' es)]
      rfl

theorem evalAll_append (i : Nat) (es fs : List Formula) :
    evalAll σ i (es ++ fs) =
      (evalAll σ i es).and (evalAll σ (i + (es.flatMap atoms).length) fs) := by
  induction es generalizing i with
  | nil => simp [evalAll]
  | cons e es ih =>
      rw [List.cons_append, evalAll, ih, evalAll, Truth.and_assoc, List.flatMap_cons,
        List.length_append, Nat.add_assoc]

end Formula

/-! ### The reader -/

/-- Whether a token is a keyword, in letters of either case. -/
def Token.isKeyword (keyword : String) : Token → Bool
  | .word text => text.map Char.toUpper == keyword.toList
  | _ => false

/-- A piece of an expression: a token, or what stands between parentheses, with its own reading. -/
inductive Piece where
  | token (t : Token)
  | parens (inside : List Token) (reading : Option Formula)

namespace Piece

/-- The tokens of a piece. -/
def tokens : Piece → List Token
  | .token t => [t]
  | .parens inside _ => .mark '(' :: inside ++ [.mark ')']

/-- Whether a piece is a keyword. -/
def isKeyword (keyword : String) : Piece → Bool
  | .token t => t.isKeyword keyword
  | .parens _ _ => false

end Piece

/-- Reads what stands between two connectives, which must not be nothing. -/
def operand : List Piece → Option Formula
  | [] => none
  | [.parens _ reading] => reading
  | [.token t] => some (if t.isKeyword "TRUE" then .always else .atom [t])
  | ps => some (.atom (ps.flatMap Piece.tokens))

/-- Reads pieces without an `OR` among them. -/
def conjunction (ps : List Piece) : Option Formula :=
  ((ps.splitOnP (Piece.isKeyword "AND")).mapM operand).map Formula.conjoin

/-- Reads pieces. -/
def join (ps : List Piece) : Option Formula :=
  ((ps.splitOnP (Piece.isKeyword "OR")).mapM conjunction).map Formula.disjoin

/-- The pieces of the parentheses that are open, from the innermost ones outwards, and the pieces
that stand behind the last parenthesis. -/
structure Grouping where
  opened : List (List Piece)
  current : List Piece

/-- Takes a token in; a closing parenthesis needs an open one. -/
def Grouping.step (g : Grouping) (t : Token) : Option Grouping :=
  if t = .mark '(' then some ⟨g.current :: g.opened, []⟩
  else if t = .mark ')' then
    match g.opened with
    | [] => none
    | outer :: opened =>
        some ⟨opened, outer ++ [.parens (g.current.flatMap Piece.tokens) (join g.current)]⟩
  else some ⟨g.opened, g.current ++ [.token t]⟩

/-- Resolves the parentheses of tokens; every one of them has to be closed. -/
def group? (ts : List Token) : Option (List Piece) :=
  match ts.foldlM Grouping.step ⟨[], []⟩ with
  | some ⟨[], ps⟩ => some ps
  | _ => none

/-- Reads a text; a text without a token asks for nothing. -/
def Formula.ofSql (text : List Char) : Option Formula :=
  match tokens text with
  | none => none
  | some [] => some .always
  | some (t :: ts) => (group? (t :: ts)).bind join

end SqlFilter.Sql
