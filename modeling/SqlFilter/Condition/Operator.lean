/-
**Operators.**

A condition key may end in an operator token.  The table below gives the operator of the server that
each token stands for.  Two tokens also adjust what they compare: one ignores letter case on both
sides, the other looks for its value anywhere in the field.

Main definitions:

* `SqlFilter.Comparison`: the operators of the server;
* `SqlFilter.ValueAdjustment`: what is done to a value before it is compared;
* `SqlFilter.Operator`, `SqlFilter.Operator.all`: the tokens and what they stand for;
* `SqlFilter.Operator.lookup?`: the operator of a token;
* `SqlFilter.escapePattern`: a text as a pattern for itself.

Main results:

* `SqlFilter.Operator.lookup?_token`: each token finds its own operator, so no token stands twice.
-/

import SqlFilter.Text.LowerCase
import SqlFilter.Value.Basic

set_option relaxedAutoImplicit false
set_option autoImplicit false

namespace SqlFilter

/-! ### Operators of the server -/

/-- The operators of the server. -/
inductive Comparison where
  | equal
  | notEqual
  | bangEqual
  | less
  | greater
  | lessEqual
  | greaterEqual
  | isNot
  | textMatch
  | contains
  | containedIn
  | overlaps
  | hasKey
  | hasAnyKey
  | hasAllKeys
  | like
  | notLike
  | caselessLike
  | notCaselessLike
  | similar
  | notSimilar
  | regex
  | notRegex
  | caselessRegex
  | notCaselessRegex
  | distinct
  | notDistinct
  deriving Repr, DecidableEq

/-- Whether a pattern has to match some element of a list or all of them. -/
inductive Quantifier where
  | any
  | all
  deriving Repr, DecidableEq

/-- The spelling of a quantifier. -/
def Quantifier.sql : Quantifier → String
  | .any => "ANY"
  | .all => "ALL"

namespace Comparison

/-- The spelling of an operator. -/
def sql : Comparison → String
  | .equal => "="
  | .notEqual => "<>"
  | .bangEqual => "!="
  | .less => "<"
  | .greater => ">"
  | .lessEqual => "<="
  | .greaterEqual => ">="
  | .isNot => "IS NOT"
  | .textMatch => "@@"
  | .contains => "@>"
  | .containedIn => "<@"
  | .overlaps => "&&"
  | .hasKey => "?"
  | .hasAnyKey => "?|"
  | .hasAllKeys => "?&"
  | .like => "LIKE"
  | .notLike => "NOT LIKE"
  | .caselessLike => "ILIKE"
  | .notCaselessLike => "NOT ILIKE"
  | .similar => "SIMILAR TO"
  | .notSimilar => "NOT SIMILAR TO"
  | .regex => "~"
  | .notRegex => "!~"
  | .caselessRegex => "~*"
  | .notCaselessRegex => "!~*"
  | .distinct => "IS DISTINCT FROM"
  | .notDistinct => "IS NOT DISTINCT FROM"

/-- Whether the operator asks for equality or inequality. -/
def isEquality : Comparison → Bool
  | .equal | .notEqual | .bangEqual => true
  | _ => false

/-- Whether the operator compares by order. -/
def isOrder : Comparison → Bool
  | .less | .greater | .lessEqual | .greaterEqual => true
  | _ => false

/-- Whether the operator compares two sets. -/
def isSetRelation : Comparison → Bool
  | .contains | .containedIn | .overlaps => true
  | _ => false

/-- Whether the operator asks for several keys of a document. -/
def isKeyQuestion : Comparison → Bool
  | .hasAnyKey | .hasAllKeys => true
  | _ => false

/-- How a pattern operator goes through a list: a positive one asks for some match, a negative one
excludes all matches. -/
def quantifier? : Comparison → Option Quantifier
  | .like | .caselessLike | .similar | .regex | .caselessRegex => some .any
  | .notLike | .notCaselessLike | .notSimilar | .notRegex | .notCaselessRegex => some .all
  | _ => none

/-- Whether the operator matches with the wildcards of `LIKE` or `SIMILAR TO`. -/
def isWildcard : Comparison → Bool
  | .like | .notLike | .caselessLike | .notCaselessLike | .similar | .notSimilar => true
  | _ => false

/-- The spelling of the operator against null, where it has one. -/
def nullSql? : Comparison → Option String
  | .equal => some "IS"
  | .notEqual | .bangEqual | .isNot => some "IS NOT"
  | .distinct => some "IS DISTINCT FROM"
  | .notDistinct => some "IS NOT DISTINCT FROM"
  | _ => none

end Comparison

/-! ### Adjusting values -/

/-- Whether a character has a meaning of its own in a pattern. -/
def isPatternChar (c : Char) : Bool := c == '%' || c == '_' || c == '\\'

/-- A text as a pattern for itself: a backslash in front of every character that has a meaning. -/
def escapePattern : List Char → List Char
  | [] => []
  | c :: cs => if isPatternChar c then '\\' :: c :: escapePattern cs else c :: escapePattern cs

@[simp] theorem escapePattern_nil : escapePattern [] = [] := rfl

/-- A string as a pattern for itself. -/
def escapedPattern (text : String) : String := String.ofList (escapePattern text.toList)

/-- The pattern of the texts that have `text` somewhere in them. -/
def containingPattern (text : String) : String := "%" ++ escapedPattern text ++ "%"

/-- What is done to a value before it is compared. -/
inductive ValueAdjustment where
  /-- A text is put into lower case. -/
  | lowerCase
  /-- A text becomes the pattern of the texts that contain it. -/
  | containing
  deriving Repr, DecidableEq

namespace ValueAdjustment

/-- Adjusts a value; only texts change. -/
def apply : ValueAdjustment → Value → Value
  | .lowerCase, .text s => .text (Text.lowered s)
  | .containing, .text s => .text (containingPattern s)
  | _, v => v

end ValueAdjustment

/-! ### Tokens -/

/-- A token with what it stands for. -/
structure Operator where
  token : String
  comparison : Comparison
  adjustment : Option ValueAdjustment
  /-- Whether the field is put into lower case too. -/
  lowersField : Bool
  deriving Repr, DecidableEq

namespace Operator

/-- A token that only names an operator. -/
def plain (token : String) (comparison : Comparison) : Operator := ⟨token, comparison, none, false⟩

/-- All tokens. -/
def all : List Operator :=
  [plain "=" .equal,
    plain "!" .notEqual,
    plain ">" .greater,
    plain "<" .less,
    plain ">=" .greaterEqual,
    plain "<=" .lessEqual,
    plain "!=" .bangEqual,
    plain "<>" .notEqual,
    plain "is not" .isNot,
    plain "@@" .textMatch,
    plain "@>" .contains,
    plain "<@" .containedIn,
    plain "&&" .overlaps,
    plain "?" .hasKey,
    plain "?|" .hasAnyKey,
    plain "?&" .hasAllKeys,
    plain "~~" .like,
    plain "like" .like,
    plain "!~~" .notLike,
    plain "not like" .notLike,
    plain "~~*" .caselessLike,
    plain "ilike" .caselessLike,
    plain "!~~*" .notCaselessLike,
    plain "not ilike" .notCaselessLike,
    plain "similar to" .similar,
    plain "not similar to" .notSimilar,
    plain "~" .regex,
    plain "!~" .notRegex,
    plain "~*" .caselessRegex,
    plain "!~*" .notCaselessRegex,
    plain "is distinct from" .distinct,
    plain "is not distinct from" .notDistinct,
    ⟨"=*", .equal, some .lowerCase, true⟩,
    ⟨"icontains", .caselessLike, some .containing, false⟩]

/-- The operator of a token. -/
def lookup? (token : List Char) : Option Operator := all.find? fun op => op.token.toList == token

/-- Whether the token is made of words, which have to stand apart from the field. -/
def isWord (op : Operator) : Bool := (op.token.toList.head?.map Char.isAlpha).getD false

/-- Each token finds its own operator, so no token stands twice. -/
theorem lookup?_token {op : Operator} (h : op ∈ all) : lookup? op.token.toList = some op := by
  have key : ∀ op ∈ all, lookup? op.token.toList = some op := by decide +kernel
  exact key op h

/-- An operator that is found is in the table, under that token. -/
theorem of_lookup? {token : List Char} {op : Operator} (h : lookup? token = some op) :
    op ∈ all ∧ op.token.toList = token := by
  refine ⟨List.mem_of_find?_eq_some h, ?_⟩
  simpa using List.find?_some h

end Operator

end SqlFilter
