/-
**Query options.**

What a query asks for besides its conditions: which columns, in which order, how many rows; and the
configuration that all queries of a table share: which clauses put their names into quotes, and what
becomes of conditions without a value.

Main definitions:

* `SqlFilter.FieldList`, `SqlFilter.SortList`, `SqlFilter.GroupList`: the shapes of lists of
  columns;
* `SqlFilter.QueryOptions`: the options of one query;
* `SqlFilter.Escaping`, `SqlFilter.UndefinedPolicy`: the two settings of a configuration;
* `SqlFilter.Configuration`: a configuration.
-/

import SqlFilter.Entries

set_option relaxedAutoImplicit false
set_option autoImplicit false

namespace SqlFilter

/-! ### Lists of columns -/

/-- What is selected: columns, or one expression as it stands. -/
inductive FieldList where
  | columns (names : List String)
  | expression (text : String)
  deriving Repr, DecidableEq

/-- What rows are sorted by: items between commas, a list of items, or distinct columns
with the names of their directions. -/
inductive SortList where
  | expression (text : String)
  | columns (items : List String)
  | directions (pairs : List (String × String)) (nodup : (Entries.keys pairs).Nodup)
  deriving Repr, DecidableEq

/-- What rows are grouped by: items between commas, or a list of items. -/
inductive GroupList where
  | expression (text : String)
  | columns (items : List String)
  deriving Repr, DecidableEq

/-! ### Options -/

/-- The options of one query. -/
structure QueryOptions where
  fields : Option FieldList := none
  distinct : Bool := false
  orderBy : Option SortList := none
  /-- Whether nulls come first in the order; nothing leaves it to the server. -/
  nullsFirst : Option Bool := none
  groupBy : Option GroupList := none
  limit : Option Int64 := none
  offset : Option Int64 := none
  forUpdate : Bool := false
  /-- Whether names are put into quotes, over what the configuration says. -/
  escapeColumns : Option Bool := none
  /-- Whether conditions without a value are skipped, over what the configuration says. -/
  skipUndefined : Option Bool := none
  deriving Repr, DecidableEq

/-! ### Configurations -/

/-- Which clauses put their names into quotes. -/
structure Escaping where
  select : Bool := true
  orderBy : Bool := true
  groupBy : Bool := true
  deriving Repr, DecidableEq

namespace Escaping

/-- The same for every clause. -/
def everywhere (escape : Bool) : Escaping := ⟨escape, escape, escape⟩

/-- The setting for one query, whose own word goes over the configuration. -/
def resolve (setting : Escaping) : Option Bool → Escaping
  | some escape => everywhere escape
  | none => setting

end Escaping

/-- What becomes of conditions without a value. -/
inductive UndefinedPolicy where
  /-- They are left out. -/
  | skip
  /-- The statement is refused. -/
  | refuse
  deriving Repr, DecidableEq

namespace UndefinedPolicy

/-- The policy for one query, whose own word goes over the configuration. -/
def resolve (policy : UndefinedPolicy) : Option Bool → UndefinedPolicy
  | some true => .skip
  | some false => .refuse
  | none => policy

end UndefinedPolicy

/-- What all statements for a table share. -/
structure Configuration where
  escaping : Escaping := {}
  undefinedPolicy : UndefinedPolicy := .skip
  deriving Repr, DecidableEq

namespace Configuration

/-- No name is put into quotes. -/
def unescaped : Configuration := ⟨.everywhere false, .skip⟩

/-- Conditions without a value are refused. -/
def strict : Configuration := ⟨{}, .refuse⟩

end Configuration

end SqlFilter
