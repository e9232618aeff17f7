/-
**The JSON forms of options and configurations.**

Options, configurations and the kinds of columns can be given as JSON texts.  A record is an object,
in which unknown members mean nothing and known ones stand at most once, or a list of its fields in
order; a field that is missing has its default.  A choice is told by the shape of what is written.

Reading starts from the spelling of the text, because a record is stricter than a document about
repeated members and more lenient about what it does not read.

Main definitions:

* `SqlFilter.Form`: readers of spelled values;
* `SqlFilter.QueryOptions.parse?`, `SqlFilter.QueryOptions.toJson`: options;
* `SqlFilter.Escaping.parse?`, `SqlFilter.Configuration.parse?` and their `toJson`: configurations;
* `SqlFilter.ColumnKinds.parse?`: the kinds of columns.
-/

import SqlFilter.Error
import SqlFilter.Json.Document
import SqlFilter.Number.Power
import SqlFilter.Query.Options

set_option relaxedAutoImplicit false
set_option autoImplicit false

namespace SqlFilter

open SqlFilter.Json (Spelling mostOpen textOf?)
open SqlFilter.Number (twoPow)

/-! ### Reading spelled values -/

namespace Form

/-- A truth value. -/
def bool? : Spelling → Option Bool
  | .bool b => some b
  | _ => none

/-- A text. -/
def text? : Spelling → Option String
  | .string units => textOf? units
  | _ => none

/-- A whole number of 64 bits with a sign. -/
def int64? : Spelling → Option Int64
  | .number n =>
      match n.int? with
      | some k => if -twoPow 63 ≤ k ∧ k < twoPow 63 then some (Int64.ofInt k) else none
      | none => none
  | _ => none

/-- The texts of a list. -/
def textItems? : List Spelling → Option (List String)
  | [] => some []
  | item :: items =>
      match text? item, textItems? items with
      | some text, some texts => some (text :: texts)
      | _, _ => none

/-- A value that may be null instead. -/
def optional? {α : Type} (read : Spelling → Option α) : Spelling → Option (Option α)
  | .null => some none
  | s => (read s).map some

/-- A value that has to be a document before it is looked at. -/
def document? {α : Type} (room : Nat) (read : Spelling → Option α) (s : Spelling) : Option α :=
  if s.isDocument room then read s else none

/-- A field that has a default. -/
def orDefault? {α : Type} (missing : α) (read : Spelling → Option α) :
    Option Spelling → Option α
  | none => some missing
  | some s => read s

/-- Members under the texts of their keys, each read; the order and repetitions stay. -/
def pairs? {α : Type} (read : Spelling → Option α) :
    List (List Nat × Spelling) → Option (List (String × α))
  | [] => some []
  | (key, value) :: members =>
      match textOf? key, read value, pairs? read members with
      | some key, some value, some pairs => some ((key, value) :: pairs)
      | _, _, _ => none

/-- The members of an object that a record knows, if none of them stands twice. -/
def known? (names : List String) (members : List (List Nat × Spelling)) :
    Option (List (Option Spelling)) :=
  match pairs? some members with
  | none => none
  | some pairs =>
      if names.any fun name => 1 < (Entries.keys pairs).count name then none
      else some (names.map fun name => Entries.get? name pairs)

/-- The fields of a record that is written as a list. -/
def listed? : List String → List Spelling → Option (List (Option Spelling))
  | names, [] => some (names.map fun _ => none)
  | [], _ :: _ => none
  | _ :: names, item :: items => (listed? names items).map (some item :: ·)

/-- The fields of a record, in the order of their names. -/
def fields? (names : List String) : Spelling → Option (List (Option Spelling))
  | .object members => known? names members
  | .array items => listed? names items
  | _ => none

/-- The name of a choice: a text, or the only key of an object under which null stands. -/
def choice? : Spelling → Option String
  | .string units => textOf? units
  | .object [(key, .null)] => textOf? key
  | _ => none

end Form

/-! ### The kinds of columns -/

/-- Reads a kind. -/
def ColumnKind.ofSpelling? (s : Spelling) : Option ColumnKind :=
  (Form.choice? s).bind ColumnKind.ofName?

/-- Reads the kinds of the columns of a table. -/
def ColumnKinds.ofSpelling? : Spelling → Option ColumnKinds
  | .object members => (Form.pairs? ColumnKind.ofSpelling? members).map ColumnKinds.ofList
  | _ => none

/-- Reads the kinds of the columns of a table from a JSON text. -/
def ColumnKinds.parse? (text : String) : Option ColumnKinds :=
  (Spelling.ofChars? text.toList).bind ofSpelling?

/-! ### Lists of columns -/

namespace FieldList

/-- Reads a list of names or an expression. -/
def ofSpelling? : Spelling → Option FieldList
  | .array items => (Form.textItems? items).map .columns
  | .string units => (textOf? units).map .expression
  | _ => none

/-- The document of a select list. -/
def toJson : FieldList → Json
  | .columns names => .array (names.map .string)
  | .expression text => .string text

end FieldList

namespace SortList

/-- Columns with directions; of a repeated column the last direction counts. -/
def ofPairs (pairs : List (String × String)) : SortList :=
  .directions (Entries.collect pairs) (Entries.nodup_keys_collect pairs)

/-- Reads items between commas, a list of items, or columns with directions. -/
def ofSpelling? : Spelling → Option SortList
  | .string units => (textOf? units).map .expression
  | .array items => (Form.textItems? items).map .columns
  | .object members => (Form.pairs? Form.text? members).map ofPairs
  | _ => none

/-- The document of an order. -/
def toJson : SortList → Json
  | .expression text => .string text
  | .columns items => .array (items.map .string)
  | .directions pairs _ => .object (pairs.map fun pair => (pair.1, .string pair.2))

end SortList

namespace GroupList

/-- Reads items between commas or a list of items. -/
def ofSpelling? : Spelling → Option GroupList
  | .string units => (textOf? units).map .expression
  | .array items => (Form.textItems? items).map .columns
  | _ => none

/-- The document of a grouping. -/
def toJson : GroupList → Json
  | .expression text => .string text
  | .columns items => .array (items.map .string)

end GroupList

/-! ### Options -/

namespace QueryOptions

/-- The names of the options, in order. -/
def names : List String :=
  ["fields", "distinct", "order_by", "order_by_nulls_first", "group_by", "limit", "offset",
    "for_update", "force_escape_columns", "skip_undefined"]

/-- The brackets that may be open inside of a record. -/
def innerRoom : Nat := mostOpen - 1

/-- Reads a choice between shapes, which may be null instead. -/
def shaped? {α : Type} (read : Spelling → Option α) : Option Spelling → Option (Option α) :=
  Form.orDefault? none (Form.optional? (Form.document? innerRoom read))

/-- Reads a value that may be null instead. -/
def plain? {α : Type} (read : Spelling → Option α) : Option Spelling → Option (Option α) :=
  Form.orDefault? none (Form.optional? read)

/-- Reads the fields of options. -/
def ofFields? : List (Option Spelling) → Option QueryOptions
  | [fields, distinct, orderBy, nullsFirst, groupBy, limit, offset, forUpdate, escapeColumns,
      skipUndefined] => do
    let fields ← shaped? FieldList.ofSpelling? fields
    let distinct ← Form.orDefault? false Form.bool? distinct
    let orderBy ← shaped? SortList.ofSpelling? orderBy
    let nullsFirst ← plain? Form.bool? nullsFirst
    let groupBy ← shaped? GroupList.ofSpelling? groupBy
    let limit ← plain? Form.int64? limit
    let offset ← plain? Form.int64? offset
    let forUpdate ← Form.orDefault? false Form.bool? forUpdate
    let escapeColumns ← plain? Form.bool? escapeColumns
    let skipUndefined ← plain? Form.bool? skipUndefined
    some ⟨fields, distinct, orderBy, nullsFirst, groupBy, limit, offset, forUpdate, escapeColumns,
      skipUndefined⟩
  | _ => none

/-- Reads options. -/
def ofSpelling? (s : Spelling) : Option QueryOptions := (Form.fields? names s).bind ofFields?

/-- Reads options from a JSON text. -/
def parse? (text : String) : Option QueryOptions :=
  (Spelling.ofChars? text.toList).bind ofSpelling?

/-- The document of a value that may be missing. -/
def optionalJson {α : Type} (write : α → Json) : Option α → Json
  | none => .null
  | some a => write a

/-- The members of the document of options, all of them, in order. -/
def members (o : QueryOptions) : List (String × Json) :=
  [("fields", optionalJson FieldList.toJson o.fields),
    ("distinct", .bool o.distinct),
    ("order_by", optionalJson SortList.toJson o.orderBy),
    ("order_by_nulls_first", optionalJson .bool o.nullsFirst),
    ("group_by", optionalJson GroupList.toJson o.groupBy),
    ("limit", optionalJson Json.ofInt64 o.limit),
    ("offset", optionalJson Json.ofInt64 o.offset),
    ("for_update", .bool o.forUpdate),
    ("force_escape_columns", optionalJson .bool o.escapeColumns),
    ("skip_undefined", optionalJson .bool o.skipUndefined)]

/-- The document of options. -/
def toJson (o : QueryOptions) : Json := .object o.members

end QueryOptions

/-! ### Configurations -/

namespace Escaping

/-- The names of the clauses, in order. -/
def names : List String := ["select", "order_by", "group_by"]

/-- Reads the settings of the clauses, which are on by default. -/
def ofFields? : List (Option Spelling) → Option Escaping
  | [select, orderBy, groupBy] => do
      let select ← Form.orDefault? true Form.bool? select
      let orderBy ← Form.orDefault? true Form.bool? orderBy
      let groupBy ← Form.orDefault? true Form.bool? groupBy
      some ⟨select, orderBy, groupBy⟩
  | _ => none

/-- Reads one setting for all clauses, or an object of settings. -/
def ofSpelling? : Spelling → Option Escaping
  | .bool b => some (everywhere b)
  | .object members => (Form.known? names members).bind ofFields?
  | _ => none

/-- Reads settings from a JSON text. -/
def parse? (text : String) : Option Escaping :=
  (Spelling.ofChars? text.toList).bind (Form.document? mostOpen ofSpelling?)

/-- The document of settings. -/
def toJson (e : Escaping) : Json :=
  .object [("select", .bool e.select), ("order_by", .bool e.orderBy), ("group_by", .bool e.groupBy)]

end Escaping

namespace UndefinedPolicy

/-- The name of a policy. -/
def name : UndefinedPolicy → String
  | .skip => "skip"
  | .refuse => "error"

/-- The policy of a name. -/
def ofName? (name : String) : Option UndefinedPolicy :=
  if name = "skip" then some .skip else if name = "error" then some .refuse else none

/-- Reads a policy. -/
def ofSpelling? (s : Spelling) : Option UndefinedPolicy := (Form.choice? s).bind ofName?

/-- The document of a policy. -/
def toJson (p : UndefinedPolicy) : Json := .string p.name

end UndefinedPolicy

namespace Configuration

/-- The names of the fields, in order. -/
def names : List String := ["force_escape_columns", "undefined_policy"]

/-- Reads the fields of a configuration. -/
def ofFields? : List (Option Spelling) → Option Configuration
  | [escaping, policy] => do
      let escaping ←
        Form.orDefault? {} (Form.document? QueryOptions.innerRoom Escaping.ofSpelling?) escaping
      let policy ← Form.orDefault? .skip UndefinedPolicy.ofSpelling? policy
      some ⟨escaping, policy⟩
  | _ => none

/-- Reads a configuration. -/
def ofSpelling? (s : Spelling) : Option Configuration := (Form.fields? names s).bind ofFields?

/-- A text is not a configuration. -/
def notAConfiguration (text : String) : Error :=
  .serialization ("not a configuration: '" ++ text ++ "'")

/-- Reads a configuration from a JSON text. -/
def parse (text : String) : Except Error Configuration :=
  match (Spelling.ofChars? text.toList).bind ofSpelling? with
  | some configuration => .ok configuration
  | none => .error (notAConfiguration text)

/-- The document of a configuration. -/
def toJson (c : Configuration) : Json :=
  .object [("force_escape_columns", c.escaping.toJson),
    ("undefined_policy", c.undefinedPolicy.toJson)]

end Configuration

end SqlFilter
