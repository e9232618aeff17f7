/-
**Lists of columns that are read back.**

Names of columns are put in quotes and joined by a comma and a space.  A name may hold commas and
spaces itself, and quotes, which are doubled; so a list is read name by name: a name ends at the
first quote that is not followed by another one, and only what stands behind that quote says whether
the list goes on.  In this way every list gives back the names that it was written from, and no two
lists of names have the same text.

Main definitions:

* `SqlFilter.Identifier.readName?`, `SqlFilter.Identifier.readNames?`: readers of names in quotes
  and of lists of them;
* `SqlFilter.readSelectList?`, `SqlFilter.Table.readColumns?`: the names of a select list and of the
  columns of a statement that inserts.

Main results:

* `SqlFilter.Identifier.readNames?_intercalate`: escaped names that are joined are read back;
* `SqlFilter.mapAll_escape_eq_error_iff`: the only name that cannot be escaped is the empty one;
* `SqlFilter.columnLists_readBack`: **lists of columns are read back**, in select lists and in the
  statements that insert.
-/

import SqlFilter.Proofs.Statement.Alignment

set_option relaxedAutoImplicit false
set_option autoImplicit false

namespace SqlFilter

open SqlFilter.Text (doubled enclosed)

/-! ### Readers -/

namespace Identifier

/-- Behind a name there is less text than before. -/
theorem length_lt_of_readDelimited? {cs name rest : List Char}
    (h : readDelimited? cs = some (name, rest)) : rest.length < cs.length := by
  fun_induction readDelimited? cs generalizing name with
  | case1 => cases h
  | case2 cs ih =>
      obtain ⟨⟨name', rest'⟩, hread, heq⟩ := Option.map_eq_some_iff.1 h
      cases heq
      have hlt := ih hread
      simp only [List.length_cons]
      omega
  | case3 cs =>
      cases h
      simp
  | case4 c cs _ _ ih =>
      obtain ⟨⟨name', rest'⟩, hread, heq⟩ := Option.map_eq_some_iff.1 h
      cases heq
      have hlt := ih hread
      simp only [List.length_cons]
      omega

/-- Reads a name in quotes, which has at least one character, and gives what follows it. -/
def readName? : List Char → Option (String × List Char)
  | '"' :: body =>
      match readDelimited? body with
      | some (c :: cs, rest) => some (String.ofList (c :: cs), rest)
      | _ => none
  | _ => none

theorem length_lt_of_readName? {cs rest : List Char} {name : String}
    (h : readName? cs = some (name, rest)) : rest.length < cs.length := by
  unfold readName? at h
  split at h
  · split at h
    · next hread =>
        cases h
        exact Nat.lt_succ_of_lt (length_lt_of_readDelimited? hread)
    · cases h
  · cases h

/-- Reads names in quotes with a comma and a space between them, and gives what follows the last
one. -/
def readNames? (cs : List Char) : Option (List String × List Char) :=
  match h : readName? cs with
  | none => none
  | some (name, ',' :: ' ' :: next) =>
      have := length_lt_of_readName? h
      (readNames? next).map fun (names, behind) => (name :: names, behind)
  | some (name, rest) => some ([name], rest)
termination_by cs.length
decreasing_by
  simp only [List.length_cons] at this
  omega

/-- The last name of a list: something else than a comma follows it. -/
theorem readNames?_last {cs rest : List Char} {name : String}
    (h : readName? cs = some (name, rest)) (hrest : rest.head? ≠ some ',') :
    readNames? cs = some ([name], rest) := by
  rw [readNames?]
  split
  · next hnone =>
      rw [h] at hnone
      cases hnone
  · next hsome =>
      rw [h] at hsome
      cases hsome
      exact absurd rfl hrest
  · next hsome =>
      rw [h] at hsome
      cases hsome
      rfl

/-- A name of a list with a name behind it. -/
theorem readNames?_more {cs next : List Char} {name : String}
    (h : readName? cs = some (name, ',' :: ' ' :: next)) :
    readNames? cs = (readNames? next).map fun (names, behind) => (name :: names, behind) := by
  rw [readNames?]
  split
  · next hnone =>
      rw [h] at hnone
      cases hnone
  · next hsome =>
      rw [h] at hsome
      cases hsome
      rfl
  · next hseparator hsome =>
      rw [h] at hsome
      cases hsome
      exact (hseparator _ rfl).elim

/-- A list of names starts with a quote. -/
theorem head?_of_readNames? {cs rest : List Char} {names : List String}
    (h : readNames? cs = some (names, rest)) : cs.head? = some '"' := by
  have hname : readName? cs ≠ none := by
    intro hnone
    rw [readNames?] at h
    split at h
    · cases h
    · next hsome =>
        rw [hnone] at hsome
        cases hsome
    · next hsome =>
        rw [hnone] at hsome
        cases hsome
  unfold readName? at hname
  split at hname
  · rfl
  · exact absurd rfl hname

/-! ### Written names -/

/-- An escaped name is read back, whatever follows it that is not another quote. -/
theorem readName?_escape {name sql : String} (h : escape name = .ok sql) {rest : List Char}
    (hrest : rest.head? ≠ some '"') : readName? (sql.toList ++ rest) = some (name, rest) := by
  obtain ⟨hname, rfl⟩ := escape_eq_ok_iff.1 h
  have hread := readDelimited?_append name.toList rest hrest
  have htext : (String.ofList (enclosed '"' (doubled '"' name.toList))).toList ++ rest =
      '"' :: (doubled '"' name.toList ++ '"' :: rest) := by
    simp [enclosed]
  obtain ⟨c, cs, hcs⟩ := List.exists_cons_of_ne_nil (mt String.toList_eq_nil_iff.1 hname)
  rw [htext, readName?, hread, hcs]
  dsimp only
  rw [← hcs, String.ofList_toList]

/-- **Escaped names that are joined are read back**, whatever follows them that is neither a quote
nor a comma. -/
theorem readNames?_intercalate {names sqls : List String}
    (h : List.Forall₂ (fun name sql => escape name = .ok sql) names sqls) (hne : names ≠ [])
    {rest : List Char} (hquote : rest.head? ≠ some '"') (hcomma : rest.head? ≠ some ',') :
    readNames? ((", ".intercalate sqls).toList ++ rest) = some (names, rest) := by
  induction h with
  | nil => exact absurd rfl hne
  | @cons name sql names sqls hname hnames ih =>
      cases hnames with
      | nil =>
          rw [String.intercalate_singleton]
          exact readNames?_last (readName?_escape hname hquote) hcomma
      | @cons other sql' names sqls hother hnames =>
          have htext : (", ".intercalate (sql :: sql' :: sqls)).toList ++ rest =
              sql.toList ++ ',' :: ' ' :: ((", ".intercalate (sql' :: sqls)).toList ++ rest) := by
            rw [String.intercalate_cons_cons]
            simp
          rw [htext, readNames?_more (readName?_escape hname (by simp)), ih (by simp)]
          rfl

end Identifier

/-! ### Lists of names -/

/-- **The only name that cannot be escaped is the empty one**, in a list of names, too. -/
theorem mapAll_escape_eq_error_iff {names : List String} {e : Error} :
    mapAll Identifier.escape names = .error e ↔ "" ∈ names ∧ e = Identifier.emptyName := by
  induction names with
  | nil => simp [mapAll]
  | cons name names ih =>
      rw [mapAll]
      by_cases hname : name = ""
      · rw [hname, Identifier.escape, if_pos rfl]
        simp [eq_comm]
      · have hmem : "" ∈ name :: names ↔ "" ∈ names := by simp [Ne.symm hname]
        rw [Identifier.escape_eq_ok_iff.2 ⟨hname, rfl⟩, hmem, ← ih]
        dsimp only
        cases mapAll Identifier.escape names with
        | error e' => simp
        | ok sqls => simp

theorem mapAll_escape_eq_error {names : List String} (h : "" ∈ names) :
    mapAll Identifier.escape names = .error Identifier.emptyName :=
  mapAll_escape_eq_error_iff.2 ⟨h, rfl⟩

/-! ### Select lists -/

/-- The names of a select list in quotes, and whether the word for distinct rows is in front. -/
def readSelectList? (sql : String) : Option (Bool × List String) :=
  let (distinct, list) :=
    match "DISTINCT ".toList.isPrefixOf? sql.toList with
    | some list => (true, list)
    | none => (false, sql.toList)
  match Identifier.readNames? list with
  | some (names, []) => some (distinct, names)
  | _ => none

/-- The options select columns, and their names are put in quotes. -/
structure QueryOptions.SelectsQuoted (options : QueryOptions) (escaping : Escaping)
    (names : List String) : Prop where
  fields_eq : options.fields = some (.columns names)
  names_ne_nil : names ≠ []
  select_eq : (escaping.resolve options.escapeColumns).select = true

/-- What stands behind the word for distinct rows, or in its place, is read. -/
theorem readSelectList?_append (distinct : Bool) {list : String} {names : List String}
    (h : Identifier.readNames? list.toList = some (names, [])) :
    readSelectList? ((if distinct then "DISTINCT " else "") ++ list) = some (distinct, names) := by
  unfold readSelectList?
  cases distinct with
  | true =>
      have hword : "DISTINCT ".toList.isPrefixOf? ("DISTINCT " ++ list).toList =
          some list.toList := by
        rw [String.toList_append]
        exact List.isPrefixOf?_eq_some_iff_append_eq.2 rfl
      rw [if_pos rfl, hword]
      dsimp only
      rw [h]
  | false =>
      have hword : "DISTINCT ".toList.isPrefixOf? list.toList = none := by
        have hhead := Identifier.head?_of_readNames? h
        cases hlist : list.toList with
        | nil => rfl
        | cons c cs =>
            rw [hlist] at hhead
            cases hhead
            rfl
      rw [if_neg Bool.false_ne_true, String.empty_append, hword]
      dsimp only
      rw [h]

namespace QueryOptions

variable {options : QueryOptions} {escaping : Escaping} {names : List String}

/-- The select list of names in quotes. -/
theorem compileFields_of_selectsQuoted (h : options.SelectsQuoted escaping names) :
    options.compileFields escaping =
      (mapAll Identifier.escape names).map fun sqls =>
        (if options.distinct then "DISTINCT " else "") ++ ", ".intercalate sqls := by
  obtain ⟨name, names, rfl⟩ := List.exists_cons_of_ne_nil h.names_ne_nil
  have hquoted : (fun name => columnReference name true) = Identifier.escape := rfl
  rw [compileFields, selectList, h.select_eq, h.fields_eq]
  dsimp only
  rw [hquoted]
  cases mapAll Identifier.escape (name :: names) with
  | error e => rfl
  | ok sqls =>
      cases options.distinct with
      | false => simp [Except.map]
      | true => rfl

theorem compileFields_eq_error_iff (h : options.SelectsQuoted escaping names) {e : Error} :
    options.compileFields escaping = .error e ↔ "" ∈ names ∧ e = Identifier.emptyName := by
  rw [compileFields_of_selectsQuoted h, ← mapAll_escape_eq_error_iff]
  cases mapAll Identifier.escape names with
  | error e' => simp [Except.map]
  | ok sqls => simp [Except.map]

/-- A select list of names in quotes is read back. -/
theorem readSelectList?_compileFields (h : options.SelectsQuoted escaping names) {sql : String}
    (hsql : options.compileFields escaping = .ok sql) :
    readSelectList? sql = some (options.distinct, names) := by
  rw [compileFields_of_selectsQuoted h] at hsql
  obtain ⟨sqls, hsqls, rfl⟩ := map_eq_ok hsql
  have hlist : Identifier.readNames? ((", ".intercalate sqls).toList ++ []) = some (names, []) :=
    Identifier.readNames?_intercalate (mapAll_eq_ok_iff.1 hsqls) h.names_ne_nil (by simp) (by simp)
  rw [List.append_nil] at hlist
  exact readSelectList?_append options.distinct hlist

end QueryOptions

/-- A text is the select list of names in quotes. -/
def IsSelectListOf (names : List String) (sql : String) : Prop :=
  ∃ (options : QueryOptions) (escaping : Escaping),
    options.SelectsQuoted escaping names ∧ options.compileFields escaping = .ok sql

theorem IsSelectListOf.readSelectList? {names : List String} {sql : String}
    (h : IsSelectListOf names sql) :
    (SqlFilter.readSelectList? sql).map Prod.snd = some names := by
  obtain ⟨options, escaping, hselects, hsql⟩ := h
  rw [QueryOptions.readSelectList?_compileFields hselects hsql]
  rfl

/-! ### Statements that insert -/

/-- The names of the columns in quotes of a statement that inserts. -/
def Table.readColumns? (table : Table) (sql : String) : Option (List String) :=
  match ("INSERT INTO " ++ table.quotedName ++ " (").toList.isPrefixOf? sql.toList with
  | none => none
  | some list =>
      match Identifier.readNames? list with
      | none => none
      | some (names, rest) => if ") VALUES ".toList.isPrefixOf rest then some names else none

namespace Table

variable {table : Table}

/-- The columns of a statement that inserts are read back. -/
theorem readColumns?_insertSql {names sqls tuples : List String} (hne : names ≠ [])
    (h : mapAll Identifier.escape names = .ok sqls) :
    table.readColumns? (table.insertSql sqls tuples) = some names := by
  let behind := ") VALUES " ++ ", ".intercalate tuples ++ " RETURNING *"
  let front := "INSERT INTO " ++ table.quotedName ++ " ("
  have htext : (table.insertSql sqls tuples).toList =
      front.toList ++ ((", ".intercalate sqls).toList ++ behind.toList) := by
    unfold insertSql parenthesized
    simp [front, behind]
  have hfront : front.toList.isPrefixOf? (table.insertSql sqls tuples).toList =
      some ((", ".intercalate sqls).toList ++ behind.toList) := by
    rw [htext]
    exact List.isPrefixOf?_eq_some_iff_append_eq.2 rfl
  have hlist : Identifier.readNames? ((", ".intercalate sqls).toList ++ behind.toList) =
      some (names, behind.toList) :=
    Identifier.readNames?_intercalate (mapAll_eq_ok_iff.1 h) hne (by simp [behind])
      (by simp [behind])
  have hbehind : ") VALUES ".toList.isPrefixOf behind.toList = true := by
    rw [List.isPrefixOf_iff_prefix]
    exact ⟨(", ".intercalate tuples ++ " RETURNING *").toList, by simp [behind]⟩
  rw [readColumns?, hfront]
  dsimp only
  rw [hlist]
  dsimp only
  rw [if_pos hbehind]

/-- Why a row cannot be inserted: for an empty name, and without one only for a value. -/
theorem insert_eq_error_iff {row : Row} (hrow : row ≠ []) {e : Error} :
    table.insert row = .error e ↔
      ("" ∈ Entries.keys row ∧ e = Identifier.emptyName) ∨
        ("" ∉ Entries.keys row ∧ table.encodeRow row = .error e) := by
  rw [insert, if_neg hrow]
  by_cases hempty : "" ∈ Entries.keys row
  · rw [mapAll_escape_eq_error hempty]
    simp [hempty, eq_comm]
  · cases hnames : mapAll Identifier.escape (Entries.keys row) with
    | error e' => exact absurd (mapAll_escape_eq_error_iff.1 hnames).1 hempty
    | ok sqls =>
        dsimp only
        cases table.encodeRow row with
        | error e' => simp [hempty]
        | ok values => simp [hempty]

/-- Why rows cannot be inserted: for an empty name in the first one, and without one only for what
the rows are. -/
theorem insertMany_eq_error_iff {first : Row} (hfirst : first ≠ []) (rows : List Row) {e : Error} :
    table.insertMany (first :: rows) = .error e ↔
      ("" ∈ Entries.keys first ∧ e = Identifier.emptyName) ∨
        ("" ∉ Entries.keys first ∧
          table.arrangeAll (Entries.keys first) 0 (first :: rows) = .error e) := by
  obtain ⟨pair, row, rfl⟩ := List.exists_cons_of_ne_nil hfirst
  unfold insertMany
  dsimp only
  by_cases hempty : "" ∈ Entries.keys (pair :: row)
  · rw [mapAll_escape_eq_error hempty]
    simp [hempty, eq_comm]
  · cases hnames : mapAll Identifier.escape (Entries.keys (pair :: row)) with
    | error e' => exact absurd (mapAll_escape_eq_error_iff.1 hnames).1 hempty
    | ok sqls =>
        dsimp only
        cases table.arrangeAll (Entries.keys (pair :: row)) 0 ((pair :: row) :: rows) with
        | error e' => simp [hempty]
        | ok values => simp [hempty]

theorem keys_ne_nil {row : Row} (h : row ≠ []) : Entries.keys row ≠ [] :=
  mt List.map_eq_nil_iff.1 h

/-- A statement inserts into columns, with the names of one row or of the first of several. -/
inductive InsertsInto (table : Table) : List String → Fragment → Prop
  | one {row : Row} {f : Fragment} :
      row ≠ [] → table.insert row = .ok f → InsertsInto table (Entries.keys row) f
  | several {first : Row} {rows : List Row} {f : Fragment} :
      first ≠ [] → table.insertMany (first :: rows) = .ok f →
        InsertsInto table (Entries.keys first) f

/-- The columns of a statement that inserts are read back. -/
theorem InsertsInto.readColumns? {names : List String} {f : Fragment}
    (h : table.InsertsInto names f) : table.readColumns? f.sql = some names := by
  cases h with
  | one hrow hrun =>
      obtain ⟨sqls, values, hsqls, -, rfl⟩ := insert_eq_ok hrun
      exact readColumns?_insertSql (keys_ne_nil hrow) hsqls
  | several hfirst hrun =>
      obtain ⟨first, sqls, values, hhead, hsqls, -, rfl⟩ := insertMany_eq_ok hrun
      cases hhead
      exact readColumns?_insertSql (keys_ne_nil hfirst) hsqls

end Table

/-- **Lists of columns are read back.**  A select list of names in quotes fails exactly when a name
is empty, and otherwise reads as the names, in order, behind the word for distinct rows if they are
asked for.  The columns of a statement that inserts read as the names of the row, or of the first of
several rows; an empty name among them is refused, and without one nothing but the values is.  So no
two lists of names have the same text. -/
theorem columnLists_readBack :
    (∀ (options : QueryOptions) (escaping : Escaping) (names : List String),
      options.SelectsQuoted escaping names →
        (∀ e, options.compileFields escaping = .error e ↔
          "" ∈ names ∧ e = Identifier.emptyName) ∧
        ∀ sql, options.compileFields escaping = .ok sql →
          readSelectList? sql = some (options.distinct, names)) ∧
    (∀ names others sql, IsSelectListOf names sql → IsSelectListOf others sql → names = others) ∧
    ∀ table : Table,
      (∀ row, row ≠ [] → ∀ e, table.insert row = .error e ↔
        ("" ∈ Entries.keys row ∧ e = Identifier.emptyName) ∨
          ("" ∉ Entries.keys row ∧ table.encodeRow row = .error e)) ∧
      (∀ first rows, first ≠ [] → ∀ e, table.insertMany (first :: rows) = .error e ↔
        ("" ∈ Entries.keys first ∧ e = Identifier.emptyName) ∨
          ("" ∉ Entries.keys first ∧
            table.arrangeAll (Entries.keys first) 0 (first :: rows) = .error e)) ∧
      (∀ names f, table.InsertsInto names f → table.readColumns? f.sql = some names) ∧
      ∀ names others f g, table.InsertsInto names f → table.InsertsInto others g →
        f.sql = g.sql → names = others := by
  refine ⟨?_, ?_, ?_⟩
  · intro options escaping names h
    refine ⟨?_, ?_⟩
    · intro e
      exact QueryOptions.compileFields_eq_error_iff h
    · intro sql hsql
      exact QueryOptions.readSelectList?_compileFields h hsql
  · intro names others sql hnames hothers
    exact Option.some.inj (hnames.readSelectList?.symm.trans hothers.readSelectList?)
  · intro table
    refine ⟨?_, ?_, ?_, ?_⟩
    · intro row hrow e
      exact table.insert_eq_error_iff hrow
    · intro first rows hfirst e
      exact table.insertMany_eq_error_iff hfirst rows
    · intro names f h
      exact h.readColumns?
    · intro names others f g hnames hothers hsql
      have hread := hnames.readColumns?
      rw [hsql, hothers.readColumns?] at hread
      exact (Option.some.inj hread).symm

/-- Names of quotes alone, and names that look like two: in a select list of distinct rows and in a
statement that inserts two rows. -/
theorem columnLists_readBack_quotes :
    (QueryOptions.SelectsQuoted
        { fields := some (.columns ["\"", "a\", \"b", ","]), distinct := true } {}
          ["\"", "a\", \"b", ","] ∧
      readSelectList? "DISTINCT \"\"\"\", \"a\"\", \"\"b\", \",\"" =
        some (true, ["\"", "a\", \"b", ","])) ∧
    Table.InsertsInto ⟨"t", .empty, {}⟩ ["\"", "a;"]
        ⟨"INSERT INTO \"t\" (\"\"\"\", \"a;\") VALUES ($1, NULL), ($2, NULL) RETURNING *",
          [.int 1, .int 2]⟩ ∧
      Table.readColumns? ⟨"t", .empty, {}⟩
        "INSERT INTO \"t\" (\"\"\"\", \"a;\") VALUES ($1, NULL), ($2, NULL) RETURNING *" =
          some ["\"", "a;"] := by
  have hselects : QueryOptions.SelectsQuoted
      { fields := some (.columns ["\"", "a\", \"b", ","]), distinct := true } {}
        ["\"", "a\", \"b", ","] := ⟨rfl, by simp, rfl⟩
  let first : Row := [("\"", .int 1), ("a;", .null)]
  let second : Row := [("a;", .null), ("\"", .int 2)]
  have hrun : Table.insertMany ⟨"t", .empty, {}⟩ [first, second] =
      .ok ⟨"INSERT INTO \"t\" (\"\"\"\", \"a;\") VALUES ($1, NULL), ($2, NULL) RETURNING *",
        [.int 1, .int 2]⟩ := rfl
  have hinserts : Table.InsertsInto ⟨"t", .empty, {}⟩ ["\"", "a;"]
      ⟨"INSERT INTO \"t\" (\"\"\"\", \"a;\") VALUES ($1, NULL), ($2, NULL) RETURNING *",
        [.int 1, .int 2]⟩ := .several (List.cons_ne_nil _ _) hrun
  have hselected := (columnLists_readBack.1 _ _ _ hselects).2 _ rfl
  have hinserted := (columnLists_readBack.2.2 _).2.2.1 _ _ hinserts
  exact ⟨⟨hselects, hselected⟩, hinserts, hinserted⟩

end SqlFilter
