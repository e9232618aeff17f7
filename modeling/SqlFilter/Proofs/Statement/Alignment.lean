/-
**Statements and their parameters.**

The server sees a statement as a text and a list of parameters, and puts the two together by number
alone: a number that is off by one writes a value into another column or another row, and nothing
fails.  Here the two are compared without the counters that wrote them.  The placeholders of the
text, read from left to right, are the numbers of the parameters; and the entry of a column is the
value that the row has for that column, or the placeholder of a parameter that is this value.

Main definitions:

* `SqlFilter.Fragment.IsNumbered`: the placeholders of a statement are its parameters, in order;
* `SqlFilter.Table.Arranges`: a row in the order of given columns;
* `SqlFilter.Table.Inserts`: a statement inserts rows into columns;
* `SqlFilter.Table.Updates`: a statement changes columns where conditions hold.

Main results:

* `SqlFilter.Table.statements_aligned`: **the parameters of every statement line up with it**.
-/

import SqlFilter.Proofs.Condition.Numbering
import SqlFilter.Proofs.Statement.Slots
import SqlFilter.Statement.Select

set_option relaxedAutoImplicit false
set_option autoImplicit false

namespace SqlFilter

open Value (bound)

/-- The placeholders of a statement, from left to right, are numbered from one on, one for each
parameter. -/
def Fragment.IsNumbered (f : Fragment) : Prop :=
  placeholderNumbers f.sql.toList = List.range' 1 f.params.length

instance (f : Fragment) : Decidable f.IsNumbered :=
  inferInstanceAs (Decidable (placeholderNumbers f.sql.toList = List.range' 1 f.params.length))

namespace Table

/-! ### What statements say -/

/-- A row in the order of the columns: each with the value that the row has for it, the first one of
a column that the row names twice. -/
def Arranges (columns : List String) (row arranged : Row) : Prop :=
  List.Forall₂ (fun column pair => pair.1 = column ∧ Entries.get? column row = some pair.2) columns
    arranged

/-- The statement inserts rows, given in the order of the columns: it names the columns in quotes,
and each entry of a tuple shows the value in its place of the row. -/
def Inserts (table : Table) (columns : List String) (rows : List Row) (f : Fragment) : Prop :=
  ∃ names tuples, f.sql = table.insertSql names (tuples.map parenthesized) ∧
    List.Forall₂ (fun column name => Identifier.escape column = .ok name) columns names ∧
      List.Forall₂ (List.Forall₂ (table.ShowsPair f.params)) rows tuples

/-- The statement sets each column of a row to its own value where the conditions hold.  The
parameters of the values come first, and the conditions are compiled behind them. -/
def Updates (table : Table) (conditions : Conditions) (row : Row) (f : Fragment) : Prop :=
  ∃ items values predicate, List.Forall₂ table.Encodes row values ∧
    List.Forall₂ (table.Assigns (bound values)) row items ∧
      table.scope.compile conditions (bound values).length = .ok predicate ∧
        f.sql = "UPDATE " ++ table.quotedName ++ " SET " ++ ", ".intercalate items ++
            predicate.whereClause ∧
          f.params = bound values ++ predicate.params

/-! ### Conditions -/

variable {table : Table}

theorem dollar_not_mem_quotedName (hname : Identifier.validate table.name = .ok ()) :
    '$' ∉ table.quotedName.toList := Identifier.dollar_not_mem_quote hname

/-- Refusing entries without a value changes no compiled tree, and does not look at the offset. -/
theorem compileConditions_of_ok {conditions : Conditions} {offset : Nat}
    {skipUndefined : Option Bool} {p : Predicate}
    (h : table.compileConditions conditions offset skipUndefined = .ok p) (other : Nat) :
    table.compileConditions conditions other skipUndefined =
      table.scope.compile conditions other := by
  rw [compileConditions] at h ⊢
  split at h
  · cases h
  · rfl

theorem compile_of_compileConditions {conditions : Conditions} {offset : Nat}
    {skipUndefined : Option Bool} {p : Predicate}
    (h : table.compileConditions conditions offset skipUndefined = .ok p) :
    table.scope.compile conditions offset = .ok p :=
  (compileConditions_of_ok h offset).symm.trans h

/-- The clause of a compiled tree has the placeholders of the tree, and no number goes on in it. -/
theorem placeholderNumbers_whereClause (hname : Identifier.validate table.name = .ok ())
    {conditions : Conditions} (hkeys : Dollarless (Conditions.allKeys conditions)) {offset : Nat}
    {p : Predicate} (h : table.scope.compile conditions offset = .ok p) :
    placeholderNumbers p.whereClause.toList = List.range' (offset + 1) p.params.length ∧
      ∀ c ∈ p.whereClause.toList.head?, c.isDigit = false := by
  obtain ⟨t, hsound, hgaps, hsql, -⟩ := Scope.compile_template h
  have hdollar : some '$' ∉ t := fun hmem => by
    rcases hsound.dollar hmem with ⟨key, hkey, hmem⟩ | hmem
    · exact hkeys key hkey hmem
    · exact dollar_not_mem_quotedName hname hmem
  have hnumbers : placeholderNumbers p.sql.toList = List.range' (offset + 1) p.params.length := by
    rw [hsql, Template.placeholderNumbers_fill hsound.separated hdollar, hgaps]
  rw [Predicate.whereClause]
  split
  · next hempty =>
      rw [hempty] at hnumbers
      exact ⟨hnumbers, by simp⟩
  · refine ⟨?_, by simp⟩
    rw [String.toList_append, placeholderNumbers_append_of_not_mem (by decide), hnumbers]

/-- A text, conditions, and clauses without parameters behind them. -/
theorem isNumbered_conditioned (hname : Identifier.validate table.name = .ok ())
    {conditions : Conditions} (hkeys : Dollarless (Conditions.allKeys conditions))
    {skipUndefined : Option Bool} {p : Predicate}
    (h : table.compileConditions conditions 0 skipUndefined = .ok p) {front tail : String}
    (hfront : '$' ∉ front.toList) (htail : Inert tail) :
    Fragment.IsNumbered ⟨front ++ p.whereClause ++ tail, p.params⟩ := by
  obtain ⟨hnumbers, -⟩ :=
    placeholderNumbers_whereClause hname hkeys (compile_of_compileConditions h)
  have hstop : ∀ c ∈ tail.toList.head?, c.isDigit = false := by
    intro c hc
    rw [htail.blank c hc]
    decide
  rw [Fragment.IsNumbered, String.toList_append, placeholderNumbers_append _ hstop,
    placeholderNumbers_eq_nil htail.dollar, List.append_nil, String.toList_append,
    placeholderNumbers_append_of_not_mem hfront, hnumbers]

/-- What the statement for rows is made of. -/
theorem select_eq_ok {conditions : Conditions} {options : QueryOptions} {f : Fragment}
    (h : table.select conditions options = .ok f) :
    ∃ fields predicate tail, options.compileFields table.configuration.escaping = .ok fields ∧
      table.compileConditions conditions 0 options.skipUndefined = .ok predicate ∧
        options.compileTail table.configuration.escaping = .ok tail ∧
          f = ⟨"SELECT " ++ fields ++ " FROM " ++ table.quotedName ++ predicate.whereClause ++ tail,
            predicate.params⟩ := by
  rw [select] at h
  split at h
  · cases h
  · next fields hfields =>
      split at h
      · cases h
      · next predicate hpredicate =>
          split at h
          · cases h
          · next tail htail =>
              cases h
              exact ⟨fields, predicate, tail, hfields, hpredicate, htail, rfl⟩

/-- What the statement for the number of rows is made of. -/
theorem count_eq_ok {conditions : Conditions} {f : Fragment}
    (h : table.count conditions = .ok f) :
    ∃ predicate, table.compileConditions conditions 0 none = .ok predicate ∧
      f = ⟨"SELECT COUNT(*) FROM " ++ table.quotedName ++ predicate.whereClause,
        predicate.params⟩ := by
  rw [count] at h
  split at h
  · cases h
  · next predicate hpredicate =>
      cases h
      exact ⟨predicate, hpredicate, rfl⟩

/-- What the statement that removes rows is made of. -/
theorem delete_eq_ok {conditions : Conditions} {f : Fragment}
    (h : table.delete conditions = .ok f) :
    ∃ predicate, table.compileConditions conditions 0 none = .ok predicate ∧
      f = ⟨"DELETE FROM " ++ table.quotedName ++ predicate.whereClause, predicate.params⟩ := by
  rw [delete] at h
  split at h
  · cases h
  · next predicate hpredicate =>
      cases h
      exact ⟨predicate, hpredicate, rfl⟩

theorem isNumbered_select (hname : Identifier.validate table.name = .ok ())
    {conditions : Conditions} (hkeys : Dollarless (Conditions.allKeys conditions))
    {options : QueryOptions} (htexts : Dollarless options.texts) {f : Fragment}
    (h : table.select conditions options = .ok f) : f.IsNumbered := by
  obtain ⟨fields, predicate, tail, hfields, hpredicate, htail, rfl⟩ := select_eq_ok h
  have hdollar := QueryOptions.dollar_not_mem_compileFields hfields htexts
  refine isNumbered_conditioned hname hkeys hpredicate ?_
    (QueryOptions.inert_compileTail htail htexts)
  simp [hdollar, dollar_not_mem_quotedName hname]

theorem isNumbered_count (hname : Identifier.validate table.name = .ok ())
    {conditions : Conditions} (hkeys : Dollarless (Conditions.allKeys conditions)) {f : Fragment}
    (h : table.count conditions = .ok f) : f.IsNumbered := by
  obtain ⟨predicate, hpredicate, rfl⟩ := count_eq_ok h
  have hfront : '$' ∉ ("SELECT COUNT(*) FROM " ++ table.quotedName).toList := by
    simp [dollar_not_mem_quotedName hname]
  simpa using isNumbered_conditioned hname hkeys hpredicate hfront inert_empty

theorem isNumbered_delete (hname : Identifier.validate table.name = .ok ())
    {conditions : Conditions} (hkeys : Dollarless (Conditions.allKeys conditions)) {f : Fragment}
    (h : table.delete conditions = .ok f) : f.IsNumbered := by
  obtain ⟨predicate, hpredicate, rfl⟩ := delete_eq_ok h
  have hfront : '$' ∉ ("DELETE FROM " ++ table.quotedName).toList := by
    simp [dollar_not_mem_quotedName hname]
  simpa using isNumbered_conditioned hname hkeys hpredicate hfront inert_empty

/-! ### Inserting -/

/-- The names of columns in quotes have no dollar sign. -/
theorem dollarless_names {columns names : List String} (hcolumns : Dollarless columns)
    (h : mapAll Identifier.escape columns = .ok names) : Dollarless names := by
  intro name hmem
  obtain ⟨column, hcolumn, hescape⟩ := exists_of_mem_mapAll h hmem
  exact dollar_not_mem_escape hescape (hcolumns column hcolumn)

theorem placeholderNumbers_insertSql (hname : Identifier.validate table.name = .ok ())
    {names : List String} (hnames : Dollarless names) (tuples : List String) :
    placeholderNumbers (table.insertSql names tuples).toList = placeholdersOf tuples := by
  have hquoted := dollar_not_mem_quotedName hname
  have hcolumns : '$' ∉ (", ".intercalate names).toList :=
    dollar_not_mem_intercalate (by decide) hnames
  have hfront : '$' ∉
      ("INSERT INTO " ++ table.quotedName ++ " " ++ parenthesized names ++ " VALUES ").toList := by
    simp only [parenthesized, String.toList_append, List.mem_append, not_or]
    exact ⟨⟨⟨⟨by decide, hquoted⟩, by decide⟩, ⟨by decide, hcolumns⟩, by decide⟩, by decide⟩
  unfold insertSql
  rw [String.toList_append, placeholderNumbers_append _ (by simp), String.toList_append,
    placeholderNumbers_append_of_not_mem hfront, placeholderNumbers_commas,
    placeholderNumbers_eq_nil (by decide), List.append_nil]

/-- What the statement for one row is made of. -/
theorem insert_eq_ok {row : Row} {f : Fragment} (h : table.insert row = .ok f) :
    ∃ names values, mapAll Identifier.escape (Entries.keys row) = .ok names ∧
      List.Forall₂ table.Encodes row values ∧
        f = ⟨table.insertSql names [parenthesized (slots 0 values).1], bound values⟩ := by
  rw [insert] at h
  split at h
  · cases h
  · split at h
    · cases h
    · next names hnames =>
        split at h
        · cases h
        · next values hvalues =>
            simp only [params_slots] at h
            cases h
            exact ⟨names, values, hnames, mapAll_eq_ok_iff.1 hvalues, rfl⟩

/-- Entries that show the prepared values of a row show them for their columns. -/
theorem showsPair_of_shows {params : List Value} {row : Row} {values : List Value}
    {entries : List String} (hvalues : List.Forall₂ table.Encodes row values)
    (hentries : List.Forall₂ (Shows params) values entries) :
    List.Forall₂ (table.ShowsPair params) row entries := forall₂_comp hvalues hentries

theorem isNumbered_insert (hname : Identifier.validate table.name = .ok ()) {row : Row}
    (hcolumns : Dollarless (Entries.keys row)) {f : Fragment} (h : table.insert row = .ok f) :
    f.IsNumbered := by
  obtain ⟨names, values, hnames, -, rfl⟩ := insert_eq_ok h
  rw [Fragment.IsNumbered, placeholderNumbers_insertSql hname (dollarless_names hcolumns hnames),
    placeholdersOf_cons, placeholderNumbers_parenthesized, placeholdersOf_slots]
  exact List.append_nil _

theorem inserts_insert {row : Row} {f : Fragment} (h : table.insert row = .ok f) :
    table.Inserts (Entries.keys row) [row] f := by
  obtain ⟨names, values, hnames, hvalues, rfl⟩ := insert_eq_ok h
  have hentries := shows_slots [] [] values
  rw [List.nil_append, List.append_nil] at hentries
  exact ⟨names, [_], rfl, mapAll_eq_ok_iff.1 hnames,
    List.Forall₂.cons (showsPair_of_shows hvalues hentries) List.Forall₂.nil⟩

/-- A row is in the order of its own columns when it names none twice. -/
theorem arranges_self {row : Row} (h : (Entries.keys row).Nodup) :
    Arranges (Entries.keys row) row row := by
  rw [Arranges, Entries.keys, List.forall₂_map_left_iff, List.forall₂_same]
  exact fun pair hpair => ⟨rfl, Entries.get?_of_mem h hpair⟩

/-! ### Inserting several rows -/

/-- The prepared values of a row are those of the row in the order of the columns. -/
theorem arrange_eq_ok {index : Nat} {row : Row} {columns : List String} {values : List Value}
    (h : table.arrange index row columns = .ok values) :
    ∃ arranged, Arranges columns row arranged ∧ List.Forall₂ table.Encodes arranged values := by
  induction columns generalizing values with
  | nil =>
      cases h
      exact ⟨[], List.Forall₂.nil, List.Forall₂.nil⟩
  | cons column columns ih =>
      rw [arrange] at h
      split at h
      · cases h
      · next v hv =>
          split at h
          · cases h
          · next value hvalue =>
              split at h
              · cases h
              · next others hothers =>
                  cases h
                  obtain ⟨arranged, harranged, hencodes⟩ := ih hothers
                  exact ⟨(column, v) :: arranged, List.Forall₂.cons ⟨rfl, hv⟩ harranged,
                    List.Forall₂.cons hvalue hencodes⟩

theorem arrangeAll_eq_ok {columns : List String} {index : Nat} {rows : List Row}
    {values : List (List Value)} (h : table.arrangeAll columns index rows = .ok values) :
    ∃ arranged, List.Forall₂ (Arranges columns) rows arranged ∧
      List.Forall₂ (List.Forall₂ table.Encodes) arranged values := by
  induction rows generalizing index values with
  | nil =>
      cases h
      exact ⟨[], List.Forall₂.nil, List.Forall₂.nil⟩
  | cons row rows ih =>
      rw [arrangeAll] at h
      split at h
      · cases h
      · split at h
        · cases h
        · next first hfirst =>
            split at h
            · cases h
            · next others hothers =>
                cases h
                obtain ⟨arranged, harranged, hencodes⟩ := arrange_eq_ok hfirst
                obtain ⟨rest, hrest, hvalues⟩ := ih hothers
                exact ⟨arranged :: rest, List.Forall₂.cons harranged hrest,
                  List.Forall₂.cons hencodes hvalues⟩

/-- What the statement for several rows is made of. -/
theorem insertMany_eq_ok {rows : List Row} {f : Fragment} (h : table.insertMany rows = .ok f) :
    ∃ first names values, rows.head? = some first ∧
      mapAll Identifier.escape (Entries.keys first) = .ok names ∧
        table.arrangeAll (Entries.keys first) 0 rows = .ok values ∧
          f = ⟨table.insertSql names (tuples 0 values).1, bound values.flatten⟩ := by
  rw [insertMany.eq_def] at h
  split at h
  · cases h
  · cases h
  · next first rest _ =>
      simp only [params_tuples] at h
      split at h
      · cases h
      · next names hnames =>
          split at h
          · cases h
          · next values hvalues =>
              cases h
              exact ⟨first, names, values, rfl, hnames, hvalues, rfl⟩

theorem isNumbered_insertMany (hname : Identifier.validate table.name = .ok ()) {rows : List Row}
    (hcolumns : Dollarless (rows.flatMap Entries.keys)) {f : Fragment}
    (h : table.insertMany rows = .ok f) : f.IsNumbered := by
  obtain ⟨first, names, values, hfirst, hnames, -, rfl⟩ := insertMany_eq_ok h
  have hkeys : Dollarless (Entries.keys first) := fun column hcolumn =>
    hcolumns column (List.mem_flatMap.2 ⟨first, List.mem_of_head? hfirst, hcolumn⟩)
  rw [Fragment.IsNumbered, placeholderNumbers_insertSql hname (dollarless_names hkeys hnames),
    placeholdersOf_tuples]

theorem inserts_insertMany {rows : List Row} {f : Fragment} (h : table.insertMany rows = .ok f) :
    ∃ first arranged, rows.head? = some first ∧
      List.Forall₂ (Arranges (Entries.keys first)) rows arranged ∧
        table.Inserts (Entries.keys first) arranged f := by
  obtain ⟨first, names, values, hfirst, hnames, hvalues, rfl⟩ := insertMany_eq_ok h
  obtain ⟨arranged, harranged, hencodes⟩ := arrangeAll_eq_ok hvalues
  obtain ⟨tuples, htuples, hshows⟩ := shows_tuples [] [] values
  rw [List.nil_append, List.append_nil] at hshows
  refine ⟨first, arranged, hfirst, harranged, names, tuples, ?_, mapAll_eq_ok_iff.1 hnames, ?_⟩
  · rw [← htuples]
    rfl
  · refine (forall₂_comp hencodes hshows).imp fun row entries => ?_
    rintro ⟨values, hvalues, hentries⟩
    exact showsPair_of_shows hvalues hentries

/-! ### Updating -/

/-- What the statement for new values is made of. -/
theorem update_eq_ok {conditions : Conditions} {row : Row} {f : Fragment}
    (h : table.update conditions row = .ok f) :
    ∃ items params predicate, table.assignments 0 row = .ok (items, params) ∧
      table.compileConditions conditions params.length none = .ok predicate ∧
        f = ⟨"UPDATE " ++ table.quotedName ++ " SET " ++ ", ".intercalate items ++
            predicate.whereClause,
          params ++ predicate.params⟩ := by
  rw [update] at h
  split at h
  · cases h
  · split at h
    · cases h
    · next items params hitems =>
        split at h
        · cases h
        · next predicate hpredicate =>
            cases h
            exact ⟨items, params, predicate, hitems, hpredicate, rfl⟩

theorem isNumbered_update (hname : Identifier.validate table.name = .ok ())
    {conditions : Conditions} (hkeys : Dollarless (Conditions.allKeys conditions)) {row : Row}
    (hcolumns : Dollarless (Entries.keys row)) {f : Fragment}
    (h : table.update conditions row = .ok f) : f.IsNumbered := by
  obtain ⟨items, params, predicate, hitems, hpredicate, rfl⟩ := update_eq_ok h
  obtain ⟨hwhere, hstop⟩ :=
    placeholderNumbers_whereClause hname hkeys (compile_of_compileConditions hpredicate)
  have hfront : '$' ∉ ("UPDATE " ++ table.quotedName ++ " SET ").toList := by
    simp [dollar_not_mem_quotedName hname]
  -- the conditions go on where the new values end
  rw [Fragment.IsNumbered, String.toList_append, placeholderNumbers_append _ hstop, hwhere,
    String.toList_append, placeholderNumbers_append_of_not_mem hfront, placeholderNumbers_commas,
    placeholdersOf_assignments hcolumns hitems, List.length_append, Nat.zero_add,
    Nat.add_comm params.length 1, List.range'_append_1]

theorem updates_update {conditions : Conditions} {row : Row} {f : Fragment}
    (h : table.update conditions row = .ok f) : table.Updates conditions row f := by
  obtain ⟨items, params, predicate, hitems, hpredicate, rfl⟩ := update_eq_ok h
  obtain ⟨values, hvalues, rfl⟩ := params_assignments hitems
  have hassigns := assigns [] [] hitems
  rw [List.nil_append, List.append_nil] at hassigns
  exact ⟨items, values, predicate, hvalues, hassigns, compile_of_compileConditions hpredicate, rfl,
    rfl⟩

/-! ### All statements -/

/-- **The parameters of every statement line up with it.**  Of a table with a checked name, every
statement has the placeholders of its parameters, from left to right, when no dollar sign comes in
with a key, a column or an option.  A row is inserted value by value in its own order, several rows
in the order of the columns of the first one, and an assignment pairs a column with its own value.
-/
theorem statements_aligned (hname : Identifier.validate table.name = .ok ()) :
    (∀ conditions options f, Dollarless (Conditions.allKeys conditions) →
      Dollarless options.texts → table.select conditions options = .ok f → f.IsNumbered) ∧
    (∀ conditions f, Dollarless (Conditions.allKeys conditions) →
      table.count conditions = .ok f → f.IsNumbered) ∧
    (∀ row f, table.insert row = .ok f →
      (Dollarless (Entries.keys row) → f.IsNumbered) ∧
        table.Inserts (Entries.keys row) [row] f ∧
          ((Entries.keys row).Nodup → Arranges (Entries.keys row) row row)) ∧
    (∀ rows f, table.insertMany rows = .ok f →
      (Dollarless (rows.flatMap Entries.keys) → f.IsNumbered) ∧
        ∃ first arranged, rows.head? = some first ∧
          List.Forall₂ (Arranges (Entries.keys first)) rows arranged ∧
            table.Inserts (Entries.keys first) arranged f) ∧
    (∀ conditions row f, table.update conditions row = .ok f →
      (Dollarless (Conditions.allKeys conditions) → Dollarless (Entries.keys row) →
        f.IsNumbered) ∧ table.Updates conditions row f) ∧
    ∀ conditions f, Dollarless (Conditions.allKeys conditions) →
      table.delete conditions = .ok f → f.IsNumbered := by
  refine ⟨?_, ?_, ?_, ?_, ?_, ?_⟩
  · intro conditions options f hkeys htexts h
    exact isNumbered_select hname hkeys htexts h
  · intro conditions f hkeys h
    exact isNumbered_count hname hkeys h
  · intro row f h
    exact ⟨fun hcolumns => isNumbered_insert hname hcolumns h, inserts_insert h, arranges_self⟩
  · intro rows f h
    exact ⟨fun hcolumns => isNumbered_insertMany hname hcolumns h, inserts_insertMany h⟩
  · intro conditions row f h
    exact ⟨fun hkeys hcolumns => isNumbered_update hname hkeys hcolumns h, updates_update h⟩
  · intro conditions f hkeys h
    exact isNumbered_delete hname hkeys h

/-- Orders of a shop, with a list of tags and a note. -/
def orders : Table := ⟨"shop.orders", ⟨[("tags", .array), ("note", .json)]⟩, {}⟩

/-- Two orders, the second one in another order of the columns, with a missing note and an empty
list of tags. -/
def newOrders : List Row :=
  [[("id", .int 1), ("tags", .array []), ("note", .null)],
    [("note", .text "late"), ("id", .int 2), ("tags", .array [.text "new"])]]

theorem statements_aligned_orders :
    Identifier.validate orders.name = .ok () ∧
      (∃ f, orders.insertMany newOrders = .ok f ∧ f.IsNumbered ∧ f.sql =
        "INSERT INTO \"shop\".\"orders\" (\"id\", \"tags\", \"note\") " ++
          "VALUES ($1, '{}', NULL), ($2, $3, $4) RETURNING *") ∧
      ∃ f, orders.update [("id", .value (.array [.int 1, .null, .int 2]))]
          [("note", .null), ("tags", .array [.text "old"])] = .ok f ∧ f.IsNumbered ∧ f.sql =
        "UPDATE \"shop\".\"orders\" SET \"note\" = NULL, \"tags\" = $1 " ++
          "WHERE \"id\" IN ($2, NULL, $3)" := by
  have hname : Identifier.validate orders.name = .ok () := rfl
  have hinsert : orders.insertMany newOrders = .ok
      ⟨"INSERT INTO \"shop\".\"orders\" (\"id\", \"tags\", \"note\") " ++
          "VALUES ($1, '{}', NULL), ($2, $3, $4) RETURNING *",
        [.int 1, .int 2, .array [.text "new"], .json (.string "late")]⟩ :=
    rfl
  have hupdate : orders.update [("id", .value (.array [.int 1, .null, .int 2]))]
      [("note", .null), ("tags", .array [.text "old"])] = .ok
      ⟨"UPDATE \"shop\".\"orders\" SET \"note\" = NULL, \"tags\" = $1 " ++
          "WHERE \"id\" IN ($2, NULL, $3)",
        [.array [.text "old"], .int 1, .int 2]⟩ :=
    rfl
  obtain ⟨-, -, -, hmany, hset, -⟩ := statements_aligned hname
  refine ⟨hname, ⟨_, hinsert, (hmany _ _ hinsert).1 ?_, rfl⟩, _, hupdate,
    (hset _ _ _ hupdate).1 ?_ ?_, rfl⟩
  · decide
  · decide
  · decide

/-- A table of which no column is described. -/
def plain : Table := ⟨"t", .empty, {}⟩

/-- A row that names a column twice is inserted as it stands: the second entry is the second value
and not the first one of the column. -/
theorem not_inserts_firstMatch :
    Identifier.validate plain.name = .ok () ∧
      Dollarless (Entries.keys [("a", Value.int 1), ("a", .int 2)]) ∧
        ∃ f, plain.insert [("a", .int 1), ("a", .int 2)] = .ok f ∧
          ∀ arranged, Arranges ["a", "a"] [("a", .int 1), ("a", .int 2)] arranged →
            ¬ plain.Inserts ["a", "a"] [arranged] f := by
  have hinsert : plain.insert [("a", .int 1), ("a", .int 2)] = .ok
      ⟨"INSERT INTO \"t\" (\"a\", \"a\") VALUES ($1, $2) RETURNING *", [.int 1, .int 2]⟩ := rfl
  refine ⟨rfl, by decide, _, hinsert, ?_⟩
  rintro arranged harranged ⟨names, tuples, hsql, hnames, htuples⟩
  -- the first match of both columns is the first value, which is the first parameter
  have hentry : ∀ pair : String × Value, pair.1 = "a" →
      Entries.get? "a" [("a", Value.int 1), ("a", .int 2)] = some pair.2 → ∀ entry,
        plain.ShowsPair [.int 1, .int 2] pair entry → entry = "$1" := by
    rintro ⟨column, v⟩ rfl hv entry ⟨value, hvalue, hshows⟩
    cases hv
    cases hvalue
    obtain ⟨k, rfl, hk⟩ := hshows.param (by simp) (by simp)
    rcases k with _ | _ | k
    · rfl
    · simp at hk
    · simp at hk
  have hquoted : ∀ name, Identifier.escape "a" = .ok name → name = "\"a\"" := fun name h =>
    Except.ok.inj (h.symm.trans rfl)
  obtain _ | ⟨⟨hfirst, hfirst'⟩, _ | ⟨⟨hsecond, hsecond'⟩, ⟨⟩⟩⟩ := harranged
  obtain _ | ⟨hname, _ | ⟨hname', ⟨⟩⟩⟩ := hnames
  obtain _ | ⟨_ | ⟨hentry₁, _ | ⟨hentry₂, ⟨⟩⟩⟩, ⟨⟩⟩ := htuples
  rw [hquoted _ hname, hquoted _ hname', hentry _ hfirst hfirst' _ hentry₁,
    hentry _ hsecond hsecond' _ hentry₂] at hsql
  exact absurd hsql (by decide)

end Table

end SqlFilter
