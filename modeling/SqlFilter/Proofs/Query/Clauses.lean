/-
**The characters of the clauses.**

The select list and the clauses behind the conditions are made of the texts of the options and of
fixed words.  Nothing in them is a parameter, so they must not disturb the placeholders of the
conditions between them: no dollar sign comes in but with a text of the options, and the clauses
behind the conditions start with a blank, so that no number in front of them goes on.

Main definitions:

* `SqlFilter.Dollarless`: texts without dollar signs;
* `SqlFilter.QueryOptions.texts`: the texts of the options that can come into a statement;
* `SqlFilter.Inert`: a text that changes no placeholder in front of it.

Main results:

* `SqlFilter.mapAll_eq_ok_iff`: a fallible function on each element of a list;
* `SqlFilter.columnReference_eq_ok`, `SqlFilter.SortItem.render_eq_ok`,
  `SqlFilter.orderByClause_eq_ok`, `SqlFilter.QueryOptions.selectList_eq_ok`,
  `SqlFilter.QueryOptions.compileTail_eq_ok`: what the clauses are made of;
* `SqlFilter.QueryOptions.dollar_not_mem_compileFields`: **the select list** has no dollar sign;
* `SqlFilter.QueryOptions.inert_compileTail`: **the clauses behind the conditions** are inert.
-/

import Mathlib.Data.List.Forall2
import SqlFilter.Proofs.Statement.Name
import SqlFilter.Query.Clauses

set_option relaxedAutoImplicit false
set_option autoImplicit false

namespace SqlFilter

open SqlFilter.Text (doubled enclosed isBlank mem_doubled mem_enclosed mem_of_mem_intercalate
  splitAtLast? splitOn trim trim_sublist trimmed)

/-! ### Texts without dollar signs -/

/-- No dollar sign stands in any of the texts. -/
def Dollarless (texts : List String) : Prop := ∀ text ∈ texts, '$' ∉ text.toList

instance (texts : List String) : Decidable (Dollarless texts) :=
  inferInstanceAs (Decidable (∀ text ∈ texts, '$' ∉ text.toList))

@[simp] theorem dollarless_append {xs ys : List String} :
    Dollarless (xs ++ ys) ↔ Dollarless xs ∧ Dollarless ys := List.forall_mem_append

theorem dollar_not_mem_intercalate {sep : String} {parts : List String} (hsep : '$' ∉ sep.toList)
    (hparts : Dollarless parts) : '$' ∉ (sep.intercalate parts).toList := by
  intro hmem
  rw [String.toList_intercalate] at hmem
  rcases mem_of_mem_intercalate hmem with hmem | ⟨part, hpart, hmem⟩
  · exact hsep hmem
  · obtain ⟨text, htext, rfl⟩ := List.mem_map.1 hpart
    exact hparts text htext hmem

theorem dollar_not_mem_toDigits (n : Nat) : '$' ∉ Nat.toDigits 10 n := fun hmem =>
  absurd (Nat.isDigit_of_mem_toDigits (by decide) (by decide) hmem) (by decide)

theorem dollar_not_mem_toString (n : Int) : '$' ∉ (toString n).toList := by
  cases n with
  | ofNat n => simpa [toString, Int.repr, Nat.repr] using dollar_not_mem_toDigits n
  | negSucc n => simpa [toString, Int.repr, Nat.repr] using dollar_not_mem_toDigits (n + 1)

/-- A text behind the conditions: it has no placeholder, and a number in front of it ends. -/
structure Inert (sql : String) : Prop where
  dollar : '$' ∉ sql.toList
  blank : ∀ c ∈ sql.toList.head?, c = ' '

theorem inert_empty : Inert "" := ⟨by simp, by simp⟩

theorem Inert.append {front back : String} (hfront : Inert front) (hback : Inert back) :
    Inert (front ++ back) := by
  refine ⟨by simp [hfront.dollar, hback.dollar], fun c hc => ?_⟩
  rw [String.toList_append, List.head?_append] at hc
  cases hhead : front.toList.head? with
  | none => exact hback.blank c (by simpa [hhead] using hc)
  | some d => exact hfront.blank c (by simpa [hhead] using hc)

/-! ### Lists -/

/-- A result of a mapped run comes from a result of the run. -/
theorem map_eq_ok {α β : Type} {run : Except Error α} {f : α → β} {b : β}
    (h : run.map f = .ok b) : ∃ a, run = .ok a ∧ f a = b := by
  cases run with
  | error e => cases h
  | ok a => exact ⟨a, rfl, Except.ok.inj h⟩

/-- A fallible function succeeds on a list when it does on each element, in order. -/
theorem mapAll_eq_ok_iff {α β : Type} {f : α → Except Error β} {xs : List α} {ys : List β} :
    mapAll f xs = .ok ys ↔ List.Forall₂ (fun x y => f x = .ok y) xs ys := by
  induction xs generalizing ys with
  | nil => simp [mapAll, eq_comm]
  | cons x xs ih =>
      rw [mapAll, List.forall₂_cons_left_iff]
      cases hx : f x with
      | error e => simp
      | ok y =>
          simp only []
          cases hxs : mapAll f xs with
          | error e =>
              have hnone : ∀ zs, ¬ List.Forall₂ (fun x y => f x = .ok y) xs zs := fun zs hzs => by
                rw [← ih, hxs] at hzs
                cases hzs
              simp [hnone]
          | ok others =>
              have hsome : ∀ zs, List.Forall₂ (fun x y => f x = .ok y) xs zs ↔ others = zs :=
                fun zs => by rw [← ih, hxs, Except.ok.injEq]
              simp [hsome, eq_comm]

/-- Every result comes from an element. -/
theorem exists_of_mem_mapAll {α β : Type} {f : α → Except Error β} {xs : List α} {ys : List β}
    (h : mapAll f xs = .ok ys) {y : β} (hy : y ∈ ys) : ∃ x ∈ xs, f x = .ok y := by
  rw [mapAll_eq_ok_iff] at h
  induction h with
  | nil => cases hy
  | cons hx _ ih =>
      rcases List.mem_cons.1 hy with rfl | hy
      · exact ⟨_, List.mem_cons_self, hx⟩
      · obtain ⟨x, hmem, hx⟩ := ih hy
        exact ⟨x, List.mem_cons_of_mem _ hmem, hx⟩

/-- Lists that are related through a third one, element by element. -/
theorem forall₂_comp {α β γ : Type} {R : α → β → Prop} {S : β → γ → Prop} {xs : List α}
    {ys : List β} {zs : List γ} (h : List.Forall₂ R xs ys) (h' : List.Forall₂ S ys zs) :
    List.Forall₂ (fun x z => ∃ y, R x y ∧ S y z) xs zs := by
  induction h generalizing zs with
  | nil =>
      cases h'
      exact List.Forall₂.nil
  | cons hR _ ih =>
      cases h' with
      | cons hS htail => exact List.Forall₂.cons ⟨_, hR, hS⟩ (ih htail)

/-- A fallible function that never fails on the elements of a list. -/
theorem mapAll_map {α β γ : Type} {f : β → Except Error γ} {g : α → β} {k : α → γ}
    (h : ∀ a, f (g a) = .ok (k a)) (as : List α) : mapAll f (as.map g) = .ok (as.map k) := by
  rw [mapAll_eq_ok_iff, List.forall₂_map_left_iff, List.forall₂_map_right_iff, List.forall₂_same]
  intro a _
  exact h a

/-! ### What clauses are made of -/

/-- A name is escaped when it is not empty. -/
theorem Identifier.escape_eq_ok_iff {name sql : String} :
    escape name = .ok sql ↔
      name ≠ "" ∧ sql = String.ofList (enclosed '"' (doubled '"' name.toList)) := by
  rw [escape]
  by_cases hname : name = ""
  · simp [hname]
  · simp [hname, eq_comm]

/-- A column comes into a statement in quotes, or as it stands after the check. -/
theorem columnReference_eq_ok {column sql : String} {escape : Bool}
    (h : columnReference column escape = .ok sql) :
    (escape = true ∧ Identifier.escape column = .ok sql) ∨
      (escape = false ∧ Identifier.checkPlain column = .ok () ∧ sql = column) := by
  rw [columnReference] at h
  split at h
  · next hescape => exact .inl ⟨hescape, h⟩
  · next hescape =>
      split at h
      · cases h
      · next hcheck =>
          cases h
          exact .inr ⟨Bool.eq_false_iff.2 hescape, hcheck, rfl⟩

/-- A target is a text of digits, the position of a column, or any other text, a column. -/
theorem SortTarget.ofChars_eq_ok {cs : List Char} {target : SortTarget}
    (h : ofChars cs = .ok target) :
    (cs.all Char.isDigit = true ∧ target = .position (String.ofList cs)) ∨
      (¬cs.all Char.isDigit = true ∧ target = .column (String.ofList cs)) := by
  rw [ofChars] at h
  split at h
  · cases h
  · split at h
    · next hdigits =>
        cases h
        exact .inl ⟨hdigits, rfl⟩
    · next hdigits =>
        cases h
        exact .inr ⟨hdigits, rfl⟩

namespace SortItem

theorem target_of_ofTarget {cs : List Char} {direction : SortDirection} {item : SortItem}
    (h : ofTarget cs direction = .ok item) : SortTarget.ofChars (trim cs) = .ok item.target := by
  rw [ofTarget] at h
  split at h
  · cases h
  · next target htarget =>
      cases h
      exact htarget

theorem ofPair_eq_ok {pair : String × String} {item : SortItem} (h : ofPair pair = .ok item) :
    ∃ direction, ofTarget pair.1.toList direction = .ok item := by
  rw [ofPair] at h
  split at h
  · next direction _ => exact ⟨direction, h⟩
  · cases h

/-- An item adds the words for its direction and for nulls to its target. -/
theorem render_eq_ok {escape : Bool} {nulls sql : String} {item : SortItem}
    (h : item.render escape nulls = .ok sql) :
    ∃ target, item.target.render escape = .ok target ∧
      sql = target ++ " " ++ item.direction.sql ++ nulls := by
  rw [render] at h
  split at h
  · cases h
  · next target htarget =>
      cases h
      exact ⟨target, htarget, rfl⟩

end SortItem

theorem groupItem_eq_ok {escape : Bool} {text sql : String} (h : groupItem escape text = .ok sql) :
    ∃ item, SortItem.parse text = .ok item ∧ item.target.render escape = .ok sql := by
  rw [groupItem] at h
  split at h
  · cases h
  · next item hparse => exact ⟨item, hparse, h⟩

/-- An order is a clause of its items, if there is one. -/
theorem orderByClause_eq_ok {list : SortList} {nullsFirst : Option Bool} {escape : Bool}
    {sql : String} (h : orderByClause (some list) nullsFirst escape = .ok sql) :
    ∃ items sqls, list.items = .ok items ∧
      mapAll (SortItem.render escape (nullsSql nullsFirst)) items = .ok sqls ∧
      sql = listClause "ORDER BY" sqls := by
  obtain ⟨sqls, hsqls, rfl⟩ := map_eq_ok h
  rw [orderItems] at hsqls
  split at hsqls
  · cases hsqls
  · next items hitems => exact ⟨items, sqls, hitems, hsqls, rfl⟩

/-- A number of rows is not negative. -/
theorem countClause_eq_ok {keyword : String} {n : Int64} {sql : String}
    (h : countClause keyword (some n) = .ok sql) :
    0 ≤ n.toInt ∧ sql = " " ++ keyword ++ " " ++ toString n.toInt := by
  rw [countClause] at h
  split at h
  · cases h
  · next hn =>
      cases h
      exact ⟨Int64.le_iff_toInt_le.1 (Int64.not_lt.1 hn), rfl⟩

namespace QueryOptions

/-- What is selected is everything, columns, or an expression that was checked. -/
theorem selectList_eq_ok {options : QueryOptions} {escape : Bool} {sql : String}
    (h : options.selectList escape = .ok sql) :
    sql = "*" ∨
      (∃ names columns, options.fields = some (.columns names) ∧
        mapAll (fun name => columnReference name escape) names = .ok columns ∧
        sql = ", ".intercalate columns) ∨
      ∃ text, options.fields = some (.expression text) ∧ Identifier.checkPlain text = .ok () ∧
        sql = trimmed text := by
  rw [selectList] at h
  split at h
  · cases h
    exact .inl rfl
  · cases h
    exact .inl rfl
  · next names _ heq =>
      obtain ⟨columns, hcolumns, rfl⟩ := map_eq_ok h
      exact .inr (.inl ⟨names, columns, heq, hcolumns, rfl⟩)
  · next text heq =>
      split at h
      · cases h
      · next hcheck =>
          cases h
          exact .inr (.inr ⟨text, heq, hcheck, rfl⟩)

/-- What the clauses behind the conditions are made of. -/
theorem compileTail_eq_ok {options : QueryOptions} {escaping : Escaping} {sql : String}
    (h : options.compileTail escaping = .ok sql) :
    ∃ grouping order limit offset,
      groupByClause options.groupBy (escaping.resolve options.escapeColumns).groupBy =
        .ok grouping ∧
      orderByClause options.orderBy options.nullsFirst
        (escaping.resolve options.escapeColumns).orderBy = .ok order ∧
      countClause "LIMIT" options.limit = .ok limit ∧
      countClause "OFFSET" options.offset = .ok offset ∧
      sql = grouping ++ order ++ limit ++ offset ++
        if options.forUpdate then " FOR UPDATE" else "" := by
  rw [compileTail] at h
  split at h
  · cases h
  · next grouping hgrouping =>
      split at h
      · cases h
      · next order horder =>
          split at h
          · cases h
          · next limit hlimit =>
              split at h
              · cases h
              · next offset hoffset =>
                  cases h
                  exact ⟨grouping, order, limit, offset, hgrouping, horder, hlimit, hoffset, rfl⟩

end QueryOptions

/-! ### Columns and sort items -/

theorem dollar_not_mem_escape {name sql : String} (h : Identifier.escape name = .ok sql)
    (hname : '$' ∉ name.toList) : '$' ∉ sql.toList := by
  obtain ⟨-, rfl⟩ := Identifier.escape_eq_ok_iff.1 h
  intro hmem
  rw [String.toList_ofList] at hmem
  rcases mem_enclosed hmem with hquote | hmem
  · exact absurd hquote (by decide)
  · exact hname (mem_doubled hmem)

theorem dollar_not_mem_columnReference {column sql : String} {escape : Bool}
    (h : columnReference column escape = .ok sql) (hcolumn : '$' ∉ column.toList) :
    '$' ∉ sql.toList := by
  rcases columnReference_eq_ok h with ⟨-, hescape⟩ | ⟨-, -, rfl⟩
  · exact dollar_not_mem_escape hescape hcolumn
  · exact hcolumn

theorem splitAtLast?_sublist {inClass : Char → Bool} {cs front back : List Char}
    (h : splitAtLast? inClass cs = some (front, back)) : front.Sublist cs := by
  induction cs generalizing front back with
  | nil => cases h
  | cons c cs ih =>
      rw [splitAtLast?] at h
      split at h
      · next hrest =>
          cases h
          exact (ih hrest).cons_cons c
      · split at h
        · cases h
          exact List.nil_sublist _
        · cases h

namespace SortItem

/-- What an item sorts by is cut out of its text. -/
theorem ofTarget_of_ofChars {text : List Char} {item : SortItem} (h : ofChars text = .ok item) :
    ∃ cs direction, cs.Sublist text ∧ ofTarget cs direction = .ok item := by
  have htrim := trim_sublist text
  rw [ofChars] at h
  split at h
  · next rest heq =>
      rw [heq] at htrim
      exact ⟨rest, _, (List.sublist_cons_self _ _).trans htrim, h⟩
  · next rest heq =>
      rw [heq] at htrim
      exact ⟨rest, _, (List.sublist_cons_self _ _).trans htrim, h⟩
  · split at h
    · next front word hsplit =>
        split at h
        · exact ⟨front, _, (splitAtLast?_sublist hsplit).trans htrim, h⟩
        · exact ⟨_, _, htrim, h⟩
    · exact ⟨_, _, htrim, h⟩

/-- The target of an item has no dollar sign when the text of the target has none. -/
theorem dollar_not_mem_ofTarget {cs : List Char} {direction : SortDirection} {item : SortItem}
    (h : ofTarget cs direction = .ok item) {escape : Bool} {sql : String}
    (hsql : item.target.render escape = .ok sql) (hcs : '$' ∉ cs) : '$' ∉ sql.toList := by
  have htrim : '$' ∉ (String.ofList (trim cs)).toList := by
    rw [String.toList_ofList]
    exact fun hmem => hcs ((trim_sublist cs).subset hmem)
  rcases SortTarget.ofChars_eq_ok (target_of_ofTarget h) with ⟨-, htarget⟩ | ⟨-, htarget⟩
  · rw [htarget] at hsql
    cases hsql
    exact htrim
  · rw [htarget] at hsql
    exact dollar_not_mem_columnReference hsql htrim

theorem dollar_not_mem_target {text : String} {item : SortItem} (h : parse text = .ok item)
    {escape : Bool} {sql : String} (hsql : item.target.render escape = .ok sql)
    (htext : '$' ∉ text.toList) : '$' ∉ sql.toList := by
  obtain ⟨cs, direction, hsub, htarget⟩ := ofTarget_of_ofChars h
  exact dollar_not_mem_ofTarget htarget hsql fun hmem => htext (hsub.subset hmem)

theorem dollar_not_mem_render {item : SortItem} {escape : Bool} {nullsFirst : Option Bool}
    {sql : String} (h : item.render escape (nullsSql nullsFirst) = .ok sql)
    (htarget : ∀ target, item.target.render escape = .ok target → '$' ∉ target.toList) :
    '$' ∉ sql.toList := by
  obtain ⟨target, hrender, rfl⟩ := render_eq_ok h
  have hdirection : '$' ∉ item.direction.sql.toList := by cases item.direction <;> decide
  have hnulls : '$' ∉ (nullsSql nullsFirst).toList := by
    match nullsFirst with
    | none => decide
    | some true => decide
    | some false => decide
  simp [htarget target hrender, hdirection, hnulls]

end SortItem

/-- Items between commas are cut out of their text. -/
theorem dollarless_splitItems {text : String} (h : '$' ∉ text.toList) :
    Dollarless (splitItems text) := by
  intro item hitem hmem
  obtain ⟨cs, hcs, rfl⟩ := List.mem_map.1 hitem
  obtain ⟨piece, hpiece, rfl⟩ := List.mem_map.1 (List.mem_filter.1 hcs).1
  rw [String.toList_ofList] at hmem
  refine h ?_
  rw [← Text.intercalate_splitOn ',' text.toList]
  exact Text.mem_intercalate_of_mem hpiece ((trim_sublist piece).subset hmem)

/-! ### Texts of the options -/

/-- The texts of a select list. -/
def FieldList.texts : FieldList → List String
  | .columns names => names
  | .expression text => [text]

/-- The texts of an order; the names of directions come into no statement. -/
def SortList.texts : SortList → List String
  | .expression text => [text]
  | .columns items => items
  | .directions pairs _ => Entries.keys pairs

/-- The texts of a grouping. -/
def GroupList.texts : GroupList → List String
  | .expression text => [text]
  | .columns items => items

/-- The texts of the options that can come into a statement. -/
def QueryOptions.texts (options : QueryOptions) : List String :=
  (options.fields.map FieldList.texts).getD [] ++ (options.orderBy.map SortList.texts).getD [] ++
    (options.groupBy.map GroupList.texts).getD []

/-! ### Clauses -/

theorem inert_listClause {keyword : String} {items : List String} (hkeyword : '$' ∉ keyword.toList)
    (hitems : Dollarless items) : Inert (listClause keyword items) := by
  rw [listClause]
  split
  · exact inert_empty
  · have hlist : '$' ∉ (", ".intercalate items).toList :=
      dollar_not_mem_intercalate (by decide) hitems
    exact ⟨by simpa [hkeyword] using hlist, by simp⟩

theorem inert_groupByClause {list : Option GroupList} {escape : Bool} {sql : String}
    (h : groupByClause list escape = .ok sql)
    (hlist : Dollarless ((list.map GroupList.texts).getD [])) : Inert sql := by
  cases list with
  | none =>
      cases h
      exact inert_empty
  | some list =>
      obtain ⟨items, hitems, rfl⟩ := map_eq_ok h
      have htexts : Dollarless list.items := by
        cases list with
        | expression text => exact dollarless_splitItems (hlist text List.mem_cons_self)
        | columns texts => exact hlist
      refine inert_listClause (by decide) fun item hitem => ?_
      obtain ⟨text, htext, hgroup⟩ := exists_of_mem_mapAll hitems hitem
      obtain ⟨target, hparse, hsql⟩ := groupItem_eq_ok hgroup
      exact SortItem.dollar_not_mem_target hparse hsql (htexts text htext)

/-- The targets of an order have no dollar sign. -/
theorem dollar_not_mem_items {list : SortList} {items : List SortItem}
    (h : list.items = .ok items) (hlist : Dollarless list.texts) {item : SortItem}
    (hitem : item ∈ items) {escape : Bool} {sql : String}
    (hsql : item.target.render escape = .ok sql) : '$' ∉ sql.toList := by
  cases list with
  | expression text =>
      obtain ⟨piece, hpiece, hparse⟩ := exists_of_mem_mapAll h hitem
      have htext : '$' ∉ text.toList := hlist text List.mem_cons_self
      exact SortItem.dollar_not_mem_target hparse hsql (dollarless_splitItems htext piece hpiece)
  | columns texts =>
      obtain ⟨text, htext, hparse⟩ := exists_of_mem_mapAll h hitem
      exact SortItem.dollar_not_mem_target hparse hsql (hlist text htext)
  | directions pairs nodup =>
      obtain ⟨pair, hpair, hofPair⟩ := exists_of_mem_mapAll h hitem
      obtain ⟨direction, htarget⟩ := SortItem.ofPair_eq_ok hofPair
      exact SortItem.dollar_not_mem_ofTarget htarget hsql
        (hlist pair.1 (List.mem_map_of_mem hpair))

theorem inert_orderByClause {list : Option SortList} {nullsFirst : Option Bool} {escape : Bool}
    {sql : String} (h : orderByClause list nullsFirst escape = .ok sql)
    (hlist : Dollarless ((list.map SortList.texts).getD [])) : Inert sql := by
  cases list with
  | none =>
      cases h
      exact inert_empty
  | some list =>
      obtain ⟨items, sqls, hitems, hsqls, rfl⟩ := orderByClause_eq_ok h
      refine inert_listClause (by decide) fun text htext => ?_
      obtain ⟨item, hitem, hrender⟩ := exists_of_mem_mapAll hsqls htext
      exact SortItem.dollar_not_mem_render hrender fun target htarget =>
        dollar_not_mem_items hitems hlist hitem htarget

theorem inert_countClause {keyword : String} (hkeyword : '$' ∉ keyword.toList) {n : Option Int64}
    {sql : String} (h : countClause keyword n = .ok sql) : Inert sql := by
  cases n with
  | none =>
      cases h
      exact inert_empty
  | some n =>
      obtain ⟨-, rfl⟩ := countClause_eq_ok h
      exact ⟨by simpa [hkeyword] using dollar_not_mem_toString n.toInt, by simp⟩

namespace QueryOptions

theorem dollar_not_mem_selectList {options : QueryOptions} {escape : Bool} {sql : String}
    (h : options.selectList escape = .ok sql) (htexts : Dollarless options.texts) :
    '$' ∉ sql.toList := by
  have hfields : Dollarless ((options.fields.map FieldList.texts).getD []) :=
    (dollarless_append.1 (dollarless_append.1 htexts).1).1
  rcases selectList_eq_ok h with
    rfl | ⟨names, columns, heq, hcolumns, rfl⟩ | ⟨text, heq, -, rfl⟩
  · decide
  · rw [heq] at hfields
    refine dollar_not_mem_intercalate (by decide) fun column hcolumn => ?_
    obtain ⟨name, hname, href⟩ := exists_of_mem_mapAll hcolumns hcolumn
    exact dollar_not_mem_columnReference href (hfields name hname)
  · rw [heq] at hfields
    intro hmem
    rw [trimmed, String.toList_ofList] at hmem
    exact hfields text List.mem_cons_self ((trim_sublist _).subset hmem)

/-- **The select list** has no dollar sign when the texts of the options have none. -/
theorem dollar_not_mem_compileFields {options : QueryOptions} {escaping : Escaping} {sql : String}
    (h : options.compileFields escaping = .ok sql) (htexts : Dollarless options.texts) :
    '$' ∉ sql.toList := by
  obtain ⟨list, hlist, rfl⟩ := map_eq_ok h
  have hdollar := dollar_not_mem_selectList hlist htexts
  split
  · simp [hdollar]
  · exact hdollar

/-- **The clauses behind the conditions** change no placeholder in front of them when the texts of
the options have no dollar sign. -/
theorem inert_compileTail {options : QueryOptions} {escaping : Escaping} {sql : String}
    (h : options.compileTail escaping = .ok sql) (htexts : Dollarless options.texts) :
    Inert sql := by
  obtain ⟨hfront, hgroupBy⟩ := dollarless_append.1 htexts
  have horderBy := (dollarless_append.1 hfront).2
  obtain ⟨grouping, order, limit, offset, hgrouping, horder, hlimit, hoffset, rfl⟩ :=
    compileTail_eq_ok h
  have hlock : Inert (if options.forUpdate then " FOR UPDATE" else "") := by
    split
    · exact ⟨by decide, by simp⟩
    · exact inert_empty
  have hclauses := (inert_groupByClause hgrouping hgroupBy).append
    (inert_orderByClause horder horderBy)
  have hcounts := (hclauses.append (inert_countClause (by decide) hlimit)).append
    (inert_countClause (by decide) hoffset)
  exact hcounts.append hlock

end QueryOptions

end SqlFilter
