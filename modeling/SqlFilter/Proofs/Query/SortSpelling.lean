/-
**The spellings of an order.**

An order is written as a text with commas, as a list of items, or as columns with the names of
their directions.  In the first two forms a direction is a sign in front of the column or a word
behind it, and ascending order needs neither; in the last one it is a word of its own.

A column that is trimmed, has no comma and does not start with a sign can be written in every form,
whatever else it is: digits, a word for a direction, or a text that ends in such a word.  Only the
last of these needs a sign or a word, since its end would be taken for the direction.  Whichever way
is taken, what is read is the same target with the same direction; so the forms have the same
clause, or the same error.

Main definitions:

* `SqlFilter.IsSortName`: the columns that can be written in every form;
* `SqlFilter.EndsInDirection`: those that cannot stand alone;
* `SqlFilter.SpellsItem`, `SqlFilter.SpellsDirection`: the ways to write an item and a direction;
* `SqlFilter.SortPair`: a column with a direction, and how it is written in the three forms.

Main results:

* `SqlFilter.SortItem.ofChars_of_spellsItem`: every way to write an item is read as the item;
* `SqlFilter.SortPair.items_expression`, `SqlFilter.SortPair.items_columns`,
  `SqlFilter.SortPair.items_directions`: what is read from the three forms;
* `SqlFilter.QueryOptions.sortedBy_spellings`: **the three forms of an order agree**.
-/

import SqlFilter.Proofs.Query.Clauses

set_option relaxedAutoImplicit false
set_option autoImplicit false

namespace SqlFilter

open SqlFilter.Text (asciiLower doubled enclosed isBlank splitAtLast? splitAtLast?_append
  splitAtLast?_eq_some splitOn splitOn_intercalate toLower_eq_self trim trim_between
  trim_eq_self_of_forall trim_surrounded trim_trim trimmed)

/-! ### Directions as words -/

/-- A text of blanks, or of nothing. -/
def IsSpacing (cs : List Char) : Prop := ∀ c ∈ cs, isBlank c = true

theorem IsSpacing.comma {cs : List Char} (h : IsSpacing cs) : ',' ∉ cs := by
  intro hmem
  exact absurd (h ',' hmem) (by decide)

namespace SortDirection

/-- The word for a direction, in small letters. -/
def word : SortDirection → List Char
  | .ascending => "asc".toList
  | .descending => "desc".toList

/-- The sign for a direction. -/
def sign : SortDirection → Char
  | .ascending => '+'
  | .descending => '-'

/-- A text is the word for a direction, in any letter case. -/
def IsWord (direction : SortDirection) (cs : List Char) : Prop := asciiLower cs = direction.word

instance (direction : SortDirection) (cs : List Char) : Decidable (direction.IsWord cs) :=
  inferInstanceAs (Decidable (_ = _))

variable {direction : SortDirection} {cs : List Char}

/-- No blank is the capital of a letter. -/
theorem toLower_of_isBlank {c : Char} (hc : isBlank c = true) : c.toLower = c := by
  refine toLower_eq_self ?_
  simp [isBlank] at hc
  omega

/-- A character of a word that is its own small letter is in the word in small letters, too. -/
theorem IsWord.mem_word (h : direction.IsWord cs) {c : Char} (hc : c ∈ cs)
    (hlower : c.toLower = c) : c ∈ direction.word := by
  rw [← h, ← hlower]
  exact List.mem_map_of_mem hc

theorem IsWord.comma (h : direction.IsWord cs) : ',' ∉ cs := by
  intro hmem
  have hword := h.mem_word hmem rfl
  cases direction with
  | ascending => exact absurd hword (by decide)
  | descending => exact absurd hword (by decide)

theorem IsWord.isBlank (h : direction.IsWord cs) : ∀ c ∈ cs, isBlank c = false := by
  have hword : ∀ c ∈ direction.word, ¬Text.isBlank c = true := by
    cases direction with
    | ascending => exact List.any_eq_false.1 rfl
    | descending => exact List.any_eq_false.1 rfl
  intro c hc
  rw [← Bool.not_eq_true]
  intro hblank
  exact hword c (h.mem_word hc (toLower_of_isBlank hblank)) hblank

theorem IsWord.ne_nil (h : direction.IsWord cs) : cs ≠ [] := by
  rintro rfl
  cases direction with
  | ascending => exact absurd h (by decide)
  | descending => exact absurd h (by decide)

/-- What the word for a direction is read as. -/
theorem ofChars?_of_isWord (h : direction.IsWord cs) : ofChars? cs = some direction := by
  unfold ofChars?
  rw [trim_eq_self_of_forall h.isBlank, h]
  cases direction with
  | ascending => rfl
  | descending => rfl

/-- A text that is read as a direction is, trimmed, the word for it. -/
theorem isWord_of_ofChars? (h : ofChars? cs = some direction) : direction.IsWord (trim cs) := by
  unfold ofChars? at h
  dsimp only at h
  split at h
  · next hasc =>
      cases h
      exact String.ofList_injective hasc
  · split at h
    · next hdesc =>
        cases h
        exact String.ofList_injective hdesc
    · cases h

end SortDirection

/-! ### Ways to write an item -/

/-- A column that can be written in every form of an order. -/
structure IsSortName (name : List Char) : Prop where
  ne_nil : name ≠ []
  trim_eq : trim name = name
  comma : ',' ∉ name
  unsigned : ∀ c ∈ name.head?, c ≠ '+' ∧ c ≠ '-'

/-- A text whose last word is one for a direction, with another word in front of it. -/
def EndsInDirection (cs : List Char) : Prop :=
  ∃ front blank word, ∃ direction : SortDirection, cs = front ++ blank :: word ∧
    isBlank blank = true ∧ (∃ c ∈ front, isBlank c = false) ∧ direction.IsWord word

/-- The ways to write an item: a sign in front of the column, a word behind it, or the column alone
for ascending order, each with any blanks around it. -/
inductive SpellsItem (name : List Char) : SortDirection → List Char → Prop
  | sign (direction : SortDirection) {gap : List Char} (hgap : IsSpacing gap) :
      SpellsItem name direction (direction.sign :: (gap ++ name))
  | word {direction : SortDirection} {gap word : List Char} (hgap : IsSpacing gap) (hne : gap ≠ [])
      (hword : direction.IsWord word) : SpellsItem name direction (name ++ gap ++ word)
  | alone (hend : ¬EndsInDirection name) : SpellsItem name .ascending name
  | spaced {direction : SortDirection} {item before behind : List Char}
      (hitem : SpellsItem name direction item) (hbefore : IsSpacing before)
      (hbehind : IsSpacing behind) : SpellsItem name direction (before ++ item ++ behind)

/-- The ways to write a direction by itself. -/
def SpellsDirection (direction : SortDirection) (cs : List Char) : Prop :=
  ∃ before word behind, IsSpacing before ∧ direction.IsWord word ∧ IsSpacing behind ∧
    cs = before ++ word ++ behind

namespace SortItem

variable {name : List Char} {direction : SortDirection}

/-- Only the trimmed text of a target counts. -/
theorem ofTarget_congr {cs ds : List Char} (h : trim cs = trim ds) (direction : SortDirection) :
    ofTarget cs direction = ofTarget ds direction := by
  rw [ofTarget, ofTarget, h]

/-- An item without a sign is read from its end. -/
theorem ofChars_of_unsigned {text : List Char}
    (h : ∀ c ∈ (trim text).head?, c ≠ '+' ∧ c ≠ '-') :
    ofChars text =
      match splitAtLast? isBlank (trim text) with
      | some (front, word) =>
          match SortDirection.ofChars? word with
          | some direction => ofTarget front direction
          | none => ofTarget (trim text) .ascending
      | none => ofTarget (trim text) .ascending := by
  unfold ofChars
  split
  · next hplus =>
      rw [hplus] at h
      exact absurd rfl (h '+' rfl).1
  · next hminus =>
      rw [hminus] at h
      exact absurd rfl (h '-' rfl).2
  · rfl

theorem ofChars_sign {text rest : List Char} (h : trim text = direction.sign :: rest) :
    ofChars text = ofTarget rest direction := by
  unfold ofChars
  rw [h]
  cases direction with
  | ascending => rfl
  | descending => rfl

/-- A word for a direction counts when there is a blank in front of it. -/
theorem ofChars_word {text front word : List Char} {blank : Char}
    (h : ∀ c ∈ (trim text).head?, c ≠ '+' ∧ c ≠ '-') (htext : trim text = front ++ blank :: word)
    (hblank : isBlank blank = true) (hword : direction.IsWord word) :
    ofChars text = ofTarget front direction := by
  rw [ofChars_of_unsigned h, htext, splitAtLast?_append hblank hword.isBlank]
  dsimp only
  rw [SortDirection.ofChars?_of_isWord hword]

/-- A text that does not end in a word for a direction is a column as a whole. -/
theorem ofChars_alone {text : List Char} (h : ∀ c ∈ (trim text).head?, c ≠ '+' ∧ c ≠ '-')
    (hend : ¬EndsInDirection (trim text)) :
    ofChars text = ofTarget (trim text) .ascending := by
  rw [ofChars_of_unsigned h]
  split
  · next front word hsplit =>
      split
      · next direction hdirection =>
          refine absurd ?_ hend
          obtain ⟨blank, htext, hblank, hword⟩ := splitAtLast?_eq_some hsplit
          have hisWord := SortDirection.isWord_of_ofChars? hdirection
          rw [trim_eq_self_of_forall hword] at hisWord
          have hfront : ∃ c ∈ front, isBlank c = false := by
            have hhead := ((Text.trim_eq_self_iff _).1 (trim_trim text)).1
            rw [htext] at hhead
            cases front with
            | nil =>
                -- a trimmed text does not start with the blank itself
                rw [hhead blank rfl] at hblank
                exact absurd hblank Bool.false_ne_true
            | cons c front => exact ⟨c, List.mem_cons_self, hhead c rfl⟩
          exact ⟨front, blank, word, direction, htext, hblank, hfront, hisWord⟩
      · rfl
  · rfl

theorem ofChars_congr {xs ys : List Char} (h : trim xs = trim ys) : ofChars xs = ofChars ys := by
  unfold ofChars
  rw [h]

/-- Every way to write an item is read as its column with its direction. -/
theorem ofChars_of_spellsItem (hname : IsSortName name) {text : List Char}
    (h : SpellsItem name direction text) : ofChars text = ofTarget name direction := by
  induction h with
  | @sign direction gap hgap =>
      have hsign : trim [direction.sign] = [direction.sign] := by
        cases direction with
        | ascending => rfl
        | descending => rfl
      have htext : trim (direction.sign :: (gap ++ name)) = direction.sign :: (gap ++ name) :=
        trim_between hsign hname.trim_eq (List.cons_ne_nil _ _) hname.ne_nil gap
      have hrest : trim (gap ++ name) = trim name := by
        simpa using trim_surrounded hgap (List.forall_mem_nil _) name
      rw [ofChars_sign htext, ofTarget_congr hrest]
  | @word direction gap word hgap hne hword =>
      have htrim := trim_between hname.trim_eq (trim_eq_self_of_forall hword.isBlank) hname.ne_nil
        hword.ne_nil gap
      have hhead : ∀ c ∈ (trim (name ++ gap ++ word)).head?, c ≠ '+' ∧ c ≠ '-' := by
        rw [htrim, List.append_assoc, List.head?_append_of_ne_nil _ hname.ne_nil]
        exact hname.unsigned
      -- the item is cut at the last blank of the gap
      obtain ⟨gap, blank, rfl⟩ : ∃ front blank, gap = front ++ [blank] :=
        ⟨_, _, (List.dropLast_append_getLast hne).symm⟩
      obtain ⟨hfront, hblank⟩ := List.forall_mem_append.1 hgap
      have htext : trim (name ++ (gap ++ [blank]) ++ word) = name ++ gap ++ blank :: word := by
        rw [htrim, List.append_assoc, List.append_assoc, List.append_assoc, List.singleton_append]
      have htarget : trim (name ++ gap) = trim name := by
        simpa using trim_surrounded (List.forall_mem_nil _) hfront name
      rw [ofChars_word hhead htext (hblank blank List.mem_cons_self) hword, ofTarget_congr htarget]
  | alone hend =>
      rw [← hname.trim_eq] at hend
      rw [ofChars_alone _ hend, hname.trim_eq]
      rw [hname.trim_eq]
      exact hname.unsigned
  | spaced hitem hbefore hbehind ih =>
      rw [ofChars_congr (trim_surrounded hbefore hbehind _), ih]

end SortItem

namespace SpellsItem

variable {name text : List Char} {direction : SortDirection}

theorem comma (hname : ',' ∉ name) (h : SpellsItem name direction text) : ',' ∉ text := by
  induction h with
  | @sign direction gap hgap =>
      have hsign : ',' ≠ direction.sign := by
        cases direction with
        | ascending => decide
        | descending => decide
      simp [hsign, hgap.comma, hname]
  | word hgap hne hword => simp [hname, hgap.comma, hword.comma]
  | alone hend => exact hname
  | spaced hitem hbefore hbehind ih => simp [hbefore.comma, ih, hbehind.comma]

end SpellsItem

/-! ### Columns with directions -/

/-- A column with a direction, and a way to write it in each form of an order. -/
structure SortPair where
  column : String
  direction : SortDirection
  /-- The pair between commas. -/
  item : String
  /-- The pair in a list. -/
  element : String
  /-- The direction behind the column. -/
  name : String
  isSortName : IsSortName column.toList
  spells_item : SpellsItem column.toList direction item.toList
  spells_element : SpellsItem column.toList direction element.toList
  spells_name : SpellsDirection direction name.toList

namespace SortPair

/-- What a column is read as: digits alone are the position of another one. -/
def target (pair : SortPair) : SortTarget :=
  if pair.column.toList.all Char.isDigit then .position pair.column else .column pair.column

/-- What a pair is read as. -/
def sortItem (pair : SortPair) : SortItem := ⟨pair.target, pair.direction⟩

/-- A pair in a statement. -/
def sql (escape : Bool) (nullsFirst : Option Bool) (pair : SortPair) : String :=
  (if pair.column.toList.all Char.isDigit then pair.column
    else if escape then String.ofList (enclosed '"' (doubled '"' pair.column.toList))
    else pair.column) ++
  " " ++ pair.direction.sql ++ nullsSql nullsFirst

theorem ofChars_column (pair : SortPair) :
    SortTarget.ofChars pair.column.toList = .ok pair.target := by
  rw [SortTarget.ofChars, if_neg pair.isSortName.ne_nil, String.ofList_toList, target]
  split
  · rfl
  · rfl

theorem ofTarget_column (pair : SortPair) :
    SortItem.ofTarget pair.column.toList pair.direction = .ok pair.sortItem := by
  rw [SortItem.ofTarget, pair.isSortName.trim_eq, pair.ofChars_column]
  rfl

theorem parse_of_spellsItem (pair : SortPair) {text : String}
    (h : SpellsItem pair.column.toList pair.direction text.toList) :
    SortItem.parse text = .ok pair.sortItem := by
  rw [SortItem.parse, SortItem.ofChars_of_spellsItem pair.isSortName h, pair.ofTarget_column]

/-- What is read as an item has more than blanks. -/
theorem trim_item_ne_nil (pair : SortPair) : trim pair.item.toList ≠ [] := by
  intro htrim
  have hparse := pair.parse_of_spellsItem pair.spells_item
  have hnil : trim pair.item.toList = trim [] := htrim
  rw [SortItem.parse, SortItem.ofChars_congr hnil] at hparse
  cases hparse

theorem ofPair_name (pair : SortPair) :
    SortItem.ofPair (pair.column, pair.name) = .ok pair.sortItem := by
  obtain ⟨before, word, behind, hbefore, hword, hbehind, hname⟩ := pair.spells_name
  have hdirection : SortDirection.ofChars? pair.name.toList = some pair.direction := by
    rw [← SortDirection.ofChars?_of_isWord hword, hname, SortDirection.ofChars?,
      trim_surrounded hbefore hbehind, SortDirection.ofChars?]
  rw [SortItem.ofPair, hdirection]
  exact pair.ofTarget_column

/-- What an item comes to in a statement, if it comes to anything. -/
theorem sql_of_render (pair : SortPair) {escape : Bool} {nullsFirst : Option Bool} {text : String}
    (h : pair.sortItem.render escape (nullsSql nullsFirst) = .ok text) :
    pair.sql escape nullsFirst = text := by
  obtain ⟨rendered, hrendered, rfl⟩ := SortItem.render_eq_ok h
  have htarget : rendered = if pair.column.toList.all Char.isDigit then pair.column
      else if escape then String.ofList (enclosed '"' (doubled '"' pair.column.toList))
      else pair.column := by
    rw [sortItem, target] at hrendered
    split at hrendered
    · next hdigits =>
        cases hrendered
        rw [if_pos hdigits]
    · next hdigits =>
        rw [if_neg hdigits]
        rcases columnReference_eq_ok hrendered with ⟨rfl, hescape⟩ | ⟨rfl, -, rfl⟩
        · exact (Identifier.escape_eq_ok_iff.1 hescape).2
        · rfl
  rw [sql, htarget]
  rfl

end SortPair

/-! ### The three forms -/

/-- Texts without commas, none of them blank, are the items between their commas. -/
theorem splitItems_intercalate {texts : List String} (hcomma : ∀ text ∈ texts, ',' ∉ text.toList)
    (hblank : ∀ text ∈ texts, trim text.toList ≠ []) :
    splitItems (",".intercalate texts) = texts.map trimmed := by
  cases texts with
  | nil => rfl
  | cons text texts =>
      have hsplit : splitOn ',' (",".intercalate (text :: texts)).toList =
          (text :: texts).map String.toList := by
        rw [String.toList_intercalate]
        refine splitOn_intercalate (by simp) ?_
        intro piece hpiece
        obtain ⟨text, htext, rfl⟩ := List.mem_map.1 hpiece
        exact hcomma text htext
      rw [splitItems, hsplit, List.map_map, List.filter_eq_self.2, List.map_map]
      · rfl
      · intro piece hpiece
        obtain ⟨text, htext, rfl⟩ := List.mem_map.1 hpiece
        simpa using hblank text htext

namespace SortPair

variable (pairs : List SortPair)

/-- Pairs as a text with commas. -/
def expression : SortList := .expression (",".intercalate (pairs.map item))

/-- Pairs as a list of items. -/
def columns : SortList := .columns (pairs.map element)

/-- Pairs as columns with the names of directions. -/
def directions (nodup : (pairs.map column).Nodup) : SortList :=
  .directions (pairs.map fun pair => (pair.column, pair.name)) (by
    rw [Entries.keys, List.map_map]
    exact nodup)

theorem items_expression : (expression pairs).items = .ok (pairs.map sortItem) := by
  have hsplit : splitItems (",".intercalate (pairs.map item)) =
      (pairs.map item).map trimmed := by
    refine splitItems_intercalate ?_ ?_
    · intro text htext
      obtain ⟨pair, -, rfl⟩ := List.mem_map.1 htext
      exact pair.spells_item.comma pair.isSortName.comma
    · intro text htext
      obtain ⟨pair, -, rfl⟩ := List.mem_map.1 htext
      exact pair.trim_item_ne_nil
  rw [expression, SortList.items, hsplit, List.map_map]
  refine mapAll_map ?_ pairs
  intro pair
  rw [← pair.parse_of_spellsItem pair.spells_item, SortItem.parse, SortItem.parse,
    Function.comp_apply, trimmed, String.toList_ofList]
  exact SortItem.ofChars_congr (trim_trim _)

theorem items_columns : (columns pairs).items = .ok (pairs.map sortItem) :=
  mapAll_map (fun pair => pair.parse_of_spellsItem pair.spells_element) pairs

theorem items_directions (nodup : (pairs.map column).Nodup) :
    (directions pairs nodup).items = .ok (pairs.map sortItem) := mapAll_map ofPair_name pairs

/-- What the items of pairs come to in a statement. -/
theorem sqls_of_render {pairs : List SortPair} {escape : Bool} {nullsFirst : Option Bool}
    {sqls : List String}
    (h : mapAll (SortItem.render escape (nullsSql nullsFirst)) (pairs.map sortItem) = .ok sqls) :
    sqls = pairs.map (sql escape nullsFirst) := by
  rw [mapAll_eq_ok_iff, List.forall₂_map_left_iff] at h
  have hsql := h.imp fun pair text hrender => pair.sql_of_render hrender
  rw [← List.forall₂_map_left_iff, List.forall₂_eq_eq_eq] at hsql
  exact hsql.symm

end SortPair

namespace QueryOptions

/-- The options with another order. -/
def sortedBy (options : QueryOptions) (list : SortList) : QueryOptions :=
  { options with orderBy := some list }

/-- Only the items of an order count. -/
theorem compileTail_sortedBy_congr (options : QueryOptions) (escaping : Escaping)
    {list other : SortList} (h : list.items = other.items) :
    (options.sortedBy list).compileTail escaping =
      (options.sortedBy other).compileTail escaping := by
  have horder : ∀ escape, orderByClause (some list) options.nullsFirst escape =
      orderByClause (some other) options.nullsFirst escape := by
    intro escape
    rw [orderByClause, orderByClause, orderItems, orderItems, h]
  unfold compileTail
  dsimp only [sortedBy]
  rw [horder]
  rfl

/-- The clauses around an order with given items. -/
theorem compileTail_sortedBy_eq_ok {options : QueryOptions} {escaping : Escaping}
    {pairs : List SortPair} {list : SortList}
    (hitems : list.items = .ok (pairs.map SortPair.sortItem)) {sql : String}
    (h : (options.sortedBy list).compileTail escaping = .ok sql) :
    ∃ grouping rest,
      groupByClause options.groupBy (escaping.resolve options.escapeColumns).groupBy =
        .ok grouping ∧
      { options with groupBy := none, orderBy := none }.compileTail escaping = .ok rest ∧
      sql = grouping ++ listClause "ORDER BY" (pairs.map
        (SortPair.sql (escaping.resolve options.escapeColumns).orderBy options.nullsFirst)) ++
        rest := by
  obtain ⟨grouping, order, limit, offset, hgrouping, horder, hlimit, hoffset, rfl⟩ :=
    compileTail_eq_ok h
  refine ⟨grouping, limit ++ offset ++ if options.forUpdate then " FOR UPDATE" else "", hgrouping,
    ?_, ?_⟩
  · have hlimit' : countClause "LIMIT" options.limit = .ok limit := hlimit
    have hoffset' : countClause "OFFSET" options.offset = .ok offset := hoffset
    unfold compileTail
    dsimp only [groupByClause, orderByClause]
    rw [hlimit', hoffset']
    dsimp only
    rw [String.append_empty, String.empty_append]
  · obtain ⟨items, sqls, hread, hsqls, rfl⟩ := orderByClause_eq_ok horder
    rw [hitems] at hread
    cases hread
    rw [SortPair.sqls_of_render hsqls]
    simp only [String.append_assoc]
    rfl

/-- **The three forms of an order agree.**  Columns with directions, written between commas, as a
list or with the directions behind them, have the same clauses or the same error, and the order
lists the pairs as they are given. -/
theorem sortedBy_spellings (options : QueryOptions) (escaping : Escaping) (pairs : List SortPair)
    (nodup : (pairs.map SortPair.column).Nodup) :
    (options.sortedBy (SortPair.expression pairs)).compileTail escaping =
        (options.sortedBy (SortPair.columns pairs)).compileTail escaping ∧
      (options.sortedBy (SortPair.directions pairs nodup)).compileTail escaping =
        (options.sortedBy (SortPair.columns pairs)).compileTail escaping ∧
      ∀ sql, (options.sortedBy (SortPair.columns pairs)).compileTail escaping = .ok sql →
        ∃ grouping rest,
          groupByClause options.groupBy (escaping.resolve options.escapeColumns).groupBy =
            .ok grouping ∧
          { options with groupBy := none, orderBy := none }.compileTail escaping = .ok rest ∧
          sql = grouping ++ listClause "ORDER BY" (pairs.map
            (SortPair.sql (escaping.resolve options.escapeColumns).orderBy options.nullsFirst)) ++
            rest := by
  have hcolumns := SortPair.items_columns pairs
  refine ⟨?_, ?_, ?_⟩
  · exact compileTail_sortedBy_congr options escaping
      ((SortPair.items_expression pairs).trans hcolumns.symm)
  · exact compileTail_sortedBy_congr options escaping
      ((SortPair.items_directions pairs nodup).trans hcolumns.symm)
  · intro sql hsql
    exact compileTail_sortedBy_eq_ok hcolumns hsql

/-- A column that ends in a word for a direction, and one of digits. -/
theorem sortedBy_spellings_words :
    ["x desc", "2"].Nodup ∧
      compileTail { orderBy := some (.expression "+x desc, 2 DESC") } {} =
        compileTail { orderBy := some (.columns ["x desc  Asc", "- 2"]) } {} ∧
      compileTail
          { orderBy := some (.directions [("x desc", "ASC "), ("2", "desc")] (by decide)) } {} =
        compileTail { orderBy := some (.columns ["x desc  Asc", "- 2"]) } {} ∧
      compileTail { orderBy := some (.columns ["x desc  Asc", "- 2"]) } {} =
        .ok " ORDER BY \"x desc\" ASC, 2 DESC" := by
  have hnone : IsSpacing [] := List.forall_mem_nil _
  have hspace : IsSpacing [' '] := List.all_eq_true.1 rfl
  have hspaces : IsSpacing [' ', ' '] := List.all_eq_true.1 rfl
  have hasc : SortDirection.IsWord .ascending "Asc".toList := rfl
  have hdesc : SortDirection.IsWord .descending "DESC".toList := rfl
  have hx : ∀ c ∈ "x desc".toList.head?, c ≠ '+' ∧ c ≠ '-' := by
    intro c hc
    cases hc
    decide
  have htwo : ∀ c ∈ "2".toList.head?, c ≠ '+' ∧ c ≠ '-' := by
    intro c hc
    cases hc
    decide
  let words : SortPair :=
    { column := "x desc", direction := .ascending, item := "+x desc", element := "x desc  Asc",
      name := "ASC ",
      isSortName := ⟨List.cons_ne_nil _ _, rfl, by decide, hx⟩
      spells_item := .sign .ascending hnone
      spells_element := .word hspaces (List.cons_ne_nil _ _) hasc
      spells_name := ⟨[], "ASC".toList, [' '], hnone, rfl, hspace, rfl⟩ }
  let digits : SortPair :=
    { column := "2", direction := .descending, item := " 2 DESC", element := "- 2", name := "desc",
      isSortName := ⟨List.cons_ne_nil _ _, rfl, by decide, htwo⟩
      spells_item := .spaced (.word hspace (List.cons_ne_nil _ _) hdesc) hspace hnone
      spells_element := .sign .descending hspace
      spells_name := ⟨[], "desc".toList, [], hnone, rfl, hnone, rfl⟩ }
  have hnodup : ([words, digits].map SortPair.column).Nodup := by
    change ["x desc", "2"].Nodup
    decide
  obtain ⟨hexpression, hdirections, -⟩ := sortedBy_spellings {} {} [words, digits] hnodup
  exact ⟨hnodup, hexpression, hdirections, rfl⟩

end QueryOptions

end SqlFilter
