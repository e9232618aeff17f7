/-
**Clauses without quotes.**

Names and expressions that are not put in quotes stand in a statement as they were given, after a
check, each by itself, that they end no statement and open or close no comment.  What has to be
excluded then is that two of them do so together.

All that is forbidden is made of four characters.  A text without these keeps apart whatever stands
on its two sides, and between any two texts that were checked there is such a text: a comma and a
space, the word of a clause or of a direction, or blanks that were trimmed before the check.  So the
whole is as harmless as its parts.

Main definitions:

* `SqlFilter.Harmless`: a text without forbidden sequences;
* `SqlFilter.Unmarked`: a text without the characters that these are made of.

Main results:

* `SqlFilter.infix_of_infix_append_cons`: nothing reaches across a character that it does not have;
* `SqlFilter.Harmless.between`, `SqlFilter.Harmless.intercalate`: harmless texts with unmarked ones
  between them;
* `SqlFilter.harmless_of_checkPlain`: what passes the check is harmless with the blanks around it;
* `SqlFilter.QueryOptions.harmless_clauses`: **without quotes, no clause ends the statement or hides
  a part of it**.
-/

import SqlFilter.Proofs.Number.Digits
import SqlFilter.Proofs.Query.Clauses

set_option relaxedAutoImplicit false
set_option autoImplicit false

namespace SqlFilter

open SqlFilter.Text (exists_blanks isBlank occursIn_iff trim)

/-! ### Pieces of a text -/

/-- Nothing reaches across a character that it does not have. -/
theorem infix_of_infix_append_cons {α : Type} {piece xs ys : List α} {c : α} (hc : c ∉ piece)
    (h : piece <:+: xs ++ c :: ys) : piece <:+: xs ∨ piece <:+: ys := by
  obtain ⟨front, back, htext⟩ := h
  rw [List.append_assoc, List.append_eq_append_iff] at htext
  rcases htext with ⟨gap, rfl, hrest⟩ | ⟨gap, rfl, hrest⟩
  · -- the piece starts in front of the character, so it ends there, too
    left
    rcases List.append_eq_append_iff.1 hrest with ⟨more, rfl, -⟩ | ⟨more, rfl, hmore⟩
    · exact ⟨front, more, List.append_assoc front piece more⟩
    · cases more with
      | nil => exact ⟨front, [], by simp⟩
      | cons d more =>
          rw [List.cons_append, List.cons.injEq] at hmore
          exact absurd (by simp [hmore.1]) hc
  · cases gap with
    | nil =>
        cases piece with
        | nil => exact .inl List.nil_infix
        | cons d piece =>
            rw [List.nil_append, List.cons_append, List.cons.injEq] at hrest
            exact absurd (by simp [hrest.1]) hc
    | cons d gap =>
        right
        rw [List.cons_append, List.cons.injEq] at hrest
        exact ⟨gap, back, by rw [hrest.2, List.append_assoc]⟩

/-! ### Harmless texts -/

/-- Nothing forbidden stands in a text. -/
def Harmless (cs : List Char) : Prop := ∀ piece ∈ Identifier.forbidden, ¬piece.toList <:+: cs

/-- Whether forbidden sequences are made of a character. -/
def isMark (c : Char) : Bool := Identifier.forbidden.any fun piece => piece.toList.contains c

/-- No character of the text is one that forbidden sequences are made of. -/
def Unmarked (cs : List Char) : Prop := ∀ c ∈ cs, isMark c = false

theorem not_mem_of_isMark {c : Char} (hc : isMark c = false) {piece : String}
    (hpiece : piece ∈ Identifier.forbidden) : c ∉ piece.toList := by
  intro hmem
  have hnone := List.any_eq_false.1 hc piece hpiece
  rw [List.contains_iff_mem] at hnone
  exact hnone hmem

theorem Unmarked.append {xs ys : List Char} (hxs : Unmarked xs) (hys : Unmarked ys) :
    Unmarked (xs ++ ys) := List.forall_mem_append.2 ⟨hxs, hys⟩

namespace Harmless

variable {front back : List Char}

theorem nil : Harmless [] := by
  intro piece hpiece hinside
  rw [List.infix_nil] at hinside
  have hempty : ∀ piece ∈ Identifier.forbidden, piece.toList ≠ [] := by decide
  exact hempty piece hpiece hinside

/-- Two harmless texts with an unmarked character between them. -/
theorem append_cons (hfront : Harmless front) (hback : Harmless back) {c : Char}
    (hc : isMark c = false) : Harmless (front ++ c :: back) := by
  intro piece hpiece hinside
  rcases infix_of_infix_append_cons (not_mem_of_isMark hc hpiece) hinside with h | h
  · exact hfront piece hpiece h
  · exact hback piece hpiece h

/-- An unmarked text in front of a harmless one. -/
theorem behind {cs : List Char} (hcs : Unmarked cs) (hback : Harmless back) :
    Harmless (cs ++ back) := by
  induction cs with
  | nil => exact hback
  | cons c cs ih =>
      have hrest := ih fun d hd => hcs d (List.mem_cons_of_mem c hd)
      exact nil.append_cons hrest (hcs c List.mem_cons_self)

theorem ofUnmarked {cs : List Char} (h : Unmarked cs) : Harmless cs := by
  have hcs := behind h nil
  rwa [List.append_nil] at hcs

/-- **An unmarked text keeps two harmless ones apart.** -/
theorem between (hfront : Harmless front) {sep : List Char} (hsep : Unmarked sep) (hne : sep ≠ [])
    (hback : Harmless back) : Harmless (front ++ sep ++ back) := by
  obtain ⟨c, sep, rfl⟩ := List.exists_cons_of_ne_nil hne
  have hrest := behind (fun d hd => hsep d (List.mem_cons_of_mem c hd)) hback
  rw [List.append_assoc]
  exact hfront.append_cons hrest (hsep c List.mem_cons_self)

/-- An unmarked text behind a harmless one. -/
theorem append (hfront : Harmless front) {cs : List Char} (hcs : Unmarked cs) :
    Harmless (front ++ cs) := by
  by_cases hne : cs = []
  · rwa [hne, List.append_nil]
  · have htext := hfront.between hcs hne nil
    rwa [List.append_nil] at htext

/-- Harmless texts that are joined by an unmarked one. -/
theorem intercalate {sep : List Char} (hsep : Unmarked sep) (hne : sep ≠ [])
    {parts : List (List Char)} (h : ∀ part ∈ parts, Harmless part) :
    Harmless (sep.intercalate parts) := by
  induction parts with
  | nil => exact nil
  | cons part parts ih =>
      have hpart := h part List.mem_cons_self
      have hrest := ih fun other hother => h other (List.mem_cons_of_mem part hother)
      cases parts with
      | nil =>
          rw [List.intercalate_singleton]
          exact hpart
      | cons other parts =>
          rw [List.intercalate_cons_cons]
          exact hpart.between hsep hne hrest

/-- Of two harmless texts the second one starts with an unmarked character. -/
theorem append_of_head? (hfront : Harmless front) (hback : Harmless back)
    (h : ∀ c ∈ back.head?, isMark c = false) : Harmless (front ++ back) := by
  cases back with
  | nil =>
      rw [List.append_nil]
      exact hfront
  | cons c back =>
      refine hfront.append_cons ?_ (h c rfl)
      intro piece hpiece hinside
      exact hback piece hpiece (hinside.trans (List.suffix_cons c back).isInfix)

end Harmless

/-! ### Unmarked texts -/

theorem unmarked_of_any {cs : List Char} (h : cs.any isMark = false) : Unmarked cs := by
  intro c hc
  rw [← Bool.not_eq_true]
  exact List.any_eq_false.1 h c hc

/-- The characters of a class that has none of those of forbidden sequences. -/
theorem isMark_eq_false {p : Char → Bool} {c : Char} (hc : p c = true)
    (h : (Identifier.forbidden.all fun piece => piece.toList.all fun d => !p d) = true) :
    isMark c = false := by
  refine List.any_eq_false.2 ?_
  intro piece hpiece hmem
  have hchar := List.all_eq_true.1 (List.all_eq_true.1 h piece hpiece) c
    (List.contains_iff_mem.1 hmem)
  rw [hc] at hchar
  cases hchar

theorem unmarked_blanks {cs : List Char} (h : ∀ c ∈ cs, isBlank c = true) : Unmarked cs := by
  intro c hc
  exact isMark_eq_false (h c hc) rfl

theorem unmarked_digits {cs : List Char} (h : ∀ c ∈ cs, c.isDigit = true) : Unmarked cs := by
  intro c hc
  exact isMark_eq_false (h c hc) rfl

/-- A number without a sign is written in digits. -/
theorem unmarked_toString {n : Int} (h : 0 ≤ n) : Unmarked (toString n).toList := by
  cases n with
  | ofNat n =>
      rw [Number.toList_toString_ofNat]
      refine unmarked_digits ?_
      intro c hc
      exact Nat.isDigit_of_mem_toDigits (by decide) (by decide) hc
  | negSucc n => exact absurd h (Int.not_le.2 (Int.negSucc_lt_zero n))

/-! ### What is checked -/

/-- What passes the check is harmless, with the blanks around it. -/
theorem harmless_of_checkPlain {text : String} (h : Identifier.checkPlain text = .ok ()) :
    Harmless text.toList := by
  have hbody : Harmless (trim text.toList) := by
    intro piece hpiece hinside
    unfold Identifier.checkPlain at h
    dsimp only at h
    split at h
    · cases h
    · split at h
      · cases h
      · next hnone =>
          have hfree := List.find?_eq_none.1 hnone piece hpiece
          rw [Text.trimmed, String.toList_ofList, occursIn_iff] at hfree
          obtain ⟨front, back, htext⟩ := hinside
          exact hfree ⟨front, back, htext.symm⟩
  obtain ⟨before, behind, hbefore, hbehind, htext⟩ := exists_blanks text.toList
  rw [htext]
  exact (Harmless.behind (unmarked_blanks hbefore) hbody).append (unmarked_blanks hbehind)

theorem harmless_columnReference {column sql : String}
    (h : columnReference column false = .ok sql) :
    Harmless sql.toList := by
  rcases columnReference_eq_ok h with ⟨hescape, -⟩ | ⟨-, hcheck, rfl⟩
  · cases hescape
  · exact harmless_of_checkPlain hcheck

/-! ### Sort items -/

/-- What is sorted by is digits, or a name that was checked. -/
theorem SortTarget.harmless_render {cs : List Char} {target : SortTarget}
    (h : ofChars cs = .ok target) {sql : String} (hsql : target.render false = .ok sql) :
    Harmless sql.toList := by
  rcases ofChars_eq_ok h with ⟨hdigits, rfl⟩ | ⟨-, rfl⟩
  · cases hsql
    rw [String.toList_ofList]
    exact .ofUnmarked (unmarked_digits (List.all_eq_true.1 hdigits))
  · exact harmless_columnReference hsql

namespace SortItem

/-- What an item sorts by is read from a text. -/
theorem target_of_parse {text : String} {item : SortItem} (h : parse text = .ok item) :
    ∃ text, SortTarget.ofChars text = .ok item.target := by
  obtain ⟨cs, direction, -, htarget⟩ := ofTarget_of_ofChars h
  exact ⟨trim cs, target_of_ofTarget htarget⟩

theorem harmless_render {item : SortItem} {text : List Char}
    (htext : SortTarget.ofChars text = .ok item.target) {nullsFirst : Option Bool} {sql : String}
    (h : item.render false (nullsSql nullsFirst) = .ok sql) : Harmless sql.toList := by
  obtain ⟨target, htarget, rfl⟩ := render_eq_ok h
  have hdirection : Unmarked item.direction.sql.toList := by
    cases item.direction with
    | ascending => exact unmarked_of_any rfl
    | descending => exact unmarked_of_any rfl
  have hnulls : Unmarked (nullsSql nullsFirst).toList := by
    cases nullsFirst with
    | none => exact unmarked_of_any rfl
    | some first =>
        cases first with
        | true => exact unmarked_of_any rfl
        | false => exact unmarked_of_any rfl
  have hblank : Unmarked " ".toList := unmarked_of_any rfl
  rw [String.toList_append, String.toList_append, String.toList_append]
  exact (((SortTarget.harmless_render htext htarget).append hblank).append hdirection).append hnulls

end SortItem

/-- What the items of an order sort by is read from texts. -/
theorem SortList.target_of_items {list : SortList} {items : List SortItem}
    (h : list.items = .ok items) {item : SortItem} (hitem : item ∈ items) :
    ∃ text, SortTarget.ofChars text = .ok item.target := by
  cases list with
  | expression text =>
      obtain ⟨piece, -, hpiece⟩ := exists_of_mem_mapAll h hitem
      exact SortItem.target_of_parse hpiece
  | columns texts =>
      obtain ⟨text, -, htext⟩ := exists_of_mem_mapAll h hitem
      exact SortItem.target_of_parse htext
  | directions pairs nodup =>
      obtain ⟨pair, -, hpair⟩ := exists_of_mem_mapAll h hitem
      obtain ⟨direction, htarget⟩ := SortItem.ofPair_eq_ok hpair
      exact ⟨trim pair.1.toList, SortItem.target_of_ofTarget htarget⟩

/-! ### Clauses -/

/-- Harmless items with commas between them. -/
theorem harmless_commas {items : List String} (h : ∀ item ∈ items, Harmless item.toList) :
    Harmless (", ".intercalate items).toList := by
  rw [String.toList_intercalate]
  refine Harmless.intercalate (unmarked_of_any rfl) (by simp) ?_
  intro part hpart
  obtain ⟨item, hitem, rfl⟩ := List.mem_map.1 hpart
  exact h item hitem

/-- A harmless text that starts, if it is not empty, with an unmarked character. -/
structure HarmlessClause (sql : String) : Prop where
  harmless : Harmless sql.toList
  head : ∀ c ∈ sql.toList.head?, isMark c = false

theorem harmlessClause_empty : HarmlessClause "" := ⟨Harmless.nil, by simp⟩

theorem HarmlessClause.append {front back : String} (hfront : HarmlessClause front)
    (hback : HarmlessClause back) : HarmlessClause (front ++ back) := by
  constructor
  · rw [String.toList_append]
    exact hfront.harmless.append_of_head? hback.harmless hback.head
  · intro c hc
    rw [String.toList_append, List.head?_append] at hc
    cases hhead : front.toList.head? with
    | none =>
        rw [hhead, Option.none_or] at hc
        exact hback.head c hc
    | some d =>
        rw [hhead, Option.some_or] at hc
        exact hfront.head c (hhead ▸ hc)

/-- A clause is its keyword, with a blank on either side, and something harmless. -/
theorem harmlessClause_keyword {keyword sql : String} (hkeyword : Unmarked keyword.toList)
    (h : Harmless sql.toList) : HarmlessClause (" " ++ keyword ++ " " ++ sql) := by
  have hblank : Unmarked " ".toList := unmarked_of_any rfl
  constructor
  · rw [String.toList_append, String.toList_append, String.toList_append]
    exact .behind ((hblank.append hkeyword).append hblank) h
  · intro c hc
    rw [String.append_assoc, String.append_assoc, String.toList_append] at hc
    cases hc
    rfl

theorem harmlessClause_listClause {keyword : String} (hkeyword : Unmarked keyword.toList)
    {items : List String} (h : ∀ item ∈ items, Harmless item.toList) :
    HarmlessClause (listClause keyword items) := by
  rw [listClause]
  split
  · exact harmlessClause_empty
  · exact harmlessClause_keyword hkeyword (harmless_commas h)

theorem harmlessClause_groupByClause {list : Option GroupList} {sql : String}
    (h : groupByClause list false = .ok sql) : HarmlessClause sql := by
  cases list with
  | none =>
      cases h
      exact harmlessClause_empty
  | some list =>
      obtain ⟨items, hitems, rfl⟩ := map_eq_ok h
      refine harmlessClause_listClause (unmarked_of_any rfl) ?_
      intro item hitem
      obtain ⟨text, -, hgroup⟩ := exists_of_mem_mapAll hitems hitem
      obtain ⟨target, hparse, hsql⟩ := groupItem_eq_ok hgroup
      obtain ⟨cs, htarget⟩ := SortItem.target_of_parse hparse
      exact SortTarget.harmless_render htarget hsql

theorem harmlessClause_orderByClause {list : Option SortList} {nullsFirst : Option Bool}
    {sql : String} (h : orderByClause list nullsFirst false = .ok sql) : HarmlessClause sql := by
  cases list with
  | none =>
      cases h
      exact harmlessClause_empty
  | some list =>
      obtain ⟨items, sqls, hitems, hsqls, rfl⟩ := orderByClause_eq_ok h
      refine harmlessClause_listClause (unmarked_of_any rfl) ?_
      intro sql hsql
      obtain ⟨item, hitem, hrender⟩ := exists_of_mem_mapAll hsqls hsql
      obtain ⟨cs, htarget⟩ := SortList.target_of_items hitems hitem
      exact SortItem.harmless_render htarget hrender

theorem harmlessClause_countClause {keyword : String} (hkeyword : Unmarked keyword.toList)
    {n : Option Int64} {sql : String} (h : countClause keyword n = .ok sql) :
    HarmlessClause sql := by
  cases n with
  | none =>
      cases h
      exact harmlessClause_empty
  | some n =>
      obtain ⟨hnonneg, rfl⟩ := countClause_eq_ok h
      exact harmlessClause_keyword hkeyword (.ofUnmarked (unmarked_toString hnonneg))

namespace QueryOptions

variable {options : QueryOptions} {escaping : Escaping} {sql : String}

theorem harmless_selectList (h : options.selectList false = .ok sql) : Harmless sql.toList := by
  have hall : Harmless "*".toList := by
    intro piece hpiece
    simp only [Identifier.forbidden, List.mem_cons, List.not_mem_nil, or_false] at hpiece
    rcases hpiece with rfl | rfl | rfl | rfl
    all_goals decide
  rcases selectList_eq_ok h with
    rfl | ⟨names, columns, -, hcolumns, rfl⟩ | ⟨text, -, hcheck, rfl⟩
  · exact hall
  · refine harmless_commas ?_
    intro column hcolumn
    obtain ⟨name, -, hreference⟩ := exists_of_mem_mapAll hcolumns hcolumn
    exact harmless_columnReference hreference
  · obtain ⟨before, behind, -, -, htext⟩ := exists_blanks text.toList
    rw [Text.trimmed, String.toList_ofList]
    intro piece hpiece hinside
    exact harmless_of_checkPlain hcheck piece hpiece
      (hinside.trans ⟨before, behind, htext.symm⟩)

theorem harmless_compileFields
    (hplain : (escaping.resolve options.escapeColumns).select = false)
    (h : options.compileFields escaping = .ok sql) : Harmless sql.toList := by
  rw [compileFields, hplain] at h
  obtain ⟨list, hlist, rfl⟩ := map_eq_ok h
  have hharmless := harmless_selectList hlist
  split
  · rw [String.toList_append]
    exact .behind (unmarked_of_any rfl) hharmless
  · exact hharmless

theorem harmless_compileTail
    (hgroupBy : (escaping.resolve options.escapeColumns).groupBy = false)
    (horderBy : (escaping.resolve options.escapeColumns).orderBy = false)
    (h : options.compileTail escaping = .ok sql) : Harmless sql.toList := by
  obtain ⟨grouping, order, limit, offset, hgrouping, horder, hlimit, hoffset, rfl⟩ :=
    compileTail_eq_ok h
  rw [hgroupBy] at hgrouping
  rw [horderBy] at horder
  have hlock : HarmlessClause (if options.forUpdate then " FOR UPDATE" else "") := by
    split
    · refine ⟨.ofUnmarked (unmarked_of_any rfl), ?_⟩
      intro c hc
      cases hc
      rfl
    · exact harmlessClause_empty
  have hclauses := (harmlessClause_groupByClause hgrouping).append
    (harmlessClause_orderByClause horder)
  have hcounts := (hclauses.append (harmlessClause_countClause (unmarked_of_any rfl) hlimit)).append
    (harmlessClause_countClause (unmarked_of_any rfl) hoffset)
  exact (hcounts.append hlock).harmless

/-- **Without quotes, no clause ends the statement or hides a part of it.**  When no name is put in
quotes, neither a semicolon nor the start or the end of a comment stands anywhere in the select list
or in the clauses behind the conditions, inside of what was given or across two parts of it. -/
theorem harmless_clauses (hplain : escaping.resolve options.escapeColumns = .everywhere false)
    (h : options.compileFields escaping = .ok sql ∨ options.compileTail escaping = .ok sql) :
    ∀ piece ∈ [";", "--", "/*", "*/"], ¬piece.toList <:+: sql.toList := by
  have hharmless : Harmless sql.toList := by
    rcases h with h | h
    · exact harmless_compileFields (by rw [hplain]; rfl) h
    · exact harmless_compileTail (by rw [hplain]; rfl) (by rw [hplain]; rfl) h
  exact hharmless

/-- Items that start and end with the characters of comments. -/
theorem harmless_clauses_seams :
    Escaping.resolve {} (some false) = .everywhere false ∧
      compileTail
          { orderBy := some (.expression "- -a, *"), nullsFirst := some false,
            groupBy := some (.columns ["+-b -", "/"]), limit := some 0, forUpdate := true,
            escapeColumns := some false } {} =
        .ok (" GROUP BY -b -, / ORDER BY -a DESC NULLS LAST, * ASC NULLS LAST" ++
          " LIMIT 0 FOR UPDATE") ∧
      ∀ piece ∈ [";", "--", "/*", "*/"], ¬piece.toList <:+:
        (" GROUP BY -b -, / ORDER BY -a DESC NULLS LAST, * ASC NULLS LAST" ++
          " LIMIT 0 FOR UPDATE").toList := by
  have hplain : Escaping.resolve {} (some false) = .everywhere false := rfl
  have hrun : compileTail
      { orderBy := some (.expression "- -a, *"), nullsFirst := some false,
        groupBy := some (.columns ["+-b -", "/"]), limit := some 0, forUpdate := true,
        escapeColumns := some false } {} =
      .ok (" GROUP BY -b -, / ORDER BY -a DESC NULLS LAST, * ASC NULLS LAST" ++
        " LIMIT 0 FOR UPDATE") := rfl
  exact ⟨hplain, hrun, harmless_clauses hplain (.inr hrun)⟩

end QueryOptions

end SqlFilter
