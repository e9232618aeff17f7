/-
**Options that are written and read back.**

The document of options has all of them in it, each under its name.  Lists of columns are told apart
by the shape of what is written, a text, a list or an object, so each shape has to come back as
itself, also when it is empty; a missing option is null, and no other option is.  A record is read
by the names of its fields, so the order of its members does not matter, while the columns with
directions keep theirs.

Main results:

* `SqlFilter.Form.pairs?_ofMembers`, `SqlFilter.Form.known?_ofMembers`: written members are read,
  and in any order they give the fields of a record;
* `SqlFilter.SortList.ofSpelling?_toJson` and its like for the other lists: **each shape comes back
  as itself**;
* `SqlFilter.QueryOptions.ofSpelling?_ofMembers`: the members of options, in any order;
* `SqlFilter.QueryOptions.parse?_render`: **options survive their JSON form**.
-/

import SqlFilter.Proofs.Json.WrittenText
import SqlFilter.Query.Clauses
import SqlFilter.Query.Forms

set_option relaxedAutoImplicit false
set_option autoImplicit false

namespace SqlFilter

open SqlFilter.Json (IsPlain Spelling mostOpen textOf?_unitsOf unitsOf)
open SqlFilter.Number (twoPow)

/-! ### Reading written values -/

namespace Form

theorem textItems?_ofItems (texts : List String) :
    textItems? (Spelling.ofItems (texts.map .string)) = some texts := by
  induction texts with
  | nil => rfl
  | cons text texts ih =>
      rw [List.map_cons, Spelling.ofItems, Spelling.ofJson, textItems?, text?, textOf?_unitsOf, ih]

/-- Written members are read one by one. -/
theorem pairs?_ofMembers {α β : Type} {read : Spelling → Option α} {write : β → Json}
    {result : β → α} {pairs : List (String × β)}
    (h : ∀ p ∈ pairs, read (.ofJson (write p.2)) = some (result p.2)) :
    pairs? read (Spelling.ofMembers (pairs.map fun p => (p.1, write p.2))) =
      some (pairs.map fun p => (p.1, result p.2)) := by
  induction pairs with
  | nil => rfl
  | cons p pairs ih =>
      rw [List.map_cons, Spelling.ofMembers, pairs?, textOf?_unitsOf, h p List.mem_cons_self,
        ih fun other hother => h other (List.mem_cons_of_mem p hother)]
      rfl

/-- **The fields of a record are found by their names**, whatever the order of the members. -/
theorem known?_ofMembers {members fields : List (String × Json)} (hperm : members.Perm fields)
    (hnodup : (Entries.keys fields).Nodup) :
    known? (Entries.keys fields) (Spelling.ofMembers members) =
      some (fields.map fun field => some (.ofJson field.2)) := by
  have hpairs : pairs? some (Spelling.ofMembers members) =
      some (members.map fun m => (m.1, Spelling.ofJson m.2)) := by
    have hread : pairs? some (Spelling.ofMembers (members.map fun m => (m.1, id m.2))) =
        some (members.map fun m => (m.1, Spelling.ofJson m.2)) := pairs?_ofMembers fun _ _ => rfl
    simpa using hread
  have hkeys : Entries.keys (members.map fun m => (m.1, Spelling.ofJson m.2)) =
      Entries.keys members := by
    simp [Entries.keys]
  have hdistinct : (Entries.keys members).Nodup := (hperm.map Prod.fst).nodup_iff.2 hnodup
  have hfound : ∀ field ∈ fields,
      Entries.get? field.1 (members.map fun m => (m.1, Spelling.ofJson m.2)) =
        some (.ofJson field.2) := by
    intro field hfield
    exact Entries.get?_of_mem (hkeys ▸ hdistinct)
      (List.mem_map.2 ⟨field, hperm.mem_iff.2 hfield, rfl⟩)
  have hcount : ((Entries.keys fields).any fun name => decide
      (1 < (Entries.keys (members.map fun m => (m.1, Spelling.ofJson m.2))).count name)) =
        false := by
    rw [List.any_eq_false]
    intro name _
    rw [hkeys, decide_eq_true_eq, Nat.not_lt]
    exact List.nodup_iff_count.1 hdistinct name
  rw [known?, hpairs]
  simp only [hcount, Bool.false_eq_true, if_false]
  rw [Entries.keys, List.map_map, Option.some.injEq]
  exact List.map_congr_left hfound

theorem int64?_ofInt64 (n : Int64) : int64? (.ofJson (.ofInt64 n)) = some n := by
  have hrange : -(twoPow 63 : Int) ≤ n.toInt ∧ n.toInt < (twoPow 63 : Int) := by
    have hpower : (twoPow 63 : Int) = 2 ^ 63 := rfl
    rw [hpower]
    exact ⟨n.le_toInt, n.toInt_lt⟩
  have hnumber : (Json.Numeral.ofInt n.toInt).int? = some n.toInt := Json.Numeral.int?_ofInt n.toInt
  rw [Json.ofInt64, Spelling.ofJson, int64?]
  simp only [hnumber, if_pos hrange, Int64.ofInt_toInt]

/-- A value that may be missing comes back, if null is no value. -/
theorem optional?_optionalJson {α : Type} {read : Spelling → Option α} {write : α → Json}
    (hread : ∀ a, read (.ofJson (write a)) = some a) (hnull : read .null = none) (o : Option α) :
    optional? read (.ofJson (QueryOptions.optionalJson write o)) = some o := by
  cases o with
  | none => rfl
  | some a =>
      rw [QueryOptions.optionalJson, optional?, hread a, Option.map_some]
      -- what is written of a value is not null, because null reads as no value
      intro hspelled
      have hback := hread a
      rw [hspelled, hnull] at hback
      cases hback

end Form

/-! ### Lists of columns -/

theorem FieldList.isPlain_toJson {room : Nat} (list : FieldList) :
    IsPlain (room + 1) list.toJson := by
  cases list with
  | columns names => exact .texts names
  | expression text => exact .string text

theorem FieldList.ofSpelling?_toJson (list : FieldList) :
    ofSpelling? (.ofJson list.toJson) = some list := by
  cases list with
  | columns names =>
      rw [toJson, Spelling.ofJson, ofSpelling?, Form.textItems?_ofItems]
      rfl
  | expression text =>
      rw [toJson, Spelling.ofJson, ofSpelling?, textOf?_unitsOf]
      rfl

theorem GroupList.isPlain_toJson {room : Nat} (list : GroupList) :
    IsPlain (room + 1) list.toJson := by
  cases list with
  | columns items => exact .texts items
  | expression text => exact .string text

theorem GroupList.ofSpelling?_toJson (list : GroupList) :
    ofSpelling? (.ofJson list.toJson) = some list := by
  cases list with
  | columns items =>
      rw [toJson, Spelling.ofJson, ofSpelling?, Form.textItems?_ofItems]
      rfl
  | expression text =>
      rw [toJson, Spelling.ofJson, ofSpelling?, textOf?_unitsOf]
      rfl

theorem SortList.isPlain_toJson {room : Nat} (list : SortList) :
    IsPlain (room + 1) list.toJson := by
  cases list with
  | columns items => exact .texts items
  | expression text => exact .string text
  | directions pairs nodup =>
      refine .object fun m hm => ?_
      obtain ⟨pair, -, rfl⟩ := List.mem_map.1 hm
      exact .string pair.2

/-- **Each shape of an order comes back as itself**, and columns with directions in their order. -/
theorem SortList.ofSpelling?_toJson (list : SortList) :
    ofSpelling? (.ofJson list.toJson) = some list := by
  cases list with
  | columns items =>
      rw [toJson, Spelling.ofJson, ofSpelling?, Form.textItems?_ofItems]
      rfl
  | expression text =>
      rw [toJson, Spelling.ofJson, ofSpelling?, textOf?_unitsOf]
      rfl
  | directions pairs nodup =>
      have hpairs : Form.pairs? Form.text? (Spelling.ofMembers (pairs.map fun p =>
          (p.1, .string p.2))) = some pairs := by
        have hread : Form.pairs? Form.text? (Spelling.ofMembers (pairs.map fun p =>
            (p.1, .string p.2))) = some (pairs.map fun p => (p.1, id p.2)) :=
          Form.pairs?_ofMembers fun p _ => textOf?_unitsOf p.2
        simpa using hread
      have hback : ofPairs pairs = .directions pairs nodup := by
        simp only [ofPairs, Entries.collect_of_nodup nodup]
      rw [toJson, Spelling.ofJson, ofSpelling?, hpairs, Option.map_some, hback]

/-! ### Options -/

namespace QueryOptions

theorem plain?_optionalJson {α : Type} {read : Spelling → Option α} {write : α → Json}
    (hread : ∀ a, read (.ofJson (write a)) = some a) (hnull : read .null = none) (o : Option α) :
    plain? read (some (.ofJson (optionalJson write o))) = some o :=
  Form.optional?_optionalJson hread hnull o

theorem shaped?_optionalJson {α : Type} {read : Spelling → Option α} {write : α → Json}
    (hplain : ∀ a, IsPlain innerRoom (write a)) (hread : ∀ a, read (.ofJson (write a)) = some a)
    (hnull : read .null = none) (o : Option α) :
    shaped? read (some (.ofJson (optionalJson write o))) = some o := by
  have hdocument : ∀ a, Form.document? innerRoom read (.ofJson (write a)) = some a := by
    intro a
    rw [Form.document?, if_pos (hplain a).isDocument, hread a]
  have hmissing : Form.document? innerRoom read .null = none := hnull
  exact Form.optional?_optionalJson hdocument hmissing o

theorem isPlain_optionalJson {α : Type} {room : Nat} {write : α → Json}
    (hwrite : ∀ a, IsPlain room (write a)) (o : Option α) :
    IsPlain room (optionalJson write o) := by
  cases o with
  | none => exact .null
  | some a => exact hwrite a

section Members

variable {members : List (String × Json)}

/-- The members of options are read by their names. -/
theorem ofSpelling?_ofMembers (o : QueryOptions) (hperm : members.Perm o.members) :
    ofSpelling? (.object (Spelling.ofMembers members)) = some o := by
  have hnames : names = Entries.keys o.members := rfl
  have hnodup : (Entries.keys o.members).Nodup := by
    rw [← hnames]
    decide
  have hflag : ∀ b, Form.orDefault? false Form.bool? (some (.ofJson (.bool b))) = some b :=
    fun _ => rfl
  have hswitch : ∀ b, plain? Form.bool? (some (.ofJson (optionalJson .bool b))) = some b :=
    plain?_optionalJson (fun _ => rfl) rfl
  have hcount : ∀ n, plain? Form.int64? (some (.ofJson (optionalJson .ofInt64 n))) = some n :=
    plain?_optionalJson Form.int64?_ofInt64 rfl
  have hselected := shaped?_optionalJson FieldList.isPlain_toJson FieldList.ofSpelling?_toJson rfl
  have hsorted := shaped?_optionalJson SortList.isPlain_toJson SortList.ofSpelling?_toJson rfl
  have hgrouped := shaped?_optionalJson GroupList.isPlain_toJson GroupList.ofSpelling?_toJson rfl
  rw [ofSpelling?, Form.fields?, hnames, Form.known?_ofMembers hperm hnodup, Option.bind_some]
  simp only [QueryOptions.members, List.map_cons, List.map_nil, ofFields?, hflag, hswitch, hcount,
    hselected, hsorted, hgrouped]
  rfl

/-- The document of options, with its members in any order, is plain. -/
theorem isPlain_members (o : QueryOptions) (hperm : members.Perm o.members) :
    IsPlain mostOpen (.object members) := by
  refine .object fun m hm => ?_
  have hmember := hperm.mem_iff.1 hm
  simp only [QueryOptions.members, List.mem_cons, List.not_mem_nil, or_false] at hmember
  rcases hmember with rfl | rfl | rfl | rfl | rfl | rfl | rfl | rfl | rfl | rfl
  · exact isPlain_optionalJson FieldList.isPlain_toJson o.fields
  · exact .bool o.distinct
  · exact isPlain_optionalJson SortList.isPlain_toJson o.orderBy
  · exact isPlain_optionalJson .bool o.nullsFirst
  · exact isPlain_optionalJson GroupList.isPlain_toJson o.groupBy
  · exact isPlain_optionalJson Json.isPlain_ofInt64 o.limit
  · exact isPlain_optionalJson Json.isPlain_ofInt64 o.offset
  · exact .bool o.forUpdate
  · exact isPlain_optionalJson .bool o.escapeColumns
  · exact isPlain_optionalJson .bool o.skipUndefined

/-- The text of the members of options, in any order, is read as those options. -/
theorem parse?_ofMembers (o : QueryOptions) (hperm : members.Perm o.members) :
    parse? (Json.object members).render = some o := by
  rw [parse?, (isPlain_members o hperm).ofChars?_render, Option.bind_some, Spelling.ofJson,
    ofSpelling?_ofMembers o hperm]

end Members

/-- **Options survive their JSON form.**  What is read back is equal to what was written, so that it
has the same select list and the same clauses under every setting of the quotes; and the order of
the members does not matter. -/
theorem parse?_render (o : QueryOptions) :
    (∃ back, parse? o.toJson.render = some back ∧ back = o ∧
      ∀ escaping, back.compileFields escaping = o.compileFields escaping ∧
        back.compileTail escaping = o.compileTail escaping) ∧
    ∀ members : List (String × Json), members.Perm o.members →
      parse? (Json.object members).render = parse? o.toJson.render := by
  have hread : parse? o.toJson.render = some o := parse?_ofMembers o (.refl o.members)
  refine ⟨⟨o, hread, rfl, fun _ => ⟨rfl, rfl⟩⟩, fun members hperm => ?_⟩
  rw [hread, parse?_ofMembers o hperm]

/-- Empty lists, texts and objects stay apart, also when the members stand backwards. -/
theorem parse?_render_backwards :
    parse? (Json.object (members
        { fields := some (.columns []), orderBy := some (.directions [] .nil),
          groupBy := some (.expression ""), offset := some (-1) }).reverse).render =
      some { fields := some (.columns []), orderBy := some (.directions [] .nil),
             groupBy := some (.expression ""), offset := some (-1) } := by
  obtain ⟨⟨back, hread, rfl, -⟩, hany⟩ := parse?_render
    { fields := some (.columns []), orderBy := some (.directions [] .nil),
      groupBy := some (.expression ""), offset := some (-1) }
  rw [hany _ (List.reverse_perm _), hread]

end QueryOptions

end SqlFilter
