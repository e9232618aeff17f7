/-
**Keys that are written from a field and an operator.**

A key is written as a field, blanks and the token of an operator.  To read it, the longest ending
that is a token is looked for, so that the token that was written has to be compared with all longer
endings of the key.  A longer token would have to go on in front of the blanks; tokens hold no
blanks but the spaces between words, and of the tokens with several words three are left, those that
have the word `not` in front of another token.  So a field that ends in that word, standing apart,
and one space give it away to the operator; in all other cases the field and the operator come back.

Main definitions:

* `SqlFilter.Key.IsFieldText`: a text that names a column and holds no other part of a key;
* `SqlFilter.Key.comparing`: what a key says of a field, a reference to it and an operator;
* `SqlFilter.Key.JoinsNot`: the last word of a field belongs to the operator;
* `SqlFilter.Operator.Ends`: an operator stands at the end of a key.

Main results:

* `SqlFilter.Key.findOperator?_append`: the search for a token passes over a text that has none;
* `SqlFilter.Key.splitOperator_spaced`: **the written operator is found**;
* `SqlFilter.Key.splitPath_of_pathless`: a field without path operators has no steps;
* `SqlFilter.Key.parse_written`: **the field and the operator come back**.
-/

import SqlFilter.Condition.Key

set_option relaxedAutoImplicit false
set_option autoImplicit false

namespace SqlFilter

open SqlFilter.Text (enclosed exists_blanks exists_trimEnd_append isBlank occursIn occursIn_iff
  stripSuffix? stripSuffix?_eq_some_iff trim trim_between trim_surrounded trimEnd
  trimEnd_append_of_blank trimEnd_of_trim trimmed)

/-! ### Tokens at the end of a key -/

namespace Operator

/-- An operator stands at the end of a key: its token does, a word behind a blank. -/
def Ends (op : Operator) (key : List Char) : Prop :=
  ∃ front, key = front ++ op.token.toList ∧
    (op.isWord = true → ∃ rest c, front = rest ++ [c] ∧ isBlank c = true)

/-- The tokens that are a token again with the word `not` in front. -/
def negated : List String := ["like", "ilike", "similar to"]

/-- No token is empty or has a blank at an end. -/
theorem token_trimmed {op : Operator} (h : op ∈ all) :
    op.token.toList ≠ [] ∧ trim op.token.toList = op.token.toList := by
  have hall : ∀ op ∈ all, op.token.toList ≠ [] ∧ trim op.token.toList = op.token.toList := by
    decide +kernel
  exact hall op h

/-- A token with another one at its end, behind a blank, has the word `not` and a space in front of
that one. -/
theorem eq_not_of_token {op op' : Operator} (hop : op ∈ all) (hop' : op' ∈ all)
    {front : List Char} {c : Char} (hc : isBlank c = true)
    (htoken : op'.token.toList = front ++ [c] ++ op.token.toList) :
    front = "not".toList ∧ c = ' ' ∧ op.token ∈ negated ∧ op'.isWord = true := by
  -- only few tokens have a blank in them at all
  have hall : ∀ op' ∈ all.filter (fun op => op.token.toList.any isBlank), ∀ op ∈ all,
      ∀ front ∈ stripSuffix? op.token.toList op'.token.toList,
        front.getLast?.all isBlank = true → front ≠ [] →
          front = "not".toList ++ [' '] ∧ op.token ∈ negated ∧ op'.isWord = true := by
    decide +kernel
  have hmem : op' ∈ all.filter fun op => op.token.toList.any isBlank :=
    List.mem_filter.2 ⟨hop', List.any_eq_true.2 ⟨c, by simp [htoken], hc⟩⟩
  obtain ⟨hnot, hnegated, hword⟩ := hall op' hmem op hop (front ++ [c])
    (stripSuffix?_eq_some_iff.2 htoken) (by rw [List.getLast?_concat]; exact hc) (by simp)
  obtain ⟨hfront, hspace⟩ := List.append_inj' hnot rfl
  exact ⟨hfront, List.singleton_inj.1 hspace, hnegated, hword⟩

end Operator

namespace Key

theorem endsBlank_iff (cs : List Char) :
    endsBlank cs = true ↔ ∃ front c, cs = front ++ [c] ∧ isBlank c = true := by
  rcases List.eq_nil_or_concat cs with rfl | ⟨front, c, rfl⟩
  · simp [endsBlank]
  · rw [List.concat_eq_append, endsBlank, List.getLast?_concat]
    constructor
    · intro h
      exact ⟨front, c, rfl, h⟩
    · rintro ⟨front', c', heq, h⟩
      rwa [List.singleton_inj.1 (List.append_inj' heq rfl).2]

/-- No operator ends a key if every token at its end is a word that does not stand apart. -/
theorem not_ends_of_stripSuffix? {op : Operator} {key : List Char}
    (h : ∀ front ∈ stripSuffix? op.token.toList key, op.isWord = true ∧ endsBlank front = false) :
    ¬ op.Ends key := by
  rintro ⟨front, hkey, hapart⟩
  obtain ⟨hword, hblank⟩ := h front (stripSuffix?_eq_some_iff.2 hkey)
  rw [(endsBlank_iff front).2 (hapart hword)] at hblank
  cases hblank

/-- The search for a token passes over a text if no token starts in it, or only words that do not
stand apart. -/
theorem findOperator?_append {cs rest : List Char} (front : List Char)
    (h : ∀ a b op, cs = a ++ b → b ≠ [] → Operator.lookup? (b ++ rest) = some op →
      op.isWord = true ∧ endsBlank (front ++ a) = false) :
    findOperator? front (cs ++ rest) = findOperator? (front ++ cs) rest := by
  induction cs generalizing front with
  | nil => rw [List.nil_append, List.append_nil]
  | cons c cs ih =>
      have hnext : findOperator? (front ++ [c]) (cs ++ rest) =
          findOperator? (front ++ c :: cs) rest := by
        rw [ih (front ++ [c]), List.append_assoc, List.singleton_append]
        intro a b op hcs hb hop
        rw [List.append_assoc, List.singleton_append]
        exact h (c :: a) b op (by rw [hcs, List.cons_append]) hb hop
      rw [List.cons_append, findOperator?]
      cases hop : Operator.lookup? (c :: (cs ++ rest)) with
      | none => exact hnext
      | some op =>
          obtain ⟨hword, hblank⟩ := h [] (c :: cs) op rfl (List.cons_ne_nil c cs) hop
          rw [List.append_nil] at hblank
          simp only [hword, hblank]
          exact hnext

/-- A key that no operator ends is a field. -/
theorem splitOperator_of_tokenless {key : List Char} (h : ∀ op ∈ Operator.all, ¬ op.Ends key) :
    splitOperator key = (key, none) := by
  have hpass : findOperator? [] (key ++ []) = findOperator? ([] ++ key) [] := by
    refine findOperator?_append [] fun a b op hkey _ hop => ?_
    obtain ⟨hmem, htoken⟩ := Operator.of_lookup? hop
    rw [List.append_nil] at htoken
    rw [← htoken] at hkey
    rw [List.nil_append]
    -- the token stands at the end, so it has to be a word that does not stand apart
    cases hword : op.isWord with
    | false => exact absurd ⟨a, hkey, by simp [hword]⟩ (h op hmem)
    | true =>
        cases hblank : endsBlank a with
        | false => exact ⟨rfl, rfl⟩
        | true => exact absurd ⟨a, hkey, fun _ => (endsBlank_iff a).1 hblank⟩ (h op hmem)
  rw [List.append_nil, List.nil_append] at hpass
  rw [splitOperator, hpass, findOperator?]

/-! ### The operator behind a field -/

/-- The last word of a field is `not` and belongs to the operator, because one space stands between
them and there is an operator of both words. -/
def JoinsNot (field blanks : List Char) (op : Operator) : Prop :=
  op.token ∈ Operator.negated ∧ blanks = [' '] ∧
    ∃ front c, isBlank c = true ∧ field = front ++ c :: "not".toList

/-- An operator that is no word takes no word. -/
theorem not_joinsNot_of_symbol {op : Operator} (hop : op ∈ Operator.all)
    (hsymbol : op.isWord = false) (field blanks : List Char) : ¬ JoinsNot field blanks op := by
  rintro ⟨hnegated, -⟩
  have hwords : ∀ op ∈ Operator.all, op.token ∈ Operator.negated → op.isWord = true := by decide
  rw [hwords op hop hnegated] at hsymbol
  cases hsymbol

/-- **The written operator is found**, unless the last word of the field belongs to it. -/
theorem splitOperator_spaced {field blanks : List Char} {op : Operator} (hop : op ∈ Operator.all)
    (hfield : trimEnd field = field) (hne : blanks ≠ [])
    (hblanks : ∀ c ∈ blanks, isBlank c = true) (hnot : ¬ JoinsNot field blanks op) :
    splitOperator (field ++ blanks ++ op.token.toList) = (field, some op) := by
  obtain ⟨blanks, c, rfl⟩ := (List.eq_nil_or_concat blanks).resolve_left hne
  rw [List.concat_eq_append] at *
  have hc : isBlank c = true := hblanks c (by simp)
  have hsearch : findOperator? [] (field ++ (blanks ++ [c]) ++ op.token.toList) =
      findOperator? ([] ++ (field ++ (blanks ++ [c]))) op.token.toList := by
    refine findOperator?_append [] fun a b op' hsplit hb hop' => ?_
    obtain ⟨hmem, htoken⟩ := Operator.of_lookup? hop'
    obtain ⟨b, d, rfl⟩ := (List.eq_nil_or_concat b).resolve_left hb
    rw [List.concat_eq_append, ← List.append_assoc, ← List.append_assoc] at hsplit
    obtain ⟨hfront, hlast⟩ := List.append_inj' hsplit rfl
    obtain rfl := List.singleton_inj.1 hlast
    rw [List.concat_eq_append] at htoken
    -- a token that starts in front of the blank is the word `not` and the operator
    obtain ⟨rfl, rfl, hnegated, hword⟩ := Operator.eq_not_of_token hop hmem hc htoken
    refine ⟨hword, ?_⟩
    rw [List.nil_append, ← Bool.not_eq_true, endsBlank_iff]
    rintro ⟨front, d, rfl, hd⟩
    have hnil : blanks = [] := by
      rcases List.eq_nil_or_concat blanks with hnil | ⟨blanks, e, rfl⟩
      · exact hnil
      · have hletters : "not".toList = "no".toList ++ ['t'] := by decide
        rw [List.concat_eq_append, ← List.append_assoc, hletters, ← List.append_assoc] at hfront
        have hletter := List.singleton_inj.1 (List.append_inj' hfront rfl).2
        have he : isBlank e = true := hblanks e (by simp)
        rw [hletter] at he
        exact absurd he (by decide)
    rw [hnil, List.append_nil] at hfront
    exact hnot ⟨hnegated, by rw [hnil, List.nil_append], front, d, hd, by rw [hfront]; simp⟩
  obtain ⟨t, ts, htoken⟩ := List.exists_cons_of_ne_nil (Operator.token_trimmed hop).1
  have hlookup := Operator.lookup?_token hop
  have hapart : endsBlank (field ++ (blanks ++ [c])) = true :=
    (endsBlank_iff _).2 ⟨field ++ blanks, c, by rw [List.append_assoc], hc⟩
  rw [List.nil_append, htoken, findOperator?, ← htoken, hlookup] at hsearch
  simp only [hapart, Bool.not_true, Bool.and_false, Bool.false_eq_true, if_false] at hsearch
  rw [splitOperator, hsearch, trimEnd_append_of_blank field hblanks, hfield]

/-! ### Fields without steps -/

/-- A text that names a column and holds no other part of a key. -/
structure IsFieldText (cs : List Char) : Prop where
  nonempty : cs ≠ []
  trimmed : trim cs = cs
  quoteless : '"' ∉ cs
  pathless : ∀ op : PathOperator, occursIn op.spelling cs = false

theorem occursIn_tail {piece cs : List Char} {c : Char} (h : occursIn piece (c :: cs) = false) :
    occursIn piece cs = false := by
  rw [occursIn, Bool.or_eq_false_iff] at h
  exact h.2

/-- A field without path operators has no steps. -/
theorem splitPath_of_pathless {cs : List Char}
    (h : ∀ op : PathOperator, occursIn op.spelling cs = false) : splitPath cs = (cs, []) := by
  fun_induction splitPath cs with
  | case1 => rfl
  | case2 cs _ => exact absurd (h .memberText) (by simp [occursIn, PathOperator.spelling])
  | case3 cs _ => exact absurd (h .pathText) (by simp [occursIn, PathOperator.spelling])
  | case4 cs _ _ => exact absurd (h .member) (by simp [occursIn, PathOperator.spelling])
  | case5 cs _ _ => exact absurd (h .path) (by simp [occursIn, PathOperator.spelling])
  | case6 c cs _ _ _ _ ih => rw [ih fun op => occursIn_tail (h op)]

/-- The reference to a field without steps: its name in double quotes, or the field itself if it has
double quotes. -/
theorem reference?_of_pathless {field : List Char} (hne : field ≠ [])
    (h : ∀ op : PathOperator, occursIn op.spelling field = false) :
    reference? field = some (field, if '"' ∈ field then field else enclosed '"' field) := by
  rw [reference?, if_neg hne, splitPath_of_pathless h]
  split <;> rfl

/-! ### Reading written keys -/

/-- What a key says of a field, a reference to it and an operator. -/
def comparing (field reference : String) (op : Operator) : Key where
  field := field
  reference := if op.lowersField then "LOWER(" ++ reference ++ ")" else reference
  comparison := op.comparison
  adjustment := op.adjustment
  lowersField := op.lowersField

theorem ofParts_some (column reference : List Char) (op : Operator) :
    ofParts column reference (some op) =
      comparing (String.ofList column) (String.ofList reference) op := by
  rw [ofParts, comparing]
  split
  · have htext : String.ofList (lowerReference reference) =
        "LOWER(" ++ String.ofList reference ++ ")" := by
      show String.ofList ("LOWER(".toList ++ reference ++ [')']) = _
      rw [String.ofList_append, String.ofList_append, String.ofList_toList]
    rw [htext]
  · rfl

/-- A key that is written from a field and an operator is read as the operator and the reference to
the field, if there is one. -/
theorem ofChars?_spaced {raw before field blanks behind : List Char} {op : Operator}
    (hraw : raw = before ++ (field ++ blanks ++ op.token.toList) ++ behind)
    (hbefore : ∀ c ∈ before, isBlank c = true) (hbehind : ∀ c ∈ behind, isBlank c = true)
    (hop : op ∈ Operator.all) (hfield : field ≠ []) (htrim : trim field = field) (hne : blanks ≠ [])
    (hblanks : ∀ c ∈ blanks, isBlank c = true) (hnot : ¬ JoinsNot field blanks op) :
    ofChars? raw =
      (reference? field).map fun (column, reference) => ofParts column reference (some op) := by
  obtain ⟨htoken_ne, htoken⟩ := Operator.token_trimmed hop
  rw [hraw, ofChars?, trim_surrounded hbefore hbehind, trim_between htrim htoken hfield htoken_ne,
    splitOperator_spaced hop (trimEnd_of_trim htrim) hne hblanks hnot]

/-- **A key that is written from a field and an operator** says what its field and its operator
say. -/
theorem parse_spaced {raw : String} {before field blanks behind column reference : List Char}
    {op : Operator} (hraw : raw.toList = before ++ (field ++ blanks ++ op.token.toList) ++ behind)
    (hbefore : ∀ c ∈ before, isBlank c = true) (hbehind : ∀ c ∈ behind, isBlank c = true)
    (hop : op ∈ Operator.all) (htrim : trim field = field) (hne : blanks ≠ [])
    (hblanks : ∀ c ∈ blanks, isBlank c = true) (hnot : ¬ JoinsNot field blanks op)
    (href : reference? field = some (column, reference)) :
    parse raw = .ok (comparing (String.ofList column) (String.ofList reference) op) := by
  have hfield : field ≠ [] := by
    rintro rfl
    cases href
  have hchars : ofChars? raw.toList = some (ofParts column reference (some op)) := by
    rw [ofChars?_spaced hraw hbefore hbehind hop hfield htrim hne hblanks hnot, href,
      Option.map_some]
  rw [parse, hchars, ofParts_some]

/-- A key that no operator ends says what its field says, and asks for equality. -/
theorem parse_tokenless {raw : String} {column reference : List Char}
    (hends : ∀ op ∈ Operator.all, ¬ op.Ends (trim raw.toList))
    (href : reference? (trim raw.toList) = some (column, reference)) :
    parse raw = .ok ⟨String.ofList column, String.ofList reference, .equal, none, false⟩ := by
  have hchars : ofChars? raw.toList = some (ofParts column reference none) := by
    rw [ofChars?, splitOperator_of_tokenless hends]
    simp only [href, Option.map_some]
  rw [parse, hchars, ofParts]

/-- What is not in a text is not in it when it is trimmed. -/
theorem occursIn_trim {piece cs : List Char} (h : occursIn piece cs = false) :
    occursIn piece (trim cs) = false := by
  obtain ⟨before, behind, -, -, hcs⟩ := exists_blanks cs
  rw [← Bool.not_eq_true, occursIn_iff] at h ⊢
  rintro ⟨front, back, htrim⟩
  refine h ⟨before ++ front, back ++ behind, ?_⟩
  rw [hcs, htrim]
  simp only [List.append_assoc]

/-- The reference to a field without steps. -/
def plainReference (field : String) : String :=
  if '"' ∈ field.toList then field else "\"" ++ field ++ "\""

theorem ofList_enclosed (cs : List Char) :
    String.ofList (enclosed '"' cs) = "\"" ++ String.ofList cs ++ "\"" := by
  apply String.toList_injective
  simp [enclosed]

/-- **The field and the operator come back.**  A key that is written from a field, blanks and the
token of an operator, with any blanks around it, is read as this field, compared by this operator,
unless the operator takes the word `not` from the field.  And a key without steps that no operator
ends is read as a field as a whole, of which equality is asked. -/
theorem parse_written :
    (∀ op ∈ Operator.all, ∀ before field blanks behind : String, IsFieldText field.toList →
      (∀ c ∈ before.toList, isBlank c = true) → (∀ c ∈ behind.toList, isBlank c = true) →
      blanks ≠ "" → (∀ c ∈ blanks.toList, isBlank c = true) →
      ¬ JoinsNot field.toList blanks.toList op →
      parse (before ++ field ++ blanks ++ op.token ++ behind) =
        .ok (comparing field ("\"" ++ field ++ "\"") op)) ∧
    ∀ raw : String, trimmed raw ≠ "" →
      (∀ step : PathOperator, occursIn step.spelling raw.toList = false) →
      (∀ op ∈ Operator.all, ¬ op.Ends (trimmed raw).toList) →
      parse raw = .ok ⟨trimmed raw, plainReference (trimmed raw), .equal, none, false⟩ := by
  constructor
  · intro op hop before field blanks behind hfield hbefore hbehind hne hblanks hnot
    have href := reference?_of_pathless hfield.nonempty hfield.pathless
    rw [if_neg hfield.quoteless] at href
    have hraw : (before ++ field ++ blanks ++ op.token ++ behind).toList =
        before.toList ++ (field.toList ++ blanks.toList ++ op.token.toList) ++ behind.toList := by
      simp only [String.toList_append, List.append_assoc]
    have hparse := parse_spaced hraw hbefore hbehind hop hfield.trimmed
      (fun hnil => hne (String.toList_eq_nil_iff.1 hnil)) hblanks hnot href
    rwa [ofList_enclosed, String.ofList_toList] at hparse
  · intro raw hne hpathless hends
    rw [trimmed, String.toList_ofList] at hends
    have hnil : trim raw.toList ≠ [] := by
      intro hnil
      rw [trimmed, hnil] at hne
      exact hne rfl
    have hparse := parse_tokenless hends
      (reference?_of_pathless hnil fun step => occursIn_trim (hpathless step))
    rw [hparse, plainReference, trimmed, String.toList_ofList]
    split
    · rfl
    · rw [ofList_enclosed]

/-- Behind a tab the word `not` stays with the field, and a word that does not stand apart is no
operator. -/
theorem parse_written_doNot :
    parse " do not\tlike " =
        .ok (comparing "do not" "\"do not\"" (Operator.plain "like" .like)) ∧
      parse " alike " = .ok ⟨"alike", "\"alike\"", .equal, none, false⟩ := by
  have hfield : IsFieldText "do not".toList := by
    refine ⟨by decide, by decide, by decide, fun op => ?_⟩
    cases op <;> decide
  have hnot : ¬ JoinsNot "do not".toList "\t".toList (Operator.plain "like" .like) := by
    rintro ⟨-, hblanks, -⟩
    exact absurd hblanks (by decide)
  have hends : ∀ op ∈ Operator.all, ¬ op.Ends (trimmed " alike ").toList := by
    intro op hop
    have hall : ∀ op ∈ Operator.all,
        ∀ front ∈ stripSuffix? op.token.toList (trimmed " alike ").toList,
          op.isWord = true ∧ endsBlank front = false := by decide
    exact not_ends_of_stripSuffix? (hall op hop)
  have hspace : ∀ c ∈ " ".toList, isBlank c = true := List.all_eq_true.1 (by decide)
  have htab : ∀ c ∈ "\t".toList, isBlank c = true := List.all_eq_true.1 (by decide)
  refine ⟨parse_written.1 (Operator.plain "like" .like) (by decide) " " "do not" "\t" " " hfield
    hspace hspace (by decide) htab hnot, ?_⟩
  refine parse_written.2 " alike " (by decide) (fun step => ?_) hends
  cases step <;> decide

end Key

end SqlFilter
