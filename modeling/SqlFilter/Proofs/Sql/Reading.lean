/-
**Reading composed texts.**

How the reader of expressions acts on a text that is put together from others.  Three kinds of
texts are told apart: a *phrase* has no connective outside of its parentheses and may stand anywhere
within an atom; a *factor* can stand between two connectives; and a *whole* expression can stand
alone or in parentheses.  Phrases side by side make an atom, factors with connectives between them
make a whole, and parentheses turn a whole into a factor, so no connective gets out of them.

Main definitions:

* `SqlFilter.Sql.Groups`: tokens whose parentheses are resolved in any context;
* `SqlFilter.Sql.Reads`: a text with its tokens and its pieces;
* `SqlFilter.Sql.Phrase`, `SqlFilter.Sql.Factor`, `SqlFilter.Sql.Whole`: the three kinds of texts.

Main results:

* `SqlFilter.Sql.factor_atom`: two phrases make an atom;
* `SqlFilter.Sql.whole_conjoin`, `SqlFilter.Sql.whole_disjoin`: factors with connectives between
  them;
* `SqlFilter.Sql.Whole.parens`: **parentheses close an expression**.
-/

import Mathlib.Data.List.Forall2
import SqlFilter.Proofs.Sql.Formula

set_option relaxedAutoImplicit false
set_option autoImplicit false

namespace SqlFilter.Sql

/-! ### Parentheses -/

/-- The parentheses of the tokens are resolved to the pieces, wherever the tokens stand. -/
def Groups (ts : List Token) (ps : List Piece) : Prop :=
  ∀ opened current, ts.foldlM Grouping.step ⟨opened, current⟩ = some ⟨opened, current ++ ps⟩

theorem Groups.nil : Groups [] [] := by
  intro opened current
  rw [List.append_nil]
  rfl

theorem Groups.append {ts us : List Token} {ps qs : List Piece} (hts : Groups ts ps)
    (hus : Groups us qs) : Groups (ts ++ us) (ps ++ qs) := by
  intro opened current
  rw [List.foldlM_append, hts, ← List.append_assoc]
  exact hus opened (current ++ ps)

theorem Groups.token {t : Token} (hopen : t ≠ .mark '(') (hclose : t ≠ .mark ')') :
    Groups [t] [.token t] := by
  intro opened current
  simp [Grouping.step, hopen, hclose]

/-- Parentheses are one piece. -/
theorem Groups.parens {ts : List Token} {ps : List Piece} (h : Groups ts ps) :
    Groups (.mark '(' :: ts ++ [.mark ')']) [.parens (ps.flatMap Piece.tokens) (join ps)] := by
  intro opened current
  have hinside := h (current :: opened) []
  rw [List.nil_append] at hinside
  simp [Grouping.step, hinside]

/-! ### Texts with their pieces -/

/-- A text has these tokens, which make these pieces. -/
structure Reads (cs : List Char) (ts : List Token) (ps : List Piece) : Prop where
  tokens : tokens cs = some ts
  groups : Groups ts ps
  pieces : ps.flatMap Piece.tokens = ts

namespace Reads

variable {xs ys : List Char} {ts us : List Token} {ps qs : List Piece}

theorem append (hxs : Reads xs ts ps) (hys : Reads ys us qs) (h : Breaks ys) :
    Reads (xs ++ ys) (ts ++ us) (ps ++ qs) where
  tokens := tokens_append hxs.tokens hys.tokens h
  groups := hxs.groups.append hys.groups
  pieces := by rw [List.flatMap_append, hxs.pieces, hys.pieces]

theorem blank (h : Reads xs ts ps) : Reads (' ' :: xs) ts ps where
  tokens := by rw [tokens_blank, h.tokens]
  groups := h.groups
  pieces := h.pieces

/-- A token that is no parenthesis. -/
theorem token {t : Token} (htokens : Sql.tokens xs = some [t]) (hopen : t ≠ .mark '(')
    (hclose : t ≠ .mark ')') : Reads xs [t] [.token t] where
  tokens := htokens
  groups := Groups.token hopen hclose
  pieces := rfl

/-- A mark that is no parenthesis. -/
theorem mark {c : Char} (hc : start c = ([.mark c], .between)) (hopen : c ≠ '(') (hclose : c ≠ ')')
    (h : Reads xs ts ps) : Reads (c :: xs) (.mark c :: ts) (.token (.mark c) :: ps) where
  tokens := by
    rw [tokens_mark hc, h.tokens]
    rfl
  groups := (Groups.token (by simpa using hopen) (by simpa using hclose)).append h.groups
  pieces := by
    rw [List.flatMap_cons, h.pieces]
    rfl

theorem parens (h : Reads xs ts ps) :
    Reads ('(' :: xs ++ [')']) (.mark '(' :: ts ++ [.mark ')']) [.parens ts (join ps)] where
  tokens := by
    have hclose : Sql.tokens [')'] = some [.mark ')'] := by decide
    have hinside := tokens_append h.tokens hclose (breaks_cons (by decide) (by decide))
    rw [List.cons_append, tokens_mark (by decide), hinside]
    rfl
  groups := by
    have hgroups := h.groups.parens
    rwa [h.pieces] at hgroups
  pieces := by simp [Piece.tokens]

theorem ne_nil (h : Reads xs ts ps) (hps : ps ≠ []) : ts ≠ [] := by
  rw [← h.pieces]
  intro hnil
  rw [List.flatMap_eq_nil_iff] at hnil
  obtain ⟨p, rest, rfl⟩ := List.exists_cons_of_ne_nil hps
  have hp := hnil p (by simp)
  cases p <;> simp [Piece.tokens] at hp

end Reads

/-! ### Phrases -/

/-- Whether a piece joins two expressions. -/
def Piece.isConnective (p : Piece) : Bool := p.isKeyword "AND" || p.isKeyword "OR"

/-- A text with something in it and no connective outside of its parentheses. -/
def Phrase (cs : List Char) : Prop :=
  ∃ ts ps, Reads cs ts ps ∧ ps ≠ [] ∧ ∀ p ∈ ps, p.isConnective = false

namespace Phrase

variable {xs ys : List Char}

theorem append (hxs : Phrase xs) (hys : Phrase ys) (h : Breaks ys) : Phrase (xs ++ ys) := by
  obtain ⟨ts, ps, hts, hps, hfree⟩ := hxs
  obtain ⟨us, qs, hus, -, hfree'⟩ := hys
  refine ⟨_, _, hts.append hus h, List.append_ne_nil_of_left_ne_nil hps qs, fun p hp => ?_⟩
  exact (List.mem_append.1 hp).elim (hfree p) (hfree' p)

theorem blank (h : Phrase xs) : Phrase (' ' :: xs) := by
  obtain ⟨ts, ps, hts, hps⟩ := h
  exact ⟨ts, ps, hts.blank, hps⟩

/-- Two phrases with a blank between them. -/
theorem spaced (hxs : Phrase xs) (hys : Phrase ys) : Phrase (xs ++ ' ' :: ys) :=
  hxs.append hys.blank (breaks_cons (by decide) (by decide))

theorem token {t : Token} (htokens : tokens xs = some [t]) (hopen : t ≠ .mark '(')
    (hclose : t ≠ .mark ')') (hand : t.isKeyword "AND" = false) (hor : t.isKeyword "OR" = false) :
    Phrase xs := by
  refine ⟨_, _, Reads.token htokens hopen hclose, List.cons_ne_nil _ _, fun p hp => ?_⟩
  rw [List.mem_singleton.1 hp, Piece.isConnective, Piece.isKeyword, Piece.isKeyword, hand, hor]
  rfl

/-- A mark that is no parenthesis in front of a phrase. -/
theorem mark {c : Char} (hc : start c = ([.mark c], .between)) (hopen : c ≠ '(') (hclose : c ≠ ')')
    (h : Phrase xs) : Phrase (c :: xs) := by
  obtain ⟨ts, ps, hts, -, hfree⟩ := h
  refine ⟨_, _, hts.mark hc hopen hclose, List.cons_ne_nil _ _, fun p hp => ?_⟩
  rcases List.mem_cons.1 hp with rfl | hp
  · rfl
  · exact hfree p hp

/-- What stands in parentheses may have connectives. -/
theorem parens (h : Phrase xs) : Phrase ('(' :: xs ++ [')']) := by
  obtain ⟨ts, ps, hts, -⟩ := h
  refine ⟨_, _, hts.parens, List.cons_ne_nil _ _, fun p hp => ?_⟩
  rw [List.mem_singleton.1 hp]
  rfl

/-- Whatever stands in quotes is a phrase. -/
theorem quoted (quote : Quote) (cs : List Char) :
    Phrase (SqlFilter.Text.enclosed quote.char (SqlFilter.Text.doubled quote.char cs)) :=
  token (tokens_quoted quote cs) (by simp) (by simp) rfl rfl

end Phrase

/-- Tokens without parentheses and connectives among them. -/
def areSimple (ts : List Token) : Bool :=
  ts ≠ [] && ts.all fun t =>
    t ≠ .mark '(' && t ≠ .mark ')' && !t.isKeyword "AND" && !t.isKeyword "OR"

/-- A fixed text, of which the tokens can be looked at. -/
theorem phrase_of_tokens {cs : List Char} (h : (tokens cs).any areSimple = true) : Phrase cs := by
  obtain ⟨ts, hts, hsimple⟩ := (Option.any_eq_true _ _).1 h
  simp only [areSimple, Bool.and_eq_true, decide_eq_true_eq, List.all_eq_true,
    Bool.not_eq_true'] at hsimple
  obtain ⟨hne, hall⟩ := hsimple
  have hgroups : ∀ us : List Token, (∀ t ∈ us, t ∈ ts) → Groups us (us.map .token) := by
    intro us hus
    induction us with
    | nil => exact Groups.nil
    | cons t us ih =>
        obtain ⟨⟨⟨hopen, hclose⟩, -⟩, -⟩ := hall t (hus t (by simp))
        exact (Groups.token hopen hclose).append (ih fun u hu => hus u (by simp [hu]))
  refine ⟨ts, ts.map .token, ⟨hts, hgroups ts fun _ ht => ht, ?_⟩, by simpa using hne,
    fun p hp => ?_⟩
  · rw [List.flatMap_map]
    exact List.flatMap_singleton' ts
  · obtain ⟨t, ht, rfl⟩ := List.mem_map.1 hp
    obtain ⟨⟨-, hand⟩, hor⟩ := hall t ht
    rw [Piece.isConnective, Piece.isKeyword, Piece.isKeyword, hand, hor]
    rfl

/-! ### Factors -/

/-- A text that can stand between two connectives, and what it is read as. -/
def Factor (cs : List Char) (e : Formula) : Prop :=
  ∃ ts ps, Reads cs ts ps ∧ (∀ p ∈ ps, p.isConnective = false) ∧ operand ps = some e

/-- An expression that can stand alone or in parentheses, and what it is read as. -/
def Whole (cs : List Char) (e : Formula) : Prop :=
  ∃ ts ps, Reads cs ts ps ∧ join ps = some e

/-- Nothing is no expression. -/
theorem ne_nil_of_join {ps : List Piece} {e : Formula} (h : join ps = some e) : ps ≠ [] := by
  rintro rfl
  cases h

/-- Two pieces and more are neither parenthesized nor a constant. -/
theorem operand_append {ps qs : List Piece} (hps : ps ≠ []) (hqs : qs ≠ []) :
    operand (ps ++ qs) = some (.atom ((ps ++ qs).flatMap Piece.tokens)) := by
  obtain ⟨p, ps, rfl⟩ := List.exists_cons_of_ne_nil hps
  have hne : ps ++ qs ≠ [] := List.append_ne_nil_of_right_ne_nil ps hqs
  obtain ⟨q, rest, hrest⟩ := List.exists_cons_of_ne_nil hne
  rw [List.cons_append, hrest, operand]
  · intro h
    cases h
  · intro _ _ h
    cases h
  · intro _ h
    cases h

/-- **Two phrases make an atom.** -/
theorem factor_atom {xs ys : List Char} (hxs : Phrase xs) (hys : Phrase ys) :
    ∃ ts, tokens (xs ++ ' ' :: ys) = some ts ∧ Factor (xs ++ ' ' :: ys) (.atom ts) := by
  obtain ⟨ts, ps, hts, hps, hfree⟩ := hxs
  obtain ⟨us, qs, hus, hqs, hfree'⟩ := hys
  have hreads := hts.append hus.blank (breaks_cons (by decide) (by decide))
  refine ⟨_, hreads.tokens, _, _, hreads, fun p hp => ?_, ?_⟩
  · exact (List.mem_append.1 hp).elim (hfree p) (hfree' p)
  · rw [operand_append hps hqs, hreads.pieces]

/-- **Parentheses close an expression**: what is in them is read alone. -/
theorem Whole.parens {cs : List Char} {e : Formula} (h : Whole cs e) :
    Factor ('(' :: cs ++ [')']) e := by
  obtain ⟨ts, ps, hts, hjoin⟩ := h
  refine ⟨_, _, hts.parens, fun p hp => ?_, hjoin⟩
  rw [List.mem_singleton.1 hp]
  rfl

/-- A whole text is read. -/
theorem Whole.ofSql {cs : List Char} {e : Formula} (h : Whole cs e) :
    Formula.ofSql cs = some e := by
  obtain ⟨ts, ps, hts, hjoin⟩ := h
  obtain ⟨t, rest, rfl⟩ := List.exists_cons_of_ne_nil (hts.ne_nil (ne_nil_of_join hjoin))
  have hgroups := hts.groups [] []
  simp only [Formula.ofSql, hts.tokens, group?, hgroups, List.nil_append]
  exact hjoin

/-! ### Connectives -/

theorem splitOnP_intercalate {p : Piece → Bool} {sep : Piece} (hsep : p sep = true)
    {pss : List (List Piece)} (hne : pss ≠ []) (h : ∀ ps ∈ pss, ∀ q ∈ ps, p q = false) :
    ([sep].intercalate pss).splitOnP p = pss := by
  induction pss with
  | nil => exact absurd rfl hne
  | cons ps pss ih =>
      have hps : ∀ q ∈ ps, p q = false := h ps (by simp)
      cases pss with
      | nil => rw [List.intercalate_singleton, List.splitOnP_eq_singleton hps]
      | cons qs pss =>
          rw [List.intercalate_cons_cons, List.append_assoc, List.singleton_append,
            List.splitOnP_append_cons_of_forall_mem hps sep hsep,
            ih (List.cons_ne_nil qs pss) fun rs hrs => h rs (by simp [hrs])]

/-- Factors with a keyword between them: the pieces of each, with the keyword between them. -/
theorem reads_intercalate (keyword : String)
    (hkeyword : tokens keyword.toList = some [.word keyword.toList])
    {xss : List (List Char)} {es : List Formula} (h : List.Forall₂ Factor xss es)
    (hne : xss ≠ []) :
    ∃ ts pss, Reads ((' ' :: keyword.toList ++ [' ']).intercalate xss) ts
        ([.token (.word keyword.toList)].intercalate pss) ∧ pss ≠ [] ∧
      (∀ ps ∈ pss, ∀ p ∈ ps, p.isConnective = false) ∧
      List.Forall₂ (fun ps e => operand ps = some e) pss es := by
  induction h with
  | nil => exact absurd rfl hne
  | @cons xs e xss es hfactor hrest ih =>
      obtain ⟨ts, ps, hts, hfree, hoperand⟩ := hfactor
      cases xss with
      | nil =>
          cases hrest
          refine ⟨ts, [ps], ?_, List.cons_ne_nil _ _, ?_, .cons hoperand .nil⟩
          · rwa [List.intercalate_singleton, List.intercalate_singleton]
          · intro qs hqs
            rw [List.mem_singleton.1 hqs]
            exact hfree
      | cons ys xss =>
          obtain ⟨us, pss, hus, hpss, hfrees, hoperands⟩ := ih (List.cons_ne_nil ys xss)
          obtain ⟨qs, pss, rfl⟩ := List.exists_cons_of_ne_nil hpss
          have hword : Reads keyword.toList [.word keyword.toList]
              [.token (.word keyword.toList)] := Reads.token hkeyword (by simp) (by simp)
          have hspace : ∀ cs, Breaks (' ' :: cs) := fun cs =>
            breaks_cons (by decide) (by decide)
          have hreads := (hts.append hword.blank (hspace _)).append hus.blank (hspace _)
          refine ⟨ts ++ [.word keyword.toList] ++ us, ps :: qs :: pss, ?_, List.cons_ne_nil _ _, ?_,
            .cons hoperand hoperands⟩
          · rw [List.intercalate_cons_cons, List.intercalate_cons_cons]
            simpa using hreads
          · intro rs hrs
            rcases List.mem_cons.1 hrs with rfl | hrs
            · exact hfree
            · exact hfrees rs hrs

theorem mapM_of_forall₂ {α β : Type} {f : α → Option β} {xs : List α} {ys : List β}
    (h : List.Forall₂ (fun x y => f x = some y) xs ys) : xs.mapM f = some ys := by
  induction h with
  | nil => rfl
  | cons hx _ ih => simp [List.mapM_cons, hx, ih]

theorem conjunction_of_operand {ps : List Piece} {e : Formula}
    (hfree : ∀ p ∈ ps, p.isConnective = false) (h : operand ps = some e) :
    conjunction ps = some e := by
  have hand : ∀ p ∈ ps, p.isKeyword "AND" = false := fun p hp =>
    (Bool.or_eq_false_iff.1 (hfree p hp)).1
  rw [conjunction, List.splitOnP_eq_singleton hand, mapM_of_forall₂ (.cons h .nil)]
  rfl

theorem isKeyword_of_mem_intercalate {keyword : String} {sep : Piece}
    (hsep : sep.isKeyword keyword = false) {pss : List (List Piece)}
    (h : ∀ ps ∈ pss, ∀ p ∈ ps, p.isKeyword keyword = false) :
    ∀ p ∈ [sep].intercalate pss, p.isKeyword keyword = false := by
  induction pss with
  | nil => simp
  | cons ps pss ih =>
      have hps : ∀ p ∈ ps, p.isKeyword keyword = false := h ps (by simp)
      have hrest := ih fun qs hqs => h qs (by simp [hqs])
      cases pss with
      | nil =>
          rw [List.intercalate_singleton]
          exact hps
      | cons qs pss =>
          rw [List.intercalate_cons_cons]
          intro p hp
          rcases List.mem_append.1 hp with hp | hp
          · rcases List.mem_append.1 hp with hp | hp
            · exact hps p hp
            · rwa [List.mem_singleton.1 hp]
          · exact hrest p hp

/-- **Factors with `AND` between them** are all of what they are. -/
theorem whole_conjoin {xss : List (List Char)} {es : List Formula} (h : List.Forall₂ Factor xss es)
    (hne : xss ≠ []) : Whole (" AND ".toList.intercalate xss) (.conjoin es) := by
  obtain ⟨ts, pss, hreads, hpss, hfree, hoperands⟩ :=
    reads_intercalate "AND" (by decide) h hne
  have hand : ∀ ps ∈ pss, ∀ p ∈ ps, p.isKeyword "AND" = false := fun ps hps p hp =>
    (Bool.or_eq_false_iff.1 (hfree ps hps p hp)).1
  have hor : ∀ ps ∈ pss, ∀ p ∈ ps, p.isKeyword "OR" = false := fun ps hps p hp =>
    (Bool.or_eq_false_iff.1 (hfree ps hps p hp)).2
  -- without an `OR` at the top the pieces are one conjunction
  have hconjunction : conjunction ([.token (.word "AND".toList)].intercalate pss) =
      some (.conjoin es) := by
    rw [conjunction, splitOnP_intercalate (by decide) hpss hand, mapM_of_forall₂ hoperands]
    rfl
  refine ⟨_, _, hreads, ?_⟩
  rw [join, List.splitOnP_eq_singleton (isKeyword_of_mem_intercalate (by decide) hor),
    mapM_of_forall₂ (.cons hconjunction .nil)]
  rfl

/-- **Factors with `OR` between them** are one of what they are. -/
theorem whole_disjoin {xss : List (List Char)} {es : List Formula} (h : List.Forall₂ Factor xss es)
    (hne : xss ≠ []) : Whole (" OR ".toList.intercalate xss) (.disjoin es) := by
  obtain ⟨ts, pss, hreads, hpss, hfree, hoperands⟩ :=
    reads_intercalate "OR" (by decide) h hne
  have hor : ∀ ps ∈ pss, ∀ p ∈ ps, p.isKeyword "OR" = false := fun ps hps p hp =>
    (Bool.or_eq_false_iff.1 (hfree ps hps p hp)).2
  -- no factor has an `AND` at its top, so each is a conjunction of itself alone
  have hconjunctions : List.Forall₂ (fun ps e => conjunction ps = some e) pss es :=
    ((List.forall₂_and_left _ _).2 ⟨hfree, hoperands⟩).imp fun _ _ h =>
      conjunction_of_operand h.1 h.2
  refine ⟨_, _, hreads, ?_⟩
  rw [join, splitOnP_intercalate (by decide) hpss hor, mapM_of_forall₂ hconjunctions]
  rfl

end SqlFilter.Sql
