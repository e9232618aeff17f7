/-
**Values as points in time.**

A list is taken apart down to its leaves, and each leaf becomes a point in time on its own or fails
the whole list: what comes out has the lists of what went in, null where null was, and points in
time elsewhere.  Texts and numbers are read; a point in time is left alone, so that nothing changes
when the outcome is taken as points in time again.

Main definitions:

* `SqlFilter.Value.number?`: the number that a value denotes;
* `SqlFilter.Value.leaves`: the leaves of a value;
* `SqlFilter.Value.Tells`: the moment that a leaf stands for;
* `SqlFilter.Value.Dated`: a value, and the same with its leaves as points in time;
* `SqlFilter.Value.IsUndatable`: a leaf that stands for no point in time.

Main results:

* `SqlFilter.Value.toInstant_of_number?`: numbers are taken without their fraction;
* `SqlFilter.Value.toInstant_outcome`: **a value is dated, or one of its leaves is undatable**;
* `SqlFilter.Value.Dated.toInstant_eq`: what is dated already stays as it is;
* `SqlFilter.Value.Dated.not_isUndatable`: no leaf of a value that is dated is undatable.
-/

import SqlFilter.Proofs.Calendar.MillisRange
import SqlFilter.Proofs.Number.Denotation
import SqlFilter.Proofs.Value.WrittenInstant

set_option relaxedAutoImplicit false
set_option autoImplicit false

namespace SqlFilter.Value

open SqlFilter.Calendar (Moment nanosPerSecond)
open SqlFilter.Calendar.Moment (leastMillis greatestMillis)
open SqlFilter.Number (Binary32 Binary64 truncated truncated_intCast twoPow)

/-! ### Numbers -/

/-- The number that a value denotes; infinities and not-a-numbers denote none. -/
def number? : Value → Option Rat
  | .smallInt n => some n.toInt
  | .int n => some n.toInt
  | .bigInt n => some n.toInt
  | .float x => x.toRat?
  | .double x => x.toRat?
  | _ => none

theorem clampInt64_of_mem {n : Int} (hleast : -9223372036854775808 ≤ n)
    (hgreatest : n ≤ 9223372036854775807) : clampInt64 n = n := by
  have hpower : (twoPow 63 : Int) = 9223372036854775808 := rfl
  rw [clampInt64, hpower]
  omega

/-- The calendar ends well within 64 bits of milliseconds. -/
theorem ofMillis?_clampInt64 (n : Int) :
    Moment.ofMillis? (clampInt64 n) = Moment.ofMillis? n := by
  have hpower : (twoPow 63 : Int) = 9223372036854775808 := rfl
  have hleast : leastMillis = -8334601228800000 := rfl
  have hgreatest : greatestMillis = 8210266876799999 := rfl
  by_cases hmem : leastMillis ≤ n ∧ n ≤ greatestMillis
  · rw [clampInt64_of_mem (by omega) (by omega)]
  · have hclamp : ¬ (leastMillis ≤ clampInt64 n ∧ clampInt64 n ≤ greatestMillis) := by
      rw [clampInt64, hpower]
      omega
    rw [← Moment.isSome_ofMillis?_iff, Bool.not_eq_true, Option.isSome_eq_false_iff,
      Option.isNone_iff_eq_none] at hmem hclamp
    rw [hmem, hclamp]

/-- **Numbers are taken without their fraction**, and held within 64 bits. -/
theorem toInstant_of_number? {v : Value} {q : Rat} (h : v.number? = some q) :
    v.toInstant = ofMillis (clampInt64 (truncated q)) := by
  have hfloat : ∀ (v : Value) (x : Binary64), x.toRat? = some q →
      instantOfFloat v x = ofMillis (clampInt64 (truncated q)) := by
    intro v x hx
    rw [instantOfFloat, x.truncate?_eq, hx, Option.map_some]
  cases v with
  | smallInt n | int n | bigInt n =>
      cases h
      have hleast := n.le_toInt
      have hgreatest := n.toInt_lt
      rw [toInstant, truncated_intCast, clampInt64_of_mem (by omega) (by omega)]
  | float x =>
      rw [number?, ← x.toRat?_widen] at h
      exact hfloat _ _ h
  | double x => exact hfloat _ _ h
  | _ => cases h

/-! ### Leaves -/

mutual

/-- The leaves of a value: those of its elements if it is a list, and otherwise the value itself. -/
def leaves : Value → List Value
  | .array values => leavesOfAll values
  | v => [v]

/-- The leaves of all elements of a list. -/
def leavesOfAll : List Value → List Value
  | [] => []
  | v :: vs => leaves v ++ leavesOfAll vs

end

/-- The moment that a leaf stands for: a text spells it, and a number without its fraction counts
the milliseconds from the start of 1970 to it. -/
inductive Tells : Value → Moment → Prop
  | text {s : String} {m : Moment} (h : Moment.ofInstantChars? s.toList = some m) :
    Tells (.text s) m
  | number {v : Value} {q : Rat} {m : Moment} (hnumber : v.number? = some q)
      (hnanos : m.nanosFromEpoch = 1000000 * truncated q)
      (hordinary : m.time.nanosecond < nanosPerSecond) : Tells v m

/-- A value, and the same with its leaves as points in time: null stays null, a point in time stays
as it is, any other leaf becomes the moment it stands for, and a list is taken element by element.
-/
inductive Dated : Value → Value → Prop
  | null : Dated .null .null
  | kept {v : Value} (h : v.isInstant = true) : Dated v v
  | read {v : Value} {m : Moment} (h : Tells v m) : Dated v (.instant m)
  | array {vs ws : List Value} (h : List.Forall₂ Dated vs ws) : Dated (.array vs) (.array ws)

/-- A leaf that stands for no point in time: it is neither null nor a point in time, nor a text that
spells one, nor a number that is in the range of the calendar without its fraction. -/
structure IsUndatable (leaf : Value) : Prop where
  notNull : leaf ≠ .null
  notInstant : leaf.isInstant = false
  unreadable : ∀ s, leaf = .text s → Moment.ofInstantChars? s.toList = none
  outOfRange : ∀ q, leaf.number? = some q →
    ¬ (leastMillis ≤ truncated q ∧ truncated q ≤ greatestMillis)

/-! ### Outcomes -/

/-- What becomes of a value: it is dated, or one of its leaves is undatable. -/
def Outcome (v : Value) : Prop :=
  (∃ w, v.toInstant = .ok w ∧ Dated v w) ∨
    ∃ detail, v.toInstant = .error (.invalidValue detail) ∧ ∃ leaf ∈ v.leaves, IsUndatable leaf

variable {v w : Value}

theorem leaves_of_shape (hleaf : v.shape ≠ .array) : v.leaves = [v] := by
  cases v with
  | array values => exact absurd rfl hleaf
  | _ => rfl

theorem mem_leaves_iff (hleaf : v.shape ≠ .array) {leaf : Value} : leaf ∈ v.leaves ↔ leaf = v := by
  rw [leaves_of_shape hleaf, List.mem_singleton]

theorem shape_of_number? {q : Rat} (h : v.number? = some q) : v.shape = .scalar := by
  cases v with
  | null | array values => cases h
  | _ => rfl

theorem toInstant_of_isInstant (h : v.isInstant = true) : v.toInstant = .ok v := by
  cases v with
  | date m | timestamp m | instant m => rfl
  | _ => cases h

/-- A leaf that fails stands for no point in time. -/
theorem isUndatable_of_error {e : Error} (h : v.toInstant = .error e) : IsUndatable v where
  notNull := by
    rintro rfl
    cases h
  notInstant := by
    rw [← Bool.not_eq_true]
    intro hinstant
    cases (toInstant_of_isInstant hinstant).symm.trans h
  unreadable := by
    rintro s rfl
    rw [toInstant_text] at h
    unfold instantOfText at h
    cases hread : Moment.ofInstantChars? s.toList with
    | some m =>
        rw [hread] at h
        cases h
    | none => rfl
  outOfRange := by
    intro q hq hmem
    obtain ⟨m, hm⟩ := Option.isSome_iff_exists.1 (Moment.isSome_ofMillis?_iff.2 hmem)
    rw [toInstant_of_number? hq] at h
    unfold ofMillis at h
    rw [ofMillis?_clampInt64, hm] at h
    cases h

theorem outcome_of_error {detail : String} (hleaf : v.shape ≠ .array)
    (h : v.toInstant = .error (.invalidValue detail)) : Outcome v :=
  .inr ⟨detail, h, v, (mem_leaves_iff hleaf).2 rfl, isUndatable_of_error h⟩

theorem outcome_of_number? {q : Rat} (h : v.number? = some q) : Outcome v := by
  have hleaf : v.shape ≠ .array := by simp [shape_of_number? h]
  have hinstant := toInstant_of_number? h
  unfold ofMillis at hinstant
  rw [ofMillis?_clampInt64] at hinstant
  cases hmillis : Moment.ofMillis? (truncated q) with
  | some m =>
      rw [hmillis] at hinstant
      obtain ⟨hnanos, hordinary⟩ := Moment.ofMillis?_eq_some_iff.1 hmillis
      exact .inl ⟨_, hinstant, .read (.number h hnanos hordinary)⟩
  | none =>
      rw [hmillis] at hinstant
      exact outcome_of_error hleaf hinstant

/-- A leaf becomes a point in time, or it is undatable. -/
theorem outcome_of_leaf (hleaf : v.shape ≠ .array) : Outcome v := by
  cases v with
  | null => exact .inl ⟨_, rfl, .null⟩
  | date m | timestamp m | instant m => exact .inl ⟨_, rfl, .kept rfl⟩
  | text s =>
      have hinstant := toInstant_text s
      unfold instantOfText at hinstant
      cases hread : Moment.ofInstantChars? s.toList with
      | some m =>
          rw [hread] at hinstant
          exact .inl ⟨_, hinstant, .read (.text hread)⟩
      | none =>
          rw [hread] at hinstant
          exact outcome_of_error hleaf hinstant
  | smallInt n | int n | bigInt n => exact outcome_of_number? rfl
  | float x =>
      cases hx : x.toRat? with
      | some q => exact outcome_of_number? hx
      | none =>
          have hinstant : toInstant (.float x) = .error (notAnInstant (.float x)) := by
            rw [toInstant, instantOfFloat, Binary64.truncate?_eq, Binary32.toRat?_widen, hx,
              Option.map_none]
          exact outcome_of_error hleaf hinstant
  | double x =>
      cases hx : x.toRat? with
      | some q => exact outcome_of_number? hx
      | none =>
          have hinstant : toInstant (.double x) = .error (notAnInstant (.double x)) := by
            rw [toInstant, instantOfFloat, Binary64.truncate?_eq, hx, Option.map_none]
          exact outcome_of_error hleaf hinstant
  | array values => exact absurd rfl hleaf
  | _ => exact outcome_of_error hleaf rfl

mutual

/-- **A value is dated, or one of its leaves is undatable** and the value is invalid. -/
theorem toInstant_outcome : (v : Value) → Outcome v
  | .array values => by
      rw [Outcome, toInstant, leaves]
      rcases toInstants_outcome values with ⟨ws, hws, hdated⟩ | ⟨detail, herror, hleaf⟩
      · rw [hws]
        exact .inl ⟨_, rfl, .array hdated⟩
      · rw [herror]
        exact .inr ⟨_, rfl, hleaf⟩
  | .null | .bool _ | .smallInt _ | .int _ | .bigInt _ | .float _ | .double _ | .text _ | .bytes _
  | .uuid _ | .date _ | .time _ | .timestamp _ | .instant _ | .json _ | .numeric _ =>
      outcome_of_leaf nofun

/-- So the elements of a list are dated one by one, or the list has an undatable leaf. -/
theorem toInstants_outcome :
    (vs : List Value) → (∃ ws, toInstants vs = .ok ws ∧ List.Forall₂ Dated vs ws) ∨
      ∃ detail, toInstants vs = .error (.invalidValue detail) ∧
        ∃ leaf ∈ leavesOfAll vs, IsUndatable leaf
  | [] => .inl ⟨[], rfl, .nil⟩
  | v :: vs => by
      rw [toInstants, leavesOfAll]
      rcases toInstant_outcome v with ⟨w, hw, hfirst⟩ | ⟨detail, herror, leaf, hleaf, hbad⟩
      · rcases toInstants_outcome vs with ⟨ws, hws, hothers⟩ | ⟨detail, herror, leaf, hleaf, hbad⟩
        · rw [hw, hws]
          exact .inl ⟨_, rfl, .cons hfirst hothers⟩
        · rw [hw, herror]
          exact .inr ⟨_, rfl, leaf, List.mem_append_right _ hleaf, hbad⟩
      · rw [herror]
        exact .inr ⟨_, rfl, leaf, List.mem_append_left _ hleaf, hbad⟩

end

theorem dated_of_toInstant (h : v.toInstant = .ok w) : Dated v w := by
  rcases toInstant_outcome v with ⟨w', hw, hdated⟩ | ⟨detail, herror, -⟩
  · cases h.symm.trans hw
    exact hdated
  · cases h.symm.trans herror

theorem isUndatable_of_toInstant {e : Error} (h : v.toInstant = .error e) :
    (∃ detail, e = .invalidValue detail) ∧ ∃ leaf ∈ v.leaves, IsUndatable leaf := by
  rcases toInstant_outcome v with ⟨w, hw, -⟩ | ⟨detail, herror, hleaf⟩
  · cases h.symm.trans hw
  · cases h.symm.trans herror
    exact ⟨⟨detail, rfl⟩, hleaf⟩

/-! ### Dated values -/

theorem shape_of_isInstant (h : v.isInstant = true) : v.shape = .scalar := by
  cases v with
  | date m | timestamp m | instant m => rfl
  | _ => cases h

theorem Tells.shape_eq {m : Moment} (h : Tells v m) : v.shape = .scalar := by
  cases h with
  | text _ => rfl
  | number hnumber _ _ => exact shape_of_number? hnumber

theorem Tells.not_isUndatable {m : Moment} (h : Tells v m) : ¬ IsUndatable v := by
  intro hbad
  cases h with
  | text hread =>
      rw [hbad.unreadable _ rfl] at hread
      cases hread
  | number hnumber hnanos hordinary =>
      refine hbad.outOfRange _ hnumber (Moment.isSome_ofMillis?_iff.1 ?_)
      rw [Moment.ofMillis?_eq_some_iff.2 ⟨hnanos, hordinary⟩, Option.isSome_some]

mutual

/-- What is dated already stays as it is. -/
theorem Dated.toInstant_eq {v w : Value} : Dated v w → w.toInstant = .ok w
  | .null => rfl
  | .kept h => toInstant_of_isInstant h
  | .read _ => rfl
  | .array h => by rw [toInstant, toInstants_eq_of_dated h]

theorem toInstants_eq_of_dated {vs ws : List Value} :
    List.Forall₂ Dated vs ws → toInstants ws = .ok ws
  | .nil => rfl
  | .cons h hs => by rw [toInstants, h.toInstant_eq, toInstants_eq_of_dated hs]

end

mutual

/-- No leaf of a value that is dated is undatable. -/
theorem Dated.not_isUndatable {v w leaf : Value} : Dated v w → leaf ∈ v.leaves → ¬ IsUndatable leaf
  | .null, hmem => fun hbad => hbad.notNull (List.mem_singleton.1 hmem)
  | .kept h, hmem => by
      cases (mem_leaves_iff (by simp [shape_of_isInstant h])).1 hmem
      exact fun hbad => absurd (hbad.notInstant.symm.trans h) (by decide)
  | .read h, hmem => by
      cases (mem_leaves_iff (by simp [h.shape_eq])).1 hmem
      exact h.not_isUndatable
  | .array h, hmem => not_isUndatable_of_dated h hmem

theorem not_isUndatable_of_dated {vs ws : List Value} {leaf : Value} :
    List.Forall₂ Dated vs ws → leaf ∈ leavesOfAll vs → ¬ IsUndatable leaf
  | .nil, hmem => nomatch hmem
  | .cons h hs, hmem =>
      (List.mem_append.1 hmem).elim h.not_isUndatable (not_isUndatable_of_dated hs)

end

theorem Dated.eq_null_iff (h : Dated v w) : w = .null ↔ v = .null := by
  cases h with
  | null | kept _ => exact Iff.rfl
  | read h =>
      constructor
      · nofun
      · rintro rfl
        cases h.shape_eq
  | array _ => exact ⟨nofun, nofun⟩

end SqlFilter.Value
