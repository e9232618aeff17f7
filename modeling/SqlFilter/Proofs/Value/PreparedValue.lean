/-
**Values prepared for columns.**

A value is prepared for its column where a condition is compiled, and prepared again on its way to a
statement; the second time must not change it.  For a column of documents the document is its own
document; for a column of points in time the leaves that became points in time are left alone; all
other columns take values as they are.

Main definitions:

* `SqlFilter.Value.IsPrepared`: what a prepared value is to the value.

Main results:

* `SqlFilter.Value.exists_isPrepared`: only a column of points in time refuses values;
* `SqlFilter.Value.encode_prepared`: **what preparing a value gives**.
-/

import SqlFilter.Proofs.Value.DatedValue

set_option relaxedAutoImplicit false
set_option autoImplicit false

namespace SqlFilter.Value

open SqlFilter.Calendar (Moment)
open SqlFilter.Number (Binary64)

variable {v w : Value}

/-! ### Kinds of columns -/

theorem asDocument_eq (v : Value) : v.asDocument = .json v.toJson := by
  cases v with
  | json j => rw [asDocument, toJson]
  | _ => rfl

theorem encode_time (v : Value) : encode .time v = v.toInstant := by
  cases v <;> rfl

theorem encode_json (hnull : v ≠ .null) : encode .json v = .ok (.json v.toJson) := by
  rw [← asDocument_eq]
  cases v with
  | null => exact absurd rfl hnull
  | _ => rfl

theorem encode_of_passed {kind : ColumnKind} (hjson : kind ≠ .json) (htime : kind ≠ .time)
    (v : Value) : encode kind v = .ok v := by
  unfold encode
  split
  · rfl
  · cases kind with
    | json => exact absurd rfl hjson
    | time => exact absurd rfl htime
    | _ => rfl

/-! ### Prepared values -/

/-- What `w` is to `v` when it is `v` prepared for a kind of column. -/
structure IsPrepared (kind : ColumnKind) (v w : Value) : Prop where
  /-- It is prepared for good. -/
  settled : encode kind w = .ok w
  null_iff : w = .null ↔ v = .null
  document : kind = .json → v ≠ .null → w = .json v.toJson
  dated : kind = .time → Dated v w
  passed : kind ≠ .json → kind ≠ .time → w = v

theorem Dated.isPrepared (h : Dated v w) : IsPrepared .time v w where
  settled := (encode_time w).trans h.toInstant_eq
  null_iff := h.eq_null_iff
  document := nofun
  dated := fun _ => h
  passed := fun _ htime => absurd rfl htime

theorem isPrepared_toJson (hnull : v ≠ .null) : IsPrepared .json v (.json v.toJson) where
  settled := rfl
  null_iff := ⟨nofun, fun h => absurd h hnull⟩
  document := fun _ _ => rfl
  dated := nofun
  passed := fun hjson => absurd rfl hjson

/-- A value that is left alone by its kind of column is prepared. -/
theorem isPrepared_self {kind : ColumnKind} (hself : encode kind v = .ok v)
    (hjson : kind = .json → v = .null) (htime : kind ≠ .time) : IsPrepared kind v v where
  settled := hself
  null_iff := Iff.rfl
  document := fun h hne => absurd (hjson h) hne
  dated := fun h => absurd h htime
  passed := fun _ _ => rfl

/-- Preparing a value for a column that is not one of points in time does not fail. -/
theorem exists_isPrepared {kind : ColumnKind} (htime : kind ≠ .time) (v : Value) :
    ∃ w, encode kind v = .ok w ∧ IsPrepared kind v w := by
  by_cases hjson : kind = .json
  · subst hjson
    by_cases hnull : v = .null
    · subst hnull
      exact ⟨_, rfl, isPrepared_self rfl (fun _ => rfl) htime⟩
    · exact ⟨_, encode_json hnull, isPrepared_toJson hnull⟩
  · have hself := encode_of_passed hjson htime v
    exact ⟨v, hself, isPrepared_self hself (fun h => absurd h hjson) htime⟩

/-- **What preparing a value gives.**  A value that is prepared stays as it is when it is prepared
again, and it is null exactly when it was null before.  For a column of documents it is the document
of the value, for a column of points in time the value with its leaves as points in time, and for
all other columns the value itself.  Only a column of points in time refuses values, as invalid, and
those that it refuses are the ones with an undatable leaf. -/
theorem encode_prepared (kind : ColumnKind) (v : Value) :
    (∀ w, encode kind v = .ok w → IsPrepared kind v w) ∧
    (∀ e, encode kind v = .error e → kind = .time ∧ ∃ detail, e = .invalidValue detail) ∧
    ((∃ detail, encode .time v = .error (.invalidValue detail)) ↔
      ∃ leaf ∈ v.leaves, IsUndatable leaf) := by
  refine ⟨fun w hw => ?_, fun e he => ?_, ?_⟩
  · by_cases htime : kind = .time
    · subst htime
      rw [encode_time] at hw
      exact (dated_of_toInstant hw).isPrepared
    · obtain ⟨w', hw', hprepared⟩ := exists_isPrepared htime v
      cases hw.symm.trans hw'
      exact hprepared
  · by_cases htime : kind = .time
    · subst htime
      rw [encode_time] at he
      exact ⟨rfl, (isUndatable_of_toInstant he).1⟩
    · obtain ⟨w, hw, -⟩ := exists_isPrepared htime v
      cases he.symm.trans hw
  · rw [encode_time]
    constructor
    · rintro ⟨detail, herror⟩
      exact (isUndatable_of_toInstant herror).2
    · rintro ⟨leaf, hmem, hbad⟩
      rcases toInstant_outcome v with ⟨w, -, hdated⟩ | ⟨detail, herror, -⟩
      · exact absurd hbad (hdated.not_isUndatable hmem)
      · exact ⟨detail, herror⟩

/-- A number before 1970 with a fraction, in a list in a list; and a not-a-number there. -/
theorem encode_prepared_nested :
    IsPrepared .time (.array [.null, .array [.double ⟨0xBFF8000000000000⟩]])
        (.array [.null, .array [.instant ⟨⟨1969, 12, 31, by decide, by decide⟩,
          ⟨23, 59, 59, 999000000, by decide, by decide, by decide, by decide⟩⟩]]) ∧
      ∃ detail, encode .time (.array [.null, .array [.double .nan]]) =
        .error (.invalidValue detail) := by
  have hnested : ∀ v w : Value, v.toInstant = .ok w →
      toInstant (.array [.null, .array [v]]) = .ok (.array [.null, .array [w]]) := by
    intro v w h
    simp only [toInstant, toInstants, h]
  constructor
  · refine (encode_prepared .time _).1 _ ((encode_time _).trans (hnested _ _ ?_))
    have hwhole : Binary64.truncate? ⟨0xBFF8000000000000⟩ = some (-1) := by decide +kernel
    have hmoment : Moment.ofMillis? (clampInt64 (-1)) = some ⟨⟨1969, 12, 31, by decide, by decide⟩,
        ⟨23, 59, 59, 999000000, by decide, by decide, by decide, by decide⟩⟩ := by decide
    rw [toInstant, instantOfFloat, hwhole]
    dsimp only
    unfold ofMillis
    rw [hmoment]
  · have hnumber : (Value.double .nan).number? = none := Binary64.toRat?_nan
    refine (encode_prepared .time _).2.2.2 ⟨.double .nan, by simp [leaves, leavesOfAll],
      by simp, rfl, by simp, fun q hq => ?_⟩
    rw [hnumber] at hq
    cases hq

end SqlFilter.Value
