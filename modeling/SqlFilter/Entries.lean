/-
**Entries under keys, in the order of the keys.**

A list of pairs in which each key stands once, at the place where it first came in.  Putting a value
under a key that is there already replaces the value and leaves the place alone.  The members of a
document, the conditions of a query and the kinds of columns are kept this way.

Main definitions:

* `SqlFilter.Entries.put`: sets the value of a key;
* `SqlFilter.Entries.get?`: the value of a key;
* `SqlFilter.Entries.collect`: puts many pairs, one after the other;
* `SqlFilter.Entries.keys`: the keys in order.

Main results:

* `SqlFilter.Entries.get?_put`: what stands under each key after a put;
* `SqlFilter.Entries.keys_put`: a put adds a new key at the end and moves no other;
* `SqlFilter.Entries.nodup_keys_collect`: collected keys are distinct;
* `SqlFilter.Entries.get?_of_mem`: each entry is the one that its key finds;
* `SqlFilter.Entries.collect_of_nodup`: pairs with distinct keys are collected as they stand;
* `SqlFilter.Entries.keys_putAll`, `SqlFilter.Entries.get?_putAll`: the keys after many puts, in the
  order in which they came in first, and what stands under them, which was put last;
* `SqlFilter.Entries.put_comm`: puts under different keys that are there commute.
-/

set_option relaxedAutoImplicit false
set_option autoImplicit false

namespace SqlFilter.Entries

variable {α : Type}

/-- The keys, in order. -/
def keys (entries : List (String × α)) : List String := entries.map Prod.fst

/-- Sets the value of a key: in place if the key is there, else at the end. -/
def put (key : String) (value : α) : List (String × α) → List (String × α)
  | [] => [(key, value)]
  | (k, v) :: rest => if k = key then (k, value) :: rest else (k, v) :: put key value rest

/-- The value of a key. -/
def get? (key : String) : List (String × α) → Option α
  | [] => none
  | (k, v) :: rest => if k = key then some v else get? key rest

/-- Puts pairs into entries, one after the other. -/
def putAll (entries : List (String × α)) (pairs : List (String × α)) : List (String × α) :=
  pairs.foldl (fun acc pair => put pair.1 pair.2 acc) entries

/-- The entries of pairs: each key at its first place, with its last value. -/
def collect (pairs : List (String × α)) : List (String × α) := putAll [] pairs

/-! ### Putting and getting -/

/-- A put changes what stands under its own key and nothing else. -/
theorem get?_put (key other : String) (value : α) (entries : List (String × α)) :
    get? other (put key value entries) =
      if other = key then some value else get? other entries := by
  induction entries with
  | nil =>
      by_cases h : other = key
      · simp [put, get?, h]
      · simp [put, get?, h, Ne.symm h]
  | cons e rest ih =>
      obtain ⟨k, v⟩ := e
      rw [put]
      by_cases hk : k = key
      · subst hk
        by_cases h : other = k
        · simp [get?, h]
        · simp [get?, h, Ne.symm h]
      · by_cases h : other = k
        · subst h
          simp [get?, hk]
        · simp [get?, hk, Ne.symm h, ih]

/-- A put adds a new key at the end and moves no other. -/
theorem keys_put (key : String) (value : α) (entries : List (String × α)) :
    keys (put key value entries) =
      if key ∈ keys entries then keys entries else keys entries ++ [key] := by
  induction entries with
  | nil => simp [put, keys]
  | cons e rest ih =>
      obtain ⟨k, v⟩ := e
      simp only [keys] at ih
      rw [put]
      by_cases hk : k = key
      · simp [keys, hk]
      · by_cases hm : key ∈ rest.map Prod.fst
        · simp [keys, hk, Ne.symm hk, ih, hm]
        · simp [keys, hk, Ne.symm hk, ih, hm]

/-- A key that is not there comes in at the end. -/
theorem put_of_not_mem {key : String} {value : α} {entries : List (String × α)}
    (h : key ∉ keys entries) : put key value entries = entries ++ [(key, value)] := by
  induction entries with
  | nil => rfl
  | cons e rest ih =>
      obtain ⟨k, v⟩ := e
      rw [keys, List.map_cons, List.mem_cons, not_or] at h
      rw [put, if_neg (Ne.symm h.1), ih h.2, List.cons_append]

/-- Distinct keys stay distinct. -/
theorem nodup_keys_put {key : String} {value : α} {entries : List (String × α)}
    (h : (keys entries).Nodup) : (keys (put key value entries)).Nodup := by
  rw [keys_put]
  split
  · exact h
  · rw [List.nodup_append]
    refine ⟨h, by simp, ?_⟩
    rintro a ha b hb rfl
    simp only [List.mem_singleton] at hb
    exact absurd (hb ▸ ha) ‹_›

theorem nodup_keys_putAll {entries pairs : List (String × α)} (h : (keys entries).Nodup) :
    (keys (putAll entries pairs)).Nodup := by
  induction pairs generalizing entries with
  | nil => exact h
  | cons p ps ih => exact ih (nodup_keys_put h)

/-- Collected keys are distinct. -/
theorem nodup_keys_collect (pairs : List (String × α)) : (keys (collect pairs)).Nodup :=
  nodup_keys_putAll (by simp [keys])

/-- Among distinct keys each entry is the one that its key finds. -/
theorem get?_of_mem {entries : List (String × α)} (h : (keys entries).Nodup)
    {pair : String × α} (hmem : pair ∈ entries) : get? pair.1 entries = some pair.2 := by
  induction entries with
  | nil => cases hmem
  | cons e rest ih =>
      obtain ⟨k, v⟩ := e
      obtain ⟨hk, hrest⟩ := List.nodup_cons.1 h
      rcases List.mem_cons.1 hmem with rfl | htail
      · simp [get?]
      · have hne : k ≠ pair.1 := by
          rintro rfl
          exact hk (List.mem_map.2 ⟨pair, htail, rfl⟩)
        rw [get?, if_neg hne, ih hrest htail]

/-! ### Many puts -/

theorem get?_append (key : String) (front back : List (String × α)) :
    get? key (front ++ back) = (get? key front).or (get? key back) := by
  induction front with
  | nil => rfl
  | cons e rest ih =>
      obtain ⟨k, v⟩ := e
      by_cases hk : k = key
      · simp [get?, hk]
      · simp [get?, hk, ih]

/-- Under each key stands what was put there last, or what stood there before. -/
theorem get?_putAll (key : String) (entries pairs : List (String × α)) :
    get? key (putAll entries pairs) = (get? key pairs.reverse).or (get? key entries) := by
  induction pairs generalizing entries with
  | nil => rfl
  | cons p ps ih =>
      rw [putAll, List.foldl_cons, ← putAll, ih, get?_put, List.reverse_cons, get?_append,
        Option.or_assoc]
      by_cases hk : key = p.1
      · simp [get?, hk]
      · simp [get?, hk, Ne.symm hk]

theorem putAll_of_nodup {entries pairs : List (String × α)} (h : (keys (entries ++ pairs)).Nodup) :
    putAll entries pairs = entries ++ pairs := by
  induction pairs generalizing entries with
  | nil => exact (List.append_nil entries).symm
  | cons p ps ih =>
      have hkey : p.1 ∉ keys entries := by
        rw [keys, List.map_append, List.map_cons, List.nodup_append] at h
        exact fun hmem => h.2.2 _ hmem _ List.mem_cons_self rfl
      rw [putAll, List.foldl_cons, ← putAll, put_of_not_mem hkey, ih (by simpa using h),
        List.append_assoc, List.singleton_append]

/-- Pairs with distinct keys are entries as they stand. -/
theorem collect_of_nodup {pairs : List (String × α)} (h : (keys pairs).Nodup) :
    collect pairs = pairs := by
  rw [collect, putAll_of_nodup (by simpa using h), List.nil_append]

/-- Distinct keys are the first occurrences of themselves. -/
theorem eraseDups_of_nodup {names : List String} (h : names.Nodup) : names.eraseDups = names := by
  induction names with
  | nil => rfl
  | cons name names ih =>
      obtain ⟨hname, hnames⟩ := List.nodup_cons.1 h
      have hkept : names.filter (fun other => !other == name) = names := by
        rw [List.filter_eq_self]
        intro other hother
        have hne : other ≠ name := fun heq => hname (heq ▸ hother)
        simp [hne]
      rw [List.eraseDups_cons, hkept, ih hnames]

/-- A later occurrence of a name changes nothing. -/
theorem eraseDups_append_cons_of_mem {name : String} {front : List String} (h : name ∈ front)
    (back : List String) : (front ++ name :: back).eraseDups = (front ++ back).eraseDups := by
  have hdropped : (name :: back).removeAll front = back.removeAll front := by
    simp [List.removeAll, h]
  rw [List.eraseDups_append, List.eraseDups_append, hdropped]

/-- The keys stand in the order in which they came in first. -/
theorem keys_putAll {entries : List (String × α)} (h : (keys entries).Nodup)
    (pairs : List (String × α)) :
    keys (putAll entries pairs) = (keys entries ++ keys pairs).eraseDups := by
  induction pairs generalizing entries with
  | nil =>
      show keys entries = (keys entries ++ []).eraseDups
      rw [List.append_nil, eraseDups_of_nodup h]
  | cons p ps ih =>
      rw [putAll, List.foldl_cons, ← putAll, ih (nodup_keys_put h), keys_put]
      show _ = (keys entries ++ p.1 :: keys ps).eraseDups
      split
      · next hmem => rw [eraseDups_append_cons_of_mem hmem]
      · rw [List.append_assoc, List.singleton_append]

/-- Puts under different keys that are there already commute: neither moves an entry. -/
theorem put_comm {key other : String} (hne : key ≠ other) (value otherValue : α)
    {entries : List (String × α)} (hkey : key ∈ keys entries) (hother : other ∈ keys entries) :
    put key value (put other otherValue entries) =
      put other otherValue (put key value entries) := by
  induction entries with
  | nil => cases hkey
  | cons e rest ih =>
      obtain ⟨k, v⟩ := e
      by_cases hk : k = key
      · simp [put, hk, hne]
      · by_cases ho : k = other
        · simp [put, ho, Ne.symm hne]
        · have hrest := ih ((List.mem_cons.1 hkey).resolve_left (Ne.symm hk))
            ((List.mem_cons.1 hother).resolve_left (Ne.symm ho))
          simp [put, hk, ho, hrest]

end SqlFilter.Entries
