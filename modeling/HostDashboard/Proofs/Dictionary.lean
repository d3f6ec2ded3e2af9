/-
**What a dictionary holds after insertions.**

Every pair was there before or was inserted (`mem_insertAll`). Pairs whose keys lie above all others are
put at the end (`insertAll_above`), so a dictionary is the one of its own pairs (`ofList_entries`). After an
insertion the key has the new value, and every other key what it had (`get?_insert`); of two dictionaries
that are merged, the second has its way (`get?_merge`). The first entry whose key has a property is that of
the least such key (`find?_eq_some_iff`).

Two dictionaries that hold the same under every key are one and the same (`eq_of_get?`), as sorted pairs can be
listed in one way only. So what is known of look-ups is known of dictionaries: merging is associative
(`merge_assoc`), and the empty dictionary makes no difference to it.
-/

import HostDashboard.Dictionary
import Mathlib.Data.List.Sort

namespace HostDashboard.Dictionary

variable {β : Type}

theorem eq_of_entries {first second : Dictionary β} (same : first.entries = second.entries) :
    first = second := by
  cases first
  cases second
  cases same
  rfl

theorem mem_insertAll {pairs : List (String × β)} {dictionary : Dictionary β} {entry : String × β}
    (member : entry ∈ (dictionary.insertAll pairs).entries) :
    entry ∈ dictionary.entries ∨ entry ∈ pairs := by
  induction pairs generalizing dictionary with
  | nil => exact .inl member
  | cons pair rest ih =>
    rcases ih member with inserted | later
    · rcases eq_or_mem_of_mem_place inserted with same | old
      · exact .inr (same ▸ List.mem_cons_self)
      · exact .inl old
    · exact .inr (List.mem_cons_of_mem _ later)

theorem mem_of_mem_ofList {pairs : List (String × β)} {entry : String × β}
    (member : entry ∈ (ofList pairs).entries) : entry ∈ pairs :=
  (mem_insertAll member).resolve_left List.not_mem_nil

theorem mem_merge {first second : Dictionary β} {entry : String × β}
    (member : entry ∈ (first.merge second).entries) :
    entry ∈ first.entries ∨ entry ∈ second.entries :=
  mem_insertAll member

theorem place_above {key : String} {value : β} {entries : List (String × β)}
    (above : ∀ entry ∈ entries, entry.1 < key) : place key value entries = entries ++ [(key, value)] := by
  induction entries with
  | nil => rfl
  | cons entry rest ih =>
    have below := above entry List.mem_cons_self
    have notBefore : ¬ key < entry.1 := String.lt_asymm below
    have differs : key ≠ entry.1 := fun same => String.lt_irrefl key (same ▸ below)
    rw [place, if_neg notBefore, if_neg differs,
      ih fun other member => above other (List.mem_cons_of_mem _ member)]
    rfl

theorem insertAll_above {pairs : List (String × β)} {dictionary : Dictionary β}
    (sorted : (dictionary.entries ++ pairs).Pairwise fun first second => first.1 < second.1) :
    (dictionary.insertAll pairs).entries = dictionary.entries ++ pairs := by
  induction pairs generalizing dictionary with
  | nil => exact (List.append_nil _).symm
  | cons pair rest ih =>
    have above : ∀ entry ∈ dictionary.entries, entry.1 < pair.1 := fun entry member =>
      (List.pairwise_append.mp sorted).2.2 entry member pair List.mem_cons_self
    have placed : (dictionary.insert pair.1 pair.2).entries = dictionary.entries ++ [pair] :=
      place_above above
    have next := @ih (dictionary.insert pair.1 pair.2) (by
      rwa [placed, List.append_assoc])
    rw [placed, List.append_assoc] at next
    exact next

/-- Sorted pairs are the entries of their dictionary. -/
theorem entries_ofList {pairs : List (String × β)}
    (sorted : pairs.Pairwise fun first second => first.1 < second.1) : (ofList pairs).entries = pairs :=
  insertAll_above sorted

/-- **A dictionary is the one of its own pairs.** -/
theorem ofList_entries (dictionary : Dictionary β) : ofList dictionary.entries = dictionary :=
  eq_of_entries (entries_ofList dictionary.sorted)

/-! ### Look-up -/

theorem lookup_cons {κ : Type} [BEq κ] [LawfulBEq κ] [DecidableEq κ] (entry : κ × β)
    (rest : List (κ × β)) (key : κ) :
    (entry :: rest).lookup key = if key = entry.1 then some entry.2 else rest.lookup key := by
  obtain ⟨name, value⟩ := entry
  rw [List.lookup_cons]
  by_cases same : key = name
  · rw [beq_iff_eq.mpr same, if_pos same]
  · rw [beq_eq_false_iff_ne.mpr same, if_neg same]

theorem lookup_place (key other : String) (value : β) (entries : List (String × β)) :
    (place key value entries).lookup other = if other = key then some value else entries.lookup other := by
  induction entries with
  | nil => exact lookup_cons (key, value) [] other
  | cons entry rest ih =>
    rw [place]
    split
    · exact lookup_cons (key, value) (entry :: rest) other
    · split
      · next same =>
        simp only [lookup_cons, same]
        split <;> rfl
      · next differs =>
        rw [lookup_cons, ih, lookup_cons]
        by_cases first : other = entry.1
        · simp [first, Ne.symm differs]
        · simp [first]

theorem get?_insert (dictionary : Dictionary β) (key other : String) (value : β) :
    (dictionary.insert key value).get? other =
      if other = key then some value else dictionary.get? other :=
  lookup_place key other value dictionary.entries

theorem lookup_map {γ : Type} (meaning : β → γ) (entries : List (String × β)) (key : String) :
    (entries.map fun entry => (entry.1, meaning entry.2)).lookup key =
      (entries.lookup key).map meaning := by
  induction entries with
  | nil => rfl
  | cons entry rest ih =>
    rw [List.map_cons, lookup_cons, lookup_cons, ih]
    split <;> rfl

/-- **What is inserted has its way**, and every other key keeps what it had. -/
theorem get?_insertAll {pairs : List (String × β)}
    (increasing : pairs.Pairwise fun first second => first.1 < second.1) (dictionary : Dictionary β)
    (key : String) :
    (dictionary.insertAll pairs).get? key = (pairs.lookup key).or (dictionary.get? key) := by
  induction pairs generalizing dictionary with
  | nil => rfl
  | cons pair rest ih =>
    obtain ⟨above, increasing⟩ := List.pairwise_cons.mp increasing
    have inserted : (dictionary.insertAll (pair :: rest)).get? key =
        (rest.lookup key).or ((dictionary.insert pair.1 pair.2).get? key) := ih increasing _
    rw [inserted, get?_insert, lookup_cons]
    by_cases same : key = pair.1
    · have later : rest.lookup key = none := by
        refine List.lookup_eq_none_iff.mpr fun entry member => ?_
        rw [same]
        exact bne_iff_ne.mpr (String.ne_of_lt (above entry member))
      rw [later, if_pos same, if_pos same]
      rfl
    · rw [if_neg same, if_neg same]

theorem get?_merge (first second : Dictionary β) (key : String) :
    (first.merge second).get? key = (second.get? key).or (first.get? key) :=
  get?_insertAll second.sorted first key

/-! ### Entries and keys -/

theorem get?_eq_some_iff {dictionary : Dictionary β} {key : String} {value : β} :
    dictionary.get? key = some value ↔ (key, value) ∈ dictionary.entries := by
  obtain ⟨entries, sorted⟩ := dictionary
  show entries.lookup key = some value ↔ (key, value) ∈ entries
  induction entries with
  | nil => simp
  | cons entry rest ih =>
    obtain ⟨above, tail⟩ := List.pairwise_cons.mp sorted
    rw [lookup_cons, List.mem_cons]
    split
    · next same =>
      subst same
      have later : (entry.1, value) ∉ rest := fun member =>
        String.lt_irrefl entry.1 (above (entry.1, value) member)
      simp [later, Prod.ext_iff, eq_comm]
    · next differs =>
      have first : (key, value) ≠ entry := fun equal => differs (congrArg Prod.fst equal)
      rw [ih tail, or_iff_right first]

theorem mem_keys_iff {dictionary : Dictionary β} {key : String} :
    key ∈ dictionary.keys ↔ ∃ value, dictionary.get? key = some value := by
  simp only [keys, List.mem_map, get?_eq_some_iff]
  constructor
  · rintro ⟨entry, member, rfl⟩
    exact ⟨entry.2, member⟩
  · rintro ⟨value, member⟩
    exact ⟨(key, value), member, rfl⟩

/-- **The first key with a property** is the least one. -/
theorem find?_eq_some_iff {dictionary : Dictionary β} {fits : String → Bool} {key : String} {value : β} :
    (dictionary.entries.find? fun entry => fits entry.1) = some (key, value) ↔
      dictionary.get? key = some value ∧ fits key = true ∧
        ∀ other ∈ dictionary.keys, fits other = true → other ≠ key → key < other := by
  rw [List.find?_eq_some_iff_append, get?_eq_some_iff]
  constructor
  · rintro ⟨fit, before, after, split, none⟩
    have sorted := dictionary.sorted
    rw [split] at sorted
    refine ⟨split ▸ List.mem_append_right _ List.mem_cons_self, fit, fun other member fitting differs => ?_⟩
    obtain ⟨entry, inside, rfl⟩ := List.mem_map.mp member
    rw [split, List.mem_append, List.mem_cons] at inside
    rcases inside with early | rfl | late
    · simpa [fitting] using none entry early
    · exact absurd rfl differs
    · exact (List.pairwise_cons.mp (List.pairwise_append.mp sorted).2.1).1 entry late
  · rintro ⟨member, fit, least⟩
    obtain ⟨before, after, split⟩ := List.append_of_mem member
    have sorted := dictionary.sorted
    rw [split] at sorted
    refine ⟨fit, before, after, split, fun entry early => ?_⟩
    have below : entry.1 < key := (List.pairwise_append.mp sorted).2.2 entry early _ List.mem_cons_self
    have inside : entry.1 ∈ dictionary.keys :=
      List.mem_map.mpr ⟨entry, split ▸ List.mem_append_left _ early, rfl⟩
    cases fitting : fits entry.1 with
    | false => rfl
    | true =>
      have differs : entry.1 ≠ key := fun same => String.lt_irrefl key (same ▸ below)
      exact absurd below (String.lt_asymm (least entry.1 inside fitting differs))

/-! ### Equal dictionaries -/

theorem keys_increasing (dictionary : Dictionary β) : dictionary.keys.Pairwise (· < ·) :=
  List.pairwise_map.mpr dictionary.sorted

theorem nodup_keys (dictionary : Dictionary β) : dictionary.keys.Nodup :=
  dictionary.keys_increasing.imp String.ne_of_lt

theorem size_eq_length_keys (dictionary : Dictionary β) : dictionary.size = dictionary.keys.length :=
  (List.length_map _).symm

/-- **A dictionary is known by its look-ups.** -/
theorem eq_of_get? {first second : Dictionary β} (same : ∀ key, first.get? key = second.get? key) :
    first = second := by
  have irreflexive : Std.Irrefl fun one other : String × β => one.1 < other.1 :=
    ⟨fun entry => String.lt_irrefl entry.1⟩
  have antisymmetric : Std.Antisymm fun one other : String × β => one.1 < other.1 :=
    ⟨fun _ _ below above => absurd above (String.lt_asymm below)⟩
  refine eq_of_entries (first.sorted.eq_of_mem_iff second.sorted fun entry => ?_)
  rw [← Prod.mk.eta (p := entry), ← get?_eq_some_iff, ← get?_eq_some_iff, same entry.1]

theorem merge_empty (dictionary : Dictionary β) : dictionary.merge empty = dictionary := rfl

theorem empty_merge (dictionary : Dictionary β) : empty.merge dictionary = dictionary :=
  dictionary.ofList_entries

theorem merge_assoc (first second third : Dictionary β) :
    (first.merge second).merge third = first.merge (second.merge third) := by
  refine eq_of_get? fun key => ?_
  simp only [get?_merge, Option.or_assoc]

end HostDashboard.Dictionary
