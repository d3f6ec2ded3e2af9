/-
**Dictionaries: values under distinct keys, sorted by key.**

A dictionary holds its pairs in strictly increasing order of their keys, so two dictionaries with
the same value under every key are the same list of pairs. Strings are ordered by code points,
which is the order of their UTF-8 octets.

* `insert` puts a value under a key, in place of an earlier one;
* `ofList` inserts pairs from left to right, so the last value of a repeated key wins;
* `merge` inserts every pair of its second argument into the first.
-/

namespace HostDashboard

/-- Values under distinct keys, sorted by key. -/
structure Dictionary (β : Type) where
  /-- The pairs, by strictly increasing key. -/
  entries : List (String × β)
  /-- The keys increase strictly. -/
  sorted : entries.Pairwise fun first second => first.1 < second.1 := by exact List.Pairwise.nil

namespace Dictionary

variable {β : Type}

/-- The dictionary without keys. -/
def empty : Dictionary β where
  entries := []

instance : Inhabited (Dictionary β) := ⟨empty⟩

instance [DecidableEq β] : DecidableEq (Dictionary β) := fun first second =>
  if same : first.entries = second.entries then
    .isTrue (by cases first; cases second; simp_all)
  else .isFalse fun equal => same (by rw [equal])

/-- Sorted pairs with one more pair at its place, or with the value under its key replaced. -/
def place (key : String) (value : β) : List (String × β) → List (String × β)
  | [] => [(key, value)]
  | entry :: rest =>
    if key < entry.1 then (key, value) :: entry :: rest
    else if key = entry.1 then (key, value) :: rest
    else entry :: place key value rest

/-- A pair of the result is the new one or an old one. -/
theorem eq_or_mem_of_mem_place {key : String} {value : β} {entries : List (String × β)}
    {entry : String × β} (member : entry ∈ place key value entries) :
    entry = (key, value) ∨ entry ∈ entries := by
  induction entries with
  | nil => simpa [place] using member
  | cons head rest inner =>
    rw [place] at member
    split at member
    · simpa using member
    · split at member
      · rcases List.mem_cons.mp member with same | old
        · exact .inl same
        · exact .inr (List.mem_cons_of_mem _ old)
      · rcases List.mem_cons.mp member with same | old
        · exact .inr (same ▸ List.mem_cons_self)
        · exact (inner old).imp_right (List.mem_cons_of_mem _)

/-- Placing a pair keeps the keys strictly increasing. -/
theorem sorted_place (key : String) (value : β) {entries : List (String × β)}
    (sorted : entries.Pairwise fun first second => first.1 < second.1) :
    (place key value entries).Pairwise fun first second => first.1 < second.1 := by
  induction entries with
  | nil => simp [place]
  | cons head rest inner =>
    have ⟨above, tail⟩ := List.pairwise_cons.mp sorted
    rw [place]
    split
    · next before =>
      refine List.pairwise_cons.mpr ⟨fun entry member => ?_, sorted⟩
      rcases List.mem_cons.mp member with same | old
      · exact same ▸ before
      · exact String.lt_trans before (above entry old)
    · next notBefore =>
      split
      · next same => exact List.pairwise_cons.mpr ⟨fun entry old => same ▸ above entry old, tail⟩
      · next differs =>
        refine List.pairwise_cons.mpr ⟨fun entry member => ?_, inner tail⟩
        rcases eq_or_mem_of_mem_place member with rfl | old
        · exact String.not_le.mp fun le => differs (String.le_antisymm le (String.not_lt.mp notBefore))
        · exact above entry old

/-- Puts a value under a key, in place of an earlier one. -/
def insert (dictionary : Dictionary β) (key : String) (value : β) : Dictionary β where
  entries := place key value dictionary.entries
  sorted := sorted_place key value dictionary.sorted

/-- The value under a key. -/
def get? (dictionary : Dictionary β) (key : String) : Option β := dictionary.entries.lookup key

/-- The keys in increasing order. -/
def keys (dictionary : Dictionary β) : List String := dictionary.entries.map Prod.fst

/-- The number of keys. -/
def size (dictionary : Dictionary β) : Nat := dictionary.entries.length

/-- No key has a value. -/
def isEmpty (dictionary : Dictionary β) : Bool := dictionary.entries.isEmpty

/-- Inserts pairs from left to right. -/
def insertAll (dictionary : Dictionary β) (pairs : List (String × β)) : Dictionary β :=
  pairs.foldl (fun sum pair => sum.insert pair.1 pair.2) dictionary

/-- The dictionary of some pairs; the last value of a repeated key wins. -/
def ofList (pairs : List (String × β)) : Dictionary β := empty.insertAll pairs

/-- The pairs of both; where both have a key, the second has its way. -/
def merge (first second : Dictionary β) : Dictionary β := first.insertAll second.entries

end Dictionary

end HostDashboard
