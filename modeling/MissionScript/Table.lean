/-!
# Finite tables with number keys

A `Table β` holds values under natural-number keys, in ascending order of the keys and with each
key at most once. The order is part of the type, so a table is determined by its look-ups
(`Table.ext_get?`): two tables that answer every look-up alike are the same table, whatever the
order in which they were filled. Registries, the typed cells of memory and the local slots of a
thread are tables.

Results:
* `Table.get?_insert`, `Table.get?_erase` and `Table.get?_empty` say what each operation does to
  look-ups;
* `Table.ext_get?` is extensionality.
-/

namespace MissionScript

/-- Values under natural-number keys, kept in ascending order of the keys. -/
structure Table (β : Type) where
  entries : List (Nat × β)
  ascending : entries.Pairwise fun left right => left.1 < right.1
deriving DecidableEq, Repr

namespace Table

variable {β : Type}

/-! ## 1. Entry lists -/

/-- The value under a key in an entry list: the first one counts. -/
def find (key : Nat) : List (Nat × β) → Option β
  | [] => none
  | (other, value) :: rest => if other = key then some value else find key rest

/-- Puts a value under a key, replacing the value there if there is one. -/
def put (key : Nat) (value : β) : List (Nat × β) → List (Nat × β)
  | [] => [(key, value)]
  | (other, old) :: rest =>
    if key < other then (key, value) :: (other, old) :: rest
    else if key = other then (key, value) :: rest
    else (other, old) :: put key value rest

theorem mem_put {key : Nat} {value : β} {entry : Nat × β} {entries : List (Nat × β)}
    (member : entry ∈ put key value entries) : entry = (key, value) ∨ entry ∈ entries := by
  induction entries with
  | nil => simpa [put] using member
  | cons head rest ih =>
    obtain ⟨other, old⟩ := head
    simp only [put] at member
    split at member
    · simpa using member
    · split at member
      · rcases List.mem_cons.1 member with equal | inRest
        · exact Or.inl equal
        · exact Or.inr (List.mem_cons_of_mem _ inRest)
      · rcases List.mem_cons.1 member with equal | inRest
        · exact Or.inr (equal ▸ List.mem_cons_self)
        · exact (ih inRest).imp_right (List.mem_cons_of_mem _)

theorem put_ascending (key : Nat) (value : β) {entries : List (Nat × β)}
    (ascending : entries.Pairwise fun left right => left.1 < right.1) :
    (put key value entries).Pairwise fun left right => left.1 < right.1 := by
  induction entries with
  | nil => simp [put]
  | cons head rest ih =>
    obtain ⟨other, old⟩ := head
    obtain ⟨above, restAscending⟩ := List.pairwise_cons.1 ascending
    simp only [put]
    split
    · rename_i below
      refine List.pairwise_cons.2 ⟨?_, ascending⟩
      intro entry member
      rcases List.mem_cons.1 member with equal | inRest
      · exact equal ▸ below
      · exact Nat.lt_trans below (above entry inRest)
    · split
      · rename_i equal
        exact List.pairwise_cons.2 ⟨fun entry inRest => equal ▸ above entry inRest, restAscending⟩
      · refine List.pairwise_cons.2 ⟨?_, ih restAscending⟩
        intro entry member
        rcases mem_put member with equal | inRest
        · subst equal
          show other < key
          omega
        · exact above entry inRest

theorem find_put (key : Nat) (value : β) (wanted : Nat) (entries : List (Nat × β)) :
    find wanted (put key value entries) = if key = wanted then some value else find wanted entries := by
  induction entries with
  | nil => rfl
  | cons head rest ih =>
    obtain ⟨other, old⟩ := head
    simp only [put]
    split
    · rfl
    · split
      · rename_i equal
        subst equal
        by_cases hit : key = wanted <;> simp [find, hit]
      · rename_i different
        simp only [find, ih]
        by_cases hit : other = wanted
        · subst hit
          simp [different]
        · simp [hit]

theorem find_filter_ne (key wanted : Nat) (entries : List (Nat × β)) :
    find wanted (entries.filter fun entry => entry.1 ≠ key) =
      if key = wanted then none else find wanted entries := by
  induction entries with
  | nil => simp [find]
  | cons head rest ih =>
    obtain ⟨other, old⟩ := head
    by_cases gone : other = key
    · subst gone
      by_cases hit : other = wanted
      · simpa [hit] using ih
      · simpa [find, hit] using ih
    · by_cases hit : other = wanted
      · subst hit
        simp [find, gone, Ne.symm gone]
      · simpa [find, gone, hit] using ih

theorem find_eq_none_of_lt {key : Nat} {entries : List (Nat × β)}
    (above : ∀ entry ∈ entries, key < entry.1) : find key entries = none := by
  induction entries with
  | nil => rfl
  | cons head rest ih =>
    have first : key < head.1 := above head List.mem_cons_self
    simp only [find]
    rw [if_neg (by omega)]
    exact ih fun entry member => above entry (List.mem_cons_of_mem _ member)

theorem entries_eq_of_find_eq {left right : List (Nat × β)}
    (leftAscending : left.Pairwise fun a b => a.1 < b.1)
    (rightAscending : right.Pairwise fun a b => a.1 < b.1)
    (agree : ∀ key, find key left = find key right) : left = right := by
  induction left generalizing right with
  | nil =>
    cases right with
    | nil => rfl
    | cons head rest => simpa [find] using agree head.1
  | cons head rest ih =>
    obtain ⟨above, restAscending⟩ := List.pairwise_cons.1 leftAscending
    cases right with
    | nil => simpa [find] using agree head.1
    | cons head' rest' =>
      obtain ⟨above', restAscending'⟩ := List.pairwise_cons.1 rightAscending
      obtain ⟨key, value⟩ := head
      obtain ⟨key', value'⟩ := head'
      have sameKey : key = key' := by
        rcases Nat.lt_trichotomy key key' with below | equal | below
        · have missing : find key ((key', value') :: rest') = none := by
            apply find_eq_none_of_lt
            intro entry member
            rcases List.mem_cons.1 member with equal | inRest
            · exact equal ▸ below
            · exact Nat.lt_trans below (above' entry inRest)
          rw [← agree key] at missing
          simp [find] at missing
        · exact equal
        · have missing : find key' ((key, value) :: rest) = none := by
            apply find_eq_none_of_lt
            intro entry member
            rcases List.mem_cons.1 member with equal | inRest
            · exact equal ▸ below
            · exact Nat.lt_trans below (above entry inRest)
          rw [agree key'] at missing
          simp [find] at missing
      subst sameKey
      have sameValue : value = value' := by simpa [find] using agree key
      subst sameValue
      have sameRest : rest = rest' := by
        apply ih restAscending restAscending'
        intro wanted
        by_cases hit : key = wanted
        · subst hit
          rw [find_eq_none_of_lt above, find_eq_none_of_lt above']
        · simpa [find, hit] using agree wanted
      rw [sameRest]

/-! ## 2. Tables -/

/-- The table without entries. -/
def empty : Table β := ⟨[], List.Pairwise.nil⟩

instance : EmptyCollection (Table β) := ⟨empty⟩

instance : Inhabited (Table β) := ⟨empty⟩

/-- The value under a key. -/
def get? (table : Table β) (key : Nat) : Option β := find key table.entries

/-- Whether a key has a value. -/
def contains (table : Table β) (key : Nat) : Bool := (table.get? key).isSome

/-- The table with `value` under `key`, in place of any value that was there. -/
def insert (table : Table β) (key : Nat) (value : β) : Table β :=
  ⟨put key value table.entries, put_ascending key value table.ascending⟩

/-- The table without the entry under `key`. -/
def erase (table : Table β) (key : Nat) : Table β :=
  ⟨table.entries.filter fun entry => entry.1 ≠ key, table.ascending.filter _⟩

/-- The entries by ascending key. -/
def toList (table : Table β) : List (Nat × β) := table.entries

/-- The values by ascending key. -/
def values (table : Table β) : List β := table.entries.map Prod.snd

/-- The number of keys. -/
def size (table : Table β) : Nat := table.entries.length

/-- The entry with the greatest key at or below `key`. -/
def floor? (table : Table β) (key : Nat) : Option (Nat × β) :=
  (table.entries.takeWhile fun entry => entry.1 ≤ key).getLast?

@[simp] theorem get?_empty (key : Nat) : (empty : Table β).get? key = none := rfl

@[simp] theorem get?_insert (table : Table β) (key : Nat) (value : β) (wanted : Nat) :
    (table.insert key value).get? wanted = if key = wanted then some value else table.get? wanted :=
  find_put key value wanted table.entries

@[simp] theorem get?_erase (table : Table β) (key wanted : Nat) :
    (table.erase key).get? wanted = if key = wanted then none else table.get? wanted :=
  find_filter_ne key wanted table.entries

/-- Tables that answer every look-up alike are equal. -/
theorem ext_get? {left right : Table β} (agree : ∀ key, left.get? key = right.get? key) :
    left = right := by
  obtain ⟨leftEntries, leftAscending⟩ := left
  obtain ⟨rightEntries, rightAscending⟩ := right
  have same : leftEntries = rightEntries :=
    entries_eq_of_find_eq leftAscending rightAscending agree
  subst same
  rfl

end Table

end MissionScript
