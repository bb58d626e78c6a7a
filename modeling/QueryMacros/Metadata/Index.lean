import QueryMacros.Text.Order

/-!
# Indexes

An index keeps one value for each of its keys, and its keys in ascending order of
their characters. The order is part of the type, so a listing of the keys is
strictly increasing and without repetition whatever the history of the index.
-/
namespace QueryMacros

/-- Values by text, in ascending order of their keys. -/
structure Index (α : Type) where
  entries : List (Text × α)
  ascending : entries.Pairwise fun left right => Text.precedes left.1 right.1

namespace Index

variable {α : Type}

/-- The index without keys. -/
def empty : Index α := ⟨[], .nil⟩

/-- The keys of an index, in order. -/
def keys (index : Index α) : List Text := index.entries.map Prod.fst

/-- The value of a key. -/
def find? (index : Index α) (key : Text) : Option α := index.entries.lookup key

/-- Puts a value for a key where the key belongs, in place of the value that it
had. -/
def insertEntry (key : Text) (value : α) : List (Text × α) → List (Text × α)
  | [] => [(key, value)]
  | (other, kept) :: rest =>
      if Text.precedes key other then (key, value) :: (other, kept) :: rest
      else if key = other then (key, value) :: rest
      else (other, kept) :: insertEntry key value rest

/-- An insertion brings in the given key and no other. -/
theorem fst_of_mem_insertEntry {key : Text} {value : α} {entries : List (Text × α)}
    {entry : Text × α} (member : entry ∈ insertEntry key value entries) :
    entry.1 = key ∨ ∃ kept ∈ entries, entry.1 = kept.1 := by
  fun_induction insertEntry key value entries with
  | case1 => simp_all
  | case2 => grind
  | case3 => grind
  | case4 _ _ _ _ _ inductionHypothesis => grind

/-- An insertion keeps the order of the keys. -/
theorem ascending_insertEntry {key : Text} {value : α} {entries : List (Text × α)}
    (ascending : entries.Pairwise fun left right => Text.precedes left.1 right.1) :
    (insertEntry key value entries).Pairwise fun left right => Text.precedes left.1 right.1 := by
  fun_induction insertEntry key value entries with
  | case1 => simp
  | case2 other kept rest before =>
    refine List.pairwise_cons.2 ⟨fun entry member => ?_, ascending⟩
    rcases List.mem_cons.1 member with rfl | later
    · exact before
    · exact Text.precedes_trans before ((List.pairwise_cons.1 ascending).1 entry later)
  | case3 kept rest _ => exact List.pairwise_cons.2 (List.pairwise_cons.1 ascending)
  | case4 other kept rest notBefore different inductionHypothesis =>
    obtain ⟨first, later⟩ := List.pairwise_cons.1 ascending
    refine List.pairwise_cons.2 ⟨fun entry member => ?_, inductionHypothesis later⟩
    rcases fst_of_mem_insertEntry member with same | ⟨kept, keptMember, same⟩
    · have behind : Text.precedes other key := by
        rcases Text.precedes_or_precedes different with before | behind
        · exact absurd before notBefore
        · exact behind
      rw [same]
      exact behind
    · rw [same]
      exact first kept keptMember

/-- Sets the value of a key. -/
def insert (index : Index α) (key : Text) (value : α) : Index α :=
  ⟨insertEntry key value index.entries, ascending_insertEntry index.ascending⟩

/-- An index has its entries, each under a key of its own. -/
theorem mem_entries_iff {index : Index α} {key : Text} {value : α} :
    (key, value) ∈ index.entries ↔ index.find? key = some value := by
  rw [find?, List.lookup_eq_some_iff]
  constructor
  · intro member
    obtain ⟨before, after, split⟩ := List.append_of_mem member
    refine ⟨before, after, split, fun entry earlier => bne_iff_ne.2 fun same => ?_⟩
    have ordered := index.ascending
    rw [split] at ordered
    have front := (List.pairwise_append.1 ordered).2.2 entry earlier _ List.mem_cons_self
    rw [← same, Text.precedes_irrefl] at front
    cases front
  · rintro ⟨before, after, split, -⟩
    rw [split]
    exact List.mem_append_right before List.mem_cons_self

/-- The keys of an index are the texts that it has a value for. -/
theorem mem_keys_iff {index : Index α} {key : Text} :
    key ∈ index.keys ↔ ∃ value, index.find? key = some value := by
  simp only [keys, List.mem_map, Prod.exists, exists_and_right, exists_eq_right, mem_entries_iff]

/-- The value that was set is found. -/
theorem find?_insert_self (index : Index α) (key : Text) (value : α) :
    (index.insert key value).find? key = some value := by
  change (insertEntry key value index.entries).lookup key = some value
  fun_induction insertEntry key value index.entries with
  | case1 => exact List.lookup_cons_self
  | case2 other kept rest before => exact List.lookup_cons_self
  | case3 kept rest _ => exact List.lookup_cons_self
  | case4 other kept rest _ different inductionHypothesis =>
    rw [List.lookup_cons, beq_false_of_ne different]
    exact inductionHypothesis

/-- What is found for the other keys stays. -/
theorem find?_insert_of_ne (index : Index α) {key other : Text} (value : α)
    (different : other ≠ key) : (index.insert key value).find? other = index.find? other := by
  have absent : (other == key) = false := beq_false_of_ne different
  change (insertEntry key value index.entries).lookup other = index.entries.lookup other
  fun_induction insertEntry key value index.entries with
  | case1 => simp only [List.lookup_cons, absent]
  | case2 first kept rest before => rw [List.lookup_cons, absent]
  | case3 kept rest _ => simp only [List.lookup_cons, absent]
  | case4 first kept rest _ _ inductionHypothesis =>
    simp only [List.lookup_cons, inductionHypothesis]

end Index

end QueryMacros
