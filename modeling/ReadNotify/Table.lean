/-!
# Tables

Everything in the system that has an identity lives in a table: sockets,
connections, callbacks, registries, workers. A row is added at the end and
never removed, so its number is its identity for good, and a number of a row
that was never added finds nothing.

Three operations are enough, and each is described by what a look-up finds
afterwards.

## Main definitions

* `Table`: Rows numbered from zero.
* `Table.get?`: The row of a number.
* `Table.add`: A new row; its number is the size before.
* `Table.update`: A row rewritten in place.

## Theorems

* `Table.get?_add`, `Table.get?_update`: What a look-up finds afterwards.
* `Table.size_add`, `Table.size_update`: How many rows there are.
-/

namespace ReadNotify

/-- Rows numbered from zero. -/
structure Table (α : Type) where
  rows : Array α

namespace Table

variable {α : Type}

/-- A table without rows. -/
def empty : Table α := ⟨#[]⟩

/-- How many rows there are. -/
def size (t : Table α) : Nat := t.rows.size

/-- The row of a number. -/
def get? (t : Table α) (k : Nat) : Option α := t.rows[k]?

/-- A table with one more row. -/
def add (t : Table α) (a : α) : Table α := ⟨t.rows.push a⟩

/-- A table with one row rewritten, unchanged if there is no such row. -/
def update (t : Table α) (k : Nat) (f : α → α) : Table α :=
  if h : k < t.rows.size then ⟨t.rows.set k (f t.rows[k])⟩ else t

/-- The rows in order. -/
def toList (t : Table α) : List α := t.rows.toList

/-- Whether some row satisfies a test. -/
def any (t : Table α) (p : α → Bool) : Bool := t.rows.any p

/-- The number of the first row that satisfies a test. -/
def find? (t : Table α) (p : α → Bool) : Option Nat := t.rows.findIdx? p

theorem get?_empty (k : Nat) : (empty : Table α).get? k = none := by
  simp only [get?, empty, Array.getElem?_empty]

theorem size_add (t : Table α) (a : α) : (t.add a).size = t.size + 1 := by
  simp only [size, add, Array.size_push]

theorem size_update (t : Table α) (k : Nat) (f : α → α) :
    (t.update k f).size = t.size := by
  unfold size update
  split
  · simp only [Array.size_set]
  · rfl

/-- A look-up after a new row finds the new row under its number and every
    earlier row where it was. -/
theorem get?_add (t : Table α) (a : α) (k : Nat) :
    (t.add a).get? k = if k = t.size then some a else t.get? k := by
  unfold get? add size
  exact Array.getElem?_push

/-- A look-up after a rewriting finds the new row under that number and every
    other row unchanged. -/
theorem get?_update (t : Table α) (k : Nat) (f : α → α) (j : Nat) :
    (t.update k f).get? j = if j = k then (t.get? k).map f else t.get? j := by
  unfold get? update
  split
  · rename_i h
    by_cases hj : j = k
    · subst hj
      simp only [Array.getElem?_set, if_true, Array.getElem?_eq_getElem h, Option.map_some]
    · have hne : ¬ k = j := fun e => hj e.symm
      simp only [Array.getElem?_set, if_neg hne, if_neg hj]
  · rename_i h
    by_cases hj : j = k
    · subst hj
      simp only [if_true, Array.getElem?_eq_none (Nat.le_of_not_lt h), Option.map_none]
    · simp only [if_neg hj]

end Table

end ReadNotify
