/-!
# Things with Names

A scenario gives names to buffers, backends, loops and notifiers. Each kind
has its own names; giving a name again replaces what had it.

## Main definitions

* `Named`: Values with distinct names.
* `Named.find?`, `Named.insert`, `Named.erase`: By name.

## Theorems

* `Named.find?_erase`, `Named.find?_insert`: What a look-up finds afterwards.
-/

namespace ReadNotify

/-- Values with distinct names. -/
structure Named (α : Type) where
  entries : List (String × α)

namespace Named

variable {α : Type}

/-- No values. -/
def empty : Named α := ⟨[]⟩

/-- The value of a name. -/
def find? (t : Named α) (name : String) : Option α :=
  (t.entries.find? fun e => e.1 == name).map Prod.snd

/-- Whether a name is given. -/
def contains (t : Named α) (name : String) : Bool := (t.find? name).isSome

/-- Takes a name away. -/
def erase (t : Named α) (name : String) : Named α :=
  ⟨t.entries.filter fun e => e.1 != name⟩

/-- Gives a name to a value. -/
def insert (t : Named α) (name : String) (a : α) : Named α :=
  ⟨(name, a) :: (t.erase name).entries⟩

/-- A name that was taken away finds nothing, and every other name finds what
    it found before. -/
theorem find?_erase (t : Named α) (name other : String) :
    (t.erase name).find? other = if other = name then none else t.find? other := by
  unfold find? erase
  rw [List.find?_filter]
  by_cases h : other = name
  · subst h
    have hnone : t.entries.find? (fun e => decide ((e.1 != other) = true ∧ (e.1 == other) = true))
        = none := by
      rw [List.find?_eq_none]
      intro e _
      simp only [bne_iff_ne, ne_eq, beq_iff_eq, not_and_self, decide_false, Bool.false_eq_true,
        not_false_eq_true]
    rw [hnone, if_pos rfl, Option.map_none]
  · have hsame : (fun e : String × α => decide ((e.1 != name) = true ∧ (e.1 == other) = true))
        = fun e => e.1 == other := by
      funext e
      by_cases he : e.1 = other
      · simp only [he, bne_iff_ne, ne_eq, h, not_false_eq_true, beq_self_eq_true, and_self,
          decide_true]
      · simp only [beq_eq_false_iff_ne.mpr he, Bool.false_eq_true, and_false, decide_false]
    rw [hsame, if_neg h]

/-- A name that was given finds its value, and every other name finds what it
    found before. -/
theorem find?_insert (t : Named α) (name : String) (a : α) (other : String) :
    (t.insert name a).find? other = if other = name then some a else t.find? other := by
  have herase := t.find?_erase name other
  by_cases h : other = name
  · subst h
    simp only [find?, insert, List.find?_cons, beq_self_eq_true, Option.map_some, if_true]
  · have hne : (name == other) = false := beq_eq_false_iff_ne.mpr fun e => h e.symm
    simp only [if_neg h] at herase ⊢
    rw [← herase]
    simp only [find?, insert, List.find?_cons, hne]

end Named

end ReadNotify
