import ReadNotify.Proofs.Registry.Refinement

/-!
# Removals in Any Order

Removing an entry leaves the others as they are, in their order, and the scan
standing between the same two of them. So what many removals leave depends on
which entries were removed and not on the order of the removals: it is the
registry restricted to the others.

## Main definitions

* `Registry.restrict`: A registry with some of its entries only.

## Theorems

* `Sound.remove_eq_restrict`: A removal restricts to all others.
* `restrict_restrict`, `restrict_congr`: Restrictions compose, and depend on the
  entries that there are.
-/

namespace ReadNotify

namespace Registry

variable {r : Registry}

/-- A registry with some of its entries only, the scan between the same two. -/
def restrict (keep : ConnId → Bool) (r : Registry) : Registry where
  order := r.order.filter keep
  refs := r.refs.filter fun e => keep e.1
  cursor := (r.passed.filter keep).length

theorem restrict_empty (keep : ConnId → Bool) : empty.restrict keep = empty := rfl

/-- What a restriction leaves depends on the entries that there are. -/
theorem restrict_congr {p q : ConnId → Bool} (h : r.Sound) (hpq : ∀ id ∈ r.order, p id = q id) :
    r.restrict p = r.restrict q := by
  have hrefs : ∀ e ∈ r.refs, p e.1 = q e.1 := fun e he =>
    hpq e.1 ((h.mem_order_iff e.1).mpr ⟨e.2, he⟩)
  have hpassed : ∀ id ∈ r.passed, p id = q id := fun id hid => hpq id (List.mem_of_mem_take hid)
  simp only [restrict, List.filter_congr hpq, List.filter_congr hrefs, List.filter_congr hpassed]

theorem restrict_true (h : r.Sound) : r.restrict (fun _ => true) = r := by
  have hlength : (r.order.take r.cursor).length = r.cursor :=
    List.length_take_of_le h.cursor_le
  simp only [restrict, List.filter_true, passed, hlength]

/-- The entries that the scan has passed are those that it had passed. -/
theorem passed_restrict (keep : ConnId → Bool) (r : Registry) :
    (r.restrict keep).passed = r.passed.filter keep := by
  have hsplit : r.order.filter keep = r.passed.filter keep ++ r.upcoming.filter keep := by
    rw [← List.filter_append, passed, upcoming, List.take_append_drop]
  rw [passed, restrict, hsplit, List.take_left]

/-- And the entries ahead of it are those that were ahead. -/
theorem upcoming_restrict (keep : ConnId → Bool) (r : Registry) :
    (r.restrict keep).upcoming = r.upcoming.filter keep := by
  have hsplit : r.order.filter keep = r.passed.filter keep ++ r.upcoming.filter keep := by
    rw [← List.filter_append, passed, upcoming, List.take_append_drop]
  rw [upcoming, restrict, hsplit, List.drop_left]

theorem restrict_restrict (p q : ConnId → Bool) (r : Registry) :
    (r.restrict p).restrict q = r.restrict fun id => q id && p id := by
  rw [restrict, passed_restrict]
  simp only [restrict, List.filter_filter]

/-- A removal restricts a registry to all other entries. -/
theorem Sound.remove_eq_restrict (h : r.Sound) (id : ConnId) :
    (r.remove id).1 = r.restrict (· != id) := by
  rcases h with ⟨l, rfl⟩
  rw [Lineup.remove_toRegistry]
  -- On a lineup both leave the identity out of both parts.
  have hpassed : ((l.toRegistry.passed).filter (· != id)).length =
      (l.behind.filter (Lineup.differs id)).length := by
    rw [Lineup.passed_toRegistry, ← Lineup.map_filter_differs, List.length_map]
  have hids : l.ids.filter (· != id) = (l.remove id).1.ids := by
    rw [Lineup.ids, Lineup.ids, ← Lineup.map_filter_differs, Lineup.entries, List.filter_append]
    rfl
  have hrefs : l.entries.filter (fun e => e.1 != id) = (l.remove id).1.entries := by
    rw [Lineup.entries, List.filter_append]
    rfl
  rw [restrict, hpassed]
  simp only [Lineup.toRegistry, hids, hrefs]
  rfl

end Registry

end ReadNotify
