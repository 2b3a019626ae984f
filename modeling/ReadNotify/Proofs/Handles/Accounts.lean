import ReadNotify.Proofs.Callbacks.Linear
import ReadNotify.Proofs.Handles.Shedding

/-!
# Open As Long As Kept

Whether a connection is open can be read off the handles. It is open if it was not
closed by name and somebody has a handle of it: the program, or a callback that is in
a slot or out of one. There is no third place where a handle could be. A callback
that was destroyed has let go of everything, and every callback that was not is in
its place, because one that is made is registered at once or destroyed at once.

## Main definitions

* `System.closedIn`: A connection was closed by name.
* `System.Accounts`: Which connections are open.
* `System.isKept`: The program or a callback in its place keeps a handle.
* `System.AllPlaced`: Every callback is in a place.

## Theorems

* `accounts_handle`, `allPlaced_handle`: Both hold after everything that can be done.
* `isConnected_iff_isKept`: A connection is open as long as it is kept.
-/

namespace ReadNotify

namespace System

variable {s t : System} {c : ConnKey} {closed : ConnKey → Prop}

/-- Whether a connection was closed by name in the course of handlings. -/
def closedIn (c : ConnKey) : List Handling → System → Bool
  | [], _ => false
  | e :: es, s => e.closes c s || closedIn c es (e.perform s)

/-- What is open is what was not closed by name and somebody has a handle of. -/
structure Accounts (closed : ConnKey → Prop) (s : System) : Prop where
  known : ∀ c, closed c → (s.conn? c).isSome = true
  isOpen : ∀ c, s.isConnected c = true ↔
    (s.conn? c).isSome = true ∧ ¬ closed c ∧ s.isHeld c = true

theorem accounts_init (n : Nat) : Accounts (fun _ => False) (init n) :=
  ⟨fun _ h => h.elim, fun _ =>
    ⟨fun h => absurd h Bool.false_ne_true, fun h => absurd h.1 Bool.false_ne_true⟩⟩

/-- Giving handles up and closing what has none keeps the account. -/
theorem Accounts.sheds {but : ConnKey → Prop} (h : Accounts closed s) (hsheds : Sheds but s t)
    (hknown : ∀ c, but c → (s.conn? c).isSome = true)
    (hbut : ∀ c, but c → t.isConnected c = false) :
    Accounts (fun c => closed c ∨ but c) t := by
  refine ⟨fun c hc => hsheds.known c (hc.elim (h.known c) (hknown c)), fun c => ⟨fun hopen => ?_,
    fun ⟨hsome, hclosed, hheld⟩ => ?_⟩⟩
  · -- What was closed by name is not open.
    have hnot : ¬ but c := fun hc => Bool.false_ne_true ((hbut c hc).symm.trans hopen)
    refine ⟨isSome_of_isConnected hopen, ?_, ?_⟩
    · rintro (hc | hc)
      · exact ((h.isOpen c).mp (hsheds.shut c (h.known c hc) hopen)).2.1 hc
      · exact hnot hc
    · -- It was there before, or was made just now and is open for its handle.
      rcases hc : s.conn? c with _ | conn
      · exact (hsheds.fresh c hnot hc (isSome_of_isConnected hopen)).mp hopen
      · have hsome : (s.conn? c).isSome = true := by rw [hc]; rfl
        exact hsheds.last c hsome hopen ((h.isOpen c).mp (hsheds.shut c hsome hopen)).2.2
  · rw [not_or] at hclosed
    rcases hc : s.conn? c with _ | conn
    · exact (hsheds.fresh c hclosed.2 hc hsome).mpr hheld
    · have hsome : (s.conn? c).isSome = true := by rw [hc]; rfl
      exact hsheds.stays c hclosed.2
        ((h.isOpen c).mpr ⟨hsome, hclosed.1, hsheds.held c hsome hheld⟩) hheld

/-- What is closed by name exists, and it is closed then. -/
theorem isConnected_of_closes {e : Handling} (h : e.closes c s = true) :
    (s.conn? c).isSome = true ∧ (e.perform s).isConnected c = false := by
  cases e with
  | move m =>
      -- Only a close of that connection counts.
      cases m with
      | close d =>
          simp only [Handling.closes, Bool.and_eq_true, beq_iff_eq] at h
          rcases h with ⟨rfl, hsome⟩
          refine ⟨hsome, ?_⟩
          rw [Handling.perform, Move.perform, close, (frame_disconnect d _ d).2.2.2,
            decide_eq_false (not_not.mpr rfl), Bool.and_false]
      | _ => exact absurd h Bool.false_ne_true
  | restore x generation => exact absurd h Bool.false_ne_true

theorem accounts_handling {e : Handling} (he : e.Fits s) (h : Accounts closed s) :
    Accounts (fun c => closed c ∨ e.closes c s = true) (e.perform s) :=
  h.sheds (sheds_handling he fun _ hc => hc) (fun _ hc => (isConnected_of_closes hc).1)
    fun _ hc => (isConnected_of_closes hc).2

theorem accounts_handle {es : List Handling} (hes : FitIn es s) (h : Accounts closed s) :
    Accounts (fun c => closed c ∨ closedIn c es s = true) (handle es s) := by
  -- The induction is on what is done; what was closed before counts as closed.
  induction es generalizing s closed with
  | nil =>
      have hnone : ∀ c, closed c ∨ closedIn c [] s = true ↔ closed c := fun c =>
        or_iff_left Bool.false_ne_true
      exact ⟨fun c hc => h.known c ((hnone c).mp hc), fun c => by
        rw [hnone]
        exact h.isOpen c⟩
  | cons e es ih =>
      have hrest := ih hes.2 (accounts_handling hes.1 h)
      simp only [or_assoc, ← Bool.or_eq_true] at hrest
      exact hrest

/-- What is open has a handle. -/
theorem FitReached.isHeld (h : s.FitReached) (hopen : s.isConnected c = true) :
    s.isHeld c = true := by
  rcases h with ⟨n, es, hes, rfl⟩
  exact (((accounts_handle hes (accounts_init n)).isOpen c).mp hopen).2.2

/-! ### Who keeps handles -/

/-- Every callback is in a place. -/
def AllPlaced (s : System) : Prop := ∀ k, k < s.callbacks.size → ∃ c, s.Belongs k c

/-- A handle is kept by the program, or by a callback that is in a slot or out of
    one. -/
def isKept (s : System) (c : ConnKey) : Prop :=
  s.isOwned c = true ∨ ∃ k, c ∈ s.keeps k ∧
    ((∃ d, (s.slot d).callback = some k) ∨ ∃ x ∈ s.out, x.callback = k)

theorem callbacks_handling (e : Handling) (s : System) :
    (e.perform s).callbacks.size = s.callbacks.size +
      match e with
      | .move m => m.creates
      | .restore _ _ => 0 := by
  cases e with
  | move m => exact Move.callbacks_perform m s
  | restore x generation =>
      rw [Handling.perform]
      split
      · rcases putBack_cases { x with generation } s with ⟨-, -, heq⟩ | ⟨-, -, heq⟩
        · rw [heq]
          rfl
        · rw [heq]
          exact (unwinds_destroy x.callback s).unwound.callbacks
      · rfl

/-- A callback that is made is registered at once, or destroyed at once. -/
theorem exists_registers {m : Move} (hm : m.Fits s) {k : CallbackKey}
    (hk : k < s.callbacks.size + m.creates) :
    k < s.callbacks.size ∨ ∃ c, m.registers s = some (k, c) := by
  have hnew : k < s.callbacks.size + 1 → k < s.callbacks.size ∨ s.callbacks.size = k := fun h =>
    (Nat.lt_succ_iff_lt_or_eq.mp h).imp_right Eq.symm
  -- Two moves make callbacks, one each, and register them.
  cases m with
  | set n c hold =>
      refine (hnew hk).imp_right fun heq => ⟨c, ?_⟩
      rw [Move.registers, heq]
  | attach c r hold =>
      refine (hnew hk).imp_right fun heq => ⟨c, ?_⟩
      rw [Move.registers, if_pos (isSome_of_isConnected hm.1), heq]
  | _ => exact Or.inl hk

theorem allPlaced_handling {e : Handling} (he : e.Fits s) (hs : s.Sole) (h : s.AllPlaced) :
    (e.perform s).AllPlaced := by
  intro k hk
  -- What had a place passes from one to the next.
  have hkept : k < s.callbacks.size → ∃ c, (e.perform s).Belongs k c := fun hk =>
    (h k hk).imp fun c hc =>
      (sole_handovers (fun _ _ => belongs_handover) (handovers_handle e hs.livePlaces) hs hc).2
  rw [callbacks_handling] at hk
  cases e with
  | move m =>
      rcases exists_registers he hk with hold | ⟨c, hc⟩
      · exact hkept hold
      · exact ⟨c, belongs_registers hs hc⟩
  | restore x generation => exact hkept hk

theorem allPlaced_handle {es : List Handling} (hes : FitIn es s) (hs : s.Sole) (h : s.AllPlaced) :
    (handle es s).Sole ∧ (handle es s).AllPlaced :=
  fit_preserves (q := fun v => v.Sole ∧ v.AllPlaced)
    (fun e _ he hv => ⟨(sole_handovers (q := fun _ => True) (fun _ _ _ _ _ => trivial)
      (handovers_handle e hv.1.livePlaces) hv.1 trivial).1, allPlaced_handling he hv.1 hv.2⟩)
    hes ⟨hs, h⟩

/-- Whoever keeps a handle is in his place. -/
theorem AllPlaced.isHeld_iff (h : s.AllPlaced) (hs : s.Sole) (c : ConnKey) :
    s.isHeld c = true ↔ s.isKept c := by
  rw [isHeld_iff_keeps]
  refine or_congr Iff.rfl ⟨fun ⟨k, hk⟩ => ⟨k, hk, ?_⟩, fun ⟨k, hk, _⟩ => ⟨k, hk⟩⟩
  -- What keeps something is living.
  have hlive := hs.livePlaces.rested k c hk
  rcases h k (lt_size_of_isLive hlive) with ⟨d, p, hp, -⟩
  cases p with
  | slot d => exact Or.inl ⟨d, hp⟩
  | out x => exact Or.inr ⟨x, hp.1, hp.2⟩
  | ended => exact absurd (hp.2.symm.trans hlive) Bool.false_ne_true

theorem allPlaced_init (n : Nat) : (init n).AllPlaced := fun k hk => absurd hk (Nat.not_lt_zero k)

theorem FitReached.allPlaced (h : s.FitReached) : s.Sole ∧ s.AllPlaced := by
  rcases h with ⟨n, es, hes, rfl⟩
  exact allPlaced_handle hes (sole_init n) (allPlaced_init n)

/-- A connection is open if it was never closed by name and the program or a callback
    in its place keeps a handle of it. -/
theorem isConnected_iff_isKept {n : Nat} {es : List Handling} (hes : FitIn es (init n))
    (c : ConnKey) :
    (handle es (init n)).isConnected c = true ↔ ((handle es (init n)).conn? c).isSome = true ∧
      closedIn c es (init n) = false ∧ (handle es (init n)).isKept c := by
  rcases allPlaced_handle hes (sole_init n) (allPlaced_init n) with ⟨hsole, hallPlaced⟩
  rw [(accounts_handle hes (accounts_init n)).isOpen c, false_or, Bool.not_eq_true,
    hallPlaced.isHeld_iff hsole]

end System

end ReadNotify
