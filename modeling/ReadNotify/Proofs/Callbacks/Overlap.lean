import ReadNotify.Proofs.Callbacks.Handovers
import ReadNotify.Proofs.Registration.Nesting

/-!
# How Many Callbacks of a Connection Are Out

While a callback of a connection is being called, the slot of the connection is
empty, and nobody can begin another call of the connection. This is all that keeps
two callbacks of one connection apart, and registering a callback undoes it, since
that fills the slot. The new callback may be taken and called while the old one is
still out, by another worker or in the middle of the old call.

So there can be more than one, but not for any other reason. The *load* of a
connection is the number of its callbacks that are out or in its slot. Taking and
putting back move a callback between the two and leave the load alone, clearing
lowers it, and registering raises it by one at most, and only where it *overtakes*
something that is out: otherwise it leaves the connection with nothing but the
callback that is put in.

## Main definitions

* `System.outOf`, `System.load`: The callbacks of a connection that are out, and the
  number of those that are out or in the slot.
* `Handling.overtakes`, `System.overtakings`: Registering a callback of a connection
  while another one is out.

## Theorems

* `load_perform`: What a handling does to the load.
* `load_handle`: The load grows by overtaking only.
* `overlap_of_replacing`: Overtaking lets two callbacks of a connection overlap.
* `overlap_of_overtaking`: And nothing else does.
-/

namespace ReadNotify

/-- Whether a handling puts a callback into the slot of a connection while another
    one of the connection is out. -/
def Handling.overtakes (e : Handling) (c : ConnKey) (s : System) : Bool :=
  match e with
  | move m => (m.installs s c).isSome && s.out.any fun t => t.conn == c
  | restore _ _ => false

namespace System

variable {s t : System} {c : ConnKey}

/-- The callbacks of a connection that are out of the slot. -/
def outOf (s : System) (c : ConnKey) : List Taken := s.out.filter fun t => t.conn == c

/-- How many callbacks of a connection are out or in the slot. -/
def load (s : System) (c : ConnKey) : Nat :=
  (s.outOf c).length + (s.slot c).callback.toList.length

/-- How many of some handlings overtake. -/
def overtakings (c : ConnKey) : List Handling → System → Nat
  | [], _ => 0
  | e :: es, s => (e.overtakes c s).toNat + overtakings c es (e.perform s)

theorem load_of_none (h : (s.slot c).callback = none) : s.load c = (s.outOf c).length := by
  rw [load, h]
  rfl

theorem load_of_some {k : CallbackKey} (h : (s.slot c).callback = some k) :
    s.load c = (s.outOf c).length + 1 := by
  rw [load, h]
  rfl

theorem length_outOf_le_load (s : System) (c : ConnKey) : (s.outOf c).length ≤ s.load c :=
  Nat.le_add_right _ _

theorem load_le (s : System) (c : ConnKey) : s.load c ≤ (s.outOf c).length + 1 :=
  Nat.add_le_add_left (Option.length_toList_le) _

/-! ### What is out of a connection -/

theorem length_outOf_le_of_sublist (h : t.out.Sublist s.out) (c : ConnKey) :
    (t.outOf c).length ≤ (s.outOf c).length :=
  (h.filter _).length_le

theorem outOf_takenOut_self {x : Taken} (hout : t.out = x :: s.out) :
    t.outOf x.conn = x :: s.outOf x.conn := by
  rw [outOf, hout]
  exact List.filter_cons_of_pos (beq_self_eq_true x.conn)

theorem outOf_takenOut_of_ne {x : Taken} (hout : t.out = x :: s.out) (hne : x.conn ≠ c) :
    t.outOf c = s.outOf c := by
  rw [outOf, hout]
  exact List.filter_cons_of_neg fun h => hne (beq_iff_eq.mp h)

/-- Striking what is out of a connection leaves less of it out. -/
theorem length_outOf_lt {x : Taken} (hx : x ∈ s.out)
    (hout : t.out = s.out.filter fun y => y.callback != x.callback) :
    (t.outOf x.conn).length < (s.outOf x.conn).length := by
  have hsub : (t.outOf x.conn).Sublist (s.outOf x.conn) := by
    rw [outOf, outOf, hout]
    exact List.filter_sublist.filter _
  refine Nat.lt_of_le_of_ne hsub.length_le fun hlength => ?_
  -- A sublist of the same length would have what was struck in it.
  have hmem : x ∈ t.outOf x.conn :=
    hsub.eq_of_length hlength ▸ List.mem_filter.mpr ⟨hx, beq_self_eq_true x.conn⟩
  have hkept := (List.mem_filter.mp hmem).1
  rw [hout, List.mem_filter, bne_self_eq_false] at hkept
  exact Bool.false_ne_true hkept.2

/-! ### One handling -/

/-- A move that puts nothing into the slot does not raise the load. -/
theorem load_of_not_installs {m : Move} (h : m.installs s c = none) :
    (m.perform s).load c ≤ s.load c := by
  -- What is in the slot afterwards was there before or was out, and what is out was
  -- out or in the slot.
  rcases hslot : ((m.perform s).slot c).callback with _ | k
  · rw [load_of_none hslot]
    rcases Move.out_cases m s with hsub | ⟨x, hsome, -, -, -, hout⟩
    · exact Nat.le_trans (length_outOf_le_of_sublist hsub c) (length_outOf_le_load s c)
    · by_cases hx : x.conn = c
      · -- What is out now was in the slot.
        subst hx
        rw [outOf_takenOut_self hout, load_of_some hsome, List.length_cons]
      · rw [outOf_takenOut_of_ne hout hx]
        exact length_outOf_le_load s c
  · rw [load_of_some hslot]
    rcases callback_perform hslot with ⟨r, hinstalls, -⟩ | ⟨-, -, -, -, hreturns | hstays⟩
    · rw [h] at hinstalls
      exact absurd hinstalls (by simp)
    · -- What is in the slot now was out.
      rcases Move.of_returns hreturns with ⟨x, hx, rfl, rfl, -, -⟩
      have hlt : (((Move.finish x .returned).perform s).outOf x.conn).length <
          (s.outOf x.conn).length := by
        refine length_outOf_lt hx ?_
        rw [Move.perform_out, Move.outAfter, if_pos hx]
      have hle := length_outOf_le_load s x.conn
      omega
    · rw [load_of_some hstays]
      refine Nat.add_le_add_right ?_ 1
      rcases Move.out_cases m s with hsub | ⟨x, -, -, -, hvacated, hout⟩
      · exact length_outOf_le_of_sublist hsub c
      · have hx : x.conn ≠ c := by
          rintro rfl
          rw [hvacated] at hslot
          exact absurd hslot (by simp)
        rw [outOf_takenOut_of_ne hout hx]

/-- A move that puts something into the slot takes nothing out. -/
theorem outOf_of_installs {m : Move} (h : (m.installs s c).isSome = true) (d : ConnKey) :
    (m.perform s).outOf d = s.outOf d := by
  have hout : (m.perform s).out = s.out := by
    rw [Move.perform_out]
    cases m with
    | attach e r hold => rfl
    | set n e hold => rfl
    | _ => exact absurd h Bool.false_ne_true
  rw [outOf, outOf, hout]

/-- Putting back moves a callback from one place to the other, or destroys it,
    whatever the count. -/
theorem load_putBack {x : Taken} (hx : x ∈ s.out) (generation : UInt64) (c : ConnKey) :
    (s.putBack { x with generation }).1.load c ≤ s.load c := by
  rcases putBack_cases { x with generation } s with ⟨hmay, -, heq⟩ | ⟨-, -, heq⟩
  · have hslot := slot_updateSlot s x.conn (fun y => { y with callback := some x.callback }) c
    have hsub : (s.putBack { x with generation }).1.out.Sublist s.out := by
      rw [heq]
      exact List.filter_sublist
    by_cases hc : c = x.conn
    · -- One fewer is out, and one more in the slot at most.
      subst hc
      have hlt : ((s.putBack { x with generation }).1.outOf x.conn).length <
          (s.outOf x.conn).length := length_outOf_lt hx (by rw [heq]; rfl)
      have hle := length_outOf_le_load s x.conn
      have hle' := load_le (s.putBack { x with generation }).1 x.conn
      omega
    · rw [if_neg fun h => hc h.1] at hslot
      have hsame : (s.putBack { x with generation }).1.slot c = s.slot c := by
        rw [heq]
        exact hslot
      rw [load, load, hsame]
      exact Nat.add_le_add_right (length_outOf_le_of_sublist hsub c) _
  · -- Destroying clears slots and fills none.
    have hswept := swept_destroy x.callback s c
    have hout : (s.destroy x.callback).out = s.out := (unwinds_destroy x.callback s).unwound.out
    rw [heq]
    refine Nat.add_le_add (length_outOf_le_of_sublist ?_ c) ?_
    · rw [out_settleTaken, hout]
      exact List.filter_sublist
    · rcases hswept with hsame | ⟨-, hclear, -⟩
      · exact Nat.le_of_eq (congrArg (fun y : Slot => y.callback.toList.length) hsame)
      · rw [show (((s.destroy x.callback).settleTaken x.callback).slot c) = _ from hclear]
        exact Nat.zero_le _

/-- A handling raises the load by one at most, and only if it overtakes, unless it
    leaves the connection with one callback. -/
theorem load_perform (e : Handling) (s : System) (c : ConnKey) :
    (e.perform s).load c ≤ max 1 (s.load c) + (e.overtakes c s).toNat := by
  cases e with
  | restore x generation =>
      have hle : ((Handling.restore x generation).perform s).load c ≤ s.load c := by
        rw [Handling.perform]
        split
        · next hx => exact load_putBack hx generation c
        · exact Nat.le_refl _
      omega
  | move m =>
      cases hinstalls : (m.installs s c).isSome with
      | false =>
          have hnone := Option.not_isSome_iff_eq_none.mp (Bool.not_eq_true _ ▸ hinstalls)
          have hle := load_of_not_installs hnone
          have hmove : ((Handling.move m).perform s).load c = (m.perform s).load c := rfl
          omega
      | true =>
          have hle := load_le (m.perform s) c
          rw [outOf_of_installs hinstalls c] at hle
          have hmove : ((Handling.move m).perform s).load c = (m.perform s).load c := rfl
          have hload := length_outOf_le_load s c
          rw [hmove, Handling.overtakes, hinstalls, Bool.true_and]
          cases hany : s.out.any fun t => t.conn == c with
          | true =>
              rw [Bool.toNat_true]
              omega
          | false =>
              -- Nothing of the connection is out, so there is the new one only.
              have hnone : s.outOf c = [] := by
                rw [outOf, List.filter_eq_nil_iff]
                exact fun x hx h => by simpa [h] using List.any_eq_false.mp hany x hx
              rw [hnone, List.length_nil] at hle
              omega

/-! ### Many handlings -/

/-- The load grows by overtaking only. -/
theorem load_handle (c : ConnKey) (es : List Handling) (s : System) :
    (handle es s).load c ≤ max 1 (s.load c) + overtakings c es s := by
  -- The bound for the rest starts from the load after the first, which has its own.
  induction es generalizing s with
  | nil =>
      rw [overtakings]
      exact Nat.le_trans (Nat.le_max_right 1 _) (Nat.le_add_right _ 0)
  | cons e es ih =>
      have hfirst := load_perform e s c
      have hrest := ih (e.perform s)
      have hcons : handle (e :: es) s = handle es (e.perform s) := rfl
      rw [hcons, overtakings]
      omega

/-- With a load of one at most, the slot is empty as long as something is out, and
    nobody can take anything. -/
theorem excluded_of_load (hload : s.load c ≤ 1) {x : Taken} (hx : x ∈ s.out)
    (hconn : x.conn = c) :
    s.outOf c = [x] ∧ (s.slot c).callback = none ∧ (∀ pinned, s.take c pinned = (s, none)) ∧
      ∀ size, s.begin c size = (s, none) := by
  have hmem : x ∈ s.outOf c := List.mem_filter.mpr ⟨hx, beq_iff_eq.mpr hconn⟩
  have hpos := List.length_pos_of_mem hmem
  have hnone : (s.slot c).callback = none := by
    rcases hslot : (s.slot c).callback with _ | k
    · rfl
    · rw [load_of_some hslot] at hload
      omega
  rw [load_of_none hnone] at hload
  refine ⟨?_, hnone, take_of_none hnone, begin_of_none hnone⟩
  rcases List.length_eq_one_iff.mp (Nat.le_antisymm hload hpos) with ⟨y, hy⟩
  rw [hy] at hmem ⊢
  rw [List.mem_singleton.mp hmem]

/-- The first callback of a connection is being called when another one is
    registered, and then that one can be taken as well. -/
theorem overlap_of_replacing :
    ¬ ∀ (r : Nat) (ms : List Move) (c : ConnKey) (pinned : Bool),
      ∀ x ∈ (run ms (init r)).out, x.conn = c → ((run ms (init r)).take c pinned).2 = none := by
  intro hexcluded
  have hnone := hexcluded 1 [.pair 10 11, .attach 0 0 none, .begin 0 4, .attach 0 0 none] 0 true
    ⟨0, 0, 1, true⟩ (by decide) rfl
  exact absurd hnone (by decide)

/-- Callbacks of one connection overlap only as far as they overtook each other. At
    every moment no callback is out twice, and the callbacks of a connection that
    are out or in its slot are no more than there were at any earlier moment, or
    one, and those since then that were registered while another one was out. So
    if there was one at most at some moment, and none was registered since while
    another one was out, then there is one at most, and as long as it is out nobody
    can take another one: no other taker, and no dispatch, on whatever thread or in
    whatever callback. -/
theorem overlap_of_overtaking (r : Nat) (before after : List Handling) (c : ConnKey) :
    let s₀ := handle before (init r)
    let s := handle after s₀
    (s.out.map Taken.callback).Nodup ∧
      s.load c ≤ max 1 (s₀.load c) + overtakings c after s₀ ∧
      (s₀.load c ≤ 1 → overtakings c after s₀ = 0 →
        (s.outOf c).length ≤ 1 ∧
          ∀ x ∈ s.out, x.conn = c →
            s.outOf c = [x] ∧ (∀ pinned, s.take c pinned = (s, none)) ∧
              ∀ {δ : Type} (call : Handler δ) (size : Nat) (w : World δ), w.sys = s →
                w.dispatch call c size = (w, .skipped)) := by
  intro s₀ s
  have hsole : s.Sole :=
    (sole_handle (q := fun _ => True) (fun _ _ _ _ h => h) after
      (sole_handle (q := fun _ => True) (fun _ _ _ _ h => h) before (sole_init r) trivial).1
      trivial).1
  have hload : s.load c ≤ max 1 (s₀.load c) + overtakings c after s₀ := load_handle c after s₀
  refine ⟨hsole.nodup, hload, fun hfirst hzero => ?_⟩
  have hone : s.load c ≤ 1 := by omega
  refine ⟨Nat.le_trans (length_outOf_le_load s c) hone, fun x hx hconn => ?_⟩
  rcases excluded_of_load hone hx hconn with ⟨halone, -, htake, hbegin⟩
  refine ⟨halone, htake, fun call size w hw => ?_⟩
  refine World.dispatch_of_none ?_ call
  rw [hw, hbegin size]

/-- Two callbacks of a connection are out at once, and one of them is refused when
    it is put back. From then on it is again one at a time. -/
theorem overlap_of_overtaking_later :
    let before : List Handling := [.move (.pair 10 11), .move (.attach 0 0 none),
      .move (.begin 0 4), .move (.attach 0 0 none), .move (.begin 0 4),
      .move (.finish ⟨0, 0, 1, true⟩ .returned), .move (.finish ⟨1, 0, 2, true⟩ .returned)]
    let after : List Handling := [.move (.begin 0 4)]
    let s₀ := handle before (init 1)
    let s := handle after s₀
    overtakings 0 before (init 1) = 1 ∧ s₀.load 0 ≤ 1 ∧ overtakings 0 after s₀ = 0 ∧
      ⟨1, 0, 2, true⟩ ∈ s.out ∧ ∀ pinned, s.take 0 pinned = (s, none) := by
  intro before after s₀ s
  have hfirst : s₀.load 0 ≤ 1 := by decide +kernel
  have hzero : overtakings 0 after s₀ = 0 := by decide +kernel
  have hout : (⟨1, 0, 2, true⟩ : Taken) ∈ s.out := by decide +kernel
  have halone := (overlap_of_overtaking 1 before after 0).2.2 hfirst hzero
  exact ⟨by decide +kernel, hfirst, hzero, hout, (halone.2 ⟨1, 0, 2, true⟩ hout rfl).2.1⟩

end System

end ReadNotify
