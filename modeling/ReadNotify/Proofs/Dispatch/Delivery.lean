import ReadNotify.Proofs.Dispatch.Abiding
import ReadNotify.Proofs.Handles.Settlement

/-!
# What Becomes of a Dispatch

Between the beginning of a dispatch and its end the callback may have done anything:
replaced itself, moved its registration, closed its connection, given away the last
handle of it, dispatched others and been dispatched again. What the end does is decided
by the count alone that was taken with the callback. If it still stands, and so few
changes were made that it did not come around, nothing at all has happened to the
registration meanwhile: the slot is free, and the callback goes back into it or its
registration is cleared. If it does not stand, the dispatch has no business there any
more, and all it does is destroy the callback.

What is destroyed lets go of its handles, so connections may be closed by that which
had nothing to do with the dispatch. All others are left as the callback left them.

## Main definitions

* `Handler.recorded`: A handler with a record of the calls made to it.
* `System.Dismissed`: A callback has been destroyed and its registration cleared.
* `System.Discarded`: A callback has been destroyed and nothing else was done.

## Theorems

* `World.dispatch_recorded`: A dispatch calls once.
* `System.resumed_finish`, `System.dismissed_finish`: What a dispatch does if the count
  still stands.
* `System.discarded_finish`: What it does if not.
* `System.dispatch_settled`: Every outcome of a dispatch, whatever its callback does.
-/

namespace ReadNotify

variable {δ : Type}

/-- What a program that counts calls has on its desk. -/
def World.beside (w : World δ) (calls : List (CallbackKey × Bytes)) :
    World (δ × List (CallbackKey × Bytes)) := ⟨w.sys, w.desk, calls⟩

/-- A handler with a record of the calls that were made to it, and with what bytes. -/
def Handler.recorded (call : Handler δ) : Handler (δ × List (CallbackKey × Bytes)) :=
  fun k data w =>
    let after := call k data ⟨w.sys, w.desk.1⟩
    (after.1.beside (w.desk.2 ++ [(k, data)]), after.2)

namespace System

variable {s v : System}

/-- A dispatch of a connection with a callback in its slot begins with taking it and
    reading once. -/
theorem begin_eq {c : ConnKey} {k : CallbackKey} (hk : (s.slot c).callback = some k)
    (size : Nat) :
    let x : Taken := ⟨k, c, (s.slot c).generation, true⟩
    let read := (s.takenOut x).receive c size
    s.begin c size =
      (read.1.note (.dispatching (read.1.label c) read.2.length), some (x, read.2)) := by
  unfold begin take
  rw [hk]
  rfl

/-- Never is more read than there is room for. -/
theorem length_receive (c : ConnKey) (n : Nat) (s : System) : (s.receive c n).2.length ≤ n := by
  rcases hc : s.socket? c with _ | q
  · rw [receive_of_none hc]
    exact Nat.zero_le n
  · rw [(receive_of_some hc n).2.2]
    rcases Kernel.receive_cases s.kernel q n with ⟨sock, -, heq⟩ | ⟨-, hnone, -⟩
    · rw [heq]
      exact List.length_take_le n sock.inbox
    · rw [hnone]
      exact Nat.zero_le n

/-- The beginning of a dispatch changes no registration. -/
theorem changes_begin (c d : ConnKey) (size : Nat) (s : System) :
    (Move.begin d size).changes s c = 0 := by
  refine Move.changes_of_registry_eq rfl ?_
  rcases begin_cases d size s with ⟨-, heq⟩ | ⟨x, hsome, hconn, -, -, record, heq⟩
  · rw [Move.perform, heq]
  · have hquiet := quiet_trans (quiet_receive d size (s.takenOut x)) (quiet_note record _)
    rw [Move.perform, heq, hquiet.slot, slot_takenOut x s d hconn hsome]
    split
    · next hc => rw [hc]
    · rfl

/-! ### The count still stands -/

/-- What returns while its count still stands goes back, into a slot in which nothing
    else has changed since it was there. -/
theorem resumed_finish {r : Nat} {before after : List Move} {c : ConnKey} {x : Taken}
    (hslot : ((run before (init r)).slot c).callback = some x.callback)
    (hout : x ∈ (run after (run before (init r))).out)
    (hbound : changesIn c (before ++ after) (init r) < UInt64.size)
    (hsame : ((run after (run before (init r))).slot c).generation = x.generation) :
    let v := run after (run before (init r))
    v.finish x .returned =
        (v.updateSlot x.conn fun y =>
          { y with callback := some x.callback }).settleTaken x.callback ∧
      (v.finish x .returned).slot c = (run before (init r)).slot c := by
  intro v
  have hsplit := changesIn_append c before after (init r)
  have hplaced := placed_run before (placed_init r)
  have hstamped : (run before (init r)).Stamped c (0 + changesIn c before (init r)) :=
    stamped_run before (placed_init r) (stamped_init r c) (by omega)
  have hstamped' := stamped_run after hplaced hstamped (by omega)
  have htraced := traced_run after hplaced hstamped (hplaced.traced hslot _) (by omega)
  rcases htraced.out x hout rfl with ⟨hconn, hstamp⟩
  -- Counts that are the same and have not come around are of the same moment.
  have hzero : changesIn c after (run before (init r)) = 0 := by
    rw [hstamped'.generation, hstamp] at hsame
    have hcount := ofNat_inj (by omega) (by omega) hsame
    omega
  rw [hzero, Nat.add_zero] at hstamped' htraced
  have hmay : v.mayReturn x = true := hstamped'.mayReturn hout hconn hstamp
  rcases htraced.same rfl with ⟨hregistry, hgeneration⟩
  rcases putBack_cases x v with ⟨-, -, hback⟩ | ⟨hrefused, -, -⟩
  · refine ⟨hback, ?_⟩
    have hfilled := (restore_of_mayReturn hmay c).2
    rw [restore, if_pos hmay, if_pos hconn.symm] at hfilled
    rw [finish, hback]
    refine hfilled.trans ?_
    dsimp only
    rw [hregistry, hgeneration, ← hslot]
  · exact absurd (hrefused.symm.trans hmay) Bool.false_ne_true

/-- A callback has been destroyed, and its connection is registered nowhere. -/
structure Dismissed (c : ConnKey) (k : CallbackKey) (u : System) : Prop where
  ended : u.hasEnded k
  slot : (u.slot c).registry = none ∧ (u.slot c).callback = none
  unlisted : ∀ q id, u.ident c = some id → id ∉ (u.registry q).order

/-- What panicked is unregistered, if the count still stands. -/
theorem dismissed_finish (hv : v.FitReached) {x : Taken} (hx : x ∈ v.out)
    (hsame : (v.slot x.conn).generation = x.generation) :
    Dismissed x.conn x.callback (v.finish x .panicked) := by
  have henrolled := enrolled_finish hv.enrolled x .panicked
  rcases giveUp_eq x v with ⟨v', hnoted, hgiveUp⟩
  have hdestroy := unwinds_destroy x.callback (v'.detachGeneration x.conn x.generation).1
  have hdetach := unwinds_detachGeneration x.conn x.generation v'
  have hcleared : ((v'.detachGeneration x.conn x.generation).1.slot x.conn).registry = none := by
    rw [detachGeneration,
      if_pos ((congrArg Slot.generation (hnoted.quiet.slot x.conn)).trans hsame)]
    exact registry_detach_self x.conn v'
  have hnone : ((v.finish x .panicked).slot x.conn).registry = none := by
    rw [finish, hgiveUp]
    exact hdestroy.unwound.registry_none hcleared
  refine ⟨?_, ⟨hnone, callback_of_unregistered (fun k => henrolled.filled x.conn k) hnone⟩,
    fun q id hid => henrolled.notMem_order hid ?_⟩
  · -- It was living before, and whatever else ends by clearing the slot does not revive it.
    have hended : ∀ w : System, Unwinds v w → (w.destroy x.callback).hasEnded x.callback := by
      intro w hw
      refine ⟨?_, (destroys_destroy x.callback w).isLive⟩
      rw [(unwinds_destroy x.callback w).unwound.callbacks, hw.unwound.callbacks]
      exact lt_size_of_isLive (hv.allPlaced.1.livePlaces.taken x hx)
    rw [finish, hgiveUp]
    exact (hasEnded_congr (callbacks_settleTaken _ _) _).mpr
      (hended _ (hnoted.unwinds.trans hdetach))
  · rw [hnone]
    simp only [ne_eq, reduceCtorEq, not_false_eq_true]

/-! ### The count does not stand -/

/-- A callback has been destroyed, and nothing else was done. What was closed by that
    has lost its last handle, and everything else is as it was. -/
structure Discarded (k : CallbackKey) (v u : System) : Prop where
  ended : u.hasEnded k
  closed : ∀ c, v.isConnected c = true → u.isConnected c = false →
    v.isHeld c = true ∧ u.isHeld c = false ∧ Cut v u c
  spared : ∀ c, u.isConnected c = v.isConnected c → Spared v u c
  aligned : ∀ q, (v.registry q).Aligned (u.registry q)

/-- What was refused is destroyed, however it ended. -/
theorem discarded_finish (hv : v.FitReached) {x : Taken} (hx : x ∈ v.out)
    (hne : (v.slot x.conn).generation ≠ x.generation) (exit : Exit) :
    Discarded x.callback v (v.finish x exit) := by
  have hleads : v.finish x exit = (Move.finish x exit).perform v := (if_pos hx).symm
  have hu : (v.finish x exit).FitReached := hleads ▸ hv.fitLeads (fitLeads_perform trivial)
  have hcarries : Carries v (v.finish x exit) :=
    hleads ▸ carries_handling (e := .move (.finish x exit)) hv.wired rfl
  -- Apart from the log it is destroyed where it is.
  obtain ⟨w, hnoted, hfinish⟩ : ∃ w, Noted v w ∧
      v.finish x exit = (w.destroy x.callback).settleTaken x.callback := by
    rcases refused_of_generation_ne hne with ⟨-, hputBack, -, record, hgiveUp⟩
    cases exit with
    | returned => exact ⟨v, ⟨v.held, v.log, rfl⟩, congrArg Prod.fst hputBack⟩
    | panicked => exact ⟨v.note record, ⟨v.held, _, rfl⟩, hgiveUp⟩
  have hcollapses : Collapses (fun _ => False) v (v.finish x exit) := by
    rw [hfinish]
    exact (hnoted.outset hv.enrolled).collapses (fells_destroy x.callback w)
      (trails_settleTaken x.callback _)
  have hyields : Yields (fun _ => False) w (w.destroy x.callback) := yields_destroy x.callback w
  refine ⟨?_, fun c hopen hclosed => ⟨hv.isHeld hopen, ?_,
    hcollapses.cut hv.wired hu.enrolled hu.wired hopen hclosed⟩, fun c hsame =>
      hcollapses.spared hv.enrolled hv.wired hu.wired hcarries not_false hsame,
    hcollapses.aligned⟩
  · have hlive : w.isLive x.callback = true := by
      rw [isLive_congr hnoted.quiet.callbacks]
      exact hv.allPlaced.1.livePlaces.taken x hx
    rw [hfinish]
    exact hasEnded_destroy hlive
  · -- With a handle left it would be open.
    rw [hfinish] at hclosed ⊢
    refine Bool.eq_false_iff.mpr fun hheld => Bool.false_ne_true (hclosed.symm.trans ?_)
    rcases hnoted with ⟨held, log, rfl⟩
    exact hyields.stays c not_false hopen hheld

end System

namespace World

/-- A record of the calls changes nothing, and after a dispatch it has one call more. -/
theorem dispatch_recorded {c : ConnKey} {size : Nat} {w : World δ} {x : Taken} {data : Bytes}
    (h : (w.sys.begin c size).2 = some (x, data)) (call : Handler δ)
    (calls : List (CallbackKey × Bytes)) :
    (w.beside calls).dispatch call.recorded c size =
      ((w.dispatch call c size).1.beside (calls ++ [(x.callback, data)]),
        (w.dispatch call c size).2) := by
  rw [dispatch_eq h, dispatch_eq (w := w.beside calls) h]
  rfl

end World

namespace System

/-- Every outcome of a dispatch, in any state that can be reached. Without a callback in
    the slot nothing happens at all. Otherwise the callback is called once, with what one
    reading gave after it was taken, and may do anything that can be done, dispatches
    included, before it returns or panics. If the count that was taken with it still
    stands then, it is back in the slot as it was, or its connection is registered
    nowhere; if not, it is destroyed, and all that is closed by this has lost its last
    handle by it. The connection may see no more changes than there are counts. -/
theorem dispatch_settled (r : Nat) (ms : List Move) (hms : FitIn (ms.map .move) (init r))
    (call : Handler δ) (desk : δ) (c : ConnKey) (size : Nat) :
    let w : World δ := ⟨run ms (init r), desk⟩
    ((w.sys.slot c).callback = none → w.dispatch call c size = (w, .skipped)) ∧
    ∀ k, (w.sys.slot c).callback = some k →
      let x : Taken := ⟨k, c, (w.sys.slot c).generation, true⟩
      let read := (w.sys.takenOut x).receive c size
      let lent : World δ := ⟨read.1.note (.dispatching (read.1.label c) read.2.length), desk⟩
      let after := call k read.2 lent
      let u := w.dispatch call c size
      read.2.length ≤ size ∧
      (∀ calls, (w.beside calls).dispatch call.recorded c size =
        (u.1.beside (calls ++ [(k, read.2)]), u.2)) ∧
      (call.Abides → ∃ body : List Move, FitIn (body.map .move) lent.sys ∧
        x ∈ (run body lent.sys).out ∧ after.1.sys = run body lent.sys) ∧
      ∀ body : List Move, FitIn (body.map .move) lent.sys → x ∈ (run body lent.sys).out →
        after.1.sys = run body lent.sys →
        let v := after.1.sys
        u.1.desk = after.1.desk ∧
        (after.2 = .returned → u.2 = .delivered read.2.length ∧
          ((v.slot c).generation = x.generation →
            changesIn c ms (init r) + changesIn c body lent.sys < UInt64.size →
            u.1.sys = (v.updateSlot c fun y => { y with callback := some k }).settleTaken k ∧
              u.1.sys.slot c = w.sys.slot c)) ∧
        (after.2 = .panicked → u.2 = .panicked ∧
          ((v.slot c).generation = x.generation → Dismissed c k u.1.sys)) ∧
        ((v.slot c).generation ≠ x.generation → Discarded k v u.1.sys) := by
  intro w
  have hw : w.sys.FitReached := ⟨r, ms.map .move, hms, (handle_moves ms (init r)).symm⟩
  refine ⟨fun hnone =>
    World.dispatch_of_none (congrArg Prod.snd (begin_of_none hnone size)) call, ?_⟩
  intro k hk x read lent after u
  have hbegin : w.sys.begin c size = (lent.sys, some (x, read.2)) := begin_eq hk size
  have htaken : (w.sys.begin c size).2 = some (x, read.2) := congrArg Prod.snd hbegin
  have hlent : (Move.begin c size).perform w.sys = lent.sys := congrArg Prod.fst hbegin
  -- The dispatch is what the callback does, and then the end it comes to.
  have hu : u = (⟨after.1.sys.finish x after.2, after.1.desk⟩, after.2.outcome read.2.length) := by
    have heq := World.dispatch_eq htaken call
    rw [hbegin] at heq
    exact heq
  refine ⟨length_receive c size _, World.dispatch_recorded htaken call, fun habides => ?_,
    fun body hbody hx hafter => ?_⟩
  · rcases World.exists_body habides hw htaken with ⟨body, hbody, hx, hafter, -⟩
    rw [hbegin] at hbody hx hafter
    exact ⟨body, hbody, hx, hafter⟩
  · have hv : after.1.sys.FitReached := by
      have hleads := fitLeads_perform (s := w.sys) (m := .begin c size) trivial
      rw [hlent] at hleads
      rw [hafter]
      exact (hw.fitLeads hleads).fitLeads ⟨body.map .move, hbody, (handle_moves body lent.sys).symm⟩
    rw [← hafter] at hx
    rw [hu]
    refine ⟨rfl, fun hexit => ?_, fun hexit => ?_, fun hne => discarded_finish hv hx hne after.2⟩
    · rw [hexit]
      refine ⟨rfl, fun hsame hbound => ?_⟩
      have hrun : after.1.sys = run (.begin c size :: body) (run ms (init r)) := by
        rw [run_cons, hafter, ← hlent]
      -- The changes are counted from the beginning, and a dispatch is none by itself.
      have hcount : changesIn c (ms ++ .begin c size :: body) (init r) =
          changesIn c ms (init r) + changesIn c body lent.sys := by
        rw [changesIn_append, changesIn, changes_begin, Nat.zero_add, ← hlent]
      rw [hrun] at hsame hx
      have hback := resumed_finish hk hx (hcount ▸ hbound) hsame
      rw [← hrun] at hback
      exact hback
    · rw [hexit]
      exact ⟨rfl, fun hsame => dismissed_finish hv hx hsame⟩

/-- A callback registers another one in its place, and panics. The new registration
    stands. -/
theorem dispatch_settled_replaced :
    let ms : List Move := [.pair 10 11, .attach 0 0 none, .write 1 [97, 98]]
    let call : Handler Unit := fun _ _ w => (w.onSys (run [.attach 0 0 none]), .panicked)
    let w : World Unit := ⟨run ms (init 1), ()⟩
    let u := w.dispatch call 0 4
    FitIn (ms.map .move) (init 1) ∧ u.2 = .panicked ∧
      Discarded 0 (run [.attach 0 0 none] (w.sys.begin 0 4).1) u.1.sys ∧
      u.1.sys.slot 0 = ⟨some 1, some 0, 2⟩ := by
  intro ms call w u
  have hms : FitIn (ms.map .move) (init 1) :=
    ⟨trivial, Move.fits_attach (by decide) 0, trivial, trivial⟩
  have hk : (w.sys.slot 0).callback = some 0 := by decide
  rcases (dispatch_settled 1 ms hms call () 0 4).2 0 hk with ⟨-, -, -, hbody⟩
  rcases hbody [.attach 0 0 none]
    ⟨Move.fits_attach (by decide +kernel) 0, trivial⟩ (by decide +kernel) rfl with
    ⟨-, -, hpanicked, hchanged⟩
  exact ⟨hms, (hpanicked rfl).1, hchanged (by decide +kernel), by decide +kernel⟩

end System

end ReadNotify
