import ReadNotify.Proofs.Handles.Accounts
import ReadNotify.Proofs.Registration.Nesting
import ReadNotify.Proofs.Workers.Staff

/-!
# Callbacks That Abide

A callback is code of the program, and a program cannot do everything: it gives away
no handle that it does not have, and it registers nothing for a connection that was
closed. What it can do depends on the state in which it does it. A handler *abides* if
whatever it does is a sequence of moves each of which can be made at its turn, and if it
settles nothing but what it has taken itself.

That is closed under everything the library does with handlers. The caller of a
callback is suspended while the callback runs, between the beginning of a dispatch and
its end, so a dispatch with a callback that abides is a sequence of moves again, and so
is a cycle. A callback may dispatch and run cycles itself, to any depth.

## Main definitions

* `System.Abides`: A state follows another by moves that can be made.
* `Handler.Abides`, `Check.Abides`: Code of the program that makes such moves.

## Theorems

* `World.abides_dispatch`, `World.abides_runOnce`: Dispatches and cycles are such moves.
* `Handler.abides_run`, `Handler.abides_seq`, `World.abides_nested`: What callbacks may
  do, to any depth.
-/

namespace ReadNotify

namespace System

variable {s t u : System}

/-- A state follows another by moves that can be made, and what was out is still. -/
structure Abides (s t : System) : Prop where
  moves : ∃ ms : List Move, FitIn (ms.map .move) s ∧ t = run ms s
  kept : ∀ x ∈ s.out, x ∈ t.out

theorem Abides.fitLeads (h : Abides s t) : FitLeads s t := by
  rcases h.moves with ⟨ms, hms, rfl⟩
  exact ⟨ms.map .move, hms, (handle_moves ms s).symm⟩

theorem abides_refl (s : System) : Abides s s := ⟨⟨[], trivial, rfl⟩, fun _ hx => hx⟩

theorem fitIn_moves {ms ms' : List Move} : FitIn ((ms ++ ms').map .move) s ↔
    FitIn (ms.map .move) s ∧ FitIn (ms'.map .move) (run ms s) := by
  rw [List.map_append, fitIn_append, handle_moves]

theorem abides_trans (h : Abides s t) (h' : Abides t u) : Abides s u := by
  rcases h.moves with ⟨ms, hms, rfl⟩
  rcases h'.moves with ⟨ms', hms', rfl⟩
  exact ⟨⟨ms ++ ms', fitIn_moves.mpr ⟨hms, hms'⟩, (run_append ms ms' s).symm⟩,
    fun x hx => h'.kept x (h.kept x hx)⟩

theorem abides_perform {m : Move} (hm : m.Fits s) (hout : (m.perform s).out = s.out) :
    Abides s (m.perform s) := ⟨⟨[m], ⟨hm, trivial⟩, rfl⟩, fun _ hx => hout.symm ▸ hx⟩

/-- Sets of counters are made and never lost. -/
theorem counters_perform (m : Move) (s : System) :
    s.counters.size ≤ (m.perform s).counters.size := by
  refine @Staff.Shifts.preserves s.thread (fun _ x => s.counters.size ≤ x.counters)
    (fun _ _ x y hshift hx => ?_) [] _ _ _ (m.shifts_perform s) (Nat.le_refl s.counters.size)
  cases hshift with
  | idle hk => exact Nat.le_trans hx hk
  | founded _ _ _ => exact Nat.le_succ_of_le hx
  | _ => exact hx

theorem Abides.counters (h : Abides s t) : s.counters.size ≤ t.counters.size := by
  rcases h.moves with ⟨ms, -, rfl⟩
  exact run_preserves (q := fun u => s.counters.size ≤ u.counters.size)
    (fun m _ u hu => Nat.le_trans hu (counters_perform m u)) (Nat.le_refl _)

end System

variable {π δ : Type}

/-- Whatever a handler does to a system is a sequence of moves that can be made, and
    settles only what it took. -/
def Handler.Abides (call : Handler δ) : Prop :=
  ∀ k data w, w.sys.FitReached → System.Abides w.sys (call k data w).1.sys

/-- The same for a backend. -/
def Check.Abides (check : Check π δ) : Prop :=
  ∀ window timeout b w, w.sys.FitReached → System.Abides w.sys (check window timeout b w).1.sys

namespace World

variable {call : Handler δ} {check : Check π δ}

/-- The moves of a dispatch are its beginning, what the callback does with the bytes
    that were read, and its end. -/
theorem exists_body (hcall : call.Abides) {c : ConnKey} {size : Nat} {w : World δ}
    (hw : w.sys.FitReached) {t : Taken} {data : Bytes}
    (h : (w.sys.begin c size).2 = some (t, data)) :
    ∃ body : List Move, System.FitIn (body.map .move) (w.sys.begin c size).1 ∧
      t ∈ (System.run body (w.sys.begin c size).1).out ∧
      (call t.callback data ⟨(w.sys.begin c size).1, w.desk⟩).1.sys =
        System.run body (w.sys.begin c size).1 ∧
      System.Abides w.sys (w.dispatch call c size).1.sys := by
  have hbegin : System.FitLeads w.sys (w.sys.begin c size).1 :=
    System.fitLeads_perform (m := .begin c size) trivial
  rcases System.begin_some (Prod.ext rfl h) with ⟨hslot, hout⟩
  have habides := hcall t.callback data ⟨(w.sys.begin c size).1, w.desk⟩ (hw.fitLeads hbegin)
  rcases habides.moves with ⟨body, hbody, hrun⟩
  have ht := habides.kept t (hout ▸ List.mem_cons_self)
  rcases dispatch_of_some h call with ⟨-, hdispatch⟩
  generalize (call t.callback data ⟨(w.sys.begin c size).1, w.desk⟩).2 = exit at hdispatch
  refine ⟨body, hbody, hrun ▸ ht, hrun, ⟨?_, fun x hx => ?_⟩⟩
  · have hfits : System.FitIn ((body ++ [Move.finish t exit]).map .move) (w.sys.begin c size).1 :=
      System.fitIn_moves.mpr ⟨hbody, trivial, trivial⟩
    refine ⟨.begin c size :: (body ++ [.finish t exit]), ⟨trivial, hfits⟩, ?_⟩
    -- What was taken is still out, so it can be settled.
    rw [hrun] at hdispatch ht
    rw [hdispatch, System.run_cons, System.run_append]
    exact (if_pos ht).symm
  · -- What was out before is another callback than the one in the slot.
    rw [hdispatch]
    exact System.mem_out_finish (habides.kept x (hout ▸ List.mem_cons_of_mem t hx))
      (hw.allPlaced.1.livePlaces.apart c t.callback hslot x hx) exit

theorem abides_dispatch (hcall : call.Abides) (c : ConnKey) (size : Nat) {w : World δ}
    (hw : w.sys.FitReached) : System.Abides w.sys (w.dispatch call c size).1.sys := by
  rcases hb : (w.sys.begin c size).2 with _ | ⟨t, data⟩
  · rw [dispatch_of_none hb]
    exact System.abides_refl w.sys
  · rcases exists_body hcall hw hb with ⟨-, -, -, -, h⟩
    exact h

theorem abides_dispatchReady (hcall : call.Abides) (l : PollLoop) (ready : List ConnId)
    {w : World δ} (hw : w.sys.FitReached) :
    System.Abides w.sys (w.dispatchReady call l ready).1.sys := by
  induction ready generalizing w with
  | nil => exact System.abides_refl w.sys
  | cons id rest ih =>
      unfold dispatchReady
      rcases w.sys.entry? l id with _ | c
      · exact ih hw
      · have hturn := abides_dispatch hcall c l.bufferSize hw
        exact System.abides_trans hturn (ih (hw.fitLeads hturn.fitLeads))

/-- Up to the question to the backend a cycle turns the registry and counts. -/
theorem abides_scan (l : PollLoop) (s : System) :
    System.Abides s ((s.fillWindow l).1.countCycle l) :=
  System.abides_trans (System.abides_perform (m := .fillWindow l) trivial rfl)
    (System.abides_perform (m := .countCycle l) trivial rfl)

/-- A cycle of a loop is a sequence of moves, whatever its backend is, if backend and
    callbacks abide. -/
theorem abides_runOnce (hcheck : check.Abides) (hcall : call.Abides) (l : PollLoop) (b : π)
    {w : World δ} (hw : w.sys.FitReached) :
    System.Abides w.sys (w.runOnce check call l b).1.sys := by
  have hscan := abides_scan l w.sys
  unfold runOnce
  dsimp only
  by_cases hempty : (w.sys.fillWindow l).2 = []
  · rw [if_pos hempty]
    exact hscan
  · rw [if_neg hempty]
    have hask := System.abides_trans hscan (hcheck (w.sys.fillWindow l).2 l.timeout b
      { w with sys := (w.sys.fillWindow l).1.countCycle l } (hw.fitLeads hscan.fitLeads))
    rcases hasked : check (w.sys.fillWindow l).2 l.timeout b
      { w with sys := (w.sys.fillWindow l).1.countCycle l } with ⟨w', b', e | ready⟩ <;>
      rw [hasked] at hask
    · exact System.abides_trans hask (System.abides_perform (m := .note _) trivial rfl)
    · have hturns := abides_dispatchReady hcall l ready (hw.fitLeads hask.fitLeads)
      exact System.abides_trans (System.abides_trans hask hturns)
        (System.abides_perform (m := .countDispatches l _) trivial rfl)

theorem abides_checkPoller : Check.Abides (checkPoller : Check Poller δ) :=
  fun window _ b w _ => System.abides_perform (m := .checkPoller window b) trivial
    (System.quiet_checkPoller window b w.sys).out

/-- A callback may dispatch and run cycles, with callbacks that do the same. -/
theorem abides_nested (hcheck : check.Abides) (hcall : call.Abides) (exit : Exit) :
    (∀ c size, Handler.Abides fun _ _ (w : World δ) => ((w.dispatch call c size).1, exit)) ∧
      ∀ l b, Handler.Abides fun _ _ (w : World δ) => ((w.runOnce check call l b).1, exit) :=
  ⟨fun c size _ _ _ hw => abides_dispatch hcall c size hw,
    fun l b _ _ _ hw => abides_runOnce hcheck hcall l b hw⟩

end World

namespace Handler

variable {call call' : Handler δ}

/-- A callback may make any moves that can be made and settle nothing, whichever these
    are in the state it finds. -/
theorem abides_run (ms : CallbackKey → Bytes → World δ → List Move)
    (exit : CallbackKey → Bytes → World δ → Exit)
    (hfits : ∀ k data w, w.sys.FitReached → System.FitIn ((ms k data w).map .move) w.sys)
    (hends : ∀ k data w, ∀ m ∈ ms k data w, m.ends = false) :
    Handler.Abides fun k data w => (w.onSys (System.run (ms k data w)), exit k data w) := by
  intro k data w hw
  refine ⟨⟨ms k data w, hfits k data w hw, rfl⟩, fun x hx => ?_⟩
  exact System.run_preserves (q := fun s => x ∈ s.out)
    (fun m hm s hs => Move.mem_out_perform (hends k data w m hm) hs) hx

/-- A callback may do one thing after another. -/
theorem abides_seq (h : call.Abides) (h' : call'.Abides) :
    Handler.Abides fun k data w => call' k data (call k data w).1 := by
  intro k data w hw
  have hfirst := h k data w hw
  exact System.abides_trans hfirst (h' k data _ (hw.fitLeads hfirst.fitLeads))

end Handler

end ReadNotify
