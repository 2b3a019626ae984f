import ReadNotify.Proofs.Registration.Generations

/-!
# Callbacks That Use the Library

Handlers are arbitrary functions on worlds. A handler *performs* moves if
whatever it does to the system is a sequence of moves that finishes no dispatch
but those it began itself. For such handlers a dispatch, a cycle of a loop and
a cycle of a worker are nothing but sequences of moves, so what holds after all
sequences of moves holds after them.

They also finish nothing but what they began. A handler may therefore dispatch
and run cycles itself, of any loop and any worker, its own included, with
callbacks that do the same: what it does is once more what a handler may do.

That a dispatch strikes nothing from what is out but what it took needs the
invariant that no callback is out twice. It holds in every state that moves
have led to, and those are the states handlers are asked about.

## Main definitions

* `System.Nests`: Moves that finish only what they began.
* `Handler.Performs`, `Check.Performs`: Code of the program that makes moves.
* `World.served`: The connections that a cycle dispatches.

## Theorems

* `World.dispatch_of_none`, `World.dispatch_eq`, `World.dispatch_moves`: A dispatch is
  skipped, or it begins, calls and finishes.
* `World.runOnce_count`: A cycle counts whom it serves.
* `World.nests_dispatch`, `World.nests_runOnce`, `World.nests_workerCycle`:
  Dispatches and cycles are sequences of moves.
* `World.performs_workerCycle`, `Handler.performs_run`, `Handler.performs_seq`:
  What callbacks may do, to any depth.
-/

namespace ReadNotify

namespace System

variable {s t u : System} {p : Move → Prop}

/-- A state follows another by moves of some kind, and what was out is still. -/
structure Nests (p : Move → Prop) (s t : System) : Prop where
  leads : Leads p s t
  kept : ∀ x ∈ s.out, x ∈ t.out

theorem nests_refl (p : Move → Prop) (s : System) : Nests p s s :=
  ⟨leads_refl p s, fun _ h => h⟩

theorem nests_trans (h : Nests p s t) (h' : Nests p t u) : Nests p s u :=
  ⟨leads_trans h.leads h'.leads, fun x hx => h'.kept x (h.kept x hx)⟩

theorem nests_perform {m : Move} (hm : p m) (hout : (m.perform s).out = s.out) :
    Nests p s (m.perform s) :=
  ⟨leads_perform hm s, fun _ hx => hout.symm ▸ hx⟩

/-- The end of a dispatch settles one callback only. -/
theorem mem_out_finish {t x : Taken} (hx : x ∈ s.out) (hne : x.callback ≠ t.callback)
    (exit : Exit) : x ∈ (s.finish t exit).out := by
  rw [(Move.finish_frame t exit s).1]
  exact List.mem_filter.mpr ⟨hx, bne_iff_ne.mpr hne⟩

theorem Reached.placed (h : s.Reached) : s.Placed := by
  rcases h with ⟨n, ms, rfl⟩
  exact placed_run ms (placed_init n)

end System

variable {π δ : Type}

/-- Whatever a handler does to a system that moves have led to is a sequence of
    moves of some kind, and finishes only what it began. -/
def Handler.Performs (p : Move → Prop) (call : Handler δ) : Prop :=
  ∀ k data w, w.sys.Reached → System.Nests p w.sys (call k data w).1.sys

/-- The same for a backend. -/
def Check.Performs (p : Move → Prop) (check : Check π δ) : Prop :=
  ∀ window timeout b w, w.sys.Reached →
    System.Nests p w.sys (check window timeout b w).1.sys

/-- The moves that the library makes on its own in a cycle, besides beginning
    to dispatch somebody. -/
def Move.isCyclic : Move → Bool
  | .finish .. | .fillWindow _ | .countCycle _ | .countDispatches .. | .note _
  | .checkPoller .. | .keepPoller .. | .finishWorker _ | .switch .. => true
  | _ => false

/-- Whether a move strikes something from what is out. -/
def Move.ends : Move → Bool
  | .finish .. | .forget _ => true
  | _ => false

theorem Move.mem_out_perform {m : Move} (hm : m.ends = false) {s : System} {x : Taken}
    (hx : x ∈ s.out) : x ∈ (m.perform s).out := by
  rw [perform_out]
  cases m with
  | begin c size => exact List.mem_append_right _ hx
  | take c pinned => exact List.mem_append_right _ hx
  | finish t exit => exact absurd hm.symm Bool.false_ne_true
  | forget t => exact absurd hm.symm Bool.false_ne_true
  | _ => exact hx

/-- What becomes of a dispatch whose call ends like this. -/
def Exit.outcome (bytes : Nat) : Exit → Outcome
  | .returned => .delivered bytes
  | .panicked => .panicked

namespace World

variable {call : Handler δ} {p : Move → Prop}

/-- A dispatch without a callback in the slot has no effect at all. -/
theorem dispatch_of_none {c : ConnKey} {size : Nat} {w : World δ}
    (h : (w.sys.begin c size).2 = none) (call : Handler δ) :
    w.dispatch call c size = (w, .skipped) := by
  unfold System.begin at h
  unfold dispatch
  rcases htake : w.sys.take c true with ⟨s, _ | t⟩
  · rfl
  · rw [htake] at h
    exact absurd h (by simp only [reduceCtorEq, not_false_eq_true])

/-- Any other dispatch begins, calls once, and finishes. -/
theorem dispatch_eq {c : ConnKey} {size : Nat} {w : World δ} {t : Taken} {data : Bytes}
    (h : (w.sys.begin c size).2 = some (t, data)) (call : Handler δ) :
    let after := call t.callback data { w with sys := (w.sys.begin c size).1 }
    w.dispatch call c size =
      (⟨System.finish t after.2 after.1.sys, after.1.desk⟩, after.2.outcome data.length) := by
  unfold System.begin at h ⊢
  unfold dispatch
  rcases htake : w.sys.take c true with ⟨s, _ | x⟩ <;> rw [htake] at h
  · exact absurd h (by simp only [reduceCtorEq, not_false_eq_true])
  · rw [Option.some.injEq, Prod.mk.injEq] at h
    rcases h with ⟨rfl, rfl⟩
    dsimp only
    -- Both ways a call can end are ends of the dispatch.
    split <;> rename_i hcall <;> rw [hcall]
    · rfl
    · rfl

theorem dispatch_of_some {c : ConnKey} {size : Nat} {w : World δ} {t : Taken} {data : Bytes}
    (h : (w.sys.begin c size).2 = some (t, data)) (call : Handler δ) :
    (w.dispatch call c size).2 ≠ .skipped ∧
      (w.dispatch call c size).1.sys = System.finish t
        (call t.callback data { w with sys := (w.sys.begin c size).1 }).2
        (call t.callback data { w with sys := (w.sys.begin c size).1 }).1.sys := by
  rw [dispatch_eq h]
  refine ⟨?_, rfl⟩
  dsimp only
  cases (call t.callback data { w with sys := (w.sys.begin c size).1 }).2 with
  | returned => simp only [Exit.outcome, ne_eq, reduceCtorEq, not_false_eq_true]
  | panicked => simp only [Exit.outcome, ne_eq, reduceCtorEq, not_false_eq_true]

theorem skipped_iff (call : Handler δ) (c : ConnKey) (size : Nat) (w : World δ) :
    (w.dispatch call c size).2 = .skipped ↔ (w.sys.begin c size).2 = none := by
  rcases hb : (w.sys.begin c size).2 with _ | ⟨t, data⟩
  · rw [dispatch_of_none hb]
    exact iff_of_true rfl rfl
  · exact iff_of_false (dispatch_of_some hb call).1
      (by simp only [reduceCtorEq, not_false_eq_true])

/-- The moves of a dispatch are its beginning, what the callback does with the
    bytes that were read, and its end. -/
theorem dispatch_moves (hcall : call.Performs p) {c : ConnKey} {size : Nat} {w : World δ}
    (hw : w.sys.Reached) {t : Taken} {data : Bytes}
    (h : (w.sys.begin c size).2 = some (t, data)) :
    ∃ ms exit, (∀ m ∈ ms, p m) ∧
      (call t.callback data { w with sys := (w.sys.begin c size).1 }).1.sys =
        System.run (.begin c size :: ms) w.sys ∧
      (w.dispatch call c size).1.sys =
        System.run (.begin c size :: (ms ++ [.finish t exit])) w.sys ∧
      ∀ x ∈ w.sys.out, x ∈ (w.dispatch call c size).1.sys.out := by
  have hbegin : System.Leads (fun _ => True) w.sys (w.sys.begin c size).1 :=
    System.leads_perform (m := .begin c size) trivial w.sys
  rcases System.begin_some (Prod.ext rfl h) with ⟨hslot, hout⟩
  have hnests := hcall t.callback data { w with sys := (w.sys.begin c size).1 } (hw.leads hbegin)
  rcases hnests.leads with ⟨ms, hms, hrun⟩
  have hdispatch := (dispatch_of_some h call).2
  -- What was taken is still out, whatever the call did, and can be finished.
  have hends : (w.dispatch call c size).1.sys = (Move.finish t
      (call t.callback data { w with sys := (w.sys.begin c size).1 }).2).perform
      (call t.callback data { w with sys := (w.sys.begin c size).1 }).1.sys := by
    rw [hdispatch, Move.perform, if_pos (hnests.kept t (hout ▸ List.mem_cons_self))]
  have hwhole : (call t.callback data { w with sys := (w.sys.begin c size).1 }).1.sys =
      System.run (.begin c size :: ms) w.sys := hrun
  refine ⟨ms, (call t.callback data { w with sys := (w.sys.begin c size).1 }).2, hms, hwhole, ?_,
    fun x hx => ?_⟩
  · rw [hends, hwhole, ← List.cons_append, System.run_append]
    rfl
  · -- What was out before is another callback than the one in the slot.
    rw [hdispatch]
    exact System.mem_out_finish (hnests.kept x (hout ▸ List.mem_cons_of_mem t hx))
      (hw.placed.apart c t.callback hslot x hx) _

theorem nests_dispatch (hcall : call.Performs p) (hp : ∀ m : Move, m.isCyclic = true → p m)
    (c : ConnKey) (size : Nat) {w : World δ} (hw : w.sys.Reached)
    (hserved : (w.dispatch call c size).2 ≠ .skipped → p (.begin c size)) :
    System.Nests p w.sys (w.dispatch call c size).1.sys := by
  rcases hb : (w.sys.begin c size).2 with _ | ⟨t, data⟩
  · rw [dispatch_of_none hb]
    exact System.nests_refl p w.sys
  · rcases dispatch_moves hcall hw hb with ⟨ms, exit, hms, -, hrun, hkept⟩
    refine ⟨⟨_, fun m hm => ?_, hrun⟩, hkept⟩
    rcases List.mem_cons.mp hm with rfl | hm
    · exact hserved (dispatch_of_some hb call).1
    · rcases List.mem_append.mp hm with hm | hm
      · exact hms m hm
      · exact hp m (List.mem_singleton.mp hm ▸ rfl)

/-- The connections whose callbacks are called in the turns of the ready
    members. -/
def servedReady (call : Handler δ) (l : PollLoop) : List ConnId → World δ → List ConnKey
  | [], _ => []
  | id :: rest, w =>
    match w.sys.entry? l id with
    | none => servedReady call l rest w
    | some c =>
      (if (w.dispatch call c l.bufferSize).2 = .skipped then [] else [c]) ++
        servedReady call l rest (w.dispatch call c l.bufferSize).1

/-- The connections whose callbacks a cycle calls, in order. -/
def served (check : Check π δ) (call : Handler δ) (l : PollLoop) (b : π) (w : World δ) :
    List ConnKey :=
  if (w.sys.fillWindow l).2 = [] then []
  else
    match check (w.sys.fillWindow l).2 l.timeout b
      { w with sys := (w.sys.fillWindow l).1.countCycle l } with
    | (_, _, .error _) => []
    | (w, _, .ok ready) => servedReady call l ready w

theorem dispatchReady_count (call : Handler δ) (l : PollLoop) (ready : List ConnId)
    (w : World δ) : (w.dispatchReady call l ready).2 = (servedReady call l ready w).length := by
  induction ready generalizing w with
  | nil => rfl
  | cons id rest ih =>
      unfold dispatchReady servedReady
      rcases w.sys.entry? l id with _ | c
      · exact ih w
      · dsimp only
        rw [ih, List.length_append]
        -- A turn counts exactly if a callback was called in it.
        by_cases hskipped : (w.dispatch call c l.bufferSize).2 = .skipped
        · rw [if_pos hskipped, if_pos hskipped, List.length_nil, Nat.zero_add]
        · rw [if_neg hskipped, if_neg hskipped, List.length_singleton, Nat.add_comm]

/-- A cycle answers how many connections it has served. -/
theorem runOnce_count (check : Check π δ) (call : Handler δ) (l : PollLoop) (b : π)
    (w : World δ) : (w.runOnce check call l b).2.2 = (w.served check call l b).length := by
  unfold runOnce served
  dsimp only
  by_cases hempty : (w.sys.fillWindow l).2 = []
  · rw [if_pos hempty, if_pos hempty]
    rfl
  · rw [if_neg hempty, if_neg hempty]
    rcases check (w.sys.fillWindow l).2 l.timeout b
      { w with sys := (w.sys.fillWindow l).1.countCycle l } with ⟨w', b', e | ready⟩
    · rfl
    · exact dispatchReady_count call l ready w'

theorem nests_dispatchReady (hcall : call.Performs p)
    (hp : ∀ m : Move, m.isCyclic = true → p m) (l : PollLoop) (ready : List ConnId)
    {w : World δ} (hw : w.sys.Reached)
    (hserved : ∀ c ∈ servedReady call l ready w, p (.begin c l.bufferSize)) :
    System.Nests p w.sys (w.dispatchReady call l ready).1.sys := by
  induction ready generalizing w with
  | nil => exact System.nests_refl p w.sys
  | cons id rest ih =>
      unfold dispatchReady
      unfold servedReady at hserved
      rcases hentry : w.sys.entry? l id with _ | c <;> rw [hentry] at hserved
      · exact ih hw hserved
      · -- A turn without a call needs no leave to begin one.
        have hturn := nests_dispatch hcall hp c l.bufferSize hw fun hcalled => by
          refine hserved c (List.mem_append_left _ ?_)
          rw [if_neg hcalled]
          exact List.mem_singleton_self c
        exact System.nests_trans hturn (ih (hw.leads hturn.leads) fun d hd =>
          hserved d (List.mem_append_right _ hd))

/-- A cycle of a loop is a sequence of moves, whatever its backend is, if the
    backend and the callbacks make such moves only. -/
theorem nests_runOnce {check : Check π δ} (hcheck : check.Performs p) (hcall : call.Performs p)
    (hp : ∀ m : Move, m.isCyclic = true → p m) (l : PollLoop) (b : π) {w : World δ}
    (hw : w.sys.Reached) (hserved : ∀ c ∈ w.served check call l b, p (.begin c l.bufferSize)) :
    System.Nests p w.sys (w.runOnce check call l b).1.sys := by
  have hfill : System.Nests p w.sys (w.sys.fillWindow l).1 :=
    System.nests_perform (hp (.fillWindow l) rfl) rfl
  have hcount : System.Nests p (w.sys.fillWindow l).1 ((w.sys.fillWindow l).1.countCycle l) :=
    System.nests_perform (hp (.countCycle l) rfl) rfl
  have hstart := System.nests_trans hfill hcount
  unfold runOnce
  unfold served at hserved
  dsimp only
  by_cases hempty : (w.sys.fillWindow l).2 = []
  · rw [if_pos hempty]
    exact hstart
  · rw [if_neg hempty] at hserved ⊢
    -- The backend is asked in a state that moves have led to.
    have hask := System.nests_trans hstart (hcheck (w.sys.fillWindow l).2 l.timeout b
      { w with sys := (w.sys.fillWindow l).1.countCycle l } (hw.leads hstart.leads))
    rcases hasked : check (w.sys.fillWindow l).2 l.timeout b
      { w with sys := (w.sys.fillWindow l).1.countCycle l } with ⟨w', b', e | ready⟩ <;>
      rw [hasked] at hask hserved
    · exact System.nests_trans hask (System.nests_perform (hp (.note _) rfl) rfl)
    · have hturns := nests_dispatchReady hcall hp l ready (hw.leads hask.leads) hserved
      exact System.nests_trans (System.nests_trans hask hturns)
        (System.nests_perform (hp (.countDispatches l _) rfl) rfl)

theorem performs_checkPoller (hp : ∀ m : Move, m.isCyclic = true → p m) :
    Check.Performs p (checkPoller : Check Poller δ) := fun window _ b w _ =>
  System.nests_perform (hp (.checkPoller window b) rfl)
    (System.quiet_checkPoller window b w.sys).out

/-- A cycle of a worker is a sequence of moves, if the callbacks make such
    moves only. -/
theorem nests_workerCycle (hcall : call.Performs p) (hp : ∀ m : Move, m.isCyclic = true → p m)
    (hbegin : ∀ c size, p (.begin c size)) (k : WorkerKey) {w : World δ} (hw : w.sys.Reached) :
    System.Nests p w.sys (w.workerCycle call k).sys := by
  unfold workerCycle
  rcases w.sys.workers.get? k with _ | worker
  · exact System.nests_refl p w.sys
  · dsimp only
    by_cases hserving : w.sys.isServing k = true
    · rw [if_pos hserving]
      have hswitch : System.Nests p w.sys
          (w.onSys fun s => { s with thread := .worker k, held := [] }).sys :=
        System.nests_perform (hp (.switch (.worker k) []) rfl) rfl
      have hcycle := System.nests_trans hswitch (nests_runOnce (performs_checkPoller hp) hcall hp
        worker.loop worker.poller (hw.leads hswitch.leads) fun c _ =>
          hbegin c worker.loop.bufferSize)
      rcases hrun : (w.onSys fun s => { s with thread := .worker k, held := [] }).runOnce
        checkPoller call worker.loop worker.poller with ⟨w', poller, n⟩
      rw [hrun] at hcycle
      have hkeep : System.Nests p w'.sys ((Move.keepPoller k poller).perform w'.sys) :=
        System.nests_perform (hp (.keepPoller k poller) rfl) rfl
      -- Whoever ran the worker goes on with the locks it held.
      have hback : System.Nests p ((Move.keepPoller k poller).perform w'.sys)
          ((Move.switch w.sys.thread w.sys.held).perform
            ((Move.keepPoller k poller).perform w'.sys)) :=
        System.nests_perform (hp (.switch w.sys.thread w.sys.held) rfl) rfl
      have hall := System.nests_trans hcycle (System.nests_trans hkeep hback)
      split
      · exact hall
      · exact System.nests_trans hall (System.nests_perform (hp (.finishWorker k) rfl)
          (System.quiet_finishWorker k _).out)
    · rw [if_neg hserving]
      exact System.nests_refl p w.sys

/-- A callback may run a cycle of any worker, with callbacks that do the same. -/
theorem performs_workerCycle (hcall : call.Performs p)
    (hp : ∀ m : Move, m.isCyclic = true → p m) (hbegin : ∀ c size, p (.begin c size))
    (k : WorkerKey) (exit : Exit) :
    Handler.Performs p (fun _ _ (w : World δ) => (w.workerCycle call k, exit)) :=
  fun _ _ _ hw => nests_workerCycle hcall hp hbegin k hw

end World

namespace Handler

variable {call call' : Handler δ} {p : Move → Prop}

/-- A callback may make any moves that finish nothing. -/
theorem performs_run (ms : CallbackKey → Bytes → List Move) (exit : CallbackKey → Bytes → Exit)
    (hp : ∀ k data, ∀ m ∈ ms k data, p m) (hends : ∀ k data, ∀ m ∈ ms k data, m.ends = false) :
    Handler.Performs p
      (fun k data (w : World δ) => (w.onSys (System.run (ms k data)), exit k data)) := by
  intro k data w _
  refine ⟨⟨ms k data, hp k data, rfl⟩, fun x hx => ?_⟩
  exact System.run_preserves (q := fun s => x ∈ s.out)
    (fun m hm s hs => Move.mem_out_perform (hends k data m hm) hs) hx

/-- A callback may do one thing after another. -/
theorem performs_seq (h : call.Performs p) (h' : call'.Performs p) :
    Handler.Performs p (fun k data w => call' k data (call k data w).1) := by
  intro k data w hw
  have hfirst := h k data w hw
  exact System.nests_trans hfirst (h' k data _ (hw.leads hfirst.leads))

end Handler

end ReadNotify
