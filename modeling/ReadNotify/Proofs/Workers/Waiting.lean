import ReadNotify.Proofs.Workers.Rolls
import Mathlib.Data.Nat.Find
import Mathlib.Logic.Relation

/-!
# Who Waits for Whom

Registering and shutting down wait for workers, and workers call both from their
callbacks. So whoever waits may be waited for himself, and a cycle of such waits would
never end.

The threads of a program and the workers of one notifier take turns here. A turn takes a
call from one wait to the next, and a call may also be left where it could go on at
once, so every order is allowed in which calls alternate at their waits, and more. What
else is done meanwhile, on the same threads or on others, are moves.

That workers are numbered as they are started gives the waits a direction. A worker
stops later ones only, and in a cycle it takes somebody who waits for an earlier one.
Whoever does so has found it set aside, and is then neither set aside nor reaped
itself. Nothing keeps others from stopping it, though. A worker that has set itself
aside goes on with its callback, and if it shuts the notifier down again, it stops its
successor and waits for it, which may be waiting for that very callback.

## Main definitions

* `Party`, `Crew`, `Turn`, `Crew.perform`: Who calls, and what happens next.
* `Crew.Joins`: Somebody waits for a worker that has not ended.
* `Standing`, `Standing.Step`: What the waits depend on, and everything a turn can do.
* `Standing.Sound`: The direction of the waits.
* `Standing.Facing`, `Standing.OnCycle`: The two waits without which there is no cycle.

## Theorems

* `Standing.sound_step`, `Crew.step_perform`, `Crew.run_keeps`: Steps and runs.
* `Standing.Sound.facing`, `Standing.cycle_step`: What cycles look like, and that they
  stay.
* `joins_cycle_faces`: There are no other cycles.
* `joins_cycle_formed`: There is one.
-/

namespace ReadNotify

/-- Somebody who calls: a thread of the program, or a worker in a callback. -/
inductive Party where
  | outside (i : Nat)
  | worker (k : WorkerKey)
  deriving DecidableEq, Repr

namespace Party

/-- The thread of a party. What is told apart is which worker it is, if it is one. -/
def thread : Party → Thread
  | outside _ => .caller
  | worker k => .worker k

/-- A party on the thread of a worker is that worker. -/
theorem thread_eq_worker (p : Party) (k : WorkerKey) : p.thread = .worker k ↔ p = worker k := by
  cases p with
  | outside i => simp only [thread, reduceCtorEq]
  | worker j => simp only [thread, Thread.worker.injEq, worker.injEq]

end Party

namespace System

/-- A party has its turn. It holds no lock then, since nobody keeps one while he waits. -/
def handTo (p : Party) (s : System) : System := { s with thread := p.thread, held := [] }

end System

/-! ### Standings -/

/-- How things stand with the workers of one notifier and those that wait for them. -/
structure Standing extends Roll where
  waits : Party → Option Wait

namespace Standing

variable {x y : Standing} {p q r : Party}

/-- A party waits for a worker that has not ended. -/
def Joins (x : Standing) (p q : Party) : Prop :=
  ∃ w, x.waits p = some w ∧ q = .worker w.worker ∧ x.up w.worker = true

/-- A party is not held up by anybody. -/
def IsFree (x : Standing) (p : Party) : Prop := ∀ w, x.waits p = some w → x.up w.worker = false

/-- Everything one step can do. -/
inductive Step (x : Standing) : Standing → Prop where
  | idle : Step x x
  /-- A worker leaves its loop, which it does between its calls. -/
  | finished (k : WorkerKey) (hidle : x.waits (.worker k) = none) :
      Step x { x with up := Function.update x.up k false }
  /-- A call is over, or begins and has nobody to wait for. -/
  | ended (p : Party) (hfree : x.IsFree p) :
      Step x { x with waits := Function.update x.waits p none }
  /-- A call begins to wait for the worker that was set aside. -/
  | reaping (p : Party) (k : WorkerKey) (hfree : x.IsFree p) (hdetached : x.detached = some k)
      (hother : p ≠ .worker k) :
      Step x
        { x with
          detached := none
          waits := Function.update x.waits p (some (.reap k)) }
  /-- A registration ends with a new worker. -/
  | started (p : Party) (hfree : x.IsFree p) (hvacant : x.running = none) :
      Step x
        { x with
          running := some x.size
          up := Function.update x.up x.size true
          size := x.size + 1
          waits := Function.update x.waits p none }
  /-- A shutdown has told the running worker to stop and waits for it. -/
  | halting (p : Party) (k : WorkerKey) (hfree : x.IsFree p) (hrunning : x.running = some k)
      (hother : p ≠ .worker k) (hlisted : ∀ j, p = .worker j → j < x.size) :
      Step x
        { x with
          running := none
          told := Function.update x.told k true
          waits := Function.update x.waits p (some (.halt k)) }
  /-- The shutdown of a worker by itself ends with its being set aside. -/
  | aside (k : WorkerKey) (hfree : x.IsFree (.worker k)) (hrunning : x.running = some k) :
      Step x
        { x with
          running := none
          detached := some k
          told := Function.update x.told k true
          waits := Function.update x.waits (.worker k) none }

/-- What is true of the workers of a notifier and of those that wait for them. Workers
    are numbered in the order in which they were started. -/
structure Sound (x : Standing) : Prop where
  /-- The running worker is the latest. -/
  newest : ∀ k, x.running = some k → k + 1 = x.size
  listed : ∀ k, x.told k = true → k < x.size
  aside : ∀ k, x.detached = some k → x.told k = true
  awaited : ∀ p w, x.waits p = some w → x.told w.worker = true
  /-- A worker stops later ones only. -/
  upward : ∀ j k, x.waits (.worker j) = some (.halt k) → j < k
  others : ∀ k, x.waits (.worker k) ≠ some (.reap k)
  /-- Nobody reaps one that is later than the one that is set aside. -/
  order : ∀ m p k, x.detached = some m → x.waits p = some (.reap k) → k ≤ m
  /-- Whoever reaps an earlier one than itself is neither set aside nor reaped. -/
  spared : ∀ k m p, x.waits (.worker k) = some (.reap m) → m < k →
    x.detached ≠ some k ∧ x.waits p ≠ some (.reap k)

/-- A wait that is still there after one was ended was there before, and is another one.
    -/
theorem of_update_none {w : Wait} (h : Function.update x.waits p none q = some w) :
    q ≠ p ∧ x.waits q = some w := by
  rw [Function.update_apply] at h
  split at h
  · exact absurd h (by simp only [reduceCtorEq, not_false_eq_true])
  · rename_i hq
    exact ⟨hq, h⟩

/-- A wait that is there after one was begun is the new one, or was there before. -/
theorem of_update_some {v w : Wait} (h : Function.update x.waits p (some v) q = some w) :
    (q = p ∧ w = v) ∨ (q ≠ p ∧ x.waits q = some w) := by
  rw [Function.update_apply] at h
  split at h
  · rename_i hq
    exact Or.inl ⟨hq, (Option.some.inj h).symm⟩
  · rename_i hq
    exact Or.inr ⟨hq, h⟩

/-- Who was told stays told. -/
theorem told_update {k j : WorkerKey} (h : x.told j = true) :
    Function.update x.told k true j = true := by
  rw [Function.update_apply]
  split
  · rfl
  · exact h

/-- A call that stops a worker does not reap one. -/
theorem of_update_halt {k m : WorkerKey}
    (h : Function.update x.waits p (some (.halt k)) q = some (.reap m)) :
    x.waits q = some (.reap m) := by
  rcases of_update_some h with ⟨-, hreap⟩ | ⟨-, hold⟩
  · exact absurd hreap (by simp only [reduceCtorEq, not_false_eq_true])
  · exact hold

/-- Whoever was told, the running worker included, is one of the workers. -/
theorem listed_told (h : Sound x) {j k : WorkerKey} (hrunning : x.running = some k)
    (hj : Function.update x.told k true j = true) : j < x.size := by
  by_cases hjk : j = k
  · rw [hjk, ← h.newest k hrunning]
    exact Nat.lt_succ_self k
  · rw [Function.update_of_ne hjk] at hj
    exact h.listed j hj

/-- One call less does no harm. -/
theorem sound_ended (h : Sound x) (p : Party) :
    Sound { x with waits := Function.update x.waits p none } where
  newest := h.newest
  listed := h.listed
  aside := h.aside
  awaited q w hw := h.awaited q w (of_update_none hw).2
  upward j k hw := h.upward j k (of_update_none hw).2
  others k hw := h.others k (of_update_none hw).2
  order m q k hm hw := h.order m q k hm (of_update_none hw).2
  spared k m q hw hlt :=
    ⟨(h.spared k m q (of_update_none hw).2 hlt).1,
      fun hq => (h.spared k m q (of_update_none hw).2 hlt).2 (of_update_none hq).2⟩

/-- Whoever begins to reap finds somebody who was told, and leaves nobody set aside. -/
theorem sound_reaping (h : Sound x) {k : WorkerKey} (hdetached : x.detached = some k)
    (hother : p ≠ .worker k) :
    Sound
      { x with
        detached := none
        waits := Function.update x.waits p (some (.reap k)) } where
  newest := h.newest
  listed := h.listed
  aside := nofun
  awaited q w hw := by
    rcases of_update_some hw with ⟨-, rfl⟩ | ⟨-, hold⟩
    · exact h.aside k hdetached
    · exact h.awaited q w hold
  upward j m hw := by
    rcases of_update_some hw with ⟨-, hhalt⟩ | ⟨-, hold⟩
    · exact absurd hhalt (by simp only [reduceCtorEq, not_false_eq_true])
    · exact h.upward j m hold
  others j hw := by
    rcases of_update_some hw with ⟨rfl, hreap⟩ | ⟨-, hold⟩
    · exact hother (congrArg _ (Wait.reap.inj hreap))
    · exact h.others j hold
  order := nofun
  spared j m q hw hlt := by
    refine ⟨nofun, fun hq => ?_⟩
    rcases of_update_some hw with ⟨rfl, hreap⟩ | ⟨-, hold⟩
    · -- The new one waits for an earlier one, and nobody reaps later ones than that.
      cases hreap
      rcases of_update_some hq with ⟨-, hself⟩ | ⟨-, hreaped⟩
      · exact absurd (Wait.reap.inj hself) (Nat.ne_of_gt hlt)
      · exact absurd (h.order k q j hdetached hreaped) (Nat.not_le_of_lt hlt)
    · rcases of_update_some hq with ⟨-, hreap⟩ | ⟨-, hreaped⟩
      · exact (h.spared j m q hold hlt).1 (hdetached.trans (congrArg _ (Wait.reap.inj hreap).symm))
      · exact (h.spared j m q hold hlt).2 hreaped

/-- A worker that stops the running one stops a later one. -/
theorem sound_halting (h : Sound x) {k : WorkerKey} (hrunning : x.running = some k)
    (hother : p ≠ .worker k) (hlisted : ∀ j, p = .worker j → j < x.size) :
    Sound
      { x with
        running := none
        told := Function.update x.told k true
        waits := Function.update x.waits p (some (.halt k)) } where
  newest := nofun
  listed _ hj := listed_told h hrunning hj
  aside j hj := told_update (h.aside j hj)
  awaited q w hw := by
    rcases of_update_some hw with ⟨-, rfl⟩ | ⟨-, hold⟩
    · exact Function.update_self _ _ _
    · exact told_update (h.awaited q w hold)
  upward j m hw := by
    rcases of_update_some hw with ⟨hj, hhalt⟩ | ⟨-, hold⟩
    · -- The running worker is the latest, and this is another one.
      have hlt := hlisted j hj.symm
      rw [← h.newest k hrunning] at hlt
      rw [Wait.halt.inj hhalt]
      refine Nat.lt_of_le_of_ne (Nat.le_of_lt_succ hlt) fun hjk => hother ?_
      rw [← hj, hjk]
    · exact h.upward j m hold
  others j hw := h.others j (of_update_halt hw)
  order m q j hm hw := h.order m q j hm (of_update_halt hw)
  spared j m q hw hlt :=
    ⟨(h.spared j m q (of_update_halt hw) hlt).1,
      fun hq => (h.spared j m q (of_update_halt hw) hlt).2 (of_update_halt hq)⟩

/-- A new worker is the latest, and nobody waits for it. -/
theorem sound_started (h : Sound x) :
    Sound
      { x with
        running := some x.size
        up := Function.update x.up x.size true
        size := x.size + 1 } where
  newest _ hk := congrArg (· + 1) (Option.some.inj hk).symm
  listed _ hk := Nat.lt_succ_of_lt (h.listed _ hk)
  aside := h.aside
  awaited := h.awaited
  upward := h.upward
  others := h.others
  order := h.order
  spared := h.spared

/-- A worker that sets itself aside waits for nobody, so it reaps nobody. -/
theorem sound_aside (h : Sound x) {k : WorkerKey} (hrunning : x.running = some k)
    (hidle : x.waits (.worker k) = none) :
    Sound
      { x with
        running := none
        detached := some k
        told := Function.update x.told k true } where
  newest := nofun
  listed _ hj := listed_told h hrunning hj
  aside j hj := by
    cases hj
    exact Function.update_self _ _ _
  awaited q w hw := told_update (h.awaited q w hw)
  upward := h.upward
  others := h.others
  order m q j hm hw := by
    -- Whoever is reaped exists, and the running worker is the latest.
    cases hm
    have hlt := h.listed j (h.awaited q _ hw)
    rw [← h.newest k hrunning] at hlt
    exact Nat.le_of_lt_succ hlt
  spared j m q hw hlt := by
    refine ⟨fun hj => ?_, (h.spared j m q hw hlt).2⟩
    cases hj
    exact absurd (hidle.symm.trans hw) (by simp only [reduceCtorEq, not_false_eq_true])

/-- Every step keeps that. -/
theorem sound_step (hstep : Step x y) (h : Sound x) : Sound y := by
  -- A start and a setting aside end a call as well.
  cases hstep with
  | idle => exact h
  | finished k =>
      exact ⟨h.newest, h.listed, h.aside, h.awaited, h.upward, h.others, h.order, h.spared⟩
  | ended p => exact sound_ended h p
  | reaping p k _ hdetached hother => exact sound_reaping h hdetached hother
  | started p _ _ => exact sound_started (sound_ended h p)
  | halting p k _ hrunning hother hlisted => exact sound_halting h hrunning hother hlisted
  | aside k _ hrunning =>
      exact sound_aside (sound_ended h (.worker k)) hrunning (Function.update_self _ _ _)

/-! ### Cycles -/

/-- A worker that was told to stop waits for a later one that it has stopped, and that
    one waits for an earlier one than itself that was set aside. -/
structure Facing (x : Standing) (j k m : WorkerKey) : Prop where
  halts : x.waits (.worker j) = some (.halt k)
  told : x.told j = true
  later : j < k
  reaps : x.waits (.worker k) = some (.reap m)
  earlier : m < k

/-- Only workers are waited for, and only those that were told to stop. -/
theorem Sound.target (h : Sound x) (hjoins : x.Joins p q) :
    ∃ k, q = .worker k ∧ x.told k = true := by
  rcases hjoins with ⟨w, hw, rfl, -⟩
  exact ⟨w.worker, rfl, h.awaited p w hw⟩

/-- Nobody waits for himself. -/
theorem Sound.not_self (h : Sound x) (p : Party) : ¬ x.Joins p p := by
  rintro ⟨w, hw, rfl, -⟩
  cases w with
  | reap k => exact h.others k hw
  | halt k => exact absurd (h.upward k k hw) (Nat.lt_irrefl k)

/-- Waits lead from one party to another and back. -/
def OnCycle (x : Standing) (p q : Party) : Prop :=
  Relation.ReflTransGen x.Joins p q ∧ Relation.ReflTransGen x.Joins q p

/-- From everybody on a cycle waits lead around to himself. -/
theorem OnCycle.around (h : x.OnCycle p q) (hcycle : Relation.TransGen x.Joins p p) :
    Relation.TransGen x.Joins q q :=
  (Relation.TransGen.trans_right h.2 hcycle).trans_left h.1

/-- Everybody on a cycle waits for somebody on it. -/
theorem OnCycle.next (h : x.OnCycle p q) (hcycle : Relation.TransGen x.Joins p p) :
    ∃ r, x.Joins q r ∧ x.OnCycle p r := by
  rcases Relation.TransGen.head'_iff.mp (h.around hcycle) with ⟨r, hjoins, hrest⟩
  exact ⟨r, hjoins, h.1.tail hjoins, hrest.trans h.2⟩

/-- And somebody on it waits for him. -/
theorem OnCycle.previous (h : x.OnCycle p q) (hcycle : Relation.TransGen x.Joins p p) :
    ∃ r, x.Joins r q ∧ x.OnCycle p r := by
  rcases Relation.TransGen.tail'_iff.mp (h.around hcycle) with ⟨r, hrest, hjoins⟩
  exact ⟨r, hjoins, h.1.trans hrest, Relation.ReflTransGen.head hjoins h.2⟩

/-- So everybody on it is a worker that was told to stop. -/
theorem Sound.worker (h : Sound x) (hcycle : Relation.TransGen x.Joins p p)
    (hq : x.OnCycle p q) : ∃ k, q = .worker k ∧ x.told k = true := by
  rcases hq.previous hcycle with ⟨r, hjoins, -⟩
  exact h.target hjoins

/-- One of them is the latest. -/
theorem Sound.latest (h : Sound x) (hcycle : Relation.TransGen x.Joins p p) :
    ∃ k, x.OnCycle p (.worker k) ∧ ∀ j, x.OnCycle p (.worker j) → j ≤ k := by
  classical
  -- There are only so many workers, so some is the latest of those on the cycle.
  have hbound : ∀ j, x.OnCycle p (.worker j) → j ≤ x.size := by
    intro j hj
    rcases h.worker hcycle hj with ⟨i, hi, htold⟩
    exact Nat.le_of_lt (h.listed j (Party.worker.inj hi ▸ htold))
  rcases h.worker hcycle ⟨.refl, .refl⟩ with ⟨k, rfl, -⟩
  have hself : x.OnCycle (.worker k) (.worker k) := ⟨.refl, .refl⟩
  exact ⟨Nat.findGreatest (fun j => x.OnCycle (.worker k) (.worker j)) x.size,
    Nat.findGreatest_spec (P := fun j => x.OnCycle (.worker k) (.worker j)) (hbound k hself) hself,
    fun j hj => Nat.le_findGreatest (hbound j hj) hj⟩

/-- The latest worker on a cycle reaps an earlier one. Whoever waits for it can only
    have stopped it, since it is not reaped then, and is an earlier one that is waited
    for itself. -/
theorem Sound.facing (h : Sound x) (hcycle : Relation.TransGen x.Joins p p) :
    ∃ j k m, x.Facing j k m ∧ ∀ i ∈ [j, k, m], x.OnCycle p (.worker i) := by
  rcases h.latest hcycle with ⟨k, hk, hmax⟩
  -- It waits for an earlier one, or for itself, and it can stop neither.
  have hreaps : ∃ m, x.waits (.worker k) = some (.reap m) ∧ m < k ∧ x.OnCycle p (.worker m) := by
    rcases hk.next hcycle with ⟨q, ⟨w, hw, rfl, -⟩, hq⟩
    have hle := hmax _ hq
    cases w with
    | halt m => exact absurd (h.upward k m hw) (Nat.not_lt_of_le hle)
    | reap m =>
        refine ⟨m, hw, Nat.lt_of_le_of_ne hle fun heq => ?_, hq⟩
        exact h.others k (hw.trans (congrArg _ (congrArg _ heq)))
  rcases hreaps with ⟨m, hreaps, hearlier, hm⟩
  rcases hk.previous hcycle with ⟨q, ⟨w, hw, hkw, -⟩, hq⟩
  rcases h.worker hcycle hq with ⟨j, rfl, htold⟩
  -- It reaps an earlier one, so it is spared from being reaped.
  have hhalts : x.waits (.worker j) = some (.halt k) := by
    cases w with
    | reap i =>
        rw [← show k = i from Party.worker.inj hkw] at hw
        exact absurd hw (h.spared k m _ hreaps hearlier).2
    | halt i =>
        rw [← show k = i from Party.worker.inj hkw] at hw
        exact hw
  refine ⟨j, k, m, ⟨hhalts, htold, h.upward j k hhalts, hreaps, hearlier⟩, fun i hi => ?_⟩
  rcases List.mem_cons.mp hi with rfl | hi
  · exact hq
  · rcases List.mem_cons.mp hi with rfl | hi
    · exact hk
    · exact List.mem_singleton.mp hi ▸ hm

/-- Whoever waits for somebody who waits goes on waiting for him. -/
theorem joins_step (hstep : Step x y) (h : x.Joins p q) (hq : x.waits q ≠ none) :
    y.Joins p q := by
  rcases h with ⟨w, hw, rfl, hup⟩
  -- Nobody takes a step who waits for one that is up.
  have hkept : ∀ {r : Party} {v : Option Wait}, x.IsFree r →
      Function.update x.waits r v p = some w := by
    intro r v hfree
    rw [Function.update_of_ne, hw]
    rintro rfl
    exact absurd (hup.symm.trans (hfree w hw)) (by simp only [Bool.true_eq_false,
      not_false_eq_true])
  cases hstep with
  | idle => exact ⟨w, hw, rfl, hup⟩
  -- A worker that ends is in no call, and the one waited for is in one.
  | finished k hidle =>
      refine ⟨w, hw, rfl, ?_⟩
      dsimp only
      rw [Function.update_of_ne, hup]
      rintro rfl
      exact hq hidle
  | started r hfree _ =>
      refine ⟨w, hkept hfree, rfl, ?_⟩
      dsimp only
      rw [Function.update_apply]
      split
      · rfl
      · exact hup
  | ended r hfree => exact ⟨w, hkept hfree, rfl, hup⟩
  | reaping r k hfree _ _ => exact ⟨w, hkept hfree, rfl, hup⟩
  | halting r k hfree _ _ _ => exact ⟨w, hkept hfree, rfl, hup⟩
  | aside k hfree _ => exact ⟨w, hkept hfree, rfl, hup⟩

/-- So a cycle is never resolved. -/
theorem cycle_step (hstep : Step x y) (hcycle : Relation.TransGen x.Joins p p) :
    Relation.TransGen y.Joins p p := by
  have hwaits : ∀ {q r : Party}, x.Joins q r → x.waits q ≠ none := by
    rintro q r ⟨w, hw, -⟩
    exact Option.ne_none_iff_exists'.mpr ⟨w, hw⟩
  -- Along the path every party but the last one waits, and so goes on waiting.
  have hpath : ∀ {q r : Party}, Relation.TransGen x.Joins q r → x.waits r ≠ none →
      Relation.TransGen y.Joins q r := by
    intro q r hqr
    induction hqr with
    | single hjoins => exact fun hr => .single (joins_step hstep hjoins hr)
    | tail _ hjoins ih => exact fun hr => (ih (hwaits hjoins)).tail (joins_step hstep hjoins hr)
  rcases Relation.TransGen.head'_iff.mp hcycle with ⟨q, hjoins, -⟩
  exact hpath hcycle (hwaits hjoins)

end Standing

/-! ### Crews -/

/-- A system with the calls that wait in it. -/
structure Crew where
  sys : System
  errand : Party → Option Errand

/-- What can happen next: somebody calls, or goes on with his call, or a worker ends, or
    somebody does something else. -/
inductive Turn where
  | set (p : Party) (c : ConnKey) (hold : Option ConnKey)
  | shutdown (p : Party)
  | proceed (p : Party)
  | finish (k : WorkerKey)
  | other (p : Party) (m : Move)

namespace Crew

/-- Somebody adds a notifier, and nobody waits. -/
def start (config : Config) (s : System) : Crew := ⟨(s.addNotifier config).1, fun _ => none⟩

/-- Whom a party waits for. -/
def wait? (c : Crew) (p : Party) : Option Wait := (c.errand p).bind Errand.wait?

/-- A party waits for a worker that has not ended. -/
def Joins (c : Crew) (p q : Party) : Prop :=
  ∃ w, c.wait? p = some w ∧ q = .worker w.worker ∧ c.sys.isUp w.worker = true

/-- Whether a party is there at all: a worker calls from its callbacks, so it has not
    ended. -/
def isThere (c : Crew) : Party → Bool
  | .outside _ => true
  | .worker k => c.sys.isUp k

/-- Whether a party can begin something. -/
def isIdle (c : Crew) (p : Party) : Bool := c.isThere p && (c.errand p).isNone

/-- Whether whom a call waits for has ended, if there is anybody. -/
def isOver (c : Crew) (e : Errand) : Bool := !e.wait?.any fun w => c.sys.isUp w.worker

/-- What a party has got to in its turn. -/
def record (p : Party) (x : System × Progress) (c : Crew) : Crew :=
  ⟨x.1, Function.update c.errand p x.2.errand?⟩

/-- One turn. Nothing happens if it is not possible: nobody begins two calls at once, or
    goes on while he waits, and a worker ends between its calls once it was told to. -/
def perform (n : NotifierKey) (t : Turn) (c : Crew) : Crew :=
  match t with
  | .set p conn hold =>
    if c.isIdle p then
      let (s, k) := (c.sys.handTo p).addCallback hold
      c.record p (s.startSet n conn k)
    else c
  | .shutdown p => if c.isIdle p then c.record p ((c.sys.handTo p).startShutdown n) else c
  | .proceed p =>
    match c.errand p with
    | none => c
    | some e =>
      if c.isThere p && c.isOver e then c.record p ((c.sys.handTo p).goOn n e) else c
  | .finish k =>
    if c.sys.isTold k && (c.errand (.worker k)).isNone then
      { c with sys := c.sys.finishWorker k }
    else c
  | .other p m =>
    if c.isIdle p && m.leavesWorkers then { c with sys := m.perform (c.sys.handTo p) } else c

/-- Turns in order. -/
def run (n : NotifierKey) (ts : List Turn) (c : Crew) : Crew :=
  ts.foldl (fun c t => c.perform n t) c

/-- How things stand. -/
def standing (n : NotifierKey) (c : Crew) : Standing := { c.sys.roll n with waits := c.wait? }

variable {n : NotifierKey} {c : Crew} {p : Party}

/-- Recording how far a call got changes the waits of its party. -/
theorem standing_record (n : NotifierKey) (p : Party) (x : System × Progress) (c : Crew) :
    (c.record p x).standing n =
      { x.1.roll n with
        waits := Function.update c.wait? p (x.2.errand?.bind Errand.wait?) } := by
  have hwaits : (c.record p x).wait? =
      Function.update c.wait? p (x.2.errand?.bind Errand.wait?) := by
    funext q
    simp only [wait?, record, Function.update_apply]
    split
    · rfl
    · rfl
  rw [← hwaits]
  rfl

/-- A call whose piece has left the roll as it is, and that waits for nobody. -/
theorem step_ended (hfree : (c.standing n).IsFree p) {x : System × Progress}
    (hroll : x.1.roll n = c.sys.roll n) (herrand : x.2.errand?.bind Errand.wait? = none) :
    (c.standing n).Step ((c.record p x).standing n) := by
  rw [standing_record, hroll, herrand]
  exact .ended p hfree

/-- A call takes what is set aside. -/
theorem step_takeDetached (hfree : (c.standing n).IsFree p) {s : System}
    (hsame : s.roll n = c.sys.roll n) (hthread : s.thread = p.thread)
    {e : Option WorkerKey → Errand} (he : ∀ k, (e k).wait? = k.map .reap) :
    (c.standing n).Step
      ((c.record p ((s.takeDetached n).1, .waits (e (s.takeDetached n).2))).standing n) := by
  -- There is nothing to take but the party itself, or it is taken and waited for.
  rcases System.takeDetached_cases n s with heq | ⟨k, hdetached, hother, htaken, hroll⟩
  · rw [heq]
    exact step_ended hfree hsame (he none)
  · have hk : (c.standing n).detached = some k :=
      (congrArg Roll.detached hsame).symm.trans hdetached
    rw [standing_record, hroll, htaken, hsame]
    rw [show (Progress.waits (e (some k))).errand?.bind Errand.wait? = some (.reap k) from he _]
    refine .reaping p k hfree hk fun hp => hother ?_
    rw [hthread, hp]
    rfl

/-- What a call does behind its wait is a step. -/
theorem step_goOn (h : (c.standing n).Sound) {e : Errand} (herrand : c.errand p = some e)
    (hthere : c.isThere p = true) (hover : c.isOver e = true) :
    (c.standing n).Step ((c.record p ((c.sys.handTo p).goOn n e)).standing n) := by
  have hdown : ∀ w, e.wait? = some w → c.sys.isUp w.worker = false := by
    intro w hw
    rw [isOver, hw, Option.any_some, Bool.not_eq_true'] at hover
    exact hover
  -- Whoever it waits for is down, so it is free to go on, and to join that one changes
  -- nothing.
  have hfree : (c.standing n).IsFree p := by
    intro w hw
    refine hdown w (Eq.trans ?_ hw)
    change _ = c.wait? p
    rw [wait?, herrand, Option.bind_some]
  have hjoined : ∀ {reaped : Option WorkerKey}, e.wait? = reaped.map .reap →
      ((c.sys.handTo p).joinAny reaped).roll n = c.sys.roll n := by
    intro reaped hwait
    exact System.roll_joinAny fun j hj => hdown (.reap j) (by rw [hwait, hj, Option.map_some])
  cases e with
  -- The reaped worker has ended. A new one is started if none is running.
  | registering reaped conn k =>
      rcases System.roll_registerOn n conn k ((c.sys.handTo p).joinAny reaped) with
        hsame | ⟨hvacant, hstarted⟩
      · exact step_ended hfree (hsame.trans (hjoined rfl)) rfl
      · rw [hjoined rfl] at hvacant hstarted
        rw [standing_record]
        dsimp only [System.goOn]
        rw [hstarted]
        exact .started p hfree hvacant
  -- Nobody is running, or the party itself is, or another one that is told to stop.
  | stopping reaped =>
      have hlisted : ∀ k, (((c.sys.handTo p).joinAny reaped).roll n).running = some k →
          k < (((c.sys.handTo p).joinAny reaped).roll n).size := by
        rw [hjoined rfl]
        exact fun k hk => Nat.lt_of_succ_le (Nat.le_of_eq (h.newest k hk))
      have hthread : ((c.sys.handTo p).joinAny reaped).thread = p.thread := by
        cases reaped with
        | none => rfl
        | some k => exact System.thread_joinWorker k (c.sys.handTo p)
      dsimp only [System.goOn]
      rcases System.halt_cases n _ hlisted with
        heq | ⟨running, hrunning, ⟨hself, hnobody, hroll⟩ | ⟨hother, hsomebody, hroll⟩⟩
      · rw [heq]
        exact step_ended hfree (hjoined rfl) rfl
      · rcases hhalt : ((c.sys.handTo p).joinAny reaped).halt n with ⟨t, r⟩
        rw [hhalt] at hnobody hroll
        rw [hjoined rfl] at hrunning hroll
        rw [hthread, Party.thread_eq_worker] at hself
        dsimp only at hnobody hroll
        rw [hnobody, standing_record, hroll, hself]
        exact .aside running.worker (hself ▸ hfree) hrunning
      · rcases hhalt : ((c.sys.handTo p).joinAny reaped).halt n with ⟨t, r⟩
        rw [hhalt] at hsomebody hroll
        rw [hjoined rfl] at hrunning hroll
        rw [hthread] at hother
        dsimp only at hsomebody hroll
        rw [hsomebody, standing_record, hroll]
        refine .halting p running.worker hfree hrunning (fun hp => hother ?_) fun j hj => ?_
        · rw [hp]
          rfl
        · rw [hj] at hthere
          exact System.lt_size_of_any hthere
  -- The stopped worker has ended, and clearing what is left is no step.
  | clearing running =>
      refine step_ended hfree ?_ rfl
      exact (System.roll_clearLeft _ _).trans (System.roll_joinWorker (hdown _ rfl))

/-- Every turn is a step. -/
theorem step_perform (t : Turn) (h : (c.standing n).Sound) :
    (c.standing n).Step ((c.perform n t).standing n) := by
  -- A party that is in no call waits for nobody.
  have hidle : ∀ {p}, c.isIdle p = true → (c.standing n).IsFree p := by
    intro p hp w hw
    rw [isIdle, Bool.and_eq_true, Option.isNone_iff_eq_none] at hp
    have hnone : c.wait? p = none := by rw [wait?, hp.2, Option.bind_none]
    exact absurd (hnone.symm.trans hw) (by simp only [reduceCtorEq, not_false_eq_true])
  cases t with
  | set p conn hold =>
      simp only [perform]
      split
      · rename_i hp
        unfold System.startSet
        split
        · exact step_takeDetached (s := ((c.sys.handTo p).addCallback hold).1) (hidle hp) rfl rfl
            (e := fun reaped => .registering reaped conn _) (fun _ => rfl)
        · exact step_ended (hidle hp)
            ((System.sameStaff_unwinds (System.unwinds_destroy _ _)).roll n) rfl
      · exact .idle
  | shutdown p =>
      simp only [perform]
      split
      · rename_i hp
        exact step_takeDetached (s := c.sys.handTo p) (hidle hp) rfl rfl (e := .stopping)
          (fun _ => rfl)
      · exact .idle
  | proceed p =>
      simp only [perform]
      rcases herrand : c.errand p with _ | e
      · exact .idle
      · dsimp only
        split
        · rename_i hp
          rw [Bool.and_eq_true] at hp
          exact step_goOn h herrand hp.1 hp.2
        · exact .idle
  -- A worker ends between its calls only.
  | finish k =>
      simp only [perform]
      split
      · rename_i hk
        rw [Bool.and_eq_true, Option.isNone_iff_eq_none] at hk
        have hnone : c.wait? (.worker k) = none := by rw [wait?, hk.2, Option.bind_none]
        change (c.standing n).Step { (c.sys.finishWorker k).roll n with waits := c.wait? }
        rw [System.roll_finishWorker]
        exact .finished k hnone
      · exact .idle
  | other p m =>
      simp only [perform]
      split
      · rename_i hp
        rw [Bool.and_eq_true] at hp
        change (c.standing n).Step { (m.perform (c.sys.handTo p)).roll n with waits := c.wait? }
        rw [Move.roll_perform hp.2]
        exact .idle
      · exact .idle

/-- So whatever a step keeps is kept by any turns. -/
theorem run_keeps {q : Crew → Prop} (ts : List Turn) (h : (c.standing n).Sound) (hq : q c)
    (hstep : ∀ d d' : Crew, (d.standing n).Step (d'.standing n) → q d → q d') :
    ((c.run n ts).standing n).Sound ∧ q (c.run n ts) := by
  -- On the turns; soundness is carried along because calls go on by it.
  induction ts generalizing c with
  | nil => exact ⟨h, hq⟩
  | cons t ts ih =>
      have ht := step_perform t h
      exact ih (Standing.sound_step ht h) (hstep _ _ ht hq)

/-- A new notifier has no workers, and nobody waits. -/
theorem sound_start (config : Config) (s : System) :
    ((start config s).standing s.notifiers.size).Sound := by
  have hnone : s.notifiers.get? s.notifiers.size = none := Array.getElem?_eq_none (Nat.le_refl _)
  have hrunning : ((start config s).standing s.notifiers.size).running = none := by
    refine (congrArg (Option.map Running.worker) (System.bind_addNotifier rfl _)).trans ?_
    rw [hnone]
    rfl
  have hdetached : ((start config s).standing s.notifiers.size).detached = none := by
    refine (System.bind_addNotifier rfl _).trans ?_
    rw [hnone]
    rfl
  exact
    { newest := fun k hk => absurd (hrunning.symm.trans hk) (by simp only [reduceCtorEq,
        not_false_eq_true])
      listed := fun k hk => System.lt_size_of_any hk
      aside := fun k hk => absurd (hdetached.symm.trans hk) (by simp only [reduceCtorEq,
        not_false_eq_true])
      awaited := nofun
      upward := nofun
      others := nofun
      order := nofun
      spared := nofun }

/-- Whatever the threads of a program and the workers of a notifier call on it, in any
    order and wherever calls wait, nobody waits for himself. Threads of the program
    are in no cycle, and there is one only where a worker that was told to stop has
    told a later one to stop and waits for it, which waits for an earlier one itself
    that it has found set aside. So there is none as long as no worker shuts the
    notifier down again after it was told to stop. Once there is a cycle it stays. -/
theorem joins_cycle_faces (config : Config) (s : System) (ts : List Turn) :
    let n := s.notifiers.size
    let c := (start config s).run n ts
    (∀ p, ¬ c.Joins p p) ∧
      ∀ p, Relation.TransGen c.Joins p p →
        (∃ j k m, (c.standing n).Facing j k m ∧
          ∀ i ∈ [j, k, m], (c.standing n).OnCycle p (.worker i)) ∧
        ∀ ts', Relation.TransGen (c.run n ts').Joins p p := by
  intro n c
  have h : (c.standing n).Sound :=
    (run_keeps (q := fun _ => True) ts (sound_start config s) trivial fun _ _ _ _ => trivial).1
  -- What is true of every standing holds after these turns.
  refine ⟨h.not_self, fun p hcycle => ⟨h.facing hcycle, fun ts' => ?_⟩⟩
  exact (run_keeps (q := fun d => Relation.TransGen d.Joins p p) ts' h hcycle
    fun _ _ hstep hd => Standing.cycle_step hstep hd).2

/-- A worker shuts its notifier down, has another one started, and shuts it down
    again. Meanwhile the other one registers something. -/
theorem joins_cycle_formed :
    ¬ ∀ (config : Config) (s : System) (ts : List Turn) (p : Party),
      ¬ Relation.TransGen ((start config s).run s.notifiers.size ts).Joins p p := by
  intro hclaim
  let ts : List Turn :=
    [.other (.outside 0) (.pair 10 11), .set (.outside 0) 0 none, .proceed (.outside 0),
      .shutdown (.worker 0), .proceed (.worker 0), .set (.worker 0) 0 none, .proceed (.worker 0),
      .set (.worker 1) 1 none, .shutdown (.worker 0), .proceed (.worker 0)]
  let c := (start Config.default (System.init 0)).run 0 ts
  have hback : c.Joins (.worker 1) (.worker 0) :=
    ⟨.reap 0, by decide +kernel, rfl, by decide +kernel⟩
  have hforth : c.Joins (.worker 0) (.worker 1) :=
    ⟨.halt 1, by decide +kernel, rfl, by decide +kernel⟩
  exact hclaim Config.default (System.init 0) ts (.worker 0)
    (Relation.TransGen.tail (.single hforth) hback)

end Crew

end ReadNotify
