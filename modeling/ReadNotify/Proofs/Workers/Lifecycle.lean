import ReadNotify.Proofs.Workers.Staff
import ReadNotify.Proofs.System.Effects

/-!
# The Lives of Workers

A worker that was started is running, set aside, or has been waited for once, and
nothing else. Nobody waits for his own end, and what is set aside stays there until
somebody else has waited for it. The account that shows this is kept in the *roster*:
beside the staff of a state it knows everybody who has been waited for so far.

The roster is right at first and every shift keeps it right, whatever the thread.
Histories are therefore not restricted to one notifier or to threads that exist: the
moves of a history may be made by anybody, in a callback of a running worker, of one
that was stopped already, or outside, and may change hands after every move.

## Main definitions

* `Staff.Roster`: Everybody is accounted for.
* `System.joinsIn`: Everybody waited for in the course of a history.
* `System.Employs`, `System.isUntold`: Whose worker somebody is, and still is.
* `Post`, `System.At`: The three places of a worker.
* `System.Managed`: What is true of the workers of a notifier.

## Theorems

* `Staff.roster_shift`, `roster_run`: The account is right.
* `Staff.Roster.kept`: What is set aside is not lost.
* `workers_managed`: The workers of a notifier after any history.
-/

namespace ReadNotify

namespace Staff

variable {x y : Staff} {js ks : List WorkerKey} {thread : Thread}

/-- Everybody is accounted for, with those that were waited for so far. -/
structure Roster (js : List WorkerKey) (x : Staff) : Prop where
  paid : ∀ n c, x.payroll n = some c → c < x.counters
  apart : ∀ n m c, x.payroll n = some c → x.payroll m = some c → n = m
  running : ∀ n running, x.running n = some running →
    ∃ loop, x.duty running.worker = some ⟨loop, false, false⟩ ∧
      loop.registry = running.registry ∧ x.payroll n = some loop.counters
  detached : ∀ n k, x.detached n = some k →
    ∃ loop, x.duty k = some ⟨loop, true, false⟩ ∧ x.payroll n = some loop.counters
  placed : ∀ k d, x.duty k = some d → d.joined = false →
    (∃ n running, x.running n = some running ∧ running.worker = k) ∨
      ∃ n, x.detached n = some k
  told : ∀ k d, x.duty k = some d → d.joined = true → d.told = true
  employed : ∀ k d, x.duty k = some d → ∃ n, x.payroll n = some d.loop.counters
  joins : ∀ k, js.count k = (x.duty k).elim 0 fun d => d.joined.toNat

namespace Roster

/-- What has the same loop has the same notifier. -/
theorem same_notifier (h : Roster js x) {n m : NotifierKey} {loop : PollLoop}
    (hn : x.payroll n = some loop.counters) (hm : x.payroll m = some loop.counters) : n = m :=
  h.apart n m _ hn hm

/-- No two notifiers have one worker running. -/
theorem running_inj (h : Roster js x) {n m : NotifierKey} {a b : Running}
    (ha : x.running n = some a) (hb : x.running m = some b) (hab : a.worker = b.worker) :
    n = m := by
  rcases h.running n a ha with ⟨loop, hloop, -, hn⟩
  rcases h.running m b hb with ⟨loop', hloop', -, hm⟩
  rw [hab, hloop', Option.some.injEq, Duty.mk.injEq] at hloop
  exact h.same_notifier hn (hloop.1 ▸ hm)

/-- Nor has one set aside what another one has. -/
theorem detached_inj (h : Roster js x) {n m : NotifierKey} {k : WorkerKey}
    (hn : x.detached n = some k) (hm : x.detached m = some k) : n = m := by
  rcases h.detached n k hn with ⟨loop, hloop, hpaid⟩
  rcases h.detached m k hm with ⟨loop', hloop', hpaid'⟩
  rw [hloop, Option.some.injEq, Duty.mk.injEq] at hloop'
  exact h.same_notifier hpaid (hloop'.1 ▸ hpaid')

/-- What is running is not set aside. -/
theorem worker_ne (h : Roster js x) {n m : NotifierKey} {running : Running} {k : WorkerKey}
    (hrunning : x.running n = some running) (hdetached : x.detached m = some k) :
    k ≠ running.worker := by
  rintro rfl
  rcases h.running n running hrunning with ⟨loop, hloop, -, -⟩
  rcases h.detached m _ hdetached with ⟨loop', hloop', -⟩
  rw [hloop, Option.some.injEq, Duty.mk.injEq] at hloop'
  exact absurd hloop'.2.1 Bool.false_ne_true

/-- Once a notifier has nobody running, nobody else has its worker. -/
theorem running_update (h : Roster js x) {n : NotifierKey} {running : Running}
    (hrunning : x.running n = some running) (m : NotifierKey) (r : Running) :
    Function.update x.running n none m = some r ↔
      x.running m = some r ∧ r.worker ≠ running.worker := by
  rw [Function.update_apply]
  by_cases hm : m = n
  · rw [if_pos hm, hm, hrunning, Option.some.injEq]
    exact ⟨fun hr => absurd hr (by simp only [reduceCtorEq, not_false_eq_true]),
      fun hr => absurd (congrArg Running.worker hr.1.symm) hr.2⟩
  · rw [if_neg hm]
    exact ⟨fun hr => ⟨hr, fun hw => hm (h.running_inj hr hrunning hw)⟩, And.left⟩

end Roster

/-! ### Every shift keeps the account right -/

theorem roster_idle (h : Roster js x) {k : Nat} (hk : x.counters ≤ k) :
    Roster js { x with counters := k } where
  paid n c hc := Nat.lt_of_lt_of_le (h.paid n c hc) hk
  apart := h.apart
  running := h.running
  detached := h.detached
  placed := h.placed
  told := h.told
  employed := h.employed
  joins := h.joins

theorem roster_founded (h : Roster js x) {n : NotifierKey} (hpayroll : x.payroll n = none) :
    Roster js
      { x with
        payroll := Function.update x.payroll n (some x.counters)
        counters := x.counters + 1 } := by
  -- Whoever was paid before is another, and paid from other counters.
  have hkept : ∀ m c, x.payroll m = some c →
      Function.update x.payroll n (some x.counters) m = some c := by
    intro m c hc
    rw [Function.update_of_ne, hc]
    rintro rfl
    exact absurd (hc.symm.trans hpayroll) (by simp only [reduceCtorEq, not_false_eq_true])
  have hcases : ∀ m c, Function.update x.payroll n (some x.counters) m = some c →
      (m = n ∧ c = x.counters) ∨ (x.payroll m = some c ∧ c < x.counters) := by
    intro m c hc
    rw [Function.update_apply] at hc
    split at hc
    · rename_i hm
      exact Or.inl ⟨hm, (Option.some.inj hc).symm⟩
    · exact Or.inr ⟨hc, h.paid m c hc⟩
  refine ⟨fun m c hc => ?_, fun m m' c hm hm' => ?_, fun m r hr => ?_, fun m k hk => ?_, h.placed,
    h.told, fun k d hd => ?_, h.joins⟩
  · rcases hcases m c hc with ⟨-, rfl⟩ | ⟨-, hlt⟩
    · exact Nat.lt_succ_self _
    · exact Nat.lt_succ_of_lt hlt
  · rcases hcases m c hm with ⟨rfl, rfl⟩ | ⟨hc, hlt⟩
    · rcases hcases m' _ hm' with ⟨rfl, -⟩ | ⟨-, hlt⟩
      · rfl
      · exact absurd hlt (Nat.lt_irrefl _)
    · rcases hcases m' c hm' with ⟨-, rfl⟩ | ⟨hc', -⟩
      · exact absurd hlt (Nat.lt_irrefl _)
      · exact h.apart m m' c hc hc'
  · rcases h.running m r hr with ⟨loop, hduty, hserves, hpaid⟩
    exact ⟨loop, hduty, hserves, hkept m _ hpaid⟩
  · rcases h.detached m k hk with ⟨loop, hduty, hpaid⟩
    exact ⟨loop, hduty, hkept m _ hpaid⟩
  · rcases h.employed k d hd with ⟨m, hpaid⟩
    exact ⟨m, hkept m _ hpaid⟩

theorem roster_started (h : Roster js x) {n : NotifierKey} {running : Running} {loop : PollLoop}
    (hvacant : x.running n = none) (hpaid : x.payroll n = some loop.counters)
    (hserves : loop.registry = running.registry) (hnew : x.duty running.worker = none) :
    Roster js
      { x with
        running := Function.update x.running n (some running)
        duty := Function.update x.duty running.worker (some ⟨loop, false, false⟩) } := by
  -- Whoever had a duty before is another.
  have hkept : ∀ k d, x.duty k = some d →
      Function.update x.duty running.worker (some ⟨loop, false, false⟩) k = some d := by
    intro k d hd
    rw [Function.update_of_ne, hd]
    rintro rfl
    exact absurd (hd.symm.trans hnew) (by simp only [reduceCtorEq, not_false_eq_true])
  have hcases : ∀ k d,
      Function.update x.duty running.worker (some ⟨loop, false, false⟩) k = some d →
        (k = running.worker ∧ d = ⟨loop, false, false⟩) ∨ x.duty k = some d := by
    intro k d hd
    rw [Function.update_apply] at hd
    split at hd
    · rename_i hk
      exact Or.inl ⟨hk, (Option.some.inj hd).symm⟩
    · exact Or.inr hd
  refine ⟨h.paid, h.apart, fun m r hr => ?_, fun m k hk => ?_, fun k d hd hunjoined => ?_,
    fun k d hd hjoined => ?_, fun k d hd => ?_, fun k => ?_⟩
  · dsimp only at hr
    rw [Function.update_apply] at hr
    split at hr
    · rename_i hm
      cases hr
      exact ⟨loop, Function.update_self _ _ _, hserves, hm ▸ hpaid⟩
    · rcases h.running m r hr with ⟨loop', hduty, hserves', hpaid'⟩
      exact ⟨loop', hkept _ _ hduty, hserves', hpaid'⟩
  · rcases h.detached m k hk with ⟨loop', hduty, hpaid'⟩
    exact ⟨loop', hkept _ _ hduty, hpaid'⟩
  · rcases hcases k d hd with ⟨rfl, -⟩ | hold
    · exact Or.inl ⟨n, running, Function.update_self _ _ _, rfl⟩
    · rcases h.placed k d hold hunjoined with ⟨m, r, hr, hrk⟩ | hdetached
      · -- The notifier had nobody running, so this is another one.
        refine Or.inl ⟨m, r, ?_, hrk⟩
        dsimp only
        rw [Function.update_of_ne, hr]
        rintro rfl
        exact absurd (hr.symm.trans hvacant) (by simp only [reduceCtorEq, not_false_eq_true])
      · exact Or.inr hdetached
  · rcases hcases k d hd with ⟨-, rfl⟩ | hold
    · exact absurd hjoined Bool.false_ne_true
    · exact h.told k d hold hjoined
  · rcases hcases k d hd with ⟨-, rfl⟩ | hold
    · exact ⟨n, hpaid⟩
    · exact h.employed k d hold
  · rw [h.joins k]
    by_cases hk : k = running.worker
    · dsimp only
      rw [hk, hnew, Function.update_self]
      rfl
    · dsimp only
      rw [Function.update_of_ne hk]

/-- A worker that was told to stop moves on: it leaves the place it had, and if nobody
    has waited for it now it is set aside. -/
theorem roster_moved (h : Roster js x) (joined : Bool) {k : WorkerKey} {loop : PollLoop}
    {told : Bool} (hduty : x.duty k = some ⟨loop, told, false⟩)
    (hpayroll : y.payroll = x.payroll) (hcounters : y.counters = x.counters)
    (hmoved : y.duty = Function.update x.duty k (some ⟨loop, true, joined⟩))
    (hrunning : ∀ m r, y.running m = some r ↔ x.running m = some r ∧ r.worker ≠ k)
    (hdetached : ∀ m j, y.detached m = some j ↔
      if j = k then joined = false ∧ x.payroll m = some loop.counters
      else x.detached m = some j) :
    Roster (js ++ if joined then [k] else []) y := by
  have hself : y.duty k = some ⟨loop, true, joined⟩ := by
    rw [hmoved, Function.update_self]
  have hothers : ∀ j, j ≠ k → y.duty j = x.duty j := by
    intro j hj
    rw [hmoved, Function.update_of_ne hj]
  -- Only worker `k` changes its place, so each clause splits on whether it is about `k`.
  refine ⟨fun m c hc => ?_, fun m m' c hm hm' => ?_, fun m r hr => ?_, fun m j hj => ?_,
    fun j d hd hunjoined => ?_, fun j d hd hjoined => ?_, fun j d hd => ?_, fun j => ?_⟩
  · rw [hcounters]
    exact h.paid m c (hpayroll ▸ hc)
  · exact h.apart m m' c (hpayroll ▸ hm) (hpayroll ▸ hm')
  · rcases (hrunning m r).mp hr with ⟨hr', hne⟩
    rw [hothers _ hne, hpayroll]
    exact h.running m r hr'
  · have hcases := (hdetached m j).mp hj
    rw [hpayroll]
    split at hcases
    · rename_i hjk
      rw [hjk, hself, hcases.1]
      exact ⟨loop, rfl, hcases.2⟩
    · rename_i hjk
      rw [hothers j hjk]
      exact h.detached m j hcases
  · by_cases hjk : j = k
    · -- It is set aside with the notifier that has started it.
      rw [hjk, hself, Option.some.injEq] at hd
      rcases h.employed k _ hduty with ⟨n, hpaid⟩
      refine Or.inr ⟨n, (hdetached n j).mpr ?_⟩
      rw [if_pos hjk]
      exact ⟨(congrArg Duty.joined hd).trans hunjoined, hpaid⟩
    · rw [hothers j hjk] at hd
      rcases h.placed j d hd hunjoined with ⟨n, r, hr, hrj⟩ | ⟨n, hn⟩
      · exact Or.inl ⟨n, r, (hrunning n r).mpr ⟨hr, hrj ▸ hjk⟩, hrj⟩
      · exact Or.inr ⟨n, (hdetached n j).mpr (by rw [if_neg hjk]; exact hn)⟩
  · by_cases hjk : j = k
    · rw [hjk, hself, Option.some.injEq] at hd
      rw [← hd]
    · rw [hothers j hjk] at hd
      exact h.told j d hd hjoined
  · rw [hpayroll]
    by_cases hjk : j = k
    · rw [hjk, hself, Option.some.injEq] at hd
      rw [← hd]
      exact h.employed k ⟨loop, told, false⟩ hduty
    · rw [hothers j hjk] at hd
      exact h.employed j d hd
  · rw [List.count_append, h.joins j]
    by_cases hjk : j = k
    · rw [hjk, hself, hduty]
      cases joined with
      | false => rfl
      | true => simp
    · rw [hothers j hjk]
      cases joined with
      | false => simp
      | true => simp [Ne.symm hjk]

theorem roster_setAside (h : Roster js x) {n : NotifierKey} {running : Running}
    (hrunning : x.running n = some running) (hself : thread = .worker running.worker)
    (hreaped : ∀ k, x.detached n = some k → thread = .worker k) :
    Roster js
      { x with
        running := Function.update x.running n none
        detached := Function.update x.detached n (some running.worker)
        duty := Function.update x.duty running.worker
          ((x.duty running.worker).map fun d => { d with told := true }) } := by
  rcases h.running n running hrunning with ⟨loop, hduty, -, hpaid⟩
  -- What was set aside could only be this thread, but that was running.
  have hvacant : x.detached n = none := by
    rcases hd : x.detached n with _ | k
    · rfl
    · have hk := (hreaped k hd).symm.trans hself
      exact absurd (Thread.worker.inj hk) (h.worker_ne hrunning hd)
  have hmoved := roster_moved (y := { x with
    running := Function.update x.running n none
    detached := Function.update x.detached n (some running.worker)
    duty := Function.update x.duty running.worker
      ((x.duty running.worker).map fun d => { d with told := true }) }) h false hduty rfl rfl
    (by rw [hduty, Option.map_some]) (h.running_update hrunning) (fun m j => ?_)
  · rwa [if_neg Bool.false_ne_true, List.append_nil] at hmoved
  · dsimp only
    rw [Function.update_apply]
    by_cases hm : m = n
    · rw [if_pos hm, hm, Option.some.injEq, hvacant]
      by_cases hj : j = running.worker
      · rw [if_pos hj]
        exact ⟨fun _ => ⟨rfl, hpaid⟩, fun _ => hj.symm⟩
      · rw [if_neg hj]
        exact ⟨fun hj' => absurd hj'.symm hj, fun hj' => absurd hj' (by simp only [reduceCtorEq,
          not_false_eq_true])⟩
    · rw [if_neg hm]
      by_cases hj : j = running.worker
      · rw [if_pos hj, hj]
        exact ⟨fun hj' => absurd rfl (h.worker_ne hrunning hj'),
          fun hj' => absurd (h.same_notifier hj'.2 hpaid) hm⟩
      · rw [if_neg hj]

theorem roster_halted (h : Roster js x) {n : NotifierKey} {running : Running}
    (hrunning : x.running n = some running) :
    Roster (js ++ [running.worker])
      { x with
        running := Function.update x.running n none
        duty := Function.update x.duty running.worker
          ((x.duty running.worker).map fun d => { d with told := true, joined := true }) } := by
  rcases h.running n running hrunning with ⟨loop, hduty, -, -⟩
  -- It leaves its place and is written down as waited for.
  refine roster_moved h true hduty rfl rfl (by rw [hduty, Option.map_some])
    (h.running_update hrunning) (fun m j => ?_)
  by_cases hj : j = running.worker
  · rw [if_pos hj, hj]
    exact ⟨fun hj' => absurd rfl (h.worker_ne hrunning hj'),
      fun hj' => absurd hj'.1 (by simp only [Bool.true_eq_false, not_false_eq_true])⟩
  · rw [if_neg hj]

theorem roster_reaped (h : Roster js x) {n : NotifierKey} {k : WorkerKey}
    (hdetached : x.detached n = some k) :
    Roster (js ++ [k])
      { x with
        detached := Function.update x.detached n none
        duty := Function.update x.duty k
          ((x.duty k).map fun d => { d with joined := true }) } := by
  rcases h.detached n k hdetached with ⟨loop, hduty, -⟩
  -- What is set aside leaves its place, and no other place has it.
  refine roster_moved h true hduty rfl rfl (by rw [hduty, Option.map_some])
    (fun m r => ⟨fun hr => ⟨hr, (h.worker_ne hr hdetached).symm⟩, And.left⟩) (fun m j => ?_)
  dsimp only
  rw [Function.update_apply]
  by_cases hj : j = k
  · rw [if_pos hj, hj]
    refine ⟨fun hj' => ?_, fun hj' => absurd hj'.1 (by simp only [Bool.true_eq_false,
      not_false_eq_true])⟩
    split at hj'
    · exact absurd hj' (by simp only [reduceCtorEq, not_false_eq_true])
    · rename_i hm
      exact absurd (h.detached_inj hj' hdetached) hm
  · rw [if_neg hj]
    split
    · rename_i hm
      rw [hm, hdetached, Option.some.injEq]
      exact ⟨fun hj' => absurd hj' (by simp only [reduceCtorEq, not_false_eq_true]),
        fun hj' => absurd hj'.symm hj⟩
    · exact Iff.rfl

/-- Every shift keeps the account right. -/
theorem roster_shift (hshift : Shift thread ks x y) (h : Roster js x) : Roster (js ++ ks) y := by
  cases hshift with
  | idle hk => exact (List.append_nil js).symm ▸ roster_idle h hk
  | founded _ _ hpayroll => exact (List.append_nil js).symm ▸ roster_founded h hpayroll
  | started hvacant hpaid hserves hnew =>
      exact (List.append_nil js).symm ▸ roster_started h hvacant hpaid hserves hnew
  | setAside hrunning hself hreaped =>
      exact (List.append_nil js).symm ▸ roster_setAside h hrunning hself hreaped
  | halted hrunning _ => exact roster_halted h hrunning
  | reaped hdetached _ => exact roster_reaped h hdetached

/-- And so do several. -/
theorem roster_shifts (hshifts : Shifts thread ks x y) (h : Roster js x) : Roster (js ++ ks) y :=
  hshifts.preserves (p := Roster) (fun _ _ _ _ hshift hx => roster_shift hshift hx) h

/-- Nobody waits for his own end. -/
theorem Shifts.others (hshifts : Shifts thread ks x y) : ∀ k ∈ ks, thread ≠ .worker k := by
  induction hshifts with
  | none x => exact fun k hk => absurd hk List.not_mem_nil
  | more hshift _ ih =>
      intro k hk
      rcases List.mem_append.mp hk with hk | hk
      · cases hshift with
        | halted hrunning hother => exact List.mem_singleton.mp hk ▸ hother
        | reaped hdetached hother => exact List.mem_singleton.mp hk ▸ hother
        | _ => exact absurd hk List.not_mem_nil
      · exact ih k hk

/-- What is set aside stays so or is waited for. -/
theorem Roster.kept (h : Roster js x) (hshift : Shift thread ks x y) {n : NotifierKey}
    {k : WorkerKey} (hk : x.detached n = some k) : y.detached n = some k ∨ k ∈ ks := by
  cases hshift with
  | @setAside _ m running hrunning hself hreaped =>
      refine Or.inl ?_
      dsimp only
      rw [Function.update_of_ne, hk]
      rintro rfl
      -- Only this thread may be aside where another is put, and it was running.
      have hthis := (hreaped k hk).symm.trans hself
      exact h.worker_ne hrunning hk (Thread.worker.inj hthis)
  | @reaped _ m j hdetached hother =>
      by_cases hm : n = m
      · rw [hm, hdetached] at hk
        exact Or.inr (List.mem_singleton.mpr (Option.some.inj hk).symm)
      · exact Or.inl (by dsimp only; rw [Function.update_of_ne hm, hk])
  | _ => exact Or.inl hk

theorem Roster.kept_shifts (hshifts : Shifts thread ks x y) (h : Roster js x) {n : NotifierKey}
    {k : WorkerKey} (hk : x.detached n = some k) : y.detached n = some k ∨ k ∈ ks := by
  -- On the shifts; the roster is carried along.
  induction hshifts generalizing js with
  | none x => exact Or.inl hk
  | more hshift _ ih =>
      rcases h.kept hshift hk with hk' | hk'
      · exact (ih (roster_shift hshift h) hk').imp_right (List.mem_append_right _)
      · exact Or.inr (List.mem_append_left _ hk')

end Staff

namespace System

variable {s : System}

/-- Everybody waited for in the course of a history, in order. -/
def joinsIn : List Move → System → List WorkerKey
  | [], _ => []
  | m :: ms, s => m.joins s ++ joinsIn ms (m.perform s)

/-- Nobody works before anything has happened. -/
theorem staff_init (r : Nat) :
    (init r).staff = ⟨fun _ => none, fun _ => none, fun _ => none, fun _ => none, 0⟩ := by
  have hempty : ∀ {α β : Type} (f : α → Option β) (k : Nat),
      ((Table.empty : Table α).get? k).bind f = none := fun f k => by
    rw [Table.get?_empty, Option.bind_none]
  have hmap : ∀ {α β : Type} (f : α → β) (k : Nat),
      ((Table.empty : Table α).get? k).map f = none := fun f k => by
    rw [Table.get?_empty, Option.map_none]
  exact Staff.ext (funext fun n => hempty Notifier.running n)
    (funext fun n => hempty Notifier.detached n) (funext fun n => hmap Notifier.counters n)
    (funext fun k => hmap Worker.duty k) rfl

theorem roster_init (r : Nat) : (init r).staff.Roster [] := by
  rw [staff_init]
  exact ⟨nofun, nofun, nofun, nofun, nofun, nofun, nofun, fun _ => rfl⟩

/-- The account is right after any history. -/
theorem roster_run (ms : List Move) {js : List WorkerKey} (h : s.staff.Roster js) :
    (run ms s).staff.Roster (js ++ joinsIn ms s) := by
  induction ms generalizing s js with
  | nil => exact (List.append_nil js).symm ▸ h
  | cons m ms ih =>
      rw [run_cons, joinsIn, ← List.append_assoc]
      exact ih (Staff.roster_shifts (m.shifts_perform s) h)

/-! ### What that means for a notifier -/

/-- Whether a worker was started by a notifier. -/
def Employs (n : NotifierKey) (k : WorkerKey) (s : System) : Prop :=
  ∃ notifier worker, s.notifiers.get? n = some notifier ∧ s.workers.get? k = some worker ∧
    worker.loop.counters = notifier.counters

/-- Whether a worker exists and was not told to stop. -/
def isUntold (s : System) (k : WorkerKey) : Bool :=
  match s.workers.get? k with
  | some worker => !worker.told
  | none => false

end System

/-- Where a worker that was started is. -/
inductive Post where
  | running
  | detached
  | joined
  deriving DecidableEq, Repr

namespace System

variable {s : System}

/-- A worker of a notifier is in a place, with those that were waited for so far. -/
def At (js : List WorkerKey) (n : NotifierKey) (k : WorkerKey) (s : System) : Post → Prop
  | .running => ∃ running, s.running? n = some running ∧ running.worker = k
  | .detached => s.detached? n = some k
  | .joined => js.count k = 1

/-- What is true of the workers of a notifier, with those that were waited for so
    far. -/
structure Managed (n : NotifierKey) (js : List WorkerKey) (s : System) : Prop where
  /-- Its workers that were not told to stop are the one that is running. -/
  untold : ∀ k, (s.Employs n k ∧ s.isUntold k = true) ↔
    ∃ running, s.running? n = some running ∧ running.worker = k
  /-- That one serves the registry of the notifier. -/
  serves : ∀ running, s.running? n = some running →
    ∃ worker, s.workers.get? running.worker = some worker ∧
      worker.loop.registry = running.registry
  /-- What is registered next is registered there, unless it is closed meanwhile. -/
  registers : ∀ c hold, (s.setFresh n c hold).2 = .registered →
    ∃ running, (s.setFresh n c hold).1.running? n = some running ∧
      (∀ running', s.running? n = some running' → running = running') ∧
      Swept ⟨some s.callbacks.size, some running.registry, (s.slot c).generation + 1⟩
        (s.setFresh n c hold).1 c
  isRunning : s.isRunning n = true ↔ ∃ k, s.Employs n k ∧ s.isUntold k = true
  /-- Whoever is marked was waited for, once. -/
  waited : ∀ k worker, s.workers.get? k = some worker → js.count k = worker.joined.toNat
  /-- Each of its workers is in one place, and was waited for once at most. -/
  places : ∀ k, s.Employs n k → js.count k ≤ 1 ∧ ∃! p, s.At js n k p
  /-- Nobody waits for his own end. -/
  others : ∀ m : Move, ∀ k ∈ m.joins s, s.thread ≠ .worker k
  /-- A worker that shuts its notifier down is set aside. -/
  aside : ∀ running, s.running? n = some running → s.thread = .worker running.worker →
    (s.shutdown n).detached? n = some running.worker
  /-- What is set aside stays there until it is waited for. -/
  kept : ∀ (m : Move) k, s.detached? n = some k →
    (m.perform s).detached? n = some k ∨ k ∈ m.joins s
  /-- Anybody else leaves nothing aside. -/
  cleared : (∀ k, s.Employs n k → s.thread ≠ .worker k) →
    (s.shutdown n).detached? n = none ∧
      ∀ c hold, s.isConnected c = true → (s.setFresh n c hold).1.detached? n = none

/-- A notifier employs the workers that are paid from its counters. -/
theorem employs_iff (n : NotifierKey) (k : WorkerKey) (s : System) :
    s.Employs n k ↔ ∃ d, s.staff.duty k = some d ∧ s.staff.payroll n = some d.loop.counters := by
  constructor
  · rintro ⟨notifier, worker, hnotifier, hworker, hsame⟩
    refine ⟨worker.duty, congrArg (Option.map Worker.duty) hworker, ?_⟩
    exact (congrArg (Option.map Notifier.counters) hnotifier).trans (congrArg some hsame.symm)
  · rintro ⟨d, hduty, hpaid⟩
    rcases Option.map_eq_some_iff.mp hduty with ⟨worker, hworker, rfl⟩
    rcases Option.map_eq_some_iff.mp hpaid with ⟨notifier, hnotifier, hsame⟩
    exact ⟨notifier, worker, hnotifier, hworker, hsame.symm⟩

/-- Whether a worker was told to stop stands in its duty. -/
theorem isUntold_iff (s : System) (k : WorkerKey) :
    s.isUntold k = true ↔ ∃ d, s.staff.duty k = some d ∧ d.told = false := by
  have hduty : s.staff.duty k = (s.workers.get? k).map Worker.duty := rfl
  rw [hduty, isUntold]
  rcases s.workers.get? k with _ | worker
  · simp
  · simp [Worker.duty]

/-- A notifier's workers that were not told to stop are the one that is running. -/
theorem untold_iff {js : List WorkerKey} (h : s.staff.Roster js) (n : NotifierKey)
    (k : WorkerKey) :
    (s.Employs n k ∧ s.isUntold k = true) ↔
      ∃ running, s.running? n = some running ∧ running.worker = k := by
  rw [employs_iff, isUntold_iff]
  constructor
  · rintro ⟨⟨d, hduty, hpaid⟩, d', hduty', htold⟩
    rw [hduty, Option.some.injEq] at hduty'
    rw [← hduty'] at htold
    -- Nobody waited for it, since that happens to those that were told to stop only.
    have hunjoined : d.joined = false := by
      by_contra hjoined
      have := h.told k d hduty (Bool.eq_true_of_not_eq_false hjoined)
      exact absurd (htold.symm.trans this) Bool.false_ne_true
    rcases h.placed k d hduty hunjoined with ⟨m, r, hr, rfl⟩ | ⟨m, hm⟩
    · rcases h.running m r hr with ⟨loop, hloop, -, hpaid'⟩
      rw [hduty, Option.some.injEq] at hloop
      rw [hloop] at hpaid
      exact ⟨r, h.same_notifier hpaid hpaid' ▸ hr, rfl⟩
    · rcases h.detached m k hm with ⟨loop, hloop, -⟩
      rw [hduty, Option.some.injEq] at hloop
      exact absurd (htold.symm.trans (congrArg Duty.told hloop)) Bool.false_ne_true
  · rintro ⟨r, hr, rfl⟩
    rcases h.running n r hr with ⟨loop, hduty, -, hpaid⟩
    exact ⟨⟨_, hduty, hpaid⟩, _, hduty, rfl⟩

/-- What is set aside was started by the notifier. -/
theorem employs_of_detached? {js : List WorkerKey} (h : s.staff.Roster js) {n : NotifierKey}
    {k : WorkerKey} (hk : s.detached? n = some k) : s.Employs n k := by
  rcases h.detached n k hk with ⟨loop, hduty, hpaid⟩
  exact (employs_iff n k s).mpr ⟨_, hduty, hpaid⟩

/-- Every worker of a notifier is in one place. -/
theorem at_unique {js : List WorkerKey} (h : s.staff.Roster js) {n : NotifierKey} {k : WorkerKey}
    (hk : s.Employs n k) : js.count k ≤ 1 ∧ ∃! p, s.At js n k p := by
  rcases (employs_iff n k s).mp hk with ⟨d, hduty, hpaid⟩
  have hcount : js.count k = d.joined.toNat := by
    rw [h.joins k, hduty, Option.elim_some]
  refine ⟨hcount ▸ Bool.toNat_le d.joined, ?_⟩
  -- Each place is known by what the worker's duty says.
  have hrunning : s.At js n k .running → d.told = false ∧ d.joined = false := by
    rintro ⟨r, hr, rfl⟩
    rcases h.running n r hr with ⟨loop, hloop, -, -⟩
    rw [hduty, Option.some.injEq] at hloop
    rw [hloop]
    exact ⟨rfl, rfl⟩
  have hdetached : s.At js n k .detached → d.told = true ∧ d.joined = false := by
    intro hat
    rcases h.detached n k hat with ⟨loop, hloop, -⟩
    rw [hduty, Option.some.injEq] at hloop
    rw [hloop]
    exact ⟨rfl, rfl⟩
  have hjoined : s.At js n k .joined → d.told = true ∧ d.joined = true := by
    intro hat
    have hd : d.joined = true := by
      rw [At, hcount] at hat
      cases hj : d.joined with
      | true => rfl
      | false =>
          rw [hj] at hat
          exact absurd hat (by decide)
    exact ⟨h.told k d hduty hd, hd⟩
  have hunique : ∀ p q, s.At js n k p → s.At js n k q → p = q := by
    intro p q hp hq
    cases p <;> cases q <;> simp_all
  have hsome : ∃ p, s.At js n k p := by
    cases hd : d.joined with
    | true => exact ⟨.joined, by rw [At, hcount, hd]; rfl⟩
    | false =>
        rcases h.placed k d hduty hd with ⟨m, r, hr, rfl⟩ | ⟨m, hm⟩
        · rcases h.running m r hr with ⟨loop, hloop, -, hpaid'⟩
          rw [hduty, Option.some.injEq] at hloop
          rw [hloop] at hpaid
          exact ⟨.running, r, h.same_notifier hpaid' hpaid ▸ hr, rfl⟩
        · rcases h.detached m k hm with ⟨loop, hloop, hpaid'⟩
          rw [hduty, Option.some.injEq] at hloop
          rw [hloop] at hpaid
          exact ⟨.detached, h.same_notifier hpaid' hpaid ▸ hm⟩
  rcases hsome with ⟨p, hp⟩
  exact ⟨p, hp, fun q hq => hunique q p hq hp⟩

/-- What is registered goes to the registry of the worker that is running then, which
    is the one that was running before if there was one. -/
theorem registers_setFresh (n : NotifierKey) (c : ConnKey) (hold : Option ConnKey) (s : System)
    (h : (s.setFresh n c hold).2 = .registered) :
    ∃ running, (s.setFresh n c hold).1.running? n = some running ∧
      (∀ running', s.running? n = some running' → running = running') ∧
      Swept ⟨some s.callbacks.size, some running.registry, (s.slot c).generation + 1⟩
        (s.setFresh n c hold).1 c := by
  rcases setCallback_cases n c (s.addCallback hold).2 (s.addCallback hold).1 with
    ⟨hrefused, -⟩ | ⟨-, -, running, u, v, hu, hv, hnoted⟩
  · exact absurd h hrefused
  · have hrunning : (s.setFresh n c hold).1.running? n = some running := by
      change ((s.addCallback hold).1.setCallback n c (s.addCallback hold).2).1.running? n = _
      rw [hnoted.quiet.running n, Move.running?_attach, hv.serves]
    refine ⟨running, hrunning, fun running' hr => ?_, ?_⟩
    · -- A worker that was running before is found and not replaced.
      have hbefore : u.running? n = some running' := (hu.running n).trans hr
      rcases hv.started with ⟨hsame, -, -⟩ | ⟨hnone, -⟩
      · exact Option.some.inj (hsame.symm.trans hbefore)
      · exact absurd (hnone.symm.trans hbefore) (by simp only [reduceCtorEq, not_false_eq_true])
    · -- What it leaves in the slot is what the move aims at.
      have hinstalls : (Move.set n c hold).installs s c =
          some (s.callbacks.size, running.registry) := by
        simp only [Move.installs, h, hrunning, and_self, if_true, Option.map_some]
      rw [← Move.aim_of_installs hinstalls]
      exact Move.swept_set n c hold s c

/-- After any history, made by whomever and on whatever threads, the workers of a
    notifier are accounted for: one at most was not told to stop, and that is the one
    that is running and serves the registry in which connections are registered next;
    every other one was set aside by a shutdown of its own, where it stays until
    somebody else waits for it, or was waited for once. A notifier is running if and
    only if it has a worker that was not told to stop. -/
theorem workers_managed (registries : Nat) (ms : List Move) (n : NotifierKey) :
    Managed n (joinsIn ms (init registries)) (run ms (init registries)) := by
  have h : (run ms (init registries)).staff.Roster (joinsIn ms (init registries)) := by
    have hrun := roster_run ms (roster_init registries)
    rwa [List.nil_append] at hrun
  -- From here on only the roster matters, not the run that led to it.
  generalize run ms (init registries) = s at h ⊢
  have hrunning : ∀ running, s.running? n = some running → s.Employs n running.worker :=
    fun running hr => ((untold_iff h n _).mpr ⟨running, hr, rfl⟩).1
  refine
    { untold := untold_iff h n
      serves := fun running hr => ?_
      registers := fun c hold => registers_setFresh n c hold s
      isRunning := ?_
      waited := fun k worker hworker => ?_
      places := fun k hk => at_unique h hk
      others := fun m => (m.shifts_perform s).others
      aside := (detached?_shutdown n s).1
      kept := fun m k hk => h.kept_shifts (m.shifts_perform s) hk
      cleared := fun houtside => ⟨?_, fun c hold hopen => ?_⟩ }
  · rcases h.running n running hr with ⟨loop, hduty, hserves, -⟩
    rcases Option.map_eq_some_iff.mp hduty with ⟨worker, hworker, hloop⟩
    exact ⟨worker, hworker, (congrArg (fun d => d.loop.registry) hloop).trans hserves⟩
  · rw [isRunning, Option.isSome_iff_exists]
    constructor
    · rintro ⟨running, hr⟩
      exact ⟨running.worker, (untold_iff h n _).mpr ⟨running, hr, rfl⟩⟩
    · rintro ⟨k, hk⟩
      rcases (untold_iff h n k).mp hk with ⟨running, hr, -⟩
      exact ⟨running, hr⟩
  · have hduty : s.staff.duty k = some worker.duty := congrArg (Option.map Worker.duty) hworker
    rw [h.joins k, hduty]
    rfl
  · -- None of the workers is asking, so nothing stays set aside.
    refine Option.eq_none_iff_forall_ne_some.mpr fun k hk => ?_
    rcases (detached?_shutdown n s).2 k hk with ⟨hthis, hdetached | ⟨running, hr, rfl⟩⟩
    · exact houtside k (employs_of_detached? h hdetached) hthis
    · exact houtside _ (hrunning running hr) hthis
  · refine Option.eq_none_iff_forall_ne_some.mpr fun k hk => ?_
    rcases detached?_setFresh hopen hold hk with ⟨hdetached, hthis⟩
    exact houtside k (employs_of_detached? h hdetached) hthis

/-- A worker shuts its notifier down, has another worker started and shuts that one
    down; then somebody else shuts the notifier down. The new worker is waited for
    before the old one is. -/
example : joinsIn [.pair 10 11, .addNotifier Config.default, .set 0 0 none,
    .switch (.worker 0) [], .shutdown 0, .set 0 0 none, .shutdown 0, .switch .caller [],
    .shutdown 0] (init 0) = [1, 0] := by
  decide +kernel

end System

end ReadNotify
