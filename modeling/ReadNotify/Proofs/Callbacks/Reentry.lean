import ReadNotify.Proofs.Handles.Settlement

/-!
# Code That Calls Back

The body of a callback is code of the program, and so is what runs when a
callback is destroyed. Both may use the library again, and what they call may
destroy other callbacks, with code of their own, before they return. Here this
is told as far down as it goes: a *run* follows one thread through a call, the
calls that are made from inside it, and the calls from inside those.

What code of the program does is left open, except for the kind of calls that it
makes. Between two of them other threads may do anything. A run comes with its
*scenes*: where code of the program begins, and where a lock is asked for, each
with the calls that are *pending*, which have not returned, and with the locks that
the thread holds at that moment. The locks of registries are told of as well,
although nobody holds one for longer than one operation on its registry.

A thread that asks for a lock that it holds would wait for itself. A run goes on
all the same, as if it got the lock, so that every such place is told of.

A run in which no code calls anything is what the operations do by themselves
(`runs_silent_iff`). So every operation has a run, and a run differs from the
operation by what was called on the way, and by nothing else.

## Main definitions

* `Request`, `Pending`, `Job`: What is called, what has not returned, what is to do.
* `Latch`, `Scene`: The locks, and what is told of a run.
* `System.Runs`: A thread does a job from its beginning to its end.
* `Job.perform`: What a job does if no code calls anything.

## Theorems

* `Does.runs`: A chain is a run.
* `perform_of_runs`, `runs_call`: If no code calls anything a job is done in one way,
  and every call can be made.
* `runs_silent_iff`: What runs are if no code calls anything.
-/

namespace ReadNotify

/-- The operations that code of the program calls. -/
inductive Request where
  | set (n : NotifierKey) (c : ConnKey) (hold : Option ConnKey)
  | unset (n : NotifierKey) (c : ConnKey)
  | shutdown (n : NotifierKey)
  | registered (n : NotifierKey)
  | isRunning (n : NotifierKey)
  | close (c : ConnKey)
  | drop (c : ConnKey)
  /-- A dispatch, and how the body of the callback ends. -/
  | dispatch (c : ConnKey) (size : Nat) (exit : Exit)
  /-- What another thread does before the next call. -/
  | meanwhile (thread : Thread) (ms : List Move)

/-- A call that has not returned. One that registers or unregisters may have come to
    where it locks the state of its notifier, and is told apart then. -/
inductive Pending where
  | registering (n : NotifierKey) (c : ConnKey) (hold : Option ConnKey)
  | unregistering (n : NotifierKey) (c : ConnKey)
  | other (a : Request)

/-- The call. -/
def Pending.call : Pending → Request
  | registering n c hold => .set n c hold
  | unregistering n c => .unset n c
  | other a => a

/-- What a thread has to do: to run code of the program, which is a number of calls,
    to make one call, to destroy a callback if there is one, to let go of handles that
    a destroyed callback kept, to clear a registration if it is of some kind, or those
    of several connections with a registry. -/
inductive Job where
  | code
  | calls
  | call (a : Request)
  | destroy (k : Option CallbackKey)
  | letGo (k : CallbackKey) (hs : List ConnKey)
  | detach (q : Slot → Bool) (c : ConnKey)
  | detachAll (r : RegistryKey) (cs : List ConnKey)

/-- A lock: one that may be held across several operations, or that of a registry. -/
inductive Latch where
  | lasting (l : Lock)
  | registry (r : RegistryKey)
  deriving DecidableEq

/-- What is told of a run. -/
inductive Scene where
  /-- Code of the program begins to run under these locks. -/
  | code (ps : List Pending) (locks : List Latch)
  /-- A lock is asked for under these locks. -/
  | asked (ps : List Pending) (l : Latch) (locks : List Latch)

/-- The registries that are locked when the registration of a slot is moved to one. -/
def Slot.relocks (x : Slot) (r : RegistryKey) : List RegistryKey :=
  match x.registry with
  | some q => if q = r then [] else [q, r]
  | none => [r]

namespace System

/-- The locks that the running thread holds. -/
def latches (s : System) : List Latch := s.held.map .lasting

/-- A lock is asked for, and under it the locks of some registries, one after the
    other. -/
def asks (ps : List Pending) (l : Lock) (rs : List RegistryKey) (s : System) : List Scene :=
  .asked ps (.lasting l) s.latches ::
    rs.map fun r => .asked ps (.registry r) (.lasting l :: s.latches)

/-- The system after another thread, which has its own locks, has done something. -/
def aside (thread : Thread) (ms : List Move) (s : System) : System :=
  { run ms { s with thread, held := [] } with thread := s.thread, held := s.held }

/-- Where a call that registers finds out whether the worker can be started. -/
def entered (n : NotifierKey) (s : System) : System × Except LaunchFault Running :=
  ((s.reapDetached n).acquire (.state n)).ensureRunning n

/-- A thread does a job from its beginning to its end, with code that makes calls of
    some kind. Each rule is one way through an operation, down to where it destroys
    a callback or runs one. -/
inductive Runs (p : Request → Prop) : List Pending → Job → System → List Scene → System → Prop where
  | code {ps es} {s t : System} (hcalls : Runs p ps .calls s es t) :
      Runs p ps .code s (.code ps s.latches :: es) t
  | returns {ps} {s : System} : Runs p ps .calls s [] s
  | calls {ps es es' a} {s u t : System} (ha : p a) (hcall : Runs p ps (.call a) s es u)
      (hrest : Runs p ps .calls u es' t) : Runs p ps .calls s (es ++ es') t
  | vacant {ps} {s : System} : Runs p ps (.destroy none) s [] s
  | spared {ps k} {s : System} (hdead : s.isLive k = false) : Runs p ps (.destroy (some k)) s [] s
  | ended {ps k cb es} {s t : System} (hrow : s.callbacks.get? k = some cb)
      (hlive : cb.ended = none) (hrest : Runs p ps (.letGo k cb.holds) (s.endCallback k) es t) :
      Runs p ps (.destroy (some k)) s es t
  -- Whatever else is destroyed along with a callback comes before each of its handles
  -- and after the last.
  | done {ps k es} {s t : System} (hcode : Runs p ps .code s es t) :
      Runs p ps (.letGo k []) s es t
  | kept {ps k h hs es es'} {s u t : System} (hcode : Runs p ps .code s es u)
      (hheld : (u.letGo k h).isHeld h = true)
      (hrest : Runs p ps (.letGo k hs) (u.letGo k h) es' t) :
      Runs p ps (.letGo k (h :: hs)) s (es ++ es') t
  | closed {ps k h hs es es' es''} {s u v t : System} (hcode : Runs p ps .code s es u)
      (hlast : (u.letGo k h).isHeld h = false)
      (hclear : Runs p ps (.detach (fun _ => true) h) (u.letGo k h) es' v)
      (hrest : Runs p ps (.letGo k hs) (v.disconnect h) es'' t) :
      Runs p ps (.letGo k (h :: hs)) s (es ++ es' ++ es'') t
  | unaltered {ps q c} {s : System} (hnone : q (s.slot c) = true → (s.slot c).registry = none) :
      Runs p ps (.detach q c) s (s.asks ps (.slot c) []) s
  | cleared {ps q c o es} {s u t : System} (hq : q (s.slot c) = true)
      (hclear : s.clearSlot c = (u, some o)) (hrest : Runs p ps (.destroy o) u es t) :
      Runs p ps (.detach q c) s (s.asks ps (.slot c) (s.slot c).registry.toList ++ es) t
  | swept {ps r} {s : System} : Runs p ps (.detachAll r []) s [] s
  | sweeps {ps r c cs es es'} {s u t : System}
      (hfirst : Runs p ps (.detach (fun x => x.registry == some r) c) s es u)
      (hrest : Runs p ps (.detachAll r cs) u es' t) :
      Runs p ps (.detachAll r (c :: cs)) s (es ++ es') t
  | refused {ps n c hold es} {s t : System} (hclosed : s.isConnected c = false)
      (hrest : Runs p (.other (.set n c hold) :: ps) (.destroy (some s.callbacks.size))
        (s.withCallback hold.toList) es t) :
      Runs p ps (.call (.set n c hold)) s es t
  | failed {ps n c hold fault es} {s u t : System} (hopen : s.isConnected c = true)
      (hfault : (s.withCallback hold.toList).entered n = (u, .error fault))
      (hrest : Runs p (.other (.set n c hold) :: ps) (.destroy (some s.callbacks.size))
        (u.release (.state n)) es t) :
      Runs p ps (.call (.set n c hold)) s (s.asks ps (.state n) [] ++ es) t
  | registers {ps n c hold running o appended es} {s u v w : System}
      (hopen : s.isConnected c = true)
      (hrun : (s.withCallback hold.toList).entered n = (u, .ok running))
      (hinstall : u.install c running.registry s.callbacks.size = (v, o, appended))
      (hrest : Runs p (.registering n c hold :: ps) (.destroy o) v es w) :
      Runs p ps (.call (.set n c hold)) s
        (s.asks ps (.state n) [] ++ u.asks (.registering n c hold :: ps) (.slot c)
          ((u.slot c).relocks running.registry) ++ es)
        ((if appended then w.note (.callbackRegistered (w.label c)) else w).release (.state n))
  | unregistered {ps n c} {s : System} (hnone : s.running? n = none) :
      Runs p ps (.call (.unset n c)) s (s.asks ps (.state n) []) s
  | unregisters {ps n c running es} {s u : System} (hrun : s.running? n = some running)
      (hrest : Runs p (.unregistering n c :: ps)
        (.detach (fun x => x.registry == some running.registry) c) (s.acquire (.state n)) es u) :
      Runs p ps (.call (.unset n c)) s (s.asks ps (.state n) [] ++ es)
        ((if (s.slot c).registry == some running.registry then
            u.note (.callbackUnregistered (u.label c)) else u).release (.state n))
  | resting {ps n} {s : System} (hnone : s.running? n = none) :
      Runs p ps (.call (.shutdown n)) s (s.asks ps (.state n) []) (s.reapDetached n)
  | shuts {ps n running es} {s v : System} (hrun : s.running? n = some running)
      (hrest : Runs p (.other (.shutdown n) :: ps) (.detachAll running.registry (s.leftovers n))
        (s.drained n running) es v) :
      Runs p ps (.call (.shutdown n)) s
        (s.asks ps (.state n) [] ++ .asked ps (.registry running.registry) s.latches :: es)
        (v.note (.notifierShutDown (s.leftovers n).length))
  | counts {ps n} {s : System} : Runs p ps (.call (.registered n)) s
      (s.asks ps (.state n) ((s.running? n).map Running.registry).toList) s
  | looks {ps n} {s : System} :
      Runs p ps (.call (.isRunning n)) s (s.asks ps (.state n) []) s
  | closes {ps c es} {s u : System}
      (hrest : Runs p (.other (.close c) :: ps) (.detach (fun _ => true) c) s es u) :
      Runs p ps (.call (.close c)) s es (u.disconnect c)
  | absent {ps c} {s : System} (hnone : s.isOwned c = false) : Runs p ps (.call (.drop c)) s [] s
  | shared {ps c} {s : System} (howned : s.isOwned c = true)
      (hkept : (s.disown c).isHeld c = true) : Runs p ps (.call (.drop c)) s [] (s.disown c)
  | drops {ps c es} {s u : System} (howned : s.isOwned c = true)
      (hlast : (s.disown c).isHeld c = false)
      (hrest : Runs p (.other (.drop c) :: ps) (.detach (fun _ => true) c) (s.disown c) es u) :
      Runs p ps (.call (.drop c)) s es (u.disconnect c)
  | skips {ps c size exit} {s : System} (hnone : (s.slot c).callback = none) :
      Runs p ps (.call (.dispatch c size exit)) s (s.asks ps (.slot c) []) s
  | returned {ps c size es} {taken : Taken} {data} {s u v : System}
      (hbegin : s.begin c size = (u, some (taken, data)))
      (hbody : Runs p (.other (.dispatch c size .returned) :: ps) .code u es v)
      (hback : v.mayReturn taken = true) :
      Runs p ps (.call (.dispatch c size .returned)) s
        (s.asks ps (.slot c) [] ++ es ++ v.asks ps (.slot c) []) (v.putBack taken).1
  | outdated {ps c size es es'} {taken : Taken} {data} {s u v w : System}
      (hbegin : s.begin c size = (u, some (taken, data)))
      (hbody : Runs p (.other (.dispatch c size .returned) :: ps) .code u es v)
      (hback : v.mayReturn taken = false)
      (hrest : Runs p (.other (.dispatch c size .returned) :: ps)
        (.destroy (some taken.callback)) v es' w) :
      Runs p ps (.call (.dispatch c size .returned)) s
        (s.asks ps (.slot c) [] ++ es ++ (v.asks ps (.slot c) [] ++ es'))
        (w.settleTaken taken.callback)
  | panicked {ps c size es es' es''} {taken : Taken} {data} {s u v w t : System}
      (hbegin : s.begin c size = (u, some (taken, data)))
      (hbody : Runs p (.other (.dispatch c size .panicked) :: ps) .code u es v)
      (hclear : Runs p (.other (.dispatch c size .panicked) :: ps)
        (.detach (fun x => x.generation == taken.generation) taken.conn)
        (v.note (.callbackPanicked (v.label taken.conn))) es' w)
      (hrest : Runs p (.other (.dispatch c size .panicked) :: ps)
        (.destroy (some taken.callback)) w es'' t) :
      Runs p ps (.call (.dispatch c size .panicked)) s
        (s.asks ps (.slot c) [] ++ es ++ (es' ++ es'')) (t.settleTaken taken.callback)
  | passes {ps thread ms} {s : System} :
      Runs p ps (.call (.meanwhile thread ms)) s [] (s.aside thread ms)

end System

/-- What a call does if no code calls anything. -/
def Request.perform (a : Request) (s : System) : System :=
  match a with
  | set n c hold => (s.setFresh n c hold).1
  | unset n c => (s.unsetCallback n c).1
  | shutdown n => s.shutdown n
  | registered _ | isRunning _ => s
  | close c => s.close c
  | drop c => (s.dropHandle c).1
  | dispatch c size exit =>
    match s.begin c size with
    | (_, none) => s
    | (s, some (t, _)) => s.finish t exit
  | meanwhile thread ms => s.aside thread ms

/-- What a job does if no code calls anything. -/
def Job.perform (j : Job) (s : System) : System :=
  match j with
  | code | calls => s
  | call a => a.perform s
  | destroy k => s.destroyAny k
  | letGo k hs =>
    hs.foldl (fun s h => System.closeUnheld System.destroy h (s.letGo k h)) s
  | detach q c => if q (s.slot c) then (s.detach c).1 else s
  | detachAll r cs => s.detachAll r cs

namespace System

variable {s t u v w : System} {p : Request → Prop} {ps : List Pending} {es : List Scene}

/-! ### Runs in which no code calls anything -/

/-- What a registration comes to, from where it has made the callback. -/
theorem setFresh_eq (n : NotifierKey) (c : ConnKey) (hold : Option ConnKey) (s : System) :
    s.setFresh n c hold =
      if s.isConnected c then
        match (s.withCallback hold.toList).entered n with
        | (u, .error fault) =>
          ((u.release (.state n)).destroy s.callbacks.size, faultResult fault)
        | (u, .ok running) =>
          let (v, appended) := u.attach c running.registry s.callbacks.size
          let v := if appended then v.note (.callbackRegistered (v.label c)) else v
          (v.release (.state n), .registered)
      else ((s.withCallback hold.toList).destroy s.callbacks.size, .refused .notConnected) := rfl

/-- A connection that has lost its last handle is closed like any other. -/
theorem closeUnheld_eq {h : ConnKey} (hlast : s.isHeld h = false) :
    closeUnheld destroy h s = (s.detach h).1.disconnect h := by
  unfold closeUnheld detach
  rw [hlast, if_neg Bool.false_ne_true]
  rcases s.clearSlot h with ⟨u, _ | _ | j⟩
  · rfl
  · rfl
  · rfl

/-- If no code calls anything, a job is done in one way. -/
theorem perform_of_runs {j : Job} (h : Runs (fun _ => False) ps j s es t) : t = j.perform s := by
  -- By the rules of the run: each is one branch of an operation, and code on the way
  -- leaves the state as it is, since no call of it is allowed.
  induction h with
  | code _ ih => exact ih
  | returns => rfl
  | calls ha _ _ _ _ => exact ha.elim
  | vacant => rfl
  | spared hdead => exact (destroy_of_dead hdead).symm
  | ended hrow hlive _ ih => exact ih.trans (destroy_eq hrow hlive).symm
  | done _ ih => exact ih
  | @kept _ k h hs _ _ s u t _ hheld _ ihcode ihrest =>
      have hu : u = s := ihcode
      rw [hu] at ihrest hheld
      have hfirst : closeUnheld destroy h (s.letGo k h) = s.letGo k h := if_pos hheld
      rw [ihrest, Job.perform, Job.perform, List.foldl_cons, hfirst]
  | @closed _ k h hs _ _ _ s u v t _ hlast _ _ ihcode ihclear ihrest =>
      have hu : u = s := ihcode
      have hv : v = ((u.letGo k h).detach h).1 := ihclear
      rw [hu] at hv hlast
      rw [ihrest, hv, Job.perform, Job.perform, List.foldl_cons, closeUnheld_eq hlast]
  | unaltered hnone =>
      simp only [Job.perform]
      split
      · next hq => rw [detach, clearSlot_of_none (hnone hq)]
      · rfl
  | cleared hq hclear _ ih =>
      rw [ih]
      simp only [Job.perform, hq, if_true, detach, hclear]
  | swept => rfl
  | sweeps _ _ ihfirst ihrest =>
      rw [ihrest, ihfirst]
      simp only [Job.perform, detachAll, detachFrom, beq_iff_eq]
      split
      · rfl
      · rfl
  | refused hclosed _ ih =>
      rw [ih]
      simp only [Job.perform, Request.perform, setFresh_eq, hclosed, Bool.false_eq_true, if_false]
      rfl
  | failed hopen hfault _ ih =>
      rw [ih]
      simp only [Job.perform, Request.perform, setFresh_eq, hopen, if_true, hfault]
      rfl
  | registers hopen hrun hinstall _ ih =>
      rw [ih]
      simp only [Job.perform, Request.perform, setFresh_eq, hopen, if_true, hrun, attach, hinstall]
  | @unregistered _ n c s hnone =>
      have hnone' : (s.acquire (.state n)).running? n = none := hnone
      simp only [Job.perform, Request.perform, unsetCallback, hnone', release_acquire]
  | @unregisters _ n c running _ s u hrun _ ih =>
      have hrun' : (s.acquire (.state n)).running? n = some running := hrun
      rw [ih]
      -- It answers that something was removed exactly if the slot names the registry.
      by_cases hr : (s.slot c).registry = some running.registry
      · have hr' : ((s.acquire (.state n)).slot c).registry = some running.registry := hr
        have hanswer : ((s.acquire (.state n)).detach c).2 = true := by
          rw [detach_answer, hr', Option.isSome_some]
        simp only [Job.perform, Request.perform, unsetCallback, hrun', detachFrom, hr, hr', hanswer,
          beq_self_eq_true, if_true]
      · have hr' : ((s.acquire (.state n)).slot c).registry ≠ some running.registry := hr
        simp only [Job.perform, Request.perform, unsetCallback, hrun', detachFrom, hr, hr',
          beq_iff_eq, if_false, Bool.false_eq_true]
  | @resting _ n s hnone =>
      have hnone' := (quiet_reapDetached n s).running n
      rw [hnone] at hnone'
      simp only [Job.perform, Request.perform, shutdown, takeRunning, hnone']
  | shuts hrun _ ih =>
      rw [ih]
      exact (shutdown_eq hrun).symm
  | counts => rfl
  | looks => rfl
  | closes _ ih =>
      rw [ih]
      rfl
  | absent hnone =>
      simp only [Job.perform, Request.perform, dropHandle_eq, hnone, Bool.false_eq_true, if_false]
  | shared howned hkept =>
      simp only [Job.perform, Request.perform, dropHandle_eq, howned, hkept, if_true]
  | drops howned hlast _ ih =>
      rw [ih]
      simp only [Job.perform, Request.perform, dropHandle_eq, howned, hlast, if_true,
        Bool.false_eq_true, if_false, close]
  | @skips _ c size exit s hnone =>
      simp only [Job.perform, Request.perform, begin_of_none hnone]
  | @returned _ c size _ taken data s u v hbegin _ hback ih =>
      have hv : v = u := ih
      rw [hv]
      simp only [Job.perform, Request.perform, hbegin, finish]
  | @outdated _ c size _ _ taken data s u v w hbegin _ hback _ ihbody ihrest =>
      have hv : v = u := ihbody
      rw [hv] at hback ihrest
      rcases putBack_cases taken u with ⟨hmay, -, -⟩ | ⟨-, -, heq⟩
      · exact absurd (hback.symm.trans hmay) Bool.false_ne_true
      · simp only [ihrest, Job.perform, Request.perform, hbegin, finish, heq, destroyAny]
  | @panicked _ c size _ _ _ taken data s u v w t hbegin _ _ _ ihbody ihclear ihrest =>
      have hv : v = u := ihbody
      rw [hv] at ihclear
      rw [ihrest, ihclear]
      simp only [Job.perform, Request.perform, hbegin, finish, giveUp, detachGeneration, destroyAny,
        beq_iff_eq]
      split
      · rfl
      · rfl
  | passes => rfl

/-- A chore as a job. -/
def Chore.job : Chore → Job
  | destroy k => .destroy (some k)
  | letGo k hs => .letGo k hs

/-- Code that calls nothing. -/
theorem runs_code (p : Request → Prop) (ps : List Pending) (s : System) :
    Runs p ps .code s [.code ps s.latches] s := .code .returns

/-- Clearing a registration is a run if destroying what was in the slot is one. -/
theorem runs_detach_of {q : Slot → Bool} {c : ConnKey} (hq : q (s.slot c) = true)
    (hnone : (s.slot c).registry = none → t = s)
    (hsome : ∀ o u, s.clearSlot c = (u, some o) → ∃ es, Runs p ps (.destroy o) u es t) :
    ∃ es, Runs p ps (.detach q c) s es t := by
  rcases clearSlot_cases c s with ⟨hreg, -⟩ | ⟨conn, r, -, -, -, hclear⟩
  · rw [hnone hreg]
    exact ⟨_, .unaltered fun _ => hreg⟩
  · rcases hsome _ _ hclear with ⟨es, hruns⟩
    exact ⟨_, .cleared hq hclear hruns⟩

/-- A chain is a run in which no code calls anything. -/
theorem Does.runs {chore : Chore} (h : Does chore s t) (p : Request → Prop) (ps : List Pending) :
    ∃ es, Runs p ps chore.job s es t := by
  induction h with
  | spared hdead => exact ⟨_, .spared hdead⟩
  | ended hrow hlive _ ih =>
      rcases ih with ⟨es, hrest⟩
      exact ⟨_, .ended hrow hlive hrest⟩
  | done => exact ⟨_, .done (runs_code p ps _)⟩
  | kept hheld _ ih =>
      rcases ih with ⟨es, hrest⟩
      exact ⟨_, .kept (runs_code p ps _) hheld hrest⟩
  | @closed s t k h hs hlast hnone _ ih =>
      rcases ih with ⟨es, hrest⟩
      have hclear : ∃ es, Runs p ps (.detach (fun _ => true) h) (s.letGo k h) es
          ((s.letGo k h).clearSlot h).1 := by
        refine runs_detach_of rfl (fun hreg => ?_) fun o u heq => ?_
        · rw [clearSlot_of_none hreg]
        · -- Nothing was in the slot.
          rw [heq] at hnone ⊢
          rw [show o = none from hnone]
          exact ⟨_, .vacant⟩
      rcases hclear with ⟨es', hclear⟩
      exact ⟨_, .closed (runs_code p ps s) hlast hclear hrest⟩
  | @chained s u t k j h hs hlast hsome _ _ ihinner ihrest =>
      rcases ihinner with ⟨es', hinner⟩
      rcases ihrest with ⟨es, hrest⟩
      have hclear : ∃ es, Runs p ps (.detach (fun _ => true) h) (s.letGo k h) es u := by
        refine runs_detach_of rfl (fun hreg => ?_) fun o v heq => ?_
        · rw [clearSlot_of_none hreg] at hsome
          exact absurd hsome (by simp only [Option.join_none, reduceCtorEq, not_false_eq_true])
        · rw [heq] at hsome hinner
          rw [show o = some j from hsome]
          exact ⟨es', hinner⟩
      rcases hclear with ⟨es', hclear⟩
      exact ⟨_, .closed (runs_code p ps s) hlast hclear hrest⟩

theorem runs_destroy (p : Request → Prop) (ps : List Pending) (o : Option CallbackKey)
    (s : System) : ∃ es t, Runs p ps (.destroy o) s es t := by
  cases o with
  | none => exact ⟨_, _, .vacant⟩
  | some k =>
      rcases (destroys_destroy k s).runs p ps with ⟨es, h⟩
      exact ⟨es, _, h⟩

theorem runs_letGo (p : Request → Prop) (ps : List Pending) (k : CallbackKey) (hs : List ConnKey)
    (s : System) : ∃ es t, Runs p ps (.letGo k hs) s es t := by
  rcases (does_foldl (fun j u _ => destroys_destroy j u) k hs s (Nat.lt_succ_self _)).runs p ps with
    ⟨es, h⟩
  exact ⟨es, _, h⟩

theorem runs_detach (p : Request → Prop) (ps : List Pending) (q : Slot → Bool) (c : ConnKey)
    (s : System) : ∃ es t, Runs p ps (.detach q c) s es t := by
  by_cases hnone : q (s.slot c) = true → (s.slot c).registry = none
  · exact ⟨_, _, .unaltered hnone⟩
  · rw [Classical.not_imp] at hnone
    -- The slot names a registry, so it is cleared.
    rcases clearSlot_cases c s with ⟨hreg, -⟩ | ⟨conn, r, -, -, -, hclear⟩
    · exact absurd hreg hnone.2
    · rcases runs_destroy p ps (s.slot c).callback _ with ⟨es, t, h⟩
      exact ⟨_, t, .cleared hnone.1 hclear h⟩

theorem runs_detachAll (p : Request → Prop) (ps : List Pending) (r : RegistryKey)
    (cs : List ConnKey) (s : System) : ∃ es t, Runs p ps (.detachAll r cs) s es t := by
  -- One connection after the other, each in the state that the one before has left.
  induction cs generalizing s with
  | nil => exact ⟨_, _, .swept⟩
  | cons c cs ih =>
      rcases runs_detach p ps (fun x => x.registry == some r) c s with ⟨es, u, hfirst⟩
      rcases ih u with ⟨es', t, hrest⟩
      exact ⟨_, t, .sweeps hfirst hrest⟩

/-- Every call can be made, and comes to an end if the code in it calls nothing. -/
theorem runs_call (p : Request → Prop) (ps : List Pending) (a : Request) (s : System) :
    ∃ es t, Runs p ps (.call a) s es t := by
  cases a with
  | set n c hold =>
      cases hopen : s.isConnected c with
      | false =>
          rcases runs_destroy p (.other (.set n c hold) :: ps) (some s.callbacks.size)
            (s.withCallback hold.toList) with ⟨es, t, h⟩
          exact ⟨_, t, .refused hopen h⟩
      | true =>
          rcases hrun : (s.withCallback hold.toList).entered n with ⟨u, fault | running⟩
          · rcases runs_destroy p (.other (.set n c hold) :: ps) (some s.callbacks.size)
              (u.release (.state n)) with ⟨es, t, h⟩
            exact ⟨_, t, .failed hopen hrun h⟩
          · rcases hinstall : u.install c running.registry s.callbacks.size with ⟨v, o, appended⟩
            rcases runs_destroy p (.registering n c hold :: ps) o v with ⟨es, w, h⟩
            exact ⟨_, _, .registers hopen hrun hinstall h⟩
  | unset n c =>
      rcases hrun : s.running? n with _ | running
      · exact ⟨_, _, .unregistered hrun⟩
      · rcases runs_detach p (.unregistering n c :: ps)
          (fun x => x.registry == some running.registry) c (s.acquire (.state n)) with ⟨es, u, h⟩
        exact ⟨_, _, .unregisters hrun h⟩
  | shutdown n =>
      rcases hrun : s.running? n with _ | running
      · exact ⟨_, _, .resting hrun⟩
      · rcases runs_detachAll p (.other (.shutdown n) :: ps) running.registry (s.leftovers n)
          (s.drained n running) with ⟨es, v, h⟩
        exact ⟨_, _, .shuts hrun h⟩
  | registered n => exact ⟨_, _, .counts⟩
  | isRunning n => exact ⟨_, _, .looks⟩
  | close c =>
      rcases runs_detach p (.other (.close c) :: ps) (fun _ => true) c s with ⟨es, u, h⟩
      exact ⟨_, _, .closes h⟩
  | drop c =>
      cases howned : s.isOwned c with
      | false => exact ⟨_, _, .absent howned⟩
      | true =>
          cases hheld : (s.disown c).isHeld c with
          | true => exact ⟨_, _, .shared howned hheld⟩
          | false =>
              rcases runs_detach p (.other (.drop c) :: ps) (fun _ => true) c (s.disown c) with
                ⟨es, u, h⟩
              exact ⟨_, _, .drops howned hheld h⟩
  | dispatch c size exit =>
      rcases hbegin : s.begin c size with ⟨u, _ | ⟨taken, data⟩⟩
      · rcases begin_cases c size s with ⟨hnone, -⟩ | ⟨t, -, -, -, hanswer, -⟩
        · exact ⟨_, _, .skips hnone⟩
        · rw [hbegin] at hanswer
          exact absurd hanswer (by simp only [reduceCtorEq, not_false_eq_true])
      · have hbody := fun exit => runs_code p (.other (.dispatch c size exit) :: ps) u
        cases exit with
        | returned =>
            -- A callback that may not go back into its slot is destroyed behind its call.
            cases hback : u.mayReturn taken with
            | true => exact ⟨_, _, .returned hbegin (hbody _) hback⟩
            | false =>
                rcases runs_destroy p (.other (.dispatch c size .returned) :: ps)
                  (some taken.callback) u with ⟨es, w, h⟩
                exact ⟨_, _, .outdated hbegin (hbody _) hback h⟩
        | panicked =>
            rcases runs_detach p (.other (.dispatch c size .panicked) :: ps)
              (fun x => x.generation == taken.generation) taken.conn
              (u.note (.callbackPanicked (u.label taken.conn))) with ⟨es, w, h⟩
            rcases runs_destroy p (.other (.dispatch c size .panicked) :: ps)
              (some taken.callback) w with ⟨es', t, h'⟩
            exact ⟨_, _, .panicked hbegin (hbody _) h h'⟩
  | meanwhile thread ms => exact ⟨_, _, .passes⟩

/-- A run in which no code calls anything is what the operations do. -/
theorem runs_silent_iff (ps : List Pending) (j : Job) (s t : System) :
    (∃ es, Runs (fun _ => False) ps j s es t) ↔ t = j.perform s := by
  constructor
  · rintro ⟨es, h⟩
    exact perform_of_runs h
  · rintro rfl
    have hruns : ∃ es t, Runs (fun _ => False) ps j s es t := by
      -- Whatever there is to do, some run does it without calling anybody.
      cases j with
      | code => exact ⟨_, _, runs_code _ ps s⟩
      | calls => exact ⟨_, _, .returns⟩
      | call a => exact runs_call _ ps a s
      | destroy o => exact runs_destroy _ ps o s
      | letGo k hs => exact runs_letGo _ ps k hs s
      | detach q c => exact runs_detach _ ps q c s
      | detachAll r cs => exact runs_detachAll _ ps r cs s
    rcases hruns with ⟨es, t, h⟩
    exact ⟨es, perform_of_runs h ▸ h⟩

end System

end ReadNotify
