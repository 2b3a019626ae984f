import ReadNotify.Proofs.Registration.Orderly
import ReadNotify.Proofs.Registry.Removal

/-!
# What a Chain Has Done

After a chain the state tells everything that was done on the way, and nothing
was done that it does not tell. Two lists are enough to say it: the callbacks
that ended, and the connections that were closed. Each callback that lived
before and does not live afterwards has ended once, each connection that was
open before and is not open afterwards was closed once, and both were reported.
The sockets of those connections were closed in that order, and every registry
is what it was without the entries that went.

All this holds of the steps that a chain consists of and is passed on from step
to step, so it is stated for sequences of *chain steps*. They are the links
of a chain without the notes, of which a chain by itself takes none, and with
what is known when the step is taken: what ends was living, and what lets go has
ended.

## Main definitions

* `System.keeps`: The handles of a callback.
* `System.ChainStep`, `System.ChainSteps`: The steps of a chain, and sequences of them.
* `System.Recorded`: What was done, told by two lists.

## Theorems

* `Does.chainSteps`: A chain consists of such steps.
* `recorded_trans`, `recorded_chainSteps`: Chain steps are recorded.
-/

namespace ReadNotify

/-- The connection afterwards, closed or not, with another slot. -/
def Connection.after (isClosed : Bool) (x : Slot) (conn : Connection) : Connection :=
  { (if isClosed then conn.shut else conn) with slot := x }

theorem Connection.after_after (a b : Bool) (x y : Slot) (conn : Connection) :
    (conn.after a x).after b y = conn.after (b || a) y := by
  unfold Connection.after Connection.shut
  cases a with
  | false =>
      cases b with
      | false => rfl
      | true => cases hopen : conn.connected with | false => simp [hopen] | true => simp [hopen]
  | true =>
      -- What was disconnected once is not disconnected again.
      cases hopen : conn.connected with
      | false => cases b with | false => simp | true => simp [hopen]
      | true => cases b with | false => simp | true => simp

namespace System

variable {s t u : System}

/-- The connections of the handles that a callback keeps. -/
def keeps (s : System) (k : CallbackKey) : List ConnKey :=
  match s.callbacks.get? k with
  | some cb => cb.holds
  | none => []

theorem keeps_of_get? {k : CallbackKey} {cb : Callback} (h : s.callbacks.get? k = some cb) :
    s.keeps k = cb.holds := by
  simp only [keeps, h]

theorem keeps_congr (h : t.callbacks = s.callbacks) (k : CallbackKey) : t.keeps k = s.keeps k := by
  rw [keeps, keeps, h]

/-- A connection is held by the program or by what some callback keeps. -/
theorem isHeld_iff_keeps (s : System) (c : ConnKey) :
    s.isHeld c = true ↔ s.isOwned c = true ∨ ∃ k, c ∈ s.keeps k := by
  rw [isHeld_iff]
  refine or_congr_right ⟨fun ⟨k, cb, hrow, hc⟩ => ⟨k, keeps_of_get? hrow ▸ hc⟩, fun ⟨k, hc⟩ => ?_⟩
  rcases hrow : s.callbacks.get? k with _ | cb
  · simp only [keeps, hrow, List.not_mem_nil] at hc
  · exact ⟨k, cb, hrow, keeps_of_get? hrow ▸ hc⟩

/-- The end of a callback takes no handle from it. -/
theorem keeps_endCallback (k : CallbackKey) (s : System) (j : CallbackKey) :
    (s.endCallback k).keeps j = s.keeps j := by
  simp only [keeps, endCallback, Table.get?_update]
  by_cases hj : j = k
  · rw [if_pos hj, hj]
    cases s.callbacks.get? k with
    | none => rfl
    | some cb => rfl
  · rw [if_neg hj]

/-- Letting go of a handle takes it from what one callback keeps. -/
theorem keeps_letGo (k : CallbackKey) (h : ConnKey) (s : System) (j : CallbackKey) :
    (s.letGo k h).keeps j = if j = k then (s.keeps k).erase h else s.keeps j := by
  simp only [keeps, letGo, Table.get?_update]
  -- A callback that does not exist keeps nothing, before and after.
  by_cases hj : j = k
  · rw [if_pos hj, if_pos hj]
    cases s.callbacks.get? k with
    | none => rfl
    | some cb => rfl
  · rw [if_neg hj, if_neg hj]

/-! ### Steps of chains -/

/-- One step of a chain: a living callback ends, one that has ended lets go of a
    handle, a registration is cleared, or a connection without registration is
    disconnected. -/
inductive ChainStep : System → System → Prop where
  | ended (s : System) (k : CallbackKey) (hlive : s.isLive k = true) : ChainStep s (s.endCallback k)
  | released (s : System) (k : CallbackKey) (h : ConnKey) (hdead : s.isLive k = false) :
      ChainStep s (s.letGo k h)
  | cleared (s : System) (c : ConnKey) : ChainStep s (s.clearSlot c).1
  | disconnected (s : System) (c : ConnKey) (h : (s.slot c).registry = none) :
      ChainStep s (s.disconnect c)

/-- Any number of steps. -/
abbrev ChainSteps : System → System → Prop := Relation.ReflTransGen ChainStep

theorem ChainStep.link (h : ChainStep s t) : Link s t := by
  cases h with
  | ended k hlive => exact .ended s k
  | released k h hdead => exact .released s k h
  | cleared c => exact .cleared s c
  | disconnected c h => exact .disconnected s c h

theorem ChainSteps.unwinds (h : ChainSteps s t) : Unwinds s t := by
  induction h with
  | refl => exact Relation.ReflTransGen.refl
  | tail _ hstep ih => exact ih.tail hstep.link

/-- What has ended stays ended. -/
theorem Unwinds.isLive_false (h : Unwinds s t) {k : CallbackKey} (hdead : s.isLive k = false) :
    t.isLive k = false :=
  Bool.eq_false_iff.mpr fun hlive => Bool.eq_false_iff.mp hdead (h.isLive hlive)

/-- What is closed stays closed. -/
theorem Unwinds.isConnected_false (h : Unwinds s t) {c : ConnKey}
    (hclosed : s.isConnected c = false) : t.isConnected c = false :=
  Bool.eq_false_iff.mpr fun hopen => Bool.eq_false_iff.mp hclosed (h.unwound.shut c hopen)

/-- The part of a chain that closes a connection. -/
theorem chainSteps_chained {h : ConnKey} (hinner : ChainSteps (s.clearSlot h).1 u) :
    ChainSteps s (u.disconnect h) :=
  ((Relation.ReflTransGen.single (.cleared s h)).trans hinner).tail
    (.disconnected _ h
      (hinner.unwinds.unwound.registry_none (registry_clearSlot_self h s)))

/-- A chain consists of chain steps. Whoever lets go has ended. -/
theorem Does.chainSteps {chore : Chore} (h : Does chore s t)
    (hended : ∀ k hs, chore = .letGo k hs → s.isLive k = false) : ChainSteps s t := by
  -- What has ended when it lets go of one handle has ended for all others.
  have hgo : ∀ {v w : System} {k : CallbackKey} {hs : List ConnKey}, ChainSteps v w →
      v.isLive k = false →
        ∀ k' hs', Chore.letGo k hs = .letGo k' hs' → w.isLive k' = false := by
    rintro v w k hs hsteps hdead k' hs' ⟨⟩
    exact hsteps.unwinds.isLive_false hdead
  have hdestroy : ∀ {v : System} {k : CallbackKey} (k' : CallbackKey) (hs' : List ConnKey),
      Chore.destroy k = .letGo k' hs' → v.isLive k' = false :=
    fun _ _ heq => absurd heq (by simp only [reduceCtorEq, not_false_eq_true])
  induction h with
  | spared hdead => exact Relation.ReflTransGen.refl
  | @ended s t k cb hrow hlive hrest ih =>
      have hlive' : s.isLive k = true := by rw [isLive_of_get? hrow, hlive]; rfl
      refine (Relation.ReflTransGen.single (.ended s k hlive')).trans (ih ?_)
      rintro k' hs' ⟨⟩
      rw [isLive_endCallback, decide_eq_false (not_not.mpr rfl), Bool.and_false]
  | done => exact Relation.ReflTransGen.refl
  | @kept s t k h hs hheld hrest ih =>
      have hdead := hended k (h :: hs) rfl
      have hfirst : ChainSteps s (s.letGo k h) :=
        Relation.ReflTransGen.single (.released s k h hdead)
      exact hfirst.trans (ih (hgo hfirst hdead))
  | @closed s t k h hs hlast hnone hrest ih =>
      have hdead := hended k (h :: hs) rfl
      have hfirst : ChainSteps s (((s.letGo k h).clearSlot h).1.disconnect h) :=
        (Relation.ReflTransGen.single (.released s k h hdead)).trans
          (chainSteps_chained Relation.ReflTransGen.refl)
      exact hfirst.trans (ih (hgo hfirst hdead))
  | @chained s u t k j h hs hlast hsome hinner hrest ihinner ihrest =>
      have hdead := hended k (h :: hs) rfl
      have hfirst : ChainSteps s (u.disconnect h) :=
        (Relation.ReflTransGen.single (.released s k h hdead)).trans
          (chainSteps_chained (ihinner hdestroy))
      exact hfirst.trans (ihrest (hgo hfirst hdead))

theorem Destroys.chainSteps {k : CallbackKey} (h : Destroys k s t) : ChainSteps s t :=
  Does.chainSteps h fun _ _ heq => absurd heq (by simp only [reduceCtorEq, not_false_eq_true])

/-! ### Records -/

/-- What was done, told by the callbacks that ended and the connections that
    were closed, the latest first. -/
structure Recorded (ks : List CallbackKey) (cs : List ConnKey) (s t : System) : Prop where
  unreported : t.unreported = ks ++ s.unreported
  ended : ∀ k, k ∈ ks ↔ s.isLive k = true ∧ t.isLive k = false
  once : ks.Nodup
  log : t.log = cs.map (fun c => .connectionClosed (s.label c)) ++ s.log
  closed : ∀ c, c ∈ cs ↔ s.isConnected c = true ∧ t.isConnected c = false
  closedOnce : cs.Nodup
  marks : ∀ k, (t.callbacks.get? k).map Callback.ended =
    (s.callbacks.get? k).map fun cb => if k ∈ ks then some s.held else cb.ended
  conn : ∀ c, t.conn? c = (s.conn? c).map (Connection.after (decide (c ∈ cs)) (t.slot c))
  kernel : t.kernel = (cs.reverse.filterMap s.socket?).foldl Kernel.close s.kernel
  registry : ∀ q, ∃ keep, t.registry q = (s.registry q).restrict keep
  counters : t.counters = s.counters
  held : t.held = s.held
  thread : t.thread = s.thread

/-- Nothing was done. -/
theorem recorded_refl (hsound : ∀ q, (s.registry q).Sound) : Recorded [] [] s s := by
  -- Nothing is living and ended in one state.
  have hnever : ∀ b : Bool, ¬ (b = true ∧ b = false) :=
    fun b h => Bool.false_ne_true (h.2.symm.trans h.1)
  refine ⟨rfl, fun k => ⟨fun h => absurd h List.not_mem_nil, fun h => absurd h (hnever _)⟩,
    List.nodup_nil, rfl, fun c => ⟨fun h => absurd h List.not_mem_nil,
      fun h => absurd h (hnever _)⟩,
    List.nodup_nil, fun k => ?_, fun c => ?_, rfl,
    fun q => ⟨fun _ => true, (Registry.restrict_true (hsound q)).symm⟩, rfl, rfl, rfl⟩
  · cases s.callbacks.get? k with
    | none => rfl
    | some cb => rfl
  · rcases hc : s.conn? c with _ | conn
    · rfl
    · rw [slot_of_conn? hc]
      rfl

/-- A connection is called in the log what it was called before. -/
theorem Recorded.label {ks : List CallbackKey} {cs : List ConnKey} (h : Recorded ks cs s t)
    (c : ConnKey) : t.label c = s.label c := by
  rw [System.label, System.label, h.conn]
  rcases s.conn? c with _ | conn
  · rfl
  · simp only [Option.map_some, Connection.after, Connection.shut]
    split
    · split
      · rfl
      · rfl
    · rfl

/-- What is still open has its socket. -/
theorem Recorded.socket? {ks : List CallbackKey} {cs : List ConnKey} (h : Recorded ks cs s t)
    {c : ConnKey} (hc : c ∉ cs) : t.socket? c = s.socket? c := by
  rw [System.socket?, System.socket?, h.conn, decide_eq_false hc]
  rcases s.conn? c with _ | conn
  · rfl
  · rfl

theorem recorded_trans {ks ks' : List CallbackKey} {cs cs' : List ConnKey} (hs : ChainSteps s t)
    (ht : ChainSteps t u) (h : Recorded ks cs s t) (h' : Recorded ks' cs' t u) :
    Recorded (ks' ++ ks) (cs' ++ cs) s u := by
  -- Nothing comes back to life or opens again, so what happens in the two parts is apart.
  have hlive : ∀ k, t.isLive k = true → s.isLive k = true := fun k => hs.unwinds.isLive
  have hopen : ∀ c, t.isConnected c = true → s.isConnected c = true := hs.unwinds.unwound.shut
  have hdead : ∀ k, t.isLive k = false → u.isLive k = false := fun k => ht.unwinds.isLive_false
  have hshut : ∀ c, t.isConnected c = false → u.isConnected c = false := fun c =>
    ht.unwinds.isConnected_false
  have hapart : ∀ c ∈ cs', c ∉ cs := fun c hc' hc =>
    Bool.false_ne_true (((h.closed c).mp hc).2.symm.trans ((h'.closed c).mp hc').1)
  refine ⟨?_, fun k => ?_, ?_, ?_, fun c => ?_, ?_, fun k => ?_, fun c => ?_, ?_, fun q => ?_,
    h'.counters.trans h.counters, h'.held.trans h.held, h'.thread.trans h.thread⟩
  · rw [h'.unreported, h.unreported, List.append_assoc]
  · -- Whatever has ended at the end was living in between, or was not.
    rw [List.mem_append, h.ended, h'.ended]
    cases ht' : t.isLive k with
    | true => simp [hlive k ht']
    | false => simp [hdead k ht']
  · refine List.nodup_append.mpr ⟨h'.once, h.once, ?_⟩
    rintro k hk' _ hk rfl
    exact Bool.false_ne_true (((h.ended k).mp hk).2.symm.trans ((h'.ended k).mp hk').1)
  · rw [h'.log, h.log, List.map_append, List.append_assoc]
    simp only [h.label]
  · rw [List.mem_append, h.closed, h'.closed]
    cases ht' : t.isConnected c with
    | true => simp [hopen c ht']
    | false => simp [hshut c ht']
  · refine List.nodup_append.mpr ⟨h'.closedOnce, h.closedOnce, ?_⟩
    rintro c hc' _ hc rfl
    exact hapart c hc' hc
  · -- A mark is set once and stays.
    have hmarks := h.marks k
    rw [h'.marks]
    rcases hrow : s.callbacks.get? k with _ | cb
    · rw [hrow, Option.map_none, Option.map_eq_none_iff] at hmarks
      rw [hmarks]
      rfl
    · rw [hrow, Option.map_some, Option.map_eq_some_iff] at hmarks
      rcases hmarks with ⟨cb', hrow', hended⟩
      simp only [hrow', Option.map_some, hended, h.held, List.mem_append]
      by_cases hk' : k ∈ ks'
      · rw [if_pos hk', if_pos (Or.inl hk')]
      · rw [if_neg hk']
        simp only [hk', false_or]
  · rw [h'.conn, h.conn, Option.map_map]
    refine congrArg (Option.map · (s.conn? c)) (funext fun conn => ?_)
    rw [Function.comp_apply, Connection.after_after, ← Bool.decide_or]
    simp only [List.mem_append]
  · -- The sockets of the later ones are those they had at the beginning.
    have hsockets : cs'.reverse.filterMap t.socket? = cs'.reverse.filterMap s.socket? :=
      List.filterMap_congr fun c hc => h.socket? (hapart c (List.mem_reverse.mp hc))
    rw [h'.kernel, h.kernel, List.reverse_append, List.filterMap_append, List.foldl_append,
      hsockets]
  · rcases h.registry q with ⟨p, hp⟩
    rcases h'.registry q with ⟨p', hp'⟩
    exact ⟨_, by rw [hp', hp, Registry.restrict_restrict]⟩

/-- A callback that ends is written down once, under the locks held. -/
theorem recorded_ended (hsound : ∀ q, (s.registry q).Sound) {k : CallbackKey}
    (hlive : s.isLive k = true) : Recorded [k] [] s (s.endCallback k) := by
  have h := recorded_refl hsound
  refine ⟨rfl, fun j => ?_, List.nodup_singleton k, rfl, h.closed, List.nodup_nil, fun j => ?_,
    h.conn, rfl, h.registry, rfl, rfl, rfl⟩
  · rw [List.mem_singleton, isLive_endCallback]
    by_cases hj : j = k
    · simp [hj, hlive]
    · simp [hj]
  · simp only [endCallback, Table.get?_update, List.mem_singleton]
    -- Only this one is marked.
    by_cases hj : j = k
    · subst hj
      simp only [if_true, Option.map_map]
      rfl
    · simp only [if_neg hj]

/-- Letting go of a handle is written down nowhere. -/
theorem recorded_released (hsound : ∀ q, (s.registry q).Sound) (k : CallbackKey) (h : ConnKey) :
    Recorded [] [] s (s.letGo k h) := by
  have hrefl := recorded_refl hsound
  refine ⟨rfl, fun j => ?_, List.nodup_nil, rfl, hrefl.closed, List.nodup_nil, fun j => ?_,
    hrefl.conn, rfl, hrefl.registry, rfl, rfl, rfl⟩
  · rw [isLive_letGo]
    exact hrefl.ended j
  · rw [← hrefl.marks j]
    simp only [letGo, Table.get?_update]
    by_cases hj : j = k
    · rw [if_pos hj, hj, Option.map_map]
      rfl
    · rw [if_neg hj]

/-- Clearing a slot takes one entry out of a registry. -/
theorem recorded_cleared (hsound : ∀ q, (s.registry q).Sound) (c : ConnKey) :
    Recorded [] [] s (s.clearSlot c).1 := by
  have hrefl := recorded_refl hsound
  rcases clearSlot_cases c s with ⟨-, heq⟩ | ⟨conn, r, hc, hslot, hr, heq⟩
  · rw [heq]
    exact hrefl
  · have hslots := slot_clearSlot c s
    have hframe := frame_clearSlot c s
    rw [heq] at hslots hframe ⊢
    refine ⟨rfl, hrefl.ended, List.nodup_nil, rfl, fun d => ?_, List.nodup_nil, hrefl.marks,
      fun d => ?_, rfl, fun q => ?_, rfl, rfl, rfl⟩
    · rw [(hframe d).2.1]
      exact hrefl.closed d
    · rw [hslots, conn?_onRegistry, conn?_updateSlot, hr]
      by_cases hd : d = c
      · rw [if_pos hd, if_pos ⟨hd, rfl⟩, hd, hc, ← hslot]
        rfl
      · rw [if_neg hd, if_neg fun h => hd h.1]
        exact hrefl.conn d
    · -- The one entry that goes is the one that is not kept.
      rw [registry_onRegistry]
      split
      · next hq =>
          rw [hq.1]
          exact ⟨(· != conn.id), (hsound r).remove_eq_restrict conn.id⟩
      · exact hrefl.registry q

/-- What a connection is called in the log does not change with the connection. -/
theorem label_updateConn (c : ConnKey) {f : Connection → Connection}
    (hid : ∀ x, (f x).id = x.id) (hnumbered : ∀ x, (f x).numbered = x.numbered) (s : System)
    (d : ConnKey) : (s.updateConn c f).label d = s.label d := by
  rw [label, label, conn?_updateConn]
  by_cases hd : d = c
  · rw [if_pos hd, hd]
    cases s.conn? c with
    | none => rfl
    | some conn => simp only [Option.map_some, hid, hnumbered]
  · rw [if_neg hd]

theorem releaseSocket_frame (c : ConnKey) (s : System) :
    ∃ connections kernel, s.releaseSocket c = { s with connections, kernel } ∧
      (s.releaseSocket c).label c = s.label c := by
  have hlabel := label_updateConn c (f := fun x => { x with socket := none }) (fun _ => rfl)
    (fun _ => rfl) s c
  unfold releaseSocket
  rcases (s.conn? c).bind Connection.socket with _ | q
  · exact ⟨s.connections, s.kernel, rfl, rfl⟩
  · exact ⟨_, s.kernel.close q, rfl, hlabel⟩

/-- A disconnection of what is open is reported, and touches nothing else than
    the connection and the kernel. -/
theorem disconnect_of_open {c : ConnKey} (hopen : s.isConnected c = true) :
    ∃ connections kernel, s.disconnect c =
      { s with connections, kernel, log := .connectionClosed (s.label c) :: s.log } := by
  -- Its label does not depend on what closing rewrites.
  have hmark := label_updateConn c (f := fun x => { x with connected := false }) (fun _ => rfl)
    (fun _ => rfl) s c
  rcases releaseSocket_frame c (s.updateConn c fun x => { x with connected := false }) with
    ⟨connections, kernel, heq, hlabel⟩
  refine ⟨connections, kernel, ?_⟩
  unfold disconnect markClosed
  rw [if_pos hopen]
  dsimp only
  rw [note, hlabel, hmark, heq]
  rfl

/-- Closing what is open is written down once, and closing it again is not. -/
theorem recorded_disconnected (hsound : ∀ q, (s.registry q).Sound) (c : ConnKey) :
    ∃ cs, Recorded [] cs s (s.disconnect c) := by
  have hrefl := recorded_refl hsound
  cases hopen : s.isConnected c with
  | false =>
      have heq : s.disconnect c = s := by
        simp only [disconnect, markClosed, hopen, Bool.false_eq_true, if_false]
      rw [heq]
      exact ⟨[], hrefl⟩
  | true =>
      have hframe := frame_disconnect c s
      have hconn := conn?_disconnect c s
      have hkernel := kernel_disconnect c s
      rcases disconnect_of_open hopen with ⟨connections, kernel, heq⟩
      rw [heq] at hframe hconn hkernel ⊢
      refine ⟨[c], rfl, hrefl.ended, List.nodup_nil, rfl, fun d => ?_, List.nodup_singleton c,
        hrefl.marks, fun d => ?_, ?_, hrefl.registry, rfl, rfl, rfl⟩
      · rw [List.mem_singleton, (hframe d).2.2.2]
        by_cases hd : d = c
        · simp [hd, hopen]
        · simp [hd]
      · -- Its row is shut, and the others stay.
        rw [hconn, (hframe d).1]
        by_cases hd : d = c
        · rw [if_pos hd, hd, decide_eq_true (List.mem_singleton_self c)]
          rcases hc : s.conn? c with _ | conn
          · rfl
          · rw [slot_of_conn? hc, Option.map_some, Option.map_some, Connection.after, if_pos rfl,
              Connection.shut]
            split
            · rfl
            · rfl
        · rw [if_neg hd, decide_eq_false fun h => hd (List.mem_singleton.mp h)]
          exact hrefl.conn d
      · rw [hkernel, if_pos hopen]
        rcases hq : s.socket? c with _ | q
        · simp [hq]
        · simp [hq]

theorem recorded_chainStep (hsound : ∀ q, (s.registry q).Sound) (h : ChainStep s t) :
    ∃ ks cs, Recorded ks cs s t := by
  cases h with
  | ended k hlive => exact ⟨[k], [], recorded_ended hsound hlive⟩
  | released k c hdead => exact ⟨[], [], recorded_released hsound k c⟩
  | cleared c => exact ⟨[], [], recorded_cleared hsound c⟩
  | disconnected c h => exact ⟨[], recorded_disconnected hsound c⟩

/-- Any number of steps leave a record, as long as registries stay sound. -/
theorem recorded_chainSteps_of_sound (h : ChainSteps s t)
    (hsound : ∀ v, Unwinds s v → ∀ q, (v.registry q).Sound) : ∃ ks cs, Recorded ks cs s t := by
  induction h with
  | refl => exact ⟨[], [], recorded_refl (hsound s Relation.ReflTransGen.refl)⟩
  | @tail t u hsteps hstep ih =>
      rcases ih with ⟨ks, cs, hrecorded⟩
      rcases recorded_chainStep (hsound t (ChainSteps.unwinds hsteps)) hstep with ⟨ks', cs', hlast⟩
      exact ⟨_, _, recorded_trans hsteps (Relation.ReflTransGen.single hstep) hrecorded hlast⟩

/-- Chain steps are recorded. -/
theorem recorded_chainSteps {away : Option RegistryKey} (h : ChainSteps s t)
    (hs : s.Coherent away) :
    ∃ ks cs, Recorded ks cs s t :=
  recorded_chainSteps_of_sound h fun _ hv => (coherent_unwinds hv hs).sound

end System

end ReadNotify
