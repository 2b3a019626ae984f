import ReadNotify.Proofs.Registration.Enrolled
import ReadNotify.Proofs.Shutdown.Release

/-!
# What Falls With an Operation

An operation that destroys a callback or gives a handle up works on connections of its
own first, mostly on one: it marks the handle as given up, puts a callback into the
slot, or empties the registry that is shut down. Then things fall, and what falls may
belong to anybody. At last it settles what was out and writes to the log.

The first part concerns its own connections and the callbacks there are, and in the
registries the entries of its own connections only. In the second, step by step, other
connections change only by being closed. The third changes nothing of interest.

## Main definitions

* `Registry.Aligned`: Entries that stay keep their order and their side of the scan.
* `Handling.releases`, `Handling.IsOwn`: Such operations and their own connections.
* `System.Outset`, `System.Trails`: What comes before and after what falls.
* `System.Fells`: What falls.
* `System.Collapses`: The three parts.

## Theorems

* `collapses_releases`, `collapses_perform`: Every such operation has these parts.
-/

namespace ReadNotify

namespace Registry

variable {r r' : Registry}

/-- What is listed before and after is in the same order, on the same side of the
    scan. -/
structure Aligned (r r' : Registry) : Prop where
  passed : r'.passed.filter (· ∈ r.order) = r.passed.filter (· ∈ r'.order)
  upcoming : r'.upcoming.filter (· ∈ r.order) = r.upcoming.filter (· ∈ r'.order)

/-- A registry is aligned with itself. -/
theorem aligned_refl (r : Registry) : Aligned r r := ⟨rfl, rfl⟩

/-- Nothing stays in a registry that was emptied, so there is nothing to compare. -/
theorem aligned_empty (r : Registry) : Aligned r empty := by
  have hnone : ∀ ids : List ConnId, ids.filter (· ∈ empty.order) = [] := fun ids =>
    List.filter_eq_nil_iff.mpr fun id _ => by simp only [empty, List.not_mem_nil, decide_false,
      Bool.false_eq_true, not_false_eq_true]
  refine ⟨?_, ?_⟩
  · rw [hnone]
    rfl
  · rw [hnone]
    rfl

/-- Taking entries out moves no other one. -/
theorem Aligned.restrict (h : Aligned r r') (keep : ConnId → Bool) :
    Aligned r (r'.restrict keep) := by
  -- On each side the entries that stay are those of before that are kept.
  have hside : ∀ {ids ids' : List ConnId}, ids'.filter (· ∈ r.order) = ids.filter (· ∈ r'.order) →
      (ids'.filter keep).filter (· ∈ r.order) = ids.filter (· ∈ (r'.restrict keep).order) := by
    intro ids ids' hsame
    rw [List.filter_filter]
    have hcomm : ids'.filter (fun id => decide (id ∈ r.order) && keep id) =
        (ids'.filter (· ∈ r.order)).filter keep := by
      rw [List.filter_filter]
      exact List.filter_congr fun id _ => Bool.and_comm _ _
    rw [hcomm, hsame, List.filter_filter]
    refine List.filter_congr fun id _ => ?_
    rw [Registry.restrict, Bool.eq_iff_iff, Bool.and_eq_true, decide_eq_true_eq, decide_eq_true_eq,
      List.mem_filter, and_comm]
  refine ⟨?_, ?_⟩
  · rw [passed_restrict]
    exact hside h.passed
  · rw [upcoming_restrict]
    exact hside h.upcoming

/-- Removing an entry is taking entries out. -/
theorem Sound.aligned_remove (h : r.Sound) (id : ConnId) : Aligned r (r.remove id).1 := by
  rw [h.remove_eq_restrict]
  exact (aligned_refl r).restrict _

/-- A new entry is behind all others. -/
theorem Sound.aligned_append (h : r.Sound) (id : ConnId) (conn : ConnKey) :
    Aligned r (r.append id conn).1 := by
  rcases h.append_eq id conn with ⟨-, hcursor, horder⟩
  by_cases hid : id ∈ r.order
  · rw [if_pos hid] at horder
    refine ⟨?_, ?_⟩
    · rw [passed, passed, horder, hcursor]
    · rw [upcoming, upcoming, horder, hcursor]
  · rw [if_neg hid] at horder
    -- All but the new entry were listed before and are now.
    have hmem : ∀ ids : List ConnId, ids ⊆ r.order →
        ids.filter (· ∈ r.order) = ids.filter (· ∈ (r.append id conn).1.order) := by
      intro ids hids
      refine List.filter_congr fun d hd => ?_
      rw [horder, decide_eq_true (hids hd), decide_eq_true (List.mem_append_left _ (hids hd))]
    have hpassed : (r.append id conn).1.passed = r.passed := by
      rw [passed, passed, horder, hcursor, List.take_append_of_le_length h.cursor_le]
    -- The new entry is ahead of the scan, behind all others.
    have hupcoming : (r.append id conn).1.upcoming = r.upcoming ++ [id] := by
      rw [upcoming, upcoming, horder, hcursor, List.drop_append_of_le_length h.cursor_le]
    refine ⟨?_, ?_⟩
    · rw [hpassed]
      exact hmem _ (List.take_subset _ _)
    · rw [hupcoming, List.filter_append, List.filter_singleton, decide_eq_false hid]
      exact (List.append_nil _).trans (hmem _ (List.drop_subset _ _))

end Registry

/-- Whether a move destroys callbacks or gives handles up. -/
def Move.releases : Move → Bool
  | close _ | drop _ | set .. | unset .. | shutdown _ | finish .. | attach .. | detach _
  | detachFrom .. | detachGeneration .. | forget _ => true
  | _ => false

/-- Whether a handling destroys callbacks or gives handles up. -/
def Handling.releases : Handling → Bool
  | .move m => m.releases
  | .restore _ _ => true

/-- The connections that a handling is about. A shutdown is about those that are
    registered with the notifier. -/
def Handling.IsOwn (e : Handling) (s : System) (c : ConnKey) : Prop :=
  match e with
  | .move (.close d) | .move (.drop d) | .move (.set _ d _) | .move (.unset _ d)
  | .move (.attach d _ _) | .move (.detach d) | .move (.detachFrom d _)
  | .move (.detachGeneration d _) => c = d
  | .move (.finish x _) | .move (.forget x) | .restore x _ => c = x.conn
  | .move (.shutdown n) => s.serves n c
  | .move _ => False

namespace System

variable {s t u v : System} {own : ConnKey → Prop}

/-- What an operation does before anything falls: it works on its own connections,
    and in registries on their entries. -/
structure Outset (own : ConnKey → Prop) (s u : System) : Prop where
  enrolled : u.Enrolled
  conn : ∀ c, ¬ own c → u.conn? c = s.conn? c
  ident : ∀ c, u.ident c = s.ident c
  isConnected : ∀ c, u.isConnected c = s.isConnected c
  socket : ∀ c, u.socket? c = s.socket? c
  sockets : u.kernel.sockets = s.kernel.sockets
  aligned : ∀ q, Registry.Aligned (s.registry q) (u.registry q)
  listed : ∀ c id q, ¬ own c → s.ident c = some id →
    (id ∈ (u.registry q).order ↔ id ∈ (s.registry q).order)

/-- What an operation does after all has fallen: nothing to connections, registries
    and the kernel. -/
structure Trails (v t : System) : Prop where
  connections : t.connections = v.connections
  kernel : t.kernel = v.kernel
  registries : t.registries = v.registries

/-- Things fall, and of what falls other connections notice only that they are
    closed. -/
structure Fells (own : ConnKey → Prop) (u v : System) : Prop where
  chainSteps : ChainSteps u v
  slots : ∀ c, ¬ own c → v.isConnected c = true → v.slot c = u.slot c

/-- An operation works on its own connections, then things fall, and nothing else. -/
def Collapses (own : ConnKey → Prop) (s t : System) : Prop :=
  ∃ u v, Outset own s u ∧ Fells own u v ∧ Trails v t

theorem trails_refl (s : System) : Trails s s := ⟨rfl, rfl, rfl⟩

/-- Locks and records may change after all has fallen. -/
theorem Noted.trails (h : Noted s t) : Trails s t := by
  rcases h with ⟨held, log, rfl⟩
  exact ⟨rfl, rfl, rfl⟩

/-- So may the list of what is out. -/
theorem trails_settleTaken (k : CallbackKey) (s : System) : Trails s (s.settleTaken k) :=
  ⟨rfl, rfl, rfl⟩

/-- Workers come and go, callbacks are made, and the log is written. -/
theorem outset_of_tables (h : u.Enrolled) (hconns : u.connections = s.connections)
    (hsockets : u.kernel.sockets = s.kernel.sockets)
    (hregistry : ∀ q, u.registry q = s.registry q) : Outset own s u := by
  have hconn : ∀ c, u.conn? c = s.conn? c := fun c => by rw [conn?, conn?, hconns]
  refine ⟨h, fun c _ => hconn c, fun c => ident_congr (hconn c),
    fun c => isConnected_congr (hconn c), fun c => socket?_congr (hconn c), hsockets,
    fun q => ?_, fun _ _ q _ _ => ?_⟩
  · rw [hregistry]
    exact Registry.aligned_refl _
  · rw [hregistry]

/-- Some operations do nothing before things fall. -/
theorem outset_refl (h : s.Enrolled) : Outset own s s := outset_of_tables h rfl rfl fun _ => rfl

/-- Or they take a lock and write to the log. -/
theorem Noted.outset (h : s.Enrolled) (hnoted : Noted s u) : Outset own s u := by
  rcases hnoted with ⟨held, log, rfl⟩
  exact outset_of_tables (h.congr (fun _ => rfl) rfl) rfl rfl fun _ => rfl

/-- Two first parts in a row are one if the first of them leaves all registries alone.
    -/
theorem Outset.trans {w : System} (h : Outset own s u) (h' : Outset own u w)
    (hsame : ∀ q, u.registry q = s.registry q) : Outset own s w := by
  refine ⟨h'.enrolled, fun c hc => (h'.conn c hc).trans (h.conn c hc),
    fun c => (h'.ident c).trans (h.ident c), fun c => (h'.isConnected c).trans (h.isConnected c),
    fun c => (h'.socket c).trans (h.socket c), h'.sockets.trans h.sockets, fun q => ?_,
    fun c id q hc hid => ?_⟩
  · rw [← hsame]
    exact h'.aligned q
  · rw [← hsame]
    exact h'.listed c id q hc ((h.ident c).trans hid)

/-- Rewriting its own connection, but neither identity nor socket nor whether it is
    open. -/
theorem outset_updateConn {c : ConnKey} {f : Connection → Connection}
    (henrolled : (s.updateConn c f).Enrolled) (hid : ∀ x, (f x).id = x.id)
    (hsocket : ∀ x, (f x).socket = x.socket) (hconnected : ∀ x, (f x).connected = x.connected) :
    Outset (· = c) s (s.updateConn c f) := by
  have hidle := idle_updateConn c hid hsocket hconnected s
  refine ⟨henrolled, fun d hd => ?_, hidle.ident, hidle.still.steady.isConnected,
    hidle.still.steady.socket, rfl, fun q => Registry.aligned_refl _, fun _ _ _ _ _ => Iff.rfl⟩
  rw [conn?_updateConn, if_neg hd]

/-! ### Putting a callback into a slot -/

/-- The connection is listed in its new registry and in no other. All other entries stay
    where they are. -/
theorem outset_install (h : s.Enrolled) {c : ConnKey} (hopen : s.isConnected c = true)
    (r : RegistryKey) (k : CallbackKey) : Outset (· = c) s (s.install c r k).1 := by
  have henrolled := enrolled_install h hopen r k
  have hregistry : ∀ q, (s.install c r k).1.registry q = (s.relist c r).1.registry q := fun q => by
    rw [install_eq]
    rfl
  have hcases := registry_relist c r s
  simp only [← hregistry] at hcases
  -- Besides the registries only the slot is written.
  have hother : ∀ d, d ≠ c →
      (s.updateSlot c fun x => ⟨some k, some r, x.generation + 1⟩).conn? d = s.conn? d := by
    intro d hd
    rw [conn?_updateSlot, if_neg hd]
  have hidle := idle_updateSlot c (fun x => ⟨some k, some r, x.generation + 1⟩) s
  rcases install_frame c r k s with ⟨registries, -, heq⟩
  refine ⟨henrolled, fun d hd => ?_, fun d => ?_, fun d => ?_, fun d => ?_, ?_, fun q => ?_,
    fun d id q hd hid => ?_⟩
  · rw [heq]
    exact hother d hd
  · rw [heq]
    exact hidle.ident d
  · rw [heq]
    exact hidle.still.steady.isConnected d
  · rw [heq]
    exact hidle.still.steady.socket d
  · rw [heq]
    rfl
  · rcases hcases q with ⟨hsame, -⟩ | ⟨-, id, -, hsame⟩ | ⟨-, -, id, -, hsame⟩
    · rw [hsame]
      exact Registry.aligned_refl _
    · rw [hsame]
      exact (h.sound q).aligned_remove id
    · rw [hsame]
      exact (h.sound q).aligned_append id c
  · rcases hcases q with ⟨hsame, -⟩ | ⟨-, id', hid', hsame⟩ | ⟨-, -, id', hid', hsame⟩
    · rw [hsame]
    · have hne : id ≠ id' := fun heq => hd (h.ident_inj hid (heq ▸ hid'))
      rw [hsame, (h.sound q).remove_eq_restrict, Registry.restrict, List.mem_filter,
        and_iff_left (bne_iff_ne.mpr hne)]
    · have hne : id ≠ id' := fun heq => hd (h.ident_inj hid (heq ▸ hid'))
      rw [hsame, ((h.sound q).append_eq id' c).2.2]
      split
      · exact Iff.rfl
      · rw [List.mem_append, List.mem_singleton, or_iff_left hne]

/-! ### What falls -/

theorem fells_refl (own : ConnKey → Prop) (s : System) : Fells own s s :=
  ⟨Relation.ReflTransGen.refl, fun _ _ _ => rfl⟩

/-- What falls may fall in several chains, one after the other. -/
theorem fells_trans (h : Fells own s t) (h' : Fells own t u) : Fells own s u := by
  refine ⟨Relation.ReflTransGen.trans h.chainSteps h'.chainSteps, fun c hc hopen => ?_⟩
  -- What is open at the end was open in between.
  have hopen' := (ChainSteps.unwinds h'.chainSteps).unwound.shut c hopen
  exact (h'.slots c hc hopen).trans (h.slots c hc hopen')

/-- A chain gets to the slot of another connection only by closing that. -/
theorem fells_destroy (k : CallbackKey) (s : System) : Fells own s (s.destroy k) :=
  ⟨(destroys_destroy k s).chainSteps, fun c _ => slot_destroy k s c⟩

theorem fells_destroyAny (k : Option CallbackKey) (s : System) : Fells own s (s.destroyAny k) := by
  cases k with
  | none => exact fells_refl own s
  | some k => exact fells_destroy k s

/-- The slot that is cleared belongs to the operation's own connection. -/
theorem fells_detach (c : ConnKey) (s : System) : Fells (· = c) s (s.detach c).1 := by
  refine ⟨chainSteps_detach c s, fun d hd hopen => ?_⟩
  rw [slot_detach c s d hopen, if_neg fun h => hd h.1]

theorem fells_detachFrom (c : ConnKey) (r : RegistryKey) (s : System) :
    Fells (· = c) s (s.detachFrom c r).1 := by
  unfold detachFrom
  split
  · exact fells_detach c s
  · exact fells_refl _ s

theorem fells_detachGeneration (c : ConnKey) (g : UInt64) (s : System) :
    Fells (· = c) s (s.detachGeneration c g).1 := by
  unfold detachGeneration
  split
  · exact fells_detach c s
  · exact fells_refl _ s

/-- As does the one that is closed. -/
theorem fells_close (c : ConnKey) (s : System) : Fells (· = c) s (s.close c) := by
  refine ⟨(cuts_close c s).chainSteps, fun d _ hopen => ?_⟩
  -- What has lost its slot is closed, and only open ones are asked about.
  rcases swept_close c s d with hsame | ⟨-, -, hclosed⟩
  · exact hsame
  · exact absurd (hclosed.symm.trans hopen) Bool.false_ne_true

/-! ### Operations -/

/-- The three parts are put together. -/
theorem Outset.collapses (h : Outset own s u) (hfells : Fells own u v) (htrails : Trails v t) :
    Collapses own s t := ⟨u, v, h, hfells, htrails⟩

/-- An operation may also find nothing to do. -/
theorem collapses_refl (h : s.Enrolled) : Collapses own s s :=
  (outset_refl h).collapses (fells_refl own s) (trails_refl s)

/-- The handle is given up, and the connection is closed if that was the last one. -/
theorem collapses_drop (h : s.Enrolled) (c : ConnKey) :
    Collapses (· = c) s (s.dropHandle c).1 := by
  have hframe := frame_disown c s
  have hdisown : Outset (· = c) s (s.disown c) := by
    refine outset_updateConn (f := fun x => { x with owned := false }) ?_ (fun _ => rfl)
      (fun _ => rfl) (fun _ => rfl)
    refine h.mono (fun d => (hframe d).2.1) (fun d => congrArg Slot.registry (hframe d).1)
      (fun d k hk => ?_) (fun d hd => (hframe d).2.2.1 ▸ hd) (fun q => ⟨h.sound q, fun e he => he⟩)
    have hslot := (hframe d).1
    rw [disown] at hslot
    rw [hslot] at hk ⊢
    exact h.filled d k hk
  -- There was no handle, or another one is left, or this was the last.
  rcases dropHandle_cases c s with heq | ⟨-, heq⟩ | ⟨-, heq⟩
  · rw [heq]
    exact collapses_refl h
  · rw [heq]
    exact hdisown.collapses (fells_refl _ _) (trails_refl _)
  · rw [heq]
    exact hdisown.collapses (fells_close c _) (trails_refl _)

/-- What may go back fills the slot again, and what may not ends. -/
theorem collapses_putBack (h : s.Enrolled) (x : Taken) :
    Collapses (· = x.conn) s (s.putBack x).1 := by
  rcases putBack_cases x s with ⟨hmay, -, heq⟩ | ⟨-, -, heq⟩
  · rw [heq]
    simp only [mayReturn, Bool.and_eq_true] at hmay
    have hupdate : Outset (· = x.conn) s
        (s.updateSlot x.conn fun y => { y with callback := some x.callback }) :=
      outset_updateConn (f := fun conn => { conn with slot := { conn.slot with
        callback := some x.callback } })
        (enrolled_refill h x.conn (some x.callback) (fun _ => hmay.1.2) s.out)
        (fun _ => rfl) (fun _ => rfl) (fun _ => rfl)
    exact hupdate.collapses (fells_refl _ _) (trails_settleTaken _ _)
  · rw [heq]
    exact (outset_refl h).collapses (fells_destroy x.callback s) (trails_settleTaken _ _)

/-- A dispatch ends by putting back, or by clearing what was registered and destroying
    it. -/
theorem collapses_finish (h : s.Enrolled) (x : Taken) (exit : Exit) :
    Collapses (· = x.conn) s (s.finish x exit) := by
  cases exit with
  | returned => exact collapses_putBack h x
  | panicked =>
      rcases giveUp_eq x s with ⟨v, hnoted, heq⟩
      rw [finish, heq]
      exact (hnoted.outset h).collapses
        (fells_trans (fells_detachGeneration x.conn x.generation v) (fells_destroy x.callback _))
        (trails_settleTaken _ _)

theorem collapses_unset (h : s.Enrolled) (n : NotifierKey) (c : ConnKey) :
    Collapses (· = c) s (s.unsetCallback n c).1 := by
  rcases unsetCallback_cases n c s with ⟨-, -, hnoted⟩ | ⟨running, -, -, hnoted⟩
  · exact (outset_refl h).collapses (fells_refl _ s) hnoted.trails
  · have hlocked : Outset (· = c) s (s.acquire (.state n)) := Noted.outset h ⟨_, _, rfl⟩
    exact hlocked.collapses (fells_detachFrom c running.registry _) hnoted.trails

/-! ### Notifiers -/

/-- A worker that was set aside is joined before anything else is done. -/
theorem outset_reapDetached (h : s.Enrolled) (n : NotifierKey) :
    Outset own s (s.reapDetached n) := by
  have henrolled := enrolled_quiet h (quiet_reapDetached n s)
  rcases reapDetached_frame n s with ⟨interests, notifiers, workers, heq⟩
  rw [heq] at henrolled ⊢
  exact outset_of_tables henrolled rfl rfl fun _ => rfl

/-- What a worker that cannot be started leaves behind, or one that is running. -/
theorem outset_ensureRunning (h : s.Enrolled) (n : NotifierKey) :
    Outset own s (s.ensureRunning n).1 ∧ ∀ q, (s.ensureRunning n).1.registry q = s.registry q := by
  have hsockets : (s.ensureRunning n).1.kernel.sockets = s.kernel.sockets := by
    unfold ensureRunning
    rcases s.notifiers.get? n with _ | notifier
    · rfl
    · dsimp only
      rcases notifier.running with _ | running
      · exact (sockets_startWorker n notifier.config notifier.counters s).2
      · rfl
  rcases ensureRunning_cases n s with ⟨fault, k, heq⟩ | ⟨running, u, heq, hready⟩
  · rw [heq] at hsockets ⊢
    exact ⟨outset_of_tables (h.congr (fun _ => rfl) rfl) rfl hsockets fun _ => rfl, fun _ => rfl⟩
  · have hregistry : ∀ q, u.registry q = s.registry q := by
      intro q
      rcases hready.started with ⟨-, hregs, -⟩ | ⟨-, hregs, -, -⟩
      · rw [registry, registry, hregs]
      · rw [registry, hregs, registry_add_empty]
    rw [heq] at hsockets ⊢
    exact ⟨outset_of_tables (enrolled_readied h hready) hready.connections hsockets hregistry,
      hregistry⟩

/-- A registration: the worker is looked after first, then the slot is filled, and what
    it replaces falls. -/
theorem collapses_setFresh (h : s.Enrolled) (n : NotifierKey) (c : ConnKey)
    (hold : Option ConnKey) : Collapses (· = c) s (s.setFresh n c hold).1 := by
  have hfresh : (s.addCallback hold).1.Enrolled := h.congr (fun _ => rfl) rfl
  have hadd : Outset (· = c) s (s.addCallback hold).1 :=
    outset_of_tables hfresh rfl rfl fun _ => rfl
  unfold setFresh setCallback register registerOn
  by_cases hopen : s.isConnected c = true
  · -- Up to the attaching nothing happens but to workers.
    have hreap : Outset (· = c) (s.addCallback hold).1 ((s.addCallback hold).1.reapDetached n) :=
      outset_reapDetached hfresh n
    have hregistry : ∀ q, ((s.addCallback hold).1.reapDetached n).registry q = s.registry q := by
      intro q
      rcases reapDetached_frame n (s.addCallback hold).1 with ⟨interests, notifiers, workers, heq⟩
      rw [heq]
      rfl
    have hlocked : Outset (· = c) s (((s.addCallback hold).1.reapDetached n).acquire (.state n)) :=
      (hadd.trans hreap fun _ => rfl).trans (Noted.outset hreap.enrolled ⟨_, _, rfl⟩) hregistry
    have hstarted : Outset (· = c) _ _ ∧ _ := outset_ensureRunning hlocked.enrolled n
    rcases hstarted with ⟨hensure, hkept⟩
    have hready := hlocked.trans hensure hregistry
    rw [if_pos (show (s.addCallback hold).1.isConnected c = true from hopen)]
    dsimp only
    rcases hrunning : (((s.addCallback hold).1.reapDetached n).acquire (.state n)).ensureRunning n
      with ⟨u, fault | running⟩
    · rw [hrunning] at hready hkept
      have hreleased : Outset (· = c) s (u.release (.state n)) :=
        hready.trans (Noted.outset hready.enrolled ⟨_, _, rfl⟩) fun q =>
          (hkept q).trans (hregistry q)
      exact hreleased.collapses (fells_destroy _ _) (trails_refl _)
    · rw [hrunning] at hready hkept
      have hopen' : u.isConnected c = true := (hready.isConnected c).trans hopen
      have hinstall := hready.trans (outset_install hready.enrolled hopen' running.registry
        (s.addCallback hold).2) fun q => (hkept q).trans (hregistry q)
      refine hinstall.collapses (fells_destroyAny
        (u.install c running.registry (s.addCallback hold).2).2.1 _) ?_
      dsimp only
      split
      · exact ⟨rfl, rfl, rfl⟩
      · exact ⟨rfl, rfl, rfl⟩
  · rw [if_neg (show ¬ (s.addCallback hold).1.isConnected c = true from hopen)]
    exact hadd.collapses (fells_destroy _ _) (trails_refl _)

/-- A registry that is emptied has the connections that name it for its own. -/
theorem fells_detachAll {r : RegistryKey} (cs : List ConnKey) (s : System)
    (hown : ∀ c, (s.slot c).registry = some r → own c) : Fells own s (s.detachAll r cs) := by
  refine ⟨(clears_detachAll r cs s).chainSteps, fun c hc hopen => ?_⟩
  exact slot_detachAll r cs s c (fun hr => hc (hown c hr)) hopen

/-- The notifier's connections are those that name its registry. All of them are
    cleared, and others only fall. -/
theorem collapses_shutdown (h : s.Enrolled) (n : NotifierKey) :
    Collapses (s.serves n) s (s.shutdown n) := by
  rcases hrunning : s.running? n with _ | running
  · have hidle : s.shutdown n = s.reapDetached n := by
      unfold shutdown clearLeft takeRunning
      rw [(quiet_reapDetached n s).running n, hrunning]
    rw [hidle]
    exact (outset_reapDetached h n).collapses (fells_refl _ _) (trails_refl _)
  · rw [shutdown_eq hrunning]
    -- The worker is stopped and the registry emptied before anything falls.
    have hregistry := registry_drained n running s
    have henrolled : (s.drained n running).Enrolled := by
      have hreap := enrolled_quiet h (quiet_reapDetached n s)
      have htake : ((s.reapDetached n).updateNotifier n fun x =>
          { x with running := none }).Enrolled := hreap.congr (fun _ => rfl) rfl
      exact enrolled_onRegistry (enrolled_quiet htake (quiet_stopWorker n running.worker _))
        running.registry _ ⟨Registry.sound_empty, fun e he => absurd he List.not_mem_nil⟩
    rcases same_drained n running s with ⟨hopen, -, -, hslot⟩
    rcases drained_frame n running s with ⟨interests, notifiers, workers, registries, log, heq⟩
    have hdrained : Outset (s.serves n) s (s.drained n running) := by
      refine ⟨henrolled, fun c _ => by rw [heq]; rfl, fun c => by rw [heq]; rfl, hopen,
        fun c => by rw [heq]; rfl, by rw [heq], fun q => ?_, fun c id q hc hid => ?_⟩
      · rw [hregistry]
        split
        · exact Registry.aligned_empty _
        · exact Registry.aligned_refl _
      · rw [hregistry]
        split
        · next hq =>
            -- What was listed there was registered there.
            refine iff_of_false (fun hmem => absurd hmem List.not_mem_nil) (h.notMem_order hid ?_)
            exact fun hr => hc ⟨running, hrunning, hr.trans (congrArg some hq)⟩
        · exact Iff.rfl
    refine hdrained.collapses (fells_detachAll _ _ fun c hc => ?_) ⟨rfl, rfl, rfl⟩
    exact ⟨running, hrunning, hslot c ▸ hc⟩

/-- Every operation that destroys callbacks or gives handles up works on its own
    connections, and then things fall. What is attached has to be open. -/
theorem collapses_releases {e : Handling}
    (hopen : ∀ c r hold, e = .move (.attach c r hold) → s.isConnected c = true)
    (hreleases : e.releases = true) (h : s.Enrolled) : Collapses (e.IsOwn s) s (e.perform s) := by
  cases e with
  | restore x generation =>
      rw [Handling.perform]
      split
      · exact collapses_putBack h { x with generation }
      · exact collapses_refl h
  | move m =>
      cases m with
      | close c => exact (outset_refl h).collapses (fells_close c s) (trails_refl _)
      | drop c => exact collapses_drop h c
      | set n c hold => exact collapses_setFresh h n c hold
      | unset n c => exact collapses_unset h n c
      | shutdown n => exact collapses_shutdown h n
      | finish x exit =>
          rw [Handling.perform, Move.perform]
          split
          · exact collapses_finish h x exit
          · exact collapses_refl h
      | attach c r hold =>
          have hfresh : (s.addCallback hold).1.Enrolled := h.congr (fun _ => rfl) rfl
          have hadd : Outset (· = c) s (s.addCallback hold).1 :=
            outset_of_tables hfresh rfl rfl fun _ => rfl
          -- The callback that is replaced falls when the new one is in its place.
          exact (hadd.trans (outset_install hfresh (hopen c r hold rfl) r _) fun _ => rfl).collapses
            (fells_destroyAny _ _) (trails_refl _)
      | detach c => exact (outset_refl h).collapses (fells_detach c s) (trails_refl _)
      | detachFrom c r => exact (outset_refl h).collapses (fells_detachFrom c r s) (trails_refl _)
      | detachGeneration c g =>
          exact (outset_refl h).collapses (fells_detachGeneration c g s) (trails_refl _)
      | forget x =>
          rw [Handling.perform, Move.perform]
          split
          · exact (outset_refl h).collapses (fells_destroy x.callback s) (trails_settleTaken _ _)
          · exact collapses_refl h
      | _ => exact absurd hreleases Bool.false_ne_true

/-- The one operation with a condition is attaching, to an open connection. -/
theorem collapses_perform {e : Handling} (he : e.Fits s) (hreleases : e.releases = true)
    (h : s.Enrolled) : Collapses (e.IsOwn s) s (e.perform s) := by
  refine collapses_releases (fun c r hold heq => ?_) hreleases h
  rw [heq] at he
  exact he.1

end System

end ReadNotify
