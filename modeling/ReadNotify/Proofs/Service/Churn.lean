import ReadNotify.Proofs.Registration.Coherence
import ReadNotify.Proofs.Registry.Windows

/-!
# What Moves Do to One Registry

Among everything that can happen, a loop filling its window is the only thing
that moves the scan of a registry, provided that nobody moves it directly. All
other moves append at most one entry to it and remove any number. A
registration appends before the callback it replaces is destroyed and with it
other registrations; everything else only removes.

Which entries are removed depends on who loses the last handle when a callback
is destroyed, to any depth. Here it does not matter: clearing one registration
removes one entry, and whatever else is destroyed is a chain of such clearings.

## Main definitions

* `Move.LeavesScan`: Whether a move leaves the scan of a registry to loops.
* `Move.SparesScan`: Whether it does not scan it as a loop either.
* `Move.window?`, `System.windows`: The windows that loops take.
* `System.Churned`: At most one entry was appended, that of a connection there
  is, and others removed.
* `System.Along`: What holds in every state of a run.

## Theorems

* `churns_unwinds`: Destroying, clearing and closing only remove.
* `churned_perform`, `churns_perform`: What any other move than filling a window
  does.
-/

namespace ReadNotify

namespace Move

/-- Whether a move leaves the scan of a registry to loops: what it does to the
    registry directly does not move the scan. -/
def LeavesScan (r : RegistryKey) : Move → Prop
  | onRegistry q f => q = r → ∃ alive op, RegistryOp.scans op = false ∧
      f = fun reg => (reg.perform alive op).1
  | _ => True

/-- The window that a move takes from a registry. -/
def window? (r : RegistryKey) (s : System) : Move → Option (List ConnId)
  | fillWindow l => if l.registry = r then some (s.fillWindow l).2 else none
  | _ => none

/-- Whether a move has nothing to do with scanning a registry. -/
def SparesScan (r : RegistryKey) (m : Move) : Prop :=
  m.LeavesScan r ∧ ∀ s, m.window? r s = none

/-- Whether a move neither fills a window nor touches a registry directly. -/
def isPlain : Move → Bool
  | onRegistry .. | fillWindow _ => false
  | _ => true

/-- A plain move does nothing to a registry directly, and fills no window. -/
theorem sparesScan_of_isPlain {m : Move} (h : m.isPlain = true) (r : RegistryKey) :
    m.SparesScan r := by
  cases m with
  | onRegistry q f => exact absurd h Bool.false_ne_true
  | fillWindow l => exact absurd h Bool.false_ne_true
  | _ => exact ⟨trivial, fun _ => rfl⟩

end Move

namespace System

variable {s t u : System} {r : RegistryKey}

/-- The windows that loops take from a registry along a run. -/
def windows (r : RegistryKey) : List Move → System → List (List ConnId)
  | [], _ => []
  | m :: ms, s => (m.window? r s).toList ++ windows r ms (m.perform s)

/-- Moves that spare the scan take no windows. -/
theorem windows_of_spares {ms : List Move} (hms : ∀ m ∈ ms, m.SparesScan r) (s : System) :
    windows r ms s = [] := by
  induction ms generalizing s with
  | nil => rfl
  | cons m ms ih =>
      rw [windows, (hms m List.mem_cons_self).2 s]
      exact ih (fun m' hm' => hms m' (List.mem_cons_of_mem m hm')) (m.perform s)

/-- The windows of two runs one after the other. -/
theorem windows_append (r : RegistryKey) (ms ms' : List Move) (s : System) :
    windows r (ms ++ ms') s = windows r ms s ++ windows r ms' (run ms s) := by
  induction ms generalizing s with
  | nil => rfl
  | cons m ms ih => rw [List.cons_append, windows, ih, windows, List.append_assoc, run_cons]

/-- What holds in every state of a run, the first and the last included. -/
def Along (q : System → Prop) : List Move → System → Prop
  | [], s => q s
  | m :: ms, s => q s ∧ Along q ms (m.perform s)

instance decidableAlong (q : System → Prop) [DecidablePred q] :
    (ms : List Move) → (s : System) → Decidable (Along q ms s)
  | [], s => inferInstanceAs (Decidable (q s))
  | m :: ms, s =>
    have : Decidable (Along q ms (m.perform s)) := decidableAlong q ms (m.perform s)
    inferInstanceAs (Decidable (q s ∧ Along q ms (m.perform s)))

theorem Along.head {q : System → Prop} {ms : List Move} (h : Along q ms s) : q s := by
  cases ms with
  | nil => exact h
  | cons m ms => exact h.1

/-- What holds along a run holds along both parts of it. -/
theorem along_append {q : System → Prop} {ms ms' : List Move} :
    Along q (ms ++ ms') s ↔ Along q ms s ∧ Along q ms' (run ms s) := by
  induction ms generalizing s with
  | nil => exact ⟨fun h => ⟨h.head, h⟩, fun h => h.2⟩
  | cons m ms ih =>
      rw [List.cons_append, Along, Along, ih, and_assoc]
      rfl

/-- What holds along a run may be weakened in every state. -/
theorem Along.mono {q q' : System → Prop} {ms : List Move} (h : Along q ms s)
    (hq : ∀ s, q s → q' s) : Along q' ms s := by
  induction ms generalizing s with
  | nil => exact hq s h
  | cons m ms ih => exact ⟨hq s h.1, ih h.2⟩

/-- At most one entry of a registry was appended, that of a connection there is,
    and others were removed. -/
def Churned (r : RegistryKey) (s t : System) : Prop :=
  ∃ new : List ConnId, new.length ≤ 1 ∧ (∀ id ∈ new, ∃ c, t.ident c = some id) ∧
    Registry.Churns new (s.registry r) (t.registry r)

theorem churned_of_removed (h : Registry.Churns [] (s.registry r) (t.registry r)) :
    Churned r s t := ⟨[], Nat.zero_le 1, fun _ hid => absurd hid List.not_mem_nil, h⟩

/-- A registry that stays as it is has not churned. -/
theorem churned_of_eq (hs : (s.registry r).Sound) (h : t.registry r = s.registry r) :
    Churned r s t := churned_of_removed (h ▸ hs.churns_refl)

/-- What only removes can follow, if it leaves identities as they are. -/
theorem Churned.trans_removed (h : Churned r s t)
    (hident : ∀ c id, t.ident c = some id → u.ident c = some id)
    (h' : Registry.Churns [] (t.registry r) (u.registry r)) : Churned r s u := by
  rcases h with ⟨new, hlen, hknown, hnew⟩
  refine ⟨new, hlen, fun id hid => ?_, hnew.trans h'⟩
  rcases hknown id hid with ⟨c, hc⟩
  exact ⟨c, hident c id hc⟩

/-! ### Removing -/

/-- Striking an entry removes it, or does nothing in another registry. -/
theorem churns_strike (hs : (s.registry r).Sound) (q : RegistryKey) (id : ConnId) :
    Registry.Churns [] (s.registry r)
      ((s.onRegistry q (Registry.remove id)).1.registry r) := by
  rw [registry_onRegistry]
  split
  · next hq =>
      rw [← hq.1]
      exact hs.churns_remove id
  · exact hs.churns_refl

/-- One step of a chain removes one entry at most. -/
theorem churns_link (hs : (s.registry r).Sound) (h : Link s t) :
    Registry.Churns [] (s.registry r) (t.registry r) := by
  cases h with
  | ended k => exact hs.churns_refl
  | released k c => exact hs.churns_refl
  -- Clearing a slot strikes the entry that it names, if it names one.
  | cleared c =>
      rcases clearSlot_cases c s with ⟨-, heq⟩ | ⟨conn, q, -, -, -, heq⟩
      · rw [heq]
        exact hs.churns_refl
      · rw [heq]
        exact churns_strike (s := s.updateSlot c Slot.cleared) hs q conn.id
  | disconnected c _ =>
      have hsame : (s.disconnect c).registry r = s.registry r := by
        rw [registry, (tables_disconnect c s).2.1, registry]
      rw [hsame]
      exact hs.churns_refl
  | noted held log => exact hs.churns_refl

/-- Destroying, clearing and closing only remove. -/
theorem churns_unwinds (hs : (s.registry r).Sound) (h : Unwinds s t) :
    Registry.Churns [] (s.registry r) (t.registry r) := by
  induction h with
  | refl => exact hs.churns_refl
  | tail _ hlink ih => exact ih.trans (churns_link ih.sound hlink)

theorem churned_unwinds (hs : (s.registry r).Sound) (h : Unwinds s t) : Churned r s t :=
  churned_of_removed (churns_unwinds hs h)

theorem churned_quiet (hs : (s.registry r).Sound) (h : Quiet s t) : Churned r s t :=
  churned_of_eq hs (h.registry r)

/-! ### Appending -/

/-- Moving an entry removes it from one registry and appends it to another. -/
theorem churned_relist (hs : (s.registry r).Sound) (c : ConnKey) (q : RegistryKey) :
    Churned r s (s.relist c q).1 := by
  rcases registry_relist c q s r with ⟨heq, -⟩ | ⟨-, id, -, heq⟩ | ⟨-, -, id, hid, heq⟩
  · exact churned_of_eq hs heq
  · exact churned_of_removed (heq ▸ hs.churns_remove id)
  · -- The entry that is appended is that of the connection, which keeps its identity.
    rcases hs.churns_append id c with ⟨new, hnew, hchurn⟩
    refine ⟨new, hnew.length_le, fun id' hid' => ⟨c, ?_⟩, heq ▸ hchurn⟩
    rw [List.mem_singleton.mp (hnew.subset hid')]
    rcases relist_frame c q s with ⟨registries, hframe, -⟩
    rw [hframe]
    exact hid

/-- A registration appends one entry at most, and what it destroys only removes. -/
theorem churned_attach (hs : (s.registry r).Sound) (c : ConnKey) (q : RegistryKey)
    (k : CallbackKey) : Churned r s (s.attach c q k).1 := by
  have hinstall : Churned r s (s.install c q k).1 := by
    rw [install_eq]
    rcases churned_relist hs c q with ⟨new, hlen, hknown, hnew⟩
    refine ⟨new, hlen, fun id hid => ?_, hnew⟩
    rcases hknown id hid with ⟨d, hd⟩
    exact ⟨d, (frame_updateSlot _ c _ d).1.trans hd⟩
  rcases hinstall with ⟨new, hlen, hknown, hnew⟩
  have hdestroy := unwinds_destroyAny (s.install c q k).2.1 (s.install c q k).1
  refine Churned.trans_removed ⟨new, hlen, hknown, hnew⟩ (fun d id hid => ?_)
    (churns_unwinds hnew.sound hdestroy)
  exact (hdestroy.unwound.ident d).trans hid

/-- A worker that is started has a registry of its own, and that is empty. -/
theorem Readied.registry {n : NotifierKey} {running : Running} (h : Readied n running s t)
    (r : RegistryKey) : t.registry r = s.registry r := by
  rcases h.started with ⟨-, hregs, -⟩ | ⟨-, hregs, -, -⟩
  · simp only [System.registry, hregs]
  · rw [System.registry, hregs, registry_add_empty]

/-- Refused or not, registering a fresh callback appends one entry at most. -/
theorem churned_setFresh (hs : (s.registry r).Sound) (n : NotifierKey) (c : ConnKey)
    (hold : Option ConnKey) : Churned r s (s.setFresh n c hold).1 := by
  unfold setFresh
  rcases setCallback_cases n c (s.addCallback hold).2 (s.addCallback hold).1 with
    ⟨-, u, hquiet, heq⟩ | ⟨-, -, running, u, v, hquiet, hready, hnoted⟩
  · -- The refused callback is destroyed, and closes whom it keeps.
    have hu : u.registry r = s.registry r := hquiet.registry r
    have hdestroy := churned_unwinds (hu.symm ▸ hs) (unwinds_destroy (s.addCallback hold).2 u)
    unfold Churned at hdestroy ⊢
    rwa [heq, ← hu]
  · -- The worker is there before the entry is appended.
    have hv : v.registry r = s.registry r := (hready.registry r).trans (hquiet.registry r)
    rcases churned_attach (s := v) (hv.symm ▸ hs) c running.registry (s.addCallback hold).2 with
      ⟨new, hlen, hknown, hnew⟩
    refine ⟨new, hlen, fun id hid => ?_, ?_⟩
    · rcases hknown id hid with ⟨d, hd⟩
      exact ⟨d, hnoted.quiet.ident hd⟩
    · rwa [hnoted.quiet.registry r, ← hv]

/-! ### Moves -/

/-- A shutdown empties the registry of its notifier and removes from others. -/
theorem churned_shutdown (hs : (s.registry r).Sound) (n : NotifierKey) :
    Churned r s (s.shutdown n) := by
  rcases shutdown_cases n s with ⟨-, hquiet⟩ | ⟨running, u, v, -, hquiet, hquiet', hnoted⟩
  · exact churned_quiet hs hquiet
  · have hv : v.registry r = s.registry r := (hquiet'.registry r).trans (hquiet.registry r)
    -- Draining is emptying for this registry, and nothing for another.
    have hdrain : Registry.Churns [] (v.registry r) ((v.drain running.registry).1.registry r) := by
      rw [drain, registry_onRegistry]
      split
      · exact Registry.churns_empty _
      · exact (hv.symm ▸ hs : (v.registry r).Sound).churns_refl
    have hall := hdrain.trans (churns_unwinds hdrain.sound (unwinds_detachAll running.registry
      (v.drain running.registry).2 (v.drain running.registry).1))
    refine churned_of_removed ?_
    rw [hnoted.quiet.registry r, ← hv]
    exact hall

/-- The end of a dispatch puts back or destroys. -/
theorem churned_finish (hs : (s.registry r).Sound) (x : Taken) (exit : Exit) :
    Churned r s (s.finish x exit) := by
  cases exit with
  | returned =>
      unfold finish
      rcases putBack_cases x s with ⟨-, -, heq⟩ | ⟨-, -, heq⟩
      · rw [heq]
        exact churned_of_eq hs rfl
      · have hdestroy := churned_unwinds hs (unwinds_destroy x.callback s)
        rw [heq]
        exact hdestroy
  | panicked =>
      rcases giveUp_eq x s with ⟨v, hnoted, heq⟩
      -- Giving up notes the panic, clears the registration and destroys.
      have hall := churned_unwinds hs ((hnoted.unwinds.trans
        (unwinds_detachGeneration x.conn x.generation v)).trans (unwinds_destroy x.callback _))
      rw [finish, heq]
      exact hall

/-- Giving up a handle closes at most. -/
theorem churned_drop (hs : (s.registry r).Sound) (c : ConnKey) :
    Churned r s (s.dropHandle c).1 := by
  rcases dropHandle_cases c s with heq | ⟨-, heq⟩ | ⟨-, heq⟩
  · rw [heq]
    exact churned_of_eq hs rfl
  · rw [heq]
    exact churned_of_eq hs rfl
  · rw [heq]
    exact churned_unwinds (s := s.disown c) hs (unwinds_close c (s.disown c))

/-- Whatever neither scans nor touches a registry directly appends at most one
    entry to it, and removes others. -/
theorem churned_perform {m : Move} (hm : m.isPlain = true) (hs : (s.registry r).Sound) :
    Churned r s (m.perform s) := by
  -- Entries are appended by attaching only; the rest removes entries or leaves them.
  cases m with
  | close d => exact churned_unwinds hs (unwinds_close d s)
  | drop d => exact churned_drop hs d
  | set n d hold => exact churned_setFresh hs n d hold
  | entrust k d =>
      rcases entrust_frame k d s with ⟨callbacks, heq, -⟩
      refine churned_of_eq hs ?_
      rw [Move.perform, heq]
      rfl
  | unset n d => exact churned_unwinds hs (unwinds_unsetCallback n d s)
  | shutdown n => exact churned_shutdown hs n
  | begin d size =>
      refine churned_of_eq hs ?_
      rcases begin_cases d size s with ⟨-, heq⟩ | ⟨x, -, -, -, -, record, heq⟩
      · rw [Move.perform, heq]
      · rw [Move.perform, heq]
        exact (quiet_receive d size (s.takenOut x)).registry r
  | finish x exit =>
      rw [Move.perform]
      split
      · exact churned_finish hs x exit
      · exact churned_of_eq hs rfl
  | attach d q hold => exact churned_attach (s := (s.addCallback hold).1) hs d q _
  | detach d => exact churned_unwinds hs (unwinds_detach d s)
  | detachFrom d q => exact churned_unwinds hs (unwinds_detachFrom d q s)
  | detachGeneration d g => exact churned_unwinds hs (unwinds_detachGeneration d g s)
  | take d pinned =>
      refine churned_of_eq hs ?_
      rcases take_cases d pinned s with ⟨-, heq⟩ | ⟨x, -, -, -, heq⟩
      · rw [Move.perform, heq]
      · rw [Move.perform, heq]
        rfl
  | forget x =>
      have hdestroy := churned_unwinds hs (unwinds_destroy x.callback s)
      rw [Move.perform]
      split
      · exact hdestroy
      · exact churned_of_eq hs rfl
  | onRegistry q f => exact absurd hm Bool.false_ne_true
  | fillWindow l => exact absurd hm Bool.false_ne_true
  | _ => exact churned_quiet hs (Move.quiet_perform rfl s)

/-- Any move but the filling of a window appends at most one entry to a
    registry, and removes others. -/
theorem churns_perform {m : Move} (hm : m.LeavesScan r) (hwindow : m.window? r s = none)
    (hs : (s.registry r).Sound) : ∃ new : List ConnId, new.length ≤ 1 ∧
      Registry.Churns new (s.registry r) ((m.perform s).registry r) := by
  cases hplain : m.isPlain with
  | true =>
      rcases churned_perform hplain hs with ⟨new, hlen, -, hnew⟩
      exact ⟨new, hlen, hnew⟩
  | false =>
      have hsame : ∃ new : List ConnId, new.length ≤ 1 ∧
          Registry.Churns new (s.registry r) (s.registry r) := ⟨[], Nat.zero_le 1, hs.churns_refl⟩
      cases m with
      -- What a program does to this registry directly may be anything but scanning.
      | onRegistry q f =>
          rw [Move.perform, registry_onRegistry]
          split
          · next hq =>
              rcases hm hq.1.symm with ⟨alive, op, hop, rfl⟩
              rw [← hq.1]
              exact hs.churns_perform alive hop
          · exact hsame
      | fillWindow l =>
          -- The window is of another registry.
          have hne : l.registry ≠ r := by
            intro heq
            rw [Move.window?, if_pos heq] at hwindow
            exact absurd hwindow (by simp only [reduceCtorEq, not_false_eq_true])
          rw [Move.perform, fillWindow, registry_onRegistry, if_neg fun h => hne h.1.symm]
          exact hsame
      | _ => exact absurd hplain (by simp [Move.isPlain])

/-- What filling a window does to the registry it is taken from. -/
theorem fills_fillWindow (l : PollLoop) (hs : (s.registry l.registry).Sound) :
    ∃ left, Registry.Fills s.alive l.capacity (s.registry l.registry)
      ((s.fillWindow l).1.registry l.registry) (s.fillWindow l).2 left := by
  rcases hs.fillWindow_cases s.alive l.capacity with ⟨left, hfill⟩
  refine ⟨left, ?_⟩
  rw [fillWindow, registry_onRegistry]
  split
  · exact hfill
  · next hbeyond =>
      -- A registry that was never made is empty, and stays so.
      have hnone : s.registries.get? l.registry = none :=
        Array.getElem?_eq_none (Nat.le_of_not_lt fun hlt => hbeyond ⟨rfl, hlt⟩)
      have hempty : s.registry l.registry = .empty := by rw [registry, hnone]; rfl
      have hsame : ((s.registry l.registry).fillWindow s.alive l.capacity).1 =
          s.registry l.registry := by rw [hempty, Registry.fillWindow_empty]
      rwa [hsame] at hfill

/-- A move that takes a window from a registry fills one there. -/
theorem fills_perform {m : Move} {window : List ConnId} (hwindow : m.window? r s = some window)
    (hs : (s.registry r).Sound) :
    ∃ n left, Registry.Fills s.alive n (s.registry r) ((m.perform s).registry r) window left := by
  -- Only filling a window answers one.
  cases m with
  | fillWindow l =>
      rw [Move.window?, Option.ite_none_right_eq_some, Option.some.injEq] at hwindow
      rcases hwindow with ⟨rfl, rfl⟩
      exact ⟨l.capacity, fills_fillWindow l hs⟩
  | _ => exact absurd hwindow (by simp only [Move.window?, reduceCtorEq, not_false_eq_true])

end System

end ReadNotify
