import ReadNotify.Proofs.Readiness.Agreement
import ReadNotify.Proofs.Registry.Delay
import ReadNotify.Proofs.Service.Turns

/-!
# What a Registry Lists

A registry is a list of connections there are. That holds whatever happens to it:
a registration appends the identity of the connection that is registered, and
identities stay as they are. The windows that a loop takes are therefore windows
that a backend can be asked about.

What happens between two windows appends entries and removes others. The number
of entries that are appended in a run can be counted, and an entry that stays is
brought no further back than that number accounts for.

## Main definitions

* `System.Listed`: A registry is in order and lists connections.
* `System.appends`: How many entries are appended in a run.

## Theorems

* `listed_perform`, `listed_history`: Registries stay that way.
* `Listed.window`: A window has connections in it, and not too many.
* `delay_run`: Other moves put no entry off.
-/

namespace ReadNotify

namespace Registry

variable {alive : Living} {r r' : Registry} {id : ConnId}

/-- What is listed after a churn was listed before, or is new. -/
theorem Churns.mem_order {new : List ConnId} (hchurn : Churns new r r') (hid : id ∈ r'.order) :
    id ∈ r.order ∨ id ∈ new := by
  rw [← passed_append_upcoming r', List.mem_append] at hid
  rw [← passed_append_upcoming r, List.mem_append]
  rcases hid with hid | hid
  · exact Or.inl (Or.inl (hchurn.passed.subset hid))
  · exact (List.mem_append.mp (hchurn.upcoming.subset hid)).imp_left Or.inr

/-- A window takes from a registry what is listed there, and leaves nothing else. -/
theorem Fills.mem_order {window left : List ConnId} {n : Nat}
    (hfill : Fills alive n r r' window left) :
    (∀ id ∈ window, id ∈ r.order) ∧ ∀ id ∈ r'.order, id ∈ r.order := by
  have hwindow : ∀ id ∈ window, id ∈ r.order := by
    intro id hid
    rw [hfill.window_eq] at hid
    exact List.mem_of_mem_drop (List.mem_of_mem_filter (List.mem_of_mem_take hid))
  refine ⟨hwindow, fun id hid => ?_⟩
  rw [← mem_queue_iff, hfill.queue, List.mem_append, List.mem_append] at hid
  -- It was ahead of the scan, behind it, or in the window.
  rcases hid with hid | hid | hid
  · exact List.mem_of_mem_drop (hfill.suffix.subset hid)
  · exact List.mem_of_mem_take hid
  · exact hwindow id hid

/-- An operation lists nobody but whom it is to append. -/
theorem Sound.mem_order_perform (h : r.Sound) (alive : Living) (op : RegistryOp)
    (hid : id ∈ (r.perform alive op).1.order) : id ∈ r.order ∨ ∃ c, op = .append id c := by
  cases op with
  | append d c =>
      rcases h.churns_append d c with ⟨new, hnew, hchurn⟩
      refine (hchurn.mem_order hid).imp_right fun hmem => ⟨c, ?_⟩
      rw [List.mem_singleton.mp (hnew.subset hmem)]
  | remove d =>
      exact Or.inl (((h.churns_remove d).mem_order hid).resolve_right List.not_mem_nil)
  | next =>
      refine Or.inl ?_
      -- The scan takes what it passes from ahead to behind, and nothing from elsewhere.
      have hnext : id ∈ (r.next alive).1.passed ++ (r.next alive).1.upcoming := by
        rw [passed_append_upcoming]
        exact hid
      rw [← passed_append_upcoming r]
      rcases h.next_cases alive with ⟨dead, e, conn, rest, hsplit, -, -, -, hpassed, hupcoming⟩ |
        ⟨-, -, hpassed, hupcoming⟩
      · rw [hpassed, hupcoming] at hnext
        rw [hsplit]
        simp only [List.mem_append, List.mem_cons, List.not_mem_nil, or_false] at hnext ⊢
        tauto
      · rw [hpassed, hupcoming, List.append_nil] at hnext
        exact List.mem_append_left _ hnext
  | drain => exact absurd hid List.not_mem_nil
  | rewind | get d | exhausted | size => exact Or.inl hid

end Registry

namespace System

variable {s t : System} {r : RegistryKey} {mine : Option InterestKey} {m : Move} {id : ConnId}

/-- A registry is in order and lists connections there are. -/
structure Listed (r : RegistryKey) (s : System) : Prop where
  sound : (s.registry r).Sound
  known : ∀ id ∈ (s.registry r).order, ∃ c, s.ident c = some id

theorem listed_init (n : Nat) (r : RegistryKey) : (init n).Listed r := by
  have hcoherent := coherent_init n
  refine ⟨hcoherent.sound r, fun id hid => ?_⟩
  rcases ((hcoherent.sound r).mem_order_iff id).mp hid with ⟨c, hc⟩
  exact ⟨c, (hcoherent.entry r id c hc).1⟩

theorem listed_of_eq (h : s.Listed r) (hregistry : t.registry r = s.registry r)
    (hident : ∀ c id, s.ident c = some id → t.ident c = some id) : t.Listed r := by
  refine ⟨hregistry ▸ h.sound, fun id hid => ?_⟩
  rw [hregistry] at hid
  rcases h.known id hid with ⟨c, hc⟩
  exact ⟨c, hident c id hc⟩

/-- Whatever happens, registries list connections. -/
theorem listed_perform (h : s.Listed r) (hnumbered : s.Numbered mine)
    (hproper : m.Proper mine s) : (m.perform s).Listed r := by
  have hident := (numbered_perform hnumbered hproper).2.ident
  have hold : ∀ id ∈ (s.registry r).order, ∃ c, (m.perform s).ident c = some id := by
    intro id hid
    rcases h.known id hid with ⟨c, hc⟩
    exact ⟨c, hident c id hc⟩
  cases hplain : m.isPlain with
  | true =>
      rcases churned_perform hplain h.sound with ⟨new, -, hknown, hchurn⟩
      exact ⟨hchurn.sound, fun id hid => (hchurn.mem_order hid).elim (hold id) (hknown id)⟩
  | false =>
      -- What is not plain is an operation on a registry or the filling of a window.
      cases m with
      | onRegistry q f =>
          rcases hproper with ⟨alive, op, rfl, happend⟩
          by_cases hq : r = q ∧ q < s.registries.size
          · have hregistry :
              ((Move.onRegistry q fun x => (x.perform alive op).1).perform s).registry
                r = ((s.registry r).perform alive op).1 := by
              rw [Move.perform, registry_onRegistry, if_pos hq, hq.1]
            refine ⟨hregistry ▸ Registry.sound_perform h.sound alive op, fun id hid => ?_⟩
            rw [hregistry] at hid
            rcases h.sound.mem_order_perform alive op hid with hid | ⟨c, hop⟩
            · exact hold id hid
            · exact ⟨c, hident c id (happend id c hop)⟩
          · refine listed_of_eq h ?_ hident
            rw [Move.perform, registry_onRegistry, if_neg hq]
      | fillWindow l =>
          by_cases hl : l.registry = r
          · have hwindow : (Move.fillWindow l).window? r s = some (s.fillWindow l).2 := if_pos hl
            rcases fills_perform hwindow h.sound with ⟨n, left, hfill⟩
            exact ⟨hfill.sound, fun id hid => hold id (hfill.mem_order.2 id hid)⟩
          · refine listed_of_eq h ?_ hident
            rw [Move.perform, fillWindow, registry_onRegistry, if_neg fun hr => hl hr.1.symm]
      | _ => exact absurd hplain (by simp [Move.isPlain])

/-- Proper moves list only entries of connections there are. -/
theorem listed_run {ms : List Move} (h : s.Listed r) (hnumbered : s.Numbered mine)
    (hms : Move.ProperRun mine ms s) : (run ms s).Listed r := by
  -- That numbers are in order is carried along, as the moves need it.
  induction ms generalizing s with
  | nil => exact h
  | cons m rest ih =>
      exact ih (listed_perform h hnumbered hms.1) (numbered_perform hnumbered hms.1).1 hms.2

/-- Asking a backend is a move like any other for registries. -/
theorem listed_asked (h : s.Listed r) (hnumbered : s.Numbered mine) (window : List ConnId)
    (p : Poller) : (s.checkPoller window p).1.Listed r :=
  listed_perform (m := .checkPoller window p) h hnumbered.weaken fun d _ => by simp

theorem listed_history {capacity : Nat} {moments : List Moment} {x : System × Poller}
    (h : x.1.Listed r) (hattended : Attended capacity x)
    (hproper : Moment.ProperHistory moments x) :
    (Moment.history moments x).1.Listed r := by
  induction moments generalizing x with
  | nil => exact h
  | cons moment rest ih =>
      -- A question changes the backend, and no registry.
      cases moment with
      | passed m =>
          exact ih (listed_perform h hattended.numbered hproper.1)
            (attended_passed hattended hproper.1) hproper.2
      | asked window =>
          exact ih (listed_asked h hattended.numbered window x.2)
            (attended_asked hattended hproper.1) hproper.2

/-- A window has connections in it, and no more than the loop looks at. -/
theorem Listed.window (h : s.Listed r) (hnumbered : s.Numbered mine) {l : PollLoop}
    (hl : l.registry = r) : (∀ id ∈ (s.fillWindow l).2, (s.find? id).isSome = true) ∧
      (s.fillWindow l).2.length ≤ l.capacity := by
  rcases fills_fillWindow l (hl ▸ h.sound) with ⟨left, hfill⟩
  refine ⟨fun id hid => ?_, ?_⟩
  · rcases h.known id (hl ▸ hfill.mem_order.1 id hid) with ⟨c, hc⟩
    rw [hnumbered.find?_eq_some_iff.mpr hc]
    rfl
  · rw [hfill.window_eq]
    exact List.length_take_le _ _

/-! ### Counting what is appended -/

/-- How many entries are appended to a registry in a run. -/
def appends (r : RegistryKey) : List Move → System → Nat
  | [], _ => 0
  | m :: ms, s =>
    ((s.registry r).newcomers ((m.perform s).registry r)).length + appends r ms (m.perform s)

theorem appends_append (r : RegistryKey) (ms ms' : List Move) (s : System) :
    appends r (ms ++ ms') s = appends r ms s + appends r ms' (run ms s) := by
  induction ms generalizing s with
  | nil => exact (Nat.zero_add _).symm
  | cons m ms ih => rw [List.cons_append, appends, appends, ih, Nat.add_assoc, run_cons]

/-- What is neither scanning nor about an entry puts it off no longer than it takes
    to see what was appended. -/
theorem delay_run {ms : List Move} (hms : ∀ m ∈ ms, m.SparesScan r) (hs : (s.registry r).Sound)
    (hfinds : Along (Finds r id) ms s) (w a : Nat) :
    ((run ms s).registry r).delay w a id ≤ (s.registry r).delay w (appends r ms s + a) id := by
  induction ms generalizing s with
  | nil =>
      rw [appends, Nat.zero_add]
      exact Nat.le_refl _
  | cons m ms ih =>
      have hm := hms m List.mem_cons_self
      rcases churns_perform hm.1 (hm.2 s) hs with ⟨new, -, hchurn⟩
      -- One move puts it off by what it appends, and the others by what they append.
      have hfirst := hchurn.delay_le hs w (appends r ms (m.perform s) + a)
        (hs.mem_of_lives hfinds.1) (hchurn.sound.mem_of_lives hfinds.2.head)
      have hrest := ih (fun m' hm' => hms m' (List.mem_cons_of_mem m hm')) hchurn.sound hfinds.2
      rw [appends, Nat.add_assoc]
      exact Nat.le_trans hrest hfirst

end System

end ReadNotify
