import ReadNotify.Proofs.Dispatch.Delivery
import ReadNotify.Proofs.Service.Churn

/-!
# What One Cycle Calls

What is ready is known before the first callback of a cycle runs, and by the turn of a
member much may have changed: others' callbacks have unregistered it, closed its
connection, registered it elsewhere, shut its notifier down, and opened a connection
that got its descriptor number. None of that has to be noticed when it happens. The
member is looked up when its turn comes, by an identity that no other connection ever
has, and what the look-up finds is decided by the state of that moment alone.

So a cycle is a sequence of turns, one for each ready member in the order in which the
backend has reported them, each with the state that it finds; and what is called in it
can be read off these states. A panic is over when its turn is.

## Main definitions

* `World.turns`: The turns of a cycle with the states that they find.
* `System.callOf`, `System.Called`: What is called in a turn, and what is known of it.
* `Check.InOrder`: Backends that report in the order of the window.
* `System.Pruned`: A registry whose dead entries were dropped and whose scan was moved.
* `Handler.Spares`, `Check.Spares`: Code that leaves the counters of a loop alone.

## Theorems

* `System.isSome_callOf`, `System.called_of_callOf`: Who is called in a turn.
* `World.runOnce_recorded`: A cycle makes the calls of its turns and no other.
* `System.pruned_scan`: What a cycle does without being asked to call anybody.
* `World.stats_runOnce`: What a cycle counts.
* `World.cycle_settled`: All of that for whatever callbacks do.
-/

namespace ReadNotify

/-! ### Dropping dead entries -/

namespace Registry

variable {alive : Living} {r r' : Registry} {window left : List ConnId} {n : Nat}

/-- A window leaves the order of the entries as it is, but for those it drops. -/
theorem Fills.order_sublist (h : Fills alive n r r' window left) : r'.order.Sublist r.order := by
  rcases h.suffix with ⟨front, hfront⟩
  -- The window is what was alive of the part that it has passed.
  have hwindow : window = front.filter (r.lives alive) := by
    have hlive := h.left_eq
    rw [h.window_eq]
    refine List.append_cancel_right (?_ : _ ++ left.filter (r.lives alive) = _)
    conv_lhs => rw [hlive]
    rw [List.take_append_drop, ← List.filter_append, hfront]
  have hsub : (r.passed ++ window ++ left).Sublist r.order := by
    rw [← passed_append_upcoming r, ← hfront, hwindow, List.append_assoc]
    exact (List.Sublist.refl _).append (List.filter_sublist.append (List.Sublist.refl _))
  rw [← passed_append_upcoming r']
  rcases h.scan with ⟨-, hupcoming, hpassed⟩ | ⟨hnil, hupcoming, hpassed⟩
  · rw [hupcoming, hpassed]
    exact hsub
  · rw [hupcoming, hpassed, List.nil_append]
    rw [hnil, List.append_nil] at hsub
    exact hsub

/-- What it drops is dead. -/
theorem Fills.mem_of_lives (h : Fills alive n r r' window left) {id : ConnId} (hid : id ∈ r.order)
    (hlives : r.lives alive id = true) : id ∈ r'.order := by
  rcases h.filter_queue fun id (hid : r.lives alive id = true) => hid with
    ⟨rest, hbefore, hafter⟩
  have hmem : id ∈ r.queue.filter (r.lives alive) :=
    List.mem_filter.mpr ⟨(mem_queue_iff r id).mpr hid, hlives⟩
  rw [hbefore, List.mem_append, or_comm, ← List.mem_append, ← hafter] at hmem
  exact (mem_queue_iff r' id).mp (List.mem_filter.mp hmem).1

end Registry

/-- A call that a cycle makes: in whose turn, for which connection, of which callback,
    with what bytes. -/
structure Call where
  member : ConnId
  conn : ConnKey
  callback : CallbackKey
  data : Bytes

namespace System

variable {s t : System} {l : PollLoop} {id : ConnId}

/-- At most dead entries of a loop's registry were dropped, and its scan was moved. No
    connection was touched, and no queue. -/
structure Pruned (l : PollLoop) (s t : System) : Prop where
  connections : t.connections = s.connections
  sockets : t.kernel.sockets = s.kernel.sockets
  others : ∀ q, q ≠ l.registry → t.registry q = s.registry q
  order : (t.registry l.registry).order.Sublist (s.registry l.registry).order
  kept : ∀ e ∈ (t.registry l.registry).refs, e ∈ (s.registry l.registry).refs
  dropped : ∀ e ∈ (s.registry l.registry).refs, s.alive e.2 = true →
    e ∈ (t.registry l.registry).refs

theorem Pruned.congr {u : System} (h : Pruned l s t) (hconnections : u.connections = t.connections)
    (hregistries : u.registries = t.registries) (hsockets : u.kernel.sockets = t.kernel.sockets) :
    Pruned l s u := by
  have hregistry : ∀ q, u.registry q = t.registry q := fun q => by
    rw [registry, registry, hregistries]
  exact ⟨hconnections.trans h.connections, hsockets.trans h.sockets,
    fun q hq => (hregistry q).trans (h.others q hq), hregistry l.registry ▸ h.order,
    hregistry l.registry ▸ h.kept, hregistry l.registry ▸ h.dropped⟩

/-- What a cycle does before it asks. -/
theorem pruned_scan (h : s.Enrolled) (l : PollLoop) :
    Pruned l s ((s.fillWindow l).1.countCycle l) := by
  have hsound := h.sound l.registry
  have hkept : ∀ e ∈ ((s.fillWindow l).1.registry l.registry).refs,
      e ∈ (s.registry l.registry).refs := by
    intro e he
    rw [fillWindow, registry_onRegistry] at he
    split at he
    · exact hsound.mem_refs_fillWindow s.alive l.capacity he
    · exact he
  rcases fills_fillWindow l hsound with ⟨left, hfill⟩
  refine Pruned.congr (t := (s.fillWindow l).1) ⟨rfl, rfl, fun q hq => ?_, hfill.order_sublist,
    hkept, fun e he halive => ?_⟩ rfl rfl rfl
  · rw [fillWindow, registry_onRegistry, if_neg fun h => hq h.1]
  · rcases e with ⟨id, d⟩
    -- What is alive is still listed, and under one connection only.
    have hlives : (s.registry l.registry).lives s.alive id = true := by
      rw [Registry.lives, (hsound.get?_eq_some_iff s.alive id d).mpr ⟨he, halive⟩]
      rfl
    have hmem := hfill.mem_of_lives ((hsound.mem_order_iff id).mpr ⟨d, he⟩) hlives
    rcases (hfill.sound.mem_order_iff id).mp hmem with ⟨c, hc⟩
    rcases h.ident_inj (h.entry l.registry id c (hkept _ hc)).1 (h.entry l.registry id d he).1
    exact hc

/-! ### Turns -/

/-- The call that is made in the turn of a member. -/
def callOf (l : PollLoop) (id : ConnId) (s : System) : Option Call :=
  (s.entry? l id).bind fun c =>
    (s.begin c l.bufferSize).2.map fun r => ⟨id, c, r.1.callback, r.2⟩

/-- What is known of a call in the state that it finds. The member is listed in the
    loop's registry, and its connection is the only one of this identity, registered
    with the loop's registry, open and alive. Its callback was in the slot, and is called
    with what one reading gave after it was taken. -/
structure Called (l : PollLoop) (s : System) (x : Call) : Prop where
  listed : x.member ∈ (s.registry l.registry).order
  ident : s.ident x.conn = some x.member
  sole : ∀ c, s.ident c = some x.member → c = x.conn
  registered : (s.slot x.conn).registry = some l.registry
  isOpen : s.isConnected x.conn = true
  alive : s.alive x.conn = true
  callback : (s.slot x.conn).callback = some x.callback
  data : x.data = ((s.takenOut ⟨x.callback, x.conn, (s.slot x.conn).generation, true⟩).receive
    x.conn l.bufferSize).2

/-- Everything a turn can find. -/
theorem callOf_cases (l : PollLoop) (id : ConnId) (h : s.Enrolled) :
    (s.callOf l id = none ∧ ∀ c, (id, c) ∈ (s.registry l.registry).refs → s.alive c = true →
      (s.slot c).callback = none) ∨
    ∃ c k, (id, c) ∈ (s.registry l.registry).refs ∧ s.alive c = true ∧
      (s.slot c).callback = some k ∧ s.callOf l id = some ⟨id, c, k,
        ((s.takenOut ⟨k, c, (s.slot c).generation, true⟩).receive c l.bufferSize).2⟩ := by
  have hfound := (h.sound l.registry).get?_eq_some_iff s.alive id
  unfold callOf
  rcases hentry : s.entry? l id with _ | c
  · refine Or.inl ⟨rfl, fun c he halive => ?_⟩
    exact absurd (hentry.symm.trans ((hfound c).mpr ⟨he, halive⟩))
      (by simp only [reduceCtorEq, not_false_eq_true])
  · rcases (hfound c).mp hentry with ⟨he, halive⟩
    rw [Option.bind_some]
    rcases hslot : (s.slot c).callback with _ | k
    · refine Or.inl ⟨by rw [begin_of_none hslot, Option.map_none], fun d hd hdalive => ?_⟩
      -- An identity is listed for one connection only.
      have hdc : some d = some c := ((hfound d).mpr ⟨hd, hdalive⟩).symm.trans hentry
      rw [Option.some.inj hdc, hslot]
    · exact Or.inr ⟨c, k, he, halive, hslot, by rw [begin_eq hslot, Option.map_some]⟩

/-- Somebody is called in the turn of a member if it is still listed, alive, and has a
    callback in its slot, and else nobody is. -/
theorem isSome_callOf (h : s.Enrolled) : (s.callOf l id).isSome = true ↔
    ∃ c, (id, c) ∈ (s.registry l.registry).refs ∧ s.alive c = true ∧
      (s.slot c).callback.isSome = true := by
  rcases callOf_cases l id h with ⟨hnone, hall⟩ | ⟨c, k, he, halive, hslot, hcall⟩
  · rw [hnone]
    refine iff_of_false Bool.false_ne_true ?_
    rintro ⟨c, he, halive, hslot⟩
    rw [hall c he halive] at hslot
    exact Bool.false_ne_true hslot
  · rw [hcall]
    exact iff_of_true rfl ⟨c, he, halive, by rw [hslot, Option.isSome_some]⟩

/-- The call of a member is one that its entry, its connection and its slot allow for.
    -/
theorem called_of_callOf (h : s.Enrolled) {x : Call} (hcall : s.callOf l id = some x) :
    x.member = id ∧ Called l s x := by
  rcases callOf_cases l id h with ⟨hnone, -⟩ | ⟨c, k, he, halive, hslot, hsome⟩
  · exact absurd (hnone.symm.trans hcall) (by simp only [reduceCtorEq, not_false_eq_true])
  · rcases Option.some.inj (hsome.symm.trans hcall)
    -- The entry is that of the connection, and of no other.
    rcases h.entry l.registry id c he with ⟨hid, hregistered⟩
    exact ⟨rfl, ((h.sound l.registry).mem_order_iff id).mpr ⟨c, he⟩, hid,
      fun d hd => h.ident_inj hd hid, hregistered, h.isConnected he, halive, hslot, rfl⟩

/-- Whoever has left the registry by then, or is closed, is not called. -/
theorem callOf_eq_none (h : s.Enrolled) {c : ConnKey} (hid : s.ident c = some id)
    (hgone : (s.slot c).registry ≠ some l.registry ∨ s.isConnected c = false ∨
      id ∉ (s.registry l.registry).order) : s.callOf l id = none := by
  refine Option.eq_none_iff_forall_ne_some.mpr fun x hx => ?_
  rcases called_of_callOf h hx with ⟨rfl, hcalled⟩
  rcases hcalled.sole c hid with rfl
  rcases hgone with hmoved | hclosed | hunlisted
  · exact hmoved hcalled.registered
  · exact Bool.false_ne_true (hclosed.symm.trans hcalled.isOpen)
  · exact hunlisted hcalled.listed

end System

variable {π δ : Type}

/-- What a call is made with. -/
def Call.invocation (x : Call) : CallbackKey × Bytes := (x.callback, x.data)

/-- A backend for a program that counts calls. -/
def Check.recorded (check : Check π δ) : Check π (δ × List (CallbackKey × Bytes)) :=
  fun window timeout b w =>
    let answer := check window timeout b ⟨w.sys, w.desk.1⟩
    (answer.1.beside w.desk.2, answer.2)

/-- A backend reports members of the window, in their order. -/
def Check.InOrder (check : Check π δ) : Prop :=
  ∀ window timeout b w v b' ready, check window timeout b w = (v, b', .ok ready) →
    ready.Sublist window

/-- Calling leaves a set of counters alone. -/
def Handler.Spares (k : CountersKey) (call : Handler δ) : Prop :=
  ∀ j data w, w.sys.FitReached → (call j data w).1.sys.stats k = w.sys.stats k

/-- So does asking. -/
def Check.Spares (k : CountersKey) (check : Check π δ) : Prop :=
  ∀ window timeout b w, w.sys.FitReached → (check window timeout b w).1.sys.stats k = w.sys.stats k

namespace World

variable {check : Check π δ} {call : Handler δ} {l : PollLoop}

/-- Both backends report in the order of the window. -/
theorem inOrder_checkPoller : Check.InOrder (checkPoller : Check Poller δ) := by
  intro window timeout p w v p' ready heq
  have hready : ready = (p.check window w.sys.kernel).2.2.1 :=
    (Except.ok.inj (congrArg (fun x => x.2.2) heq)).symm
  rw [hready]
  -- Both backends filter the window.
  cases p with
  | pollSet q => exact List.filter_sublist
  | epoll e =>
      unfold Poller.check
      dsimp only
      split
      · exact List.nil_sublist window
      · exact List.filter_sublist

/-- The turn of a ready member. -/
def turn (call : Handler δ) (l : PollLoop) (id : ConnId) (w : World δ) : World δ :=
  match w.sys.entry? l id with
  | none => w
  | some c => (w.dispatch call c l.bufferSize).1

/-- The turns of the ready members, each with the state that it finds. -/
def turns (call : Handler δ) (l : PollLoop) : List ConnId → World δ → List (ConnId × System)
  | [], _ => []
  | id :: rest, w => (id, w.sys) :: turns call l rest (w.turn call l id)

/-- The world in which a cycle asks its backend. -/
def scanned (l : PollLoop) (w : World δ) : World δ :=
  ⟨(w.sys.fillWindow l).1.countCycle l, w.desk⟩

/-- The world in which the turns of a cycle begin, and the ready members: none if nobody
    was asked or the question failed. -/
def consulted (check : Check π δ) (l : PollLoop) (b : π) (w : World δ) : World δ × List ConnId :=
  if (w.sys.fillWindow l).2 = [] then (w.scanned l, [])
  else
    match check (w.sys.fillWindow l).2 l.timeout b (w.scanned l) with
    | (v, _, .error _) => (v, [])
    | (v, _, .ok ready) => (v, ready)

/-- The calls that a cycle makes. -/
def calls (check : Check π δ) (call : Handler δ) (l : PollLoop) (b : π) (w : World δ) :
    List Call :=
  ((w.consulted check l b).1.turns call l (w.consulted check l b).2).filterMap fun t =>
    t.2.callOf l t.1

/-- The world after the last turn of a cycle. -/
def turned (check : Check π δ) (call : Handler δ) (l : PollLoop) (b : π) (w : World δ) : World δ :=
  ((w.consulted check l b).1.dispatchReady call l (w.consulted check l b).2).1

theorem calls_of_idle {b : π} {w : World δ} (h : (w.consulted check l b).2 = [])
    (call : Handler δ) : w.calls check call l b = [] := by
  rw [calls, h]
  rfl

/-- Without a window nobody is asked. -/
theorem runOnce_of_empty {w : World δ} (hempty : (w.sys.fillWindow l).2 = []) (check : Check π δ)
    (call : Handler δ) (b : π) :
    w.consulted check l b = (w.scanned l, []) ∧ w.runOnce check call l b = (w.scanned l, b, 0) := by
  unfold consulted runOnce
  dsimp only
  rw [if_pos hempty, if_pos hempty]
  exact ⟨rfl, rfl⟩

/-- If the question fails nobody has a turn. -/
theorem runOnce_of_error {w v : World δ} {b b' : π} {e : IoError}
    (hempty : (w.sys.fillWindow l).2 ≠ [])
    (hcheck : check (w.sys.fillWindow l).2 l.timeout b (w.scanned l) = (v, b', .error e))
    (call : Handler δ) :
    w.consulted check l b = (v, []) ∧ w.runOnce check call l b =
      (v.onSys fun s => s.note (.checkFailed e (w.sys.fillWindow l).2.length), b', 0) := by
  unfold consulted runOnce
  dsimp only
  rw [if_neg hempty, if_neg hempty, hcheck]
  rw [scanned] at hcheck
  rw [hcheck]
  exact ⟨rfl, rfl⟩

/-- Otherwise the ready members have their turns. -/
theorem runOnce_of_ready {w v : World δ} {b b' : π} {ready : List ConnId}
    (hempty : (w.sys.fillWindow l).2 ≠ [])
    (hcheck : check (w.sys.fillWindow l).2 l.timeout b (w.scanned l) = (v, b', .ok ready))
    (call : Handler δ) :
    w.consulted check l b = (v, ready) ∧ w.runOnce check call l b =
      ((v.dispatchReady call l ready).1.onSys fun s =>
        s.countDispatches l (v.dispatchReady call l ready).2, b',
        (v.dispatchReady call l ready).2) := by
  unfold consulted runOnce
  dsimp only
  rw [if_neg hempty, if_neg hempty, hcheck]
  rw [scanned] at hcheck
  rw [hcheck]
  exact ⟨rfl, rfl⟩

/-! ### A record of the calls -/

/-- A turn in which nobody is called changes nothing, and one in which somebody is
    counts. -/
theorem turn_cases (call : Handler δ) (l : PollLoop) (id : ConnId) (w : World δ) :
    (w.sys.callOf l id = none ∧ w.turn call l id = w ∧
      ∀ made, (w.beside made).turn call.recorded l id = w.beside made) ∨
    ∃ x, w.sys.callOf l id = some x ∧ ∀ made,
      (w.beside made).turn call.recorded l id =
        (w.turn call l id).beside (made ++ [x.invocation]) := by
  unfold turn System.callOf
  -- A member that is no entry, or has no callback, has an idle turn.
  rcases hentry : w.sys.entry? l id with _ | c
  · refine Or.inl ⟨rfl, rfl, fun made => ?_⟩
    rw [show (w.beside made).sys.entry? l id = none from hentry]
  · have hentry' : ∀ made, (w.beside made).sys.entry? l id = some c := fun _ => hentry
    rcases hbegin : (w.sys.begin c l.bufferSize).2 with _ | ⟨y, data⟩
    · refine Or.inl ⟨by rw [Option.bind_some, hbegin, Option.map_none], ?_, fun made => ?_⟩
      · exact congrArg Prod.fst (dispatch_of_none hbegin call)
      · rw [hentry']
        exact congrArg Prod.fst (dispatch_of_none (w := w.beside made) hbegin call.recorded)
    · refine Or.inr ⟨⟨id, c, y.callback, data⟩, ?_, fun made => ?_⟩
      · rw [Option.bind_some, hbegin, Option.map_some]
      · rw [hentry']
        exact congrArg Prod.fst (dispatch_recorded hbegin call made)

/-- The turns after the first go on from where it ended, and it counts if somebody was
    called in it. -/
theorem dispatchReady_cons (call : Handler δ) (l : PollLoop) (id : ConnId) (rest : List ConnId)
    (w : World δ) :
    w.dispatchReady call l (id :: rest) =
      (((w.turn call l id).dispatchReady call l rest).1,
        (w.sys.callOf l id).toList.length + ((w.turn call l id).dispatchReady call l rest).2) := by
  unfold turn System.callOf
  rw [dispatchReady]
  rcases w.sys.entry? l id with _ | c
  · rw [Option.bind_none, Option.toList_none, List.length_nil, Nat.zero_add]
  · dsimp only
    rcases hbegin : (w.sys.begin c l.bufferSize).2 with _ | ⟨y, data⟩
    · rw [if_pos ((skipped_iff call c l.bufferSize w).mpr hbegin), Option.bind_some, hbegin,
        Option.map_none, Option.toList_none, List.length_nil, Nat.zero_add]
    · -- A call that began was not skipped, so it counts.
      rw [if_neg (dispatch_of_some hbegin call).1, Option.bind_some, hbegin, Option.map_some,
        Option.toList_some, List.length_singleton, Nat.add_comm]

theorem filterMap_turns_cons (call : Handler δ) (l : PollLoop) (id : ConnId) (rest : List ConnId)
    (w : World δ) :
    ((w.turns call l (id :: rest)).filterMap fun t => t.2.callOf l t.1) =
      (w.sys.callOf l id).toList ++
        ((w.turn call l id).turns call l rest).filterMap fun t => t.2.callOf l t.1 := by
  rw [turns, List.filterMap_cons]
  rcases w.sys.callOf l id with _ | x
  · rfl
  · rfl

/-- As many calls are counted as the turns make. -/
theorem dispatchReady_length (call : Handler δ) (l : PollLoop) (ready : List ConnId)
    (w : World δ) : (w.dispatchReady call l ready).2 =
      ((w.turns call l ready).filterMap fun t => t.2.callOf l t.1).length := by
  induction ready generalizing w with
  | nil => rfl
  | cons id rest ih => rw [dispatchReady_cons, filterMap_turns_cons, List.length_append, ih]

/-- The ready members make the calls of their turns. -/
theorem dispatchReady_recorded (call : Handler δ) (l : PollLoop) (ready : List ConnId)
    (w : World δ) (made : List (CallbackKey × Bytes)) :
    (w.beside made).dispatchReady call.recorded l ready =
      ((w.dispatchReady call l ready).1.beside (made ++
        ((w.turns call l ready).filterMap fun t => t.2.callOf l t.1).map Call.invocation),
        (w.dispatchReady call l ready).2) := by
  -- On the members that are left; what was called before is carried along.
  induction ready generalizing w made with
  | nil =>
      rw [turns, List.filterMap_nil, List.map_nil, List.append_nil]
      rfl
  | cons id rest ih =>
      have hsys : (w.beside made).sys = w.sys := rfl
      rw [dispatchReady_cons, dispatchReady_cons, filterMap_turns_cons, hsys]
      rcases turn_cases call l id w with ⟨hnone, hsame, hturn⟩ | ⟨x, hsome, hturn⟩
      · rw [hturn, ih, hsame, hnone]
        rfl
      · rw [hturn, ih, hsome, List.map_append, List.append_assoc]
        rfl

/-- A cycle makes the calls of its turns and no other, and answers how many. -/
theorem runOnce_recorded (check : Check π δ) (call : Handler δ) (l : PollLoop) (b : π)
    (w : World δ) (made : List (CallbackKey × Bytes)) :
    (w.beside made).runOnce check.recorded call.recorded l b =
        ((w.runOnce check call l b).1.beside
          (made ++ (w.calls check call l b).map Call.invocation), (w.runOnce check call l b).2) ∧
      (w.runOnce check call l b).2.2 = (w.calls check call l b).length := by
  have hrecorded : check.recorded ((w.beside made).sys.fillWindow l).2 l.timeout b
      ((w.beside made).scanned l) =
        ((check (w.sys.fillWindow l).2 l.timeout b (w.scanned l)).1.beside made,
          (check (w.sys.fillWindow l).2 l.timeout b (w.scanned l)).2) := rfl
  -- A cycle of a recording loop is the same cycle, whichever way it ends.
  unfold calls
  by_cases hempty : (w.sys.fillWindow l).2 = []
  · rcases runOnce_of_empty hempty check call b with ⟨hasked, hrun⟩
    rw [hasked, hrun, (runOnce_of_empty (w := w.beside made) hempty check.recorded
      call.recorded b).2, turns, List.filterMap_nil, List.map_nil, List.append_nil]
    exact ⟨rfl, rfl⟩
  · rcases hcheck :
      check (w.sys.fillWindow l).2 l.timeout b (w.scanned l) with ⟨v, b', e | ready⟩ <;>
      rw [hcheck] at hrecorded
    · rcases runOnce_of_error hempty hcheck call with ⟨hasked, hrun⟩
      rw [hasked, hrun, (runOnce_of_error (w := w.beside made) hempty hrecorded call.recorded).2,
        turns, List.filterMap_nil, List.map_nil, List.append_nil]
      exact ⟨rfl, rfl⟩
    · rcases runOnce_of_ready hempty hcheck call with ⟨hasked, hrun⟩
      rw [hasked, hrun, (runOnce_of_ready (w := w.beside made) hempty hrecorded call.recorded).2,
        dispatchReady_recorded]
      exact ⟨rfl, dispatchReady_length call l ready v⟩

/-! ### The turns -/

/-- Every ready member has one turn, in order. -/
theorem turns_fst (call : Handler δ) (l : PollLoop) (ready : List ConnId) (w : World δ) :
    (w.turns call l ready).map Prod.fst = ready := by
  induction ready generalizing w with
  | nil => rfl
  | cons id rest ih => rw [turns, List.map_cons, ih]

theorem abides_turn (hcall : call.Abides) (l : PollLoop) (id : ConnId) {w : World δ}
    (hw : w.sys.FitReached) : System.Abides w.sys (w.turn call l id).sys := by
  unfold turn
  rcases w.sys.entry? l id with _ | c
  · exact System.abides_refl w.sys
  · exact abides_dispatch hcall c l.bufferSize hw

/-- Every turn finds a state that can be reached. -/
theorem fitReached_of_mem_turns (hcall : call.Abides) {ready : List ConnId} {w : World δ}
    (hw : w.sys.FitReached) {t : ConnId × System} (ht : t ∈ w.turns call l ready) :
    t.2.FitReached := by
  induction ready generalizing w with
  | nil => exact absurd ht List.not_mem_nil
  | cons id rest ih =>
      rcases List.mem_cons.mp ht with rfl | ht
      · exact hw
      · exact ih (hw.fitLeads (abides_turn hcall l id hw).fitLeads) ht

/-- The backend is asked in a state that can be reached, and so it leaves one. -/
theorem abides_consulted (hcheck : check.Abides) (l : PollLoop) (b : π) {w : World δ}
    (hw : w.sys.FitReached) : System.Abides w.sys (w.consulted check l b).1.sys := by
  have hscan := abides_scan l w.sys
  unfold consulted
  split
  · exact hscan
  · have hask := System.abides_trans hscan (hcheck (w.sys.fillWindow l).2 l.timeout b (w.scanned l)
      (hw.fitLeads hscan.fitLeads))
    -- Failing or not, the check is what was done.
    rcases hanswer :
        check (w.sys.fillWindow l).2 l.timeout b (w.scanned l) with ⟨v, b', e | ready⟩ <;>
      rw [hanswer] at hask
    · exact hask
    · exact hask

/-- Calls are made in the order of the turns. -/
theorem members_sublist (l : PollLoop) (ts : List (ConnId × System)) :
    ((ts.filterMap fun t => t.2.callOf l t.1).map Call.member).Sublist (ts.map Prod.fst) := by
  induction ts with
  | nil => exact List.Sublist.refl []
  | cons t ts ih =>
      rw [List.filterMap_cons]
      rcases hcall : t.2.callOf l t.1 with _ | x
      · exact ih.cons t.1
      · rcases Option.bind_eq_some_iff.mp hcall with ⟨c, -, hbegun⟩
        rcases Option.map_eq_some_iff.mp hbegun with ⟨y, -, rfl⟩
        exact ih.cons_cons t.1

end World

/-- A window has every connection once. -/
theorem System.nodup_window {s : System} (h : s.Enrolled) (l : PollLoop) :
    ((s.fillWindow l).2.map ConnId.serial).Nodup := by
  have hsound := h.sound l.registry
  rcases fills_fillWindow l hsound with ⟨left, hfill⟩
  have hmade : ∀ id ∈ (s.fillWindow l).2, ∃ c, s.ident c = some id := by
    intro id hid
    rw [hfill.window_eq] at hid
    have hlisted : id ∈ (s.registry l.registry).order :=
      List.mem_of_mem_drop (List.mem_of_mem_filter (List.mem_of_mem_take hid))
    rcases (hsound.mem_order_iff id).mp hlisted with ⟨c, hc⟩
    exact ⟨c, (h.entry l.registry id c hc).1⟩
  refine (hfill.nodup hsound).map_on fun id hid id' hid' hsame => ?_
  rcases hmade id hid with ⟨c, hc⟩
  rcases hmade id' hid' with ⟨d, hd⟩
  -- The serial tells the connection, and the connection the identity.
  have hcd : c = d := by
    have hserial := h.serial c id hc
    rw [hsame, h.serial d id' hd] at hserial
    exact (Nat.succ.inj hserial).symm
  rw [hcd, hd] at hc
  exact (Option.some.inj hc).symm

namespace World

variable {check : Check π δ} {call : Handler δ} {l : PollLoop}

/-- If the backend keeps to the window, calls are made in its order, and no connection
    is called twice. -/
theorem calls_inOrder (hcheck : check.Abides) (hcall : call.Abides) (horder : check.InOrder)
    (l : PollLoop) (b : π) {w : World δ} (hw : w.sys.FitReached) :
    ((w.calls check call l b).map Call.member).Sublist (w.sys.fillWindow l).2 ∧
      ((w.calls check call l b).map Call.conn).Nodup := by
  have hasked := hw.fitLeads (abides_consulted hcheck l b hw).fitLeads
  have hready : (w.consulted check l b).2.Sublist (w.sys.fillWindow l).2 := by
    unfold consulted
    split
    · exact List.nil_sublist _
    · split
      · exact List.nil_sublist _
      · next heq => exact horder _ _ _ _ _ _ _ heq
  have hmembers :=
    members_sublist l ((w.consulted check l b).1.turns call l (w.consulted check l b).2)
  rw [turns_fst] at hmembers
  refine ⟨hmembers.trans hready, ?_⟩
  -- The serial of a member is that of the connection that is called.
  have hserial : (w.calls check call l b).map (fun x => x.conn + 1) =
      ((w.calls check call l b).map Call.member).map ConnId.serial := by
    rw [List.map_map]
    refine List.map_congr_left fun x hx => ?_
    rcases List.mem_filterMap.mp hx with ⟨t, ht, hcalled⟩
    have henrolled := (fitReached_of_mem_turns hcall hasked ht).enrolled
    exact (henrolled.serial x.conn x.member
      (System.called_of_callOf henrolled hcalled).2.ident).symm
  have hnodup := (System.nodup_window hw.enrolled l).sublist
    ((hmembers.trans hready).map ConnId.serial)
  rw [calls] at hserial
  rw [← hserial] at hnodup
  refine List.Nodup.of_map (· + 1) ?_
  rw [List.map_map]
  exact hnodup

/-! ### Counting -/

theorem stats_countCycle {s : System} (hrow : l.counters < s.counters.size) :
    (s.countCycle l).stats l.counters =
      { s.stats l.counters with cycles := (s.stats l.counters).cycles + 1 } := by
  have hget : s.counters.get? l.counters = some s.counters.rows[l.counters] :=
    Array.getElem?_eq_getElem hrow
  simp only [System.stats, System.countCycle, Table.get?_update, if_true, hget, Option.map_some,
    Option.getD_some]

theorem stats_countDispatches {s : System} (hrow : l.counters < s.counters.size) (n : Nat) :
    (s.countDispatches l n).stats l.counters =
      { s.stats l.counters with dispatches := (s.stats l.counters).dispatches + n } := by
  have hget : s.counters.get? l.counters = some s.counters.rows[l.counters] :=
    Array.getElem?_eq_getElem hrow
  simp only [System.stats, System.countDispatches, Table.get?_update, if_true, hget,
    Option.map_some, Option.getD_some]

theorem stats_congr {s t : System} (h : t.counters = s.counters) (k : CountersKey) :
    t.stats k = s.stats k := by rw [System.stats, System.stats, h]

/-- A dispatch counts nothing itself. -/
theorem stats_dispatch {k : CountersKey} (hcall : call.Spares k) (c : ConnKey) (size : Nat)
    {w : World δ} (hw : w.sys.FitReached) :
    (w.dispatch call c size).1.sys.stats k = w.sys.stats k := by
  rcases hb : (w.sys.begin c size).2 with _ | ⟨x, data⟩
  · rw [dispatch_of_none hb]
  · have hbegin : System.FitLeads w.sys (w.sys.begin c size).1 :=
      System.fitLeads_perform (m := .begin c size) trivial
    rw [(dispatch_of_some hb call).2, stats_congr (System.sameStaff_finish x _ _).counters,
      hcall x.callback data _ (hw.fitLeads hbegin),
      stats_congr (System.sameStaff_begin c size w.sys).counters]

theorem stats_dispatchReady {k : CountersKey} (habides : call.Abides) (hcall : call.Spares k)
    (l : PollLoop) (ready : List ConnId) {w : World δ} (hw : w.sys.FitReached) :
    (w.dispatchReady call l ready).1.sys.stats k = w.sys.stats k := by
  -- One member after the other, each in a state the one before has left.
  induction ready generalizing w with
  | nil => rfl
  | cons id rest ih =>
      rw [dispatchReady_cons, ih (hw.fitLeads (abides_turn habides l id hw).fitLeads), turn]
      rcases w.sys.entry? l id with _ | c
      · rfl
      · exact stats_dispatch hcall c l.bufferSize hw

/-- A cycle counts itself before it asks, and its calls at the end. What is counted in
    between is counted by backend and callbacks. -/
theorem stats_runOnce (hcheck : check.Abides) (hcall : call.Abides) (l : PollLoop) (b : π)
    {w : World δ} (hw : w.sys.FitReached) (hrow : l.counters < w.sys.counters.size) :
    (w.scanned l).sys.stats l.counters = { w.sys.stats l.counters with
        cycles := (w.sys.stats l.counters).cycles + 1 } ∧
      (w.runOnce check call l b).1.sys.stats l.counters =
        { (w.turned check call l b).sys.stats l.counters with
          dispatches := ((w.turned check call l b).sys.stats l.counters).dispatches +
            (w.calls check call l b).length } ∧
      (check.Spares l.counters → call.Spares l.counters →
        (w.turned check call l b).sys.stats l.counters = (w.scanned l).sys.stats l.counters) := by
  have hscan := abides_scan l w.sys
  have hasked := abides_consulted hcheck l b hw
  refine ⟨stats_countCycle (s := (w.sys.fillWindow l).1) hrow, ?_, fun hcheck' hcall' => ?_⟩
  · have hturned : l.counters < (w.turned check call l b).sys.counters.size :=
      Nat.lt_of_lt_of_le hrow
        (System.abides_trans hasked
          (abides_dispatchReady hcall l _ (hw.fitLeads hasked.fitLeads))).counters
    rw [← (runOnce_recorded check call l b w []).2]
    unfold turned at hturned ⊢
    -- A cycle ends without a window, with an error, or with a report.
    by_cases hempty : (w.sys.fillWindow l).2 = []
    · rcases runOnce_of_empty hempty check call b with ⟨heq, hrun⟩
      rw [heq, hrun]
      rfl
    · rcases hanswer : check (w.sys.fillWindow l).2 l.timeout b (w.scanned l) with
        ⟨v, b', e | ready⟩
      · rcases runOnce_of_error hempty hanswer call with ⟨heq, hrun⟩
        rw [heq, hrun]
        rfl
      · rcases runOnce_of_ready hempty hanswer call with ⟨heq, hrun⟩
        rw [heq] at hturned ⊢
        rw [hrun]
        exact stats_countDispatches hturned _
  · rw [turned, stats_dispatchReady hcall hcall' l _ (hw.fitLeads hasked.fitLeads), consulted]
    split
    · rfl
    · have hspared := hcheck' (w.sys.fillWindow l).2 l.timeout b (w.scanned l)
        (hw.fitLeads hscan.fitLeads)
      rcases hanswer : check (w.sys.fillWindow l).2 l.timeout b (w.scanned l) with
        ⟨v, b', e | ready⟩ <;> rw [hanswer] at hspared
      · exact hspared
      · exact hspared

/-! ### A cycle -/

/-- What a cycle does, in any state that can be reached and for whatever backend and
    callbacks do that can be done. It makes one call for each ready member that is still
    listed, alive and filled when its turn comes, in the order of the report, and answers
    how many; panics end turns and nothing more. Who has left by then is not called, and
    a call reaches nobody but the one connection of the member's identity. If the backend
    keeps to the window, as both do, so do the calls. Cycle and calls are counted. If
    there is no window or the question fails nobody is called, and nothing is done but
    dropping dead entries and moving the scan. -/
theorem cycle_settled (hcheck : check.Abides) (hcall : call.Abides) (l : PollLoop) (b : π)
    (w : World δ) (hw : w.sys.FitReached) :
    let window := (w.sys.fillWindow l).2
    let ready := (w.consulted check l b).2
    let turns := (w.consulted check l b).1.turns call l ready
    let calls := turns.filterMap fun t => t.2.callOf l t.1
    let after := w.runOnce check call l b
    (∀ made, (w.beside made).runOnce check.recorded call.recorded l b =
      (after.1.beside (made ++ calls.map Call.invocation), after.2)) ∧
    after.2.2 = calls.length ∧
    (turns.map Prod.fst = ready ∧ ∀ t ∈ turns,
      ((t.2.callOf l t.1).isSome = true ↔ ∃ c, (t.1, c) ∈ (t.2.registry l.registry).refs ∧
        t.2.alive c = true ∧ (t.2.slot c).callback.isSome = true) ∧
      (∀ x, t.2.callOf l t.1 = some x → x.member = t.1 ∧ t.2.Called l x) ∧
      ∀ c, t.2.ident c = some t.1 →
        (t.2.slot c).registry ≠ some l.registry ∨ t.2.isConnected c = false ∨
          t.1 ∉ (t.2.registry l.registry).order → t.2.callOf l t.1 = none) ∧
    (check.InOrder → (calls.map Call.member).Sublist window ∧ (calls.map Call.conn).Nodup) ∧
    (l.counters < w.sys.counters.size →
      let last := w.turned check call l b
      (w.scanned l).sys.stats l.counters = { w.sys.stats l.counters with
        cycles := (w.sys.stats l.counters).cycles + 1 } ∧
      after.1.sys.stats l.counters = { last.sys.stats l.counters with
        dispatches := (last.sys.stats l.counters).dispatches + calls.length } ∧
      (check.Spares l.counters → call.Spares l.counters →
        last.sys.stats l.counters = (w.scanned l).sys.stats l.counters)) ∧
    (window = [] → calls = [] ∧ w.sys.Pruned l after.1.sys) ∧
    ∀ v b' e, window ≠ [] → check window l.timeout b (w.scanned l) = (v, b', .error e) →
      calls = [] ∧ System.Noted v.sys after.1.sys ∧
        (v.sys.connections = (w.scanned l).sys.connections →
          v.sys.registries = (w.scanned l).sys.registries →
          v.sys.kernel.sockets = (w.scanned l).sys.kernel.sockets →
          w.sys.Pruned l after.1.sys) := by
  intro window ready turns calls after
  have hpruned : w.sys.Pruned l (w.scanned l).sys := System.pruned_scan hw.enrolled l
  -- The turns begin where the check has ended.
  have hasked := hw.fitLeads (abides_consulted hcheck l b hw).fitLeads
  have hrecorded := runOnce_recorded check call l b w
  refine ⟨fun made => (hrecorded made).1, (hrecorded []).2,
    ⟨turns_fst call l ready _, fun t ht => ?_⟩,
    fun horder => calls_inOrder hcheck hcall horder l b hw,
    fun hrow => stats_runOnce hcheck hcall l b hw hrow, fun hempty => ?_,
    fun v b' e hempty hanswer => ?_⟩
  · have henrolled := (fitReached_of_mem_turns hcall hasked ht).enrolled
    exact ⟨System.isSome_callOf henrolled, fun x => System.called_of_callOf henrolled,
      fun c hid hgone => System.callOf_eq_none henrolled hid hgone⟩
  · rcases runOnce_of_empty hempty check call b with ⟨heq, hrun⟩
    refine ⟨calls_of_idle (congrArg Prod.snd heq) call, ?_⟩
    change w.sys.Pruned l (w.runOnce check call l b).1.sys
    rw [hrun]
    exact hpruned
  · rcases runOnce_of_error hempty hanswer call with ⟨heq, hrun⟩
    -- Nothing but the failure of the check is written down.
    have hnoted : after.1.sys = v.sys.note (.checkFailed e window.length) := by
      change (w.runOnce check call l b).1.sys = _
      rw [hrun]
      rfl
    refine ⟨calls_of_idle (congrArg Prod.snd heq) call, ⟨v.sys.held, _, hnoted⟩,
      fun hconnections hregistries hsockets => ?_⟩
    rw [hnoted]
    exact hpruned.congr hconnections hregistries hsockets

/-- Three connections are ready. The callback of the first closes the second one, opens
    another under its descriptor number, and panics. The third is called all the same. -/
theorem cycle_settled_reused :
    let ms : List Move := [.addCounters, .pair 10 11, .pair 12 13, .pair 14 15, .attach 0 0 none,
      .attach 2 0 none, .attach 4 0 none, .write 1 [97], .write 3 [98], .write 5 [99]]
    let w : World Unit := ⟨System.run ms (System.init 1), ()⟩
    let act : CallbackKey → List Move := fun k => if k = 0 then [.close 2, .pair 12 22] else []
    let call : Handler Unit := fun k _ w => (w.onSys (System.run (act k)), .panicked)
    let l : PollLoop := ⟨0, 8, 16, Config.default.pollTimeout, 0⟩
    let b : Poller := .pollSet ⟨8⟩
    let after := w.runOnce checkPoller call l b
    w.sys.FitReached ∧ call.Abides ∧
      ((w.beside []).runOnce (Check.recorded checkPoller) call.recorded l b).1.desk.2 =
        [(0, [97]), (2, [99])] ∧
      after.2.2 = 2 ∧ after.1.sys.stats 0 = ⟨1, 2⟩ ∧
      (w.consulted checkPoller l b).2 = [⟨1, 10⟩, ⟨3, 12⟩, ⟨5, 14⟩] ∧
      after.1.sys.ident 6 = some ⟨7, 12⟩ := by
  intro ms w act call l b after
  have hms : System.FitIn (ms.map .move) (System.init 1) :=
    ⟨trivial, trivial, trivial, trivial, Move.fits_attach (by decide) 0,
      Move.fits_attach (by decide) 0, Move.fits_attach (by decide) 0, trivial, trivial, trivial,
      trivial⟩
  have hw : w.sys.FitReached :=
    ⟨1, ms.map .move, hms, (System.handle_moves ms (System.init 1)).symm⟩
  have hfits : ∀ k (s : System), System.FitIn ((act k).map .move) s := by
    intro k s
    by_cases hk : k = 0
    · rw [show act k = [.close 2, .pair 12 22] from if_pos hk]
      exact ⟨trivial, trivial, trivial⟩
    · rw [show act k = [] from if_neg hk]
      trivial
  have hends : ∀ k, ∀ m ∈ act k, m.ends = false := by
    intro k m hm
    by_cases hk : k = 0
    · rw [show act k = [.close 2, .pair 12 22] from if_pos hk] at hm
      rcases List.mem_cons.mp hm with rfl | hm
      · rfl
      · rw [List.mem_singleton.mp hm]
        rfl
    · rw [show act k = [] from if_neg hk] at hm
      exact absurd hm List.not_mem_nil
  have hcall : call.Abides := Handler.abides_run (fun k _ _ => act k) (fun _ _ _ => .panicked)
    (fun k _ w _ => hfits k w.sys) fun k _ _ => hends k
  rcases cycle_settled abides_checkPoller hcall l b w hw with ⟨hmade, hcount, -, -, -, -, -⟩
  refine ⟨hw, hcall, ?_, hcount.trans ?_, ?_, ?_, ?_⟩
  · rw [hmade]
    decide +kernel
  · decide +kernel
  · decide +kernel
  · decide +kernel
  · decide +kernel

end World

end ReadNotify
