import ReadNotify.Proofs.Handles.Accounts
import ReadNotify.Proofs.Handles.Collapse

/-!
# Settling Handles

When a callback is destroyed it lets go of what it keeps, which may close connections,
whose callbacks are then destroyed, and so on through whatever graph of handles there
is. It comes to an end because each callback is destroyed once, and at one state only,
however long the chain may become. In that state a connection is open if it was never
closed by name and somebody still keeps a handle of it.

What was closed on the way is registered nowhere, and whoever is at its other end reads
what was on its way, at most one reset, and then the end. For everybody else nothing
has happened: slots, queues and entries are what they were, and the scan of every
registry stands before the same one of the entries that stay.

## Main definitions

* `Kernel.replies`: What reading a socket again and again answers.
* `Kernel.endedStream`: What a stream answers that has ended.
* `System.Cut`: What has become of a connection that was closed on the way.
* `System.Spared`: What has become of one that was not.

## Theorems

* `Does.unique`, `destroy_eq`, `destroyWithin_eq_destroy`: A chain has one end.
* `replies_of_ended`: What is read from a socket whose other end is closed.
* `mem_order_unwinds`: Entries whose slots stay are not struck.
* `handles_settled`: What becomes of all handles, connections and registries.
-/

namespace ReadNotify

/-! ### One end -/

namespace System

variable {s t u : System}

/-- A chain does the same whenever it starts from the same state. -/
theorem Does.unique {chore : Chore} (h : Does chore s t) (h' : Does chore s u) : t = u := by
  -- Each state of the chain leaves one thing to do.
  induction h generalizing u with
  | spared hdead =>
      cases h' with
      | spared _ => rfl
      | ended hrow hlive _ =>
          rw [isLive_of_get? hrow, hlive] at hdead
          exact absurd hdead.symm Bool.false_ne_true
  | ended hrow hlive hrest ih =>
      cases h' with
      | spared hdead =>
          rw [isLive_of_get? hrow, hlive] at hdead
          exact absurd hdead.symm Bool.false_ne_true
      | ended hrow' _ hrest' =>
          rcases Option.some.inj (hrow.symm.trans hrow')
          exact ih hrest'
  | done =>
      cases h' with
      | done => rfl
  | kept hheld hrest ih =>
      cases h' with
      | kept _ hrest' => exact ih hrest'
      | closed hlast _ _ => exact absurd (hlast.symm.trans hheld) Bool.false_ne_true
      | chained hlast _ _ _ => exact absurd (hlast.symm.trans hheld) Bool.false_ne_true
  | closed hlast hnone hrest ih =>
      cases h' with
      | kept hheld _ => exact absurd (hlast.symm.trans hheld) Bool.false_ne_true
      | closed _ _ hrest' => exact ih hrest'
      | chained _ hsome _ _ =>
          exact absurd (hnone.symm.trans hsome) (by simp only [reduceCtorEq, not_false_eq_true])
  | chained hlast hsome hinner hrest ihinner ihrest =>
      cases h' with
      | kept hheld _ => exact absurd (hlast.symm.trans hheld) Bool.false_ne_true
      | closed _ hnone _ =>
          exact absurd (hnone.symm.trans hsome) (by simp only [reduceCtorEq, not_false_eq_true])
      | chained _ hsome' hinner' hrest' =>
          rcases Option.some.inj (hsome.symm.trans hsome')
          rcases ihinner hinner'
          exact ihrest hrest'

/-- A callback that was destroyed is left alone. -/
theorem destroy_of_dead {k : CallbackKey} (hdead : s.isLive k = false) : s.destroy k = s :=
  (destroys_destroy k s).unique (.spared hdead)

/-- A callback that is living is destroyed by letting go of what it keeps. -/
theorem destroy_eq {k : CallbackKey} {cb : Callback} (hrow : s.callbacks.get? k = some cb)
    (hlive : cb.ended = none) :
    s.destroy k =
      cb.holds.foldl (fun s h => closeUnheld destroy h (s.letGo k h)) (s.endCallback k) := by
  have hleads := does_foldl (fun j u _ => destroys_destroy j u) k cb.holds (s.endCallback k)
    (Nat.lt_succ_self _)
  exact (destroys_destroy k s).unique (.ended hrow hlive hleads)

/-- No bound on the length matters that is above the number of living callbacks. -/
theorem destroyWithin_eq_destroy {n : Nat} (hn : s.living.card < n) (k : CallbackKey) :
    destroyWithin n k s = s.destroy k :=
  (destroys_destroyWithin n k s hn).unique (destroys_destroy k s)

end System

/-! ### The other end of a connection that was closed -/

namespace Kernel

variable {k : Kernel} {q : SocketKey}

/-- What reading a socket again and again answers, each time with room for so much. -/
def replies (q : SocketKey) : List Nat → Kernel → List ReceiveReply
  | [], _ => []
  | n :: ns, k => (k.receive q n).2 :: replies q ns (k.receive q n).1

/-- A stream that has ended: what was on its way, one reset if there was one, and
    then the end for good. -/
def endedStream : Bytes → Bool → List Nat → List ReceiveReply
  | _, _, [] => []
  | data, reset, n :: ns =>
    if data ≠ [] then .bytes (data.take n) :: endedStream (data.drop n) reset ns
    else if reset then .failed IoError.resetByPeer :: endedStream [] false ns
    else .bytes [] :: endedStream [] false ns

/-- What one reading gives on a socket whose other end is closed: of what was on its
    way, else the reset if there was one, else the end. -/
theorem receive_of_ended {sock : Socket} (hq : k.socket? q = some sock)
    (hbacklog : sock.backlog = none) (hended : sock.ended = true) (n : Nat) :
    (sock.inbox ≠ [] ∧ k.receive q n =
      (k.updateSocket q fun x => { x with inbox := x.inbox.drop n },
        .bytes (sock.inbox.take n))) ∨
    (sock.inbox = [] ∧ ∃ code, sock.pendingError = some code ∧ k.receive q n =
      (k.updateSocket q fun x => { x with pendingError := none }, .failed code)) ∨
    sock.inbox = [] ∧ sock.pendingError = none ∧ k.receive q n = (k, .bytes []) := by
  -- A listener has a backlog.
  have hlistening : ¬ sock.listening = true := by
    rw [Socket.listening, hbacklog]
    exact Bool.false_ne_true
  unfold receive
  rw [hq]
  dsimp only
  rw [if_neg hlistening]
  -- Bytes come first, then an error, then the end.
  by_cases hinbox : sock.inbox = []
  · rw [if_neg (not_not.mpr hinbox)]
    rcases hpending : sock.pendingError with _ | code
    · exact Or.inr (Or.inr ⟨hinbox, rfl, if_pos hended⟩)
    · exact Or.inr (Or.inl ⟨hinbox, code, rfl, rfl⟩)
  · exact Or.inl ⟨hinbox, if_pos hinbox⟩

/-- What is read from it again and again. -/
theorem replies_of_ended {sock : Socket} (hq : k.socket? q = some sock)
    (hbacklog : sock.backlog = none) (hended : sock.ended = true)
    (herror : ∀ code, sock.pendingError = some code → code = IoError.resetByPeer)
    (ns : List Nat) :
    k.replies q ns = endedStream sock.inbox sock.pendingError.isSome ns := by
  -- On the reads. Each leaves a shorter inbox, or no error, or all as it was.
  induction ns generalizing k sock with
  | nil => rw [replies, endedStream]
  | cons n ns ih =>
      have hupdate : ∀ f : Socket → Socket, (k.updateSocket q f).socket? q = some (f sock) := by
        intro f
        rw [socket?_updateSocket, if_pos rfl, hq, Option.map_some]
      rw [replies, endedStream]
      rcases receive_of_ended hq hbacklog hended n with
        ⟨hinbox, heq⟩ | ⟨hinbox, code, hpending, heq⟩ | ⟨hinbox, hpending, heq⟩
      · rw [heq, if_pos hinbox]
        exact congrArg _ (ih (hupdate fun x => { x with inbox := x.inbox.drop n }) hbacklog hended
          herror)
      · have hrest := ih (hupdate fun x => { x with pendingError := none }) hbacklog hended
          fun _ h => absurd h (by simp only [reduceCtorEq, not_false_eq_true])
        rw [hinbox] at hrest
        rw [heq, if_neg (not_not.mpr hinbox), hpending, Option.isSome_some, if_pos rfl,
          herror code hpending]
        exact congrArg _ hrest
      · have hrest := ih hq hbacklog hended herror
        rw [hinbox, hpending] at hrest
        rw [heq, if_neg (not_not.mpr hinbox), hpending, Option.isSome_none,
          if_neg Bool.false_ne_true]
        exact congrArg _ hrest

end Kernel

namespace System

variable {s t u v : System} {own : ConnKey → Prop}

/-- What has become of a connection that was closed on the way. It has lost callback,
    registration, entries and socket. Who is at its other end reads the bytes that were
    on their way, at most one reset, and then the end. -/
structure Cut (s t : System) (c : ConnKey) : Prop where
  slot : (t.slot c).registry = none ∧ (t.slot c).callback = none
  unlisted : ∀ q id, t.ident c = some id → id ∉ (t.registry q).order
  socket : t.socket? c = none
  peer : ∀ q p, s.socket? c = some q → s.kernel.peer? q = some p → t.kernel.isOpen p = true →
    ∃ reset, ∀ ns, t.kernel.replies p ns = Kernel.endedStream (s.kernel.inbox p) reset ns

/-- A connection that was not: it is what it was, and so are its queue and its
    entries. -/
structure Spared (s t : System) (c : ConnKey) : Prop where
  conn : t.conn? c = s.conn? c
  queue : ∀ q, s.socket? c = some q → t.kernel.inbox q = s.kernel.inbox q
  listed : ∀ q id, s.ident c = some id →
    (id ∈ (t.registry q).order ↔ id ∈ (s.registry q).order)

/-! ### Entries -/

/-- The entries of a connection whose registration stands are not struck. -/
theorem mem_order_unwinds (h : s.Enrolled) (hunwinds : Unwinds s t) {c : ConnKey} {id : ConnId}
    (hid : s.ident c = some id) (hslot : (t.slot c).registry = (s.slot c).registry)
    (q : RegistryKey) : id ∈ (t.registry q).order ↔ id ∈ (s.registry q).order := by
  rcases hreg : (s.slot c).registry with _ | r
  · -- Without a registration there are none.
    have hne : ∀ p : RegistryKey, (none : Option RegistryKey) ≠ some p := fun _ => by
      simp only [ne_eq, reduceCtorEq, not_false_eq_true]
    refine iff_of_false ?_ (h.notMem_order hid (hreg ▸ hne q))
    exact (enrolled_unwinds hunwinds h).notMem_order ((hunwinds.unwound.ident c).trans hid)
      (hslot ▸ hreg ▸ hne q)
  · rw [hreg] at hslot
    induction hunwinds with
    | refl => exact Iff.rfl
    | @tail t u hstart hlink ih =>
        have hlast : Unwound t u := unwound_link hlink
        -- It was never cleared, since it would have stayed so.
        have ht : (t.slot c).registry = some r := by
          rcases (Unwinds.unwound hstart).slots c with hsame | ⟨-, hclear⟩
          · rw [hsame, hreg]
          · have hnone := hlast.registry_none (c := c) (by rw [hclear]; rfl)
            exact absurd (hnone.symm.trans hslot) (by simp only [reduceCtorEq, not_false_eq_true])
        rw [← ih ht]
        cases hlink with
        | ended k => exact Iff.rfl
        | released k d => exact Iff.rfl
        | noted held log => exact Iff.rfl
        | disconnected d hnone =>
            rw [registry, (tables_disconnect d t).2.1]
            exact Iff.rfl
        | cleared d =>
            rcases clearSlot_cases d t with ⟨-, heq⟩ | ⟨conn, p, hconn, -, -, heq⟩
            · rw [heq]
            · have hself := registry_clearSlot_self d t
              have hidd : t.ident d = some conn.id := by rw [ident, hconn, Option.map_some]
              have hidc : t.ident c = some id := ((Unwinds.unwound hstart).ident c).trans hid
              have hne : id ≠ conn.id := by
                rintro rfl
                rw [(enrolled_unwinds hstart h).ident_inj hidc hidd, hself] at hslot
                exact absurd hslot (by simp only [reduceCtorEq, not_false_eq_true])
              rw [heq, registry_onRegistry]
              split
              · next hq =>
                  have hsound := (enrolled_unwinds hstart h).sound p
                  change id ∈ ((t.registry p).remove conn.id).1.order ↔ _
                  rw [hsound.remove_eq_restrict, Registry.restrict, List.mem_filter,
                    and_iff_left (bne_iff_ne.mpr hne), hq.1]
              · exact Iff.rfl

/-! ### Wires -/

theorem wired_handling (h : s.Wired) (e : Handling) : (e.perform s).Wired := by
  cases e with
  | restore x generation =>
      rw [Handling.perform]
      split
      · exact (wired_closings (closings_finish { x with generation } .returned s) h).1
      · exact h
  | move m => exact (follows_perform h m).1

theorem FitReached.wired (h : s.FitReached) : s.Wired := by
  rcases h with ⟨n, es, hes, rfl⟩
  exact fit_preserves (q := Wired) (fun e _ _ hs => wired_handling hs e) hes (wired_init n)

/-- What destroys callbacks or gives handles up carries the streams of all connections
    that stay open. -/
theorem carries_handling (h : s.Wired) {e : Handling} (hreleases : e.releases = true) :
    Carries s (e.perform s) := by
  cases e with
  | restore x generation =>
      rw [Handling.perform]
      split
      · exact (wired_closings (closings_finish { x with generation } .returned s) h).2
      · exact carries_refl s
  | move m =>
      refine (carries_perform h ?_).2
      -- Moves that bring or take bytes release nothing.
      cases m with
      | begin c size => exact absurd hreleases Bool.false_ne_true
      | receive c size => exact absurd hreleases Bool.false_ne_true
      | write c data => exact absurd hreleases Bool.false_ne_true
      | _ => rfl

theorem Outset.wired (h : s.Wired) (houtset : Outset own s u) : u.Wired := by
  have halike := Kernel.alike_of_sockets houtset.sockets
  exact wired_steady h ⟨fun c => isSome_of_ident (houtset.ident c), houtset.socket,
    houtset.isConnected, halike⟩

/-! ### What has become of everything -/

/-- What a collapse leaves of a connection that it does not close. -/
theorem Collapses.spared (h : Collapses own s t) (hs : s.Enrolled) (hsw : s.Wired)
    (htw : t.Wired) (hcarries : Carries s t) {c : ConnKey} (hc : ¬ own c)
    (hsame : t.isConnected c = s.isConnected c) : Spared s t c := by
  rcases h with ⟨u, v, houtset, hfells, htrails⟩
  have hconn : ∀ d, t.conn? d = v.conn? d := fun d => by rw [conn?, conn?, htrails.connections]
  have hregistry : ∀ q, t.registry q = v.registry q := fun q => by
    rw [registry, registry, htrails.registries]
  have hunwinds := ChainSteps.unwinds hfells.chainSteps
  -- Either it is open, or it has been closed all along and has no registration to lose.
  have hslot : v.slot c = u.slot c := by
    cases hopen : t.isConnected c with
    | true => exact hfells.slots c hc (isConnected_congr (hconn c) ▸ hopen)
    | false =>
        have hnone : (u.slot c).registry = none := by
          rw [slot_congr (houtset.conn c hc)]
          exact hs.closed c (hsame.symm.trans hopen)
        refine (hunwinds.unwound.slots c).resolve_right fun hclear => ?_
        rw [hnone] at hclear
        exact absurd hclear.1 Bool.false_ne_true
  rcases recorded_chainSteps_of_sound hfells.chainSteps
    (fun w hw => (enrolled_unwinds hw houtset.enrolled).sound) with ⟨ks, cs, hrecorded⟩
  have hnot : c ∉ cs := by
    intro hmem
    rcases (hrecorded.closed c).mp hmem with ⟨hopen, hclosed⟩
    rw [houtset.isConnected, ← hsame, isConnected_congr (hconn c), hclosed] at hopen
    exact Bool.false_ne_true hopen
  refine ⟨?_, fun q hq => ?_, fun q id hid => ?_⟩
  · rw [hconn, hrecorded.conn c, decide_eq_false hnot, hslot, slot_congr (houtset.conn c hc),
      houtset.conn c hc]
    rcases hrow : s.conn? c with _ | conn
    · rfl
    · rw [Option.map_some, slot_of_conn? hrow]
      rfl
  · have hq' : t.socket? c = some q := by
      rw [socket?_congr (hconn c), hrecorded.socket? hnot, houtset.socket, hq]
    rcases hcarries.inbox q (htw.isOpen c q hq') with ⟨-, hinbox⟩ | ⟨hnone, -⟩
    · exact hinbox
    · have hknown := hsw.known hq
      rw [hnone] at hknown
      exact absurd hknown Bool.false_ne_true
  · rw [hregistry, mem_order_unwinds houtset.enrolled hunwinds
      ((houtset.ident c).trans hid) (congrArg Slot.registry hslot), houtset.listed c id q hc hid]

/-- The other end of a connection that was closed on the way. -/
theorem Collapses.peer (h : Collapses own s t) (hsw : s.Wired) (htw : t.Wired) {c : ConnKey}
    (hopen : s.isConnected c = true) (hclosed : t.isConnected c = false) {q p : SocketKey}
    (hq : s.socket? c = some q) (hp : s.kernel.peer? q = some p) (hend : t.kernel.isOpen p = true)
    (ns : List Nat) :
    t.kernel.replies p ns =
      Kernel.endedStream (s.kernel.inbox p) (t.kernel.error? p).isSome ns := by
  rcases h with ⟨u, v, houtset, hfells, htrails⟩
  have hu := houtset.wired hsw
  have hsocket : ∀ e, u.kernel.socket? e = s.kernel.socket? e := fun e => by
    rw [Kernel.socket?, Kernel.socket?, houtset.sockets]
  rcases recorded_chainSteps_of_sound hfells.chainSteps
    (fun w hw => (enrolled_unwinds hw houtset.enrolled).sound) with ⟨ks, cs, hrecorded⟩
  -- Its socket is one of those that were closed, and its other end was told.
  have hmem : c ∈ cs := by
    refine (hrecorded.closed c).mpr ⟨(houtset.isConnected c).trans hopen, ?_⟩
    rw [← hclosed]
    exact isConnected_congr (by rw [conn?, conn?, htrails.connections])
  have hq' : u.socket? c = some q := (houtset.socket c).trans hq
  have hlisted : q ∈ cs.reverse.filterMap u.socket? :=
    List.mem_filterMap.mpr ⟨c, List.mem_reverse.mpr hmem, hq'⟩
  have hcasualty : (q, false) ∈ (cs.reverse.filterMap u.socket?).flatMap u.kernel.casualties :=
    List.mem_flatMap.mpr ⟨q, hlisted, List.mem_append_right _ List.mem_cons_self⟩
  have hrazed := Kernel.razed_closes (hrecorded.closable hu)
  rw [← hrecorded.kernel, ← htrails.kernel] at hrazed
  have hpeer : u.kernel.peer? q = some p := by rw [Kernel.peer?, hsocket]; exact hp
  have hback := hu.kernel.paired q p hpeer
  rcases Option.bind_eq_some_iff.mp hpeer with ⟨sock, hsock, -⟩
  rcases Option.bind_eq_some_iff.mp hback with ⟨other, hother, -⟩
  have htold := hrazed.told p (q, false) sock hend hcasualty hback hsock
  rw [hother, Option.map_some] at htold
  have hcut : ∀ x : Socket, (Kernel.cutOff sock false x).inbox = x.inbox ∧
      (Kernel.cutOff sock false x).ended = true ∧
      (Kernel.cutOff sock false x).backlog = x.backlog := by
    intro x
    unfold Kernel.cutOff
    cases sock.domain with
    | unix => exact ⟨rfl, rfl, rfl⟩
    | internet => exact ⟨rfl, rfl, rfl⟩
  have hbacklog : other.backlog = none := by
    have hplain := hu.kernel.plain p q hback
    rw [Kernel.backlog?, hother] at hplain
    exact hplain
  have herror : t.kernel.error? p = (Kernel.cutOff sock false other).pendingError := by
    rw [Kernel.error?, htold, Option.bind_some]
  have hreplies := Kernel.replies_of_ended htold ((hcut other).2.2.trans hbacklog) (hcut other).2.1
    (fun code hcode => htw.kernel.errors p code (herror.trans hcode)) ns
  rw [hreplies, (hcut other).1, herror, ← Kernel.inbox_of_socket? ((hsocket p).symm.trans hother)]

/-- What a collapse leaves of a connection that it closes. -/
theorem Collapses.cut (h : Collapses own s t) (hsw : s.Wired) (ht : t.Enrolled) (htw : t.Wired)
    {c : ConnKey} (hopen : s.isConnected c = true) (hclosed : t.isConnected c = false) :
    Cut s t c := by
  have hnone := ht.closed c hclosed
  refine ⟨⟨hnone, callback_of_unregistered (fun k => ht.filled c k) hnone⟩, fun q id hid => ?_, ?_,
    fun q p hq hp hend => ⟨_, h.peer hsw htw hopen hclosed hq hp hend⟩⟩
  · refine ht.notMem_order hid ?_
    rw [hnone]
    simp only [ne_eq, reduceCtorEq, not_false_eq_true]
  · have hlinked := htw.linked c
    rw [hclosed] at hlinked
    exact Option.not_isSome_iff_eq_none.mp fun h => Bool.false_ne_true (hlinked.trans h)

/-- What a collapse does to registries: entries are struck, and those of its own
    connections entered behind all others. -/
theorem Collapses.aligned (h : Collapses own s t) (q : RegistryKey) :
    (s.registry q).Aligned (t.registry q) := by
  rcases h with ⟨u, v, houtset, hfells, htrails⟩
  rcases recorded_chainSteps_of_sound hfells.chainSteps
    (fun w hw => (enrolled_unwinds hw houtset.enrolled).sound) with ⟨ks, cs, hrecorded⟩
  rcases hrecorded.registry q with ⟨keep, hkeep⟩
  have hsame : t.registry q = v.registry q := by rw [registry, registry, htrails.registries]
  rw [hsame, hkeep]
  exact (houtset.aligned q).restrict keep

/-- Handles are accounted for. From every state the destruction of a callback comes to
    an end, at one state only. After any operation a connection is open exactly if it
    was never closed by name and the program or a callback in a slot or out of one
    keeps a handle of it. What an operation closes on its way is cut, what it does not
    close is spared unless it is about it, and the scan of every registry stands before
    the same one of the entries that stay. -/
theorem handles_settled (n : Nat) (es : List Handling) (e : Handling)
    (hes : FitIn (es ++ [e]) (init n)) :
    let s := handle es (init n)
    let t := e.perform s
    (∀ k u, Destroys k u (u.destroy k) ∧ (∀ v, Destroys k u v → v = u.destroy k) ∧
      ∀ m, u.living.card < m → destroyWithin m k u = u.destroy k) ∧
    (∀ c, t.isConnected c = true ↔ (t.conn? c).isSome = true ∧
      closedIn c (es ++ [e]) (init n) = false ∧ t.isKept c) ∧
    (e.releases = true →
      (∀ c, s.isConnected c = true → t.isConnected c = false → Cut s t c) ∧
      (∀ c, ¬ e.IsOwn s c → t.isConnected c = s.isConnected c → Spared s t c) ∧
      ∀ q, (s.registry q).Aligned (t.registry q) ∧
        (t.registry q).upcoming.find? (· ∈ (s.registry q).order) =
          (s.registry q).upcoming.find? (· ∈ (t.registry q).order)) := by
  intro s t
  rcases fitIn_append.mp hes with ⟨hes', he, -⟩
  have ht : handle (es ++ [e]) (init n) = t := handle_append es [e] (init n)
  have hs : s.FitReached := ⟨n, es, hes', rfl⟩
  have ht' : t.FitReached := ⟨n, es ++ [e], hes, ht.symm⟩
  refine ⟨fun k u => ⟨destroys_destroy k u, fun v hv => hv.unique (destroys_destroy k u),
    fun m hm => destroyWithin_eq_destroy hm k⟩, fun c => ?_, fun hreleases => ?_⟩
  · have hopen := isConnected_iff_isKept hes c
    rw [ht] at hopen
    exact hopen
  · -- One handling that releases makes one collapse.
    have hcollapse := collapses_perform he hreleases hs.enrolled
    have hcarries := carries_handling hs.wired hreleases
    refine ⟨fun c => hcollapse.cut hs.wired ht'.enrolled ht'.wired, fun c =>
      hcollapse.spared hs.enrolled hs.wired ht'.wired hcarries, fun q => ?_⟩
    have haligned := hcollapse.aligned q
    refine ⟨haligned, ?_⟩
    -- The first that is left ahead is the first ahead that is left.
    rw [← List.head?_filter, ← List.head?_filter, haligned.upcoming]

/-- Closing a connection destroys its callback, which kept the last handle of another
    one, whose callback kept the last handle of a third. Who is at the other end of the
    second reads what was on its way, and keeps his registration. -/
theorem handles_settled_chain :
    let es : List Handling := [.move (.pair 10 11), .move (.pair 12 13),
      .move (.attach 0 0 (some 2)), .move (.attach 2 0 (some 1)), .move (.attach 3 0 none),
      .move (.write 2 [97]), .move (.drop 2), .move (.drop 1)]
    let s := handle es (init 1)
    let t := s.close 0
    FitIn (es ++ [.move (.close 0)]) (init 1) ∧ Destroys 0 s (s.destroy 0) ∧ t.isKept 3 ∧
      Cut s t 2 ∧ Spared s t 3 ∧ (s.registry 0).Aligned (t.registry 0) ∧
      t.unreported = [1, 0] ∧ (List.range 4).map t.isConnected = [false, false, false, true] ∧
      t.kernel.replies 3 [4, 4, 4] = [.bytes [97], .bytes [], .bytes []] := by
  intro es s t
  have hes : FitIn (es ++ [.move (.close 0)]) (init 1) := by
    refine ⟨trivial, trivial, ⟨by decide, fun d hd => ?_⟩, ⟨by decide +kernel, fun d hd => ?_⟩,
      Move.fits_attach (by decide +kernel) 0, trivial, trivial, trivial, trivial, trivial⟩
    · rcases Option.some.inj hd
      decide
    · rcases Option.some.inj hd
      decide +kernel
  rcases handles_settled 1 es (.move (.close 0)) hes with ⟨hends, hopen, hreleases⟩
  rcases hreleases rfl with ⟨hcut, hspared, haligned⟩
  refine ⟨hes, (hends 0 s).1, ((hopen 3).mp (by decide +kernel)).2.2,
    hcut 2 (by decide +kernel) (by decide +kernel),
    hspared 3 (show ¬ (3 : ConnKey) = 0 by decide) (by decide +kernel), (haligned 0).1, ?_, ?_, ?_⟩
  · decide +kernel
  · decide +kernel
  · decide +kernel

end System

end ReadNotify
