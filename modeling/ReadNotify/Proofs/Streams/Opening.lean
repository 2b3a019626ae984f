import ReadNotify.Kernel.Listen
import ReadNotify.Proofs.Streams.Sockets
import Mathlib.Data.List.Nodup

/-!
# New Sockets

Sockets come in pairs, one for each end of a connection, or singly as
listeners. One end of a pair may have to wait in the backlog of a listener
until it is accepted. None of that disturbs a socket that was open before: it
stays open, keeps its peer and its inbox, and does not begin to wait anywhere.
`Extends` says this, and each way to get a new socket is shown to extend what
was there and to keep the connections between sockets in order.

## Main definitions

* `Kernel.Extends`: Every open socket is as it was.
* `Kernel.Fresh`: A socket that a connection can be made of.
* `Kernel.Opens`: Sockets were opened, and nothing else was disturbed.

## Theorems

* `opens_addSocket`, `opens_addPeers`: Sockets may be added.
* `opens_enqueue`, `opens_dequeue`: They may be left to wait and handed out.
* `opens_openPair`, `opens_listen`, `opens_connect`, `opens_accept`,
  `opens_listenLocal`: The ways to get a socket.
-/

namespace ReadNotify

namespace Kernel

variable {k k' k'' : Kernel} {p q : SocketKey}

/-- Every socket is open as before, with the same peer and the same inbox, and
    begins to wait nowhere. A socket that is new has an empty inbox. -/
structure Extends (k k' : Kernel) : Prop where
  known : ∀ q, (k.socket? q).isSome = true → (k'.socket? q).isSome = true
  peer : ∀ q, (k.socket? q).isSome = true → k'.peer? q = k.peer? q
  isOpen : ∀ q, k.isOpen q = true → k'.isOpen q = true
  inbox : ∀ q, k'.isOpen q = true →
    (k.isOpen q = true ∧ k'.inbox q = k.inbox q) ∨ (k.socket? q = none ∧ k'.inbox q = [])
  waits : ∀ q l w', k.isOpen q = true → k'.backlog? l = some w' → q ∈ w' →
    ∃ w, k.backlog? l = some w ∧ q ∈ w

theorem extends_trans (h : Extends k k') (h' : Extends k' k'') : Extends k k'' := by
  refine ⟨fun q hq => h'.known q (h.known q hq),
    fun q hq => (h'.peer q (h.known q hq)).trans (h.peer q hq),
    fun q hq => h'.isOpen q (h.isOpen q hq), fun q hq => ?_, fun q l w'' hq hw'' hmem => ?_⟩
  · rcases h'.inbox q hq with ⟨hopen, hinbox⟩ | ⟨hnone, hinbox⟩
    · rcases h.inbox q hopen with ⟨hopen', hinbox'⟩ | ⟨hnone', hinbox'⟩
      · exact Or.inl ⟨hopen', hinbox.trans hinbox'⟩
      · exact Or.inr ⟨hnone', hinbox.trans hinbox'⟩
    · refine Or.inr ⟨Option.not_isSome_iff_eq_none.mp fun hsome => ?_, hinbox⟩
      have hknown := h.known q hsome
      rw [hnone] at hknown
      exact Bool.false_ne_true hknown
  · rcases h'.waits q l w'' (h.isOpen q hq) hw'' hmem with ⟨w', hw', hmem'⟩
    exact h.waits q l w' hq hw' hmem'

theorem extends_alike (hsame : Alike k k') (hinbox : ∀ q, k'.inbox q = k.inbox q) :
    Extends k k' := by
  refine ⟨fun q hq => (hsame.known q).trans hq, fun q _ => hsame.peer q,
    fun q hq => (hsame.isOpen q).trans hq,
    fun q hq => Or.inl ⟨(hsame.isOpen q).symm.trans hq, hinbox q⟩,
    fun q l w' _ hw' hmem => ⟨w', ?_, hmem⟩⟩
  rw [← hsame.backlog]
  exact hw'

theorem extends_of_sockets (h : k'.sockets = k.sockets) : Extends k k' :=
  extends_alike (alike_of_sockets h) (inbox_of_sockets h)

/-- A socket that a connection can be made of: it is open, waits nowhere, and
    was not open before or was waiting. -/
structure Fresh (k k' : Kernel) (q : SocketKey) : Prop where
  isOpen : k'.isOpen q = true
  free : ∀ l w, k'.backlog? l = some w → q ∉ w
  new : k.isOpen q = false ∨ ∃ l w, k.backlog? l = some w ∧ q ∈ w

/-! ### Adding sockets -/

theorem socket?_size (k : Kernel) : k.socket? k.sockets.size = none :=
  Array.getElem?_eq_none (Nat.le_refl _)

theorem isOpen_of_socket? {sock : Socket} (h : k.socket? q = some sock) :
    k.isOpen q = sock.isOpen := by
  rw [isOpen, h]

theorem known_of_isOpen (h : k.isOpen q = true) : (k.socket? q).isSome = true := by
  rcases hq : k.socket? q with _ | sock
  · rw [isOpen, hq] at h
    exact absurd h Bool.false_ne_true
  · rfl

/-- An open socket is none of those still to come. -/
theorem lt_size_of_isOpen {q : Nat} (h : k.isOpen q = true) : q < k.sockets.size := by
  by_contra hlt
  have hnone : k.socket? q = none := Array.getElem?_eq_none (Nat.le_of_not_lt hlt)
  rw [isOpen, hnone] at h
  exact absurd h Bool.false_ne_true

theorem lt_size_of_peer? {q : Nat} (h : k.peer? q = some p) : q < k.sockets.size := by
  by_contra hlt
  have hnone : k.socket? q = none := Array.getElem?_eq_none (Nat.le_of_not_lt hlt)
  rw [peer?, hnone] at h
  exact absurd h (by simp only [Option.bind_none, reduceCtorEq, not_false_eq_true])

theorem size_addSocket (k : Kernel) (x : Socket) :
    (k.addSocket x).1.sockets.size = k.sockets.size + 1 := Table.size_add _ _

/-- What is known of a socket after another one was added. -/
theorem frame_addSocket (k : Kernel) (x : Socket) (h : q ≠ k.sockets.size) :
    (k.addSocket x).1.peer? q = k.peer? q ∧ (k.addSocket x).1.backlog? q = k.backlog? q ∧
      (k.addSocket x).1.isOpen q = k.isOpen q ∧ (k.addSocket x).1.inbox q = k.inbox q ∧
      (k.addSocket x).1.error? q = k.error? q := by
  have hsocket : (k.addSocket x).1.socket? q = k.socket? q := by
    rw [socket?_addSocket, if_neg h]
  refine ⟨?_, ?_, ?_, ?_, ?_⟩
  · rw [peer?, peer?, hsocket]
  · rw [backlog?, backlog?, hsocket]
  · rw [Kernel.isOpen, Kernel.isOpen, hsocket]
  · rw [Kernel.inbox, Kernel.inbox, hsocket]
  · rw [error?, error?, hsocket]

theorem socket?_addSocket_self (k : Kernel) (x : Socket) :
    (k.addSocket x).1.socket? k.sockets.size = some x := by
  rw [socket?_addSocket, if_pos rfl]

/-- A new socket disturbs no other if nothing open waits there. -/
theorem extends_addSocket {x : Socket} (hinbox : x.inbox = [])
    (hx : ∀ w, x.backlog = some w → ∀ e ∈ w, k.isOpen e = false) :
    Extends k (k.addSocket x).1 := by
  have hne : ∀ q, (k.socket? q).isSome = true → q ≠ k.sockets.size := by
    rintro q hq rfl
    rw [socket?_size] at hq
    exact Bool.false_ne_true hq
  refine ⟨fun q hq => ?_, fun q hq => (frame_addSocket k x (hne q hq)).1, fun q hq => ?_,
    fun q hq => ?_, fun q l w' hq hw' hmem => ?_⟩
  · rw [socket?_addSocket, if_neg (hne q hq)]
    exact hq
  · rw [(frame_addSocket k x (hne q (known_of_isOpen hq))).2.2.1]
    exact hq
  · -- Open afterwards is what was, and the new one, whose inbox is empty.
    by_cases hqs : q = k.sockets.size
    · refine Or.inr ⟨hqs ▸ socket?_size k, ?_⟩
      rw [hqs, inbox_of_socket? (socket?_addSocket_self k x)]
      exact hinbox
    · rw [(frame_addSocket k x hqs).2.2.1] at hq
      exact Or.inl ⟨hq, (frame_addSocket k x hqs).2.2.2.1⟩
  · by_cases hl : l = k.sockets.size
    · rw [hl, backlog?, socket?_addSocket_self, Option.bind_some] at hw'
      exact absurd (hq.symm.trans (hx w' hw' q hmem)) Bool.noConfusion
    · rw [(frame_addSocket k x hl).2.1] at hw'
      exact ⟨w', hw', hmem⟩

/-- A socket that is connected with nothing and at which nothing waits may be
    added. -/
theorem wired_addSocket (h : k.Wired) {x : Socket} (hpeer : x.peer = none)
    (hbacklog : x.backlog.getD [] = []) (herror : x.pendingError = none) :
    (k.addSocket x).1.Wired := by
  have hself := socket?_addSocket_self k x
  -- Its backlog is empty, if it has one, so nothing waits that did not before.
  have hold : ∀ q w, (k.addSocket x).1.backlog? q = some w →
      w = [] ∨ (q ≠ k.sockets.size ∧ k.backlog? q = some w) := by
    intro q w hw
    by_cases hq : q = k.sockets.size
    · rw [hq, backlog?, hself, Option.bind_some] at hw
      rw [hw, Option.getD_some] at hbacklog
      exact Or.inl hbacklog
    · rw [(frame_addSocket k x hq).2.1] at hw
      exact Or.inr ⟨hq, hw⟩
  have hne : ∀ p q, (k.addSocket x).1.peer? p = some q → p ≠ k.sockets.size := by
    rintro p q hp rfl
    rw [peer?, hself, Option.bind_some, hpeer] at hp
    exact absurd hp (by simp only [reduceCtorEq, not_false_eq_true])
  refine ⟨fun p q hp => ?_, fun p q hp => ?_, fun l w hw => ?_, fun l m w w' e hw hw' he he' => ?_,
    fun q code hcode => ?_⟩
  · have hp' := hp
    rw [(frame_addSocket k x (hne p q hp)).1] at hp'
    have hq := h.paired p q hp'
    rw [(frame_addSocket k x (Nat.ne_of_lt (lt_size_of_peer? hq))).1]
    exact hq
  · have hp' := hp
    rw [(frame_addSocket k x (hne p q hp)).1] at hp'
    rw [(frame_addSocket k x (hne p q hp)).2.1]
    exact h.plain p q hp'
  · rcases hold l w hw with rfl | ⟨-, hw⟩
    · exact ⟨List.nodup_nil, fun e he => absurd he List.not_mem_nil⟩
    · refine ⟨(h.waiting l w hw).1, fun e he => ?_⟩
      have hopen := (h.waiting l w hw).2 e he
      rw [(frame_addSocket k x (Nat.ne_of_lt (lt_size_of_isOpen hopen))).2.2.1]
      exact hopen
  · rcases hold l w hw with rfl | ⟨-, hw⟩
    · exact absurd he List.not_mem_nil
    · rcases hold m w' hw' with rfl | ⟨-, hw'⟩
      · exact absurd he' List.not_mem_nil
      · exact h.apart l m w w' e hw hw' he he'
  · by_cases hq : q = k.sockets.size
    · rw [hq, error?, hself, Option.bind_some, herror] at hcode
      exact absurd hcode (by simp only [reduceCtorEq, not_false_eq_true])
    · rw [(frame_addSocket k x hq).2.2.2.2] at hcode
      exact h.errors q code hcode

/-- What is known of a socket after a pair was added. -/
theorem frame_addPeers (k : Kernel) (x y : Socket) (q : SocketKey) :
    (q = k.sockets.size ∧ ((k.addSocket x).1.addSocket y).1.socket? q = some x) ∨
    (q = k.sockets.size + 1 ∧ ((k.addSocket x).1.addSocket y).1.socket? q = some y) ∨
    (q ≠ k.sockets.size ∧ q ≠ k.sockets.size + 1 ∧
      ((k.addSocket x).1.addSocket y).1.socket? q = k.socket? q) := by
  rw [socket?_addSocket, socket?_addSocket, size_addSocket]
  by_cases hy : q = k.sockets.size + 1
  · rw [if_pos hy]
    exact Or.inr (Or.inl ⟨hy, rfl⟩)
  · rw [if_neg hy]
    by_cases hx : q = k.sockets.size
    · rw [if_pos hx]
      exact Or.inl ⟨hx, rfl⟩
    · rw [if_neg hx]
      exact Or.inr (Or.inr ⟨hx, hy, rfl⟩)

theorem peer?_addPeers (k : Kernel) (x y : Socket) :
    ((k.addSocket x).1.addSocket y).1.peer? k.sockets.size = x.peer ∧
      ((k.addSocket x).1.addSocket y).1.peer? (k.sockets.size + 1) = y.peer := by
  have hne : (k.sockets.size : Nat) ≠ k.sockets.size + 1 := by omega
  constructor
  · rw [peer?, socket?_addSocket, size_addSocket, if_neg hne, socket?_addSocket_self]
    rfl
  · rw [peer?, socket?_addSocket, size_addSocket, if_pos rfl]
    rfl

/-- Two sockets may be added that are connected with each other. -/
theorem wired_addPeers (h : k.Wired) {x y : Socket} (hx : x.peer = some (k.sockets.size + 1))
    (hy : y.peer = some k.sockets.size) (hplain : x.backlog = none ∧ y.backlog = none)
    (herror : x.pendingError = none ∧ y.pendingError = none) :
    ((k.addSocket x).1.addSocket y).1.Wired := by
  have hcases := frame_addPeers k x y
  have hpeerX := (peer?_addPeers k x y).1.trans hx
  have hpeerY := (peer?_addPeers k x y).2.trans hy
  -- What was there before is below both.
  have hkept : ∀ q, q < k.sockets.size →
      ((k.addSocket x).1.addSocket y).1.socket? q = k.socket? q := by
    intro q hq
    rcases hcases q with ⟨rfl, -⟩ | ⟨rfl, -⟩ | ⟨-, -, hsame⟩
    · omega
    · omega
    · exact hsame
  have hwait : ∀ l w, ((k.addSocket x).1.addSocket y).1.backlog? l = some w →
      k.backlog? l = some w := by
    intro l w hw
    unfold backlog? at hw ⊢
    rcases hcases l with ⟨-, hl⟩ | ⟨-, hl⟩ | ⟨-, -, hl⟩
    · rw [hl, Option.bind_some, hplain.1] at hw
      exact absurd hw (by simp only [reduceCtorEq, not_false_eq_true])
    · rw [hl, Option.bind_some, hplain.2] at hw
      exact absurd hw (by simp only [reduceCtorEq, not_false_eq_true])
    · rwa [hl] at hw
  refine ⟨fun p q hp => ?_, fun p q hp => ?_, fun l w hw => ?_, fun l m w w' e hw hw' =>
    h.apart l m w w' e (hwait l w hw) (hwait m w' hw'), fun q code hcode => ?_⟩
  · rcases hcases p with ⟨rfl, -⟩ | ⟨rfl, -⟩ | ⟨-, -, hold⟩
    · rw [← Option.some.inj (hpeerX.symm.trans hp)]
      exact hpeerY
    · rw [← Option.some.inj (hpeerY.symm.trans hp)]
      exact hpeerX
    · rw [peer?, hold] at hp
      have hq := h.paired p q hp
      rw [peer?, hkept q (lt_size_of_peer? hq)]
      exact hq
  · rcases hb : ((k.addSocket x).1.addSocket y).1.backlog? p with _ | w
    · rfl
    · -- A listener was there before, and had no peer.
      rcases hcases p with ⟨rfl, hnew⟩ | ⟨rfl, hnew⟩ | ⟨-, -, hold⟩
      · rw [backlog?, hnew, Option.bind_some, hplain.1] at hb
        exact hb.symm
      · rw [backlog?, hnew, Option.bind_some, hplain.2] at hb
        exact hb.symm
      · rw [peer?, hold] at hp
        rw [← h.plain p q hp]
        exact (hwait p w hb).symm
  · refine ⟨(h.waiting l w (hwait l w hw)).1, fun e he => ?_⟩
    have hopen := (h.waiting l w (hwait l w hw)).2 e he
    rw [isOpen, hkept e (lt_size_of_isOpen hopen)]
    exact hopen
  · rw [error?] at hcode
    rcases hcases q with ⟨-, hq⟩ | ⟨-, hq⟩ | ⟨-, -, hq⟩
    · rw [hq, Option.bind_some, herror.1] at hcode
      exact absurd hcode (by simp only [reduceCtorEq, not_false_eq_true])
    · rw [hq, Option.bind_some, herror.2] at hcode
      exact absurd hcode (by simp only [reduceCtorEq, not_false_eq_true])
    · rw [hq] at hcode
      exact h.errors q code hcode

/-! ### Backlogs -/

/-- What is known of a socket after one backlog was rewritten. -/
theorem frame_updateBacklog (g : Option (List SocketKey) → Option (List SocketKey)) (k : Kernel)
    (l q : SocketKey) :
    (k.updateSocket l fun x => { x with backlog := g x.backlog }).peer? q = k.peer? q ∧
    (k.updateSocket l fun x => { x with backlog := g x.backlog }).isOpen q = k.isOpen q ∧
    (k.updateSocket l fun x => { x with backlog := g x.backlog }).inbox q = k.inbox q ∧
    (k.updateSocket l fun x => { x with backlog := g x.backlog }).error? q = k.error? q ∧
    (k.updateSocket l fun x => { x with backlog := g x.backlog }).backlog? q =
      if q = l then (k.socket? l).bind fun x => g x.backlog else k.backlog? q := by
  unfold peer? isOpen inbox error? backlog?
  rw [socket?_updateSocket k l (fun x => { x with backlog := g x.backlog }) q]
  by_cases hq : q = l
  · rw [if_pos hq, if_pos hq, hq]
    rcases k.socket? l with _ | x
    · exact ⟨rfl, rfl, rfl, rfl, rfl⟩
    · exact ⟨rfl, rfl, rfl, rfl, rfl⟩
  · rw [if_neg hq, if_neg hq]
    exact ⟨rfl, rfl, rfl, rfl, rfl⟩

/-- A backlog may be rewritten to one of open sockets that wait nowhere else. -/
theorem wired_updateBacklog (h : k.Wired)
    (g : Option (List SocketKey) → Option (List SocketKey)) {l : SocketKey}
    (hnone : k.backlog? l = none → (k.socket? l).bind (fun x => g x.backlog) = none)
    (hwaiting : ∀ w, (k.socket? l).bind (fun x => g x.backlog) = some w → w.Nodup ∧
      ∀ e ∈ w, k.isOpen e = true ∧ ∀ m w', k.backlog? m = some w' → e ∈ w' → m = l) :
    (k.updateSocket l fun x => { x with backlog := g x.backlog }).Wired := by
  have hframe := frame_updateBacklog g k l
  have hbacklog := fun q => (hframe q).2.2.2.2
  -- Backlogs are the only thing that changes, and only that of `l`.
  refine ⟨fun p q hp => ?_, fun p q hp => ?_, fun m w hw => ?_, fun m m' w w' e hw hw' he he' => ?_,
    fun q code hcode => ?_⟩
  · rw [(hframe p).1] at hp
    rw [(hframe q).1]
    exact h.paired p q hp
  · rw [(hframe p).1] at hp
    have hplain := h.plain p q hp
    rw [hbacklog]
    by_cases hpl : p = l
    · rw [if_pos hpl]
      exact hnone (hpl ▸ hplain)
    · rw [if_neg hpl]
      exact hplain
  · rw [hbacklog] at hw
    by_cases hm : m = l
    · rw [if_pos hm] at hw
      refine ⟨(hwaiting w hw).1, fun e he => ?_⟩
      rw [(hframe e).2.1]
      exact ((hwaiting w hw).2 e he).1
    · rw [if_neg hm] at hw
      refine ⟨(h.waiting m w hw).1, fun e he => ?_⟩
      rw [(hframe e).2.1]
      exact (h.waiting m w hw).2 e he
  · rw [hbacklog] at hw hw'
    by_cases hm : m = l
    · by_cases hm' : m' = l
      · exact hm.trans hm'.symm
      · rw [if_pos hm] at hw
        rw [if_neg hm'] at hw'
        exact hm.trans (((hwaiting w hw).2 e he).2 m' w' hw' he').symm
    · rw [if_neg hm] at hw
      by_cases hm' : m' = l
      · rw [if_pos hm'] at hw'
        exact (((hwaiting w' hw').2 e he').2 m w hw he).trans hm'.symm
      · rw [if_neg hm'] at hw'
        exact h.apart m m' w w' e hw hw' he he'
  · rw [(hframe q).2.2.2.1] at hcode
    exact h.errors q code hcode

/-! ### Ways to get a socket -/

/-- Sockets that connections can be made of, in order with what was there. -/
structure Opens (k k' : Kernel) (qs : List SocketKey) : Prop where
  wired : k'.Wired
  carries : Extends k k'
  fresh : ∀ q ∈ qs, Fresh k k' q
  nodup : qs.Nodup

/-- What a call answers that may open a socket. -/
def opened : Except Int SocketKey → List SocketKey
  | .ok q => [q]
  | .error _ => []

theorem opens_nil (h : k.Wired) : Opens k k [] :=
  ⟨h, extends_of_sockets rfl, fun _ hq => absurd hq List.not_mem_nil, List.nodup_nil⟩

/-- Nothing depends on more than what a look-up finds. -/
theorem Opens.congr {k₁ k₁' : Kernel} {qs : List SocketKey} (h : Opens k k' qs)
    (hbefore : ∀ q, k₁.socket? q = k.socket? q) (hafter : ∀ q, k₁'.socket? q = k'.socket? q) :
    Opens k₁ k₁' qs := by
  have halike := alike_of_socket? hbefore
  have halike' := alike_of_socket? hafter
  refine ⟨wired_alike h.wired halike', ⟨fun q hq => ?_, fun q hq => ?_, fun q hq => ?_,
    fun q hq => ?_, fun q l w hq hw hmem => ?_⟩, fun q hq => ⟨?_, fun l w hw => ?_, ?_⟩, h.nodup⟩
  · rw [hafter]
    exact h.carries.known q (hbefore q ▸ hq)
  · rw [halike'.peer, halike.peer]
    exact h.carries.peer q (hbefore q ▸ hq)
  · rw [halike'.isOpen]
    exact h.carries.isOpen q ((halike.isOpen q).symm.trans hq)
  · rw [halike.isOpen, inbox, inbox, hafter, hbefore]
    exact h.carries.inbox q ((halike'.isOpen q).symm.trans hq)
  · rw [halike'.backlog] at hw
    rw [halike.backlog]
    exact h.carries.waits q l w ((halike.isOpen q).symm.trans hq) hw hmem
  · rw [halike'.isOpen]
    exact (h.fresh q hq).isOpen
  · rw [halike'.backlog] at hw
    exact (h.fresh q hq).free l w hw
  · rw [halike.isOpen]
    simp only [halike.backlog]
    exact (h.fresh q hq).new

theorem Opens.of_wake {qs : List SocketKey} (h : Opens k k' qs) (f : OpenFile) :
    Opens k (k'.wake f) qs :=
  h.congr (fun _ => rfl) fun q => by rw [socket?, socket?, sockets_wake]

/-- Taking a port does not touch sockets. -/
theorem Opens.of_port {qs : List SocketKey} (h : Opens k.freshPort.1 k' qs) : Opens k k' qs :=
  h.congr (fun _ => rfl) fun _ => rfl

/-- Sockets may be opened after others. -/
theorem opens_append {qs rs : List SocketKey} (h : Opens k k' qs) (h' : Opens k' k'' rs)
    (hnew : ∀ q ∈ rs, k'.isOpen q = false) : Opens k k'' (qs ++ rs) := by
  refine ⟨h'.wired, extends_trans h.carries h'.carries, fun q hq => ?_, ?_⟩
  · rcases List.mem_append.mp hq with hq | hq
    · have hfresh := h.fresh q hq
      refine ⟨h'.carries.isOpen q hfresh.isOpen, fun l w hw hmem => ?_, hfresh.new⟩
      rcases h'.carries.waits q l w hfresh.isOpen hw hmem with ⟨w', hw', hmem'⟩
      exact hfresh.free l w' hw' hmem'
    · refine ⟨(h'.fresh q hq).isOpen, (h'.fresh q hq).free, Or.inl ?_⟩
      cases hopen : k.isOpen q with
      | false => rfl
      | true => exact absurd ((hnew q hq).symm.trans (h.carries.isOpen q hopen)) Bool.false_ne_true
  · -- The first are open in between, and the second are not.
    refine List.nodup_append.mpr ⟨h.nodup, h'.nodup, fun q hq r hr heq => ?_⟩
    have hopen := (h.fresh q hq).isOpen
    rw [heq, hnew r hr] at hopen
    exact absurd hopen Bool.false_ne_true

/-- What is new to a kernel waits nowhere in it. -/
theorem Wired.notMem_of_size_le (h : k.Wired) {q : Nat} (hq : k.sockets.size ≤ q) {l : SocketKey}
    {w : List SocketKey} (hw : k.backlog? l = some w) : q ∉ w := by
  intro hmem
  have hlt := lt_size_of_isOpen ((h.waiting l w hw).2 q hmem)
  omega

theorem isOpen_of_size_le {q : Nat} (hq : k.sockets.size ≤ q) : k.isOpen q = false := by
  cases hopen : k.isOpen q with
  | false => rfl
  | true =>
      have hlt := lt_size_of_isOpen hopen
      omega

theorem opens_addSocket (h : k.Wired) {x : Socket} (hpeer : x.peer = none)
    (hbacklog : x.backlog.getD [] = []) (herror : x.pendingError = none)
    (hopen : x.isOpen = true) (hinbox : x.inbox = []) :
    Opens k (k.addSocket x).1 [k.sockets.size] := by
  have hwired := wired_addSocket h hpeer hbacklog herror
  refine ⟨hwired, extends_addSocket hinbox fun w hw e he => ?_, fun q hq => ?_,
    List.nodup_singleton _⟩
  · rw [hw, Option.getD_some] at hbacklog
    rw [hbacklog] at he
    exact absurd he List.not_mem_nil
  · rw [List.mem_singleton.mp hq]
    refine ⟨(isOpen_of_socket? (socket?_addSocket_self k x)).trans hopen, fun l w hw => ?_,
      Or.inl (isOpen_of_size_le (Nat.le_refl _))⟩
    by_cases hl : l = k.sockets.size
    · rw [hl, backlog?, socket?_addSocket_self, Option.bind_some] at hw
      rw [hw, Option.getD_some] at hbacklog
      rw [hbacklog]
      exact List.not_mem_nil
    · rw [(frame_addSocket k x hl).2.1] at hw
      exact h.notMem_of_size_le (Nat.le_refl _) hw

theorem opens_addPeers (h : k.Wired) {x y : Socket} (hx : x.peer = some (k.sockets.size + 1))
    (hy : y.peer = some k.sockets.size) (hplain : x.backlog = none ∧ y.backlog = none)
    (herror : x.pendingError = none ∧ y.pendingError = none)
    (hopen : x.isOpen = true ∧ y.isOpen = true) (hinbox : x.inbox = [] ∧ y.inbox = []) :
    Opens k ((k.addSocket x).1.addSocket y).1 [k.sockets.size, k.sockets.size + 1] := by
  have hcases := frame_addPeers k x y
  have hcarries : Extends k ((k.addSocket x).1.addSocket y).1 := by
    refine extends_trans (extends_addSocket hinbox.1 fun w hw => ?_)
      (extends_addSocket hinbox.2 fun w hw => ?_)
    · rw [hplain.1] at hw
      exact absurd hw (by simp only [reduceCtorEq, not_false_eq_true])
    · rw [hplain.2] at hw
      exact absurd hw (by simp only [reduceCtorEq, not_false_eq_true])
  -- Neither end waits anywhere: only what was there before does.
  have hwait : ∀ l w, ((k.addSocket x).1.addSocket y).1.backlog? l = some w →
      k.backlog? l = some w := by
    intro l w hw
    rw [backlog?] at hw
    rcases hcases l with ⟨-, hl⟩ | ⟨-, hl⟩ | ⟨-, -, hl⟩
    · rw [hl, Option.bind_some, hplain.1] at hw
      exact absurd hw (by simp only [reduceCtorEq, not_false_eq_true])
    · rw [hl, Option.bind_some, hplain.2] at hw
      exact absurd hw (by simp only [reduceCtorEq, not_false_eq_true])
    · rw [hl] at hw
      exact hw
  refine ⟨wired_addPeers h hx hy hplain herror, hcarries, fun q hq => ?_, ?_⟩
  · have hmem : q = k.sockets.size ∨ q = k.sockets.size + 1 := by
      simpa only [List.mem_cons, List.not_mem_nil, or_false] using hq
    have hle : k.sockets.size ≤ q := by
      rcases hmem with rfl | rfl
      · exact Nat.le_refl _
      · exact Nat.le_succ _
    refine ⟨?_, fun l w hw => h.notMem_of_size_le hle (hwait l w hw),
      Or.inl (isOpen_of_size_le hle)⟩
    rcases hcases q with ⟨-, hq'⟩ | ⟨-, hq'⟩ | ⟨hne, hne', -⟩
    · exact (isOpen_of_socket? hq').trans hopen.1
    · exact (isOpen_of_socket? hq').trans hopen.2
    · exact absurd hmem (not_or.mpr ⟨hne, hne'⟩)
  · have hne : (k.sockets.size : Nat) ≠ k.sockets.size + 1 := by omega
    rw [List.nodup_cons, List.mem_singleton]
    exact ⟨hne, List.nodup_singleton _⟩

/-- One of the sockets that were opened may be left to wait at a listener. -/
theorem opens_enqueue {qs : List SocketKey} {e : SocketKey} (h : Opens k k' qs) (he : e ∈ qs)
    (hold : k.isOpen e = false) (rs : List SocketKey) (hrs : ∀ q ∈ rs, q ∈ qs ∧ q ≠ e)
    (hnodup : rs.Nodup) (l : SocketKey) :
    Opens k (k'.updateSocket l fun x =>
      { x with backlog := x.backlog.map fun w => w ++ [e] }) rs := by
  have hframe := frame_updateBacklog (fun b => b.map fun w => w ++ [e]) k' l
  -- What waits afterwards waited before, or is the one that was left to wait.
  have hwait : ∀ m w, (k'.updateSocket l fun x =>
      { x with backlog := x.backlog.map fun w => w ++ [e] }).backlog? m = some w →
        (k'.backlog? m = some w) ∨ (m = l ∧ ∃ w', k'.backlog? m = some w' ∧ w = w' ++ [e]) := by
    intro m w hw
    rw [(hframe m).2.2.2.2] at hw
    by_cases hm : m = l
    · rw [if_pos hm, Option.bind_eq_some_iff] at hw
      rcases hw with ⟨x, hx, hmap⟩
      rw [Option.map_eq_some_iff] at hmap
      rcases hmap with ⟨w', hw', rfl⟩
      refine Or.inr ⟨hm, w', ?_, rfl⟩
      rw [backlog?, hm, hx]
      exact hw'
    · rw [if_neg hm] at hw
      exact Or.inl hw
  have hfree := (h.fresh e he).free
  refine ⟨?_, ⟨fun q hq => ?_, fun q hq => ?_, fun q hq => ?_, fun q hq => ?_,
    fun q m w hq hw hmem => ?_⟩,
    fun q hq => ⟨?_, fun m w hw hmem => ?_, ((h.fresh q (hrs q hq).1).new)⟩, hnodup⟩
  · refine wired_updateBacklog h.wired (fun b => b.map fun w => w ++ [e]) (fun hnone => ?_)
      fun w hw => ?_
    · refine Option.bind_eq_none_iff.mpr fun x hx => ?_
      rw [backlog?, hx, Option.bind_some] at hnone
      rw [hnone]
      rfl
    · rcases Option.bind_eq_some_iff.mp hw with ⟨x, hx, hmap⟩
      rcases Option.map_eq_some_iff.mp hmap with ⟨w', hw', rfl⟩
      have hbacklog : k'.backlog? l = some w' := by
        rw [backlog?, hx]
        exact hw'
      rcases h.wired.waiting l w' hbacklog with ⟨hnodup', hopen⟩
      refine ⟨List.nodup_append.mpr ⟨hnodup', List.nodup_singleton e, fun q hq r hr heq => ?_⟩,
        fun q hq => ?_⟩
      · rw [heq, List.mem_singleton.mp hr] at hq
        exact hfree l w' hbacklog hq
      · rcases List.mem_append.mp hq with hq | hq
        · exact ⟨hopen q hq, fun m w hm hqw => h.wired.apart m l w w' q hm hbacklog hqw hq⟩
        · rw [List.mem_singleton.mp hq]
          exact ⟨(h.fresh e he).isOpen, fun m w hm hew => absurd hew (hfree m w hm)⟩
  · rw [known_updateSocket (fun x => { x with backlog := x.backlog.map fun w => w ++ [e] })]
    exact h.carries.known q hq
  · rw [(hframe q).1]
    exact h.carries.peer q hq
  · rw [(hframe q).2.1]
    exact h.carries.isOpen q hq
  · rw [(hframe q).2.1] at hq
    rw [(hframe q).2.2.1]
    exact h.carries.inbox q hq
  · rcases hwait m w hw with hsame | ⟨-, w', hw', rfl⟩
    · exact h.carries.waits q m w hq hsame hmem
    · rcases List.mem_append.mp hmem with hmem | hmem
      · exact h.carries.waits q m w' hq hw' hmem
      · rw [List.mem_singleton.mp hmem, hold] at hq
        exact absurd hq Bool.false_ne_true
  · rw [(hframe q).2.1]
    exact (h.fresh q (hrs q hq).1).isOpen
  · rcases hwait m w hw with hsame | ⟨-, w', hw', rfl⟩
    · exact (h.fresh q (hrs q hq).1).free m w hsame hmem
    · rcases List.mem_append.mp hmem with hmem | hmem
      · exact (h.fresh q (hrs q hq).1).free m w' hw' hmem
      · exact (hrs q hq).2 (List.mem_singleton.mp hmem)

/-- The first that waits at a listener may be handed out, under any number. -/
theorem opens_dequeue (h : k.Wired) {e : SocketKey} {rest : List SocketKey}
    (hq : k.backlog? q = some (e :: rest)) (fd : Nat) :
    Opens k ((k.updateSocket q fun x => { x with backlog := some rest }).updateSocket e fun x =>
      { x with fd := some fd }) [e] := by
  have hframe := frame_updateBacklog (fun _ => some rest) k q
  have hnumbered : Alike (k.updateSocket q fun x => { x with backlog := some rest })
      ((k.updateSocket q fun x => { x with backlog := some rest }).updateSocket e fun x =>
        { x with fd := some fd }) :=
    alike_updateSocket (f := fun x => { x with fd := some fd }) (fun _ => rfl) (fun _ => rfl)
      (fun _ => rfl) (fun _ _ h => Or.inl h) _ e
  have hinbox := inbox_updateSocket_of_eq (f := fun x => { x with fd := some fd }) (fun _ => rfl)
    (k.updateSocket q fun x => { x with backlog := some rest }) e
  rcases List.nodup_cons.mp (h.waiting q _ hq).1 with ⟨hnotMem, hnodup⟩
  -- What waits afterwards waited before, and the one handed out does not.
  have hwait : ∀ m w, (k.updateSocket q fun x => { x with backlog := some rest }).backlog? m =
      some w → (m ≠ q ∧ k.backlog? m = some w) ∨ (m = q ∧ w = rest) := by
    intro m w hw
    rw [(hframe m).2.2.2.2] at hw
    by_cases hm : m = q
    · rw [if_pos hm, Option.bind_eq_some_iff] at hw
      rcases hw with ⟨x, -, hx⟩
      exact Or.inr ⟨hm, (Option.some.inj hx).symm⟩
    · rw [if_neg hm] at hw
      exact Or.inl ⟨hm, hw⟩
  have hwired : (k.updateSocket q fun x => { x with backlog := some rest }).Wired := by
    refine wired_updateBacklog h (fun _ => some rest) (fun hnone => ?_) fun w hw => ?_
    · exact absurd (hnone.symm.trans hq) (by simp only [reduceCtorEq, not_false_eq_true])
    · rcases Option.bind_eq_some_iff.mp hw with ⟨x, -, hx⟩
      rw [← Option.some.inj hx]
      refine ⟨hnodup, fun r hr => ⟨(h.waiting q _ hq).2 r (List.mem_cons_of_mem e hr),
        fun m w' hw' hmem => ?_⟩⟩
      exact h.apart m q w' _ r hw' hq hmem (List.mem_cons_of_mem e hr)
  refine ⟨wired_alike hwired hnumbered, ⟨fun r hr => ?_, fun r _ => ?_, fun r hr => ?_,
    fun r hr => ?_, fun r m w hr hw hmem => ?_⟩, fun r hr => ?_, List.nodup_singleton e⟩
  · rw [hnumbered.known, known_updateSocket (fun x => { x with backlog := some rest })]
    exact hr
  · rw [hnumbered.peer, (hframe r).1]
  · rw [hnumbered.isOpen, (hframe r).2.1]
    exact hr
  · rw [hnumbered.isOpen, (hframe r).2.1] at hr
    rw [hinbox, (hframe r).2.2.1]
    exact Or.inl ⟨hr, rfl⟩
  · rw [hnumbered.backlog] at hw
    rcases hwait m w hw with ⟨-, hsame⟩ | ⟨rfl, rfl⟩
    · exact ⟨w, hsame, hmem⟩
    · exact ⟨_, hq, List.mem_cons_of_mem e hmem⟩
  · rw [List.mem_singleton.mp hr]
    refine ⟨?_, fun m w hw hmem => ?_, Or.inr ⟨q, _, hq, List.mem_cons_self⟩⟩
    · rw [hnumbered.isOpen, (hframe e).2.1]
      exact (h.waiting q _ hq).2 e List.mem_cons_self
    · rw [hnumbered.backlog] at hw
      rcases hwait m w hw with ⟨hne, hsame⟩ | ⟨-, rfl⟩
      · exact hne (h.apart m q w _ e hsame hq hmem List.mem_cons_self)
      · exact hnotMem hmem

theorem opens_openPair (h : k.Wired) (fdA fdB : Nat) :
    Opens k (k.openPair fdA fdB).1 [k.sockets.size, k.sockets.size + 1] :=
  opens_addPeers h rfl rfl ⟨rfl, rfl⟩ ⟨rfl, rfl⟩ ⟨rfl, rfl⟩ ⟨rfl, rfl⟩

theorem opens_listen (h : k.Wired) (a : Address) :
    Opens k (k.listen a).1 (opened (k.listen a).2) := by
  unfold listen
  by_cases hstarved : k.starved = true
  · rw [if_pos hstarved]
    exact opens_nil h
  · rw [if_neg hstarved]
    rcases k.listenFault a.ip with _ | code
    · dsimp only
      by_cases htaken : a.port ≠ 0 ∧ k.taken a = true
      · rw [if_pos htaken]
        exact opens_nil h
      · rw [if_neg htaken]
        -- A port of the system is counted first, which no socket notices.
        by_cases hport : a.port = 0
        · rw [if_pos hport]
          have hwired : k.freshPort.1.Wired := wired_alike h (alike_of_sockets rfl)
          refine Opens.of_port (opens_addSocket hwired ?_ ?_ ?_ ?_ ?_)
          all_goals rfl
        · rw [if_neg hport]
          refine opens_addSocket h ?_ ?_ ?_ ?_ ?_
          all_goals rfl
    · exact opens_nil h

theorem opens_connect (h : k.Wired) (a : Address) :
    Opens k (k.connect a).1 (opened (k.connect a).2) := by
  unfold connect
  by_cases hstarved : k.starved = true
  · rw [if_pos hstarved]
    exact opens_nil h
  · rw [if_neg hstarved]
    dsimp only
    rcases k.reachFault (IpAddress.target a.ip) with _ | code
    · rcases k.listener? ⟨a.ip.target, a.port⟩ with _ | l
      · exact opens_nil h
      · dsimp only
        have hwired : k.freshPort.1.Wired := wired_alike h (alike_of_sockets rfl)
        -- The server waits at the listener and only the client is handed out.
        rw [opened]
        refine Opens.of_port (Opens.of_wake (opens_enqueue
          (opens_addPeers hwired ?_ ?_ ⟨?_, ?_⟩ ⟨?_, ?_⟩ ⟨?_, ?_⟩ ⟨?_, ?_⟩)
          (List.mem_cons_of_mem _ List.mem_cons_self) (isOpen_of_size_le (Nat.le_succ _))
          _ (fun q hq => ?_) (List.nodup_singleton _) l) _)
        all_goals first | rfl | skip
        rw [List.mem_singleton.mp hq]
        exact ⟨List.mem_cons_self, Nat.ne_of_lt (Nat.lt_succ_self _)⟩
    · exact opens_nil h

theorem opens_accept (h : k.Wired) (q : SocketKey) (signalled : Bool) :
    Opens k (k.accept q signalled).1 (opened (k.accept q signalled).2) := by
  unfold accept
  by_cases hstarved : k.starved = true
  · rw [if_pos hstarved]
    exact opens_nil h
  · rw [if_neg hstarved]
    rcases hq : k.socket? q with _ | sock
    · exact opens_nil h
    · dsimp only
      rcases hbacklog : sock.backlog with _ | _ | ⟨e, rest⟩
      · exact opens_nil h
      · exact opens_nil h
      · have hwaits : k.backlog? q = some (e :: rest) := by
          rw [backlog?, hq, Option.bind_some, hbacklog]
        rw [opened]
        exact opens_dequeue h hwaits _

/-- A listener and a pair may be added, of which one end waits at the listener
    from the beginning. -/
theorem opens_addWaiting (h : k.Wired) {x y z : Socket}
    (hz : z.peer = none ∧ z.backlog = some [k.sockets.size + 2] ∧ z.pendingError = none ∧
      z.isOpen = true)
    (hx : x.peer = some (k.sockets.size + 2)) (hy : y.peer = some (k.sockets.size + 1))
    (hplain : x.backlog = none ∧ y.backlog = none)
    (herror : x.pendingError = none ∧ y.pendingError = none)
    (hopen : x.isOpen = true ∧ y.isOpen = true)
    (hinbox : x.inbox = [] ∧ y.inbox = [] ∧ z.inbox = []) :
    Opens k (((k.addSocket z).1.addSocket x).1.addSocket y).1
      [k.sockets.size, k.sockets.size + 1] := by
  -- The same comes of letting that end wait only once it exists.
  have hsize : (k.addSocket { z with backlog := some [] }).1.sockets.size = k.sockets.size + 1 :=
    size_addSocket _ _
  have hlistener : Opens k (k.addSocket { z with backlog := some [] }).1 [k.sockets.size] :=
    opens_addSocket h hz.1 rfl hz.2.2.1 hz.2.2.2 hinbox.2.2
  have hpeers := opens_addPeers hlistener.wired (x := x) (y := y) (hsize.symm ▸ hx)
    (hsize.symm ▸ hy) hplain herror hopen ⟨hinbox.1, hinbox.2.1⟩
  rw [hsize] at hpeers
  have hunborn : (k.addSocket { z with backlog := some [] }).1.isOpen (k.sockets.size + 2) =
      false := isOpen_of_size_le (hsize ▸ Nat.le_succ _)
  have hwaiting := opens_enqueue hpeers (List.mem_cons_of_mem _ List.mem_cons_self) hunborn
    [k.sockets.size + 1] (fun q hq => ?_) (List.nodup_singleton _) k.sockets.size
  · have hall := opens_append hlistener hwaiting fun q hq => by
      rw [List.mem_singleton.mp hq]
      exact isOpen_of_size_le (Nat.le_of_eq hsize)
    refine hall.congr (fun _ => rfl) fun q => ?_
    have hne : (k.sockets.size : Nat) ≠ k.sockets.size + 1 := by omega
    have hne' : (k.sockets.size : Nat) ≠ k.sockets.size + 1 + 1 := by omega
    rw [socket?_updateSocket]
    simp only [socket?_addSocket, size_addSocket, if_neg hne, if_neg hne', if_true]
    by_cases hq : q = k.sockets.size
    · rw [if_pos hq, hq, if_neg hne', if_neg hne, if_pos rfl, Option.map_some]
      rcases z with ⟨domain, fd, isOpen, backlog, peer, inbox, ended, broken, error⟩
      rw [show backlog = _ from hz.2.1]
      rfl
    · simp only [if_neg hq]
  · rw [List.mem_singleton.mp hq]
    exact ⟨List.mem_cons_self, Nat.ne_of_lt (Nat.lt_succ_self _)⟩

theorem opens_listenLocal (h : k.Wired) :
    (∃ code, k.listenLocal = (k, .error code)) ∨
      ∃ k', k.listenLocal = (k', .ok (k.sockets.size, k.sockets.size + 1)) ∧
        Opens k k' [k.sockets.size, k.sockets.size + 1] := by
  unfold listenLocal
  by_cases hstarved : k.starved = true
  · rw [if_pos hstarved]
    exact Or.inl ⟨_, rfl⟩
  · rw [if_neg hstarved]
    refine Or.inr ⟨_, rfl, opens_addWaiting h ⟨?_, ?_, ?_, ?_⟩ ?_ ?_ ⟨?_, ?_⟩ ⟨?_, ?_⟩ ⟨?_, ?_⟩
      ⟨?_, ?_, ?_⟩⟩
    all_goals rfl

end Kernel

end ReadNotify
