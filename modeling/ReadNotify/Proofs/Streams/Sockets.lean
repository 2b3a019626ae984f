import ReadNotify.Kernel.Stream
import Mathlib.Tactic.Common

/-!
# How Sockets Hang Together

A byte goes from one socket to the one it is connected with, and from the inbox
of that one to whoever reads it. For bytes to arrive where they should, the
connections between sockets must be in order: the peer of a socket has that
socket as its peer, listening sockets have no peer, and what waits to be
accepted is open and waits at one socket only. `Kernel.Wired` says so.

Receiving and sending move bytes and leave all of that alone. Receiving takes
from the front of one inbox, sending appends to the inbox of the peer, and no
other inbox changes. Closing takes down one socket, and with a listening one
all that wait there. What it tells the peers of those is marks only, so every
socket that is not taken down keeps its inbox.

## Main definitions

* `Kernel.peer?`, `Kernel.backlog?`, `Kernel.inbox`: What is known of a socket.
* `Kernel.Wired`: The connections between sockets are in order.
* `Kernel.Alike`: Sockets are connected as before.
* `Kernel.Sends`, `Kernel.Downed`: What sending and closing do.
* `Kernel.takenDown`: What closing a socket takes down.

## Theorems

* `inbox_receive`, `receive_of_plain`: Receiving takes from the front.
* `sends_send`: Sending appends to the inbox of the peer.
* `downed_close`, `wired_close`: What closing leaves.
-/

namespace ReadNotify

/-- The bytes that a call to receive answers. -/
def ReceiveReply.data : ReceiveReply → Bytes
  | .bytes data => data
  | .failed _ => []

namespace Kernel

variable {k k' : Kernel} {p q : SocketKey}

/-- The other end of a socket. -/
def peer? (k : Kernel) (q : SocketKey) : Option SocketKey := (k.socket? q).bind Socket.peer

/-- The connections that wait to be accepted, if the socket listens. -/
def backlog? (k : Kernel) (q : SocketKey) : Option (List SocketKey) :=
  (k.socket? q).bind Socket.backlog

/-- The error that waits to be reported. -/
def error? (k : Kernel) (q : SocketKey) : Option Int := (k.socket? q).bind Socket.pendingError

/-- The bytes that have arrived at a socket and were not read yet. -/
def inbox (k : Kernel) (q : SocketKey) : Bytes :=
  match k.socket? q with
  | some sock => sock.inbox
  | none => []

/-- The connections between sockets are in order. -/
structure Wired (k : Kernel) : Prop where
  paired : ∀ p q, k.peer? p = some q → k.peer? q = some p
  plain : ∀ p q, k.peer? p = some q → k.backlog? p = none
  waiting : ∀ l w, k.backlog? l = some w → w.Nodup ∧ ∀ e ∈ w, k.isOpen e = true
  apart : ∀ l m w w' e, k.backlog? l = some w → k.backlog? m = some w' → e ∈ w → e ∈ w' → l = m
  errors : ∀ q code, k.error? q = some code → code = IoError.resetByPeer

/-- Sockets are open and connected as before, and at most resets are new. -/
structure Alike (k k' : Kernel) : Prop where
  known : ∀ q, (k'.socket? q).isSome = (k.socket? q).isSome
  peer : ∀ q, k'.peer? q = k.peer? q
  backlog : ∀ q, k'.backlog? q = k.backlog? q
  isOpen : ∀ q, k'.isOpen q = k.isOpen q
  error : ∀ q code, k'.error? q = some code → k.error? q = some code ∨ code = IoError.resetByPeer

theorem alike_refl (k : Kernel) : Alike k k :=
  ⟨fun _ => rfl, fun _ => rfl, fun _ => rfl, fun _ => rfl, fun _ _ h => Or.inl h⟩

theorem alike_of_socket? (h : ∀ q, k'.socket? q = k.socket? q) : Alike k k' := by
  refine ⟨fun q => by rw [h], fun q => ?_, fun q => ?_, fun q => ?_, fun q code hcode => Or.inl ?_⟩
  · rw [peer?, peer?, h]
  · rw [backlog?, backlog?, h]
  · rw [Kernel.isOpen, Kernel.isOpen, h]
  · rwa [error?, h] at hcode

theorem alike_of_sockets (h : k'.sockets = k.sockets) : Alike k k' :=
  alike_of_socket? fun q => by rw [socket?, socket?, h]

theorem alike_trans {k'' : Kernel} (h : Alike k k') (h' : Alike k' k'') : Alike k k'' := by
  refine ⟨fun q => (h'.known q).trans (h.known q), fun q => (h'.peer q).trans (h.peer q),
    fun q => (h'.backlog q).trans (h.backlog q), fun q => (h'.isOpen q).trans (h.isOpen q),
    fun q code hcode => ?_⟩
  rcases h'.error q code hcode with hold | hreset
  · exact h.error q code hold
  · exact Or.inr hreset

theorem wired_alike (h : k.Wired) (hsame : Alike k k') : k'.Wired := by
  refine ⟨fun p q hp => ?_, fun p q hp => ?_, fun l w hw => ?_, fun l m w w' e hw hw' => ?_,
    fun q code hcode => ?_⟩
  · rw [hsame.peer] at hp ⊢
    exact h.paired p q hp
  · rw [hsame.peer] at hp
    rw [hsame.backlog]
    exact h.plain p q hp
  · rw [hsame.backlog] at hw
    refine ⟨(h.waiting l w hw).1, fun e he => ?_⟩
    rw [hsame.isOpen]
    exact (h.waiting l w hw).2 e he
  · rw [hsame.backlog] at hw hw'
    exact h.apart l m w w' e hw hw'
  · rcases hsame.error q code hcode with hold | hreset
    · exact h.errors q code hold
    · exact hreset

theorem known_updateSocket (f : Socket → Socket) (k : Kernel) (q p : SocketKey) :
    ((k.updateSocket q f).socket? p).isSome = (k.socket? p).isSome := by
  rw [socket?_updateSocket]
  by_cases hp : p = q
  · rw [if_pos hp, hp, Option.isSome_map]
  · rw [if_neg hp]

/-- A rewriting that keeps the marks of a socket keeps the connections. -/
theorem alike_updateSocket {f : Socket → Socket} (hpeer : ∀ x, (f x).peer = x.peer)
    (hbacklog : ∀ x, (f x).backlog = x.backlog) (hopen : ∀ x, (f x).isOpen = x.isOpen)
    (herror : ∀ x code, (f x).pendingError = some code →
      x.pendingError = some code ∨ code = IoError.resetByPeer) (k : Kernel) (q : SocketKey) :
    Alike k (k.updateSocket q f) := by
  refine ⟨known_updateSocket f k q, fun p => ?_, fun p => ?_, fun p => ?_, fun p code hcode => ?_⟩
  · unfold peer?
    rw [socket?_updateSocket]
    by_cases hp : p = q
    · rw [if_pos hp, hp, Option.bind_map]
      exact congrArg (fun g => (k.socket? q).bind g) (funext hpeer)
    · rw [if_neg hp]
  · unfold backlog?
    rw [socket?_updateSocket]
    by_cases hp : p = q
    · rw [if_pos hp, hp, Option.bind_map]
      exact congrArg (fun g => (k.socket? q).bind g) (funext hbacklog)
    · rw [if_neg hp]
  · unfold isOpen
    rw [socket?_updateSocket]
    by_cases hp : p = q
    · rw [if_pos hp, hp]
      rcases k.socket? q with _ | x
      · rfl
      · exact hopen x
    · rw [if_neg hp]
  · unfold error? at hcode ⊢
    rw [socket?_updateSocket] at hcode
    by_cases hp : p = q
    · rw [if_pos hp, Option.bind_map, Option.bind_eq_some_iff] at hcode
      rcases hcode with ⟨x, hx, hcode⟩
      rw [hp, hx]
      exact herror x code hcode
    · rw [if_neg hp] at hcode
      exact Or.inl hcode

/-! ### Inboxes -/

theorem inbox_of_sockets (h : k'.sockets = k.sockets) (q : SocketKey) :
    k'.inbox q = k.inbox q := by
  rw [inbox, inbox, socket?, socket?, h]

theorem inbox_of_socket? {sock : Socket} (h : k.socket? q = some sock) :
    k.inbox q = sock.inbox := by
  simp only [inbox, h]

theorem inbox_updateSocket_of_ne (h : p ≠ q) (f : Socket → Socket) :
    (k.updateSocket q f).inbox p = k.inbox p := by
  rw [inbox, inbox, socket?_updateSocket, if_neg h]

theorem inbox_updateSocket_of_eq {f : Socket → Socket} (hf : ∀ x, (f x).inbox = x.inbox)
    (k : Kernel) (q p : SocketKey) : (k.updateSocket q f).inbox p = k.inbox p := by
  unfold inbox
  rw [socket?_updateSocket]
  by_cases hp : p = q
  · rw [if_pos hp, hp]
    rcases k.socket? q with _ | x
    · rfl
    · exact hf x
  · rw [if_neg hp]

theorem inbox_updateSocket_self {sock : Socket} (h : k.socket? q = some sock)
    (f : Socket → Socket) : (k.updateSocket q f).inbox q = (f sock).inbox := by
  rw [inbox, socket?_updateSocket, if_pos rfl, h]
  rfl

/-! ### Receiving -/

/-- Everything receiving can do: it hands out the front of the inbox, or
    nothing, and then the inbox is empty if the socket does not listen. -/
theorem receive_cases (k : Kernel) (q : SocketKey) (n : Nat) :
    (∃ sock, k.socket? q = some sock ∧ k.receive q n =
      (k.updateSocket q fun x => { x with inbox := x.inbox.drop n },
        .bytes (sock.inbox.take n))) ∨
    ((k.backlog? q = none → k.inbox q = []) ∧ (k.receive q n).2.data = [] ∧
      ((k.receive q n).1 = k ∨
        (k.receive q n).1 = k.updateSocket q fun x => { x with pendingError := none })) := by
  unfold receive
  rcases hq : k.socket? q with _ | sock
  · refine Or.inr ⟨fun _ => ?_, rfl, Or.inl rfl⟩
    rw [inbox, hq]
  · dsimp only
    by_cases hlistening : sock.listening = true
    · rw [if_pos hlistening]
      refine Or.inr ⟨fun hplain => ?_, rfl, Or.inl rfl⟩
      rw [backlog?, hq, Option.bind_some] at hplain
      rw [Socket.listening, hplain] at hlistening
      exact absurd hlistening Bool.false_ne_true
    · rw [if_neg hlistening]
      by_cases hinbox : sock.inbox = []
      · have hempty : k.backlog? q = none → k.inbox q = [] := fun _ => by
          rw [inbox_of_socket? hq, hinbox]
        rw [if_neg (not_not.mpr hinbox)]
        refine Or.inr ⟨hempty, ?_⟩
        -- Instead of bytes an error is reported, the end, or that nothing is there.
        rcases sock.pendingError with _ | code
        · dsimp only
          split
          · exact ⟨rfl, Or.inl rfl⟩
          · exact ⟨rfl, Or.inl rfl⟩
        · exact ⟨rfl, Or.inr rfl⟩
      · rw [if_pos hinbox]
        exact Or.inl ⟨sock, rfl, rfl⟩

theorem alike_receive (k : Kernel) (q : SocketKey) (n : Nat) : Alike k (k.receive q n).1 := by
  rcases receive_cases k q n with ⟨sock, -, heq⟩ | ⟨-, -, hsame | hreported⟩
  · rw [heq]
    exact alike_updateSocket (f := fun x => { x with inbox := x.inbox.drop n }) (fun _ => rfl)
      (fun _ => rfl) (fun _ => rfl) (fun _ _ h => Or.inl h) k q
  · rw [hsame]
    exact alike_refl k
  · rw [hreported]
    exact alike_updateSocket (f := fun x => { x with pendingError := none }) (fun _ => rfl)
      (fun _ => rfl) (fun _ => rfl)
      (fun _ _ h => absurd h (by simp only [reduceCtorEq, not_false_eq_true])) k q

/-- What is received was at the front of the inbox, and no other inbox changes. -/
theorem inbox_receive (k : Kernel) (q : SocketKey) (n : Nat) (p : SocketKey) :
    k.inbox p = (if p = q then (k.receive q n).2.data else []) ++ (k.receive q n).1.inbox p := by
  rcases receive_cases k q n with ⟨sock, hq, heq⟩ | ⟨-, hnone, hkernel⟩
  · -- Bytes: the front is handed out and the rest stays.
    rw [heq]
    by_cases hp : p = q
    · rw [if_pos hp, hp, inbox_updateSocket_self hq, inbox_of_socket? hq]
      exact (List.take_append_drop n sock.inbox).symm
    · rw [if_neg hp, inbox_updateSocket_of_ne hp, List.nil_append]
  · rw [hnone, ite_self, List.nil_append]
    -- Otherwise no byte leaves, and at most a mark is taken off.
    rcases hkernel with hsame | hreported
    · rw [hsame]
    · rw [hreported]
      exact (inbox_updateSocket_of_eq (f := fun x => { x with pendingError := none })
        (fun _ => rfl) k q p).symm

/-- A socket that does not listen hands out as much as was asked for and is
    there. -/
theorem receive_of_plain (h : k.backlog? q = none) (n : Nat) :
    (k.receive q n).2.data = (k.inbox q).take n := by
  rcases receive_cases k q n with ⟨sock, hq, heq⟩ | ⟨hempty, hnone, -⟩
  · rw [heq, inbox_of_socket? hq]
    rfl
  · -- Nothing is answered only if there is nothing.
    rw [hnone, hempty h, List.take_nil]

/-! ### Sending -/

/-- Sending on a connection on which no error is reported first. -/
def pass (k : Kernel) (q : SocketKey) (sock : Socket) (data : Bytes) : Kernel × SendReply :=
  if sock.broken then (k, .failed IoError.pipeBroken)
  else
    match sock.peer with
    | none => (k, .failed IoError.noPeer)
    | some p =>
      if k.isOpen p then
        ((k.updateSocket p fun x => { x with inbox := x.inbox ++ data }).wake (.socket p),
          .taken data.length)
      else (k.updateSocket q fun x => { x with broken := true }, .taken data.length)

/-- A send fails, and not for a signal, or its payload is taken, and goes to the
    peer if that is open. -/
structure Sends (k : Kernel) (q : SocketKey) (data : Bytes) (r : Kernel × SendReply) : Prop where
  alike : Alike k r.1
  reply : (∃ code, r.2 = .failed code ∧ code ≠ IoError.callInterrupted ∧
      ∀ p, r.1.inbox p = k.inbox p) ∨
    ∃ p, k.peer? q = some p ∧ r.2 = .taken data.length ∧
      ∀ e, r.1.inbox e = k.inbox e ++ if e = p ∧ k.isOpen p = true then data else []

theorem sends_failed {code : Int} (hcode : code ≠ IoError.callInterrupted)
    (halike : Alike k k') (hinbox : ∀ p, k'.inbox p = k.inbox p) (q : SocketKey) (data : Bytes) :
    Sends k q data (k', .failed code) :=
  ⟨halike, Or.inl ⟨code, rfl, hcode, hinbox⟩⟩

theorem sends_pass {sock : Socket} (hq : k.socket? q = some sock) (data : Bytes) :
    Sends k q data (k.pass q sock data) := by
  have hpeer : k.peer? q = sock.peer := by rw [peer?, hq, Option.bind_some]
  unfold pass
  by_cases hbroken : sock.broken = true
  · rw [if_pos hbroken]
    exact sends_failed (by decide) (alike_refl k) (fun _ => rfl) q data
  · rw [if_neg hbroken]
    rcases hp : sock.peer with _ | p
    · exact sends_failed (by decide) (alike_refl k) (fun _ => rfl) q data
    · dsimp only
      by_cases hopen : k.isOpen p = true
      · have hsockets := sockets_wake
          (k.updateSocket p fun x => { x with inbox := x.inbox ++ data }) (.socket p)
        rw [if_pos hopen]
        refine ⟨alike_trans (alike_updateSocket (f := fun x => { x with inbox := x.inbox ++ data })
          (fun _ => rfl) (fun _ => rfl) (fun _ => rfl) (fun _ _ h => Or.inl h) k p)
          (alike_of_sockets hsockets), Or.inr ⟨p, hpeer.trans hp, rfl, fun e => ?_⟩⟩
        rw [inbox_of_sockets hsockets, hopen]
        by_cases he : e = p
        · rw [if_pos ⟨he, rfl⟩, he]
          rcases hsock : k.socket? p with _ | other
          · rw [isOpen, hsock] at hopen
            exact absurd hopen Bool.false_ne_true
          · rw [inbox_updateSocket_self hsock, inbox_of_socket? hsock]
        · rw [if_neg fun h => he h.1, inbox_updateSocket_of_ne he, List.append_nil]
      · -- The peer is gone. This is noticed, but the bytes count as taken.
        rw [if_neg hopen]
        refine ⟨alike_updateSocket (f := fun x => { x with broken := true }) (fun _ => rfl)
          (fun _ => rfl) (fun _ => rfl) (fun _ _ h => Or.inl h) k q,
          Or.inr ⟨p, hpeer.trans hp, rfl, fun e => ?_⟩⟩
        rw [if_neg fun h => hopen h.2, List.append_nil]
        exact inbox_updateSocket_of_eq (f := fun x => { x with broken := true }) (fun _ => rfl)
          k q e

theorem sends_send (h : k.Wired) (q : SocketKey) (data : Bytes) :
    Sends k q data (k.send q data) := by
  unfold send
  rcases hq : k.socket? q with _ | sock
  · exact sends_failed (by decide) (alike_refl k) (fun _ => rfl) q data
  · dsimp only
    by_cases hlistening : sock.listening = true
    · -- Nobody writes to a listener.
      rw [if_pos hlistening]
      refine sends_failed ?_ (alike_refl k) (fun _ => rfl) q data
      split
      · decide
      · decide
    · rw [if_neg hlistening]
      have hpass : Sends k q data (k.pass q sock data) := sends_pass hq data
      rcases sock.domain with _ | _
      · exact hpass
      · rcases herror : sock.pendingError with _ | code
        · exact hpass
        · -- An error that waits is a reset, and is reported in place of sending.
          have hreset : code = IoError.resetByPeer :=
            h.errors q code (by rw [error?, hq, Option.bind_some, herror])
          refine sends_failed (hreset ▸ by decide) (alike_updateSocket
            (f := fun x => { x with pendingError := none }) (fun _ => rfl) (fun _ => rfl)
            (fun _ => rfl) (fun _ _ h => absurd h (by simp only [reduceCtorEq, not_false_eq_true]))
            k q) (fun p => ?_) q data
          exact inbox_updateSocket_of_eq (f := fun x => { x with pendingError := none })
            (fun _ => rfl) k q p

/-! ### Closing -/

/-- What closing some sockets leaves: those are not open any more, and nothing
    waits there. Every other socket keeps what it had but for marks. -/
structure Downed (down : List SocketKey) (k k' : Kernel) : Prop where
  known : ∀ p, (k'.socket? p).isSome = (k.socket? p).isSome
  peer : ∀ p, k'.peer? p = k.peer? p
  isOpen : ∀ p, k'.isOpen p = (k.isOpen p && decide (p ∉ down))
  backlog : ∀ p, k'.backlog? p = if p ∈ down ∧ k.isOpen p = true then none else k.backlog? p
  inbox : ∀ p, p ∉ down → k'.inbox p = k.inbox p
  error : ∀ p code, k'.error? p = some code → k.error? p = some code ∨ code = IoError.resetByPeer

theorem downed_nil (k : Kernel) : Downed [] k k := by
  refine ⟨fun _ => rfl, fun _ => rfl, fun p => ?_, fun p => ?_, fun _ _ => rfl,
    fun _ _ h => Or.inl h⟩
  · rw [decide_eq_true List.not_mem_nil, Bool.and_true]
  · rw [if_neg fun h => List.not_mem_nil h.1]

theorem downed_trans {down down' : List SocketKey} {k'' : Kernel} (h : Downed down k k')
    (h' : Downed down' k' k'') : Downed (down ++ down') k k'' := by
  refine ⟨fun p => (h'.known p).trans (h.known p), fun p => (h'.peer p).trans (h.peer p),
    fun p => ?_, fun p => ?_, fun p hp => ?_, fun p code hcode => ?_⟩
  · rw [h'.isOpen, h.isOpen, Bool.and_assoc, ← Bool.decide_and]
    simp only [List.mem_append, not_or]
  · rw [h'.backlog, h.backlog, h.isOpen]
    simp only [List.mem_append, Bool.and_eq_true, decide_eq_true_eq]
    -- Nothing waits at a socket once it is down, and it goes down only once.
    by_cases hdown : p ∈ down
    · by_cases hopen : k.isOpen p = true
      · rw [if_neg fun h => h.2.2 hdown, if_pos ⟨hdown, hopen⟩, if_pos ⟨Or.inl hdown, hopen⟩]
      · rw [if_neg fun h => hopen h.2.1, if_neg fun h => hopen h.2, if_neg fun h => hopen h.2]
    · by_cases hdown' : p ∈ down' ∧ k.isOpen p = true
      · rw [if_pos ⟨hdown'.1, hdown'.2, hdown⟩, if_pos ⟨Or.inr hdown'.1, hdown'.2⟩]
      · rw [if_neg fun h => hdown' ⟨h.1, h.2.1⟩, if_neg fun h => hdown h.1, if_neg]
        rintro ⟨hp | hp, hopen⟩
        · exact hdown hp
        · exact hdown' ⟨hp, hopen⟩
  · rw [List.mem_append, not_or] at hp
    exact (h'.inbox p hp.2).trans (h.inbox p hp.1)
  · rcases h'.error p code hcode with hold | hreset
    · exact h.error p code hold
    · exact Or.inr hreset

/-- What a closing socket tells its peer is marks only. -/
theorem alike_cutOff (sock : Socket) (abandoned : Bool) (k : Kernel) (p : SocketKey) :
    Alike k (k.updateSocket p (cutOff sock abandoned)) ∧
      ∀ e, (k.updateSocket p (cutOff sock abandoned)).inbox e = k.inbox e := by
  have herror : ∀ x code, (cutOff sock abandoned x).pendingError = some code →
      x.pendingError = some code ∨ code = IoError.resetByPeer := by
    intro x code
    unfold cutOff
    rcases sock.domain with _ | _
    · dsimp only
      split
      · exact fun h => Or.inr (Option.some.inj h).symm
      · exact Or.inl
    · dsimp only
      split
      · exact fun h => Or.inr (Option.some.inj h).symm
      · exact Or.inl
  have hkept : ∀ x, (cutOff sock abandoned x).peer = x.peer ∧
      (cutOff sock abandoned x).backlog = x.backlog ∧
      (cutOff sock abandoned x).isOpen = x.isOpen ∧
      (cutOff sock abandoned x).inbox = x.inbox := by
    intro x
    unfold cutOff
    rcases sock.domain with _ | _
    · exact ⟨rfl, rfl, rfl, rfl⟩
    · exact ⟨rfl, rfl, rfl, rfl⟩
  exact ⟨alike_updateSocket (fun x => (hkept x).1) (fun x => (hkept x).2.1)
    (fun x => (hkept x).2.2.1) herror k p,
    inbox_updateSocket_of_eq (fun x => (hkept x).2.2.2) k p⟩

/-- Taking one socket down, once its peer was told. -/
theorem downed_shut (hopen : k.isOpen q = true) :
    Downed [q] k ((k.updateSocket q fun x =>
      { x with isOpen := false, inbox := [], backlog := none }).forget (.socket q)) := by
  -- Interest sets forget the socket, which no look-up sees.
  have hsocket : ∀ p, ((k.updateSocket q fun x =>
      { x with isOpen := false, inbox := [], backlog := none }).forget (.socket q)).socket? p =
        if p = q then (k.socket? q).map fun x =>
          { x with isOpen := false, inbox := [], backlog := none } else k.socket? p :=
    socket?_updateSocket k q fun x => { x with isOpen := false, inbox := [], backlog := none }
  refine ⟨known_updateSocket
      (fun x => { x with isOpen := false, inbox := [], backlog := none }) k q,
    fun p => ?_, fun p => ?_, fun p => ?_, fun p hp => ?_, fun p code hcode => ?_⟩
  · rw [peer?, peer?, hsocket]
    by_cases hp : p = q
    · rw [if_pos hp, hp, Option.bind_map]
      rfl
    · rw [if_neg hp]
  · rw [isOpen, isOpen, hsocket]
    simp only [List.mem_singleton]
    by_cases hp : p = q
    · rw [if_pos hp, decide_eq_false (not_not.mpr hp), Bool.and_false]
      rcases k.socket? q with _ | x
      · rfl
      · rfl
    · rw [if_neg hp, decide_eq_true hp, Bool.and_true]
  · rw [backlog?, backlog?, hsocket]
    simp only [List.mem_singleton]
    by_cases hp : p = q
    · rw [if_pos hp, hp, if_pos ⟨rfl, hopen⟩, Option.bind_map]
      exact Option.bind_eq_none_iff.mpr fun _ _ => rfl
    · rw [if_neg hp, if_neg fun h => hp h.1]
  · rw [List.mem_singleton] at hp
    rw [inbox, inbox, hsocket, if_neg hp]
  · rw [error?, hsocket] at hcode
    by_cases hp : p = q
    · rw [if_pos hp, Option.bind_map] at hcode
      rw [error?, hp]
      exact Or.inl hcode
    · rw [if_neg hp] at hcode
      exact Or.inl hcode

theorem Downed.of_alike {down : List SocketKey} {k'' : Kernel} (hsame : Alike k k')
    (hinbox : ∀ p, k'.inbox p = k.inbox p) (h : Downed down k' k'') : Downed down k k'' := by
  refine ⟨fun p => (h.known p).trans (hsame.known p),
    fun p => (h.peer p).trans (hsame.peer p), fun p => ?_, fun p => ?_,
    fun p hp => (h.inbox p hp).trans (hinbox p), fun p code hcode => ?_⟩
  · rw [h.isOpen, hsame.isOpen]
  · rw [h.backlog, hsame.isOpen, hsame.backlog]
  · rcases h.error p code hcode with hold | hreset
    · exact hsame.error p code hold
    · exact Or.inr hreset

theorem downed_closeOne (abandoned : Bool) (k : Kernel) (q : SocketKey) :
    Downed [q] k (closeOne abandoned k q) := by
  -- A socket that is down already is taken down by doing nothing.
  have hidle : k.isOpen q = false → Downed [q] k k := by
    intro hclosed
    refine ⟨fun _ => rfl, fun _ => rfl, fun p => ?_, fun p => ?_, fun _ _ => rfl,
      fun _ _ h => Or.inl h⟩
    · by_cases hp : p = q
      · rw [hp, hclosed, Bool.false_and]
      · have hnot : p ∉ [q] := fun h => hp (List.mem_singleton.mp h)
        rw [decide_eq_true hnot, Bool.and_true]
    · rw [if_neg]
      rintro ⟨hp, hopen⟩
      rw [List.mem_singleton.mp hp, hclosed] at hopen
      exact absurd hopen Bool.false_ne_true
  unfold closeOne
  rcases hq : k.socket? q with _ | sock
  · exact hidle (by rw [isOpen, hq])
  · have hopen : k.isOpen q = sock.isOpen := by rw [isOpen, hq]
    dsimp only
    cases hsock : sock.isOpen with
    | false => exact hidle (hopen.trans hsock)
    -- The peer is told first. It gets marks, and its inbox stays.
    | true =>
        rw [hsock] at hopen
        rcases sock.peer with _ | p
        · exact downed_shut hopen
        · rcases alike_cutOff sock abandoned k p with ⟨halike, hinbox⟩
          have hsockets := sockets_wake (k.updateSocket p (cutOff sock abandoned)) (.socket p)
          have htold := alike_trans halike (alike_of_sockets hsockets)
          exact Downed.of_alike htold
            (fun e => (inbox_of_sockets hsockets e).trans (hinbox e))
            (downed_shut ((htold.isOpen q).trans hopen))

theorem downed_foldl (down : List SocketKey) (k : Kernel) :
    Downed down k (down.foldl (closeOne true) k) := by
  -- One after another; the order does not matter for what is said here.
  induction down generalizing k with
  | nil => exact downed_nil k
  | cons q rest ih => exact downed_trans (downed_closeOne true k q) (ih (closeOne true k q))

/-- What closing a socket takes down: all that waits there, and the socket. -/
def takenDown (k : Kernel) (q : SocketKey) : List SocketKey :=
  (if k.isOpen q then (k.backlog? q).getD [] else []) ++ [q]

theorem downed_close (k : Kernel) (q : SocketKey) : Downed (k.takenDown q) k (k.close q) := by
  have hwaiting : k.close q = closeOne false
      ((if k.isOpen q then (k.backlog? q).getD [] else []).foldl (closeOne true) k) q := by
    unfold close isOpen backlog?
    rcases k.socket? q with _ | sock
    · rfl
    · rfl
  rw [hwaiting]
  exact downed_trans (downed_foldl _ k) (downed_closeOne false _ q)

/-- What is not waiting anywhere may be closed. -/
theorem wired_close (h : k.Wired) (hfree : ∀ l w, k.backlog? l = some w → q ∉ w) :
    (k.close q).Wired := by
  have hdown := downed_close k q
  -- A backlog that is left was there before and its socket stays up.
  have hbacklog : ∀ l w, (k.close q).backlog? l = some w →
      k.backlog? l = some w ∧ ¬ (l ∈ k.takenDown q ∧ k.isOpen l = true) := by
    intro l w hw
    rw [hdown.backlog] at hw
    by_cases hl : l ∈ k.takenDown q ∧ k.isOpen l = true
    · rw [if_pos hl] at hw
      exact absurd hw (by simp only [reduceCtorEq, not_false_eq_true])
    · rw [if_neg hl] at hw
      exact ⟨hw, hl⟩
  refine ⟨fun p e hp => ?_, fun p e hp => ?_, fun l w hw => ?_, fun l m w w' e hw hw' => ?_,
    fun p code hcode => ?_⟩
  · rw [hdown.peer] at hp ⊢
    exact h.paired p e hp
  · rw [hdown.peer] at hp
    rw [hdown.backlog, h.plain p e hp, ite_self]
  · rcases hbacklog l w hw with ⟨hold, hup⟩
    refine ⟨(h.waiting l w hold).1, fun e he => ?_⟩
    rw [hdown.isOpen, (h.waiting l w hold).2 e he, Bool.true_and, decide_eq_true_eq]
    -- What is taken down waited at the socket that is closed, or is that socket.
    intro hmem
    rcases List.mem_append.mp hmem with hwaits | hself
    · by_cases hopen : k.isOpen q = true
      · rw [if_pos hopen] at hwaits
        rcases hw' : k.backlog? q with _ | w'
        · rw [hw'] at hwaits
          exact absurd hwaits List.not_mem_nil
        · rw [hw'] at hwaits
          have hlq : l = q := h.apart l q w w' e hold hw' he hwaits
          exact hup ⟨List.mem_append_right _ (List.mem_singleton.mpr hlq), hlq ▸ hopen⟩
      · rw [if_neg hopen] at hwaits
        exact absurd hwaits List.not_mem_nil
    · exact hfree l w hold (List.mem_singleton.mp hself ▸ he)
  · exact h.apart l m w w' e (hbacklog l w hw).1 (hbacklog m w' hw').1
  · rcases hdown.error p code hcode with hold | hreset
    · exact h.errors p code hold
    · exact hreset

end Kernel

end ReadNotify
