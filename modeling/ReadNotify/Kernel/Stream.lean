import ReadNotify.Kernel.Wake
/-!
# Moving Bytes and Closing

Each direction of a connection is one queue of bytes. Sending appends to the
queue in front of the peer, receiving takes from the front of the own one and
never more than asked for, and nothing else touches a queue, so bytes arrive
once and in the order they were sent.

Closing ends both directions. What the closed socket had sent can still be
read; behind it the peer finds the end of the stream. If bytes were thrown
away unread, the peer is told so: in the Unix domain by one reset at the
point where the stream would have ended, in the internet domain by failing
writes. A connection dropped before anybody accepted it counts as thrown away
even without bytes.

Whoever watches the peer takes notice of what was sent to it and of its end.

In the internet domain a peer that has gone is only noticed by writing to it:
the first write is still taken, and later ones fail.

## Main definitions

* `Kernel.receive`: At most so many bytes from the front of the own queue.
* `Kernel.send`: All of a non-empty payload behind the peer's queue.
* `Kernel.close`: Ends both directions and frees the descriptor number.
* `SendReply`, `ReceiveReply`: What the two calls answer.
-/

namespace ReadNotify

/-- What one call to send answers: how many bytes were taken, or the error
    number. -/
inductive SendReply where
  | taken (n : Nat)
  | failed (code : Int)
  deriving DecidableEq, Repr

/-- What one call to receive answers. -/
inductive ReceiveReply where
  | bytes (data : Bytes)
  | failed (code : Int)
  deriving DecidableEq, Repr

namespace Kernel

open IoError (noPeer invalidArgument tryAgain pipeBroken badDescriptor resetByPeer)

/-- Receives at most `n` bytes without waiting. Bytes come first, then an
    error that waits to be reported, then the end of the stream. -/
def receive (k : Kernel) (s : SocketKey) (n : Nat) : Kernel × ReceiveReply :=
  match k.socket? s with
  | none => (k, .failed badDescriptor)
  | some sock =>
    if sock.listening then
      (k, .failed (if sock.domain = .unix then invalidArgument else noPeer))
    else if sock.inbox ≠ [] then
      -- What does not fit stays for the next call.
      (k.updateSocket s fun x => { x with inbox := x.inbox.drop n },
        .bytes (sock.inbox.take n))
    else
      match sock.pendingError with
      -- An error is reported once.
      | some code => (k.updateSocket s fun x => { x with pendingError := none }, .failed code)
      | none => if sock.ended then (k, .bytes []) else (k, .failed tryAgain)

/-- Sends a payload. A connection that takes bytes takes all of them. -/
def send (k : Kernel) (s : SocketKey) (data : Bytes) : Kernel × SendReply :=
  match k.socket? s with
  | none => (k, .failed badDescriptor)
  | some sock =>
    if sock.listening then
      (k, .failed (if sock.domain = .unix then noPeer else pipeBroken))
    else
      match sock.domain, sock.pendingError with
      -- Here the next call of either kind reports an error that waits, there reading alone.
      | .internet, some code =>
          (k.updateSocket s fun x => { x with pendingError := none }, .failed code)
      | _, _ =>
        if sock.broken then (k, .failed pipeBroken)
        else
          match sock.peer with
          | none => (k, .failed noPeer)
          | some p =>
            if k.isOpen p then
              ((k.updateSocket p fun x => { x with inbox := x.inbox ++ data }).wake (.socket p),
                .taken data.length)
            else
              -- The bytes are lost, which only the next call finds out.
              (k.updateSocket s fun x => { x with broken := true }, .taken data.length)

/-- What the peer finds when a socket closes: the end behind its queue, and a
    sign of the bytes thrown away, if any were. -/
def cutOff (closing : Socket) (abandoned : Bool) (peer : Socket) : Socket :=
  let unread := !closing.inbox.isEmpty
  match closing.domain with
  | .unix =>
      { peer with
        ended := true, broken := true,
        pendingError := if unread || abandoned then some resetByPeer else peer.pendingError }
  | .internet =>
      { peer with
        ended := true, broken := peer.broken || unread || abandoned,
        pendingError := if abandoned then some resetByPeer else peer.pendingError }

/-- Closes one socket and tells its peer. -/
def closeOne (abandoned : Bool) (k : Kernel) (s : SocketKey) : Kernel :=
  match k.socket? s with
  | none => k
  | some sock =>
    if !sock.isOpen then k
    else
      let k :=
        match sock.peer with
        | some p => (k.updateSocket p (cutOff sock abandoned)).wake (.socket p)
        | none => k
      -- The file goes out of every interest set with its last number.
      let k := k.updateSocket s fun x => { x with isOpen := false, inbox := [], backlog := none }
      k.forget (.socket s)

/-- Closes a socket, and with a listening one the connections that wait to be
    accepted. -/
def close (k : Kernel) (s : SocketKey) : Kernel :=
  let waiting :=
    match k.socket? s with
    | some sock => if sock.isOpen then sock.backlog.getD [] else []
    | none => []
  -- Those that waited are closed first, as connections that nobody has taken.
  closeOne false (waiting.foldl (closeOne true) k) s

end Kernel

end ReadNotify
