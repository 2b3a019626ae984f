import ReadNotify.Kernel.Stream
/-!
# Listening, Connecting, Accepting

How connections come about. A socket of the internet domain listens on an
address and a port; another one connects to an address the first one covers
and is paired at once with a socket that waits in the backlog; accepting
takes the oldest of those and gives it a descriptor number. The Unix domain
has listeners too, whose sockets have no internet address.

A port is taken while a socket listens on it under an address that overlaps,
and also while an outgoing connection uses it. Connections that were accepted
do not keep a port from being listened on again.

Nothing can be reached while the loopback interface is down: the older family
has no route then, and the newer one no address to connect from. Listening
still works as far as addresses are not checked. The older family checks them
against a table that comes into being with the first interface, so before that
it takes any; the newer one asks the interfaces, and only the address of all
of them stands.

## Main definitions

* `Kernel.listen`: A new listening socket on an address.
* `Kernel.connect`: A new socket connected to whoever listens there.
* `Kernel.accept`: The oldest connection of the backlog.
* `Kernel.listenLocal`: A listener of the Unix domain with one client.
* `Kernel.localAddress`, `Kernel.peerAddress`: The two ends of a connection.
-/

namespace ReadNotify

namespace Kernel

open IoError (invalidArgument tryAgain badDescriptor descriptorLimit noPeer addressInUse
  addressNotLocal networkUnreachable refused callInterrupted)

/-- A port nobody uses yet. -/
def freshPort (k : Kernel) : Kernel × Nat :=
  ({ k with nextPort := k.nextPort + 1 }, k.nextPort)

/-- Whether some socket keeps others from listening on an address. -/
def taken (k : Kernel) (a : Address) : Bool :=
  k.sockets.any fun s =>
    -- A connection that was accepted leaves the port to the next listener.
    s.isOpen && (s.listening || !s.reusable) &&
      (match s.localAddr with
       | some b => b.port == a.port && b.ip.overlaps a.ip
       | none => false)

/-- Why an address cannot be listened on, whatever the port. -/
def listenFault (k : Kernel) (ip : IpAddress) : Option Int :=
  if ip.isGroup6 || ip.isLinkLocal6 then some invalidArgument
  else if k.loopbackUp then if ip.isLocal then none else some addressNotLocal
  else if ip.unmapped.isV6 && ip != .anywhere6 then some addressNotLocal
  else none

/-- Why an address cannot be reached, whoever listens there. -/
def reachFault (k : Kernel) (ip : IpAddress) : Option Int :=
  if ip.isGroup6 then some networkUnreachable
  else if ip.isLinkLocal6 then some invalidArgument
  else if k.loopbackUp then if ip.isLocal then none else some networkUnreachable
  else if ip.unmapped.isV6 then some addressNotLocal
  else some networkUnreachable

/-- A new socket listening on an address; port zero stands for any free one. -/
def listen (k : Kernel) (a : Address) : Kernel × Except Int SocketKey :=
  if k.starved then (k, .error descriptorLimit)
  else
    match k.listenFault a.ip with
    | some code => (k, .error code)
    | none =>
      if a.port ≠ 0 ∧ k.taken a then (k, .error addressInUse)
      else
        let (k, port) := if a.port = 0 then k.freshPort else (k, a.port)
        let (k, s) := k.addSocket
          { domain := .internet, fd := some k.freshFd, backlog := some [],
            localAddr := some ⟨a.ip, port⟩, reusable := true }
        (k, .ok s)

/-- The listening socket an address reaches. -/
def listener? (k : Kernel) (a : Address) : Option SocketKey :=
  k.sockets.find? fun s =>
    s.isOpen && s.listening &&
      (match s.localAddr with
       | some b => b.port == a.port && b.ip.covers a.ip
       | none => false)

/-- The own address of a connection to a target: the loopback address of the
    family the target was given in. -/
def ownAddress (target : IpAddress) : IpAddress :=
  match target, target.unmapped with
  | .v4 .., _ => .loopback
  | .v6 _, .v4 .. => IpAddress.loopback.mapped
  | .v6 _, .v6 _ => .loopback6

/-- A new socket connected to whoever listens on an address. The other end
    waits in the listener's backlog. A listener of the newer family sees
    addresses of the older one in their mapped form. -/
def connect (k : Kernel) (a : Address) : Kernel × Except Int SocketKey :=
  if k.starved then (k, .error descriptorLimit)
  else
    let target : Address := ⟨a.ip.target, a.port⟩
    match k.reachFault target.ip, k.listener? target with
    | some code, _ => (k, .error code)
    | none, none => (k, .error refused)
    | none, some l =>
      -- A listener of both families sees every address as one of the newer.
      let wide : Bool :=
        match k.socket? l with
        | some sock => (sock.localAddr.map fun b => b.ip.isV6).getD false
        | none => false
      let seen (b : Address) : Address := ⟨if wide then b.ip.mapped else b.ip.unmapped, b.port⟩
      let (k, port) := k.freshPort
      let own : Address := ⟨ownAddress target.ip, port⟩
      let client := k.sockets.size
      let server := client + 1
      -- The client has a number at once, the other end when it is accepted.
      let (k, _) := k.addSocket
        { domain := .internet, fd := some k.freshFd, peer := some server,
          localAddr := some own, peerAddr := some target }
      let (k, _) := k.addSocket
        { domain := .internet, fd := none, peer := some client,
          localAddr := some (seen target), peerAddr := some (seen own), reusable := true }
      let k := k.updateSocket l fun x =>
        { x with backlog := x.backlog.map fun waiting => waiting ++ [server] }
      (k.wake (.socket l), .ok client)

/-- A listener of the Unix domain, and a client connected to it that waits in
    the backlog. -/
def listenLocal (k : Kernel) : Kernel × Except Int (SocketKey × SocketKey) :=
  if k.starved then (k, .error descriptorLimit)
  else
    let l := k.sockets.size
    let client := l + 1
    let server := l + 2
    let (k, _) := k.addSocket
      { domain := .unix, fd := some k.freshFd, backlog := some [server] }
    let (k, _) := k.addSocket { domain := .unix, fd := some k.freshFd, peer := some server }
    let (k, _) := k.addSocket { domain := .unix, fd := none, peer := some client }
    (k, .ok (l, client))

/-- Takes the oldest connection out of the backlog. The descriptor is set
    aside before the socket is looked at. `signalled` tells whether a signal
    arrives while the call would wait. -/
def accept (k : Kernel) (s : SocketKey) (signalled : Bool) : Kernel × Except Int SocketKey :=
  if k.starved then (k, .error descriptorLimit)
  else
    match k.socket? s with
    | none => (k, .error badDescriptor)
    | some sock =>
      match sock.backlog with
      | none => (k, .error invalidArgument)
      | some [] => (k, .error (if signalled then callInterrupted else tryAgain))
      | some (c :: rest) =>
        -- The connection gets its number only now.
        let fd := k.freshFd
        let k := k.updateSocket s fun x => { x with backlog := some rest }
        (k.updateSocket c fun x => { x with fd := some fd }, .ok c)

/-- The own address of a socket; one of the Unix domain has none. -/
def localAddress (k : Kernel) (s : SocketKey) : Except Int (Option Address) :=
  match k.socket? s with
  | none => .error badDescriptor
  | some sock => .ok sock.localAddr

/-- The address of the other end. A listener has no other end, and neither has
    a connection of the internet domain that was thrown away. -/
def peerAddress (k : Kernel) (s : SocketKey) : Except Int (Option Address) :=
  match k.socket? s with
  | none => .error badDescriptor
  | some sock =>
    if sock.listening || (sock.domain == .internet && sock.broken) then .error noPeer
    else .ok sock.peerAddr

end Kernel

end ReadNotify
