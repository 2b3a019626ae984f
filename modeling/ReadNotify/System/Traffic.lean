import ReadNotify.Connection.Transfer
import ReadNotify.System.Lifetime
/-!
# Reading, Writing, Accepting

What a program does with a connection besides registering it. A closed
connection has no socket any more: reading from it gives nothing, and
everything else fails as not connected. Failures of the system are remembered
as the connection's last error, by number; a failure that has no number counts
as an input or output error. Failures that the library raises itself are not
remembered.

New connections come from a pair, from listening, from connecting and from
accepting. A connection that was accepted but has no internet address is
refused, and its socket is closed again at once.

## Main definitions

* `System.receive`: Reads what is there.
* `System.write`: Writes a whole payload.
* `System.accept`, `System.connect`, `System.listen`: New connections.
* `System.localAddr`, `System.peerAddr`: The addresses of a connection.
-/

namespace ReadNotify

namespace System

/-- The socket of a connection, until it is released. -/
def socket? (s : System) (c : ConnKey) : Option SocketKey :=
  (s.conn? c).bind Connection.socket

/-- Remembers a failure as the last error of a connection. -/
def record (c : ConnKey) (e : IoError) (s : System) : System :=
  s.updateConn c fun conn => { conn with lastError := some e.recorded }

/-- Whether reading from a connection would not have to wait. Reading from a
    closed one never waits. -/
def canRead (s : System) (c : ConnKey) : Bool :=
  match s.socket? c with
  | none => true
  | some socket => s.kernel.readable socket

/-- Reads at most `n` bytes without waiting. An error is remembered and reads
    as nothing, like the end of the stream. -/
def receive (c : ConnKey) (n : Nat) (s : System) : System × Bytes :=
  match s.socket? c with
  | none => (s, [])
  | some socket =>
    match s.kernel.receive socket n with
    | (k, .bytes data) => ({ s with kernel := k }, data)
    | (k, .failed code) => ({ s with kernel := k }.record c (.os code), [])

/-- Ends a write: an error is remembered and answered. -/
def endWrite (c : ConnKey) (ending : WriteEnd) (s : System) : System × Except IoError Unit :=
  match ending with
  | .failed e => (s.record c e, .error e)
  | .finished | .waiting => (s, .ok ())

/-- Writes a whole payload. -/
def write (c : ConnKey) (data : Bytes) (s : System) : System × Except IoError Unit :=
  match s.socket? c with
  | none => (s, .error (.plain .notConnected))
  | some socket =>
    -- The loop that sends ends before its first call.
    if data = [] then (s, .ok ())
    else
      match s.kernel.send socket data with
      | (k, reply) => { s with kernel := k }.endWrite c (sendAll [reply] data).2

/-- Accepts a connection and answers it with the address it comes from. -/
def accept (c : ConnKey) (signalled : Bool) (s : System) :
    System × Except IoError (ConnKey × Address) :=
  match s.socket? c with
  | none => (s, .error (.plain .notConnected))
  | some socket =>
    match s.kernel.accept socket signalled with
    | (k, .error code) => ({ s with kernel := k }.record c (.os code), .error (.os code))
    | (k, .ok peer) =>
      match k.peerAddress peer with
      | .ok (some address) =>
          let (s, conn) := { s with kernel := k }.adopt peer false
          (s, .ok (conn, address))
      -- What was accepted is closed again, and the failure is not remembered.
      | _ =>
          ({ s with kernel := k.close peer },
            .error (.custom .invalidData "peer address is not an IP address"))

/-- Two connected connections under descriptor numbers the program chose. -/
def pair (fdA fdB : Nat) (s : System) : System × ConnKey × ConnKey :=
  let (k, a, b) := s.kernel.openPair fdA fdB
  let (s, ca) := { s with kernel := k }.adopt a true
  let (s, cb) := s.adopt b true
  (s, ca, cb)

/-- Two connected connections under descriptor numbers the system chooses. -/
def freshPair (s : System) : System × Except IoError (ConnKey × ConnKey) :=
  if s.kernel.starved then (s, .error (.os IoError.descriptorLimit))
  else
    let fdA := s.kernel.freshFd
    -- The second number is the next free one behind the first.
    let fdB := s.kernel.freshFdExcept [fdA]
    let (k, a, b) := s.kernel.openPair fdA fdB
    let (s, ca) := { s with kernel := k }.adopt a false
    let (s, cb) := s.adopt b false
    (s, .ok (ca, cb))

/-- Makes a connection of what the kernel opened, if it opened anything. -/
def adoptResult (result : Kernel × Except Int SocketKey) (s : System) :
    System × Except IoError ConnKey :=
  match result with
  | (k, .error code) => ({ s with kernel := k }, .error (.os code))
  | (k, .ok socket) =>
      let (s, c) := { s with kernel := k }.adopt socket false
      (s, .ok c)

/-- A connection listening on one address. -/
def listenOn (a : Address) (s : System) : System × Except IoError ConnKey :=
  s.adoptResult (s.kernel.listen a)

/-- A connection listening on a port of all interfaces: of both families, or
    of the older one alone if that fails. -/
def listen (port : Nat) (s : System) : System × Except IoError ConnKey :=
  match s.listenOn ⟨.anywhere6, port⟩ with
  | (s, .ok c) => (s, .ok c)
  -- Where there is no newer family the older one is enough.
  | (s, .error e) => (s.note (.dualStackFailed e)).listenOn ⟨.anywhere, port⟩

/-- A connection to one address. -/
def connectAddr (a : Address) (s : System) : System × Except IoError ConnKey :=
  s.adoptResult (s.kernel.connect a)

/-- The addresses of a host: a literal stands for itself, and the one name that
    is known without asking anybody, in letters of either case, is the local
    host. A text that cannot be a name at all is refused. -/
def resolve (host : String) : Except IoError (List IpAddress) :=
  match IpAddress.ofText? host with
  | some ip => .ok [ip]
  | none =>
    -- A name goes to the system as a text that ends with a zero byte.
    if host.toList.contains '\x00' then
      .error (.custom .invalidInput "file name contained an unexpected NUL byte")
    else
      match IpAddress.ofNumbers? host with
      | some ip => .ok [ip]
      | none =>
        -- The system looks at the case of no letter.
        if host.toLower = "localhost" then .ok [.loopback]
        else
          .error (.custom .uncategorized
            "failed to lookup address information: Name or service not known")

/-- Tries addresses in order and answers the first connection, or the last
    failure. -/
def connectAny (port : Nat) : List IpAddress → IoError → System → System × Except IoError ConnKey
  | [], last, s => (s, .error last)
  | ip :: rest, _, s =>
    match s.connectAddr ⟨ip, port⟩ with
    | (s, .ok c) => (s, .ok c)
    -- The failure is that of the address tried last.
    | (s, .error e) =>
        connectAny port rest e (s.note (.connectFailed (Address.maskedText ⟨ip, port⟩) e))

/-- A connection to a port of a host, by the first address that answers. -/
def connect (host : String) (port : Nat) (s : System) : System × Except IoError ConnKey :=
  match resolve host with
  | .error e => (s, .error e)
  | .ok ips =>
      connectAny port ips (.custom .invalidInput "could not resolve to any address") s

/-- A listening connection of the Unix domain and a client connected to it. -/
def listenLocal (s : System) : System × Except IoError (ConnKey × ConnKey) :=
  match s.kernel.listenLocal with
  | (k, .error code) => ({ s with kernel := k }, .error (.os code))
  | (k, .ok (l, client)) =>
      let (s, cl) := { s with kernel := k }.adopt l false
      let (s, cc) := s.adopt client false
      (s, .ok (cl, cc))

/-- The address a call to the kernel answered, if it is an internet address. -/
def addressOf (answer : Except Int (Option Address)) : Except IoError Address :=
  match answer with
  | .error code => .error (.os code)
  | .ok none => .error (.custom .invalidData "not an IP socket address")
  | .ok (some a) => .ok a

/-- The own address of a connection. -/
def localAddr (s : System) (c : ConnKey) : Except IoError Address :=
  match s.socket? c with
  | none => .error (.plain .notConnected)
  | some socket => addressOf (s.kernel.localAddress socket)

/-- The address of the other end of a connection. -/
def peerAddr (s : System) (c : ConnKey) : Except IoError Address :=
  match s.socket? c with
  | none => .error (.plain .notConnected)
  | some socket => addressOf (s.kernel.peerAddress socket)

end System

end ReadNotify
