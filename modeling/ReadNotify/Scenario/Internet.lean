import ReadNotify.Scenario.Connections
/-!
# Steps on Internet Sockets

Listening, connecting and accepting by name. A port is given by its number, as
the own port of a connection, as one that nobody listens on, or left to the
system. Ports differ from run to run, so answers only tell whether two of them
agree or whether one was chosen at all.

## Main definitions

* `Act.portOf`: The number of a port.
* `Act.listenStep`, `Act.connectStep`, `Act.acceptStep`, …: New connections.
* `Act.addressStep`, `Act.sameAddressStep`: Addresses.
-/

namespace ReadNotify

namespace Act

/-- The number of a port. -/
def portOf : PortSource → Act Nat
  | .number n => return n
  | .unused =>
    callSys fun s =>
      let (kernel, port) := s.kernel.freshPort
      ({ s with kernel }, port)
  | .ofConnection name => do
    let c ← handle (.ok name)
    match (← sys).localAddr c with
    | .ok a => return a.port
    | .error _ => return 0

/-- Names a connection that came about, or answers why none did. -/
def newConnection (name : String) (make : System → System × Except IoError ConnKey) :
    Act Answer := do
  match ← callSys make with
  | .error e => return .failed e
  | .ok _ =>
    giveName (some name)
    return .ok

/-- Listens on a port of all interfaces. -/
def listenStep (c : Arg String) (port : PortSource) : Act Answer := do
  let name ← freshName c
  let port ← portOf port
  newConnection name fun s => s.listen port

/-- Listens on one address. -/
def listenOnStep (c : Arg String) (ip : Arg IpAddress) (port : PortSource) : Act Answer := do
  let name ← freshName c
  let ip ← need ip
  let port ← portOf port
  newConnection name fun s => s.listenOn ⟨ip, port⟩

/-- Connects to a host. -/
def connectStep (c host : Arg String) (port : PortSource) : Act Answer := do
  let name ← freshName c
  let host ← need host
  let port ← portOf port
  newConnection name fun s => s.connect host port

/-- Connects to one address. -/
def connectAddrStep (c : Arg String) (ip : Arg IpAddress) (port : PortSource) : Act Answer := do
  let name ← freshName c
  let ip ← need ip
  let port ← portOf port
  newConnection name fun s => s.connectAddr ⟨ip, port⟩

/-- Adopts a stream that was connected to the loopback address. -/
def connectLoopbackStep (c : Arg String) (port : PortSource) : Act Answer := do
  let name ← freshName c
  let port ← portOf port
  newConnection name fun s => s.connectAddr ⟨.loopback, port⟩

/-- A listener of the Unix domain and a client connected to it. -/
def listenLocalStep (c client : Arg String) : Act Answer := do
  let name ← freshName c
  let clientName ← freshName client
  if name = clientName then refuse (.nameTaken clientName)
  match ← callSys System.listenLocal with
  | .error e => return .failed e
  | .ok _ =>
    giveName (some name)
    giveName (some clientName)
    return .ok

/-- Accepts a connection. If the client is named, the answer tells whether the
    connection comes from the client's own port. -/
def acceptStep (source c : Arg String) (client : Option String) : Act Answer := do
  let name ← freshName c
  let listener ← handle source
  let client ← match client with
    | none => pure none
    | some other => some <$> handle (.ok other)
  match ← callSys fun s => s.accept listener false with
  | .error e => return .failed e
  | .ok (_, a) =>
    giveName (some name)
    let s ← sys
    let portMatches := client.map fun k =>
      match s.localAddr k with
      | .ok b => b.port == a.port
      | .error _ => false
    return .accepted a.ip portMatches

/-- One of the two addresses of a connection. -/
def addressStep (c : Arg String) (peer : Bool) : Act Answer := do
  let c ← handle c
  let s ← sys
  match if peer then s.peerAddr c else s.localAddr c with
  | .error e => return .failed e
  | .ok a => return .address a.ip (a.port != 0)

/-- Whether the other end of one connection is the own end of another. -/
def sameAddressStep (a b : Arg String) : Act Answer := do
  let a ← handle a
  let b ← handle b
  let s ← sys
  match s.peerAddr a, s.localAddr b with
  | .ok x, .ok y => return .flag (x == y)
  | _, _ => return .incomparable

end Act

end ReadNotify
