import CutieProxy.Lib.Table
import CutieProxy.Net.Packet

/-!
# `process_lookup`

The tables of the IP Helper API, from which a packet finds its owning process, and the filters
that match a process. A table is rebuilt as a whole (`initializeTcpTable`, `initializeUdpTable`)
from what the API reports at that moment, which is a parameter here; a packet no table knows is
entered under the default process. Keys are compared by `=`, as the keys of a map are that have
scopes at the same ends.
-/

namespace CutieProxy

/-- The characters of a `std::wstring` literal. -/
def wstring (s : String) : List UInt16 := s.toList.map fun c => UInt16.ofNat c.toNat

/-- `network_process`. -/
structure NetworkProcess where
  id : UInt32
  name : List UInt16
  pathName : List UInt16
  deriving DecidableEq

/-- `filter_interface`, by its `match`. -/
abbrev FilterInterface := NetworkProcess → Bool

/-- `AllFilter`, which the user interface attaches to every new proxy. -/
def allFilter : FilterInterface := fun _ => true

/-- `process_lookup<T>`. -/
structure ProcessLookup (T : Type) where
  tcpToApp : Table (IpSession T) NetworkProcess := .empty
  udpToApp : Table (IpEndpoint T) NetworkProcess := .empty

namespace ProcessLookup

variable {T : Type}

/-- `default_process_`. -/
def defaultProcess : NetworkProcess := ⟨0, wstring "SYSTEM", wstring "SYSTEM"⟩

/-- `initialize_tcp_table`: rebuilds the TCP table from what the system reports. -/
def initializeTcpTable (reported : Table (IpSession T) NetworkProcess) (l : ProcessLookup T) :
    ProcessLookup T :=
  { l with tcpToApp := reported }

/-- `initialize_udp_table`: rebuilds the UDP table from what the system reports. -/
def initializeUdpTable (reported : Table (IpEndpoint T) NetworkProcess) (l : ProcessLookup T) :
    ProcessLookup T :=
  { l with udpToApp := reported }

/-- `lookup_process_for_tcp<false>`. -/
def lookupProcessForTcp (session : IpSession T) (l : ProcessLookup T) : Option NetworkProcess :=
  l.tcpToApp.find session

/-- `lookup_process_for_tcp<true>`. -/
def lookupProcessForTcpOrDefault [DecidableEq T] (session : IpSession T) (l : ProcessLookup T) :
    NetworkProcess × ProcessLookup T :=
  match l.lookupProcessForTcp session with
  | some process => (process, l)
  | none => (defaultProcess, { l with tcpToApp := l.tcpToApp.insert session defaultProcess })

/-- `lookup_process_for_udp<false>`: an endpoint may be held under the address zero. -/
def lookupProcessForUdp [Inhabited T] (endpoint : IpEndpoint T) (l : ProcessLookup T) :
    Option NetworkProcess :=
  match l.udpToApp.find endpoint with
  | some process => some process
  | none => l.udpToApp.find { endpoint with ip := default }

/-- `lookup_process_for_udp<true>`. -/
def lookupProcessForUdpOrDefault [DecidableEq T] [Inhabited T] (endpoint : IpEndpoint T)
    (l : ProcessLookup T) : NetworkProcess × ProcessLookup T :=
  match l.lookupProcessForUdp endpoint with
  | some process => (process, l)
  | none => (defaultProcess, { l with udpToApp := l.udpToApp.insert endpoint defaultProcess })

/-- The owner of a TCP session as the packet filter determines it: a session the table does not
know is looked up again after the table is rebuilt. -/
def ownerOfTcp [DecidableEq T] (reported : Table (IpSession T) NetworkProcess)
    (session : IpSession T) (l : ProcessLookup T) : NetworkProcess × ProcessLookup T :=
  match l.lookupProcessForTcp session with
  | some process => (process, l)
  | none => (l.initializeTcpTable reported).lookupProcessForTcpOrDefault session

/-- The owner of a UDP endpoint as the packet filter determines it. -/
def ownerOfUdp [DecidableEq T] [Inhabited T] (reported : Table (IpEndpoint T) NetworkProcess)
    (endpoint : IpEndpoint T) (l : ProcessLookup T) : NetworkProcess × ProcessLookup T :=
  match l.lookupProcessForUdp endpoint with
  | some process => (process, l)
  | none => (l.initializeUdpTable reported).lookupProcessForUdpOrDefault endpoint

variable [DecidableEq T] {l : ProcessLookup T} {process : NetworkProcess}

/-- A session the table knows has the owner it holds. -/
theorem ownerOfTcp_known {reported : Table (IpSession T) NetworkProcess} {session : IpSession T}
    (h : l.tcpToApp.find session = some process) :
    ownerOfTcp reported session l = (process, l) := by
  simp [ownerOfTcp, lookupProcessForTcp, h]

/-- A session the table does not know has the owner the system reports. -/
theorem ownerOfTcp_reported {reported : Table (IpSession T) NetworkProcess} {session : IpSession T}
    (hold : l.tcpToApp.find session = none) (hnew : reported.find session = some process) :
    ownerOfTcp reported session l = (process, { l with tcpToApp := reported }) := by
  simp [ownerOfTcp, lookupProcessForTcp, hold, initializeTcpTable, lookupProcessForTcpOrDefault,
    hnew]

/-- An endpoint the table knows has the owner it holds. -/
theorem ownerOfUdp_known [Inhabited T] {reported : Table (IpEndpoint T) NetworkProcess}
    {endpoint : IpEndpoint T} (h : l.lookupProcessForUdp endpoint = some process) :
    ownerOfUdp reported endpoint l = (process, l) := by
  simp only [ownerOfUdp, h]

/-- An endpoint the table knows under neither address has the owner the system reports. -/
theorem ownerOfUdp_reported [Inhabited T] {reported : Table (IpEndpoint T) NetworkProcess}
    {endpoint : IpEndpoint T} (hold : l.lookupProcessForUdp endpoint = none)
    (hnew : reported.find endpoint = some process) :
    ownerOfUdp reported endpoint l = (process, { l with udpToApp := reported }) := by
  have hfound : (l.initializeUdpTable reported).lookupProcessForUdp endpoint = some process := by
    simp [lookupProcessForUdp, initializeUdpTable, hnew]
  rw [ownerOfUdp, hold, lookupProcessForUdpOrDefault, hfound]
  rfl

end ProcessLookup

end CutieProxy
