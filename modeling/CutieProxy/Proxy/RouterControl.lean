import CutieProxy.Iphelper.NetworkAdapterInfo
import CutieProxy.Lib.Transition
import CutieProxy.Ndisapi.QueuedPacketFilter
import Mathlib.Data.List.Infix
import Mathlib.Data.Multiset.Count
import Mathlib.Data.Multiset.Filter

/-!
# Starting, stopping and restarting the router

`start` and `stop` of `socks_local_router` share the router's lock, and a task that
`ip_interface_changed_callback` starts has it alone. `update_network_configuration` looks up the
best interface, stores it in `default_adapter_`, and only then looks for the NDIS interface to
filter; the callback starts a task only when the best interface differs from `default_adapter_`.

A run is one of steps between which other threads may act; what the look-ups return is part of the
step. Calls and tasks in progress are a multiset.
-/

namespace CutieProxy

open Transition

/-! ## Adapters -/

/-- `IF_TYPE_PPP`. -/
def ifTypePpp : Nat := 23

/-- `network_adapter`, an interface of the packet driver. -/
structure NetworkAdapter where
  internalName : String
  /-- `get_ras_links`. -/
  rasLinks : Option (List IpAddressInfo) := none

namespace NetworkAdapterInfo

/-- What the callback takes for the same adapter. -/
def isSame (a rhs : NetworkAdapterInfo) : Bool := a.luid == rhs.luid && a.isSameAddressInfo rhs

/-- The predicate of the `find_if` in `update_network_configuration`. -/
def matchesAdapter (a : NetworkAdapterInfo) (ndis : NetworkAdapter) : Bool :=
  if a.ifType ≠ ifTypePpp then a.adapterName.toList <:+: ndis.internalName.toList
  else
    match ndis.rasLinks with
    | some wanInfo => wanInfo.any a.hasAddress
    | none => false

end NetworkAdapterInfo

/-! ## The packet filter -/

/-- `queued_packet_filter` as the router uses it. -/
structure PacketFilter where
  filterState : FilterState := .stopped
  /-- `network_interfaces_`. -/
  networkInterfaces : List NetworkAdapter := []
  /-- `adapter_`. -/
  adapter : Nat := 0

namespace PacketFilter

/-- `reconfigure`, which fails unless the filter is stopped. -/
def reconfigure (bound : List NetworkAdapter) (p : PacketFilter) : PacketFilter :=
  if p.filterState = .stopped then { p with networkInterfaces := bound } else p

/-- `start_filter`; `initialized` is what `init_filter` returns. -/
def startFilter (initialized : Bool) (adapter : Nat) (p : PacketFilter) : PacketFilter :=
  if p.filterState = .stopped then
    { p with
      filterState := if initialized then .running else .starting
      adapter := adapter }
  else p

/-- The first step of `stop_filter`. -/
def beginStop (p : PacketFilter) : PacketFilter :=
  if p.filterState = .running then { p with filterState := .stopping } else p

/-- `stop_filter`. -/
def stopFilter (p : PacketFilter) : PacketFilter :=
  if p.filterState = .running then { p with filterState := .stopped } else p

/-- The interface a running filter filters. -/
def runsOn (p : PacketFilter) : Option String :=
  if p.filterState = .running then p.networkInterfaces[p.adapter]?.map NetworkAdapter.internalName
  else none

end PacketFilter

/-! ## Calls -/

/-- A call of `start` or `stop`, or a restart task, and where it is. A call of `stop` is the `last`
one until the next call of `start`. -/
inductive Call where
  /-- `start` asks for the lock. -/
  | startRequests
  /-- `start` is at `update_network_configuration`. -/
  | startUpdates
  /-- `start` is at `start_filter`. -/
  | startStarts
  /-- `start` is at `set_notify_ip_interface_change`. -/
  | startRegisters
  /-- `stop` asks for the lock. -/
  | stopRequests (last : Bool)
  /-- `stop` is at `cancel_notify_ip_interface_change`. -/
  | stopCancels (last : Bool)
  /-- `stop` is at `stop_filter`. -/
  | stopStops (last : Bool)
  /-- `stop` is in `release_filter`. -/
  | stopJoins (last : Bool)
  /-- `stop` is after `stop_filter`. -/
  | stopLeaves (last : Bool)
  /-- A task asks for the lock. -/
  | taskRequests
  /-- A task is at `stop_filter`. -/
  | taskStops
  /-- A task is at `update_network_configuration`. -/
  | taskUpdates
  /-- A task is at `start_filter`. -/
  | taskStarts
  deriving DecidableEq

namespace Call

/-- Has the lock alone. -/
def Exclusive (c : Call) : Prop := c = taskStops ∨ c = taskUpdates ∨ c = taskStarts

/-- Shares the lock. -/
def Shared (c : Call) : Prop :=
  c = startUpdates ∨ c = startStarts ∨ c = startRegisters ∨
    ∃ last, c = stopCancels last ∨ c = stopStops last ∨ c = stopJoins last ∨ c = stopLeaves last

/-- Is a call of `stop`. -/
def IsStop (c : Call) : Prop :=
  ∃ last, c = stopRequests last ∨ c = stopCancels last ∨ c = stopStops last ∨
    c = stopJoins last ∨ c = stopLeaves last

/-- Is a call of `stop` that waits for the threads of the filter. -/
def Joins (c : Call) : Prop := ∃ last, c = stopJoins last

/-- Is the last call of `stop`. -/
def IsLastStop (c : Call) : Prop :=
  c = stopRequests true ∨ c = stopCancels true ∨ c = stopStops true ∨
    c = stopJoins true ∨ c = stopLeaves true

/-- Is the last call of `stop`, and yet to stop the filter. -/
def WillStop (c : Call) : Prop :=
  c = stopRequests true ∨ c = stopCancels true ∨ c = stopStops true

/-- Is a call of `start` that is yet to start the filter. -/
def StartsLater (c : Call) : Prop := c = startRequests ∨ c = startUpdates ∨ c = startStarts

/-- Is a task that is yet to update the network configuration. -/
def WillUpdate (c : Call) : Prop := c = taskRequests ∨ c = taskStops ∨ c = taskUpdates

/-- Is a task. -/
def IsTask (c : Call) : Prop := c.WillUpdate ∨ c = taskStarts

/-- Is between `update_network_configuration` and `start_filter`. -/
def AtStart (c : Call) : Prop := c = startStarts ∨ c = taskStarts

instance : DecidablePred Exclusive := fun _ => inferInstanceAs (Decidable (_ ∨ _))
instance : DecidablePred Shared := fun _ => inferInstanceAs (Decidable (_ ∨ _))
instance : DecidablePred IsStop := fun _ => inferInstanceAs (Decidable (∃ _, _))
instance : DecidablePred Joins := fun _ => inferInstanceAs (Decidable (∃ _, _))
instance : DecidablePred IsLastStop := fun _ => inferInstanceAs (Decidable (_ ∨ _))
instance : DecidablePred WillStop := fun _ => inferInstanceAs (Decidable (_ ∨ _))
instance : DecidablePred StartsLater := fun _ => inferInstanceAs (Decidable (_ ∨ _))
instance : DecidablePred WillUpdate := fun _ => inferInstanceAs (Decidable (_ ∨ _))
instance : DecidablePred IsTask := fun _ => inferInstanceAs (Decidable (_ ∨ _))
instance : DecidablePred AtStart := fun _ => inferInstanceAs (Decidable (_ ∨ _))

/-- A call when `start` is called: a call of `stop` is the last one no more. -/
def supersede : Call → Call
  | stopRequests _ => stopRequests false
  | stopCancels _ => stopCancels false
  | stopStops _ => stopStops false
  | stopJoins _ => stopJoins false
  | stopLeaves _ => stopLeaves false
  | c => c

/-- A call that is no `stop` was there before `start` was called. -/
theorem mem_of_supersede {c : Call} {calls : Multiset Call} (h : c ∈ calls.map supersede)
    (hstop : ¬ c.IsStop) : c ∈ calls := by
  obtain ⟨c', hmem, rfl⟩ := Multiset.mem_map.mp h
  cases c' with
  | stopRequests | stopCancels | stopStops | stopJoins | stopLeaves =>
    exact absurd ⟨false, by simp [supersede]⟩ hstop
  | _ => exact hmem

/-- What does not depend on which `stop` is the last one is the same when `start` is called. -/
theorem countP_supersede {p : Call → Prop} [DecidablePred p] (h : ∀ c : Call, p c.supersede ↔ p c)
    (calls : Multiset Call) : (calls.map supersede).countP p = calls.countP p := by
  rw [Multiset.countP_map, Multiset.countP_eq_card_filter]
  simp only [h]

theorem exclusive_supersede (c : Call) : c.supersede.Exclusive ↔ c.Exclusive := by
  cases c <;> simp [supersede, Exclusive]

theorem shared_supersede (c : Call) : c.supersede.Shared ↔ c.Shared := by
  cases c <;> simp [supersede, Shared]

theorem joins_supersede (c : Call) : c.supersede.Joins ↔ c.Joins := by
  cases c <;> simp [supersede, Joins]

theorem startsLater_supersede (c : Call) : c.supersede.StartsLater ↔ c.StartsLater := by
  cases c <;> simp [supersede, StartsLater]

theorem atStart_supersede (c : Call) : c.supersede.AtStart ↔ c.AtStart := by
  cases c <;> simp [supersede, AtStart]

end Call

/-! ## The router -/

/-- The fields of `socks_local_router` that decide when the packet filter runs. -/
structure RouterControl where
  isActive : Bool := false
  defaultAdapter : Option NetworkAdapterInfo := none
  ifIndex : Nat := 0
  filter : PacketFilter := {}
  /-- Notifications are delivered. -/
  registered : Bool := false
  calls : Multiset Call := 0
  /-- The adapter reported at the latest notification since `start`, and the interface of the driver
  that matched it then. -/
  latest : Option (NetworkAdapterInfo × Option String) := none
  /-- The interface the latest `update_network_configuration` found. -/
  found : Option String := none

namespace RouterControl

/-- The interface of the driver that matches an adapter. -/
def interfaceOf (a : NetworkAdapterInfo) (bound : List NetworkAdapter) : Option String :=
  (bound.find? a.matchesAdapter).map NetworkAdapter.internalName

/-- `update_network_configuration`: `best` is the best interface it looks up, `bound` are the
interfaces the driver is bound to. -/
def updateNetworkConfiguration (best : Option NetworkAdapterInfo) (bound : List NetworkAdapter)
    (s : RouterControl) : Bool × RouterControl :=
  let s := { s with
    filter := s.filter.reconfigure bound
    defaultAdapter := best }
  match best with
  | none => (false, { s with found := none })
  | some a =>
    match s.filter.networkInterfaces.findIdx? a.matchesAdapter with
    | some i => (true, { s with ifIndex := i, found := interfaceOf a s.filter.networkInterfaces })
    | none => (false, { s with found := none })

/-- The best interface is the one the router knows. -/
def isKnown (a : NetworkAdapterInfo) (s : RouterControl) : Bool :=
  s.defaultAdapter.any a.isSame

/-- `ip_interface_changed_callback`: `best` is the best interface it looks up. -/
def ipInterfaceChangedCallback (best : Option NetworkAdapterInfo) (bound : List NetworkAdapter)
    (s : RouterControl) : RouterControl :=
  match best with
  | none => { s with latest := none }
  | some a =>
    let s' := { s with latest := some (a, interfaceOf a bound) }
    if s.isKnown a then s' else { s' with calls := .taskRequests ::ₘ s.calls }

/-- What happens to the router. -/
inductive Event where
  | start
  | stop
  | notification (best : Option NetworkAdapterInfo) (bound : List NetworkAdapter)
  /-- A call is given the lock. -/
  | acquire (c : Call)
  | update (best : Option NetworkAdapterInfo) (bound : List NetworkAdapter)
  | startFilter (initialized : Bool)
  | stopFilter (c : Call)
  | join
  | setNotify (success : Bool)
  | cancelNotify (success : Bool)
  | leave

/-- What happens when. -/
inductive Step : RouterControl → Event → RouterControl → Prop
  | start {s} : s.isActive = false → Step s .start
      { s with
        isActive := true
        latest := none
        calls := .startRequests ::ₘ s.calls.map Call.supersede }
  | stop {s} : s.isActive = true → Step s .stop
      { s with
        isActive := false
        calls := .stopRequests true ::ₘ s.calls }
  | notification {s best bound} : s.registered = true →
      Step s (.notification best bound) (s.ipInterfaceChangedCallback best bound)
  | startAcquires {s rest} : s.calls = .startRequests ::ₘ rest → (∀ c ∈ rest, ¬ c.Exclusive) →
      Step s (.acquire .startRequests) { s with calls := .startUpdates ::ₘ rest }
  | stopAcquires {s rest last} : s.calls = .stopRequests last ::ₘ rest →
      (∀ c ∈ rest, ¬ c.Exclusive) →
      Step s (.acquire (.stopRequests last)) { s with calls := .stopCancels last ::ₘ rest }
  | taskAcquires {s rest} : s.calls = .taskRequests ::ₘ rest →
      (∀ c ∈ rest, ¬ c.Exclusive ∧ ¬ c.Shared) →
      Step s (.acquire .taskRequests) { s with calls := .taskStops ::ₘ rest }
  | startUpdates {s rest best bound updated s'} : s.calls = .startUpdates ::ₘ rest →
      s.updateNetworkConfiguration best bound = (updated, s') → Step s (.update best bound)
      { s' with calls := (if updated then .startStarts else .startRegisters) ::ₘ rest }
  | startStarts {s rest initialized} : s.calls = .startStarts ::ₘ rest →
      Step s (.startFilter initialized)
      { s with
        filter := s.filter.startFilter initialized s.ifIndex
        calls := .startRegisters ::ₘ rest }
  | startRegisters {s rest success} : s.calls = .startRegisters ::ₘ rest →
      Step s (.setNotify success)
      { s with
        registered := s.registered || success
        calls := rest }
  | stopCancels {s rest last success} : s.calls = .stopCancels last ::ₘ rest →
      Step s (.cancelNotify success)
      { s with
        registered := s.registered && !success
        calls := .stopStops last ::ₘ rest }
  | stopStops {s rest last} : s.calls = .stopStops last ::ₘ rest →
      Step s (.stopFilter (.stopStops last))
      { s with
        filter := s.filter.beginStop
        calls := (if s.filter.filterState = .running then .stopJoins last
          else .stopLeaves last) ::ₘ rest }
  | stopJoins {s rest last} : s.calls = .stopJoins last ::ₘ rest →
      Step s .join
      { s with
        filter := { s.filter with filterState := .stopped }
        calls := .stopLeaves last ::ₘ rest }
  | stopLeaves {s rest last} : s.calls = .stopLeaves last ::ₘ rest →
      Step s .leave { s with calls := rest }
  | taskStops {s rest} : s.calls = .taskStops ::ₘ rest →
      Step s (.stopFilter .taskStops)
      { s with
        filter := s.filter.stopFilter
        calls := .taskUpdates ::ₘ rest }
  | taskUpdates {s rest best bound updated s'} : s.calls = .taskUpdates ::ₘ rest →
      s.updateNetworkConfiguration best bound = (updated, s') → Step s (.update best bound)
      { s' with calls := if updated then .taskStarts ::ₘ rest else rest }
  | taskStarts {s rest initialized} : s.calls = .taskStarts ::ₘ rest →
      Step s (.startFilter initialized)
      { s with
        filter := s.filter.startFilter initialized s.ifIndex
        calls := rest }

/-- The router from its construction on. -/
def system : System RouterControl Event where
  init s := s = {}
  step := Step

end RouterControl

end CutieProxy
