import CutieProxy.Iphelper.ProcessLookup
import CutieProxy.Lib.Transition
import CutieProxy.Net.IpEndpoint
import Mathlib.Data.Multiset.Basic

/-!
# Looking up a process from several threads

`lookup_process_for_tcp<true>` looks a session up under the shared lock and enters the default
process under the exclusive lock, so other threads may act in between; what a thread does under
either lock is one step. `lookups_follow` says in which runs a session keeps the process the system
reported for it: no session is entered that was found missing before the table was filled and has a
process since. `lookups_follow_equals` says the same of the map that compares sessions by `==` and
finds them by their hash, where they have scopes at the same ends.
-/

namespace CutieProxy

open Transition

/-- `process_lookup`, with the calls that are between their two regions and, for the statements
about it, what the system reported last. -/
structure LookupThreads (T : Type) where
  lookup : ProcessLookup T := {}
  /-- The sessions that were not found and are about to be entered under the default process. -/
  missed : Multiset (IpSession T) := 0
  /-- What `actualize` filled the table from, unless it failed since. -/
  snapshot : Option (Table (IpSession T) NetworkProcess) := none

namespace LookupThreads

variable {T : Type} [DecidableEq T]

/-- What a thread does under the lock. -/
inductive Event (T : Type) where
  /-- The shared region of `lookup_process_for_tcp`, and what it finds. -/
  | lookup (setToDefault : Bool) (session : IpSession T) (found : Option NetworkProcess)
  /-- The exclusive region of `lookup_process_for_tcp<true>`. -/
  | setDefault (session : IpSession T)
  /-- `actualize`, where the system reports a table. -/
  | actualize (reported : Table (IpSession T) NetworkProcess)
  /-- `actualize`, where `initialize_tcp_table` fails and leaves the table cleared or half
  filled. -/
  | actualizeFails (left : Table (IpSession T) NetworkProcess)

/-- `tcp_to_app_[session] = default_process_`. -/
def enterDefault (session : IpSession T) (l : ProcessLookup T) : ProcessLookup T :=
  { l with tcpToApp := l.tcpToApp.insert session ProcessLookup.defaultProcess }

/-- One region of one thread. -/
inductive Step : LookupThreads T → Event T → LookupThreads T → Prop
  | returns {s : LookupThreads T} {setToDefault : Bool} {session : IpSession T}
      {found : Option NetworkProcess} (hfound : s.lookup.lookupProcessForTcp session = found)
      (hreturns : found ≠ none ∨ setToDefault = false) :
      Step s (.lookup setToDefault session found) s
  | misses {s : LookupThreads T} {session : IpSession T}
      (hmissed : s.lookup.lookupProcessForTcp session = none) :
      Step s (.lookup true session none) { s with missed := session ::ₘ s.missed }
  | setDefault {s : LookupThreads T} {session : IpSession T} {rest : Multiset (IpSession T)}
      (hmissed : s.missed = session ::ₘ rest) :
      Step s (.setDefault session)
        { s with
          lookup := enterDefault session s.lookup
          missed := rest }
  | actualize {s : LookupThreads T} (reported : Table (IpSession T) NetworkProcess) :
      Step s (.actualize reported)
        { s with
          lookup := s.lookup.initializeTcpTable reported
          snapshot := some reported }
  | actualizeFails {s : LookupThreads T} (left : Table (IpSession T) NetworkProcess) :
      Step s (.actualizeFails left)
        { s with
          lookup := s.lookup.initializeTcpTable left
          snapshot := none }

/-- The runs of any number of threads; the constructor has filled the table, or tried to. -/
def system (T : Type) [DecidableEq T] : System (LookupThreads T) (Event T) where
  init s := s.missed = 0 ∧ s.snapshot = none
  step := Step

/-- Every look-up of a session that the system reported finds the process it reported. -/
def Faithful (s : LookupThreads T) : Prop :=
  ∀ reported ∈ s.snapshot, ∀ session, ∀ process ∈ reported.find session,
    ∀ setToDefault found t, Step s (.lookup setToDefault session found) t → found = some process

/-- The default process is not entered for a session that the system reported since with another. -/
def OnTime (s : LookupThreads T) : Event T → Prop
  | .setDefault session => ∀ reported ∈ s.snapshot, ∀ process ∈ reported.find session,
      process = ProcessLookup.defaultProcess
  | _ => True

/-- The table holds what the system reported. -/
def Holds (s : LookupThreads T) : Prop :=
  ∀ reported ∈ s.snapshot, ∀ session, ∀ process ∈ reported.find session,
    s.lookup.tcpToApp.find session = some process

variable {s t : LookupThreads T} {e : Event T}

/-- With nothing in between the two regions are the look-up with a default. -/
theorem lookupProcessForTcpOrDefault_missed {l : ProcessLookup T} {session : IpSession T}
    (h : l.lookupProcessForTcp session = none) : l.lookupProcessForTcpOrDefault session =
      (ProcessLookup.defaultProcess, enterDefault session l) := by
  rw [ProcessLookup.lookupProcessForTcpOrDefault, h]
  rfl

/-- A look-up with a default that no other thread comes in between is one of `ProcessLookup`. -/
theorem lookup_undisturbed (s : LookupThreads T) (session : IpSession T) :
    (system T).Steps s
      { s with lookup := (s.lookup.lookupProcessForTcpOrDefault session).2 } := by
  cases hfound : s.lookup.lookupProcessForTcp session with
  | some process =>
    rw [ProcessLookup.lookupProcessForTcpOrDefault, hfound]
    exact System.Steps.refl s
  | none =>
    rw [lookupProcessForTcpOrDefault_missed hfound]
    have hmisses : (system T).step s (.lookup true session none)
        { s with missed := session ::ₘ s.missed } := .misses hfound
    exact ((System.Steps.refl s).snoc hmisses).snoc (M := system T) (.setDefault rfl)

/-- Look-ups find what the table holds. -/
theorem faithful_iff : s.Faithful ↔ s.Holds := by
  constructor
  · intro h reported hreported session process hprocess
    exact h reported hreported session process hprocess false _ s (.returns rfl (.inr rfl))
  · intro h reported hreported session process hprocess setToDefault found t hstep
    have hfind := h reported hreported session process hprocess
    cases hstep with
    | returns hfound => exact hfound.symm.trans hfind
    | misses hmissed => exact hmissed.symm.trans hfind

/-- Entering the default process for a session. -/
theorem holds_enterDefault_iff (h : s.Holds) (session : IpSession T)
    (rest : Multiset (IpSession T)) :
    Holds { s with lookup := enterDefault session s.lookup, missed := rest } ↔
      s.OnTime (.setDefault session) := by
  constructor
  · intro hafter reported hreported process hprocess
    have hfind := hafter reported hreported session process hprocess
    rw [show (enterDefault session s.lookup).tcpToApp.find session = _ from
      Table.find_insert_self] at hfind
    exact (Option.some.inj hfind).symm
  · intro htime reported hreported session' process hprocess
    show (s.lookup.tcpToApp.insert session _).find session' = some process
    rcases eq_or_ne session' session with rfl | hne
    · rw [Table.find_insert_self, htime reported hreported process hprocess]
    · rw [Table.find_insert_of_ne hne]
      exact h reported hreported session' process hprocess

theorem Holds.step (h : s.Holds) (htime : s.OnTime e) (hstep : Step s e t) : t.Holds := by
  cases hstep with
  | returns => exact h
  | misses => exact h
  | setDefault => exact (holds_enterDefault_iff h _ _).mpr htime
  | actualize reported =>
    rintro _ ⟨⟩ session process hprocess
    exact hprocess
  | actualizeFails => exact fun _ hnone => nomatch hnone

theorem holds_of_onTime (h : ((system T).restrict OnTime).Reachable s) : s.Holds := by
  refine h.restrict_invariant (I := Holds) ?_ ?_
  · rintro s ⟨-, hnone⟩ reported hreported
    rw [hnone] at hreported
    cases hreported
  · exact fun s e t hs htime hstep => hs.step htime hstep

/-- In a run in which the default process is only ever entered on time, every look-up of a session
that the system reported finds the process it reported; entering it out of time ends that. -/
theorem lookups_follow (h : ((system T).restrict OnTime).Reachable s) :
    s.Faithful ∧ ∀ session rest, s.missed = session ::ₘ rest →
      (Faithful { s with lookup := enterDefault session s.lookup, missed := rest } ↔
        s.OnTime (.setDefault session)) := by
  have hholds : s.Holds := holds_of_onTime h
  refine ⟨faithful_iff.mpr hholds, fun session rest _ => ?_⟩
  rw [faithful_iff]
  exact holds_enterDefault_iff hholds session rest

/-- The same for the unordered map: a session that the system reported is found, by `==` and its
hash among the sessions of the map, with the process the system reported. -/
theorem lookups_follow_equals {F : IpFamily} {s : LookupThreads F.Address}
    (h : ((system F.Address).restrict OnTime).Reachable s)
    {reported : Table (IpSession F.Address) NetworkProcess} (hreported : reported ∈ s.snapshot)
    {session : IpSession F.Address} {process : NetworkProcess}
    (hprocess : process ∈ reported.find session) {std : StdHash}
    {sessions : List (IpSession F.Address)}
    (hsessions : ∀ x, x ∈ sessions ↔ (s.lookup.tcpToApp.find x).isSome = true)
    (hscopes : ∀ x ∈ sessions,
      x.localEndpoint.scopeId.isSome = session.localEndpoint.scopeId.isSome ∧
        x.remoteEndpoint.scopeId.isSome = session.remoteEndpoint.scopeId.isSome) :
    (HashKey.find IpSession.equals (IpSession.hash std) sessions session).bind
      s.lookup.tcpToApp.find = some process := by
  rw [IpSession.find_bind hsessions hscopes]
  exact holds_of_onTime h reported hreported session process hprocess

/-! ## A look-up that comes late -/

/-- A connection of a browser. -/
def webSession : IpSession IpAddressV4 := ⟨⟨⟨10, 0, 0, 1⟩, 50000, none⟩, ⟨⟨10, 0, 0, 2⟩, 443, none⟩⟩

/-- The process of the browser. -/
def browserProcess : NetworkProcess := ⟨4, [], []⟩

/-- The system reports the connection. -/
def reportsWeb : Table (IpSession IpAddressV4) NetworkProcess :=
  Table.empty.insert webSession browserProcess

/-- The connection was looked up before the table was filled. -/
def lookedUpEarly : LookupThreads IpAddressV4 where
  lookup := { tcpToApp := reportsWeb }
  missed := {webSession}
  snapshot := some reportsWeb

theorem lookedUpEarly_reachable :
    ((system IpAddressV4).restrict OnTime).Reachable lookedUpEarly := by
  have hinit : ((system IpAddressV4).restrict OnTime).Reachable {} :=
    System.Reachable.init ⟨rfl, rfl⟩
  have hmisses : Step {} (.lookup true webSession none) { missed := {webSession} } := .misses rfl
  exact (hinit.restrict_snoc (M := system IpAddressV4) hmisses trivial).restrict_snoc
    (M := system IpAddressV4) (.actualize reportsWeb) trivial

theorem lookups_follow_early :
    lookedUpEarly.Faithful ∧ ∀ session rest, lookedUpEarly.missed = session ::ₘ rest →
      (Faithful { lookedUpEarly with
          lookup := enterDefault session lookedUpEarly.lookup
          missed := rest } ↔
        lookedUpEarly.OnTime (.setDefault session)) :=
  lookups_follow lookedUpEarly_reachable

/-- The default process replaces the browser, whose connection was not found before. -/
theorem default_replaces_browser :
    ¬ ∀ s : LookupThreads IpAddressV4, (system IpAddressV4).Reachable s → s.Faithful := by
  intro hclaim
  have hstep : Step lookedUpEarly (.setDefault webSession)
      { lookedUpEarly with
        lookup := enterDefault webSession lookedUpEarly.lookup
        missed := 0 } := .setDefault rfl
  have hlate := hclaim _ (lookedUpEarly_reachable.of_restrict.snoc (M := system IpAddressV4) hstep)
  have hfind : lookedUpEarly.Holds := by
    rintro _ ⟨⟩ session process hprocess
    exact hprocess
  have htime := (holds_enterDefault_iff hfind webSession 0).mp (faithful_iff.mp hlate)
  have hdefault := htime reportsWeb rfl browserProcess Table.find_insert_self
  exact absurd (congrArg NetworkProcess.id hdefault) (by decide)

end LookupThreads

end CutieProxy
