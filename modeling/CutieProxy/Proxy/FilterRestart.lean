import CutieProxy.Lib.SharedMutex
import CutieProxy.Lib.Transition
import CutieProxy.Ndisapi.QueuedPacketFilter

/-!
# Stopping the packet filter under the router's lock

`ip_interface_changed_callback` starts a task that holds the router's lock exclusively while it
stops and restarts the packet filter; `stop` holds it shared while it stops the filter. Stopping the
filter waits for the packet thread to exit, and the packet thread, when it is in the router's
callback, asks for the lock shared. It looks at the state of the filter only between two blocks of
packets.

`no_deadlock` says when nobody waits in a circle, in runs whose stoppers call `stop_filter` while
the packet thread has no block at hand (`Safe`), and `unsafe_deadlocks` that any other call can end
in a circle. Whether a shared request waits for the exclusive ones before it (`writersFirst`)
matters to `stop` alone.
-/

namespace CutieProxy

open Transition

/-- A thread that stops the filter: a task of `ip_interface_changed_callback`, or `stop`, which the
flag `is_active_` lets through once for a start of the router. -/
inductive Stopper where
  | task (n : Nat)
  | stop
  deriving DecidableEq

/-- Where a stopper is. -/
inductive StopperPc where
  /-- Not started. -/
  | idle
  /-- Asks for the lock. -/
  | requests
  /-- Holds the lock, before `stop_filter`. -/
  | holds
  /-- In `release_filter`, waits for the packet thread to exit. -/
  | joins
  /-- After `stop_filter`. -/
  | continues
  /-- Has let go of the lock. -/
  | done
  deriving DecidableEq

/-- The stopper has the lock. -/
def StopperPc.InLock (pc : StopperPc) : Prop := pc = .holds ∨ pc = .joins ∨ pc = .continues

/-- Where the packet thread is. -/
inductive PacketPc where
  /-- Not running. -/
  | exited
  /-- Between two blocks, before it looks at the state of the filter. -/
  | idle
  /-- Has a block at hand, and is not concerned with the lock. -/
  | processes
  /-- In the router's callback, asks for the lock. -/
  | requests
  /-- In the router's callback, holds the lock. -/
  | holds
  deriving DecidableEq

/-- The threads that take the router's lock. -/
inductive LockUser where
  | stopper (t : Stopper)
  | packetThread
  deriving DecidableEq

/-- The stopper holds the lock, the way it does: a task exclusively, `stop` shared. -/
def Stopper.Owns (m : SharedMutex LockUser) : Stopper → Prop
  | .task n => m.exclusive = some (.stopper (.task n))
  | .stop => LockUser.stopper .stop ∈ m.shared

theorem Stopper.Owns.holds {m : SharedMutex LockUser} {t : Stopper} (h : t.Owns m) :
    m.Holds (.stopper t) := by
  cases t with
  | task n => exact .inl h
  | stop => exact .inr h

/-- No two stoppers hold the lock together. -/
theorem Stopper.Owns.unique {m : SharedMutex LockUser} {t t' : Stopper} (h : t.Owns m)
    (h' : t'.Owns m) : t' = t := by
  cases t with
  | task n => exact LockUser.stopper.inj (SharedMutex.eq_of_holds h h'.holds)
  | stop =>
    cases t' with
    | task n => exact (LockUser.stopper.inj (SharedMutex.eq_of_holds h' h.holds)).symm
    | stop => rfl

/-- A stopper does not lose the lock when the packet thread lets go of it. -/
theorem Stopper.Owns.unlockShared {m : SharedMutex LockUser} {t : Stopper} (h : t.Owns m) :
    t.Owns (m.unlockShared .packetThread) := by
  cases t with
  | task n => exact h
  | stop =>
    have hne : LockUser.stopper .stop ≠ .packetThread := nofun
    exact (List.mem_erase_of_ne hne).mpr h

/-- The router's lock, the filter and the threads. -/
structure FilterRestart where
  lock : SharedMutex LockUser := {}
  filterState : FilterState
  packetThread : PacketPc
  stopperPc : Stopper → StopperPc := fun _ => .idle

namespace FilterRestart

/-! ## Steps -/

/-- What happens to the threads. -/
inductive Event where
  /-- A stopper starts and asks for the lock. -/
  | call (t : Stopper)
  /-- A stopper is given the lock. -/
  | acquire (t : Stopper)
  /-- A stopper calls `stop_filter`. -/
  | stopFilter (t : Stopper)
  /-- The packet thread a stopper waits for has exited. -/
  | joined (t : Stopper)
  /-- A stopper lets go of the lock; a task restarts the filter before, if it can. -/
  | finish (t : Stopper) (restarted : Option Bool)
  /-- The packet thread finds a block and the filter running. -/
  | takeBlock
  /-- The packet thread is in the callback and asks for the lock. -/
  | request
  /-- The packet thread is given the lock. -/
  | acquireShared
  /-- The packet thread lets go of the lock. -/
  | releaseShared
  /-- The packet thread is through with its block. -/
  | finishBlock
  /-- The packet thread finds the filter not running. -/
  | exit

/-- A stopper moves on. -/
def moveTo (t : Stopper) (pc : StopperPc) (s : FilterRestart) : FilterRestart :=
  { s with stopperPc := Function.update s.stopperPc t pc }

/-- `stop_filter` up to its wait for the packet thread. -/
def stopFilter (t : Stopper) (s : FilterRestart) : FilterRestart :=
  if s.filterState = .running then { s.moveTo t .joins with filterState := .stopping }
  else s.moveTo t .continues

/-- `start_filter`: nothing when the filter is not stopped; `ready` is the result of
`init_filter`. -/
def startFilter (ready : Bool) (s : FilterRestart) : FilterRestart :=
  if s.filterState = .stopped then
    if ready then { s with filterState := .running, packetThread := .idle }
    else { s with filterState := .starting }
  else s

/-- The end of a task, with the result of `init_filter` if the new configuration let it go on. -/
def finishTask (n : Nat) (restarted : Option Bool) (s : FilterRestart) : FilterRestart :=
  let s := match restarted with
    | some ready => s.startFilter ready
    | none => s
  { s.moveTo (.task n) .done with lock := s.lock.unlock }

/-- The steps of the stoppers and the packet thread. -/
inductive Step (writersFirst : Bool) : FilterRestart → Event → FilterRestart → Prop
  | callTask {s : FilterRestart} {n : Nat} (hpc : s.stopperPc (.task n) = .idle) :
      Step writersFirst s (.call (.task n))
        { s.moveTo (.task n) .requests with lock := s.lock.await (.stopper (.task n)) }
  | callStop {s : FilterRestart} (hpc : s.stopperPc .stop = .idle) :
      Step writersFirst s (.call .stop) (s.moveTo .stop .requests)
  | acquireTask {s : FilterRestart} {n : Nat} (hpc : s.stopperPc (.task n) = .requests)
      (hfree : s.lock.Free) :
      Step writersFirst s (.acquire (.task n))
        { s.moveTo (.task n) .holds with lock := s.lock.lock (.stopper (.task n)) hfree }
  | acquireStop {s : FilterRestart} (hpc : s.stopperPc .stop = .requests)
      (hadmits : s.lock.Admits writersFirst) :
      Step writersFirst s (.acquire .stop)
        { s.moveTo .stop .holds with lock := s.lock.lockShared (.stopper .stop) hadmits.1 }
  | stopFilter {s : FilterRestart} {t : Stopper} (hpc : s.stopperPc t = .holds) :
      Step writersFirst s (.stopFilter t) (s.stopFilter t)
  | joined {s : FilterRestart} {t : Stopper} (hpc : s.stopperPc t = .joins)
      (hexited : s.packetThread = .exited) :
      Step writersFirst s (.joined t) { s.moveTo t .continues with filterState := .stopped }
  | finishTask {s : FilterRestart} {n : Nat} {restarted : Option Bool}
      (hpc : s.stopperPc (.task n) = .continues) :
      Step writersFirst s (.finish (.task n) restarted) (s.finishTask n restarted)
  | finishStop {s : FilterRestart} (hpc : s.stopperPc .stop = .continues) :
      Step writersFirst s (.finish .stop none)
        { s.moveTo .stop .done with lock := s.lock.unlockShared (.stopper .stop) }
  | takeBlock {s : FilterRestart} (hpc : s.packetThread = .idle)
      (hrunning : s.filterState = .running) :
      Step writersFirst s .takeBlock { s with packetThread := .processes }
  | request {s : FilterRestart} (hpc : s.packetThread = .processes) :
      Step writersFirst s .request { s with packetThread := .requests }
  | acquireShared {s : FilterRestart} (hpc : s.packetThread = .requests)
      (hadmits : s.lock.Admits writersFirst) :
      Step writersFirst s .acquireShared
        { s with packetThread := .holds, lock := s.lock.lockShared .packetThread hadmits.1 }
  | releaseShared {s : FilterRestart} (hpc : s.packetThread = .holds) :
      Step writersFirst s .releaseShared
        { s with packetThread := .processes, lock := s.lock.unlockShared .packetThread }
  | finishBlock {s : FilterRestart} (hpc : s.packetThread = .processes) :
      Step writersFirst s .finishBlock { s with packetThread := .idle }
  | exit {s : FilterRestart} (hpc : s.packetThread = .idle) (hstate : s.filterState ≠ .running) :
      Step writersFirst s .exit { s with packetThread := .exited }

/-- The runs from a router that is started, with its filter running or not, up to its next start. -/
def system (writersFirst : Bool) : System FilterRestart Event where
  init s :=
    s = { filterState := .running, packetThread := .idle } ∨
      s = { filterState := .stopped, packetThread := .exited }
  step := Step writersFirst

/-- A thread holds the lock and waits for the packet thread to exit, which waits for the lock. -/
def Deadlocked (writersFirst : Bool) (s : FilterRestart) : Prop :=
  (∃ t, s.stopperPc t = .joins ∧ s.lock.Holds (.stopper t)) ∧
    s.packetThread = .requests ∧ ¬ s.lock.Admits writersFirst

variable {writersFirst : Bool} {s r : FilterRestart} {t t' : Stopper} {e : Event}
  {m : SharedMutex LockUser}

/-! ## Who has the lock -/

/-- What the threads know: a stopper in the lock holds it, so does the packet thread, and while a
stopper waits for the packet thread the filter is stopping. -/
structure Linked (s : FilterRestart) : Prop where
  owns : ∀ t, (s.stopperPc t).InLock → t.Owns s.lock
  packetHolds : s.packetThread = .holds → .packetThread ∈ s.lock.shared
  stopping : ∀ t, s.stopperPc t = .joins → s.filterState = .stopping

/-- While a stopper has the lock no other has it. -/
theorem Linked.eq_of_inLock (h : s.Linked) (ht : (s.stopperPc t).InLock)
    (ht' : (s.stopperPc t').InLock) : t' = t := (h.owns t ht).unique (h.owns t' ht')

theorem Linked.init (h : (system writersFirst).init s) : s.Linked := by
  have hidle : ∀ t, s.stopperPc t = .idle := by
    rcases h with rfl | rfl <;> exact fun _ => rfl
  refine ⟨fun t ht => ?_, fun hpacket => ?_, fun t ht => ?_⟩
  · rw [hidle] at ht
    rcases ht with ht | ht | ht <;> cases ht
  · rcases h with rfl | rfl <;> cases hpacket
  · rw [hidle] at ht
    cases ht

@[simp] theorem moveTo_self {pc : StopperPc} : (s.moveTo t pc).stopperPc t = pc :=
  Function.update_self ..

@[simp] theorem moveTo_of_ne {pc : StopperPc} (h : t' ≠ t) :
    (s.moveTo t pc).stopperPc t' = s.stopperPc t' := Function.update_of_ne h ..

/-- A stopper that moves on, with what it does to the lock and the filter. -/
theorem Linked.of_move {pc : StopperPc} {lock : SharedMutex LockUser} {filterState : FilterState}
    {packetThread : PacketPc} (hself : pc.InLock → t.Owns lock)
    (hothers : ∀ t', t' ≠ t → (s.stopperPc t').InLock → t'.Owns lock)
    (hpacket : packetThread = .holds → .packetThread ∈ lock.shared)
    (hjoins : pc = .joins → filterState = .stopping)
    (hstate : ∀ t', t' ≠ t → s.stopperPc t' = .joins → filterState = .stopping) :
    Linked ⟨lock, filterState, packetThread, (s.moveTo t pc).stopperPc⟩ := by
  refine ⟨fun t' ht' => ?_, hpacket, fun t' ht' => ?_⟩
  · by_cases heq : t' = t
    · subst heq
      rw [moveTo_self] at ht'
      exact hself ht'
    · rw [moveTo_of_ne heq] at ht'
      exact hothers t' heq ht'
  · by_cases heq : t' = t
    · subst heq
      rw [moveTo_self] at ht'
      exact hjoins ht'
    · rw [moveTo_of_ne heq] at ht'
      exact hstate t' heq ht'

theorem not_inLock_requests : ¬ StopperPc.requests.InLock := by simp [StopperPc.InLock]

theorem not_inLock_done : ¬ StopperPc.done.InLock := by simp [StopperPc.InLock]

/-- A task that restarts the filter touches neither the lock nor the stoppers. -/
theorem startFilter_frame (ready : Bool) :
    (s.startFilter ready).lock = s.lock ∧ (s.startFilter ready).stopperPc = s.stopperPc ∧
      ((s.startFilter ready).packetThread = .holds → s.packetThread = .holds) := by
  unfold startFilter
  split
  · cases ready with
    | true => exact ⟨rfl, rfl, fun h => by cases h⟩
    | false => exact ⟨rfl, rfl, id⟩
  · exact ⟨rfl, rfl, id⟩

/-- The end of a task, with what restarting the filter leaves as it was. -/
theorem finishTask_eq (n : Nat) (restarted : Option Bool) : ∃ s' : FilterRestart,
    s.finishTask n restarted = { s'.moveTo (.task n) .done with lock := s'.lock.unlock } ∧
      s'.lock = s.lock ∧ s'.stopperPc = s.stopperPc ∧
      (s'.packetThread = .holds → s.packetThread = .holds) := by
  cases restarted with
  | none => exact ⟨s, rfl, rfl, rfl, id⟩
  | some ready => exact ⟨s.startFilter ready, rfl, startFilter_frame ready⟩

/-- A task that lets go of the lock. -/
theorem Linked.finishTask {n : Nat} (h : s.Linked) (hpc : s.stopperPc (.task n) = .continues)
    (restarted : Option Bool) : (s.finishTask n restarted).Linked := by
  have hin : (s.stopperPc (.task n)).InLock := .inr (.inr hpc)
  obtain ⟨s', hs', hlock, hpcs, hholds⟩ := finishTask_eq (s := s) n restarted
  rw [hs']
  refine Linked.of_move (s := s') (fun hdone => absurd hdone not_inLock_done)
    (fun t' hne ht' => ?_) (fun hpacket => ?_) nofun fun t' hne ht' => ?_
  · rw [hpcs] at ht'
    exact absurd (h.eq_of_inLock hin ht') hne
  · show LockUser.packetThread ∈ s'.lock.shared
    rw [hlock]
    exact h.packetHolds (hholds hpacket)
  · rw [hpcs] at ht'
    exact absurd (h.eq_of_inLock hin (.inr (.inl ht'))) hne

/-- Every step keeps what the threads know. -/
theorem Linked.step (h : s.Linked) (hstep : Step writersFirst s e r) : r.Linked := by
  cases hstep with
  | callTask hpc =>
    refine Linked.of_move (fun hin => absurd hin not_inLock_requests) (fun t' _ ht' => ?_)
      h.packetHolds nofun fun t' _ ht' => h.stopping t' ht'
    have howns := h.owns t' ht'
    cases t' <;> exact howns
  | callStop hpc =>
    exact Linked.of_move (fun hin => absurd hin not_inLock_requests) (fun t' _ ht' => h.owns t' ht')
      h.packetHolds nofun fun t' _ ht' => h.stopping t' ht'
  | acquireTask hpc hfree =>
    refine Linked.of_move (fun _ => rfl) (fun t' _ ht' => ?_) (fun hpacket => ?_) nofun
      fun t' _ ht' => h.stopping t' ht'
    · exact absurd (h.owns t' ht').holds hfree.not_holds
    · exact absurd (.inr (h.packetHolds hpacket)) hfree.not_holds
  | acquireStop hpc hadmits =>
    refine Linked.of_move (fun _ => List.mem_cons_self) (fun t' hne ht' => ?_) (fun hpacket => ?_)
      nofun fun t' _ ht' => h.stopping t' ht'
    · cases t' with
      | task n => exact absurd (h.owns _ ht') (by rw [Stopper.Owns, hadmits.1]; exact nofun)
      | stop => exact absurd rfl hne
    · exact List.mem_cons_of_mem _ (h.packetHolds hpacket)
  | @stopFilter t hpc =>
    have hin : (s.stopperPc t).InLock := .inl hpc
    unfold FilterRestart.stopFilter
    split
    · exact Linked.of_move (fun _ => h.owns t hin) (fun t' _ ht' => h.owns t' ht') h.packetHolds
        (fun _ => rfl) fun _ _ _ => rfl
    · exact Linked.of_move (fun _ => h.owns t hin) (fun t' _ ht' => h.owns t' ht') h.packetHolds
        nofun fun t' _ ht' => h.stopping t' ht'
  | @joined t hpc hexited =>
    have hin : (s.stopperPc t).InLock := .inr (.inl hpc)
    exact Linked.of_move (fun _ => h.owns t hin) (fun t' _ ht' => h.owns t' ht') h.packetHolds
      nofun fun t' hne ht' => absurd (h.eq_of_inLock hin (.inr (.inl ht'))) hne
  | finishTask hpc => exact h.finishTask hpc _
  | finishStop hpc =>
    have hin : (s.stopperPc .stop).InLock := .inr (.inr hpc)
    refine Linked.of_move (fun hdone => absurd hdone not_inLock_done) (fun t' hne ht' => ?_)
      (fun hpacket => ?_) nofun fun t' _ ht' => h.stopping t' ht'
    · exact absurd (h.eq_of_inLock hin ht') hne
    · have hne : LockUser.packetThread ≠ .stopper .stop := nofun
      exact (List.mem_erase_of_ne hne).mpr (h.packetHolds hpacket)
  | takeBlock hpc hrunning => exact ⟨h.owns, nofun, h.stopping⟩
  | request hpc => exact ⟨h.owns, nofun, h.stopping⟩
  | acquireShared hpc hadmits =>
    refine ⟨fun t ht => ?_, fun _ => List.mem_cons_self, h.stopping⟩
    have howns := h.owns t ht
    cases t with
    | task n => exact absurd howns (by rw [Stopper.Owns, hadmits.1]; exact nofun)
    | stop => exact List.mem_cons_of_mem _ howns
  | releaseShared hpc =>
    exact ⟨fun t ht => (h.owns t ht).unlockShared, nofun, h.stopping⟩
  | finishBlock hpc => exact ⟨h.owns, nofun, h.stopping⟩
  | exit hpc hstate => exact ⟨h.owns, nofun, h.stopping⟩

/-- What the threads know holds in every run. -/
theorem Linked.of_reachable (h : (system writersFirst).Reachable s) : s.Linked :=
  h.invariant (I := Linked) (fun _ hinit => Linked.init hinit) fun _ _ _ hs hstep => hs.step hstep

/-! ## Runs without a circle -/

/-- The packet thread has no block at hand. -/
def BetweenBlocks (s : FilterRestart) : Prop := s.packetThread = .idle ∨ s.packetThread = .exited

/-- The stopper can wait for the packet thread: it has no block at hand, or the stopper is `stop`
and nobody's request keeps the packet thread from sharing the lock with it. -/
def CanJoin (writersFirst : Bool) (t : Stopper) (s : FilterRestart) : Prop :=
  s.BetweenBlocks ∨ (t = .stop ∧ (writersFirst = true → s.lock.waiting = []))

/-- A stopper calls `stop_filter` only when it can wait for the packet thread, and where exclusive
requests go first, no task makes one while `stop` waits for a packet thread with a block at hand. -/
def Safe (writersFirst : Bool) (s : FilterRestart) : Event → Prop
  | .stopFilter t => s.filterState = .running → s.CanJoin writersFirst t
  | .call (.task _) => writersFirst = true → s.stopperPc .stop = .joins → s.BetweenBlocks
  | _ => True

/-- Whoever waits for the packet thread can. -/
def NoCircle (writersFirst : Bool) (s : FilterRestart) : Prop :=
  ∀ t, s.stopperPc t = .joins → s.CanJoin writersFirst t

/-- A stopper that moves on to anything but the wait, and takes nothing from the others. -/
theorem NoCircle.of_move {pc : StopperPc} {lock : SharedMutex LockUser} {filterState : FilterState}
    {packetThread : PacketPc} (hpc : pc ≠ .joins)
    (hothers : ∀ t', t' ≠ t → s.stopperPc t' = .joins →
      CanJoin writersFirst t' ⟨lock, filterState, packetThread, (s.moveTo t pc).stopperPc⟩) :
    NoCircle writersFirst ⟨lock, filterState, packetThread, (s.moveTo t pc).stopperPc⟩ := by
  intro t' ht'
  by_cases heq : t' = t
  · subst heq
    rw [show (s.moveTo t' pc).stopperPc t' = pc from moveTo_self] at ht'
    exact absurd ht' hpc
  · rw [show (s.moveTo t pc).stopperPc t' = s.stopperPc t' from moveTo_of_ne heq] at ht'
    exact hothers t' heq ht'

/-- While the packet thread has a block at hand, only `stop` waits for it, and shares the lock. -/
theorem CanJoin.of_busy (h : s.CanJoin writersFirst t) (hbusy : ¬ s.BetweenBlocks)
    (hwaiting : r.lock.waiting = s.lock.waiting) : r.CanJoin writersFirst t := by
  obtain ⟨hstop, hnone⟩ := h.resolve_left hbusy
  exact .inr ⟨hstop, fun hw => by rw [hwaiting]; exact hnone hw⟩

/-- A safe step closes no circle. -/
theorem NoCircle.step (hlinked : s.Linked) (h : s.NoCircle writersFirst)
    (hsafe : s.Safe writersFirst e) (hstep : Step writersFirst s e r) :
    r.NoCircle writersFirst := by
  cases hstep with
  | callTask hpc =>
    refine NoCircle.of_move nofun fun t' _ ht' => ?_
    rcases h t' ht' with hbetween | ⟨rfl, hnone⟩
    · exact .inl hbetween
    · cases writersFirst with
      | true => exact .inl (hsafe rfl ht')
      | false => exact .inr ⟨rfl, nofun⟩
  | callStop hpc => exact NoCircle.of_move nofun fun t' _ ht' => h t' ht'
  | acquireTask hpc hfree =>
    refine NoCircle.of_move nofun fun t' _ ht' => ?_
    exact absurd (hlinked.owns t' (.inr (.inl ht'))).holds hfree.not_holds
  | acquireStop hpc hadmits => exact NoCircle.of_move nofun fun t' _ ht' => h t' ht'
  | @stopFilter t hpc =>
    unfold FilterRestart.stopFilter
    split
    next hrunning =>
      intro t' ht'
      by_cases heq : t' = t
      · subst heq
        exact hsafe hrunning
      · rw [show _ = s.stopperPc t' from moveTo_of_ne heq] at ht'
        exact h t' ht'
    next => exact NoCircle.of_move nofun fun t' _ ht' => h t' ht'
  | joined hpc hexited => exact NoCircle.of_move nofun fun t' _ ht' => h t' ht'
  | @finishTask n restarted hpc =>
    have hin : (s.stopperPc (.task n)).InLock := .inr (.inr hpc)
    obtain ⟨s', hs', -, hpcs, -⟩ := finishTask_eq (s := s) n restarted
    rw [hs']
    refine NoCircle.of_move (s := s') nofun fun t' hne ht' => ?_
    rw [hpcs] at ht'
    exact absurd (hlinked.eq_of_inLock hin (.inr (.inl ht'))) hne
  | finishStop hpc => exact NoCircle.of_move nofun fun t' _ ht' => h t' ht'
  | takeBlock hpc hrunning =>
    intro t ht
    rw [hlinked.stopping t ht] at hrunning
    cases hrunning
  | request hpc => exact fun t ht => (h t ht).of_busy (by simp [BetweenBlocks, hpc]) rfl
  | acquireShared hpc hadmits =>
    exact fun t ht => (h t ht).of_busy (by simp [BetweenBlocks, hpc]) rfl
  | releaseShared hpc => exact fun t ht => (h t ht).of_busy (by simp [BetweenBlocks, hpc]) rfl
  | finishBlock hpc => exact fun _ _ => .inl (.inl rfl)
  | exit hpc hstate => exact fun _ _ => .inl (.inr rfl)

theorem NoCircle.init (h : (system writersFirst).init s) : s.NoCircle writersFirst := by
  rcases h with rfl | rfl <;> exact nofun

/-- In a run of safe steps no thread holds the lock and waits for the packet thread while the packet
thread waits for the lock. -/
theorem no_deadlock (h : ((system writersFirst).restrict (Safe writersFirst)).Reachable s) :
    ¬ s.Deadlocked writersFirst := by
  obtain ⟨hlinked, hnocircle⟩ : s.Linked ∧ s.NoCircle writersFirst :=
    h.restrict_invariant (I := fun s => s.Linked ∧ s.NoCircle writersFirst)
      (fun _ hinit => ⟨Linked.init hinit, NoCircle.init hinit⟩)
      fun _ _ _ hs hsafe hstep => ⟨hs.1.step hstep, hs.2.step hs.1 hsafe hstep⟩
  rintro ⟨⟨t, hjoins, -⟩, hpacket, hwaits⟩
  have howns : t.Owns s.lock := hlinked.owns t (.inr (.inl hjoins))
  rcases hnocircle t hjoins with (hidle | hexited) | ⟨rfl, hnone⟩
  · cases hidle.symm.trans hpacket
  · cases hexited.symm.trans hpacket
  · exact hwaits ⟨SharedMutex.exclusive_of_mem howns, hnone⟩

/-! ## Unsafe steps -/

variable (writersFirst) in
/-- A packet thread with a block at hand comes to ask for the lock, while the stoppers stand. -/
theorem steps_to_requests (hbusy : ¬ s.BetweenBlocks) : ∃ q, (system writersFirst).Steps s q ∧
    q.packetThread = .requests ∧ q.stopperPc = s.stopperPc ∧ q.lock.waiting = s.lock.waiting ∧
    ∀ t : Stopper, t.Owns s.lock → t.Owns q.lock := by
  cases hpc : s.packetThread with
  | exited => exact absurd (.inr hpc) hbusy
  | idle => exact absurd (.inl hpc) hbusy
  | processes =>
    exact ⟨_, (System.Steps.refl s).snoc (M := system writersFirst) (.request hpc), rfl, rfl, rfl,
      fun _ howns => howns⟩
  | requests => exact ⟨s, System.Steps.refl s, hpc, rfl, rfl, fun _ howns => howns⟩
  | holds =>
    have hrelease := (System.Steps.refl s).snoc (M := system writersFirst) (.releaseShared hpc)
    exact ⟨_, hrelease.snoc (M := system writersFirst) (.request rfl), rfl, rfl, rfl,
      fun _ howns => howns.unlockShared⟩

/-- A stopper that waits for the packet thread and cannot is in a circle once the packet thread asks
for the lock. -/
theorem deadlocks_of_joins (hlinked : s.Linked) (hjoins : s.stopperPc t = .joins)
    (hcannot : ¬ s.CanJoin writersFirst t) :
    ∃ q, (system writersFirst).Steps s q ∧ q.Deadlocked writersFirst := by
  have howns : t.Owns s.lock := hlinked.owns t (.inr (.inl hjoins))
  obtain ⟨q, hrun, hrequests, hpcs, hwaiting, hkeeps⟩ :=
    steps_to_requests writersFirst fun hbetween => hcannot (.inl hbetween)
  refine ⟨q, hrun, ⟨t, by rw [hpcs]; exact hjoins, (hkeeps t howns).holds⟩, hrequests, ?_⟩
  intro hadmits
  cases t with
  | task n => cases (hkeeps _ howns).symm.trans hadmits.1
  | stop => exact hcannot (.inr ⟨rfl, fun hw => by rw [← hwaiting]; exact hadmits.2 hw⟩)

/-- After every unsafe step of a run some thread can come to hold the lock and wait for the packet
thread while the packet thread waits for the lock. -/
theorem unsafe_deadlocks (h : (system writersFirst).Reachable s)
    (hstep : Step writersFirst s e r) (hcond : ¬ s.Safe writersFirst e) :
    ∃ q, (system writersFirst).Steps r q ∧ q.Deadlocked writersFirst := by
  have hlinked : r.Linked := (Linked.of_reachable h).step hstep
  cases hstep with
  | @stopFilter t hpc =>
    have hrunning : s.filterState = .running :=
      Classical.byContradiction fun hnot => hcond fun hrunning => absurd hrunning hnot
    have hafter : s.stopFilter t = { s.moveTo t .joins with filterState := .stopping } :=
      if_pos hrunning
    rw [hafter] at hlinked ⊢
    exact deadlocks_of_joins hlinked moveTo_self fun hcan => hcond fun _ => hcan
  | @callTask n hpc =>
    obtain ⟨hw, hjoins, hbusy⟩ : writersFirst = true ∧ s.stopperPc .stop = .joins ∧
        ¬ s.BetweenBlocks := by
      simpa only [Safe, not_forall, exists_prop] using hcond
    refine deadlocks_of_joins (t := .stop) hlinked ?_ ?_
    · have hne : Stopper.stop ≠ .task n := nofun
      show (s.moveTo (.task n) .requests).stopperPc .stop = .joins
      rw [moveTo_of_ne hne, hjoins]
    · rintro (hbetween | ⟨-, hnone⟩)
      · exact hbusy hbetween
      · exact List.cons_ne_nil _ _ (hnone hw)
  | _ => exact absurd trivial hcond

/-! ## A run -/

namespace RestartRun

/-- The filter is running. -/
def started : FilterRestart := { filterState := .running, packetThread := .idle }

/-- The packet thread has a block at hand. -/
def withBlock : FilterRestart := { started with packetThread := .processes }

/-- A task asks for the lock. -/
def asked (s : FilterRestart) : FilterRestart :=
  { s.moveTo (.task 0) .requests with lock := s.lock.await (.stopper (.task 0)) }

/-- A task is given the lock. -/
def locked (s : FilterRestart) (h : s.lock.Free) : FilterRestart :=
  { s.moveTo (.task 0) .holds with lock := s.lock.lock (.stopper (.task 0)) h }

/-- A task has the lock, and the packet thread no block. -/
def lockedIdle : FilterRestart := locked (asked started) ⟨rfl, rfl⟩

/-- A task has the lock, and the packet thread a block. -/
def lockedBusy : FilterRestart := locked (asked withBlock) ⟨rfl, rfl⟩

theorem lockedIdle_reachable : ((system true).restrict (Safe true)).Reachable lockedIdle := by
  have hinit : ((system true).restrict (Safe true)).Reachable started := .init (.inl rfl)
  have hasked : ((system true).restrict (Safe true)).Reachable (asked started) :=
    hinit.restrict_snoc (M := system true) (.callTask rfl) nofun
  exact hasked.restrict_snoc (M := system true) (.acquireTask rfl ⟨rfl, rfl⟩) trivial

theorem lockedBusy_reachable (writersFirst : Bool) :
    (system writersFirst).Reachable lockedBusy := by
  have hinit : (system writersFirst).Reachable started := .init (.inl rfl)
  have hblock : (system writersFirst).Reachable withBlock := hinit.snoc (.takeBlock rfl rfl)
  have hasked : (system writersFirst).Reachable (asked withBlock) := hblock.snoc (.callTask rfl)
  exact hasked.snoc (.acquireTask rfl ⟨rfl, rfl⟩)

end RestartRun

open RestartRun in
theorem no_deadlock_of_idle : ¬ (lockedIdle.stopFilter (.task 0)).Deadlocked true :=
  no_deadlock (lockedIdle_reachable.restrict_snoc (M := system true) (.stopFilter rfl)
    fun _ => .inl (.inl rfl))

open RestartRun in
/-- Whether exclusive requests go first or not: a task that has the lock stops the filter while the
packet thread is in the callback, and the packet thread then asks for the lock. -/
theorem restart_deadlocks :
    ¬ ∃ writersFirst, ∀ s, (system writersFirst).Reachable s → ¬ s.Deadlocked writersFirst := by
  rintro ⟨writersFirst, hclaim⟩
  have hreach := lockedBusy_reachable writersFirst
  have hstep : Step writersFirst lockedBusy (.stopFilter (.task 0))
      (lockedBusy.stopFilter (.task 0)) := .stopFilter rfl
  have hcond : ¬ lockedBusy.Safe writersFirst (.stopFilter (.task 0)) := by
    intro hsafe
    rcases hsafe rfl with (hidle | hexited) | ⟨hstop, -⟩
    · cases hidle
    · cases hexited
    · cases hstop
  obtain ⟨q, hrun, hdeadlock⟩ := unsafe_deadlocks hreach hstep hcond
  obtain ⟨s₀, hinit, hsteps⟩ := hreach.snoc (M := system writersFirst) hstep
  exact hclaim q ⟨s₀, hinit, hsteps.trans hrun⟩ hdeadlock

end FilterRestart

end CutieProxy
