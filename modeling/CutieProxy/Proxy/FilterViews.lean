import CutieProxy.Ndisapi.FilterStart
import CutieProxy.Proxy.FilterRestart
import CutieProxy.Proxy.RouterControl

/-!
# The packet filter and what the router sees of it

The router's control knows the filter by its state (`PacketFilter`), and the router's lock by its
state and the thread that calls the packet functions (`FilterRestart`). Both are views of the filter
with its four threads: `followed` says what each of its steps is to the control, `stopFilter_whole`
what a call of `stop_filter` that returned is to it, and `seen` that a run of the filter from one
start to the next is a run of the lock's model, whose stopper is in `stop_filter` when the filter
is.
-/

namespace CutieProxy

open Transition

universe u

variable {β : Type u} {f : PacketFunctions β} {q r : QueuedPacketFilter β}
  {e : FilterEvent β}

/-! ## The view of the router's control -/

/-- The calls of the router and the end of `stop_filter`, as the control models them. -/
def PacketFilter.follow (adapter : Nat) : FilterEvent β → PacketFilter → PacketFilter
  | .startFilter => startFilter true adapter
  | .startFails _ => startFilter false adapter
  | .stopFilter => beginStop
  | .clear => fun p => { p with filterState := .stopped }
  | _ => id

namespace QueuedPacketFilter

variable {p : PacketFilter} {k : Stage} {b : PacketBlock β}

theorem filterState_push : (q.push k b).filterState = q.filterState := filterState_notify

theorem stopPc_push : (q.push k b).stopPc = q.stopPc := stopPc_notify

/-- The filter and the control's view of it stay in step. -/
theorem followed [Inhabited β] (adapter : Nat) (hp : p.filterState = q.filterState)
    (hstep : Step f q e r) : (p.follow adapter e).filterState = r.filterState := by
  cases hstep with
  | startFilter hstopped =>
    rw [← hp] at hstopped
    simp [PacketFilter.follow, PacketFilter.startFilter, hstopped, started, runThreads]
  | startFails failure hstopped =>
    rw [← hp] at hstopped
    obtain ⟨queue, hinit⟩ := initFilter_eq (some failure) q.starting
    rw [hinit]
    simp [PacketFilter.follow, PacketFilter.startFilter, hstopped, starting, setQueue]
  | stopFilter hrunning =>
    rw [← hp] at hrunning
    simp [PacketFilter.follow, PacketFilter.beginStop, hrunning]
  | clear => rfl
  | notifyAll => exact hp.trans filterState_notify.symm
  | push =>
    rw [filterState_push]
    exact hp
  | _ => exact hp

/-- `start_filter` takes the filter where the control's `start_filter` takes its view. -/
theorem startFilter_followed [Inhabited β] (failure : Option InitFailure) (adapter : Nat)
    (hp : p.filterState = q.filterState) :
    (p.startFilter failure.isNone adapter).filterState =
      (q.startFilter failure).2.filterState := by
  by_cases hstopped : q.filterState = .stopped
  · cases failure with
    | none =>
      rw [startFilter_succeeds hstopped]
      exact followed adapter hp (Step.startFilter (f := {}) hstopped)
    | some failure =>
      rw [startFilter_failed failure hstopped]
      exact followed adapter hp (Step.startFails (f := {}) failure hstopped)
  · simp [PacketFilter.startFilter, startFilter, hp, hstopped]

/-- `reconfigure` takes the new interfaces just when the control's does. -/
theorem reconfigure_followed (bound : List NetworkAdapter) (hp : p.filterState = q.filterState) :
    p.reconfigure bound =
      if q.reconfigure.1 then { p with networkInterfaces := bound } else p := by
  by_cases hstopped : q.filterState = .stopped
  · simp [PacketFilter.reconfigure, reconfigure, hp, hstopped]
  · simp [PacketFilter.reconfigure, reconfigure, hp, hstopped]

/-- No call of `start_filter`. -/
def NoStart (_ : QueuedPacketFilter β) : FilterEvent β → Prop
  | .startFilter | .startFails _ => False
  | _ => True

/-- `stop_filter` is in progress, or has returned. -/
def Stops (q : QueuedPacketFilter β) : Prop :=
  q.stopPc ≠ .idle ∧ q.filterState = .stopping ∨ q.stopPc = .idle ∧ q.filterState = .stopped

/-- A stop goes on to its end, and nothing else happens to the state. -/
theorem Stops.step [Inhabited β] (h : q.Stops) (hnostart : q.NoStart e)
    (hstep : Step f q e r) : r.Stops := by
  cases hstep with
  | startFilter => exact hnostart.elim
  | startFails => exact hnostart.elim
  | stopFilter hrunning =>
    rcases h with ⟨-, hstate⟩ | ⟨-, hstate⟩ <;> cases hrunning.symm.trans hstate
  | signal hpc =>
    rcases h with ⟨-, hstate⟩ | ⟨hidle, -⟩
    · exact .inl ⟨nofun, hstate⟩
    · cases hpc.symm.trans hidle
  | @notifyAll k hpc =>
    rcases h with ⟨-, hstate⟩ | ⟨hidle, -⟩
    · refine .inl ⟨?_, filterState_notify.trans hstate⟩
      cases k <;> exact nofun
    · cases hpc.symm.trans hidle
  | @join k hpc _ =>
    rcases h with ⟨-, hstate⟩ | ⟨hidle, -⟩
    · refine .inl ⟨?_, hstate⟩
      cases k <;> exact nofun
    · cases hpc.symm.trans hidle
  | clear => exact .inr ⟨rfl, rfl⟩
  | push =>
    unfold Stops
    rw [filterState_push, stopPc_push]
    exact h
  | _ => exact h

/-- A call of `stop_filter` that has returned did what the control's `stop_filter` does. -/
theorem stopFilter_whole [Inhabited β] (hp : p.filterState = q.filterState)
    (hstop : Step f q .stopFilter r) {t : QueuedPacketFilter β}
    (hrun : ((system f).restrict NoStart).Steps r t) (hreturned : t.stopPc = .idle) :
    p.stopFilter.filterState = t.filterState := by
  cases hstop with
  | stopFilter hrunning =>
    have hstops : t.Stops := hrun.invariant (M := (system f).restrict NoStart)
      (fun _ _ _ hs ⟨hnostart, hstep⟩ => hs.step hnostart hstep) (.inl ⟨nofun, rfl⟩)
    rcases hstops with ⟨hbusy, -⟩ | ⟨-, hstate⟩
    · exact absurd hreturned hbusy
    · simp [PacketFilter.stopFilter, hp, hrunning, hstate]

end QueuedPacketFilter

/-! ## The view of the router's lock -/

/-- Where the packet thread of the lock's model is. -/
def WorkerPc.packetPc : WorkerPc β → PacketPc
  | .exited => .exited
  | .top | .enters | .checked | .asleep | .woken => .idle
  | .works _ | .reads _ | .pushes _ => .processes

namespace QueuedPacketFilter

/-- A notification does not move the packet thread of the lock's model. -/
theorem packetPc_notify (k l : Stage) :
    ((q.notify k).worker l).packetPc = (q.worker l).packetPc := by
  unfold notify
  split
  · next hasleep =>
    by_cases hl : l = k
    · subst hl
      simp [setWorker, hasleep, WorkerPc.packetPc]
    · simp [setWorker, hl]
  · rfl

end QueuedPacketFilter

namespace FilterRestart

variable {s : FilterRestart} {t : Stopper} {writersFirst : Bool}

/-- The lock's model is in step with the filter: its packet thread is where the process thread is,
and the stopper is before `stop_filter` while the filter runs, and in it while it stops. -/
structure Sees (t : Stopper) (q : QueuedPacketFilter β) (s : FilterRestart) : Prop where
  filterState : s.filterState = q.filterState
  packetThread : s.packetThread = (q.worker .process).packetPc
  before : q.filterState = .running → s.stopperPc t = .holds
  during : q.stopPc ≠ .idle → s.stopperPc t = .joins

/-- A step of the filter that the lock's model does not see. -/
theorem Sees.unseen (h : Sees t q s) (hstate : r.filterState = q.filterState)
    (hpc : (r.worker .process).packetPc = (q.worker .process).packetPc)
    (hstop : r.stopPc ≠ .idle → q.stopPc ≠ .idle) : Sees t r s := by
  refine ⟨h.filterState.trans hstate.symm, h.packetThread.trans hpc.symm, fun hrunning => ?_,
    fun hbusy => h.during (hstop hbusy)⟩
  rw [hstate] at hrunning
  exact h.before hrunning

/-- The process thread moves, and the packet thread with it. -/
theorem Sees.moves {pc : PacketPc} (h : Sees t q s) (hstate : r.filterState = q.filterState)
    (hpc : (r.worker .process).packetPc = pc) (hstop : r.stopPc = q.stopPc) :
    Sees t r { s with packetThread := pc } := by
  refine ⟨h.filterState.trans hstate.symm, hpc.symm, fun hrunning => ?_, fun hbusy => ?_⟩
  · rw [hstate] at hrunning
    exact h.before hrunning
  · rw [hstop] at hbusy
    exact h.during hbusy

/-- A thread that waits for a block has none at hand. -/
theorem packetPc_of_waits {k : Stage} (h : q.worker k = .enters ∨ q.worker k = .woken) :
    (q.worker k).packetPc = .idle := by
  rcases h with h | h <;> rw [h] <;> rfl

/-- A thread moves that is not the process thread, or moves to a place that is the same to the
lock. -/
theorem Sees.setWorker {k : Stage} {w : WorkerPc β} (h : Sees t q s)
    (hpc : k = .process → w.packetPc = (q.worker .process).packetPc) :
    Sees t (q.setWorker k w) s := by
  refine h.unseen rfl ?_ id
  by_cases hk : k = .process
  · subst hk
    simpa [QueuedPacketFilter.setWorker] using hpc rfl
  · simp [QueuedPacketFilter.setWorker, Ne.symm hk]

/-- A thread without a block goes on without one. -/
theorem Sees.waits {k : Stage} {w : WorkerPc β} (h : Sees t q s)
    (hpc : (q.worker k).packetPc = .idle) (hw : w.packetPc = .idle) :
    Sees t (q.setWorker k w) s := by
  refine h.setWorker fun hk => ?_
  subst hk
  exact hw.trans hpc.symm

/-- A thread without a block returns, and the packet thread with it if it is the process thread. -/
theorem Sees.exit {k : Stage} (h : Sees t q s) (hpc : (q.worker k).packetPc = .idle)
    (hstate : q.filterState ≠ .running) :
    ∃ s', (system writersFirst).Steps s s' ∧ Sees t (q.setWorker k .exited) s' := by
  by_cases hk : k = .process
  · subst hk
    rw [← h.packetThread] at hpc
    rw [← h.filterState] at hstate
    refine ⟨_, (System.Steps.refl s).snoc (Step.exit hpc hstate), ?_⟩
    exact h.moves rfl (by simp [QueuedPacketFilter.setWorker, WorkerPc.packetPc]) rfl
  · exact ⟨s, System.Steps.refl s, h.setWorker fun hprocess => absurd hprocess hk⟩

/-- Every step of the filter is one of the lock's model, or is nothing to it. -/
theorem Sees.step [Inhabited β] (h : Sees t q s) (hjoined : q.Joined) (hnostart : q.NoStart e)
    (hstep : QueuedPacketFilter.Step f q e r) :
    ∃ s', (system writersFirst).Steps s s' ∧ Sees t r s' := by
  have hunseen : Sees t r s → ∃ s', (system writersFirst).Steps s s' ∧ Sees t r s' :=
    fun hr => ⟨s, System.Steps.refl s, hr⟩
  cases hstep with
  | startFilter => exact hnostart.elim
  | startFails => exact hnostart.elim
  | stopFilter hrunning =>
    have hcall : (system writersFirst).step s (.stopFilter t) (s.stopFilter t) :=
      Step.stopFilter (h.before hrunning)
    have hruns : s.filterState = .running := h.filterState.trans hrunning
    rw [FilterRestart.stopFilter, if_pos hruns] at hcall
    refine ⟨_, (System.Steps.refl s).snoc hcall, rfl, h.packetThread, fun hagain => ?_, fun _ => ?_⟩
    · cases hagain
    · exact Function.update_self ..
  | signal hpc => exact hunseen (h.unseen rfl rfl fun _ hidle => by cases hpc.symm.trans hidle)
  | @notifyAll k hpc =>
    refine hunseen (h.unseen QueuedPacketFilter.filterState_notify
      (QueuedPacketFilter.packetPc_notify k .process) fun _ hidle => ?_)
    cases hpc.symm.trans hidle
  | join hpc => exact hunseen (h.unseen rfl rfl fun _ hidle => by cases hpc.symm.trans hidle)
  | clear hpc =>
    have hjoins : s.stopperPc t = .joins := h.during (by simp [hpc])
    have hexited : q.worker .process = .exited :=
      hjoined.exited .process (by simp [hpc, StopPc.joined, Stage.rank])
    have hthread : s.packetThread = .exited := by
      rw [h.packetThread, hexited]
      rfl
    refine ⟨_, (System.Steps.refl s).snoc (Step.joined hjoins hthread), rfl, h.packetThread,
      fun hruns => ?_, fun hbusy => absurd rfl hbusy⟩
    cases hruns
  | driverSignals => exact hunseen (h.unseen rfl rfl id)
  | wakes hpc => exact hunseen (h.waits (by rw [hpc]; rfl) rfl)
  | loop hpc => exact hunseen (h.waits (by rw [hpc]; rfl) rfl)
  | leave hpc hstate => exact h.exit (by rw [hpc]; rfl) hstate
  | @take k b queue hpc hqueue hstate =>
    have hset : Sees t (q.setQueue k queue) s := h.unseen rfl rfl id
    by_cases hk : k = .process
    · subst hk
      have hidle : s.packetThread = .idle := h.packetThread.trans (packetPc_of_waits hpc)
      have hruns : s.filterState = .running :=
        h.filterState.trans (hstate.resolve_right fun hread => by cases hread.1)
      refine ⟨_, (System.Steps.refl s).snoc (Step.takeBlock hidle hruns), ?_⟩
      exact h.moves rfl (by simp [QueuedPacketFilter.setWorker, WorkerPc.packetPc]) rfl
    · exact hunseen (hset.setWorker fun hprocess => absurd hprocess hk)
  | quit hpc hstate => exact h.exit (packetPc_of_waits hpc) hstate
  | check hpc => exact hunseen (h.waits (packetPc_of_waits hpc) rfl)
  | sleep hpc => exact hunseen (h.waits (by rw [hpc]; rfl) rfl)
  | awaitEvent => exact hunseen (h.unseen rfl (by simp [QueuedPacketFilter.setWorker]) id)
  | readPackets => exact hunseen (h.unseen rfl (by simp [QueuedPacketFilter.setWorker]) id)
  | readFails => exact hunseen (h.setWorker fun hk => by cases hk)
  | process hpc =>
    refine hunseen (h.unseen rfl ?_ id)
    rw [hpc]
    simp [QueuedPacketFilter.setWorker, WorkerPc.packetPc]
  | @writeMstcp b =>
    have hsend : Sees t (q.send .mstcp b) s := h.unseen rfl rfl id
    exact hunseen (hsend.setWorker fun hk => by cases hk)
  | @writeAdapter b =>
    have hsend : Sees t (q.send .adapter b) s := h.unseen rfl rfl id
    exact hunseen (hsend.setWorker fun hk => by cases hk)
  | @push k b hpc =>
    have hnotified : Sees t ((q.setQueue k.next (q.queue k.next ++ [b])).notify k.next) s :=
      h.unseen QueuedPacketFilter.filterState_notify (QueuedPacketFilter.packetPc_notify ..)
        fun hbusy => by rwa [QueuedPacketFilter.stopPc_notify] at hbusy
    by_cases hk : k = .process
    · subst hk
      have hbusy : s.packetThread = .processes := by
        rw [h.packetThread, hpc]
        rfl
      refine ⟨_, (System.Steps.refl s).snoc (Step.finishBlock hbusy), ?_⟩
      exact h.moves QueuedPacketFilter.filterState_push
        (by simp [QueuedPacketFilter.push, QueuedPacketFilter.setWorker, WorkerPc.packetPc])
        QueuedPacketFilter.stopPc_push
    · exact hunseen (hnotified.setWorker fun hprocess => absurd hprocess hk)

/-- `start_filter` keeps the lock's model in step with the filter. -/
theorem startFilter_seen [Inhabited β] (failure : Option InitFailure)
    (hstate : s.filterState = q.filterState)
    (hthread : s.packetThread = (q.worker .process).packetPc) :
    (s.startFilter failure.isNone).filterState = (q.startFilter failure).2.filterState ∧
      (s.startFilter failure.isNone).packetThread =
        ((q.startFilter failure).2.worker .process).packetPc := by
  by_cases hstopped : q.filterState = .stopped
  · cases failure with
    | none =>
      rw [QueuedPacketFilter.startFilter_succeeds hstopped]
      simp [startFilter, hstate, hstopped, QueuedPacketFilter.started,
        QueuedPacketFilter.runThreads, WorkerPc.packetPc]
    | some failure =>
      rw [QueuedPacketFilter.startFilter_failed failure hstopped]
      obtain ⟨queue, hinit⟩ := QueuedPacketFilter.initFilter_eq (some failure) q.starting
      rw [hinit]
      simp [startFilter, hstate, hstopped, hthread, QueuedPacketFilter.starting,
        QueuedPacketFilter.setQueue]
  · simp [startFilter, QueuedPacketFilter.startFilter, hstate, hstopped, hthread]

/-- A router that was just started, and the stopper in its lock. -/
theorem exists_holds (writersFirst : Bool) (t : Stopper) :
    ∃ s, (system writersFirst).Reachable s ∧ s.filterState = .running ∧
      s.packetThread = .idle ∧ s.stopperPc t = .holds := by
  have hinit : (system writersFirst).Reachable { filterState := .running, packetThread := .idle } :=
    .init (.inl rfl)
  cases t with
  | task n =>
    have hcall := hinit.snoc (M := system writersFirst) (Step.callTask (n := n) rfl)
    have hlock := hcall.snoc (M := system writersFirst)
      (Step.acquireTask (n := n) (Function.update_self ..) ⟨rfl, rfl⟩)
    exact ⟨_, hlock, rfl, rfl, Function.update_self ..⟩
  | stop =>
    have hcall := hinit.snoc (M := system writersFirst) (Step.callStop rfl)
    have hlock := hcall.snoc (M := system writersFirst)
      (Step.acquireStop rfl ⟨rfl, fun _ => rfl⟩)
    exact ⟨_, hlock, rfl, rfl, rfl⟩

/-- What the filter does from a start to the next one is, to the router's lock, a run of its model
in which the stopper has the lock. -/
theorem seen [Inhabited β] {q₀ : QueuedPacketFilter β}
    (hreach : (QueuedPacketFilter.system f).Reachable q₀) (hstopped : q₀.filterState = .stopped)
    (hrun : ((QueuedPacketFilter.system f).restrict QueuedPacketFilter.NoStart).Steps q₀.started q)
    (writersFirst : Bool) (t : Stopper) :
    ∃ s, (system writersFirst).Reachable s ∧ Sees t q s := by
  have hstarted := hreach.snoc (M := QueuedPacketFilter.system f) (.startFilter hstopped)
  have hidle : q₀.stopPc = .idle :=
    (QueuedPacketFilter.Joined.of_reachable hreach).idle hstopped
  have hall : q.Joined ∧ ∃ s, (system writersFirst).Reachable s ∧ Sees t q s := by
    refine hrun.invariant (M := (QueuedPacketFilter.system f).restrict QueuedPacketFilter.NoStart)
      (I := fun q => q.Joined ∧ ∃ s, (system writersFirst).Reachable s ∧ Sees t q s)
      (fun _ _ _ ⟨hjoined, s, hs, hsees⟩ ⟨hnostart, hstep⟩ => ?_) ⟨.of_reachable hstarted, ?_⟩
    · obtain ⟨s', hsteps, hsees'⟩ := hsees.step hjoined hnostart hstep
      obtain ⟨s₀, hinit, hbefore⟩ := hs
      exact ⟨hjoined.step hstep, s', ⟨s₀, hinit, hbefore.trans hsteps⟩, hsees'⟩
    · obtain ⟨s, hs, hstate, hthread, hholds⟩ := exists_holds writersFirst t
      exact ⟨s, hs, hstate, hthread, fun _ => hholds, fun hbusy => absurd hidle hbusy⟩
  exact hall.2

/-- A task that stops the filter while the process thread has a block may wait for ever, as far as
the router's lock can tell. -/
theorem deadlocks_of_works [Inhabited β] {q₀ : QueuedPacketFilter β}
    (hreach : (QueuedPacketFilter.system f).Reachable q₀) (hstopped : q₀.filterState = .stopped)
    (hrun : ((QueuedPacketFilter.system f).restrict QueuedPacketFilter.NoStart).Steps q₀.started q)
    (hrunning : q.filterState = .running) {b : PacketBlock β}
    (hworks : q.worker .process = .works b) (writersFirst : Bool) (n : Nat) :
    ∃ s s', (system writersFirst).Reachable s ∧ Sees (.task n) q s ∧
      (system writersFirst).Steps s s' ∧ s'.Deadlocked writersFirst := by
  obtain ⟨s, hs, hsees⟩ := seen hreach hstopped hrun writersFirst (.task n)
  have hbusy : s.packetThread = .processes := by
    rw [hsees.packetThread, hworks]
    rfl
  have hcall : Step writersFirst s (.stopFilter (.task n)) (s.stopFilter (.task n)) :=
    .stopFilter (hsees.before hrunning)
  have hunsafe : ¬ s.Safe writersFirst (.stopFilter (.task n)) := by
    intro hsafe
    rcases hsafe (hsees.filterState.trans hrunning) with (hidle | hexited) | ⟨hstop, -⟩
    · cases hidle.symm.trans hbusy
    · cases hexited.symm.trans hbusy
    · cases hstop
  obtain ⟨s', hsteps, hdeadlock⟩ := unsafe_deadlocks hs hcall hunsafe
  exact ⟨s, s', hs, hsees, ((System.Steps.refl s).snoc hcall).trans hsteps, hdeadlock⟩

end FilterRestart

end CutieProxy
