import CutieProxy.Winsys.IoCompletionPort

/-!
# Callbacks of destroyed servers

`stop_socks5_proxy` destroys a server as soon as its own threads are joined, whatever the completion
port still holds for it, and the port keeps the callback. `never_called_late` says what keeps the
callback from being called afterwards: that no call of the server is outstanding and none of its
completions is in the port or in the hands of a thread when it is destroyed (`Servers.Sound`).
Without that the callback is called, if a thread of an active pool is there to take the completion
(`destroyed_early_called`).
-/

namespace CutieProxy

open Transition

namespace Servers

variable {s t : Servers} {e : Event} {i j n : Nat} {rest : Multiset ThreadPc}

/-- Every overlapped call of a server has ended, or is being handled. -/
structure Ended (i : Nat) (s : Servers) : Prop where
  outstanding : (s.server i).outstanding = 0
  queue : some i ∉ s.port.queue
  threads : ThreadPc.dequeued (some i) ∉ s.port.threads

/-- A server is destroyed only when its overlapped calls have ended. -/
def Sound (s : Servers) : Event → Prop
  | .destroy i => s.Ended i
  | _ => True

/-! ## Fields after a change -/

@[simp] theorem setPhase_outstanding {phase : ServerPhase} :
    ((s.setPhase i phase).server j).outstanding = (s.server j).outstanding := by
  rcases eq_or_ne j i with rfl | hj
  · simp [setPhase]
  · simp [setPhase, hj]

@[simp] theorem setOutstanding_phase :
    ((s.setOutstanding i n).server j).phase = (s.server j).phase := by
  rcases eq_or_ne j i with rfl | hj
  · simp [setOutstanding]
  · simp [setOutstanding, hj]

/-- A server that changes its phase. -/
theorem setPhase_phase {phase : ServerPhase} :
    ((s.setPhase i phase).server j).phase = if j = i then phase else (s.server j).phase := by
  rcases eq_or_ne j i with rfl | hj
  · simp [setPhase]
  · simp [setPhase, hj]

theorem setOutstanding_outstanding :
    ((s.setOutstanding i n).server j).outstanding =
      if j = i then n else (s.server j).outstanding := by
  rcases eq_or_ne j i with rfl | hj
  · simp [setOutstanding]
  · simp [setOutstanding, hj]

/-! ## Destroyed servers -/

/-- No callback was called late, and nothing is left of the calls of a destroyed server. -/
structure Quiet (s : Servers) : Prop where
  calledLate : s.calledLate = false
  ended : ∀ i, (s.server i).phase = .destroyed → s.Ended i

/-- A thread moves on without a completion of a server. -/
theorem Quiet.setThreads (h : s.Quiet) {threads : Multiset ThreadPc}
    (hsub : ∀ i, .dequeued (some i) ∈ threads → .dequeued (some i) ∈ s.port.threads) :
    (s.setThreads threads).Quiet := by
  refine ⟨h.calledLate, fun i hi => ?_⟩
  obtain ⟨hout, hqueue, hthreads⟩ := h.ended i hi
  exact ⟨hout, hqueue, fun hmem => hthreads (hsub i hmem)⟩

/-- A thread goes on without a completion of a server. -/
theorem Quiet.moveThread (h : s.Quiet) {pc pc' : ThreadPc} {rest : Multiset ThreadPc}
    (hthreads : s.port.threads = pc ::ₘ rest) (hpc : ∀ i, .dequeued (some i) ≠ pc') :
    (s.setThreads (pc' ::ₘ rest)).Quiet := by
  refine h.setThreads fun i hmem => ?_
  rw [hthreads]
  exact Multiset.mem_cons_of_mem ((Multiset.mem_cons.mp hmem).resolve_left (hpc i))

/-- A thread ends. -/
theorem Quiet.endThread (h : s.Quiet) {pc : ThreadPc} {rest : Multiset ThreadPc}
    (hthreads : s.port.threads = pc ::ₘ rest) : (s.setThreads rest).Quiet := by
  refine h.setThreads fun i hmem => ?_
  rw [hthreads]
  exact Multiset.mem_cons_of_mem hmem

/-- A server that was not destroyed moves to another phase. -/
theorem Quiet.setPhase (h : s.Quiet) {phase : ServerPhase}
    (hphase : phase = .destroyed → s.Ended i) :
    (s.setPhase i phase).Quiet := by
  refine ⟨h.calledLate, fun j hj => ?_⟩
  have hended : s.Ended j := by
    rw [setPhase_phase] at hj
    split at hj
    · next hji => exact hji ▸ hphase hj
    · exact h.ended j hj
  obtain ⟨hout, hqueue, hthreads⟩ := hended
  exact ⟨by rwa [setPhase_outstanding], hqueue, hthreads⟩

/-- A sound step keeps destroyed servers quiet. -/
theorem Quiet.step (h : s.Quiet) (hsound : s.Sound e) (hstep : Step s e t) : t.Quiet := by
  cases hstep with
  | startThreadPool n hactive =>
    refine ⟨h.calledLate, fun i hi => ?_⟩
    obtain ⟨hout, hqueue, hthreads⟩ := h.ended i hi
    refine ⟨hout, hqueue, fun hmem => ?_⟩
    rcases Multiset.mem_add.mp hmem with hmem | hmem
    · exact absurd (Multiset.eq_of_mem_replicate hmem) nofun
    · exact hthreads hmem
  | stopThreadPool hactive =>
    refine ⟨h.calledLate, fun i hi => ?_⟩
    obtain ⟨hout, hqueue, hthreads⟩ := h.ended i hi
    refine ⟨hout, fun hmem => ?_, hthreads⟩
    rcases List.mem_append.mp hmem with hmem | hmem
    · exact hqueue hmem
    · cases List.eq_of_mem_replicate hmem
  | dequeue hthreads hqueue =>
    refine ⟨h.calledLate, fun i hi => ?_⟩
    obtain ⟨hout, hnot, hidle⟩ := h.ended i hi
    rw [hqueue] at hnot
    rw [hthreads] at hidle
    refine ⟨hout, fun hmem => hnot (List.mem_cons_of_mem _ hmem), fun hmem => ?_⟩
    rcases Multiset.mem_cons.mp hmem with hkey | hmem
    · cases hkey
      exact hnot List.mem_cons_self
    · exact hidle (Multiset.mem_cons_of_mem hmem)
  | leave hthreads hactive | exit hthreads hactive => exact h.endThread hthreads
  | skip hthreads hactive | loop hthreads hactive => exact h.moveThread hthreads nofun
  | call hthreads hactive =>
    rename_i rest i
    have hlive : (s.server i).phase ≠ .destroyed := fun hphase =>
      (h.ended i hphase).threads (hthreads ▸ Multiset.mem_cons_self _ _)
    have hquiet : (s.setThreads (.calling i ::ₘ rest)).Quiet := h.moveThread hthreads nofun
    refine ⟨?_, fun j hj => ?_⟩
    · show (s.calledLate || (s.server i).phase == .destroyed) = false
      rw [h.calledLate, Bool.false_or]
      exact beq_false_of_ne hlive
    · obtain ⟨hout, hqueue, hidle⟩ := hquiet.ended j hj
      exact ⟨hout, hqueue, hidle⟩
  | callReturns hthreads => exact h.moveThread hthreads nofun
  | complete hout =>
    rename_i i n
    refine ⟨h.calledLate, fun j hj => ?_⟩
    have hphase : (s.server j).phase = .destroyed := by rwa [← setOutstanding_phase]
    obtain ⟨hzero, hqueue, hidle⟩ := h.ended j hphase
    have hji : j ≠ i := fun hji => by
      rw [hji, hout] at hzero
      cases hzero
    refine ⟨?_, fun hmem => ?_, hidle⟩
    · show ((s.setOutstanding i n).server j).outstanding = 0
      rw [setOutstanding_outstanding, if_neg hji, hzero]
    · rcases List.mem_append.mp hmem with hmem | hmem
      · exact hqueue hmem
      · cases List.mem_singleton.mp hmem
        exact hji rfl
  | issue hlive =>
    rename_i i
    refine ⟨h.calledLate, fun j hj => ?_⟩
    rw [setOutstanding_phase] at hj
    obtain ⟨hzero, hqueue, hidle⟩ := h.ended j hj
    have hji : j ≠ i := fun hji => by
      rw [← hji, hj] at hlive
      rcases hlive with h | h | ⟨h, -⟩ <;> cases h
    refine ⟨?_, hqueue, hidle⟩
    rw [setOutstanding_outstanding, if_neg hji, hzero]
  | start _ | stop _ | stopped _ => exact h.setPhase nofun
  | destroy hphase => exact h.setPhase fun _ => hsound

/-- In runs that destroy a server only when its overlapped calls have ended, no callback is called
after its server was destroyed. -/
theorem never_called_late (h : (system.restrict Sound).Reachable s) : s.calledLate = false := by
  have hquiet : s.Quiet := h.restrict_invariant
    (fun s hs => ⟨by cases hs; rfl, fun i hi => by cases hs; cases hi⟩)
    fun _ _ _ hs hsound hstep => hs.step hsound hstep
  exact hquiet.calledLate

/-! ## A server that is destroyed too early -/

/-- A waiting thread handles the oldest completion and waits again. -/
theorem lap {key : Option Nat} {queue : List (Option Nat)} (hactive : s.port.active = true)
    (hthreads : s.port.threads = .waiting ::ₘ rest) (hqueue : s.port.queue = key :: queue) :
    ∃ r, system.Steps s r ∧ r.port.active = true ∧ r.port.threads = .waiting ::ₘ rest ∧
      r.port.queue = queue ∧ r.server = s.server := by
  have hdequeue := System.Steps.snoc (M := system) (.refl s) (.dequeue hthreads hqueue)
  cases key with
  | none =>
    have hskip := hdequeue.snoc (M := system) (.skip rfl hactive)
    have hloop := hskip.snoc (M := system) (.loop rfl hactive)
    exact ⟨_, hloop, hactive, rfl, rfl, rfl⟩
  | some j =>
    have hcall := hdequeue.snoc (M := system) (.call rfl hactive)
    have hreturn := hcall.snoc (M := system) (.callReturns rfl)
    have hloop := hreturn.snoc (M := system) (.loop rfl hactive)
    exact ⟨_, hloop, hactive, rfl, rfl, rfl⟩

/-- A thread that has taken a completion of a destroyed server calls its callback. -/
theorem called_of_dequeued (hactive : s.port.active = true)
    (hthreads : s.port.threads = .dequeued (some i) ::ₘ rest)
    (hphase : (s.server i).phase = .destroyed) :
    ∃ r, system.Steps s r ∧ r.calledLate = true := by
  have hcall := System.Steps.snoc (M := system) (.refl s) (.call hthreads hactive)
  refine ⟨_, hcall, ?_⟩
  show (s.calledLate || (s.server i).phase == .destroyed) = true
  rw [hphase]
  exact Bool.or_true _

/-- A waiting thread of an active pool comes to every completion in the queue. -/
theorem called_of_queued {before after : List (Option Nat)} (hactive : s.port.active = true)
    (hthreads : s.port.threads = .waiting ::ₘ rest)
    (hqueue : s.port.queue = before ++ some i :: after)
    (hphase : (s.server i).phase = .destroyed) :
    ∃ r, system.Steps s r ∧ r.calledLate = true := by
  induction before generalizing s with
  | nil =>
    have hdequeue := System.Steps.snoc (M := system) (.refl s) (.dequeue hthreads hqueue)
    obtain ⟨r, hrun, hlate⟩ := called_of_dequeued (s := { s with
      port := { s.port with threads := .dequeued (some i) ::ₘ rest, queue := [] ++ after } })
      hactive rfl hphase
    exact ⟨r, hdequeue.trans hrun, hlate⟩
  | cons key before ih =>
    obtain ⟨u, hlap, hactive', hthreads', hqueue', hserver⟩ := lap hactive hthreads hqueue
    obtain ⟨r, hrun, hlate⟩ := ih hactive' hthreads' hqueue' (hserver ▸ hphase)
    exact ⟨r, hlap.trans hrun, hlate⟩

/-- When a server is destroyed before its overlapped calls have ended, a waiting thread of an active
pool can come to call its callback. -/
theorem destroyed_early_called (hstep : Step s (.destroy i) t) (hunsound : ¬ s.Sound (.destroy i))
    (hactive : s.port.active = true) (hwaiting : .waiting ∈ s.port.threads) :
    ∃ r, system.Steps t r ∧ r.calledLate = true := by
  obtain ⟨rest, hthreads⟩ := Multiset.exists_cons_of_mem hwaiting
  cases hstep with
  | destroy hidle =>
  have hphase : ((s.setPhase i .destroyed).server i).phase = .destroyed := by
    rw [setPhase_phase, if_pos rfl]
  by_cases hqueue : some i ∈ s.port.queue
  · obtain ⟨before, after, hsplit⟩ := List.append_of_mem hqueue
    exact called_of_queued hactive hthreads hsplit hphase
  by_cases htaken : .dequeued (some i) ∈ s.port.threads
  · obtain ⟨others, hthreads⟩ := Multiset.exists_cons_of_mem htaken
    exact called_of_dequeued hactive hthreads hphase
  cases hout : (s.server i).outstanding with
  | zero => exact absurd ⟨hout, hqueue, htaken⟩ hunsound
  | succ n =>
    have hleft : ((s.setPhase i .destroyed).server i).outstanding = n + 1 := by
      rw [setPhase_outstanding, hout]
    have hcomplete := System.Steps.snoc (M := system) (.refl _) (.complete hleft)
    have hphase' : (((s.setPhase i .destroyed).setOutstanding i n).server i).phase =
        .destroyed := by
      rw [setOutstanding_phase, hphase]
    obtain ⟨r, hrun, hlate⟩ := called_of_queued (s := { (s.setPhase i .destroyed).setOutstanding i n
      with port := { s.port with queue := s.port.queue ++ [some i] } }) hactive hthreads rfl hphase'
    exact ⟨r, hcomplete.trans hrun, hlate⟩

/-! ## Two runs -/

/-- A pool of one thread, and a server with one outstanding call. -/
def oneCall : Servers :=
  ({ port := { active := true, created := 1, threads := {.waiting} } : Servers }.setPhase 0
    .running).setOutstanding 0 1

theorem oneCall_reachable : (system.restrict Sound).Reachable oneCall := by
  have hinit : (system.restrict Sound).Reachable {} := System.Reachable.init rfl
  have hpool := hinit.restrict_snoc (Step.startThreadPool 1 rfl) trivial
  have hstart := hpool.restrict_snoc (Step.start (i := 0) rfl) trivial
  exact hstart.restrict_snoc (Step.issue (i := 0) (Or.inl rfl)) trivial

/-- The call is completed and handled before the server is stopped and destroyed. -/
theorem never_called_late_handled :
    ∃ s, (system.restrict Sound).Reachable s ∧ (s.server 0).phase = .destroyed ∧
      s.calledLate = false := by
  have hcomplete := oneCall_reachable.restrict_snoc (Step.complete (i := 0) rfl) trivial
  have hdequeue := hcomplete.restrict_snoc (@Step.dequeue _ 0 (some 0) [] rfl rfl) trivial
  have hcall := hdequeue.restrict_snoc (@Step.call _ 0 0 rfl rfl) trivial
  have hreturn := hcall.restrict_snoc (@Step.callReturns _ 0 0 rfl) trivial
  have hstop := hreturn.restrict_snoc (Step.stop (i := 0) rfl) trivial
  have hstopped := hstop.restrict_snoc (Step.stopped (i := 0) rfl) trivial
  have hdestroy := hstopped.restrict_snoc (Step.destroy (i := 0) rfl) ⟨rfl, nofun, by decide⟩
  exact ⟨_, hdestroy, rfl, never_called_late hdestroy⟩

/-- The server is stopped and destroyed while its call is outstanding: the completion that closing
its socket produces is dispatched to its callback. -/
theorem called_after_destruction : ∃ s, system.Reachable s ∧ s.calledLate = true := by
  have hstop := oneCall_reachable.of_restrict.snoc (Step.stop (i := 0) rfl)
  have hstopped := hstop.snoc (Step.stopped (i := 0) rfl)
  have hdestroy := hstopped.snoc (Step.destroy (i := 0) rfl)
  have hcomplete := hdestroy.snoc (Step.complete (i := 0) rfl)
  have hdequeue := hcomplete.snoc (@Step.dequeue _ 0 (some 0) [] rfl rfl)
  have hcall := hdequeue.snoc (@Step.call _ 0 0 rfl rfl)
  exact ⟨_, hcall, rfl⟩

end Servers

end CutieProxy
