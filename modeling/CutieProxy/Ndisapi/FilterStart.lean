import CutieProxy.Ndisapi.PacketPipeline

/-!
# Starting the packet filter

`init_filter` pushes ten new blocks to the read queue and sets the packet event of the adapter;
`start_filter` sets the state to `starting` before it calls it, and to `running` after. When
`init_filter` fails nothing sets the state back, and what was pushed before a `bad_alloc` stays in
the read queue (`start_recovers_iff`, `failed_start_is_final`). A filter that runs has the ten
blocks of its start and no others, whatever happened before (`Circulates`).
-/

namespace CutieProxy

open Transition

universe u

variable {β : Type u}

namespace PacketBlock

variable {f : PacketFunctions β} {b : PacketBlock β} {n : Nat}

/-- A block stays the one that was allocated when its packets are processed. -/
theorem start_processPacket (i : Nat) : (b.processPacket f n i).start = b.start := by
  unfold processPacket
  dsimp only
  split <;> rfl

theorem start_processPackets : (b.processPackets f n).start = b.start := by
  have hfold (l : List Nat) (c : PacketBlock β) :
      (l.foldl (processPacket f n) c).start = c.start := by
    induction l generalizing c with
    | nil => rfl
    | cons i l ih =>
      rw [List.foldl_cons, ih]
      exact start_processPacket i
  exact hfold _ b

end PacketBlock

namespace QueuedPacketFilter

variable [Inhabited β] {f : PacketFunctions β} {s r t : QueuedPacketFilter β} {e : FilterEvent β}
  {k : Stage} {b c : PacketBlock β}

/-- When the call of `start_filter` returns false the filter is stopped, with empty queues. -/
def Recovers (failure : Option InitFailure) (s : QueuedPacketFilter β) : Prop :=
  (s.startFilter failure).1 = false →
    (s.startFilter failure).2.filterState = .stopped ∧
      ∀ k, (s.startFilter failure).2.queue k = []

/-- The blocks that go around are the ten of the last start. -/
def Circulates (s : QueuedPacketFilter β) : Prop :=
  (s.ring.map fun b => (b.start, b.id)).Perm
    ((List.range maximumBlockNum).map fun i => (s.starts, i))

/-! ## The blocks of the last start -/

/-- Every block there is was allocated by the last start. -/
def Current (s : QueuedPacketFilter β) : Prop := ∀ b ∈ s.ring, b.start = s.starts

omit [Inhabited β] in
theorem Current.of_ring_eq (h : s.Current) (hring : r.ring = s.ring)
    (hstarts : r.starts = s.starts) : r.Current := by
  intro b hb
  rw [hstarts]
  exact h b (hring ▸ hb)

omit [Inhabited β] in
/-- A thread changes its block. -/
theorem Current.change (h : s.Current) (hheld : (s.worker k).held = [b])
    (hstart : c.start = b.start) (hring : r.ring = s.ahead k ++ [c] ++ s.behind k)
    (hstarts : r.starts = s.starts) : r.Current := by
  have hbefore : s.ring = s.ahead k ++ [b] ++ s.behind k := by rw [ring_eq s k, hheld]
  intro d hd
  rw [hstarts]
  rw [hring] at hd
  simp only [List.mem_append, List.mem_singleton] at hd
  have hkept (x : PacketBlock β) (hx : (x ∈ s.ahead k ∨ x = b) ∨ x ∈ s.behind k) :
      x.start = s.starts := by
    refine h x ?_
    rw [hbefore]
    simpa only [List.mem_append, List.mem_singleton] using hx
  rcases hd with (hd | rfl) | hd
  · exact hkept d (.inl (.inl hd))
  · rw [hstart]
    exact hkept b (.inl (.inr rfl))
  · exact hkept d (.inr hd)

omit [Inhabited β] in
/-- A write thread hands over what its block requests. -/
theorem Current.write {l : Sink} (h : s.Current) (hpc : s.worker k = .works b) :
    ((s.send l b).setWorker k (.pushes (b.clearRequest l))).Current := by
  have hring : ((s.send l b).setWorker k (.pushes (b.clearRequest l))).ring =
      s.ahead k ++ [b.clearRequest l] ++ s.behind k := by
    cases k <;> exact ring_setWorker ..
  exact h.change (b := b) (c := b.clearRequest l) (by rw [hpc]; rfl) rfl hring rfl

omit [Inhabited β] in
theorem starts_notify : (s.notify k).starts = s.starts := by
  unfold notify
  split <;> rfl

omit [Inhabited β] in
theorem ring_notify : (s.notify k).ring = s.ring := by
  unfold notify
  split
  · next hasleep => exact ring_setWorker_of_held (by rw [hasleep]; rfl)
  · rfl

omit [Inhabited β] in
/-- The block that is pushed stays in the ring. -/
theorem Current.push (h : s.Current) (hpc : s.worker k = .pushes b) : (s.push k b).Current := by
  have hstarts : (s.push k b).starts = s.starts := starts_notify
  by_cases hk : k = .writeAdapter
  · subst hk
    obtain ⟨l, hring, hring'⟩ := ring_push_writeAdapter hpc
    intro c hc
    rw [hstarts]
    refine h c ?_
    rw [hring'] at hc
    rw [hring]
    simpa [or_comm] using hc
  · exact h.of_ring_eq (ring_push hpc hk) hstarts

omit [Inhabited β] in
/-- The blocks of a filter whose threads have returned are those of its queues. -/
theorem ring_of_exited (hexited : ∀ k, s.worker k = .exited)
    (hempty : ∀ k, k ≠ .read → s.queue k = []) : s.ring = s.queue .read := by
  simp [ring, located, hexited, hempty, WorkerPc.held]

/-- Every step keeps the blocks of the last start, or is a start. -/
theorem Current.step (hjoined : s.Joined) (h : s.Current) (hstep : Step f s e r) : r.Current := by
  have hafter := hjoined.step hstep
  cases hstep with
  | startFilter hstopped =>
    intro b hb
    rw [ring_started (hjoined.emptied hstopped)] at hb
    obtain ⟨i, -, rfl⟩ := List.mem_map.mp hb
    rfl
  | startFails failure hstopped =>
    have hempty := hjoined.emptied hstopped
    obtain ⟨n, hn⟩ := initFilter_failed failure (s := s.starting) hempty
    rw [hn]
    have hexited (l : Stage) : s.worker l = .exited := hjoined.resting (.inl hstopped) l
    intro b hb
    have hqueued : b ∈ (List.range n).map (PacketBlock.allocated (s.starts + 1)) := by
      rw [ring_of_exited (s := s.starting.setQueue .read _) hexited fun l hl => ?_] at hb
      · exact hb
      · show Function.update s.queue .read _ l = []
        rw [Function.update_of_ne hl]
        exact hempty l
    obtain ⟨i, -, rfl⟩ := List.mem_map.mp hqueued
    rfl
  | clear hpc =>
    intro b hb
    rw [ring_of_exited (hafter.resting (.inl rfl)) fun _ _ => rfl] at hb
    cases hb
  | stopFilter | signal | join | driverSignals => exact h
  | notifyAll => exact h.of_ring_eq (ring_notify (s := s)) starts_notify
  | wakes hpc | loop hpc | leave hpc | sleep hpc =>
    exact h.of_ring_eq (ring_setWorker_of_held (by rw [hpc]; rfl)) rfl
  | take hpc hqueue => exact h.of_ring_eq (ring_take (held_of_enters hpc) hqueue) rfl
  | quit hpc | check hpc =>
    exact h.of_ring_eq (ring_setWorker_of_held (by rw [held_of_enters hpc]; rfl)) rfl
  | @awaitEvent b hpc =>
    exact h.of_ring_eq (ring_setWorker_of_held (k := .read) (w := .reads b) (by rw [hpc]; rfl)) rfl
  | readFails hpc =>
    refine h.of_ring_eq (ring_setWorker_of_held ?_) rfl
    rw [hpc]
    split <;> rfl
  | @readPackets b batch hpc =>
    exact h.change (b := b) (c := b.readPackets batch) (by rw [hpc]; rfl) rfl
      (ring_setWorker s .read (.pushes (b.readPackets batch))) rfl
  | @process b hpc =>
    exact h.change (k := .process) (b := b) (by rw [hpc]; rfl) PacketBlock.start_processPackets
      (ring_setWorker s .process (.pushes (b.processPackets f s.packetsProcessed))) rfl
  | writeMstcp hpc | writeAdapter hpc => exact h.write hpc
  | push hpc => exact h.push hpc

theorem Current.of_reachable (h : (system f).Reachable s) : s.Current := by
  have hboth : s.Joined ∧ s.Current := by
    refine h.invariant (I := fun s => s.Joined ∧ s.Current) ?_ fun _ _ _ ⟨hjoined, hs⟩ hstep =>
      ⟨hjoined.step hstep, hs.step hjoined hstep⟩
    rintro s rfl
    exact ⟨Joined.of_reachable (f := f) (.init rfl), nofun⟩
  exact hboth.2

/-- A running filter has the blocks of its start. -/
theorem circulates_of_reachable (h : (system f).Reachable s) (hrun : s.filterState = .running) :
    s.Circulates := by
  have hblocks := (Accounted.of_reachable h hrun).blocks
  have hcurrent : (s.ring.map fun b => (b.start, b.id)) =
      (s.ring.map PacketBlock.id).map fun i => (s.starts, i) := by
    rw [List.map_map]
    refine List.map_congr_left fun b hb => ?_
    rw [Current.of_reachable h b hb]
    rfl
  unfold Circulates
  rw [hcurrent]
  exact hblocks.map _

/-! ## A start that fails -/

/-- A `start_filter` whose `init_filter` fails leaves the state at `starting`. -/
theorem startFilter_failed (failure : InitFailure) (hstopped : s.filterState = .stopped) :
    s.startFilter (some failure) = (false, (s.starting.initFilter (some failure)).2) := by
  unfold startFilter
  rw [if_neg (fun hne => hne hstopped)]
  cases failure <;> rfl

theorem startFilter_succeeds (hstopped : s.filterState = .stopped) :
    s.startFilter none = (true, s.started) := by
  unfold startFilter
  rw [if_neg (fun hne => hne hstopped)]
  rfl

/-- A filter that is left at `starting` stays there. -/
theorem starting_step (hjoined : s.Joined) (hstarting : s.filterState = .starting)
    (hstep : Step f s e r) : r.filterState = .starting := by
  cases hstep with
  | startFilter hstate | startFails _ hstate | stopFilter hstate =>
    cases hstarting.symm.trans hstate
  | signal hpc | notifyAll hpc | join hpc | clear hpc =>
    cases hstarting.symm.trans (hjoined.stopping (by simp [hpc]))
  | driverSignals => exact hstarting
  | wakes hpc | loop hpc | leave hpc | sleep hpc | awaitEvent hpc | readPackets hpc
  | readFails hpc | process hpc | writeMstcp hpc | writeAdapter hpc | push hpc =>
    cases (hjoined.resting (.inr hstarting) _).symm.trans hpc
  | take hpc | quit hpc | check hpc =>
    rcases hpc with hpc | hpc <;> cases (hjoined.resting (.inr hstarting) _).symm.trans hpc

/-- After a failed start no later call of `start_filter` or `reconfigure` succeeds. -/
theorem failed_start_is_final (h : (system f).Reachable s) (hstopped : s.filterState = .stopped)
    (failure : InitFailure)
    (hsteps : (system f).Steps (s.startFilter (some failure)).2 t) :
    t.filterState = .starting ∧ (∀ o, t.startFilter o = (false, t)) ∧
      t.reconfigure = (false, t) := by
  have hfailed := h.snoc (M := system f) (.startFails failure hstopped)
  rw [startFilter_failed failure hstopped] at hsteps
  have hboth : t.Joined ∧ t.filterState = .starting := by
    refine hsteps.invariant (I := fun s => s.Joined ∧ s.filterState = .starting)
      (fun _ _ _ ⟨hjoined, hstarting⟩ hstep =>
        ⟨hjoined.step hstep, starting_step hjoined hstarting hstep⟩) ⟨?_, ?_⟩
    · exact Joined.of_reachable hfailed
    · exact filterState_initFilter (some failure) s.starting
  have hne : t.filterState ≠ .stopped := by
    rw [hboth.2]
    exact nofun
  refine ⟨hboth.2, fun o => ?_, ?_⟩
  · unfold startFilter
    rw [if_pos hne]
  · unfold reconfigure
    rw [if_pos hne]

/-- A call of `start_filter` on a stopped filter that returns false leaves it stopped, with empty
queues, just when it does not return false at all; and a filter that runs has the ten blocks of
its start. -/
theorem start_recovers_iff (h : (system f).Reachable s) :
    (s.filterState = .stopped → ∀ failure, s.Recovers failure ↔ failure = none) ∧
      (s.filterState = .running → s.Circulates) := by
  refine ⟨fun hstopped failure => ?_, circulates_of_reachable h⟩
  unfold Recovers
  cases failure with
  | none =>
    rw [startFilter_succeeds hstopped]
    exact iff_of_true nofun rfl
  | some failure =>
    rw [startFilter_failed failure hstopped]
    refine iff_of_false (fun hrecovers => ?_) nofun
    have hstate := (hrecovers rfl).1
    rw [filterState_initFilter] at hstate
    cases hstate

theorem start_recovers_iff_fresh :
    (∀ failure, ({} : QueuedPacketFilter Unit).Recovers failure ↔ failure = none) ∧
      fresh.Circulates :=
  ⟨(start_recovers_iff (f := {}) (.init rfl)).1 rfl,
    (start_recovers_iff (System.Reachable.snoc (M := system {}) (.init rfl) (.startFilter rfl))).2
      rfl⟩

/-- `bad_alloc` after three blocks: the state is `starting`, and they are in the read queue. -/
theorem start_does_not_recover : ¬ ∀ (f : PacketFunctions Unit) (s : QueuedPacketFilter Unit),
    (system f).Reachable s → s.filterState = .stopped → ∀ failure, s.Recovers failure := by
  intro hclaim
  have hrecovers := hclaim {} {} (.init rfl) rfl (some (.badAlloc ⟨3, by decide⟩))
  cases (hrecovers rfl).1

end QueuedPacketFilter

end CutieProxy
