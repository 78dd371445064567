import CutieProxy.Ndisapi.QueuedPacketFilter
import Mathlib.Data.List.Perm.Basic

/-!
# The four threads hand over what a loop would

While the filter is running, the blocks go around the queues in one ring (`ring`): a thread that
takes or pushes a block moves it along the ring and the order of the blocks stays. What a block's
counters say depends on the place it is at (`Prepared`). `Accounted` reads the packets off the ring:
those in the write requests are the next ones each sink gets, those in the blocks before the process
thread are the next ones it looks at. So the threads refine the loop `PacketFunctions.forwarded`,
which takes one packet at a time and hands it over at once.
-/

namespace CutieProxy

open Transition

universe u

variable {β : Type u}

/-! ## The loop -/

/-- Which packets go to which sink: to the adapter those that pass on their way out and those that
are reverted on their way in, to the protocol stack those that pass on their way in and those that
are reverted on their way out. The driver flags every packet with one of the two directions. -/
def GoesTo (action : PacketAction) (deviceFlags : Nat) : Sink → Prop
  | .adapter => action = .pass ∧ deviceFlags = packetFlagOnSend ∨
      action = .revert ∧ deviceFlags = packetFlagOnReceive
  | .mstcp => action = .pass ∧ deviceFlags ≠ packetFlagOnSend ∨
      action = .revert ∧ deviceFlags ≠ packetFlagOnReceive

instance (action : PacketAction) (deviceFlags : Nat) : DecidablePred (GoesTo action deviceFlags)
  | .adapter => inferInstanceAs (Decidable (_ ∨ _))
  | .mstcp => inferInstanceAs (Decidable (_ ∨ _))

/-- What the function for a packet's direction decides, and what it makes of the packet; a packet
there is no function for passes. -/
def PacketFunctions.decision (f : PacketFunctions β) (n : Nat) (p : CapturedPacket β) :
    PacketAction × CapturedPacket β :=
  ((if p.deviceFlags = packetFlagOnSend then f.outgoing else f.incoming).getD
    fun _ p => (.pass, p)) n p

/-- What comes to sink `k` when a loop takes the packets one by one and hands each over at once; `n`
packets were taken before. -/
def PacketFunctions.forwarded (f : PacketFunctions β) (k : Sink) :
    Nat → List (CapturedPacket β) → List (CapturedPacket β)
  | _, [] => []
  | n, p :: ps =>
    if GoesTo (f.decision n p).1 (f.decision n p).2.deviceFlags k then
      (f.decision n p).2 :: f.forwarded k (n + 1) ps
    else f.forwarded k (n + 1) ps

/-- The process thread decides as the loop. -/
theorem PacketFunctions.act_eq_decision (f : PacketFunctions β) (n : Nat) (p : CapturedPacket β) :
    f.act n p = f.decision n p := by
  unfold act decision
  cases if p.deviceFlags = packetFlagOnSend then f.outgoing else f.incoming <;> rfl

/-- The process thread places a packet in the request of the sink it goes to. -/
theorem sinkOf_eq_some_iff {action : PacketAction} {deviceFlags : Nat} {k : Sink} :
    sinkOf action deviceFlags = some k ↔ GoesTo action deviceFlags k := by
  cases action with
  | drop => cases k <;> simp [sinkOf, GoesTo]
  | pass =>
    by_cases hsend : deviceFlags = packetFlagOnSend <;> cases k <;> simp [sinkOf, GoesTo, hsend]
  | revert =>
    by_cases hreceive : deviceFlags = packetFlagOnReceive <;> cases k <;>
      simp [sinkOf, GoesTo, hreceive]

/-- The next packet of the loop, in terms of what the process thread does with it. -/
theorem PacketFunctions.forwarded_cons (f : PacketFunctions β) (k : Sink) (n : Nat)
    (p : CapturedPacket β) (ps : List (CapturedPacket β)) :
    f.forwarded k n (p :: ps) =
      if sinkOf (f.act n p).1 (f.act n p).2.deviceFlags = some k then
        (f.act n p).2 :: f.forwarded k (n + 1) ps
      else f.forwarded k (n + 1) ps := by
  simp only [sinkOf_eq_some_iff, act_eq_decision]
  rfl

/-- The loop goes on where it was. -/
theorem PacketFunctions.forwarded_append (f : PacketFunctions β) (k : Sink) (n : Nat)
    (ps qs : List (CapturedPacket β)) :
    f.forwarded k n (ps ++ qs) = f.forwarded k n ps ++ f.forwarded k (n + ps.length) qs := by
  induction ps generalizing n with
  | nil => simp [forwarded]
  | cons p ps ih =>
    have hlength : n + 1 + ps.length = n + (p :: ps).length := by
      rw [List.length_cons]
      omega
    simp only [List.cons_append, forwarded_cons, ih, hlength]
    split <;> rfl

/-- One more packet. -/
theorem PacketFunctions.forwarded_snoc (f : PacketFunctions β) (k : Sink) (n : Nat)
    (ps : List (CapturedPacket β)) (p : CapturedPacket β) :
    f.forwarded k n (ps ++ [p]) = f.forwarded k n ps ++
      if sinkOf (f.act (n + ps.length) p).1 (f.act (n + ps.length) p).2.deviceFlags = some k then
        [(f.act (n + ps.length) p).2] else [] := by
  rw [forwarded_append, forwarded_cons]
  rfl

/-! ## What is done with a block -/

namespace PacketBlock

variable {f : PacketFunctions β} {n m : Nat} {b b' : PacketBlock β} {k : Sink}

/-- The packets of a block that was filled are those the driver returned. -/
theorem packets_readPackets (batch : List (CapturedPacket β)) :
    (b.readPackets batch).packets = batch := by
  refine List.ext_getElem (by simp [packets, readPackets]) fun i _ hi => ?_
  simp [packets, readPackets, hi]

theorem packets_eq_nil (h : b.packetsSuccess = 0) : b.packets = [] := by
  simp [packets, h]

theorem requested_eq_nil (h : b.writeRequest k = []) : b.requested k = [] := by
  simp [requested, h]

theorem requested_clearRequest_self : (b.clearRequest k).requested k = [] :=
  requested_eq_nil (Function.update_self ..)

theorem requested_clearRequest_of_ne {l : Sink} (h : l ≠ k) :
    (b.clearRequest k).requested l = b.requested l := by
  simp [requested, clearRequest, h]

/-- The block after the process thread looked at its first `m` packets. -/
structure Sorted (f : PacketFunctions β) (n m : Nat) (b b' : PacketBlock β) : Prop where
  id_eq : b'.id = b.id
  unread : ∀ i, m ≤ i → b'.packetBuffer i = b.packetBuffer i
  below : ∀ k, ∀ i ∈ b'.writeRequest k, i < m
  length_le : ∀ k, (b'.writeRequest k).length ≤ m
  requested_eq : ∀ k, b'.requested k = f.forwarded k n ((List.range m).map b.packetBuffer)

/-- A change of the next packet leaves the requests as they are. -/
theorem Sorted.requested_update (h : Sorted f n m b b') (p : CapturedPacket β) :
    (b'.writeRequest k).map (Function.update b'.packetBuffer m p) = b'.requested k :=
  List.map_congr_left fun i hi => Function.update_of_ne (Nat.ne_of_lt (h.below k i hi)) ..

/-- The loop of the process thread looks at one more packet. -/
theorem Sorted.processPacket (h : Sorted f n m b b') :
    Sorted f n (m + 1) b (b'.processPacket f n m) := by
  have hread : b'.packetBuffer m = b.packetBuffer m := h.unread m (Nat.le_refl m)
  have hunread : ∀ p i, m + 1 ≤ i →
      Function.update b'.packetBuffer m p i = b.packetBuffer i := by
    intro p i hi
    rw [Function.update_of_ne (by omega), h.unread i (by omega)]
  have hnext : ∀ k, f.forwarded k n ((List.range (m + 1)).map b.packetBuffer) =
      b'.requested k ++
        if sinkOf (f.act (n + m) (b.packetBuffer m)).1
          (f.act (n + m) (b.packetBuffer m)).2.deviceFlags = some k then
          [(f.act (n + m) (b.packetBuffer m)).2] else [] := by
    intro k
    rw [List.range_succ, List.map_append, List.map_singleton, PacketFunctions.forwarded_snoc,
      ← h.requested_eq, List.length_map, List.length_range]
  unfold PacketBlock.processPacket
  rw [hread]
  generalize f.act (n + m) (b.packetBuffer m) = result at hnext
  obtain ⟨action, p⟩ := result
  dsimp only at hnext ⊢
  cases hsink : sinkOf action p.deviceFlags with
  | none =>
    refine ⟨h.id_eq, hunread p, fun k i hi => ?_, fun k => ?_, fun k => ?_⟩
    · exact Nat.lt_succ_of_lt (h.below k i hi)
    · exact Nat.le_succ_of_le (h.length_le k)
    · rw [hnext, hsink, if_neg nofun, List.append_nil]
      exact h.requested_update p
  | some l =>
    refine ⟨h.id_eq, hunread p, fun k i hi => ?_, fun k => ?_, fun k => ?_⟩
    · by_cases hk : k = l
      · subst hk
        have hmem : i ∈ b'.writeRequest k ++ [m] := by simpa [place] using hi
        rcases List.mem_append.mp hmem with hi | hi
        · exact Nat.lt_succ_of_lt (h.below k i hi)
        · rw [List.mem_singleton.mp hi]
          exact Nat.lt_succ_self m
      · have hmem : i ∈ b'.writeRequest k := by simpa [place, hk] using hi
        exact Nat.lt_succ_of_lt (h.below k i hmem)
    · have := h.length_le k
      by_cases hk : k = l
      · subst hk
        simp only [place, Function.update_self, List.length_append, List.length_singleton]
        omega
      · simp only [place, Function.update_of_ne hk]
        omega
    · rw [hnext, hsink]
      by_cases hk : k = l
      · subst hk
        rw [if_pos rfl, ← h.requested_update p]
        simp [requested, place]
      · rw [if_neg fun heq => hk (Option.some.inj heq).symm, List.append_nil,
          ← h.requested_update p]
        simp [requested, place, hk]

/-- The loop of the process thread. -/
theorem sorted_foldl (hempty : ∀ k, b.writeRequest k = []) :
    Sorted f n m b ((List.range m).foldl (PacketBlock.processPacket f n) b) := by
  induction m with
  | zero =>
    refine ⟨rfl, fun _ _ => rfl, fun k i hi => ?_, fun k => ?_, fun k => ?_⟩
    · rw [List.range_zero, List.foldl_nil, hempty] at hi
      cases hi
    · rw [List.range_zero, List.foldl_nil, hempty]
      exact Nat.le_refl 0
    · exact requested_eq_nil (hempty k)
  | succ m ih =>
    rw [List.range_succ, List.foldl_append]
    exact ih.processPacket

end PacketBlock

/-! ## Where the blocks are -/

/-- What a block's requests hold when it is in the queue of a thread. -/
def Stage.Prepared : Stage → PacketBlock β → Prop
  | .read, b => b.packetsSuccess = 0 ∧ ∀ k, b.writeRequest k = []
  | .process, b => b.packetsSuccess ≤ maximumPacketBlock ∧ ∀ k, b.writeRequest k = []
  | .writeMstcp, b => b.packetsSuccess = 0 ∧ ∀ k, (b.writeRequest k).length ≤ maximumPacketBlock
  | .writeAdapter, b => b.packetsSuccess = 0 ∧ b.writeRequest .mstcp = [] ∧
      (b.writeRequest .adapter).length ≤ maximumPacketBlock

/-- The process thread leaves a block as the write threads expect it. -/
theorem Stage.Prepared.processPackets {f : PacketFunctions β} {n : Nat} {b : PacketBlock β}
    (h : Stage.process.Prepared b) : Stage.writeMstcp.Prepared (b.processPackets f n) := by
  refine ⟨rfl, fun k => ?_⟩
  exact Nat.le_trans ((PacketBlock.sorted_foldl (f := f) (n := n) h.2).length_le k) h.1

theorem PacketBlock.requested_processPackets {f : PacketFunctions β} {n : Nat} {b : PacketBlock β}
    {k : Sink} (h : Stage.process.Prepared b) :
    (b.processPackets f n).requested k = f.forwarded k n b.packets :=
  (PacketBlock.sorted_foldl (f := f) (n := n) h.2).requested_eq k

theorem PacketBlock.id_processPackets {f : PacketFunctions β} {n : Nat} {b : PacketBlock β}
    (h : Stage.process.Prepared b) : (b.processPackets f n).id = b.id :=
  (PacketBlock.sorted_foldl (f := f) (n := n) h.2).id_eq

/-- No write request of a block that is where it belongs holds more packets than the driver
takes. -/
theorem Stage.Prepared.length_le {k : Stage} {b : PacketBlock β} (h : k.Prepared b) (l : Sink) :
    (b.writeRequest l).length ≤ maximumPacketBlock := by
  cases k with
  | read | process => simp [h.2 l]
  | writeMstcp => exact h.2 l
  | writeAdapter =>
    cases l with
    | mstcp => simp [h.2.1]
    | adapter => exact h.2.2

/-- What a thread's block is prepared for. -/
def WorkerPc.Prepared (k : Stage) : WorkerPc β → Prop
  | .works b => k.Prepared b
  | .reads b => k = .read ∧ k.Prepared b
  | .pushes b => k.next.Prepared b
  | _ => True

/-- The place of a thread in the order in which `release_filter` notifies and joins. -/
def Stage.rank : Stage → Nat
  | .read => 0
  | .process => 1
  | .writeMstcp => 2
  | .writeAdapter => 3

/-- How many threads `release_filter` has joined. -/
def StopPc.joined : StopPc → Nat
  | .idle | .signals | .notifies _ => 0
  | .joins k => k.rank
  | .clears => 4

/-- The block a thread has. -/
def WorkerPc.held : WorkerPc β → List (PacketBlock β)
  | .works b | .reads b | .pushes b => [b]
  | _ => []

namespace QueuedPacketFilter

variable {f : PacketFunctions β} {s r : QueuedPacketFilter β} {e : FilterEvent β} {k : Stage}
  {b : PacketBlock β} {w : WorkerPc β}

/-- The blocks of a thread and its queue, those it took first. -/
def located (s : QueuedPacketFilter β) (k : Stage) : List (PacketBlock β) :=
  (s.worker k).held ++ s.queue k

/-- The blocks that are ahead of a thread on their way back to the read thread. -/
def ahead (s : QueuedPacketFilter β) : Stage → List (PacketBlock β)
  | .writeAdapter => []
  | .writeMstcp => s.located .writeAdapter
  | .process => s.located .writeAdapter ++ s.located .writeMstcp
  | .read => s.located .writeAdapter ++ s.located .writeMstcp ++ s.located .process

/-- The blocks that come to a thread after the one it has. -/
def behind (s : QueuedPacketFilter β) : Stage → List (PacketBlock β)
  | .writeAdapter => s.queue .writeAdapter ++ s.located .writeMstcp ++ s.located .process ++
      s.located .read
  | .writeMstcp => s.queue .writeMstcp ++ s.located .process ++ s.located .read
  | .process => s.queue .process ++ s.located .read
  | .read => s.queue .read

/-- All the blocks, those that are nearest to the read thread's queue first. -/
def ring (s : QueuedPacketFilter β) : List (PacketBlock β) :=
  s.located .writeAdapter ++ s.located .writeMstcp ++ s.located .process ++ s.located .read

theorem ring_eq (s : QueuedPacketFilter β) (k : Stage) :
    s.ring = s.ahead k ++ (s.worker k).held ++ s.behind k := by
  cases k <;> simp [ring, ahead, behind, located]

/-- A thread that moves changes the ring where its block is. -/
theorem ring_setWorker (s : QueuedPacketFilter β) (k : Stage) (w : WorkerPc β) :
    (s.setWorker k w).ring = s.ahead k ++ w.held ++ s.behind k := by
  cases k <;> simp [ring, ahead, behind, located, setWorker]

/-- A thread that keeps its block leaves the ring as it is. -/
theorem ring_setWorker_of_held (h : w.held = (s.worker k).held) :
    (s.setWorker k w).ring = s.ring := by
  rw [ring_setWorker, h, ← ring_eq]

/-- A block that is taken off a queue keeps its place in the ring. -/
theorem ring_take {q : List (PacketBlock β)} (hheld : (s.worker k).held = [])
    (hqueue : s.queue k = b :: q) :
    ((s.setQueue k q).setWorker k (.works b)).ring = s.ring := by
  have hworks : (WorkerPc.works b).held = [b] := rfl
  cases k <;> simp [ring, located, setQueue, setWorker, hworks, hheld, hqueue]

theorem worker_notify_of_ne {l : Stage} (h : l ≠ k) : (s.notify k).worker l = s.worker l := by
  unfold notify
  split
  · exact Function.update_of_ne h ..
  · rfl

theorem queue_notify : (s.notify k).queue = s.queue := by
  unfold notify
  split <;> rfl

theorem held_notify : ((s.notify k).worker k).held = (s.worker k).held := by
  unfold notify
  split
  next hasleep => simp [setWorker, hasleep, WorkerPc.held]
  next => rfl

/-- Threads and queues that hold the same blocks make the same ring. -/
theorem located_eq {s' : QueuedPacketFilter β} (hworker : (s'.worker k).held = (s.worker k).held)
    (hqueue : s'.queue k = s.queue k) : s'.located k = s.located k := by
  rw [located, hworker, hqueue, located]

/-- The block a thread is about to push is ahead of those in its queue. -/
theorem located_of_pushes (h : s.worker k = .pushes b) : s.located k = b :: s.queue k := by
  rw [located, h]
  rfl

/-- What a push does to the places of the blocks. -/
theorem located_push (h : s.worker k = .pushes b) (l : Stage) :
    (s.push k b).located l =
      if l = k then s.queue k else if l = k.next then s.located l ++ [b] else s.located l := by
  have hne : k ≠ k.next := by cases k <;> exact nofun
  unfold push
  split
  next heq =>
    subst heq
    simp [located, setWorker, WorkerPc.held, queue_notify, setQueue, hne]
  next hk =>
    split
    next heq =>
      subst heq
      simp only [located, setWorker, Function.update_of_ne hk, held_notify, queue_notify, setQueue,
        Function.update_self, List.append_assoc]
    next hl =>
      refine located_eq ?_ ?_
      · simp only [setWorker, Function.update_of_ne hk, worker_notify_of_ne hl]
        rfl
      · simp only [setWorker, queue_notify, setQueue, Function.update_of_ne hl]

/-- A block that is pushed keeps its place in the ring, unless it comes back to the read thread. -/
theorem ring_push (h : s.worker k = .pushes b) (hk : k ≠ .writeAdapter) :
    (s.push k b).ring = s.ring := by
  cases k with
  | writeAdapter => exact absurd rfl hk
  | _ => simp [ring, located_push h, Stage.next, located_of_pushes h]

/-- The last thread gives the first block of the ring to the read thread. -/
theorem ring_push_writeAdapter (h : s.worker .writeAdapter = .pushes b) :
    ∃ l, s.ring = b :: l ∧ (s.push .writeAdapter b).ring = l ++ [b] := by
  refine ⟨s.queue .writeAdapter ++ s.located .writeMstcp ++ s.located .process ++ s.located .read,
    ?_, ?_⟩
  · simp [ring, located_of_pushes h]
  · simp [ring, located_push h, Stage.next]

/-! ## A stopped filter holds no block -/

/-- What `release_filter` has done so far is done: the threads it joined have returned, and so have
all of a filter that is not running, whose queues are empty when it is stopped. -/
structure Joined (s : QueuedPacketFilter β) : Prop where
  stopping : s.stopPc ≠ .idle → s.filterState = .stopping
  exited : ∀ k, k.rank < s.stopPc.joined → s.worker k = .exited
  resting : s.filterState = .stopped ∨ s.filterState = .starting → ∀ k, s.worker k = .exited
  emptied : s.filterState = .stopped → ∀ k, s.queue k = []

/-- `stop_filter` does not run in a filter that is stopped. -/
theorem Joined.idle (h : s.Joined) (hstopped : s.filterState = .stopped) : s.stopPc = .idle :=
  Classical.byContradiction fun hne => by cases (h.stopping hne).symm.trans hstopped

/-- A thread that goes on has not returned. -/
theorem Joined.live (h : s.Joined) (hpc : s.worker k ≠ .exited) :
    s.stopPc.joined ≤ k.rank ∧ s.filterState ≠ .stopped ∧ s.filterState ≠ .starting :=
  ⟨Nat.le_of_not_lt fun hlt => hpc (h.exited k hlt), fun hstate => hpc (h.resting (.inl hstate) k),
    fun hstate => hpc (h.resting (.inr hstate) k)⟩

/-- A thread that has not returned moves, and the queues change. -/
theorem Joined.move (h : s.Joined) (hpc : s.worker k ≠ .exited)
    (hstate : r.filterState = s.filterState) (hstop : r.stopPc = s.stopPc)
    (hworker : ∀ l, l ≠ k → s.worker l = .exited → r.worker l = .exited) : r.Joined := by
  obtain ⟨hrank, hstopped, hstarting⟩ := h.live hpc
  refine ⟨?_, fun l hl => ?_, fun hrest => ?_, fun hrest => ?_⟩
  · rw [hstop, hstate]
    exact h.stopping
  · rw [hstop] at hl
    refine hworker l ?_ (h.exited l hl)
    rintro rfl
    exact absurd hl (Nat.not_lt.mpr hrank)
  · rw [hstate] at hrest
    exact (hrest.elim hstopped hstarting).elim
  · rw [hstate] at hrest
    exact (hstopped hrest).elim

/-- The order of the threads tells them apart. -/
theorem rank_injective {k l : Stage} (h : k.rank = l.rank) : k = l := by
  cases k <;> cases l <;> first | rfl | cases h

theorem joined_afterNotify (k : Stage) : (StopPc.afterNotify k).joined = 0 := by
  cases k <;> rfl

theorem joined_afterJoin (k : Stage) : (StopPc.afterJoin k).joined = k.rank + 1 := by
  cases k <;> rfl

/-- A notification ends no thread and starts none. -/
theorem worker_notify_of_exited {l : Stage} (h : s.worker l = .exited) :
    (s.notify k).worker l = .exited := by
  unfold QueuedPacketFilter.notify
  split
  · next hasleep =>
    have hne : l ≠ k := by
      rintro rfl
      cases h.symm.trans hasleep
    simpa [QueuedPacketFilter.setWorker, hne] using h
  · exact h

/-- A block that is pushed moves one thread, and wakes at most another. -/
theorem worker_push_of_exited {l : Stage} (hne : l ≠ k) (h : s.worker l = .exited) :
    (s.push k b).worker l = .exited := by
  have hnotified : ((s.setQueue k.next (s.queue k.next ++ [b])).notify k.next).worker l =
      .exited := worker_notify_of_exited h
  simpa [QueuedPacketFilter.push, QueuedPacketFilter.setWorker, hne] using hnotified

theorem filterState_notify : (s.notify k).filterState = s.filterState := by
  unfold QueuedPacketFilter.notify
  split <;> rfl

theorem stopPc_notify : (s.notify k).stopPc = s.stopPc := by
  unfold QueuedPacketFilter.notify
  split <;> rfl

/-- `init_filter` changes the read queue only. -/
theorem initFilter_eq [Inhabited β] (failure : Option InitFailure) (s : QueuedPacketFilter β) :
    ∃ q, (s.initFilter failure).2 = s.setQueue .read q := by
  rcases failure with - | n | -
  · exact ⟨_, rfl⟩
  · exact ⟨_, rfl⟩
  · refine ⟨[], ?_⟩
    simp [initFilter, allocate, setQueue]

theorem stopPc_initFilter [Inhabited β] (failure : Option InitFailure)
    (s : QueuedPacketFilter β) : (s.initFilter failure).2.stopPc = s.stopPc := by
  obtain ⟨q, hq⟩ := initFilter_eq failure s
  rw [hq]
  rfl

theorem worker_initFilter [Inhabited β] (failure : Option InitFailure)
    (s : QueuedPacketFilter β) : (s.initFilter failure).2.worker = s.worker := by
  obtain ⟨q, hq⟩ := initFilter_eq failure s
  rw [hq]
  rfl

theorem filterState_initFilter [Inhabited β] (failure : Option InitFailure)
    (s : QueuedPacketFilter β) : (s.initFilter failure).2.filterState = s.filterState := by
  obtain ⟨q, hq⟩ := initFilter_eq failure s
  rw [hq]
  rfl

/-- The blocks that are left when `init_filter` fails are new. -/
theorem initFilter_failed [Inhabited β] (failure : InitFailure) (hempty : ∀ k, s.queue k = []) :
    ∃ n, (s.initFilter (some failure)).2 =
      s.setQueue .read ((List.range n).map (PacketBlock.allocated s.starts)) := by
  cases failure with
  | badAlloc n =>
    refine ⟨n, ?_⟩
    simp [initFilter, allocate, hempty]
  | setPacketEvent =>
    refine ⟨0, ?_⟩
    simp [initFilter, allocate, setQueue]

/-- The blocks of a filter whose `init_filter` succeeds are new. -/
theorem initFilter_succeeded [Inhabited β] (hempty : ∀ k, s.queue k = []) :
    (s.initFilter none).2 =
      s.setQueue .read ((List.range maximumBlockNum).map (PacketBlock.allocated s.starts)) := by
  simp [initFilter, allocate, hempty]

/-- Every step leaves what was done done. -/
theorem Joined.step [Inhabited β] (h : s.Joined) (hstep : Step f s e r) : r.Joined := by
  have hset {k : Stage} {w : WorkerPc β} (l : Stage) (hl : l ≠ k) (hexited : s.worker l = .exited) :
      (Function.update s.worker k w) l = .exited := by
    rwa [Function.update_of_ne hl]
  cases hstep with
  | startFilter hstopped =>
    have hidle := h.idle hstopped
    exact ⟨fun hne => absurd hidle hne, fun k hk => absurd hk (by
      rw [show s.started.stopPc = .idle from hidle]
      exact Nat.not_lt_zero _), nofun, nofun⟩
  | startFails failure hstopped =>
    obtain ⟨n, hn⟩ := initFilter_failed failure (s := s.starting) (h.emptied hstopped)
    rw [hn]
    exact ⟨fun hne => absurd (h.idle hstopped) hne, h.exited, fun _ => h.resting (.inl hstopped),
      nofun⟩
  | stopFilter hrun => exact ⟨fun _ => rfl, nofun, nofun, nofun⟩
  | signal hpc =>
    have hstate := h.stopping (by simp [hpc])
    exact ⟨fun _ => hstate, nofun, h.resting, h.emptied⟩
  | @notifyAll k hpc =>
    have hstate : (s.notify k).filterState = .stopping := by
      rw [filterState_notify]
      exact h.stopping (by simp [hpc])
    refine ⟨fun _ => hstate, fun l hl => ?_, fun hrest => ?_, fun hrest => ?_⟩
    · rw [joined_afterNotify] at hl
      exact absurd hl (Nat.not_lt_zero _)
    · rcases hrest with hrest | hrest <;> cases hstate.symm.trans hrest
    · cases hstate.symm.trans hrest
  | @join k hpc hexited =>
    have hstate := h.stopping (by simp [hpc])
    refine ⟨fun _ => hstate, fun l hl => ?_, h.resting, h.emptied⟩
    rw [joined_afterJoin] at hl
    rcases Nat.lt_succ_iff_lt_or_eq.mp hl with hlt | heq
    · refine h.exited l ?_
      rw [hpc]
      exact hlt
    · rw [rank_injective heq]
      exact hexited
  | clear hpc =>
    have hall (l : Stage) : s.worker l = .exited := by
      refine h.exited l ?_
      rw [hpc]
      show l.rank < 4
      cases l <;> decide
    exact ⟨fun hne => absurd rfl hne, nofun, fun _ => hall, fun _ _ => rfl⟩
  | driverSignals => exact ⟨h.stopping, h.exited, h.resting, h.emptied⟩
  | wakes hpc | loop hpc | leave hpc | sleep hpc | awaitEvent hpc | readPackets hpc
  | readFails hpc | process hpc | writeMstcp hpc | writeAdapter hpc =>
    exact h.move (by simp [hpc]) rfl rfl hset
  | take hpc | quit hpc | check hpc =>
    exact h.move (by rcases hpc with hpc | hpc <;> simp [hpc]) rfl rfl hset
  | push hpc =>
    refine h.move (by simp [hpc]) ?_ ?_ fun l hl => worker_push_of_exited hl
    · exact filterState_notify
    · exact stopPc_notify

theorem Joined.of_reachable [Inhabited β] (h : (system f).Reachable s) : s.Joined := by
  refine h.invariant (I := Joined) ?_ fun _ _ _ hs hstep => hs.step hstep
  rintro s rfl
  exact ⟨fun hne => absurd rfl hne, nofun, fun _ _ => rfl, fun _ _ => rfl⟩

/-! ## Blocks are prepared for the place they are at -/

/-- Every block is prepared for the place it is at, and no thread sleeps before a block. -/
structure Placed (s : QueuedPacketFilter β) : Prop where
  queued : ∀ k, ∀ b ∈ s.queue k, k.Prepared b
  worker : ∀ k, (s.worker k).Prepared k
  asleep : ∀ k, s.worker k = .checked ∨ s.worker k = .asleep → s.queue k = []

/-- A thread that moves without touching its queue. -/
theorem Placed.setWorker (h : s.Placed) (hpc : w.Prepared k)
    (hasleep : w = .checked ∨ w = .asleep → s.queue k = []) : (s.setWorker k w).Placed := by
  refine ⟨h.queued, fun l => ?_, fun l hl => ?_⟩
  · by_cases heq : l = k
    · subst heq
      simpa [QueuedPacketFilter.setWorker] using hpc
    · simpa [QueuedPacketFilter.setWorker, heq] using h.worker l
  · by_cases heq : l = k
    · subst heq
      exact hasleep (by simpa [QueuedPacketFilter.setWorker] using hl)
    · exact h.asleep l (by simpa [QueuedPacketFilter.setWorker, heq] using hl)

theorem Placed.notify (h : s.Placed) : (s.notify k).Placed := by
  unfold QueuedPacketFilter.notify
  split
  · exact h.setWorker trivial nofun
  · exact h

/-- A thread takes the first block of its queue. -/
theorem Placed.take {q : List (PacketBlock β)} (h : s.Placed) (hqueue : s.queue k = b :: q) :
    ((s.setQueue k q).setWorker k (.works b)).Placed := by
  refine ⟨fun l c hc => ?_, fun l => ?_, fun l hl => ?_⟩
  · by_cases heq : l = k
    · subst heq
      have hmem : c ∈ q := by simpa [QueuedPacketFilter.setWorker, setQueue] using hc
      exact h.queued l c (hqueue ▸ List.mem_cons_of_mem b hmem)
    · exact h.queued l c (by simpa [QueuedPacketFilter.setWorker, setQueue, heq] using hc)
  · by_cases heq : l = k
    · subst heq
      simpa [QueuedPacketFilter.setWorker, WorkerPc.Prepared] using
        h.queued l b (hqueue ▸ List.mem_cons_self)
    · simpa [QueuedPacketFilter.setWorker, setQueue, heq] using h.worker l
  · by_cases heq : l = k
    · subst heq
      simp [QueuedPacketFilter.setWorker] at hl
    · have hempty := h.asleep l (by simpa [QueuedPacketFilter.setWorker, setQueue, heq] using hl)
      simpa [QueuedPacketFilter.setWorker, setQueue, heq] using hempty

/-- A block that joins a queue whose thread is not about to sleep, with a notification. -/
theorem Placed.enqueue (h : s.Placed) (hb : k.Prepared b) (hchecked : s.worker k ≠ .checked) :
    ((s.setQueue k (s.queue k ++ [b])).notify k).Placed := by
  refine ⟨fun l c hc => ?_, fun l => ?_, fun l hl => ?_⟩
  · rw [queue_notify] at hc
    by_cases heq : l = k
    · subst heq
      rcases List.mem_append.mp (by simpa [setQueue] using hc : c ∈ s.queue l ++ [b]) with hc | hc
      · exact h.queued l c hc
      · rw [List.mem_singleton.mp hc]
        exact hb
    · exact h.queued l c (by simpa [setQueue, heq] using hc)
  · unfold QueuedPacketFilter.notify
    split
    · by_cases heq : l = k
      · subst heq
        simp [QueuedPacketFilter.setWorker, WorkerPc.Prepared]
      · simpa [QueuedPacketFilter.setWorker, setQueue, heq] using h.worker l
    · exact h.worker l
  · by_cases heq : l = k
    · subst heq
      unfold QueuedPacketFilter.notify at hl
      split at hl
      next => simp [QueuedPacketFilter.setWorker] at hl
      next hasleep => exact absurd hl (not_or.mpr ⟨hchecked, hasleep⟩)
    · rw [worker_notify_of_ne heq] at hl
      have hempty := h.asleep l hl
      rw [queue_notify]
      simpa [setQueue, heq] using hempty

theorem Placed.push (h : s.Placed) (hpushes : s.worker k = .pushes b)
    (hchecked : s.worker k.next ≠ .checked) : (s.push k b).Placed := by
  have hb : k.next.Prepared b := by simpa [hpushes, WorkerPc.Prepared] using h.worker k
  exact (h.enqueue hb hchecked).setWorker trivial nofun

/-- New blocks are prepared for the read queue. -/
theorem prepared_allocated [Inhabited β] {n i : Nat} (hempty : ∀ k, s.queue k = [])
    (hb : b ∈ (s.setQueue .read ((List.range n).map (PacketBlock.allocated i))).queue k) :
    k.Prepared b := by
  cases k with
  | read =>
    obtain ⟨j, -, rfl⟩ := List.mem_map.mp hb
    exact ⟨rfl, fun _ => rfl⟩
  | process | writeMstcp | writeAdapter =>
    simp [setQueue, hempty] at hb

theorem Placed.started [Inhabited β] (hempty : ∀ k, s.queue k = []) : s.started.Placed := by
  unfold QueuedPacketFilter.started
  rw [initFilter_succeeded (s := s.starting) hempty]
  exact ⟨fun k b hb => prepared_allocated (s := s.starting) hempty hb, fun _ => trivial, nofun⟩

/-- Every step keeps the blocks prepared. -/
theorem Placed.step [Inhabited β] (hjoined : s.Joined) (h : s.Placed) (hstep : Step f s e r) :
    r.Placed := by
  cases hstep with
  | startFilter hstopped => exact Placed.started (hjoined.emptied hstopped)
  | startFails failure hstopped =>
    have hempty := hjoined.emptied hstopped
    obtain ⟨n, hn⟩ := initFilter_failed failure (s := s.starting) hempty
    rw [hn]
    refine ⟨fun k b hb => prepared_allocated (s := s.starting) hempty hb, h.worker, ?_⟩
    intro k hk
    have hexited : s.worker k = .exited := hjoined.resting (.inl hstopped) k
    rcases hk with hk | hk <;> cases hexited.symm.trans hk
  | @notifyAll k hpc =>
    have hnotify := h.notify (k := k)
    exact ⟨hnotify.queued, hnotify.worker, hnotify.asleep⟩
  | clear hpc => exact ⟨nofun, h.worker, fun _ _ => rfl⟩
  | stopFilter | signal | join | driverSignals => exact ⟨h.queued, h.worker, h.asleep⟩
  | wakes hpc => exact h.setWorker trivial nofun
  | loop hpc hrun => exact h.setWorker trivial nofun
  | leave hpc hrun => exact h.setWorker trivial nofun
  | take hpc hqueue hrun => exact h.take hqueue
  | quit hpc hrun hread => exact h.setWorker trivial nofun
  | check hpc hqueue hrun => exact h.setWorker trivial fun _ => hqueue
  | @sleep k hpc => exact h.setWorker trivial fun _ => h.asleep k (.inl hpc)
  | @awaitEvent b hpc hevent =>
    have hb : Stage.read.Prepared b := by simpa [hpc, WorkerPc.Prepared] using h.worker .read
    have hset := h.setWorker (k := .read) (w := .reads b) ⟨rfl, hb⟩ nofun
    exact ⟨hset.queued, hset.worker, hset.asleep⟩
  | @readPackets b batch hpc hlength =>
    have hb : Stage.read.Prepared b := by
      simpa [hpc, WorkerPc.Prepared] using h.worker .read
    have hset := h.setWorker (k := .read) (w := .pushes (b.readPackets batch))
      ⟨hlength, hb.2⟩ nofun
    exact ⟨hset.queued, hset.worker, hset.asleep⟩
  | @readFails b hpc =>
    have hb : Stage.read.Prepared b := by
      simpa [hpc, WorkerPc.Prepared] using h.worker .read
    split
    · exact h.setWorker hb nofun
    · exact h.setWorker (w := .pushes b) ⟨by rw [hb.1]; exact Nat.zero_le _, hb.2⟩ nofun
  | @process b hpc =>
    have hb : Stage.process.Prepared b := by simpa [hpc, WorkerPc.Prepared] using h.worker .process
    have hset := h.setWorker (k := .process)
      (w := .pushes (b.processPackets f s.packetsProcessed)) hb.processPackets nofun
    exact ⟨hset.queued, hset.worker, hset.asleep⟩
  | @writeMstcp b hpc =>
    have hb : Stage.writeMstcp.Prepared b := by
      simpa [hpc, WorkerPc.Prepared] using h.worker .writeMstcp
    have hset := h.setWorker (k := .writeMstcp) (w := .pushes (b.clearRequest .mstcp))
      ⟨hb.1, rfl, hb.2 .adapter⟩ nofun
    exact ⟨hset.queued, hset.worker, hset.asleep⟩
  | @writeAdapter b hpc =>
    have hb : Stage.writeAdapter.Prepared b := by
      simpa [hpc, WorkerPc.Prepared] using h.worker .writeAdapter
    have hempty : ∀ l, (b.clearRequest .adapter).writeRequest l = [] := by
      rintro (_ | _)
      · exact hb.2.1
      · rfl
    have hset := h.setWorker (k := .writeAdapter) (w := .pushes (b.clearRequest .adapter))
      ⟨hb.1, hempty⟩ nofun
    exact ⟨hset.queued, hset.worker, hset.asleep⟩
  | push hpc hchecked => exact h.push hpc hchecked

/-- The blocks are prepared in every run. -/
theorem Placed.of_reachable [Inhabited β] (h : (system f).Reachable s) : s.Placed := by
  have hboth : s.Joined ∧ s.Placed := by
    refine h.invariant (I := fun s => s.Joined ∧ s.Placed) ?_ fun _ _ _ ⟨hjoined, hs⟩ hstep =>
      ⟨hjoined.step hstep, hs.step hjoined hstep⟩
    rintro s rfl
    exact ⟨Joined.of_reachable (f := f) (.init rfl), nofun, fun _ => trivial, nofun⟩
  exact hboth.2

/-- A block of a thread or its queue is prepared for that queue or for the next one. -/
theorem Placed.of_mem_located (h : s.Placed) (hb : b ∈ s.located k) :
    k.Prepared b ∨ k.next.Prepared b := by
  have hworker := h.worker k
  rcases List.mem_append.mp hb with hb | hb
  · cases hpc : s.worker k with
    | works c =>
      rw [hpc] at hb hworker
      rw [List.mem_singleton.mp hb]
      exact .inl hworker
    | reads c =>
      rw [hpc] at hb hworker
      rw [List.mem_singleton.mp hb]
      exact .inl hworker.2
    | pushes c =>
      rw [hpc] at hb hworker
      rw [List.mem_singleton.mp hb]
      exact .inr hworker
    | _ =>
      rw [hpc] at hb
      cases hb
  · exact .inl (h.queued k b hb)

/-- The blocks ahead of the process thread hold no packets that were not looked at. -/
theorem Placed.packets_ahead (h : s.Placed) :
    (s.ahead .process).flatMap PacketBlock.packets = [] := by
  refine List.flatMap_eq_nil_iff.mpr fun b hb => PacketBlock.packets_eq_nil ?_
  rcases List.mem_append.mp hb with hb | hb
  · rcases h.of_mem_located hb with hb | hb <;> exact hb.1
  · rcases h.of_mem_located hb with hb | hb <;> exact hb.1

/-- The blocks in the read thread's queue hold no packets. -/
theorem Placed.packets_behind (h : s.Placed) :
    (s.behind .read).flatMap PacketBlock.packets = [] :=
  List.flatMap_eq_nil_iff.mpr fun b hb => PacketBlock.packets_eq_nil (h.queued .read b hb).1

/-- The blocks that come to the process thread have empty write requests. -/
theorem Placed.requested_behind (h : s.Placed) (k : Sink) :
    (s.behind .process).flatMap (PacketBlock.requested k) = [] := by
  refine List.flatMap_eq_nil_iff.mpr fun b hb => PacketBlock.requested_eq_nil ?_
  rcases List.mem_append.mp hb with hb | hb
  · exact (h.queued .process b hb).2 k
  · rcases h.of_mem_located hb with hb | hb <;> exact hb.2 k

/-- The blocks ahead of the thread that writes to the protocol stack have nothing left for it. -/
theorem Placed.requested_ahead (h : s.Placed) :
    (s.ahead .writeMstcp).flatMap (PacketBlock.requested .mstcp) = [] := by
  refine List.flatMap_eq_nil_iff.mpr fun b hb => PacketBlock.requested_eq_nil ?_
  rcases h.of_mem_located hb with hb | hb
  · exact hb.2.1
  · exact hb.2 .mstcp

/-- No write request ever holds more packets than the driver takes. -/
theorem Placed.length_le (h : s.Placed) (hb : b ∈ s.ring) (k : Sink) :
    (b.writeRequest k).length ≤ maximumPacketBlock := by
  have hlocated : ∃ l, b ∈ s.located l := by
    simp only [ring, List.mem_append] at hb
    rcases hb with ((hb | hb) | hb) | hb <;> exact ⟨_, hb⟩
  obtain ⟨l, hb⟩ := hlocated
  rcases h.of_mem_located hb with hb | hb <;> exact hb.length_le k

/-! ## The packets on the ring -/

/-- What was read and what was handed over, against the packets in the blocks. -/
structure Accounted (f : PacketFunctions β) (s : QueuedPacketFilter β) : Prop where
  processed_le : s.packetsProcessed ≤ s.packetsRead.length
  unprocessed : s.packetsRead.drop s.packetsProcessed = s.ring.flatMap PacketBlock.packets
  sent : ∀ k, s.sent k ++ s.ring.flatMap (PacketBlock.requested k) =
    f.forwarded k 0 (s.packetsRead.take s.packetsProcessed)
  blocks : (s.ring.map PacketBlock.id).Perm (List.range maximumBlockNum)

/-- A step that neither reads nor processes nor hands over packets. -/
theorem Accounted.of_ring_eq (h : s.Accounted f) (hring : r.ring = s.ring)
    (hread : r.packetsRead = s.packetsRead) (hprocessed : r.packetsProcessed = s.packetsProcessed)
    (hsent : r.sent = s.sent) : r.Accounted f := by
  obtain ⟨hle, hunprocessed, hall, hblocks⟩ := h
  refine ⟨?_, ?_, ?_, ?_⟩
  · rwa [hread, hprocessed]
  · rwa [hread, hprocessed, hring]
  · rwa [hread, hprocessed, hring, hsent]
  · rwa [hring]

/-- A thread that keeps its block. -/
theorem Accounted.setWorker (h : s.Accounted f) (hheld : w.held = (s.worker k).held) :
    (s.setWorker k w).Accounted f :=
  h.of_ring_eq (ring_setWorker_of_held hheld) rfl rfl rfl

theorem queue_started [Inhabited β] (hstopped : ∀ k, s.queue k = []) :
    s.started.queue .read =
      (List.range maximumBlockNum).map (PacketBlock.allocated (s.starts + 1)) := by
  unfold QueuedPacketFilter.started
  rw [initFilter_succeeded (s := s.starting) hstopped]
  rfl

/-- The ring after a start. -/
theorem ring_started [Inhabited β] (hstopped : ∀ k, s.queue k = []) :
    s.started.ring = (List.range maximumBlockNum).map (PacketBlock.allocated (s.starts + 1)) := by
  unfold QueuedPacketFilter.started
  rw [initFilter_succeeded (s := s.starting) hstopped]
  simp [ring, located, runThreads, setQueue, starting, WorkerPc.held, hstopped]

/-- The blocks after a start. -/
theorem Accounted.started [Inhabited β] (hstopped : ∀ k, s.queue k = []) :
    s.started.Accounted f := by
  have hring := ring_started hstopped
  have hempty (b : PacketBlock β)
      (hb : b ∈ (List.range maximumBlockNum).map (PacketBlock.allocated (s.starts + 1))) :
      Stage.read.Prepared b := by
    refine (Placed.started hstopped).queued .read b ?_
    rwa [queue_started hstopped]
  refine ⟨Nat.le_refl 0, ?_, fun k => ?_, ?_⟩
  · rw [hring]
    exact (List.flatMap_eq_nil_iff.mpr fun b hb =>
      PacketBlock.packets_eq_nil (hempty b hb).1).symm
  · rw [hring, List.flatMap_eq_nil_iff.mpr fun b hb =>
      PacketBlock.requested_eq_nil ((hempty b hb).2 k)]
    rfl
  · rw [hring]
    simp [Function.comp_def, PacketBlock.allocated]

/-- The driver fills the read thread's block. -/
theorem Accounted.readPackets (h : s.Accounted f) (hplaced : s.Placed)
    {batch : List (CapturedPacket β)} (hpc : s.worker .read = .reads b) :
    Accounted f { s.setWorker .read (.pushes (b.readPackets batch)) with
      packetsRead := s.packetsRead ++ batch } := by
  have hb : Stage.read.Prepared b := by
    have hworker := hplaced.worker .read
    rw [hpc] at hworker
    exact hworker.2
  have hring : s.ring = s.ahead .read ++ [b] ++ s.behind .read := by
    rw [ring_eq s .read, hpc]
    rfl
  have hring' : (s.setWorker .read (.pushes (b.readPackets batch))).ring =
      s.ahead .read ++ [b.readPackets batch] ++ s.behind .read := ring_setWorker ..
  refine ⟨?_, ?_, fun k => ?_, ?_⟩
  · exact Nat.le_trans h.processed_le (by simp)
  · have hbefore : s.packetsRead.drop s.packetsProcessed =
        (s.ahead .read).flatMap PacketBlock.packets := by
      rw [h.unprocessed, hring, List.flatMap_append, List.flatMap_append, hplaced.packets_behind,
        List.flatMap_singleton, PacketBlock.packets_eq_nil hb.1]
      simp
    show (s.packetsRead ++ batch).drop s.packetsProcessed = _
    rw [List.drop_append_of_le_length h.processed_le, hbefore]
    show _ = (s.setWorker .read (.pushes (b.readPackets batch))).ring.flatMap PacketBlock.packets
    rw [hring', List.flatMap_append, List.flatMap_append, hplaced.packets_behind,
      List.flatMap_singleton, PacketBlock.packets_readPackets, List.append_nil]
  · have hsame : (b.readPackets batch).requested k = b.requested k := by
      rw [PacketBlock.requested_eq_nil (hb.2 k)]
      exact PacketBlock.requested_eq_nil (b := b.readPackets batch) (hb.2 k)
    show s.sent k ++
      (s.setWorker .read (.pushes (b.readPackets batch))).ring.flatMap (PacketBlock.requested k) =
      f.forwarded k 0 ((s.packetsRead ++ batch).take s.packetsProcessed)
    rw [List.take_append_of_le_length h.processed_le, ← h.sent k, hring', hring]
    simp only [List.flatMap_append, List.flatMap_singleton, hsame]
  · show ((s.setWorker .read (.pushes (b.readPackets batch))).ring.map PacketBlock.id).Perm _
    have hblocks := h.blocks
    rw [hring] at hblocks
    rw [hring']
    simpa [PacketBlock.readPackets] using hblocks

/-- The process thread sorts the packets of its block into the write requests. -/
theorem Accounted.process (h : s.Accounted f) (hplaced : s.Placed)
    (hpc : s.worker .process = .works b) :
    Accounted f
      { s.setWorker .process (.pushes (b.processPackets f s.packetsProcessed)) with
        packetsProcessed := s.packetsProcessed + b.packetsSuccess } := by
  have hb : Stage.process.Prepared b := by
    have hworker := hplaced.worker .process
    rwa [hpc] at hworker
  have hring : s.ring = s.ahead .process ++ [b] ++ s.behind .process := by
    rw [ring_eq s .process, hpc]
    rfl
  have hring' : (s.setWorker .process (.pushes (b.processPackets f s.packetsProcessed))).ring =
      s.ahead .process ++ [b.processPackets f s.packetsProcessed] ++ s.behind .process :=
    ring_setWorker ..
  have hdrop : s.packetsRead.drop s.packetsProcessed =
      b.packets ++ (s.behind .process).flatMap PacketBlock.packets := by
    rw [h.unprocessed, hring, List.flatMap_append, List.flatMap_append, hplaced.packets_ahead,
      List.flatMap_singleton, List.nil_append]
  have hlength : b.packets.length = b.packetsSuccess := by simp [PacketBlock.packets]
  have htake : s.packetsRead.take (s.packetsProcessed + b.packetsSuccess) =
      s.packetsRead.take s.packetsProcessed ++ b.packets := by
    rw [List.take_add, hdrop, List.take_left' hlength]
  refine ⟨?_, ?_, fun k => ?_, ?_⟩
  · have hle : b.packets.length ≤ (s.packetsRead.drop s.packetsProcessed).length := by
      rw [hdrop, List.length_append]
      exact Nat.le_add_right ..
    have := h.processed_le
    rw [hlength, List.length_drop] at hle
    show s.packetsProcessed + b.packetsSuccess ≤ s.packetsRead.length
    omega
  · show s.packetsRead.drop (s.packetsProcessed + b.packetsSuccess) =
      (s.setWorker .process (.pushes (b.processPackets f s.packetsProcessed))).ring.flatMap
        PacketBlock.packets
    have hempty : (b.processPackets f s.packetsProcessed).packets = [] :=
      PacketBlock.packets_eq_nil rfl
    rw [← List.drop_drop, hdrop, List.drop_left' hlength, hring', List.flatMap_append,
      List.flatMap_append, hplaced.packets_ahead, List.flatMap_singleton, hempty]
    rfl
  · have hbefore : s.sent k ++ (s.ahead .process).flatMap (PacketBlock.requested k) =
        f.forwarded k 0 (s.packetsRead.take s.packetsProcessed) := by
      have hsent := h.sent k
      rw [hring, List.flatMap_append, List.flatMap_append, hplaced.requested_behind,
        List.flatMap_singleton, PacketBlock.requested_eq_nil (hb.2 k), List.append_nil,
        List.append_nil] at hsent
      exact hsent
    have hprocessed : (s.packetsRead.take s.packetsProcessed).length = s.packetsProcessed :=
      List.length_take_of_le h.processed_le
    show s.sent k ++
      (s.setWorker .process (.pushes (b.processPackets f s.packetsProcessed))).ring.flatMap
        (PacketBlock.requested k) =
      f.forwarded k 0 (s.packetsRead.take (s.packetsProcessed + b.packetsSuccess))
    rw [htake, PacketFunctions.forwarded_append, ← hbefore, hprocessed, Nat.zero_add, hring',
      List.flatMap_append, List.flatMap_append, hplaced.requested_behind, List.flatMap_singleton,
      PacketBlock.requested_processPackets hb, List.append_nil, List.append_assoc]
  · show ((s.setWorker .process
      (.pushes (b.processPackets f s.packetsProcessed))).ring.map PacketBlock.id).Perm _
    have hblocks := h.blocks
    rw [hring] at hblocks
    rw [hring']
    simpa [PacketBlock.id_processPackets hb] using hblocks

/-- A thread hands over the packets of a request that no block ahead of it has packets in. -/
theorem Accounted.write {l : Sink} (h : s.Accounted f) (hpc : s.worker k = .works b)
    (hahead : (s.ahead k).flatMap (PacketBlock.requested l) = []) :
    ((s.send l b).setWorker k (.pushes (b.clearRequest l))).Accounted f := by
  have hring : s.ring = s.ahead k ++ [b] ++ s.behind k := by
    rw [ring_eq s k, hpc]
    rfl
  have hring' : ((s.send l b).setWorker k (.pushes (b.clearRequest l))).ring =
      s.ahead k ++ [b.clearRequest l] ++ s.behind k := by
    cases k <;> exact ring_setWorker ..
  refine ⟨h.processed_le, ?_, fun m => ?_, ?_⟩
  · have hsame : (b.clearRequest l).packets = b.packets := rfl
    rw [hring', List.flatMap_append, List.flatMap_append, List.flatMap_singleton, hsame]
    have hunprocessed := h.unprocessed
    rw [hring, List.flatMap_append, List.flatMap_append, List.flatMap_singleton] at hunprocessed
    exact hunprocessed
  · have hsent := h.sent m
    rw [hring, List.flatMap_append, List.flatMap_append, List.flatMap_singleton] at hsent
    rw [hring', List.flatMap_append, List.flatMap_append, List.flatMap_singleton]
    by_cases hm : m = l
    · subst hm
      rw [hahead, List.nil_append] at hsent
      rw [hahead, PacketBlock.requested_clearRequest_self, List.nil_append, List.nil_append]
      show Function.update s.sent m (s.sent m ++ b.requested m) m ++ _ = _
      rw [Function.update_self, List.append_assoc]
      exact hsent
    · rw [PacketBlock.requested_clearRequest_of_ne hm]
      show Function.update s.sent l (s.sent l ++ b.requested l) m ++ _ = _
      rw [Function.update_of_ne hm]
      exact hsent
  · have hblocks := h.blocks
    rw [hring] at hblocks
    rw [hring']
    simpa [PacketBlock.clearRequest] using hblocks

/-- A block moves on to the next queue. -/
theorem Accounted.push (h : s.Accounted f) (hplaced : s.Placed) (hpc : s.worker k = .pushes b) :
    (s.push k b).Accounted f := by
  have hread : (s.push k b).packetsRead = s.packetsRead := by
    unfold QueuedPacketFilter.push QueuedPacketFilter.notify
    split <;> rfl
  have hprocessed : (s.push k b).packetsProcessed = s.packetsProcessed := by
    unfold QueuedPacketFilter.push QueuedPacketFilter.notify
    split <;> rfl
  have hsent : (s.push k b).sent = s.sent := by
    unfold QueuedPacketFilter.push QueuedPacketFilter.notify
    split <;> rfl
  by_cases hk : k = .writeAdapter
  · subst hk
    have hb : Stage.read.Prepared b := by
      have hworker := hplaced.worker .writeAdapter
      rwa [hpc] at hworker
    obtain ⟨l, hring, hring'⟩ := ring_push_writeAdapter hpc
    obtain ⟨hle, hunprocessed, hall, hblocks⟩ := h
    have hpackets : b.packets = [] := PacketBlock.packets_eq_nil hb.1
    have hrequested : ∀ m, b.requested m = [] := fun m => PacketBlock.requested_eq_nil (hb.2 m)
    rw [hring] at hunprocessed hblocks
    refine ⟨?_, ?_, fun m => ?_, ?_⟩
    · rwa [hread, hprocessed]
    · rw [hread, hprocessed, hring', hunprocessed]
      simp [hpackets]
    · have hm := hall m
      rw [hring] at hm
      rw [hread, hprocessed, hring', hsent, ← hm]
      simp [hrequested]
    · rw [hring']
      refine List.Perm.trans ?_ hblocks
      exact (List.perm_append_singleton b l).map PacketBlock.id
  · exact h.of_ring_eq (ring_push hpc hk) hread hprocessed hsent

/-- A thread that enters or was woken has no block. -/
theorem held_of_enters (h : s.worker k = .enters ∨ s.worker k = .woken) :
    (s.worker k).held = [] := by
  rcases h with h | h <;> rw [h] <;> rfl

/-- Every step of a running filter keeps the accounts. -/
theorem Accounted.step [Inhabited β] (hjoined : s.Joined) (hplaced : s.Placed)
    (h : s.filterState = .running → s.Accounted f) (hstep : Step f s e r)
    (hrun : r.filterState = .running) : r.Accounted f := by
  cases hstep with
  | startFilter hstopped => exact Accounted.started (hjoined.emptied hstopped)
  | startFails failure hstopped =>
    cases (filterState_initFilter (some failure) s.starting).symm.trans hrun
  | stopFilter | clear => cases hrun
  | signal | join | driverSignals => exact (h hrun).of_ring_eq rfl rfl rfl rfl
  | @notifyAll k hpc =>
    unfold QueuedPacketFilter.notify at hrun ⊢
    split at hrun
    next hasleep =>
      have hset := (h hrun).setWorker (k := k) (w := .woken) (by rw [hasleep]; rfl)
      exact hset.of_ring_eq rfl rfl rfl rfl
    next => exact (h hrun).of_ring_eq rfl rfl rfl rfl
  | wakes hpc => exact (h hrun).setWorker (by rw [hpc]; rfl)
  | loop hpc hrunning => exact (h hrun).setWorker (by rw [hpc]; rfl)
  | leave hpc hstopping => exact (h hrun).setWorker (by rw [hpc]; rfl)
  | take hpc hqueue hrunning =>
    exact (h hrun).of_ring_eq (ring_take (held_of_enters hpc) hqueue) rfl rfl rfl
  | quit hpc hstopping hread => exact (h hrun).setWorker (by rw [held_of_enters hpc]; rfl)
  | check hpc hqueue hrunning => exact (h hrun).setWorker (by rw [held_of_enters hpc]; rfl)
  | sleep hpc => exact (h hrun).setWorker (by rw [hpc]; rfl)
  | @awaitEvent b hpc hevent =>
    have hset := (h hrun).setWorker (k := .read) (w := .reads b) (by rw [hpc]; rfl)
    exact hset.of_ring_eq rfl rfl rfl rfl
  | readPackets hpc hlength => exact (h hrun).readPackets hplaced hpc
  | readFails hpc =>
    refine (h hrun).setWorker ?_
    rw [hpc]
    split <;> rfl
  | process hpc => exact (h hrun).process hplaced hpc
  | writeMstcp hpc => exact (h hrun).write hpc hplaced.requested_ahead
  | writeAdapter hpc => exact (h hrun).write hpc rfl
  | push hpc hchecked =>
    refine (h ?_).push hplaced hpc
    unfold QueuedPacketFilter.push QueuedPacketFilter.notify at hrun
    split at hrun <;> exact hrun

/-- The accounts are kept in every run, while the filter is running. -/
theorem Accounted.of_reachable [Inhabited β] (h : (system f).Reachable s)
    (hrun : s.filterState = .running) : s.Accounted f := by
  have hall : s.Joined ∧ s.Placed ∧ (s.filterState = .running → s.Accounted f) := by
    refine h.invariant
      (I := fun s => s.Joined ∧ s.Placed ∧ (s.filterState = .running → s.Accounted f)) ?_ ?_
    · rintro s rfl
      exact ⟨Joined.of_reachable (f := f) (.init rfl), Placed.of_reachable (f := f) (.init rfl),
        nofun⟩
    · rintro s e r ⟨hjoined, hplaced, haccounted⟩ hstep
      exact ⟨hjoined.step hstep, hplaced.step hjoined hstep,
        Accounted.step hjoined hplaced haccounted hstep⟩
  exact hall.2.2 hrun

/-! ## Nothing stays in the blocks -/

/-- The step is one a worker thread takes by itself. -/
def IsWorker (_ : QueuedPacketFilter β) (e : FilterEvent β) : Prop := ∃ k, e = .worker k

/-- The worker threads go on by themselves. -/
def WorkerSteps [Inhabited β] (f : PacketFunctions β) :
    QueuedPacketFilter β → QueuedPacketFilter β → Prop :=
  ((system f).restrict IsWorker).Steps

/-- No worker thread can go on by itself. -/
def Resting [Inhabited β] (f : PacketFunctions β) (s : QueuedPacketFilter β) : Prop :=
  ∀ k r, ¬ Step f s (.worker k) r

/-- No thread of a running filter has returned. -/
def Alive (s : QueuedPacketFilter β) : Prop :=
  s.filterState = .running → ∀ k, s.worker k ≠ .exited

theorem Alive.setWorker (h : s.Alive) (hpc : w ≠ .exited) : (s.setWorker k w).Alive := by
  intro hrun l
  by_cases hl : l = k
  · subst hl
    simpa [QueuedPacketFilter.setWorker] using hpc
  · simpa [QueuedPacketFilter.setWorker, hl] using h hrun l

theorem Alive.notify (h : s.Alive) : (s.notify k).Alive := by
  unfold QueuedPacketFilter.notify
  split
  · exact h.setWorker nofun
  · exact h

theorem Alive.step [Inhabited β] (h : s.Alive) (hstep : Step f s e r) : r.Alive := by
  cases hstep with
  | startFilter hstopped => exact fun _ _ => nofun
  | startFails failure hstopped =>
    exact fun hrun => nomatch (filterState_initFilter (some failure) s.starting).symm.trans hrun
  | stopFilter | clear => exact nofun
  | signal | join | driverSignals => exact h
  | @notifyAll k hpc => exact h.notify (k := k)
  | leave hpc hstopping => exact fun hrun => absurd hrun hstopping
  | quit hpc hstopping hread => exact fun hrun => absurd hrun hstopping
  | wakes | loop | check | sleep | writeMstcp | writeAdapter => exact h.setWorker nofun
  | take hpc hqueue hrun => exact h.setWorker (s := s.setQueue _ _) nofun
  | @awaitEvent b hpc hevent => exact h.setWorker (k := .read) (w := .reads b) nofun
  | @readPackets b batch hpc hlength =>
    exact h.setWorker (k := .read) (w := .pushes (b.readPackets batch)) nofun
  | readFails hpc =>
    refine h.setWorker ?_
    split <;> exact nofun
  | @process b hpc =>
    exact h.setWorker (k := .process) (w := .pushes (b.processPackets f s.packetsProcessed)) nofun
  | @push k b hpc hchecked =>
    have hqueue : (s.setQueue k.next (s.queue k.next ++ [b])).Alive := h
    exact hqueue.notify.setWorker nofun

theorem Alive.of_reachable [Inhabited β] (h : (system f).Reachable s) : s.Alive := by
  refine h.invariant (I := Alive) ?_ fun _ _ _ hs hstep => hs.step hstep
  rintro s rfl
  exact nofun

/-- Where the threads of a running filter are when none can go on by itself: each sleeps before an
empty queue, except that the read thread may be waiting for the driver. -/
theorem Resting.worker [Inhabited β] (h : s.Resting f) (hplaced : s.Placed) (halive : s.Alive)
    (hrun : s.filterState = .running) (k : Stage) :
    s.worker k = .asleep ∨ (k = .read ∧ ∃ b, s.worker k = .works b ∨ s.worker k = .reads b) := by
  have hchecked : ∀ l, s.worker l ≠ .checked := fun l hl => h l _ (.sleep hl)
  have henters : ¬ (s.worker k = .enters ∨ s.worker k = .woken) := by
    intro hpc
    cases hqueue : s.queue k with
    | nil => exact h k _ (.check hpc hqueue hrun)
    | cons b q => exact h k _ (.take hpc hqueue (.inl hrun))
  cases hpc : s.worker k with
  | exited => exact absurd hpc (halive hrun k)
  | top => exact absurd (.loop hpc hrun) (h k _)
  | enters => exact absurd (.inl hpc) henters
  | checked => exact absurd hpc (hchecked k)
  | asleep => exact .inl rfl
  | woken => exact absurd (.inr hpc) henters
  | works b =>
    cases k with
    | read => exact .inr ⟨rfl, b, .inl rfl⟩
    | process => exact absurd (.process hpc) (h .process _)
    | writeMstcp => exact absurd (.writeMstcp hpc) (h .writeMstcp _)
    | writeAdapter => exact absurd (.writeAdapter hpc) (h .writeAdapter _)
  | reads b =>
    have hworker := hplaced.worker k
    rw [hpc] at hworker
    exact .inr ⟨hworker.1, b, .inr rfl⟩
  | pushes b => exact absurd (.push hpc (hchecked k.next)) (h k _)

/-- When no thread can go on by itself, the loop has handed over nothing more. -/
theorem Resting.sent_eq [Inhabited β] (h : s.Resting f) (hreach : (system f).Reachable s)
    (hrun : s.filterState = .running) (k : Sink) :
    s.sent k = f.forwarded k 0 s.packetsRead := by
  have hplaced := Placed.of_reachable hreach
  have hworker := h.worker hplaced (Alive.of_reachable hreach) hrun
  obtain ⟨hle, hunprocessed, hsent, -⟩ := Accounted.of_reachable hreach hrun
  have hempty : ∀ l, l ≠ .read → s.located l = [] := by
    intro l hl
    rcases hworker l with hasleep | ⟨hread, -⟩
    · rw [located, hasleep, hplaced.asleep l (.inr hasleep)]
      rfl
    · exact absurd hread hl
  have hprepared : ∀ b ∈ s.ring, Stage.read.Prepared b := by
    intro b hb
    have hring : s.ring = (s.worker .read).held ++ s.queue .read := by
      rw [ring, hempty .writeAdapter nofun, hempty .writeMstcp nofun, hempty .process nofun]
      rfl
    rw [hring] at hb
    rcases List.mem_append.mp hb with hb | hb
    · have hread := hplaced.worker .read
      rcases hworker .read with hasleep | ⟨-, c, hworks | hreads⟩
      · rw [hasleep] at hb
        cases hb
      · rw [hworks] at hb hread
        rw [List.mem_singleton.mp hb]
        exact hread
      · rw [hreads] at hb hread
        rw [List.mem_singleton.mp hb]
        exact hread.2
    · exact hplaced.queued .read b hb
  have hnone : s.packetsRead.drop s.packetsProcessed = [] := by
    rw [hunprocessed]
    exact List.flatMap_eq_nil_iff.mpr fun b hb => PacketBlock.packets_eq_nil (hprepared b hb).1
  have hall : s.packetsRead.take s.packetsProcessed = s.packetsRead := by
    rw [List.take_of_length_le (List.drop_eq_nil_iff.mp hnone)]
  have hsent := hsent k
  rwa [List.flatMap_eq_nil_iff.mpr fun b hb =>
    PacketBlock.requested_eq_nil ((hprepared b hb).2 k), List.append_nil, hall] at hsent

/-! ## The threads come to rest -/

/-- The steps a block may still cause when the thread is about to push it. -/
def distance : Stage → Nat
  | .writeAdapter => 6
  | .writeMstcp => 12
  | .process => 18
  | .read => 24

/-- The steps a block may still cause when it is in the thread's queue. Past the queue of the read
thread it waits for the driver. -/
def queueCost : Stage → Nat
  | .read => 0
  | k => distance k

/-- The steps a thread and its block may still cause. -/
def workerCost (k : Stage) : WorkerPc β → Nat
  | .works _ => queueCost k + 1
  | .pushes _ => distance k
  | .top => 3
  | .enters | .woken => 2
  | .checked => 1
  | .reads _ | .asleep | .exited => 0

/-- The steps a thread and its queue may still cause. -/
def cost (s : QueuedPacketFilter β) (k : Stage) : Nat :=
  workerCost k (s.worker k) + queueCost k * (s.queue k).length

/-- A bound for the steps the worker threads can take without the driver. -/
def pending (s : QueuedPacketFilter β) : Nat :=
  s.cost .read + s.cost .process + s.cost .writeMstcp + s.cost .writeAdapter

theorem pending_setWorker (s : QueuedPacketFilter β) (k : Stage) (w : WorkerPc β) :
    (s.setWorker k w).pending + workerCost k (s.worker k) = s.pending + workerCost k w := by
  cases k <;> simp [pending, cost, setWorker] <;> omega

theorem pending_setQueue (s : QueuedPacketFilter β) (k : Stage) (q : List (PacketBlock β)) :
    (s.setQueue k q).pending + queueCost k * (s.queue k).length =
      s.pending + queueCost k * q.length := by
  cases k <;> simp [pending, cost, setQueue] <;> omega

theorem pending_notify (s : QueuedPacketFilter β) (k : Stage) :
    (s.notify k).pending ≤ s.pending + 2 := by
  unfold notify
  split
  next hasleep =>
    have := pending_setWorker s k .woken
    rw [hasleep] at this
    simp only [workerCost] at this
    omega
  next => omega

theorem queueCost_next (k : Stage) : queueCost k.next + 6 ≤ distance k := by
  cases k <;> decide

/-- A thread that moves uses up a part of the bound. -/
theorem pending_setWorker_lt (h : workerCost k w < workerCost k (s.worker k)) :
    (s.setWorker k w).pending < s.pending := by
  have := pending_setWorker s k w
  omega

theorem pending_take_lt {q : List (PacketBlock β)}
    (hpc : s.worker k = .enters ∨ s.worker k = .woken) (hqueue : s.queue k = b :: q) :
    ((s.setQueue k q).setWorker k (.works b)).pending < s.pending := by
  have hworker : workerCost k (s.worker k) = 2 := by
    rcases hpc with hpc | hpc <;> rw [hpc] <;> rfl
  have htaken := pending_setWorker (s.setQueue k q) k (.works b)
  have hrest := pending_setQueue s k q
  rw [show (s.setQueue k q).worker k = s.worker k from rfl, hworker] at htaken
  rw [hqueue, List.length_cons, Nat.mul_succ] at hrest
  simp only [workerCost] at htaken
  omega

theorem pending_push_lt (hpc : s.worker k = .pushes b) : (s.push k b).pending < s.pending := by
  have hne : k ≠ k.next := by cases k <;> exact nofun
  have hqueued := pending_setQueue s k.next (s.queue k.next ++ [b])
  have hnotified := pending_notify (s.setQueue k.next (s.queue k.next ++ [b])) k.next
  have hpushed := pending_setWorker
    ((s.setQueue k.next (s.queue k.next ++ [b])).notify k.next) k .top
  have hworker : ((s.setQueue k.next (s.queue k.next ++ [b])).notify k.next).worker k =
      .pushes b := by
    rw [worker_notify_of_ne hne]
    exact hpc
  have hcost := queueCost_next k
  rw [hworker] at hpushed
  rw [List.length_append, List.length_singleton, Nat.mul_succ] at hqueued
  simp only [workerCost] at hpushed
  unfold push
  omega

/-- Every step a worker thread takes by itself uses up a part of the bound. -/
theorem pending_lt_of_step [Inhabited β] (hstep : Step f s (.worker k) r) :
    r.pending < s.pending := by
  cases hstep with
  | loop hpc hrun => exact pending_setWorker_lt (by simp [hpc, workerCost])
  | leave hpc hstopping => exact pending_setWorker_lt (by simp [hpc, workerCost])
  | take hpc hqueue hrun => exact pending_take_lt hpc hqueue
  | quit hpc hstopping hread =>
    exact pending_setWorker_lt (by rcases hpc with hpc | hpc <;> simp [hpc, workerCost])
  | check hpc hqueue hrun =>
    exact pending_setWorker_lt (by rcases hpc with hpc | hpc <;> simp [hpc, workerCost])
  | sleep hpc => exact pending_setWorker_lt (by simp [hpc, workerCost])
  | @awaitEvent b hpc hevent =>
    exact pending_setWorker_lt (s := s) (k := .read) (w := .reads b) (by simp [hpc, workerCost])
  | @process b hpc =>
    exact pending_setWorker_lt (s := s) (k := .process)
      (w := .pushes (b.processPackets f s.packetsProcessed))
      (by simp [hpc, workerCost, queueCost])
  | @writeMstcp b hpc =>
    exact pending_setWorker_lt (s := s.send .mstcp b)
      (by simp [send, hpc, workerCost, queueCost])
  | @writeAdapter b hpc =>
    exact pending_setWorker_lt (s := s.send .adapter b)
      (by simp [send, hpc, workerCost, queueCost])
  | push hpc hchecked => exact pending_push_lt hpc

/-- A worker thread changes neither the state of the filter nor what was read. -/
theorem filterState_of_worker [Inhabited β] (hstep : Step f s (.worker k) r) :
    r.filterState = s.filterState ∧ r.packetsRead = s.packetsRead := by
  cases hstep with
  | push hpc hchecked =>
    unfold QueuedPacketFilter.push QueuedPacketFilter.notify
    split <;> exact ⟨rfl, rfl⟩
  | _ => exact ⟨rfl, rfl⟩

theorem filterState_of_workerSteps [Inhabited β] (h : WorkerSteps f s r) :
    r.filterState = s.filterState ∧ r.packetsRead = s.packetsRead := by
  refine h.invariant (I := fun q => q.filterState = s.filterState ∧ q.packetsRead = s.packetsRead)
    ?_ ⟨rfl, rfl⟩
  rintro q e q' ⟨hstate, hread⟩ ⟨⟨k, rfl⟩, hstep⟩
  obtain ⟨hstate', hread'⟩ := filterState_of_worker hstep
  exact ⟨hstate'.trans hstate, hread'.trans hread⟩

/-- Left to themselves, the worker threads come to rest. -/
theorem exists_resting [Inhabited β] (f : PacketFunctions β) (s : QueuedPacketFilter β) :
    ∃ q, WorkerSteps f s q ∧ q.Resting f := by
  induction hn : s.pending using Nat.strongRecOn generalizing s with
  | ind n ih =>
    by_cases hrest : s.Resting f
    · exact ⟨s, System.Steps.refl s, hrest⟩
    · obtain ⟨k, r, hstep⟩ : ∃ k r, Step f s (.worker k) r := by
        simpa [Resting] using hrest
      obtain ⟨q, hsteps, hq⟩ := ih r.pending (hn ▸ pending_lt_of_step hstep) r rfl
      have hfirst : WorkerSteps f s r :=
        (System.Steps.refl s).snoc (e := .worker k) ⟨⟨k, rfl⟩, hstep⟩
      exact ⟨q, hfirst.trans hsteps, hq⟩

/-- The four threads refine the loop. What each sink has is the first part of what the loop hands
over to it, in the loop's order; the threads, left to themselves, come to rest, and whenever they
rest each sink has all of it. No write request is overfull, and the ten blocks are there. -/
theorem threads_refine_loop [Inhabited β] (h : (system f).Reachable s)
    (hrun : s.filterState = .running) :
    (∀ k, s.sent k <+: f.forwarded k 0 s.packetsRead) ∧
    (∃ q, WorkerSteps f s q ∧ q.Resting f) ∧
    (∀ q, WorkerSteps f s q → q.Resting f → ∀ k, q.sent k = f.forwarded k 0 s.packetsRead) ∧
    (∀ b ∈ s.ring, ∀ k, (b.writeRequest k).length ≤ maximumPacketBlock) ∧
    (s.ring.map PacketBlock.id).Perm (List.range maximumBlockNum) := by
  have haccounted := Accounted.of_reachable h hrun
  refine ⟨fun k => ?_, exists_resting f s, fun q hsteps hrest k => ?_,
    fun b hb => (Placed.of_reachable h).length_le hb, haccounted.blocks⟩
  · have hall : f.forwarded k 0 s.packetsRead =
        f.forwarded k 0 (s.packetsRead.take s.packetsProcessed) ++
          f.forwarded k (0 + (s.packetsRead.take s.packetsProcessed).length)
            (s.packetsRead.drop s.packetsProcessed) := by
      rw [← PacketFunctions.forwarded_append, List.take_append_drop]
    rw [hall, ← haccounted.sent k, List.append_assoc]
    exact List.prefix_append ..
  · obtain ⟨hstate, hread⟩ := filterState_of_workerSteps hsteps
    obtain ⟨s₀, hinit, hrun₀⟩ := h
    have hreach : (system f).Reachable q := ⟨s₀, hinit, hrun₀.trans hsteps.of_restrict⟩
    rw [← hread]
    exact hrest.sent_eq hreach (hstate.trans hrun) k

/-- A filter after its start. -/
def fresh : QueuedPacketFilter Unit := started {}

/-- The first packet passes, the second is dropped and every other one reverted. -/
def passDropRevert : PacketFunctions Unit where
  outgoing := some fun n p => (if n = 0 then .pass else if n = 1 then .drop else .revert, p)
  incoming := some fun n p => (if n = 0 then .pass else if n = 1 then .drop else .revert, p)

/-- Three packets on their way out and one on its way in. -/
def fourPackets : List (CapturedPacket Unit) :=
  [⟨packetFlagOnSend, ()⟩, ⟨packetFlagOnSend, ()⟩, ⟨packetFlagOnSend, ()⟩,
    ⟨packetFlagOnReceive, ()⟩]

/-- The read thread has read the packets. -/
theorem exists_reads (f : PacketFunctions Unit) : ∃ s, (system f).Reachable s ∧
    s.filterState = .running ∧ s.packetsRead = fourPackets := by
  have hstarted : (system f).Reachable fresh :=
    System.Reachable.snoc (.init rfl) (.startFilter rfl)
  have hloop := hstarted.snoc (M := system f) (.loop (k := .read) rfl rfl)
  have htake := hloop.snoc (M := system f) (.take (k := .read) (Or.inl rfl) rfl (Or.inl rfl))
  have hsignal := htake.snoc (M := system f) .driverSignals
  have hevent := hsignal.snoc (M := system f) (.awaitEvent rfl rfl)
  have hlength : fourPackets.length ≤ maximumPacketBlock := by decide
  have hread := hevent.snoc (M := system f) (.readPackets rfl hlength)
  exact ⟨_, hread, rfl, rfl⟩

/-- When the threads rest, the adapter has the packet that passed and the one that came in, and the
protocol stack the one that was reverted. -/
theorem threads_refine_loop_reverting :
    ∃ q, (system passDropRevert).Reachable q ∧
      q.sent .adapter = [⟨packetFlagOnSend, ()⟩, ⟨packetFlagOnReceive, ()⟩] ∧
      q.sent .mstcp = [⟨packetFlagOnSend, ()⟩] := by
  obtain ⟨s, hreach, hrun, hread⟩ := exists_reads passDropRevert
  obtain ⟨-, ⟨q, hsteps, hrest⟩, hall, -⟩ := threads_refine_loop hreach hrun
  obtain ⟨s₀, hinit, hrun₀⟩ := hreach
  refine ⟨q, ⟨s₀, hinit, hrun₀.trans hsteps.of_restrict⟩, ?_, ?_⟩
  · rw [hall q hsteps hrest, hread]
    rfl
  · rw [hall q hsteps hrest, hread]
    rfl

end QueuedPacketFilter

end CutieProxy
