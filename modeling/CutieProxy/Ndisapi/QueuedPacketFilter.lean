import CutieProxy.Lib.Transition
import Mathlib.Data.List.Basic
import Mathlib.Logic.Function.Basic

/-!
# The packet filter and its four worker threads

`queued_packet_filter` owns ten blocks of packets, which go around four queues: the read thread has
the driver fill a block, the process thread calls the packet functions and sorts the packets into
the block's two write requests, and two write threads hand the requests over. Every thread waits on
its queue with a condition variable whose predicate also looks at the state of the filter;
`stop_filter` changes the state and notifies without holding a mutex of the queues, so evaluating
the predicate and going to sleep are two steps here.
-/

namespace CutieProxy

open Transition

universe u

/-- `queued_packet_filter::filter_state`. -/
inductive FilterState where
  | stopped
  | starting
  | running
  | stopping
  deriving DecidableEq

/-- `queued_packet_filter::packet_action`. -/
inductive PacketAction where
  | pass
  | drop
  | revert
  deriving DecidableEq, Repr

/-- `maximum_packet_block`. -/
def maximumPacketBlock : Nat := 510

/-- `maximum_block_num`. -/
def maximumBlockNum : Nat := 10

/-- `PACKET_FLAG_ON_SEND`. -/
def packetFlagOnSend : Nat := 0x1

/-- `PACKET_FLAG_ON_RECEIVE`. -/
def packetFlagOnReceive : Nat := 0x2

/-- `INTERMEDIATE_BUFFER` as the threads of the filter see it: `m_dwDeviceFlags`, and the rest. -/
structure CapturedPacket (β : Type u) where
  deviceFlags : Nat
  memory : β

/-- Where packets are handed over. -/
inductive Sink where
  | mstcp
  | adapter
  deriving DecidableEq

/-! ## Packet blocks -/

/-- `packet_block`: its buffers and its three driver requests. A write request is the list of the
buffers its entries below `dwPacketsNumber` point to. -/
structure PacketBlock (β : Type u) where
  /-- Which of the blocks it is. -/
  id : Nat
  /-- The call of `start_filter` that allocated it. -/
  start : Nat := 0
  packetBuffer : Nat → CapturedPacket β
  packetsSuccess : Nat := 0
  writeRequest : Sink → List Nat := fun _ => []

namespace PacketBlock

variable {β : Type u}

/-- Block `i` of those that `init_filter` allocates. -/
def allocated [Inhabited β] (start i : Nat) : PacketBlock β where
  id := i
  start := start
  packetBuffer _ := ⟨0, default⟩

/-- The packets `ReadPackets` left in the block. -/
def packets (b : PacketBlock β) : List (CapturedPacket β) :=
  (List.range b.packetsSuccess).map b.packetBuffer

/-- The packets a write request points to. -/
def requested (k : Sink) (b : PacketBlock β) : List (CapturedPacket β) :=
  (b.writeRequest k).map b.packetBuffer

/-- `ReadPackets` fills the first buffers of the block. -/
def readPackets (b : PacketBlock β) (batch : List (CapturedPacket β)) : PacketBlock β :=
  { b with
    packetBuffer := fun i => (batch[i]?).getD (b.packetBuffer i)
    packetsSuccess := batch.length }

/-- Appends buffer `i` to a write request. -/
def place (b : PacketBlock β) (k : Sink) (i : Nat) : PacketBlock β :=
  { b with writeRequest := Function.update b.writeRequest k (b.writeRequest k ++ [i]) }

/-- A write request after its packets were handed over. -/
def clearRequest (b : PacketBlock β) (k : Sink) : PacketBlock β :=
  { b with writeRequest := Function.update b.writeRequest k [] }

end PacketBlock

/-- `filter_outgoing_packet_` and `filter_incoming_packet_`. What a call returns, and what it makes
of the packet, may depend on all that happened before: the argument is the number of packets
processed before. -/
structure PacketFunctions (β : Type u) where
  outgoing : Option (Nat → CapturedPacket β → PacketAction × CapturedPacket β) := none
  incoming : Option (Nat → CapturedPacket β → PacketAction × CapturedPacket β) := none

namespace PacketFunctions

variable {β : Type u}

/-- The action for a packet, and the packet after the call. -/
def act (f : PacketFunctions β) (n : Nat) (p : CapturedPacket β) :
    PacketAction × CapturedPacket β :=
  let packetFunction := if p.deviceFlags = packetFlagOnSend then f.outgoing else f.incoming
  match packetFunction with
  | some call => call n p
  | none => (.pass, p)

end PacketFunctions

/-- The request a packet is placed in. -/
def sinkOf (action : PacketAction) (deviceFlags : Nat) : Option Sink :=
  match action with
  | .pass => some (if deviceFlags = packetFlagOnSend then .adapter else .mstcp)
  | .revert => some (if deviceFlags = packetFlagOnReceive then .adapter else .mstcp)
  | .drop => none

namespace PacketBlock

variable {β : Type u}

/-- The body of the loop of `packet_process_thread`, for buffer `i`. -/
def processPacket (f : PacketFunctions β) (n : Nat) (b : PacketBlock β) (i : Nat) :
    PacketBlock β :=
  let (action, p) := f.act (n + i) (b.packetBuffer i)
  let b' := { b with packetBuffer := Function.update b.packetBuffer i p }
  match sinkOf action p.deviceFlags with
  | some k => b'.place k i
  | none => b'

/-- What `packet_process_thread` does with a block, when `n` packets were processed before. -/
def processPackets (f : PacketFunctions β) (n : Nat) (b : PacketBlock β) : PacketBlock β :=
  { (List.range b.packetsSuccess).foldl (processPacket f n) b with packetsSuccess := 0 }

end PacketBlock

/-! ## Threads -/

/-- The four worker threads, and their queues. -/
inductive Stage where
  | read
  | process
  | writeMstcp
  | writeAdapter
  deriving DecidableEq

/-- The queue a thread pushes its blocks to. -/
def Stage.next : Stage → Stage
  | .read => .process
  | .process => .writeMstcp
  | .writeMstcp => .writeAdapter
  | .writeAdapter => .read

/-- Where a worker thread is. -/
inductive WorkerPc (β : Type u) where
  /-- Not started, or returned. -/
  | exited
  /-- Before the condition of its loop. -/
  | top
  /-- Before it locks its queue. -/
  | enters
  /-- The predicate was false: has the queue's mutex, and is about to sleep. -/
  | checked
  /-- Waits for a notification. -/
  | asleep
  /-- Has been woken, and is about to lock its queue and evaluate the predicate again. -/
  | woken
  /-- Has taken a block. -/
  | works (b : PacketBlock β)
  /-- The read thread, after `wait_event` and `reset_event`. -/
  | reads (b : PacketBlock β)
  /-- Is about to push its block. -/
  | pushes (b : PacketBlock β)

/-- Where a call of `stop_filter` is. -/
inductive StopPc where
  /-- There is none. -/
  | idle
  /-- In `network_adapter::release`. -/
  | signals
  /-- Before `notify_all` for a queue. -/
  | notifies (k : Stage)
  /-- In `join` for a thread. -/
  | joins (k : Stage)
  /-- Before it empties the queues. -/
  | clears
  deriving DecidableEq

/-- `queued_packet_filter`, with what was read and handed over since `start_filter`. -/
structure QueuedPacketFilter (β : Type u) where
  filterState : FilterState := .stopped
  queue : Stage → List (PacketBlock β) := fun _ => []
  worker : Stage → WorkerPc β := fun _ => .exited
  stopPc : StopPc := .idle
  packetEvent : Bool := false
  /-- The calls of `start_filter` that found the filter stopped. -/
  starts : Nat := 0
  /-- The packets the driver returned. -/
  packetsRead : List (CapturedPacket β) := []
  /-- How many packets the process thread is done with. -/
  packetsProcessed : Nat := 0
  /-- The packets handed over. -/
  sent : Sink → List (CapturedPacket β) := fun _ => []

/-- How `init_filter` fails: `bad_alloc` after some blocks, or `set_packet_event`. -/
inductive InitFailure where
  | badAlloc (blocks : Fin maximumBlockNum)
  | setPacketEvent
  deriving DecidableEq

/-- What the filter, its threads and the driver do. A call of `start_filter`, `stop_filter` or
`reconfigure` that is refused changes nothing and is no step; `reconfigure` changes none of this. -/
inductive FilterEvent (β : Type u) where
  | startFilter
  | startFails (failure : InitFailure)
  | stopFilter
  | signal
  | notifyAll (k : Stage)
  | join (k : Stage)
  | clear
  /-- The driver sets the packet event. -/
  | driverSignals
  | readPackets (batch : List (CapturedPacket β))
  | readFails
  /-- A thread wakes up without a notification. -/
  | wakes (k : Stage)
  /-- A worker thread goes on by itself. -/
  | worker (k : Stage)

namespace QueuedPacketFilter

variable {β : Type u}

/-- The thread moves on. -/
def setWorker (s : QueuedPacketFilter β) (k : Stage) (pc : WorkerPc β) : QueuedPacketFilter β :=
  { s with worker := Function.update s.worker k pc }

/-- The queue changes. -/
def setQueue (s : QueuedPacketFilter β) (k : Stage) (q : List (PacketBlock β)) :
    QueuedPacketFilter β :=
  { s with queue := Function.update s.queue k q }

/-- A notification for a queue. -/
def notify (s : QueuedPacketFilter β) (k : Stage) : QueuedPacketFilter β :=
  match s.worker k with
  | .asleep => s.setWorker k .woken
  | _ => s

/-- The thread of stage `k` pushes a block to the next queue, with `notify_one`. -/
def push (s : QueuedPacketFilter β) (k : Stage) (b : PacketBlock β) : QueuedPacketFilter β :=
  ((s.setQueue k.next (s.queue k.next ++ [b])).notify k.next).setWorker k .top

/-- Pushes `n` new blocks to the read queue. -/
def allocate [Inhabited β] (n : Nat) (s : QueuedPacketFilter β) : QueuedPacketFilter β :=
  s.setQueue .read (s.queue .read ++ (List.range n).map (PacketBlock.allocated s.starts))

/-- `init_filter`, with how it fails if it does. -/
def initFilter [Inhabited β] (failure : Option InitFailure) (s : QueuedPacketFilter β) :
    Bool × QueuedPacketFilter β :=
  match failure with
  | some (.badAlloc n) => (false, s.allocate n)
  | some .setPacketEvent => (false, (s.allocate maximumBlockNum).setQueue .read [])
  | none => (true, s.allocate maximumBlockNum)

/-- `start_filter` before `init_filter`. -/
def starting (s : QueuedPacketFilter β) : QueuedPacketFilter β :=
  { s with filterState := .starting, starts := s.starts + 1 }

/-- The threads of the filter are started. -/
def runThreads (s : QueuedPacketFilter β) : QueuedPacketFilter β :=
  { s with
    filterState := .running
    worker := fun _ => .top
    packetsRead := []
    packetsProcessed := 0
    sent := fun _ => [] }

/-- `start_filter`, with how `init_filter` fails if it does. -/
def startFilter [Inhabited β] (failure : Option InitFailure) (s : QueuedPacketFilter β) :
    Bool × QueuedPacketFilter β :=
  if s.filterState ≠ .stopped then (false, s)
  else
    match s.starting.initFilter failure with
    | (true, s') => (true, s'.runThreads)
    | (false, s') => (false, s')

/-- `reconfigure`, which reads the list of the interfaces again. -/
def reconfigure (s : QueuedPacketFilter β) : Bool × QueuedPacketFilter β :=
  if s.filterState ≠ .stopped then (false, s) else (true, s)

/-- A filter that was stopped after a `start_filter` that succeeds. -/
def started [Inhabited β] (s : QueuedPacketFilter β) : QueuedPacketFilter β :=
  (s.starting.initFilter none).2.runThreads

/-- Hands over the packets of a write request. -/
def send (s : QueuedPacketFilter β) (k : Sink) (b : PacketBlock β) : QueuedPacketFilter β :=
  { s with sent := Function.update s.sent k (s.sent k ++ b.requested k) }

/-- The stop of the filter after `notify_all` for a queue. -/
def StopPc.afterNotify : Stage → StopPc
  | .writeAdapter => .joins .read
  | k => .notifies k.next

/-- The stop of the filter after a thread was joined. -/
def StopPc.afterJoin : Stage → StopPc
  | .writeAdapter => .clears
  | k => .joins k.next

open PacketBlock WorkerPc in
/-- What happens when. -/
inductive Step [Inhabited β] (f : PacketFunctions β) :
    QueuedPacketFilter β → FilterEvent β → QueuedPacketFilter β → Prop
  | startFilter {s} : s.filterState = .stopped → Step f s .startFilter s.started
  | startFails {s} (failure : InitFailure) : s.filterState = .stopped →
      Step f s (.startFails failure) (s.starting.initFilter (some failure)).2
  | stopFilter {s} : s.filterState = .running →
      Step f s .stopFilter { s with filterState := .stopping, stopPc := .signals }
  | signal {s} : s.stopPc = .signals →
      Step f s .signal { s with packetEvent := true, stopPc := .notifies .read }
  | notifyAll {s} {k : Stage} : s.stopPc = .notifies k →
      Step f s (.notifyAll k) { s.notify k with stopPc := StopPc.afterNotify k }
  | join {s} {k : Stage} : s.stopPc = .joins k → s.worker k = exited →
      Step f s (.join k) { s with stopPc := StopPc.afterJoin k }
  | clear {s} : s.stopPc = .clears →
      Step f s .clear { s with filterState := .stopped, stopPc := .idle, queue := fun _ => [] }
  | driverSignals {s} : Step f s .driverSignals { s with packetEvent := true }
  | wakes {s} {k : Stage} : s.worker k = asleep → Step f s (.wakes k) (s.setWorker k woken)
  | loop {s} {k : Stage} : s.worker k = top → s.filterState = .running →
      Step f s (.worker k) (s.setWorker k enters)
  | leave {s} {k : Stage} : s.worker k = top → s.filterState ≠ .running →
      Step f s (.worker k) (s.setWorker k exited)
  /-- The read thread takes a block it finds at once whatever the state of the filter. -/
  | take {s} {k : Stage} {b : PacketBlock β} {q : List (PacketBlock β)} :
      s.worker k = enters ∨ s.worker k = woken → s.queue k = b :: q →
      s.filterState = .running ∨ (k = .read ∧ s.worker k = enters) →
      Step f s (.worker k) ((s.setQueue k q).setWorker k (works b))
  | quit {s} {k : Stage} : s.worker k = enters ∨ s.worker k = woken → s.filterState ≠ .running →
      (k = .read → s.worker k = enters → s.queue k = []) →
      Step f s (.worker k) (s.setWorker k exited)
  | check {s} {k : Stage} : s.worker k = enters ∨ s.worker k = woken → s.queue k = [] →
      s.filterState = .running → Step f s (.worker k) (s.setWorker k checked)
  | sleep {s} {k : Stage} : s.worker k = checked → Step f s (.worker k) (s.setWorker k asleep)
  | awaitEvent {s} {b : PacketBlock β} : s.worker .read = works b → s.packetEvent = true →
      Step f s (.worker .read) { s.setWorker .read (reads b) with packetEvent := false }
  | readPackets {s} {b : PacketBlock β} {batch : List (CapturedPacket β)} :
      s.worker .read = reads b → batch.length ≤ maximumPacketBlock →
      Step f s (.readPackets batch) { s.setWorker .read (pushes (b.readPackets batch)) with
        packetsRead := s.packetsRead ++ batch }
  /-- The read thread tries again while the filter is running. -/
  | readFails {s} {b : PacketBlock β} : s.worker .read = reads b →
      Step f s .readFails
        (s.setWorker .read (if s.filterState = .running then works b else pushes b))
  | process {s} {b : PacketBlock β} : s.worker .process = works b →
      Step f s (.worker .process)
        { s.setWorker .process (pushes (b.processPackets f s.packetsProcessed)) with
          packetsProcessed := s.packetsProcessed + b.packetsSuccess }
  | writeMstcp {s} {b : PacketBlock β} : s.worker .writeMstcp = works b →
      Step f s (.worker .writeMstcp)
        ((s.send .mstcp b).setWorker .writeMstcp (pushes (b.clearRequest .mstcp)))
  | writeAdapter {s} {b : PacketBlock β} : s.worker .writeAdapter = works b →
      Step f s (.worker .writeAdapter)
        ((s.send .adapter b).setWorker .writeAdapter (pushes (b.clearRequest .adapter)))
  /-- The next queue's mutex is free: its thread is not about to sleep. -/
  | push {s} {k : Stage} {b : PacketBlock β} : s.worker k = pushes b →
      s.worker k.next ≠ checked → Step f s (.worker k) (s.push k b)

/-- The filter from its construction on. -/
def system [Inhabited β] (f : PacketFunctions β) :
    System (QueuedPacketFilter β) (FilterEvent β) where
  init s := s = {}
  step := Step f

end QueuedPacketFilter

end CutieProxy
