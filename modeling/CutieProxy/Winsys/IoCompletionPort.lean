import Mathlib.Data.Multiset.Replicate
import Mathlib.Logic.Function.Basic
import CutieProxy.Lib.Transition

/-!
# `io_completion_port` and the servers that registered a callback with it

The threads of the pool take completions from the queue of the port and call the callback the
completion key points to, as long as the pool is active. A callback captures the server that
registered it and is kept until the port is destroyed; the server is stopped and destroyed by
another thread, and the system completes its overlapped operations whenever it likes, those whose
socket was closed as aborted. A key is the number of its server, and the key zero of `stop_thread`
is `none`.
-/

namespace CutieProxy

open Transition

/-! ## States -/

/-- Where a thread of the pool is in `start_thread`. -/
inductive ThreadPc where
  /-- In `GetQueuedCompletionStatus`. -/
  | waiting
  /-- It has taken a completion, before it reads `active_`. -/
  | dequeued (key : Option Nat)
  /-- In the callback of a server. -/
  | calling (server : Nat)
  /-- Before the condition of the loop. -/
  | looping
  deriving DecidableEq, Repr

/-- `io_completion_port`. -/
structure IoCompletionPort where
  /-- `active_`. -/
  active : Bool := false
  /-- The size of `threads_`, which keeps the threads that were joined. -/
  created : Nat := 0
  /-- The threads that run. -/
  threads : Multiset ThreadPc := 0
  /-- The completions that wait in the port, oldest first. -/
  queue : List (Option Nat) := []

/-- How far a server is. -/
inductive ServerPhase where
  /-- `end_server_` is set, and `stop` is not in progress. -/
  | idle
  | running
  /-- `stop` has set `end_server_` and waits for the threads of the server. -/
  | stopping
  | destroyed
  deriving DecidableEq, Repr

/-- A `tcp_proxy_server` or a `socks5_local_udp_proxy_server`. -/
structure Server where
  phase : ServerPhase := .idle
  /-- The accepted overlapped calls on its sockets that have not completed. -/
  outstanding : Nat := 0

/-- The port, the servers, and whether the callback of a destroyed server was called. -/
structure Servers where
  port : IoCompletionPort := {}
  server : Nat → Server := fun _ => {}
  calledLate : Bool := false

namespace Servers

/-- Moves a server to a phase. -/
def setPhase (i : Nat) (phase : ServerPhase) (s : Servers) : Servers :=
  { s with server := Function.update s.server i { s.server i with phase := phase } }

/-- Sets the number of outstanding calls of a server. -/
def setOutstanding (i n : Nat) (s : Servers) : Servers :=
  { s with server := Function.update s.server i { s.server i with outstanding := n } }

/-- Sets the threads that run. -/
def setThreads (threads : Multiset ThreadPc) (s : Servers) : Servers :=
  { s with port := { s.port with threads := threads } }

/-! ## Steps -/

/-- What happens to the port and to the servers. -/
inductive Event where
  | startThreadPool (n : Nat)
  | stopThreadPool
  /-- A step of a thread of the pool. -/
  | thread
  /-- The callback of a server returns to a thread of the pool. -/
  | callReturns (i : Nat)
  /-- The system completes an overlapped call of a server. -/
  | complete (i : Nat)
  /-- An overlapped call of a server is accepted. -/
  | issue (i : Nat)
  | start (i : Nat)
  /-- `stop` sets `end_server_`. -/
  | stop (i : Nat)
  /-- `stop` has joined the threads of the server and destroyed its proxy sockets. -/
  | stopped (i : Nat)
  | destroy (i : Nat)

/-- One step. A server issues calls from its own threads, until `stop` has joined them, and from its
callback. -/
inductive Step : Servers → Event → Servers → Prop
  | startThreadPool {s : Servers} (n : Nat) : s.port.active = false →
      Step s (.startThreadPool n)
        { s with port := { s.port with
          active := true
          created := s.port.created + n
          threads := Multiset.replicate n .waiting + s.port.threads } }
  | stopThreadPool {s : Servers} : s.port.active = true →
      Step s .stopThreadPool
        { s with port := { s.port with
          active := false
          queue := s.port.queue ++ List.replicate s.port.created none } }
  /-- `GetQueuedCompletionStatus` returns. -/
  | dequeue {s : Servers} {rest : Multiset ThreadPc} {key : Option Nat}
      {queue : List (Option Nat)} :
      s.port.threads = .waiting ::ₘ rest → s.port.queue = key :: queue →
      Step s .thread
        { s with port := { s.port with threads := .dequeued key ::ₘ rest, queue := queue } }
  /-- The pool is not active any more: the thread returns. -/
  | leave {s : Servers} {rest : Multiset ThreadPc} {key : Option Nat} :
      s.port.threads = .dequeued key ::ₘ rest → s.port.active = false →
      Step s .thread (s.setThreads rest)
  /-- A completion without a key. -/
  | skip {s : Servers} {rest : Multiset ThreadPc} :
      s.port.threads = .dequeued none ::ₘ rest → s.port.active = true →
      Step s .thread (s.setThreads (.looping ::ₘ rest))
  /-- The callback is called. -/
  | call {s : Servers} {rest : Multiset ThreadPc} {i : Nat} :
      s.port.threads = .dequeued (some i) ::ₘ rest → s.port.active = true →
      Step s .thread
        { s.setThreads (.calling i ::ₘ rest) with
          calledLate := s.calledLate || (s.server i).phase == .destroyed }
  | callReturns {s : Servers} {rest : Multiset ThreadPc} {i : Nat} :
      s.port.threads = .calling i ::ₘ rest →
      Step s (.callReturns i) (s.setThreads (.looping ::ₘ rest))
  | loop {s : Servers} {rest : Multiset ThreadPc} :
      s.port.threads = .looping ::ₘ rest → s.port.active = true →
      Step s .thread (s.setThreads (.waiting ::ₘ rest))
  | exit {s : Servers} {rest : Multiset ThreadPc} :
      s.port.threads = .looping ::ₘ rest → s.port.active = false →
      Step s .thread (s.setThreads rest)
  | complete {s : Servers} {i n : Nat} : (s.server i).outstanding = n + 1 →
      Step s (.complete i)
        { s.setOutstanding i n with
          port := { s.port with queue := s.port.queue ++ [some i] } }
  | issue {s : Servers} {i : Nat} :
      (s.server i).phase = .running ∨ (s.server i).phase = .stopping ∨
        (s.server i).phase = .idle ∧ .calling i ∈ s.port.threads →
      Step s (.issue i) (s.setOutstanding i ((s.server i).outstanding + 1))
  | start {s : Servers} {i : Nat} : (s.server i).phase = .idle →
      Step s (.start i) (s.setPhase i .running)
  | stop {s : Servers} {i : Nat} : (s.server i).phase = .running →
      Step s (.stop i) (s.setPhase i .stopping)
  | stopped {s : Servers} {i : Nat} : (s.server i).phase = .stopping →
      Step s (.stopped i) (s.setPhase i .idle)
  | destroy {s : Servers} {i : Nat} : (s.server i).phase = .idle →
      Step s (.destroy i) (s.setPhase i .destroyed)

/-- The runs of a port and its servers, from before any of them was started. -/
def system : System Servers Event where
  init s := s = {}
  step := Step

end Servers

end CutieProxy
