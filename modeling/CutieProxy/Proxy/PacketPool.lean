import CutieProxy.Lib.Transition
import Mathlib.Logic.Function.Basic
import Mathlib.Data.List.Nodup

/-!
# The pool of packet buffers

`packet_pool` keeps freed packets in one stack for each of eight sizes. The stacks hold pointers to
different types, which leave and enter the pool as pointers to the largest of them, so the field
`max_size_` is all that says how many bytes a packet has. `packet_pool_sound` says that it is right
in every history, and that no two owners ever share a packet.

`allocate`, `free` and `reset` hold the mutex over everything they do with the stacks, so the calls
of several threads are steps that follow each other.
-/

namespace CutieProxy

open Transition

/-- The sizes `net_packet` is instantiated with, one for each stack. -/
inductive PacketClass where
  | b32
  | b64
  | b128
  | b256
  | b512
  | b1024
  | b2048
  | max
  deriving DecidableEq, Repr

/-- The template argument `Size`. -/
def PacketClass.size : PacketClass → Nat
  | .b32 => 32
  | .b64 => 64
  | .b128 => 128
  | .b256 => 256
  | .b512 => 512
  | .b1024 => 1024
  | .b2048 => 2048
  | .max => 256 * 256

/-- `net_packet`, without the `WSABUF` that its owners write. -/
structure NetPacket where
  /-- The number of bytes `data_` owns. -/
  storage : Nat
  maxSize : Nat
  deriving DecidableEq

/-- `net_packet<Size>::net_packet`. -/
def NetPacket.make (c : PacketClass) : NetPacket := ⟨c.size, c.size⟩

/-- The stack `allocate` looks into. -/
def PacketClass.ofRequest (size : Nat) : PacketClass :=
  if size ≤ 32 then .b32
  else if size ≤ 64 then .b64
  else if size ≤ 128 then .b128
  else if size ≤ 256 then .b256
  else if size ≤ 512 then .b512
  else if size ≤ 1024 then .b1024
  else if size ≤ 2048 then .b2048
  else .max

/-- The stack `free` switches to; none in the branch `default`. -/
def PacketClass.ofMaxSize : Nat → Option PacketClass
  | 32 => some .b32
  | 64 => some .b64
  | 128 => some .b128
  | 256 => some .b256
  | 512 => some .b512
  | 1024 => some .b1024
  | 2048 => some .b2048
  | 65536 => some .max
  | _ => none

/-- `packet_pool`, with the packets there have been and those its callers hold. A packet is named by
the number of packets constructed before it. -/
structure PacketPool (Caller : Type) where
  /-- `p_32_b_` to `p_max_b_`, the top first. -/
  stack : PacketClass → List Nat
  poolCountLimit : Nat
  packet : Nat → NetPacket
  packetCount : Nat
  /-- The packets `allocate` has returned that were not given back. -/
  held : List (Caller × Nat)

namespace PacketPool

variable {Caller : Type} {s t : PacketPool Caller} {c d : PacketClass}
  {p size : Nat} {available : Bool} {caller : Caller}

/-- `packet_pool::packet_pool`. -/
def make (poolSize : Nat) : PacketPool Caller where
  stack _ := []
  poolCountLimit := poolSize
  packet _ := .make .b32
  packetCount := 0
  held := []

/-- A branch of `allocate`: the top of the stack, else a new packet if there is memory for it. -/
def allocateFrom (s : PacketPool Caller) (c : PacketClass) (available : Bool) :
    Option Nat × PacketPool Caller :=
  match s.stack c with
  | p :: rest => (some p, { s with stack := Function.update s.stack c rest })
  | [] =>
    if available then
      (some s.packetCount,
        { s with
          packet := Function.update s.packet s.packetCount (.make c)
          packetCount := s.packetCount + 1 })
    else (none, s)

/-- `packet_pool::allocate`; `available` says whether `std::make_unique` returns, it throws
`std::bad_alloc` otherwise. -/
def allocate (s : PacketPool Caller) (size : Nat) (available : Bool) :
    Option Nat × PacketPool Caller :=
  if size > 256 * 256 then (none, s)
  else s.allocateFrom (.ofRequest size) available

/-- `packet_pool::free`. A packet that is not pushed is destroyed with the parameter. -/
def free (s : PacketPool Caller) (p : Nat) : PacketPool Caller :=
  match PacketClass.ofMaxSize (s.packet p).maxSize with
  | some c =>
    if (s.stack c).length < s.poolCountLimit then
      { s with stack := Function.update s.stack c (p :: s.stack c) }
    else s
  | none => s

/-- `packet_pool::reset`. -/
def reset (s : PacketPool Caller) : PacketPool Caller := { s with stack := fun _ => [] }

/-- The caller takes what `allocate` returned. -/
def give (caller : Caller) : Option Nat × PacketPool Caller → PacketPool Caller
  | (some p, s) => { s with held := (caller, p) :: s.held }
  | (none, s) => s

/-- The calls of `packet_pool`. -/
inductive Call (Caller : Type) where
  | allocate (caller : Caller) (size : Nat) (available : Bool)
  | free (caller : Caller) (p : Nat)
  | reset

/-- A caller frees a packet only if it holds it, and holds it no longer then. -/
inductive Step [DecidableEq Caller] : PacketPool Caller → Call Caller → PacketPool Caller → Prop
  | allocate {s : PacketPool Caller} (caller : Caller) (size : Nat) (available : Bool) :
    Step s (.allocate caller size available) (give caller (s.allocate size available))
  | free {s : PacketPool Caller} {caller : Caller} {p : Nat} (h : (caller, p) ∈ s.held) :
    Step s (.free caller p) { s.free p with held := s.held.erase (caller, p) }
  | reset {s : PacketPool Caller} : Step s .reset s.reset

/-- A pool of the given limit and its callers. -/
def system (Caller : Type) [DecidableEq Caller] (poolSize : Nat) :
    System (PacketPool Caller) (Call Caller) where
  init s := s = make poolSize
  step := Step

/-! ## Sizes -/

/-- `m` is the smallest of the eight sizes that holds `size` bytes. -/
def SmallestFor (size m : Nat) : Prop :=
  (∃ c : PacketClass, m = c.size) ∧ size ≤ m ∧ ∀ c : PacketClass, size ≤ c.size → m ≤ c.size

theorem smallestFor_ofRequest (h : size ≤ 256 * 256) :
    SmallestFor size (PacketClass.ofRequest size).size := by
  have hfits : size ≤ (PacketClass.ofRequest size).size := by
    unfold PacketClass.ofRequest
    repeat' split
    all_goals simp only [PacketClass.size]; omega
  refine ⟨⟨_, rfl⟩, hfits, fun c hc => ?_⟩
  unfold PacketClass.ofRequest
  cases c <;> simp only [PacketClass.size] at hc <;> repeat' split
  all_goals simp only [PacketClass.size]; omega

@[simp] theorem ofMaxSize_size (c : PacketClass) : PacketClass.ofMaxSize c.size = some c := by
  cases c <;> rfl

/-- A packet keeps its size, so no packet is of two sizes. -/
theorem make_injective (h : NetPacket.make c = NetPacket.make d) : c = d := by
  have hsize : c.size = d.size := congrArg NetPacket.maxSize h
  have hsome := ofMaxSize_size c
  rw [hsize, ofMaxSize_size] at hsome
  exact (Option.some.inj hsome).symm

/-! ## What every history keeps -/

/-- Every packet that is kept or held has the size it is kept as, and one owner. -/
structure Sound (s : PacketPool Caller) : Prop where
  kept : ∀ c, ∀ p ∈ s.stack c, s.packet p = .make c ∧ p < s.packetCount
  held : ∀ x ∈ s.held, (∃ c, s.packet x.2 = .make c) ∧ x.2 < s.packetCount
  limited : ∀ c, (s.stack c).length ≤ s.poolCountLimit
  keptOnce : ∀ c, (s.stack c).Nodup
  heldOnce : (s.held.map Prod.snd).Nodup
  apart : ∀ c, ∀ p ∈ s.stack c, ∀ x ∈ s.held, x.2 ≠ p

theorem sound_make (poolSize : Nat) : (make poolSize : PacketPool Caller).Sound where
  kept _ _ hp := nomatch hp
  held _ hx := nomatch hx
  limited _ := Nat.zero_le _
  keptOnce _ := List.nodup_nil
  heldOnce := List.nodup_nil
  apart _ _ hp := nomatch hp

/-- The outcomes of a branch of `allocate`. -/
theorem allocateFrom_cases (s : PacketPool Caller) (c : PacketClass) (available : Bool) :
    (∃ p rest, s.stack c = p :: rest ∧ s.allocateFrom c available =
      (some p, { s with stack := Function.update s.stack c rest })) ∨
    (s.stack c = [] ∧ available = true ∧ s.allocateFrom c available =
      (some s.packetCount,
        { s with
          packet := Function.update s.packet s.packetCount (.make c)
          packetCount := s.packetCount + 1 })) ∨
    (s.stack c = [] ∧ available = false ∧ s.allocateFrom c available = (none, s)) := by
  unfold allocateFrom
  cases hstack : s.stack c with
  | cons p rest => exact Or.inl ⟨p, rest, rfl, rfl⟩
  | nil =>
    cases available with
    | true => exact Or.inr (Or.inl ⟨rfl, rfl, rfl⟩)
    | false => exact Or.inr (Or.inr ⟨rfl, rfl, rfl⟩)

/-- The packet on top of a stack is nowhere else, for its size is that of the stack. -/
theorem Sound.mem_pop (h : s.Sound) {rest : List Nat} (hstack : s.stack c = p :: rest) {q : Nat}
    (hq : q ∈ Function.update s.stack c rest d) : q ∈ s.stack d ∧ q ≠ p := by
  have hp : p ∈ s.stack c := hstack ▸ List.mem_cons_self
  have hnodup : (p :: rest).Nodup := hstack ▸ h.keptOnce c
  rcases eq_or_ne d c with rfl | hd
  · rw [Function.update_self] at hq
    refine ⟨hstack ▸ List.mem_cons_of_mem _ hq, fun heq => ?_⟩
    exact (List.nodup_cons.mp hnodup).1 (heq ▸ hq)
  · rw [Function.update_of_ne hd] at hq
    refine ⟨hq, fun heq => hd ?_⟩
    have hkind := (h.kept d q hq).1
    rw [heq, (h.kept c p hp).1] at hkind
    exact (make_injective hkind).symm

/-- The packet on top of a stack goes to a caller. -/
theorem Sound.pop (h : s.Sound) {rest : List Nat} (hstack : s.stack c = p :: rest)
    (caller : Caller) :
    Sound { s with stack := Function.update s.stack c rest, held := (caller, p) :: s.held } := by
  have hp : p ∈ s.stack c := hstack ▸ List.mem_cons_self
  have hnodup : (p :: rest).Nodup := hstack ▸ h.keptOnce c
  have hmem := fun d q => h.mem_pop (d := d) (q := q) hstack
  refine ⟨fun d q hq => h.kept d q (hmem d q hq).1, fun x hx => ?_, fun d => ?_, fun d => ?_, ?_,
    fun d q hq x hx => ?_⟩
  · rcases List.mem_cons.mp hx with rfl | hx
    · exact ⟨⟨c, (h.kept c p hp).1⟩, (h.kept c p hp).2⟩
    · exact h.held x hx
  · have hlimit := h.limited d
    rcases eq_or_ne d c with rfl | hd
    · rw [hstack, List.length_cons] at hlimit
      simp only [Function.update_self]
      omega
    · simpa only [Function.update_of_ne hd] using hlimit
  · rcases eq_or_ne d c with rfl | hd
    · simpa only [Function.update_self] using (List.nodup_cons.mp hnodup).2
    · simpa only [Function.update_of_ne hd] using h.keptOnce d
  · refine List.nodup_cons.mpr ⟨fun hin => ?_, h.heldOnce⟩
    obtain ⟨x, hx, hxp⟩ := List.mem_map.mp hin
    exact h.apart c p hp x hx hxp
  · rcases List.mem_cons.mp hx with rfl | hx
    · exact (hmem d q hq).2.symm
    · exact h.apart d q (hmem d q hq).1 x hx

/-- A new packet goes to a caller. -/
theorem Sound.construct (h : s.Sound) (c : PacketClass) (caller : Caller) :
    Sound { s with
      packet := Function.update s.packet s.packetCount (.make c)
      packetCount := s.packetCount + 1
      held := (caller, s.packetCount) :: s.held } := by
  have hold : ∀ q < s.packetCount,
      Function.update s.packet s.packetCount (.make c) q = s.packet q := fun q hq =>
    Function.update_of_ne (Nat.ne_of_lt hq) ..
  refine ⟨fun d q hq => ?_, fun x hx => ?_, h.limited, h.keptOnce, ?_, fun d q hq x hx => ?_⟩
  · obtain ⟨hkind, hlt⟩ := h.kept d q hq
    exact ⟨(hold q hlt).trans hkind, Nat.lt_succ_of_lt hlt⟩
  · rcases List.mem_cons.mp hx with rfl | hx
    · exact ⟨⟨c, Function.update_self ..⟩, Nat.lt_succ_self _⟩
    · obtain ⟨⟨d, hkind⟩, hlt⟩ := h.held x hx
      exact ⟨⟨d, (hold x.2 hlt).trans hkind⟩, Nat.lt_succ_of_lt hlt⟩
  · refine List.nodup_cons.mpr ⟨fun hin => ?_, h.heldOnce⟩
    obtain ⟨x, hx, hxp⟩ := List.mem_map.mp hin
    exact Nat.ne_of_lt (h.held x hx).2 hxp
  · rcases List.mem_cons.mp hx with rfl | hx
    · exact (Nat.ne_of_lt (h.kept d q hq).2).symm
    · exact h.apart d q hq x hx

theorem Sound.give_allocate (h : s.Sound) (caller : Caller) (size : Nat) (available : Bool) :
    (give caller (s.allocate size available)).Sound := by
  unfold allocate
  split
  · exact h
  · rcases s.allocateFrom_cases (.ofRequest size) available with
      ⟨p, rest, hstack, heq⟩ | ⟨-, -, heq⟩ | ⟨-, -, heq⟩
    · rw [heq]
      exact h.pop hstack caller
    · rw [heq]
      exact h.construct _ caller
    · rw [heq]
      exact h

/-- A packet nobody has goes onto the stack of its size. -/
theorem Sound.push (h : s.Sound) (hkind : s.packet p = .make c) (hlt : p < s.packetCount)
    (hkept : ∀ d, p ∉ s.stack d) (hheld : ∀ x ∈ s.held, x.2 ≠ p)
    (hroom : (s.stack c).length < s.poolCountLimit) :
    Sound { s with stack := Function.update s.stack c (p :: s.stack c) } := by
  have hmem : ∀ d, ∀ q ∈ Function.update s.stack c (p :: s.stack c) d,
      q ∈ s.stack d ∨ d = c ∧ q = p := by
    intro d q hq
    rcases eq_or_ne d c with rfl | hd
    · rw [Function.update_self] at hq
      exact (List.mem_cons.mp hq).symm.imp_right fun heq => ⟨rfl, heq⟩
    · exact Or.inl (by rwa [Function.update_of_ne hd] at hq)
  refine ⟨fun d q hq => ?_, h.held, fun d => ?_, fun d => ?_, h.heldOnce, fun d q hq x hx => ?_⟩
  · rcases hmem d q hq with hq | ⟨rfl, rfl⟩
    · exact h.kept d q hq
    · exact ⟨hkind, hlt⟩
  · rcases eq_or_ne d c with rfl | hd
    · simp only [Function.update_self, List.length_cons]
      exact hroom
    · simpa only [Function.update_of_ne hd] using h.limited d
  · rcases eq_or_ne d c with rfl | hd
    · simpa only [Function.update_self] using List.nodup_cons.mpr ⟨hkept d, h.keptOnce d⟩
    · simpa only [Function.update_of_ne hd] using h.keptOnce d
  · rcases hmem d q hq with hq | ⟨-, rfl⟩
    · exact h.apart d q hq x hx
    · exact hheld x hx

/-- `free` has no business with what callers hold. -/
theorem free_held (s : PacketPool Caller) (p : Nat) (l : List (Caller × Nat)) :
    { s.free p with held := l } = ({ s with held := l }).free p := by
  unfold free
  dsimp only
  split
  · split <;> rfl
  · rfl

theorem Sound.reset (h : s.Sound) : s.reset.Sound where
  kept _ _ hp := nomatch hp
  held := h.held
  limited _ := Nat.zero_le _
  keptOnce _ := List.nodup_nil
  heldOnce := h.heldOnce
  apart _ _ hp := nomatch hp

/-- `allocate` refuses what is above the largest size, and else returns a packet of the right size
that nobody else has, unless the memory for it is missing. -/
theorem Sound.allocate_spec (h : s.Sound) (size : Nat) (available : Bool) :
    (256 * 256 < size → s.allocate size available = (none, s)) ∧
    (size ≤ 256 * 256 → available = true → ∃ p t, s.allocate size available = (some p, t)) ∧
    ∀ p t, s.allocate size available = (some p, t) → SmallestFor size (t.packet p).maxSize ∧
      (t.packet p).storage = (t.packet p).maxSize ∧ (∀ c, p ∉ t.stack c) ∧
      ∀ x ∈ s.held, x.2 ≠ p := by
  unfold PacketPool.allocate
  split
  · next hlarge =>
    exact ⟨fun _ => rfl, fun hsize => absurd hlarge (Nat.not_lt.mpr hsize), nofun⟩
  · next hsize =>
    have hsmallest := smallestFor_ofRequest (Nat.le_of_not_lt hsize)
    refine ⟨fun hlarge => absurd hlarge hsize, fun _ havailable => ?_, fun p t heq => ?_⟩
    · rcases s.allocateFrom_cases (.ofRequest size) available with
        ⟨p, rest, -, heq⟩ | ⟨-, -, heq⟩ | ⟨-, hfull, -⟩
      · exact ⟨_, _, heq⟩
      · exact ⟨_, _, heq⟩
      · rw [hfull] at havailable
        cases havailable
    · rcases s.allocateFrom_cases (.ofRequest size) available with
        ⟨q, rest, hstack, heq'⟩ | ⟨-, -, heq'⟩ | ⟨-, -, heq'⟩
      all_goals rw [heq'] at heq; cases heq
      · have hp : p ∈ s.stack (.ofRequest size) := hstack ▸ List.mem_cons_self
        have hkind : s.packet p = .make (.ofRequest size) := (h.kept _ p hp).1
        refine ⟨?_, ?_, fun c hc => (h.mem_pop hstack hc).2 rfl, fun x hx => h.apart _ p hp x hx⟩
        · rw [hkind]
          exact hsmallest
        · rw [hkind, NetPacket.make]
      · refine ⟨?_, ?_, fun c hc => Nat.lt_irrefl _ (h.kept c _ hc).2,
          fun x hx => Nat.ne_of_lt (h.held x hx).2⟩
        · dsimp only
          rw [Function.update_self]
          exact hsmallest
        · dsimp only
          rw [Function.update_self, NetPacket.make]

/-- A packet that is held has one holder, and the pool does not keep it. -/
theorem Sound.held_spec (h : s.Sound) {x : Caller × Nat} (hx : x ∈ s.held) :
    (∀ c, x.2 ∉ s.stack c) ∧ ∀ y ∈ s.held, y.2 = x.2 → y = x :=
  ⟨fun c hc => h.apart c x.2 hc x hx rfl,
    fun _ hy heq => List.inj_on_of_nodup_map h.heldOnce hy hx heq⟩

variable [DecidableEq Caller]

/-- A caller lets go of a packet, which nobody has then. -/
theorem Sound.drop (h : s.Sound) {x : Caller × Nat} (hx : x ∈ s.held) :
    Sound { s with held := s.held.erase x } ∧ ∀ y ∈ s.held.erase x, y.2 ≠ x.2 := by
  have hnodup := h.heldOnce
  rw [((List.perm_cons_erase hx).map Prod.snd).nodup_iff, List.map_cons,
    List.nodup_cons] at hnodup
  refine ⟨⟨h.kept, fun y hy => h.held y (List.mem_of_mem_erase hy), h.limited, h.keptOnce,
    hnodup.2, fun c q hq y hy => h.apart c q hq y (List.mem_of_mem_erase hy)⟩, ?_⟩
  intro y hy heq
  exact hnodup.1 (List.mem_map.mpr ⟨y, hy, heq⟩)

theorem Sound.free (h : s.Sound) {x : Caller × Nat} (hx : x ∈ s.held) :
    Sound { s.free x.2 with held := s.held.erase x } := by
  obtain ⟨hdrop, hnobody⟩ := h.drop hx
  obtain ⟨⟨c, hkind⟩, hlt⟩ := h.held x hx
  rw [free_held, PacketPool.free]
  dsimp only
  rw [hkind, NetPacket.make, ofMaxSize_size]
  dsimp only
  split
  · next hroom =>
    exact hdrop.push hkind hlt (fun d hp => h.apart d x.2 hp x hx rfl) hnobody hroom
  · exact hdrop

theorem Sound.step {e : Call Caller} (h : s.Sound) (hstep : Step s e t) : t.Sound := by
  cases hstep with
  | allocate caller size available => exact h.give_allocate caller size available
  | free hx => exact h.free hx
  | reset => exact h.reset

theorem Step.poolCountLimit {e : Call Caller} (hstep : Step s e t) :
    t.poolCountLimit = s.poolCountLimit := by
  cases hstep with
  | allocate caller size available =>
    unfold PacketPool.allocate
    split
    · rfl
    · rcases s.allocateFrom_cases (.ofRequest size) available with
        ⟨p, rest, -, heq⟩ | ⟨-, -, heq⟩ | ⟨-, -, heq⟩ <;> rw [heq] <;> rfl
  | free hx =>
    unfold PacketPool.free
    split
    · split <;> rfl
    · rfl
  | reset => rfl

/-- A history keeps the limit the pool was made with. -/
theorem sound_of_reachable {poolSize : Nat} (h : (system Caller poolSize).Reachable s) :
    s.Sound ∧ s.poolCountLimit = poolSize := by
  refine h.invariant (I := fun s => s.Sound ∧ s.poolCountLimit = poolSize) ?_ ?_
  · rintro _ rfl
    exact ⟨sound_make poolSize, rfl⟩
  · intro s e t hs (hstep : Step s e t)
    exact ⟨hs.1.step hstep, hstep.poolCountLimit.trans hs.2⟩

/-- In every history of a pool, a packet that is returned holds what was asked for, in the smallest
of the sizes that do, and belongs to the caller alone; a packet that is kept has the size of its
stack; no stack exceeds the limit. -/
theorem packet_pool_sound {poolSize : Nat} (h : (system Caller poolSize).Reachable s) :
    (∀ size available, 256 * 256 < size → s.allocate size available = (none, s)) ∧
    (∀ size, size ≤ 256 * 256 → ∃ p t, s.allocate size true = (some p, t)) ∧
    (∀ size available p t, s.allocate size available = (some p, t) →
      SmallestFor size (t.packet p).maxSize ∧ (t.packet p).storage = (t.packet p).maxSize ∧
      (∀ c, p ∉ t.stack c) ∧ ∀ x ∈ s.held, x.2 ≠ p) ∧
    (∀ x ∈ s.held, (∀ c, x.2 ∉ s.stack c) ∧ ∀ y ∈ s.held, y.2 = x.2 → y = x) ∧
    ∀ c, (∀ p ∈ s.stack c, s.packet p = .make c) ∧ (s.stack c).length ≤ poolSize := by
  obtain ⟨hsound, hlimit⟩ := sound_of_reachable h
  refine ⟨fun size available => (hsound.allocate_spec size available).1,
    fun size hsize => (hsound.allocate_spec size true).2.1 hsize rfl,
    fun size available => (hsound.allocate_spec size available).2.2,
    fun x hx => hsound.held_spec hx, fun c => ⟨fun p hp => (hsound.kept c p hp).1, ?_⟩⟩
  exact hlimit ▸ hsound.limited c

/-- The pool after a caller was given a packet for 50 bytes and freed it. -/
def afterFree : PacketPool Bool :=
  { (give false ((make 100).allocate 50 true)).free 0 with held := [] }

theorem reachable_afterFree : (system Bool 100).Reachable afterFree := by
  have hfirst := System.Reachable.init (M := system Bool 100) (s := make 100) rfl
  have htaken := hfirst.snoc (Step.allocate false 50 true)
  have hheld : (false, 0) ∈ (give false ((make 100).allocate 50 true)).held := List.mem_cons_self
  exact htaken.snoc (Step.free hheld)

/-- A request for 40 bytes gets that packet. -/
theorem packet_pool_sound_reused : (afterFree.allocate 40 false).1 = some 0 ∧
    ∀ p t, afterFree.allocate 40 false = (some p, t) → SmallestFor 40 (t.packet p).maxSize ∧
      (t.packet p).storage = (t.packet p).maxSize ∧ (∀ c, p ∉ t.stack c) ∧
      ∀ x ∈ afterFree.held, x.2 ≠ p :=
  ⟨by decide, (packet_pool_sound reachable_afterFree).2.2.1 40 false⟩

end PacketPool

end CutieProxy
