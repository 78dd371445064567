import Mathlib.Logic.Basic

/-!
# `wait_for_multiple_objects`

The connect thread waits for any number of events with a function that takes fewer than 64 handles.
From 64 handles on `wait_for_multiple_objects` waits for the two halves of the array in turns, in an
order that `rand` gives, and adds the size of the lower half to an index of the upper one. It takes
an index for one of the upper half when it is below the size of the lower half, so that the last
handle of an upper half that is larger by one is misread; and an index of 258 is `WAIT_TIMEOUT`.
`waitsRight_iff` says for which numbers of handles that never matters.

The handles that are signalled do not change, and an array is a function of the index. The results
of `rand` are a sequence; the number of those used is passed on. The loop has a limit (`fuel`) on
the depth of the calls.
-/

namespace CutieProxy

namespace HandleWait

/-- `INFINITE`. -/
def infinite : UInt32 := 4294967295

/-- `WAIT_TIMEOUT`. -/
def waitTimeout : Nat := 258

/-- `MAXIMUM_WAIT_OBJECTS`. -/
def maximumWaitObjects : Nat := 64

/-- `WaitForMultipleObjects` for any one of fewer than 64 handles: the lowest that is signalled. -/
def nativeWait (count : Nat) (handles : Nat → Bool) (ms : UInt32) : Option Nat :=
  match (List.range count).find? handles with
  | some i => some i
  | none => if ms = infinite then none else some waitTimeout

/-- The index of a handle of the upper half in the whole array. `WAIT_OBJECT_0` is 0. -/
def rebase (split result : Nat) : Nat := if result < split then result + split else result

/-- The loop over `branch`, for the branches that are left. -/
def waitBranches (lower upper : Nat → Option (Nat × Nat)) (random : Nat) :
    List Nat → Nat × Nat → Option (Nat × Nat)
  | [], r => some r
  | branch :: rest, (result, calls) =>
    if result = waitTimeout then
      (if random % 2 = branch then lower calls else upper calls).bind
        (waitBranches lower upper random rest)
    else some (result, calls)

/-- `handles + split`. -/
def upperHalf (count : Nat) (handles : Nat → Bool) : Nat → Bool := fun i => handles (count / 2 + i)

/-- The wait for the upper half. -/
def waitUpper (wait : Nat → (Nat → Bool) → Nat → Option (Nat × Nat)) (count : Nat)
    (handles : Nat → Bool) (calls : Nat) : Option (Nat × Nat) :=
  let split := count / 2
  (wait (count - split) (upperHalf count handles) calls).map fun r => (rebase split r.1, r.2)

/-- A pass of the loop: the waits for the two halves. -/
def waitHalves (wait : Nat → (Nat → Bool) → Nat → Option (Nat × Nat)) (random count : Nat)
    (handles : Nat → Bool) (calls : Nat) : Option (Nat × Nat) :=
  waitBranches (wait (count / 2) handles) (waitUpper wait count handles) random [0, 1]
    (waitTimeout, calls)

/-- `wait_for_multiple_objects`, when `rand` has been called `calls` times. -/
def waitForMultipleObjects (rand : Nat → Nat) :
    Nat → Nat → (Nat → Bool) → UInt32 → Nat → Option (Nat × Nat)
  | 0, _, _, _, _ => none
  | fuel + 1, count, handles, ms, calls =>
    if maximumWaitObjects ≤ count then
      let wait := (if ms = infinite then 2000 else ms) / 2
      (waitHalves (fun count handles => waitForMultipleObjects rand fuel count handles wait)
        (rand calls) count handles (calls + 1)).bind fun r =>
          if ms = infinite ∧ r.1 = waitTimeout then
            waitForMultipleObjects rand fuel count handles ms r.2
          else some r
    else (nativeWait count handles ms).map fun result => (result, calls)

/-- What the connect thread relies on: with a signalled handle an infinite wait returns the index of
one, and a finite wait returns, with a timeout only if no handle is signalled. -/
structure WaitsRight (count : Nat) : Prop where
  infinite : ∀ rand handles calls, (∃ i < count, handles i = true) →
    (∃ fuel, (waitForMultipleObjects rand fuel count handles infinite calls).isSome = true) ∧
      ∀ fuel i calls',
        waitForMultipleObjects rand fuel count handles infinite calls = some (i, calls') →
          i < count ∧ handles i = true
  finite : ∀ rand handles calls ms, ms ≠ HandleWait.infinite →
    (∃ fuel, (waitForMultipleObjects rand fuel count handles ms calls).isSome = true) ∧
      ∀ fuel calls',
        waitForMultipleObjects rand fuel count handles ms calls = some (waitTimeout, calls') →
          ∀ i < count, handles i = false

/-- The number of handles is halved evenly until it is below 64, and no index is 258. -/
def EvenlyHalved (count : Nat) : Prop :=
  count ≤ 63 ∨ count ≤ 126 ∧ count % 2 = 0 ∨ count ≤ 252 ∧ count % 4 = 0 ∨ count = 256

variable {rand : Nat → Nat} {fuel count random calls i r : Nat} {handles : Nat → Bool}
  {ms : UInt32} {lower upper : Nat → Option (Nat × Nat)} {result : Nat × Nat}

/-! ## The calls -/

/-- Fewer than 64 handles are waited for as they are. -/
theorem nativeWait_eq_some (h : nativeWait count handles ms = some r) :
    (r < count ∧ handles r = true) ∨
      (r = waitTimeout ∧ ms ≠ infinite ∧ ∀ i < count, handles i = false) := by
  unfold nativeWait at h
  split at h
  · next i hfind =>
    cases h
    exact Or.inl ⟨List.mem_range.mp (List.mem_of_find?_eq_some hfind), List.find?_some hfind⟩
  · next hfind =>
    split at h
    · cases h
    · next hms =>
      cases h
      refine Or.inr ⟨rfl, hms, fun i hi => ?_⟩
      exact Bool.eq_false_iff.mpr (List.find?_eq_none.mp hfind i (List.mem_range.mpr hi))

/-- The half that comes first, and the other when the first times out. -/
theorem waitBranches_eq (lower upper : Nat → Option (Nat × Nat)) (random calls : Nat) :
    (waitBranches lower upper random [0, 1] (waitTimeout, calls) =
      (lower calls).bind fun r => if r.1 = waitTimeout then upper r.2 else some r) ∨
    (waitBranches lower upper random [0, 1] (waitTimeout, calls) =
      (upper calls).bind fun r => if r.1 = waitTimeout then lower r.2 else some r) := by
  rcases Nat.mod_two_eq_zero_or_one random with hrandom | hrandom
  · exact Or.inl (by simp [waitBranches, hrandom])
  · exact Or.inr (by simp [waitBranches, hrandom])

/-- A half returned the index, or the first half and then the second timed out. -/
theorem turns_cases {first second : Nat → Option (Nat × Nat)}
    (h : ((first calls).bind fun r => if r.1 = waitTimeout then second r.2 else some r) =
      some result) :
    (result.1 ≠ waitTimeout ∧ ∃ calls', first calls' = some result ∨ second calls' = some result) ∨
    (result.1 = waitTimeout ∧ (∃ calls' r, first calls' = some r ∧ r.1 = waitTimeout) ∧
      ∃ calls' r, second calls' = some r ∧ r.1 = waitTimeout) := by
  obtain ⟨r, hfirst, hnext⟩ := Option.bind_eq_some_iff.mp h
  split at hnext
  · next htimeout =>
    by_cases hresult : result.1 = waitTimeout
    · exact Or.inr ⟨hresult, ⟨calls, r, hfirst, htimeout⟩, r.2, result, hnext, hresult⟩
    · exact Or.inl ⟨hresult, r.2, Or.inr hnext⟩
  · next hindex =>
    cases hnext
    exact Or.inl ⟨hindex, calls, Or.inl hfirst⟩

/-- Both halves return, and so do they in turns. -/
theorem isSome_turns {first second : Nat → Option (Nat × Nat)}
    (hfirst : ∀ calls, (first calls).isSome = true)
    (hsecond : ∀ calls, (second calls).isSome = true) :
    ((first calls).bind fun r => if r.1 = waitTimeout then second r.2 else some r).isSome =
      true := by
  obtain ⟨r, hr⟩ := Option.isSome_iff_exists.mp (hfirst calls)
  rw [hr, Option.bind_some]
  split
  · exact hsecond r.2
  · rfl

section halves

variable {wait : Nat → (Nat → Bool) → Nat → Option (Nat × Nat)}

/-- A pass ends with an index one of the halves returned, or with a timeout of both. -/
theorem waitHalves_cases (h : waitHalves wait random count handles calls = some result) :
    (result.1 ≠ waitTimeout ∧ ∃ calls', wait (count / 2) handles calls' = some result) ∨
    (result.1 ≠ waitTimeout ∧ ∃ calls' r,
      wait (count - count / 2) (upperHalf count handles) calls' = some r ∧
        (rebase (count / 2) r.1, r.2) = result) ∨
    (result.1 = waitTimeout ∧
      (∃ calls' r, wait (count / 2) handles calls' = some r ∧ r.1 = waitTimeout) ∧
      ∃ calls' r, wait (count - count / 2) (upperHalf count handles) calls' = some r ∧
        rebase (count / 2) r.1 = waitTimeout) := by
  unfold waitHalves at h
  obtain heq | heq := waitBranches_eq (wait (count / 2) handles) (waitUpper wait count handles)
    random calls
  · obtain ⟨hindex, calls', hlower | hupper⟩ | ⟨htimeout, hlower, calls', r, hupper, hr⟩ :=
      turns_cases (heq.symm.trans h)
    · exact Or.inl ⟨hindex, calls', hlower⟩
    · exact Or.inr (Or.inl ⟨hindex, calls', Option.map_eq_some_iff.mp hupper⟩)
    · obtain ⟨u, hu, rfl⟩ := Option.map_eq_some_iff.mp hupper
      exact Or.inr (Or.inr ⟨htimeout, hlower, calls', u, hu, hr⟩)
  · obtain ⟨hindex, calls', hupper | hlower⟩ | ⟨htimeout, ⟨calls', r, hupper, hr⟩, hlower⟩ :=
      turns_cases (heq.symm.trans h)
    · exact Or.inr (Or.inl ⟨hindex, calls', Option.map_eq_some_iff.mp hupper⟩)
    · exact Or.inl ⟨hindex, calls', hlower⟩
    · obtain ⟨u, hu, rfl⟩ := Option.map_eq_some_iff.mp hupper
      exact Or.inr (Or.inr ⟨htimeout, hlower, calls', u, hu, hr⟩)

/-- A pass returns when the waits for the halves do. -/
theorem isSome_waitHalves (hlower : ∀ calls, (wait (count / 2) handles calls).isSome = true)
    (hupper : ∀ calls, (wait (count - count / 2) (upperHalf count handles) calls).isSome = true) :
    (waitHalves wait random count handles calls).isSome = true := by
  have hrebased : ∀ calls, (waitUpper wait count handles calls).isSome = true := fun calls =>
    Option.isSome_map.trans (hupper calls)
  unfold waitHalves
  obtain heq | heq := waitBranches_eq (wait (count / 2) handles) (waitUpper wait count handles)
    random calls
  · rw [heq]
    exact isSome_turns hlower hrebased
  · rw [heq]
    exact isSome_turns hrebased hlower

end halves

/-- Some wait for the handles, finite or not, returns the result. -/
def Reports (rand : Nat → Nat) (count : Nat) (handles : Nat → Bool) (r : Nat) : Prop :=
  ∃ fuel ms calls calls',
    waitForMultipleObjects rand fuel count handles ms calls = some (r, calls')

theorem Reports.of_small (h : Reports rand count handles r) (hcount : count < maximumWaitObjects) :
    (r < count ∧ handles r = true) ∨ (r = waitTimeout ∧ ∀ i < count, handles i = false) := by
  obtain ⟨fuel, ms, calls, calls', h⟩ := h
  cases fuel with
  | zero => cases h
  | succ fuel =>
    rw [waitForMultipleObjects, if_neg (Nat.not_le_of_lt hcount)] at h
    obtain ⟨result, hnative, heq⟩ := Option.map_eq_some_iff.mp h
    cases heq
    obtain hindex | ⟨htimeout, -, hnone⟩ := nativeWait_eq_some hnative
    · exact Or.inl hindex
    · exact Or.inr ⟨htimeout, hnone⟩

/-- What a wait for two halves returns comes from a wait for one of them, and a timeout is one of
both. -/
inductive Joined (rand : Nat → Nat) (count : Nat) (handles : Nat → Bool) : Nat → Prop
  | lower {r : Nat} (hr : r ≠ waitTimeout) (h : Reports rand (count / 2) handles r) :
    Joined rand count handles r
  | upper {u : Nat} (hu : rebase (count / 2) u ≠ waitTimeout)
    (h : Reports rand (count - count / 2) (upperHalf count handles) u) :
    Joined rand count handles (rebase (count / 2) u)
  | timeout {u : Nat} (hlower : Reports rand (count / 2) handles waitTimeout)
    (hu : rebase (count / 2) u = waitTimeout)
    (hupper : Reports rand (count - count / 2) (upperHalf count handles) u) :
    Joined rand count handles waitTimeout

/-- A wait for at least 64 handles returns what two halves come to; without a limit of time this is
no timeout. -/
theorem joined_of_wait (hcount : maximumWaitObjects ≤ count) {calls' : Nat}
    (h : waitForMultipleObjects rand fuel count handles ms calls = some (r, calls')) :
    Joined rand count handles r ∧ (ms = infinite → r ≠ waitTimeout) := by
  induction fuel generalizing calls with
  | zero => cases h
  | succ fuel ih =>
    rw [waitForMultipleObjects, if_pos hcount] at h
    obtain ⟨result, hround, hnext⟩ := Option.bind_eq_some_iff.mp h
    split at hnext
    · exact ih hnext
    · next hend =>
      cases hnext
      refine ⟨?_, fun hms htimeout => hend ⟨hms, htimeout⟩⟩
      obtain ⟨hr, c, hlower⟩ | ⟨hr, c, u, hupper, heq⟩ |
        ⟨hr, ⟨c, l, hlower, hl⟩, c', u, hupper, hu⟩ := waitHalves_cases hround
      · exact Joined.lower hr ⟨_, _, _, _, hlower⟩
      · cases heq
        exact Joined.upper hr ⟨_, _, _, _, hupper⟩
      · have hl' : l = (waitTimeout, l.2) := Prod.ext hl rfl
        have hr' : r = waitTimeout := hr
        rw [hr']
        exact Joined.timeout ⟨_, _, _, _, hlower.trans (congrArg some hl')⟩ hu
          ⟨_, _, _, _, hupper⟩

theorem Reports.joined (h : Reports rand count handles r) (hcount : maximumWaitObjects ≤ count) :
    Joined rand count handles r := by
  obtain ⟨fuel, ms, calls, calls', h⟩ := h
  exact (joined_of_wait hcount h).1

/-- What waits report is shown for fewer than 64 handles, and for more from the halves. -/
theorem Reports.by_halves {motive : Nat → (Nat → Bool) → Nat → Prop}
    (small : ∀ {count : Nat} {handles : Nat → Bool} {r : Nat},
      (r < count ∧ handles r = true) ∨ (r = waitTimeout ∧ ∀ i < count, handles i = false) →
        motive count handles r)
    (large : ∀ {count : Nat} {handles : Nat → Bool} {r : Nat}, 64 ≤ count →
      (∀ {l}, Reports rand (count / 2) handles l → motive (count / 2) handles l) →
      (∀ {u}, Reports rand (count - count / 2) (upperHalf count handles) u →
        motive (count - count / 2) (upperHalf count handles) u) →
      Joined rand count handles r → motive count handles r)
    (h : Reports rand count handles r) : motive count handles r := by
  induction count using Nat.strongRecOn generalizing handles r with
  | ind count ih =>
    rcases Nat.lt_or_ge count maximumWaitObjects with hsmall | hlarge
    · exact small (h.of_small hsmall)
    · have hlt : 64 ≤ count := hlarge
      exact large hlt (fun hlower => ih (count / 2) (by omega) hlower)
        (fun hupper => ih (count - count / 2) (by omega) hupper) (h.joined hlarge)

/-! ## What a wait returns -/

/-- Up to 258 handles a wait returns an index below their number or a timeout. -/
theorem Reports.range (hcount : count ≤ waitTimeout) (h : Reports rand count handles r) :
    r < count ∨ r = waitTimeout := by
  refine h.by_halves (motive := fun count _ r => count ≤ waitTimeout → r < count ∨ r = waitTimeout)
    ?small ?large hcount
  case small =>
    rintro count handles r (⟨hr, -⟩ | ⟨hr, -⟩) -
    · exact Or.inl hr
    · exact Or.inr hr
  case large =>
    intro count handles r hlt ihlower ihupper hjoined hcount
    cases hjoined with
    | lower hr hlower =>
      have hrange := ihlower hlower (by omega)
      exact Or.inl (by omega)
    | upper hu hupper =>
      have hrange := ihupper hupper (by omega)
      unfold rebase at hu ⊢
      split <;> omega
    | timeout => exact Or.inr rfl

/-- Up to 258 handles of which none is signalled only a timeout is returned. -/
theorem Reports.timeout (hcount : count ≤ waitTimeout) (hnone : ∀ i < count, handles i = false)
    (h : Reports rand count handles r) : r = waitTimeout := by
  refine h.by_halves (motive := fun count handles r =>
    count ≤ waitTimeout → (∀ i < count, handles i = false) → r = waitTimeout)
    ?small ?large hcount hnone
  case small =>
    rintro count handles r (⟨hr, hsignalled⟩ | ⟨hr, -⟩) - hnone
    · cases (hnone r hr).symm.trans hsignalled
    · exact hr
  case large =>
    intro count handles r hlt ihlower ihupper hjoined hcount hnone
    cases hjoined with
    | lower hr hlower => exact ihlower hlower (by omega) fun i hi => hnone i (by omega)
    | upper hu hupper =>
      have hu' := ihupper hupper (by omega) fun i hi => hnone (count / 2 + i) (by omega)
      rw [hu'] at hu ⊢
      exact if_neg (by omega)
    | timeout => rfl

theorem EvenlyHalved.le (h : EvenlyHalved count) : count ≤ waitTimeout := by
  unfold EvenlyHalved at h
  unfold waitTimeout
  omega

/-- The halves of an array that is halved evenly. -/
theorem EvenlyHalved.half (h : EvenlyHalved count) (hcount : 64 ≤ count) :
    EvenlyHalved (count / 2) ∧ count - count / 2 = count / 2 := by
  unfold EvenlyHalved at h ⊢
  omega

/-- Where the number is halved evenly, the index of a signalled handle is returned, or a timeout if
there is none. -/
theorem Reports.of_evenlyHalved (heven : EvenlyHalved count) (h : Reports rand count handles r) :
    (r < count ∧ handles r = true) ∨ (r = waitTimeout ∧ ∀ i < count, handles i = false) := by
  refine h.by_halves (motive := fun count handles r => EvenlyHalved count →
    (r < count ∧ handles r = true) ∨ (r = waitTimeout ∧ ∀ i < count, handles i = false))
    (fun hsmall _ => hsmall) ?_ heven
  intro count handles r hlt ihlower ihupper hjoined heven
  have hle := heven.le
  obtain ⟨hhalf, hsame⟩ := heven.half hlt
  rw [hsame] at ihupper
  cases hjoined with
  | lower hr hlower =>
    obtain ⟨hlt', hsignalled⟩ | ⟨htimeout, -⟩ := ihlower hlower hhalf
    · exact Or.inl ⟨by omega, hsignalled⟩
    · exact absurd htimeout hr
  | @upper u hu hupper =>
    rw [hsame] at hupper
    obtain ⟨hlt', hsignalled⟩ | ⟨htimeout, -⟩ := ihupper hupper hhalf
    · rw [rebase, if_pos hlt', Nat.add_comm]
      exact Or.inl ⟨by omega, hsignalled⟩
    · rw [htimeout, rebase, if_neg (by omega)] at hu
      exact absurd rfl hu
  | @timeout u hlower hu hupper =>
    rw [hsame] at hupper
    refine Or.inr ⟨rfl, fun i hi => ?_⟩
    obtain ⟨hlt', -⟩ | ⟨-, hnone⟩ := ihlower hlower hhalf
    · omega
    obtain ⟨hlt', -⟩ | ⟨-, hnone'⟩ := ihupper hupper hhalf
    · -- an index of the upper half is below 258
      rw [rebase, if_pos hlt'] at hu
      omega
    rcases Nat.lt_or_ge i (count / 2) with hi' | hi'
    · exact hnone i hi'
    · have hi'' := hnone' (i - count / 2) (by omega)
      rwa [upperHalf, Nat.add_sub_cancel' hi'] at hi''

/-- Where the number is not halved evenly some handle is never reported, when it is the only one
that is signalled. -/
theorem exists_unreported (hle : count ≤ waitTimeout) (hodd : ¬ EvenlyHalved count) :
    ∃ i < count, ∀ rand, ¬ Reports rand count (fun j => j == i) i := by
  induction count using Nat.strongRecOn with
  | ind count ih =>
    have hlarge : maximumWaitObjects ≤ count := by
      unfold EvenlyHalved at hodd
      unfold maximumWaitObjects
      omega
    have hlt : 64 ≤ count := hlarge
    rcases Nat.mod_two_eq_zero_or_one count with heven | hone
    · -- a handle that the lower half does not report
      have hhalf : ¬ EvenlyHalved (count / 2) := by
        unfold EvenlyHalved at hodd ⊢
        unfold waitTimeout at hle
        omega
      obtain ⟨i, hi, hunreported⟩ := ih (count / 2) (by omega) (by omega) hhalf
      refine ⟨i, by omega, fun rand h => ?_⟩
      cases h.joined hlarge with
      | lower hr hlower => exact hunreported rand hlower
      | @upper u hu hupper =>
        have hu' := hupper.timeout (by omega) fun j hj => beq_eq_false_iff_ne.mpr (by omega)
        rw [hu', rebase, if_neg (by omega)] at hu
        exact hu rfl
      | timeout => omega
    · -- the last handle
      refine ⟨count - 1, by omega, fun rand h => ?_⟩
      generalize hlast : count - 1 = i at h
      cases h.joined hlarge with
      | lower hr hlower =>
        exact hr (hlower.timeout (by omega) fun j hj => beq_eq_false_iff_ne.mpr (by omega))
      | @upper u hu hupper =>
        have hrange := hupper.range (by omega)
        unfold rebase at hlast
        split at hlast <;> omega
      | timeout => omega

/-! ## That a wait returns -/

theorem wait_ne_infinite : (if ms = infinite then 2000 else ms) / 2 ≠ infinite := by
  intro h
  have hnat := congrArg UInt32.toNat h
  have htwo : (2 : UInt32).toNat = 2 := rfl
  have hinfinite : infinite.toNat = 4294967295 := rfl
  rw [UInt32.toNat_div, htwo, hinfinite] at hnat
  have hlt := (if ms = infinite then 2000 else ms).toNat_lt
  omega

/-- A wait with a limit of time returns. -/
theorem isSome_wait (hms : ms ≠ infinite) (hfuel : count < fuel) :
    (waitForMultipleObjects rand fuel count handles ms calls).isSome = true := by
  induction fuel generalizing count handles ms calls with
  | zero => exact absurd hfuel (Nat.not_lt_zero _)
  | succ fuel ih =>
    rw [waitForMultipleObjects]
    rcases Nat.lt_or_ge count maximumWaitObjects with hsmall | hlarge
    · rw [if_neg (Nat.not_le_of_lt hsmall), Option.isSome_map, nativeWait]
      split
      · rfl
      · rw [if_neg hms]
        rfl
    · have hlt : 64 ≤ count := hlarge
      rw [if_pos hlarge]
      have hhalves : (waitHalves (fun count handles =>
          waitForMultipleObjects rand fuel count handles ((if ms = infinite then 2000 else ms) / 2))
          (rand calls) count handles (calls + 1)).isSome = true :=
        isSome_waitHalves (fun calls => ih wait_ne_infinite (by omega))
          fun calls => ih wait_ne_infinite (by omega)
      obtain ⟨r, hr⟩ := Option.isSome_iff_exists.mp hhalves
      exact Option.isSome_of_eq_some
        (Option.bind_eq_some_iff.mpr ⟨r, hr, if_neg fun hend => hms hend.1⟩)

/-- A wait without a limit of time waits for its halves as one of 2000 ms does. -/
theorem wait_infinite_of_index {calls' : Nat}
    (h : waitForMultipleObjects rand fuel count handles 2000 calls = some (r, calls'))
    (hr : r ≠ waitTimeout) :
    waitForMultipleObjects rand fuel count handles infinite calls = some (r, calls') := by
  have htime : (2000 : UInt32) ≠ infinite := by decide
  cases fuel with
  | zero => cases h
  | succ fuel =>
    rw [waitForMultipleObjects] at h ⊢
    rcases Nat.lt_or_ge count maximumWaitObjects with hsmall | hlarge
    · rw [if_neg (Nat.not_le_of_lt hsmall)] at h ⊢
      obtain ⟨result, hnative, heq⟩ := Option.map_eq_some_iff.mp h
      cases heq
      refine Option.map_eq_some_iff.mpr ⟨r, ?_, rfl⟩
      unfold nativeWait at hnative ⊢
      split at hnative
      · exact hnative
      · rw [if_neg htime] at hnative
        exact absurd (Option.some.inj hnative).symm hr
    · rw [if_pos hlarge] at h ⊢
      obtain ⟨result, hround, hnext⟩ := Option.bind_eq_some_iff.mp h
      refine Option.bind_eq_some_iff.mpr ⟨result, hround, ?_⟩
      rw [if_neg fun hend => htime hend.1] at hnext
      cases hnext
      exact if_neg fun hend => hr hend.2

/-! ## The numbers of handles -/

/-- A wait without a limit of time returns no timeout. -/
theorem ne_timeout_of_infinite {calls' : Nat}
    (h : waitForMultipleObjects rand fuel count handles infinite calls = some (r, calls'))
    (hcount : maximumWaitObjects ≤ count) : r ≠ waitTimeout :=
  (joined_of_wait hcount h).2 rfl

theorem EvenlyHalved.waitsRight (heven : EvenlyHalved count) : WaitsRight count where
  infinite := by
    rintro rand handles calls ⟨i, hi, hsignalled⟩
    have hright : ∀ {r}, Reports rand count handles r → r < count ∧ handles r = true := by
      intro r h
      obtain hindex | ⟨-, hnone⟩ := h.of_evenlyHalved heven
      · exact hindex
      · cases (hnone i hi).symm.trans hsignalled
    refine ⟨⟨count + 1, ?_⟩, fun fuel r calls' h => hright ⟨_, _, _, _, h⟩⟩
    have hreturns : (waitForMultipleObjects rand (count + 1) count handles 2000 calls).isSome =
        true := isSome_wait (by decide) (Nat.lt_succ_self _)
    obtain ⟨⟨r, calls'⟩, hwait⟩ := Option.isSome_iff_exists.mp hreturns
    have hlt := (hright ⟨_, _, _, _, hwait⟩).1
    have hle := heven.le
    exact Option.isSome_of_eq_some (wait_infinite_of_index hwait (by omega))
  finite := by
    intro rand handles calls ms hms
    refine ⟨⟨count + 1, isSome_wait hms (Nat.lt_succ_self _)⟩, fun fuel calls' h => ?_⟩
    obtain ⟨hlt, -⟩ | ⟨-, hnone⟩ := Reports.of_evenlyHalved heven ⟨_, _, _, _, h⟩
    · exact absurd heven.le (Nat.not_le_of_lt hlt)
    · exact hnone

/-- Where the only signalled handle is never reported, the wait goes wrong. -/
theorem not_waitsRight_of_unreported (rand : Nat → Nat) (hi : i < count)
    (h : ∀ fuel calls', waitForMultipleObjects rand fuel count (fun j => j == i) infinite 0 ≠
      some (i, calls')) : ¬ WaitsRight count := by
  intro hright
  obtain ⟨⟨fuel, hreturns⟩, hsound⟩ := hright.infinite rand (fun j => j == i) 0
    ⟨i, hi, beq_self_eq_true i⟩
  obtain ⟨⟨r, calls'⟩, hwait⟩ := Option.isSome_iff_exists.mp hreturns
  have hindex := eq_of_beq (hsound fuel r calls' hwait).2
  exact h fuel calls' (hindex ▸ hwait)

/-- For which numbers of handles the connect thread's wait does what it should. -/
theorem waitsRight_iff (count : Nat) : WaitsRight count ↔ EvenlyHalved count := by
  refine ⟨fun hright => by_contra fun hodd => ?_, EvenlyHalved.waitsRight⟩
  rcases Nat.lt_or_ge waitTimeout count with hlarge | hle
  · -- handle 258 is taken for a timeout
    refine not_waitsRight_of_unreported id hlarge (fun fuel calls' h => ?_) hright
    exact ne_timeout_of_infinite h (Nat.le_of_lt (Nat.lt_trans (by decide) hlarge)) rfl
  · obtain ⟨i, hi, hunreported⟩ := exists_unreported hle hodd
    refine not_waitsRight_of_unreported id hi (fun fuel calls' h => ?_) hright
    exact hunreported id ⟨_, _, _, _, h⟩

/-- With the last of 65 handles signalled the index 32 is returned. -/
theorem last_of_65_misread : ¬ ∀ count, 1 ≤ count → WaitsRight count := by
  intro hclaim
  have hright := (hclaim 65 (by decide)).infinite (fun _ => 0) (fun i => i == 64) 0
    ⟨64, by decide, rfl⟩
  have hmisread : waitForMultipleObjects (fun _ => 0) 2 65 (fun i => i == 64) infinite 0 =
      some (32, 1) := by decide
  cases (hright.2 2 32 1 hmisread).2

end HandleWait

end CutieProxy
