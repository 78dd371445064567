import CutieProxy.Lib.Table

/-!
# Caching a snapshot

A cache is a table a source reported at one moment. A look-up tries several keys; where none of them
is held, the cache is filled again with what the source reports now, and where that does not help
either, the key is entered with a default value (`get`). So a cache is a report and at most one key
it does not have (`Snapshot`): a key is entered right after the cache was filled, and what was
entered before is gone then. `get_table` says that nothing else can be seen of it: whatever is
looked up in whatever order, the answers are those of the report the cache was filled from last
(`Snapshot.answer`).
-/

universe u v

namespace SnapshotCache

variable {κ : Type u} {ν : Type v}

/-- The keys a look-up tries, in order. The key itself is one of them, and what is tried after a key
is tried when that key is looked up. -/
structure Keys (κ : Type u) where
  tried : κ → List κ
  self : ∀ k, k ∈ tried k
  after : ∀ k before j rest, tried k = before ++ j :: rest → ∀ i ∈ rest, i ∈ tried j

/-- Only the key itself is tried. -/
def Keys.plain : Keys κ where
  tried k := [k]
  self _ := List.mem_singleton_self _
  after k before j rest h i hi := by
    cases before with
    | nil =>
      cases h
      cases hi
    | cons b before => simp at h

/-- The key is tried first, and then what `f` makes of it. -/
def Keys.orElse (f : κ → κ) : Keys κ where
  tried k := [k, f k]
  self _ := List.mem_cons_self
  after k before j rest h i hi := by
    match before with
    | [] =>
      cases h
      exact List.mem_cons_of_mem _ hi
    | [_] =>
      cases h
      cases hi
    | _ :: _ :: before => simp at h

variable (keys : Keys κ) (fallback : ν)

/-- A look-up in a table. -/
def lookup (t : Table κ ν) (k : κ) : Option ν := (keys.tried k).findSome? t.find

/-- A look-up in a cache that is filled from `reported` when it has to be. -/
def get [DecidableEq κ] (reported : Table κ ν) (k : κ) (t : Table κ ν) : ν × Table κ ν :=
  match lookup keys t k with
  | some x => (x, t)
  | none =>
    match lookup keys reported k with
    | some x => (x, reported)
    | none => (fallback, reported.insert k fallback)

/-- A report, and a key it does not have that was looked up since. -/
structure Snapshot (keys : Keys κ) (ν : Type v) where
  reported : Table κ ν
  missed : Option κ := none
  absent : ∀ m ∈ missed, lookup keys reported m = none := by simp

variable {keys}

namespace Snapshot

/-- The cache of a snapshot. -/
def table [DecidableEq κ] (s : Snapshot keys ν) : Table κ ν :=
  match s.missed with
  | none => s.reported
  | some m => s.reported.insert m fallback

/-- What the snapshot says of a key. -/
def answer (s : Snapshot keys ν) (k : κ) : ν := (lookup keys s.reported k).getD fallback

/-- The key is answered without a new report. -/
def Knows (s : Snapshot keys ν) (k : κ) : Prop :=
  (lookup keys s.reported k).isSome = true ∨ ∃ m ∈ s.missed, m ∈ keys.tried k

instance [DecidableEq κ] (s : Snapshot keys ν) (k : κ) : Decidable (s.Knows k) :=
  inferInstanceAs (Decidable (_ ∨ _))

/-- The snapshot of a new report in which a key is looked up. -/
def refill (reported : Table κ ν) (k : κ) : Snapshot keys ν :=
  if h : lookup keys reported k = none then
    { reported, missed := some k, absent := fun m hm => by cases hm; exact h }
  else { reported }

/-- The snapshot after a look-up. -/
def next [DecidableEq κ] (reported : Table κ ν) (k : κ) (s : Snapshot keys ν) : Snapshot keys ν :=
  if s.Knows k then s else refill reported k

/-- The snapshot after two keys are looked up in turn, as often as there are reports. -/
def alternate [DecidableEq κ] :
    List (Table κ ν) → κ → κ → Snapshot keys ν → Snapshot keys ν
  | [], _, _, s => s
  | reported :: rest, k, j, s => alternate rest j k (s.next reported k)

end Snapshot

/-! ## The cache is its snapshot -/

variable {fallback} {s : Snapshot keys ν} {k : κ} {x : ν}

/-- A look-up ends at a key that is held, and none before it is. -/
theorem lookup_eq_some {t : Table κ ν} : lookup keys t k = some x ↔
    ∃ before j rest, keys.tried k = before ++ j :: rest ∧ t.find j = some x ∧
      ∀ i ∈ before, t.find i = none := List.findSome?_eq_some_iff

theorem lookup_eq_none {t : Table κ ν} :
    lookup keys t k = none ↔ ∀ j ∈ keys.tried k, t.find j = none := List.findSome?_eq_none_iff

variable [DecidableEq κ]

/-- What the snapshot has is found in its cache: the entered key is no earlier one. -/
theorem lookup_table_of_some (h : lookup keys s.reported k = some x) :
    lookup keys (s.table fallback) k = some x := by
  unfold Snapshot.table
  cases hmissed : s.missed with
  | none => exact h
  | some m =>
    obtain ⟨before, j, rest, htried, hj, hbefore⟩ := lookup_eq_some.mp h
    have habsent := lookup_eq_none.mp (s.absent m hmissed)
    have hne : ∀ i ∈ before, i ≠ m := by
      rintro i hi rfl
      -- the key found is tried for every key before it
      obtain ⟨b, b', rfl⟩ := List.append_of_mem hi
      have hafter := keys.after k b i (b' ++ j :: rest) (by simpa using htried) j (by simp)
      rw [habsent j hafter] at hj
      cases hj
    have hjm : j ≠ m := by
      rintro rfl
      rw [habsent j (keys.self j)] at hj
      cases hj
    refine lookup_eq_some.mpr ⟨before, j, rest, htried, ?_, fun i hi => ?_⟩
    · exact (Table.find_insert_of_ne hjm).trans hj
    · exact (Table.find_insert_of_ne (hne i hi)).trans (hbefore i hi)

/-- What the snapshot does not have is found only under the entered key. -/
theorem lookup_table_of_none (h : lookup keys s.reported k = none) :
    lookup keys (s.table fallback) k =
      if ∃ m ∈ s.missed, m ∈ keys.tried k then some fallback else none := by
  have hnone := lookup_eq_none.mp h
  unfold Snapshot.table
  cases hmissed : s.missed with
  | none => simp [h]
  | some m =>
    by_cases htried : m ∈ keys.tried k
    · rw [if_pos ⟨m, rfl, htried⟩]
      cases hlookup : lookup keys (s.reported.insert m fallback) k with
      | none =>
        have hself := lookup_eq_none.mp hlookup m htried
        rw [Table.find_insert_self] at hself
        cases hself
      | some y =>
        obtain ⟨before, j, rest, hsplit, hj, -⟩ := lookup_eq_some.mp hlookup
        rcases eq_or_ne j m with rfl | hne
        · rw [Table.find_insert_self] at hj
          exact hj.symm
        · rw [Table.find_insert_of_ne hne, hnone j (by simp [hsplit])] at hj
          cases hj
    · rw [if_neg (by simpa using htried)]
      refine lookup_eq_none.mpr fun j hj => ?_
      have hjm : j ≠ m := by
        rintro rfl
        exact htried hj
      exact (Table.find_insert_of_ne hjm).trans (hnone j hj)

/-- A key is found in the cache exactly when the snapshot knows it, with the snapshot's answer. -/
theorem lookup_table (s : Snapshot keys ν) (k : κ) :
    lookup keys (s.table fallback) k =
      if s.Knows k then some (s.answer fallback k) else none := by
  cases hlookup : lookup keys s.reported k with
  | some x =>
    have hknows : s.Knows k := Or.inl (by rw [hlookup]; rfl)
    rw [if_pos hknows, lookup_table_of_some hlookup, Snapshot.answer, hlookup, Option.getD_some]
  | none =>
    have hknows : s.Knows k ↔ ∃ m ∈ s.missed, m ∈ keys.tried k := by
      simp [Snapshot.Knows, hlookup]
    simp only [lookup_table_of_none hlookup, hknows, Snapshot.answer, hlookup, Option.getD_none]

/-- The cache of a new report. -/
theorem table_refill (reported : Table κ ν) (k : κ) :
    (Snapshot.refill reported k : Snapshot keys ν).table fallback =
      match lookup keys reported k with
      | some _ => reported
      | none => reported.insert k fallback := by
  unfold Snapshot.refill
  split
  · next h => rw [h]; rfl
  · next h =>
    obtain ⟨x, hx⟩ := Option.ne_none_iff_exists'.mp h
    rw [hx]
    rfl

omit [DecidableEq κ] in
theorem reported_refill (reported : Table κ ν) (k : κ) :
    (Snapshot.refill reported k : Snapshot keys ν).reported = reported := by
  unfold Snapshot.refill
  split
  · rfl
  · rfl

/-- A look-up in a cache is one in its snapshot. -/
theorem get_table (reported : Table κ ν) (k : κ) (s : Snapshot keys ν) :
    get keys fallback reported k (s.table fallback) =
      ((s.next reported k).answer fallback k, (s.next reported k).table fallback) := by
  rw [get, lookup_table]
  by_cases hknows : s.Knows k
  · rw [if_pos hknows, Snapshot.next, if_pos hknows]
  · rw [if_neg hknows, Snapshot.next, if_neg hknows, table_refill, Snapshot.answer,
      reported_refill]
    cases lookup keys reported k with
    | some x => rfl
    | none => rfl

/-- A look-up keeps the report or takes the new one. -/
theorem reported_next (reported : Table κ ν) (k : κ) (s : Snapshot keys ν) :
    (s.next reported k).reported = s.reported ∨ (s.next reported k).reported = reported := by
  unfold Snapshot.next
  split
  · exact Or.inl rfl
  · exact Or.inr (reported_refill reported k)

end SnapshotCache
