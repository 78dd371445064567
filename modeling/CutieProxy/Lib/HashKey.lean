import Mathlib.Data.List.Pairwise

/-!
# Keys of hash tables

A hash table tells its keys apart by an equality test and finds them by a hash. `Laws` is what it
relies on, except that equality need not pass on across a key that `bridge`s two others. A key that
equals only itself is found just when it is an entry (`Laws.find_eq_some_iff`), with the value that
is held for it (`Laws.find_bind`).

`Agree` is a test of such a kind: an optional value that is missing agrees with every value.
-/

namespace HashKey

universe u v w

variable {α : Type u} {β : Type v} {γ : Type w}

/-! ## Optional values -/

/-- Two optional values are not both there and different. -/
def Agree (x y : Option α) : Prop := ∀ a ∈ x, ∀ b ∈ y, a = b

namespace Agree

variable {x y z : Option α}

theorem refl (x : Option α) : Agree x x := fun _ ha _ hb => Option.mem_unique ha hb

theorem symm (h : Agree x y) : Agree y x := fun b hb a ha => (h a ha b hb).symm

/-- Agreement passes on, except across a missing value. -/
theorem trans_iff (hxy : Agree x y) (hyz : Agree y z) :
    Agree x z ↔ ¬ (y = none ∧ ∃ a ∈ x, ∃ b ∈ z, a ≠ b) := by
  constructor
  · rintro h ⟨-, a, ha, b, hb, hne⟩
    exact hne (h a ha b hb)
  · intro h a ha b hb
    cases y with
    | none =>
      by_contra hne
      exact h ⟨rfl, a, ha, b, hb, hne⟩
    | some c => exact (hxy a ha c rfl).trans (hyz c rfl b hb)

/-- Values that are both there or both missing agree just when they are the same. -/
theorem iff_eq (h : x.isSome = y.isSome) : Agree x y ↔ x = y := by
  constructor
  · intro hagree
    cases x with
    | none => exact (Option.not_isSome_iff_eq_none.mp (h ▸ Bool.false_ne_true)).symm
    | some a =>
      obtain ⟨b, rfl⟩ := Option.isSome_iff_exists.mp h.symm
      rw [hagree a rfl b rfl]
  · rintro rfl
    exact refl x

end Agree

/-! ## The laws -/

/-- What a hash table relies on for its keys; `bridge x y z` where `y` equals `x` and `z`, which
are not equal. -/
structure Laws (equals differs : α → α → Bool) (hash : α → β) (bridge : α → α → α → Prop) :
    Prop where
  refl (x : α) : equals x x = true
  symm {x y : α} : equals x y = true → equals y x = true
  trans_iff {x y z : α} :
    equals x y = true → equals y z = true → (equals x z = true ↔ ¬ bridge x y z)
  differs_eq (x y : α) : differs x y = !equals x y
  hash_eq {x y : α} : equals x y = true → hash x = hash y

/-- The first entry that equals the key, in the bucket of those that share its hash. -/
def find [DecidableEq β] (equals : α → α → Bool) (hash : α → β) (entries : List α) (k : α) :
    Option α :=
  (entries.filter fun x => hash x = hash k).find? fun x => equals x k

namespace Laws

variable {equals differs : α → α → Bool} {hash : α → β}
  {bridge : α → α → α → Prop}

/-- A test of two components obeys the laws as its components do. -/
theorem both (h : Laws equals differs hash bridge) {f g : γ → α} {hash' : γ → β}
    (hhash : ∀ x y, equals (f x) (f y) = true → equals (g x) (g y) = true → hash' x = hash' y) :
    Laws (fun x y => equals (f x) (f y) && equals (g x) (g y))
      (fun x y => differs (f x) (f y) || differs (g x) (g y)) hash'
      (fun x y z => bridge (f x) (f y) (f z) ∨ bridge (g x) (g y) (g z)) where
  refl x := by rw [h.refl, h.refl, Bool.and_self]
  symm := by
    intro x y hxy
    rw [Bool.and_eq_true] at hxy ⊢
    exact ⟨h.symm hxy.1, h.symm hxy.2⟩
  trans_iff := by
    intro x y z hxy hyz
    rw [Bool.and_eq_true] at hxy hyz
    rw [Bool.and_eq_true, h.trans_iff hxy.1 hyz.1, h.trans_iff hxy.2 hyz.2, not_or]
  differs_eq x y := by rw [h.differs_eq, h.differs_eq, Bool.not_and]
  hash_eq := by
    intro x y hxy
    rw [Bool.and_eq_true] at hxy
    exact hhash x y hxy.1 hxy.2

/-! ## Searching -/

variable {entries : List α} {k a : α}

variable [DecidableEq β]

/-- What equals the key is in its bucket, so the search finds the first entry that does. -/
theorem find_eq (h : Laws equals differs hash bridge) :
    find equals hash entries k = entries.find? fun x => equals x k := by
  rw [find, List.find?_filter]
  congr 1
  funext x
  cases hx : equals x k with
  | false => simp
  | true => simp [h.hash_eq hx]

/-- A key that equals only itself is found where it is an entry. -/
theorem find_eq_some_iff (h : Laws equals differs hash bridge)
    (hself : ∀ x ∈ entries, equals x k = true → x = k) :
    find equals hash entries k = some a ↔ a = k ∧ k ∈ entries := by
  rw [h.find_eq]
  constructor
  · intro hfind
    have ha : a ∈ entries := List.mem_of_find?_eq_some hfind
    have hak : a = k := hself a ha (List.find?_some (p := fun x => equals x k) hfind)
    exact ⟨hak, hak ▸ ha⟩
  · rintro ⟨rfl, ha⟩
    obtain ⟨b, hfind⟩ : ∃ b, entries.find? (fun x => equals x a) = some b :=
      Option.isSome_iff_exists.mp (List.find?_isSome.mpr ⟨a, ha, h.refl a⟩)
    have hba : b = a := hself b (List.mem_of_find?_eq_some hfind)
      (List.find?_some (p := fun x => equals x a) hfind)
    rw [hfind, hba]

/-- A map with such keys holds for a key what it holds for the entry that is found. -/
theorem find_bind (h : Laws equals differs hash bridge) {value : α → Option γ}
    (hentries : ∀ x, x ∈ entries ↔ (value x).isSome = true)
    (hself : ∀ x ∈ entries, equals x k = true → x = k) :
    (find equals hash entries k).bind value = value k := by
  cases hfind : find equals hash entries k with
  | none =>
    have hk : k ∉ entries := fun hk => by
      rw [(h.find_eq_some_iff hself).mpr ⟨rfl, hk⟩] at hfind
      cases hfind
    rw [hentries, Option.isSome_iff_ne_none, not_not] at hk
    exact hk.symm
  | some a =>
    obtain ⟨rfl, -⟩ := (h.find_eq_some_iff hself).mp hfind
    rfl

end Laws

end HashKey
