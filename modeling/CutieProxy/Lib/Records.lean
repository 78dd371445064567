import Mathlib.Data.List.Basic

/-!
# Files of records

A file holds records one behind the other, and a reader takes records from its start until there is
none. A write may stop short, and nothing is written after that, so the file may end inside a
record. A reader gets the records that were written as a whole, in order (`readAll_file`): what is
there of the last one is no record.
-/

universe u v

namespace Records

/-- How a record is written, and how one is read from the start of a file. -/
structure Format (ρ : Type u) (β : Type v) where
  encode : ρ → List β
  read : List β → Option (ρ × List β)
  /-- The records that can be written. -/
  Proper : ρ → Prop
  read_nil : read [] = none
  read_encode : ∀ r rest, Proper r → read (encode r ++ rest) = some (r, rest)
  read_torn : ∀ r n, Proper r → n < (encode r).length → read ((encode r).take n) = none

/-- A file that is written to, and whether everything has been written so far. -/
structure File (β : Type v) where
  bytes : List β
  good : Bool

namespace File

variable {β : Type v}

/-- Writes bytes, of which `accepted` fit. -/
def write (accepted : Nat) (bytes : List β) (s : File β) : File β :=
  if s.good then ⟨s.bytes ++ bytes.take accepted, bytes.length ≤ accepted⟩ else s

variable {s : File β} {n m : Nat} {xs ys : List β}

/-- Nothing is written after a write stopped short. -/
theorem write_of_not_good (h : s.good = false) : s.write n xs = s := by
  simp [write, h]

theorem write_of_good (h : s.good = true) :
    s.write n xs = ⟨s.bytes ++ xs.take n, xs.length ≤ n⟩ := by
  simp [write, h]

/-- Two writes are one of everything. -/
theorem write_write (n m : Nat) (xs ys : List β) (s : File β) :
    (s.write n xs).write m ys =
      s.write (if xs.length ≤ n then xs.length + m else n) (xs ++ ys) := by
  cases hgood : s.good with
  | false => rw [write_of_not_good hgood, write_of_not_good hgood, write_of_not_good hgood]
  | true =>
    rw [write_of_good hgood, write_of_good hgood]
    by_cases hn : xs.length ≤ n
    · rw [write_of_good (by simpa using hn), if_pos hn, List.take_of_length_le hn,
        List.take_length_add_append, List.append_assoc, List.length_append]
      simp
    · have hlt := Nat.lt_of_not_le hn
      rw [write_of_not_good (by simpa using hn), if_neg hn,
        List.take_append_of_le_length (Nat.le_of_lt hlt), List.length_append]
      congr 1
      simp only [decide_eq_decide]
      omega

end File

namespace Format

variable {ρ : Type u} {β : Type v} (f : Format ρ β)

/-- The records at the start of a file, at most as many as the number. -/
def readN : Nat → List β → List ρ
  | 0, _ => []
  | n + 1, bytes =>
    match f.read bytes with
    | none => []
    | some (r, rest) => r :: readN n rest

/-- The records of a file, of which every one has a byte at least. -/
def readAll (bytes : List β) : List ρ := f.readN bytes.length bytes

/-- A record, and how much of it a write takes. -/
def Fits (r : ρ × Nat) : Prop := (f.encode r.1).length ≤ r.2

instance : DecidablePred f.Fits := fun r =>
  inferInstanceAs (Decidable ((f.encode r.1).length ≤ r.2))

/-- The file after records were written, of each as much as was taken. -/
def writeAll (s : File β) (rs : List (ρ × Nat)) : File β :=
  rs.foldl (fun s r => s.write r.2 (f.encode r.1)) s

/-- The records that were written before a write stopped short. -/
def whole (rs : List (ρ × Nat)) : List ρ := (rs.takeWhile f.Fits).map Prod.fst

variable {f} {r : ρ} {rs : List (ρ × Nat)} {s : File β} {n k : Nat}

/-! ## Reading -/

theorem encode_ne_nil (hr : f.Proper r) : f.encode r ≠ [] := by
  intro hnil
  have h := f.read_encode r [] hr
  rw [hnil, List.append_nil, f.read_nil] at h
  cases h

theorem readN_nil : f.readN n [] = [] := by
  cases n with
  | zero => rfl
  | succ n => rw [readN, f.read_nil]

/-- Nothing is read of the start of a record. -/
theorem readN_torn (hr : f.Proper r) (hk : k < (f.encode r).length) :
    f.readN n ((f.encode r).take k) = [] := by
  cases n with
  | zero => rfl
  | succ n => rw [readN, f.read_torn r k hr hk]

/-- Records are read up to where none is. -/
theorem readAll_append {rs : List ρ} (hrs : ∀ r ∈ rs, f.Proper r) {tail : List β}
    (htail : ∀ n, f.readN n tail = []) : f.readAll (rs.flatMap f.encode ++ tail) = rs := by
  have hall : ∀ n, (rs.flatMap f.encode ++ tail).length ≤ n →
      f.readN n (rs.flatMap f.encode ++ tail) = rs := by
    induction rs with
    | nil =>
      intro n _
      exact htail n
    | cons r rs ih =>
      intro n hn
      have hr := hrs r List.mem_cons_self
      have hpos := List.length_pos_iff.mpr (encode_ne_nil hr)
      rw [List.flatMap_cons, List.append_assoc, List.length_append] at hn
      obtain ⟨n, rfl⟩ := Nat.exists_eq_succ_of_ne_zero (Nat.ne_zero_of_lt (by omega : 0 < n))
      rw [List.flatMap_cons, List.append_assoc, readN, f.read_encode r _ hr]
      exact congrArg (r :: ·) (ih (fun r hr => hrs r (List.mem_cons_of_mem _ hr)) n (by omega))
  exact hall _ (Nat.le_refl _)

/-! ## Writing -/

theorem writeAll_cons (r : ρ × Nat) :
    f.writeAll s (r :: rs) = f.writeAll (s.write r.2 (f.encode r.1)) rs := rfl

theorem writeAll_of_not_good (h : s.good = false) : f.writeAll s rs = s := by
  induction rs with
  | nil => rfl
  | cons r rs ih => rw [writeAll_cons, File.write_of_not_good h, ih]

theorem write_of_fits {r : ρ × Nat} (h : s.good = true) (hr : f.Fits r) :
    s.write r.2 (f.encode r.1) = ⟨s.bytes ++ f.encode r.1, true⟩ := by
  have hlength : (f.encode r.1).length ≤ r.2 := hr
  rw [File.write_of_good h, List.take_of_length_le hlength, decide_eq_true hlength]

theorem write_of_not_fits {r : ρ × Nat} (h : s.good = true) (hr : ¬ f.Fits r) :
    s.write r.2 (f.encode r.1) = ⟨s.bytes ++ (f.encode r.1).take r.2, false⟩ := by
  have hlength : ¬ (f.encode r.1).length ≤ r.2 := hr
  rw [File.write_of_good h, decide_eq_false hlength]

/-- All was written just when every record fitted. -/
theorem good_writeAll (h : s.good = true) : (f.writeAll s rs).good = true ↔ ∀ r ∈ rs, f.Fits r := by
  induction rs generalizing s with
  | nil => exact iff_of_true h (by simp)
  | cons r rs ih =>
    rw [writeAll_cons, List.forall_mem_cons]
    by_cases hr : f.Fits r
    · rw [write_of_fits h hr, ih rfl, and_iff_right hr]
    · rw [write_of_not_fits h hr, writeAll_of_not_good rfl]
      exact iff_of_false Bool.false_ne_true fun h => hr h.1

/-- A file holds the records that were written as a whole, and the start of the one where a write
stopped short. -/
theorem bytes_writeAll (rs : List (ρ × Nat)) (h : s.good = true) : ∃ tail, (f.writeAll s rs).bytes =
      s.bytes ++ ((f.whole rs).flatMap f.encode ++ tail) ∧
    (tail = [] ∨ ∃ r ∈ rs, r.2 < (f.encode r.1).length ∧ tail = (f.encode r.1).take r.2) := by
  induction rs generalizing s with
  | nil => exact ⟨[], by simp [writeAll, whole], Or.inl rfl⟩
  | cons r rs ih =>
    rw [writeAll_cons]
    by_cases hr : f.Fits r
    · obtain ⟨tail, hbytes, htail⟩ := ih (s := ⟨s.bytes ++ f.encode r.1, true⟩) rfl
      refine ⟨tail, ?_, htail.imp_right fun ⟨r, hr, h⟩ => ⟨r, List.mem_cons_of_mem _ hr, h⟩⟩
      rw [write_of_fits h hr, hbytes]
      simp [whole, hr]
    · refine ⟨(f.encode r.1).take r.2, ?_,
        Or.inr ⟨r, List.mem_cons_self, Nat.lt_of_not_le hr, rfl⟩⟩
      rw [write_of_not_fits h hr, writeAll_of_not_good rfl]
      simp [whole, hr]

theorem mem_of_mem_whole (h : r ∈ f.whole rs) : ∃ n, (r, n) ∈ rs := by
  obtain ⟨⟨r, n⟩, hr, rfl⟩ := List.mem_map.mp h
  exact ⟨n, (List.takeWhile_sublist _).subset hr⟩

/-- A reader gets the records that were written as a whole, in order. -/
theorem readAll_file (rs : List (ρ × Nat)) (hrs : ∀ r ∈ rs, f.Proper r.1) (h : s.good = true) :
    ∃ bytes, (f.writeAll s rs).bytes = s.bytes ++ bytes ∧ f.readAll bytes = f.whole rs := by
  obtain ⟨tail, hbytes, htail⟩ := bytes_writeAll (f := f) rs h
  have hwhole : ∀ r ∈ f.whole rs, f.Proper r := by
    intro r hr
    obtain ⟨n, hr⟩ := mem_of_mem_whole hr
    exact hrs _ hr
  refine ⟨_, hbytes, readAll_append hwhole fun n => ?_⟩
  rcases htail with rfl | ⟨r, hr, hlt, rfl⟩
  · exact readN_nil
  · exact readN_torn (hrs r hr) hlt

end Format

end Records
