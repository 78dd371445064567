import CutieProxy.Lib.Traced
import CutieProxy.Proxy.Socks5Common

/-!
# The username/password message

`socks5_username_auth::init` writes two credentials and their lengths into one buffer. `initAt` is
`init` on the memory of the structure, with every write recorded, and `run_initAt` says that the
two agree. The copies stay inside the structure (`initAt_within`), but they are bounded by the 255
bytes of a credential without the NUL that ends it, and stop at a NUL inside it:
`init_sends_iff` says for which credentials the result is the message of RFC 1929.
-/

namespace CutieProxy.UsernameAuth

variable {u p : List UInt8} {m : Nat → UInt8}

/-- `username_reserved` in the structure. -/
def usernameReserved : Nat := 2

/-- `sizeof(socks5_username_auth)`: `username_reserved` has room for both credentials and a byte. -/
def sizeOfAuth : Nat := usernameReserved + (socks5UsernameMaxLength + 1 + socks5UsernameMaxLength)

/-- The structure as its member initialisers leave it. -/
def fresh : Nat → UInt8 := fun i => if i = 0 then socks5UsernameAuthVersion else 0

/-- `strcpy_s` on the structure. It may use all of the `size` bytes it is told of, also where it
fails. -/
def strcpySAt (size : Nat) (src : List UInt8) (dst : Nat) :
    Traced (Nat → UInt8) (Except Abort Unit) := do
  let memory ← Traced.read [] id
  match strcpyS size src dst memory with
  | .ok written =>
    Traced.update [⟨dst, size⟩] fun _ => written
    return .ok ()
  | .error e =>
    Traced.update [⟨dst, size⟩] id
    return .error e

/-- `socks5_username_auth::init` on the memory of the structure; the value is its result. -/
def initAt (username password : List UInt8) : Traced (Nat → UInt8) (Except Abort Nat) :=
  if 255 < username.length ∨ 255 < password.length then return .ok 0
  else do
    Traced.update [⟨1, 1⟩] fun m => Store.write m 1 [UInt8.ofNat username.length]
    let passwordLength := usernameReserved + username.length
    match ← strcpySAt 255 username usernameReserved with
    | .error e => return .error e
    | .ok () =>
      Traced.update [⟨passwordLength, 1⟩] fun m =>
        Store.write m passwordLength [UInt8.ofNat password.length]
      match ← strcpySAt 255 password (passwordLength + 1) with
      | .error e => return .error e
      | .ok () => return .ok (3 + username.length + password.length)

/-- The message in the first bytes of a structure. -/
def message (m : Nat → UInt8) (length : Nat) : List UInt8 := (List.range length).map m

/-- Reads a username/password message of RFC 1929. -/
def parseRfc1929 : List UInt8 → Option (List UInt8 × List UInt8)
  | version :: length :: rest =>
    if version = 1 then
      match rest.drop length.toNat with
      | passwordLength :: password =>
        if password.length = passwordLength.toNat then some (rest.take length.toNat, password)
        else none
      | [] => none
    else none
  | _ => none

/-- The message is read back. -/
theorem parseRfc1929_rfc1929 (hu : u.length ≤ 255) (hp : p.length ≤ 255) :
    parseRfc1929 (rfc1929 u p) = some (u, p) := by
  have hmessage : rfc1929 u p =
      1 :: UInt8.ofNat u.length :: (u ++ UInt8.ofNat p.length :: p) := by
    simp [rfc1929]
  have hu' : (UInt8.ofNat u.length).toNat = u.length :=
    UInt8.toNat_ofNat_of_lt' (Nat.lt_succ_of_le hu)
  have hp' : (UInt8.ofNat p.length).toNat = p.length :=
    UInt8.toNat_ofNat_of_lt' (Nat.lt_succ_of_le hp)
  rw [hmessage, parseRfc1929, if_pos rfl, hu', List.drop_left]
  dsimp only
  rw [if_pos hp'.symm, List.take_left]

theorem run_strcpySAt_ok {size dst : Nat} {src : List UInt8} (h : (cStr src).length < size) :
    (strcpySAt size src dst).run m =
      ⟨.ok (), Store.write m dst (cStr src ++ [0]), [⟨dst, size⟩]⟩ := by
  simp only [strcpySAt, Traced.run_bind, Traced.run_read, id_eq, strcpyS_ok h, Traced.run_update,
    Traced.run_pure]
  rfl

theorem run_strcpySAt_error {size dst : Nat} {src : List UInt8}
    (h : ¬ (cStr src).length < size) :
    (strcpySAt size src dst).run m = ⟨.error .invalidParameter, m, [⟨dst, size⟩]⟩ := by
  simp only [strcpySAt, Traced.run_bind, Traced.run_read, id_eq, strcpyS_error h,
    Traced.run_update, Traced.run_pure]
  rfl

/-! ## `initAt` and `init` -/

/-- The memory `initAt` leaves when both credentials fit. -/
def filled (u p : List UInt8) (m : Nat → UInt8) : Nat → UInt8 :=
  let m := Store.write m 1 [UInt8.ofNat u.length]
  let m := Store.write m usernameReserved (cStr u ++ [0])
  let m := Store.write m (usernameReserved + u.length) [UInt8.ofNat p.length]
  Store.write m (usernameReserved + u.length + 1) (cStr p ++ [0])

theorem run_initAt_ok (hu : u.length ≤ 255) (hp : p.length ≤ 255) (hcu : (cStr u).length < 255)
    (hcp : (cStr p).length < 255) :
    (initAt u p).run m = ⟨.ok (3 + u.length + p.length), filled u p m,
      [⟨1, 1⟩, ⟨usernameReserved, 255⟩, ⟨usernameReserved + u.length, 1⟩,
        ⟨usernameReserved + u.length + 1, 255⟩]⟩ := by
  unfold initAt
  rw [if_neg (by omega)]
  simp only [Traced.run_bind, Traced.run_update, run_strcpySAt_ok hcu, run_strcpySAt_ok hcp,
    Traced.run_pure]
  rfl

/-- Where a credential does not fit, the process ends. -/
theorem run_initAt_abort (hu : u.length ≤ 255) (hp : p.length ≤ 255)
    (h : ¬ ((cStr u).length < 255 ∧ (cStr p).length < 255)) :
    ((initAt u p).run m).value = .error .invalidParameter := by
  unfold initAt
  rw [if_neg (by omega)]
  by_cases hcu : (cStr u).length < 255
  · have hcp : ¬ (cStr p).length < 255 := fun hcp => h ⟨hcu, hcp⟩
    simp only [Traced.run_bind, Traced.run_update, run_strcpySAt_ok hcu, run_strcpySAt_error hcp,
      Traced.run_pure]
  · simp only [Traced.run_bind, Traced.run_update, run_strcpySAt_error hcu, Traced.run_pure]

/-- From `username_reserved` on, the structure is the buffer of `init`. -/
theorem filled_add (u p : List UInt8) (i : Nat) : filled u p fresh (usernameReserved + i) =
    Store.write (Store.write (Store.write (fun _ => 0) 0 (cStr u ++ [0])) u.length
      [UInt8.ofNat p.length]) (u.length + 1) (cStr p ++ [0]) i := by
  have hzero : (fun j => Store.write fresh 1 [UInt8.ofNat u.length] (usernameReserved + j)) =
      fun _ => 0 := by
    funext j
    rw [Store.write_of_notMem _ (.inr (Nat.le_add_right 2 j)), fresh,
      if_neg (by simp only [usernameReserved]; omega)]
  have hstart := Store.write_add (Store.write fresh 1 [UInt8.ofNat u.length]) usernameReserved 0
    (cStr u ++ [0])
  simp only [hzero, Nat.add_zero] at hstart
  simp only [filled, Nat.add_assoc, Store.write_add, hstart]

/-- What `initAt` leaves is what `init` sends. -/
theorem init_eq_message (hu : u.length ≤ 255) (hp : p.length ≤ 255) (hcu : (cStr u).length < 255)
    (hcp : (cStr p).length < 255) :
    init u p = .ok (some (message (filled u p fresh) (3 + u.length + p.length))) := by
  have hlow : ∀ i < 2, filled u p fresh i = Store.write fresh 1 [UInt8.ofNat u.length] i :=
    fun i hi => by
      rw [filled, Store.write_of_notMem _ (.inl (by simp only [usernameReserved]; omega)),
        Store.write_of_notMem _ (.inl (by simp only [usernameReserved]; omega))]
      exact Store.write_of_notMem _ (.inl hi)
  have hrange : List.range (3 + u.length + p.length) =
      0 :: 1 :: (List.range (u.length + 1 + p.length)).map (usernameReserved + ·) := by
    rw [show 3 + u.length + p.length = u.length + 1 + p.length + 1 + 1 by omega,
      List.range_succ_eq_map, List.range_succ_eq_map]
    simp only [List.map_cons, List.map_map, usernameReserved]
    refine congrArg (0 :: 1 :: ·) (List.map_congr_left fun i _ => ?_)
    exact Nat.add_comm i 2
  have hbuffer := funext (filled_add u p)
  unfold init
  simp only [if_neg (show ¬ (255 < u.length ∨ 255 < p.length) by omega), bind, Except.bind,
    strcpyS_ok hcu, strcpyS_ok hcp, pure, Except.pure]
  rw [message, hrange, List.map_cons, List.map_cons, List.map_map, hlow 0 (by decide),
    hlow 1 (by decide), Function.comp_def, hbuffer]
  rfl

theorem message_filled (hu : u.length ≤ 255) (hp : p.length ≤ 255) (hcu : (cStr u).length < 255)
    (hcp : (cStr p).length < 255) :
    message (filled u p fresh) (3 + u.length + p.length) = rfc1929 (zeroTail u) (zeroTail p) := by
  have hsame := (init_eq_message hu hp hcu hcp).symm.trans (init_eq hu hp hcu hcp)
  exact Option.some.inj (Except.ok.inj hsame)

/-- No write leaves the structure. -/
theorem initAt_within (u p : List UInt8) (m : Nat → UInt8) :
    (initAt u p).Within sizeOfAuth m := by
  have hstrcpy : ∀ {src : List UInt8} {dst : Nat} {m : Nat → UInt8},
      dst + 255 ≤ sizeOfAuth → (strcpySAt 255 src dst).Within sizeOfAuth m := by
    intro src dst m hsize a ha
    by_cases h : (cStr src).length < 255
    · rw [run_strcpySAt_ok h] at ha
      exact List.mem_singleton.mp ha ▸ Or.inr hsize
    · rw [run_strcpySAt_error h] at ha
      exact List.mem_singleton.mp ha ▸ Or.inr hsize
  unfold initAt
  split
  · exact Traced.within_pure
  · next hlen =>
    have hreserved : usernameReserved + u.length + 1 + 255 ≤ sizeOfAuth := by
      simp only [sizeOfAuth, socks5UsernameMaxLength]
      omega
    simp only [Traced.within_bind, Traced.within_update, List.mem_singleton, forall_eq]
    refine ⟨Or.inr (by decide), hstrcpy (by decide), ?_⟩
    split
    · exact Traced.within_pure
    · simp only [Traced.within_bind, Traced.within_update, List.mem_singleton, forall_eq]
      refine ⟨Or.inr ?_, hstrcpy hreserved, ?_⟩
      · show usernameReserved + u.length + 1 ≤ sizeOfAuth
        omega
      · split <;> exact Traced.within_pure

/-! ## When the message carries the credentials -/

/-- `init` succeeds, its message is that of the credentials, which are read back from it, and it
writes inside the structure. -/
def Sends (u p : List UInt8) : Prop :=
  let outcome := (initAt u p).run fresh
  outcome.value = .ok (3 + u.length + p.length) ∧
    message outcome.state (3 + u.length + p.length) = rfc1929 u p ∧
    parseRfc1929 (message outcome.state (3 + u.length + p.length)) = some (u, p) ∧
    ∀ a ∈ outcome.spans, a.Within sizeOfAuth

/-- The characters of a credential fit the 255 bytes `strcpy_s` is told of, with the NUL, and
nothing but NULs follows the first. -/
def Copied (s : List UInt8) : Prop :=
  (cStr s).length < 255 ∧ ∀ c ∈ s.dropWhile (· ≠ 0), c = 0

/-- Where the characters of a credential do not fit, nothing is sent. -/
theorem not_sends (hu : u.length ≤ 255) (hp : p.length ≤ 255)
    (h : ¬ ((cStr u).length < 255 ∧ (cStr p).length < 255)) : ¬ Sends u p := by
  rintro ⟨hvalue, -⟩
  rw [run_initAt_abort hu hp h] at hvalue
  cases hvalue

/-- Where the characters of both fit, the message is that of the credentials from the first NUL of
each on replaced by NULs. -/
theorem sends_iff_of_fits (hu : u.length ≤ 255) (hp : p.length ≤ 255)
    (hcu : (cStr u).length < 255) (hcp : (cStr p).length < 255) :
    Sends u p ↔ zeroTail u = u ∧ zeroTail p = p := by
  have hmessage := message_filled hu hp hcu hcp
  have hwithin := initAt_within u p fresh
  simp only [Traced.Within, run_initAt_ok hu hp hcu hcp] at hwithin
  simp only [Sends, run_initAt_ok hu hp hcu hcp, hmessage]
  constructor
  · rintro ⟨-, hsame, -⟩
    exact (rfc1929_inj (zeroTail_length u) (zeroTail_length p)).mp hsame
  · rintro ⟨htailu, htailp⟩
    rw [htailu, htailp]
    exact ⟨trivial, rfl, parseRfc1929_rfc1929 hu hp, hwithin⟩

/-- `init` makes the message of RFC 1929 of credentials of 1 to 255 bytes exactly when each is
copied whole. -/
theorem init_sends_iff (hu : 1 ≤ u.length ∧ u.length ≤ 255) (hp : 1 ≤ p.length ∧ p.length ≤ 255) :
    Sends u p ↔ Copied u ∧ Copied p := by
  by_cases h : (cStr u).length < 255 ∧ (cStr p).length < 255
  · rw [sends_iff_of_fits hu.2 hp.2 h.1 h.2, zeroTail_eq_self, zeroTail_eq_self]
    constructor
    · rintro ⟨htailu, htailp⟩
      exact ⟨⟨h.1, htailu⟩, h.2, htailp⟩
    · rintro ⟨⟨-, htailu⟩, -, htailp⟩
      exact ⟨htailu, htailp⟩
  · refine iff_of_false (not_sends hu.2 hp.2 h) ?_
    rintro ⟨⟨hcu, -⟩, hcp, -⟩
    exact h ⟨hcu, hcp⟩

/-- The letter `a`, `n` times. -/
def letters (n : Nat) : List UInt8 := List.replicate n 0x61

theorem length_letters (n : Nat) : (letters n).length = n := List.length_replicate

theorem cStr_letters (n : Nat) : cStr (letters n) = letters n :=
  List.takeWhile_replicate_eq_filter.trans (List.filter_replicate_of_pos (by decide))

/-- The longest user name that is copied, and the password `secret` with a NUL at its end. -/
theorem init_sends_iff_longest :
    Sends (letters 254) [0x73, 0x65, 0x63, 0x72, 0x65, 0x74, 0] := by
  have hlong := length_letters 254
  have huser : Copied (letters 254) := by
    refine ⟨?_, ?_⟩
    · rw [cStr_letters, hlong]
      decide
    · rw [letters, List.dropWhile_replicate, if_pos (by decide)]
      exact nofun
  have hpassword : Copied [0x73, 0x65, 0x63, 0x72, 0x65, 0x74, 0] :=
    ⟨by decide, List.forall_mem_singleton.mpr rfl⟩
  exact (init_sends_iff (by omega) (by decide)).mpr ⟨huser, hpassword⟩

/-- A user name of 255 characters, which is not too long for `init`, ends the process. -/
theorem long_username_aborts :
    ¬ ∀ u p : List UInt8, 1 ≤ u.length ∧ u.length ≤ 255 → 1 ≤ p.length ∧ p.length ≤ 255 →
      Sends u p := by
  intro h
  have hlong := length_letters 255
  refine not_sends (p := [0x70]) (Nat.le_of_eq hlong) (by decide) (fun hfits => ?_)
    (h _ _ ⟨by omega, by omega⟩ (by decide))
  have hlt := hfits.1
  rw [cStr_letters, hlong] at hlt
  exact Nat.lt_irrefl _ hlt

end CutieProxy.UsernameAuth
