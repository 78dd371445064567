import CutieProxy.Lib.Decimal
import CutieProxy.Net.IpSubnet
import CutieProxy.Net.Packet
import CutieProxy.Proxy.Socks5Common

/-!
# `parse_endpoint`

The endpoint of a proxy is given as a string: an address or a host name, a colon and a port.
`parse_endpoint` puts it together from two parsers that stop where they cannot go on, and a
resolver; the address 0.0.0.0 says that nothing was found. `parseEndpoint_sound_iff` says for which
strings what it returns is what `IsEndpoint` says of the string: that nothing follows the digits of
the port, that the port is not 0 and that a literal is the whole of the host are not checked.

`RtlIpv4StringToAddressA` and `getaddrinfo` are parameters (`NameService`).
-/

namespace CutieProxy

open UsernameAuth (cStr)

/-- The functions of the system that `parse_endpoint` asks. -/
structure NameService where
  /-- `RtlIpv4StringToAddressA` in strict mode, on the characters of a C string: the address, and
  what follows where it stopped. -/
  ipv4StringToAddress : List UInt8 → Option (IpAddressV4 × List UInt8)
  /-- `getaddrinfo` for a host and a port: the addresses it lists, those of other families without
  their value. -/
  getaddrinfo : List UInt8 → UInt16 → Option (List (Option IpAddressV4))

/-- `':'`. -/
def colon : UInt8 := 58

/-- `std::from_chars` into a `uint16_t`: the longest number the characters begin with, if there is
one and it is in range. -/
def fromChars (text : List UInt8) : Option UInt16 :=
  (Decimal.number 65535 (text.map UInt8.toNat)).map UInt16.ofNat

/-- The string before and after the first colon. -/
def splitColon (endpoint : List UInt8) : Option (List UInt8 × List UInt8) :=
  Decimal.splitFirst colon endpoint

namespace NameService

variable (w : NameService)

/-- What `from_string` has of the parser: where it stopped is not looked at. -/
def addressParser : AddressParser where
  stringToAddress
    | .v4, ip => (w.ipv4StringToAddress ip).map Prod.fst
    | .v6, _ => none

/-- `ip_address_v4::from_string`. -/
def fromString (ip : List UInt8) : Option IpAddressV4 := w.addressParser.fromString .v4 ip

theorem fromString_eq (ip : List UInt8) :
    w.fromString ip = (w.ipv4StringToAddress (cStr ip)).map Prod.fst := rfl

/-- The first IPv4 address the resolver gives. -/
def firstV4 (host : List UInt8) (port : UInt16) : Option IpAddressV4 :=
  (w.getaddrinfo host port).bind fun addresses => addresses.findSome? id

/-- The address `parse_endpoint` comes to for what is before the colon. -/
def address (host : List UInt8) (port : UInt16) : IpAddressV4 :=
  match w.fromString host with
  | some a => a
  | none => (w.firstV4 (cStr host) port).getD default

/-- `socks_local_router::parse_endpoint`. -/
def parseEndpoint (endpoint : List UInt8) : Option (IpEndpoint IpAddressV4) :=
  let resultEndpoint : IpEndpoint IpAddressV4 :=
    match splitColon endpoint with
    | none => ⟨default, 0, none⟩
    | some (host, text) =>
      match fromChars text with
      | none => ⟨default, 0, none⟩
      | some port => ⟨w.address host port, port, none⟩
  if resultEndpoint.ip ≠ default then some resultEndpoint else none

/-! ## The endpoint of a string -/

/-- The address of a host: the host is a literal as a whole, or a name to resolve. -/
def hostAddress (host : List UInt8) (port : UInt16) : Option IpAddressV4 :=
  match w.ipv4StringToAddress host with
  | some (a, []) => some a
  | _ => w.firstV4 host port

/-- The string is the host, a colon and the decimal port of an endpoint, and nothing else. A host
has no NUL. -/
def IsEndpoint (endpoint : List UInt8) (e : IpEndpoint IpAddressV4) : Prop :=
  ∃ host digits, endpoint = host ++ colon :: digits ∧ colon ∉ host ∧ 0 ∉ host ∧ digits ≠ [] ∧
    (∀ c ∈ digits, Decimal.IsDigit c.toNat) ∧
    Decimal.value (digits.map UInt8.toNat) = e.port.toNat ∧ 1 ≤ e.port.toNat ∧
    w.hostAddress host e.port = some e.ip

end NameService

/-! ## The parts of a string -/

variable {endpoint host text : List UInt8} {port : UInt16}

theorem splitColon_eq_some :
    splitColon endpoint = some (host, text) ↔
      endpoint = host ++ colon :: text ∧ colon ∉ host :=
  Decimal.splitFirst_eq_some

theorem fromChars_eq_some : fromChars text = some port ↔
    Decimal.leading (text.map UInt8.toNat) ≠ [] ∧
      Decimal.value (Decimal.leading (text.map UInt8.toNat)) = port.toNat := by
  have hport := port.toNat_lt
  simp only [fromChars, Option.map_eq_some_iff, Decimal.number_eq_some]
  constructor
  · rintro ⟨n, ⟨hdigits, hvalue, hsmall⟩, rfl⟩
    rw [UInt16.toNat_ofNat_of_lt' (Nat.lt_succ_of_le hsmall)]
    exact ⟨hdigits, hvalue⟩
  · rintro ⟨hdigits, hvalue⟩
    exact ⟨port.toNat, ⟨hdigits, hvalue, Nat.le_of_lt_succ hport⟩, UInt16.ofNat_toNat⟩

/-- A string without a NUL is all of its C string. -/
theorem cStr_eq_self_iff {s : List UInt8} : cStr s = s ↔ 0 ∉ s := by
  rw [UsernameAuth.cStr, List.takeWhile_eq_self_iff]
  constructor
  · intro h hmem
    exact of_decide_eq_true (h 0 hmem) rfl
  · intro h c hc
    exact decide_eq_true fun heq => h (heq ▸ hc)

namespace NameService

variable {w : NameService} {e : IpEndpoint IpAddressV4}

/-- `parse_endpoint` returns nothing: there is no number in range after the colon, or no address
other than 0.0.0.0 before it. -/
def Refused (w : NameService) (host text : List UInt8) : Prop :=
  ∀ port, fromChars text = some port → w.address host port = default

/-- The host and the text after the colon have nothing that is passed over: only digits follow the
colon, that are not 0; the host has no NUL, and is a literal as a whole if it begins with one, or
a name that resolves to it. -/
structure WellFormed (w : NameService) (host text : List UInt8) : Prop where
  digits : ∀ c ∈ text, Decimal.IsDigit c.toNat
  number : 1 ≤ Decimal.value (text.map UInt8.toNat)
  noNul : 0 ∉ host
  literal : ∀ a rest, w.ipv4StringToAddress host = some (a, rest) → rest ≠ [] →
    ∀ port, fromChars text = some port → w.firstV4 host port = some a

theorem parseEndpoint_of_splitColon (hsplit : splitColon endpoint = some (host, text)) :
    w.parseEndpoint endpoint = some e ↔ fromChars text = some e.port ∧
      w.address host e.port = e.ip ∧ e.ip ≠ default ∧ e.scopeId = none := by
  unfold parseEndpoint
  rw [hsplit]
  dsimp only
  cases hport : fromChars text with
  | none => simp
  | some port =>
    rcases e with ⟨ip, port', scope⟩
    dsimp only
    constructor
    · intro h
      split at h
      · next hne =>
        cases h
        exact ⟨rfl, rfl, hne, rfl⟩
      · cases h
    · rintro ⟨hp, rfl, hne, rfl⟩
      cases hp
      exact if_pos hne

/-- The address of a host that has an address other than 0.0.0.0 is the one `parse_endpoint` comes
to just when the host has no NUL and nothing follows a literal that it is not a name for. -/
theorem hostAddress_address_iff (hne : w.address host port ≠ default) :
    (0 ∉ host ∧ w.hostAddress host port = some (w.address host port)) ↔
      0 ∉ host ∧ ∀ a rest, w.ipv4StringToAddress host = some (a, rest) → rest ≠ [] →
        w.firstV4 host port = some a := by
  refine and_congr_right fun hnul => ?_
  have hcStr := cStr_eq_self_iff.mpr hnul
  unfold address at hne ⊢
  rw [fromString_eq, hcStr] at hne ⊢
  unfold hostAddress
  cases hliteral : w.ipv4StringToAddress host with
  | none =>
    refine iff_of_true ?_ nofun
    rw [hliteral] at hne
    cases hfirst : w.firstV4 host port with
    | none =>
      rw [hfirst] at hne
      exact absurd rfl hne
    | some a => rfl
  | some r =>
    rcases r with ⟨a, _ | ⟨c, rest⟩⟩
    · exact iff_of_true rfl fun a' rest heq hrest => by cases heq; exact absurd rfl hrest
    · dsimp only
      constructor
      · intro hfirst a' rest' heq _
        cases heq
        exact hfirst
      · intro h
        exact h a (c :: rest) rfl (List.cons_ne_nil c rest)

theorem isEndpoint_of_splitColon (hsplit : splitColon endpoint = some (host, text))
    (hport : fromChars text = some e.port) (hip : w.address host e.port = e.ip)
    (hne : e.ip ≠ default) : w.IsEndpoint endpoint e ↔ w.WellFormed host text := by
  obtain ⟨rfl, hcolon⟩ := splitColon_eq_some.mp hsplit
  obtain ⟨hdigits, hvalue⟩ := fromChars_eq_some.mp hport
  have haddress := hostAddress_address_iff (hip ▸ hne)
  rw [hip] at haddress
  constructor
  · rintro ⟨host', digits, heq, hcolon', hnul, -, hall, hnumber, hpos, hhost⟩
    have hsame := splitColon_eq_some.mpr ⟨heq, hcolon'⟩
    rw [hsplit] at hsame
    cases hsame
    refine ⟨hall, hnumber ▸ hpos, hnul, fun a rest hliteral hrest port hport' => ?_⟩
    rw [hport] at hport'
    cases hport'
    exact (haddress.mp ⟨hnul, hhost⟩).2 a rest hliteral hrest
  · rintro ⟨hall, hnumber, hnul, hliteral⟩
    have hleading : Decimal.leading (text.map UInt8.toNat) = text.map UInt8.toNat :=
      Decimal.leading_eq_self fun c hc => by
        obtain ⟨b, hb, rfl⟩ := List.mem_map.mp hc
        exact hall b hb
    rw [hleading] at hdigits hvalue
    refine ⟨host, text, rfl, hcolon, hnul, fun hnil => hdigits (hnil ▸ rfl), hall, hvalue,
      hvalue ▸ hnumber, ?_⟩
    exact (haddress.mpr ⟨hnul, fun a rest heq hrest => hliteral a rest heq hrest _ hport⟩).2

/-- What `parse_endpoint` returns for a string is the endpoint the string is exactly when it
returns nothing or nothing in the string is passed over. -/
theorem parseEndpoint_sound_iff (w : NameService) (endpoint : List UInt8) :
    (∀ e, w.parseEndpoint endpoint = some e → w.IsEndpoint endpoint e) ↔
      ∀ host text, splitColon endpoint = some (host, text) →
        w.Refused host text ∨ w.WellFormed host text := by
  constructor
  · intro h host text hsplit
    refine or_iff_not_imp_left.mpr fun hrefused => ?_
    obtain ⟨port, hport⟩ := not_forall.mp hrefused
    obtain ⟨hport, hne⟩ := Classical.not_imp.mp hport
    have hparse := (parseEndpoint_of_splitColon (w := w) (e := ⟨w.address host port, port, none⟩)
      hsplit).mpr ⟨hport, rfl, hne, rfl⟩
    exact (isEndpoint_of_splitColon hsplit hport rfl hne).mp (h _ hparse)
  · intro h e hparse
    cases hsplit : splitColon endpoint with
    | none =>
      rw [parseEndpoint, hsplit] at hparse
      cases hparse
    | some parts =>
      obtain ⟨hport, hip, hne, -⟩ := (parseEndpoint_of_splitColon hsplit).mp hparse
      rcases h parts.1 parts.2 hsplit with hrefused | hformed
      · exact absurd (hip.symm.trans (hrefused e.port hport)) hne
      · exact (isEndpoint_of_splitColon hsplit hport hip hne).mpr hformed

/-- `10.0.0.1`. -/
def tenText : List UInt8 := [49, 48, 46, 48, 46, 48, 46, 49]

/-- A system that is asked for `10.0.0.1` only. -/
def literalOnly : NameService where
  ipv4StringToAddress s := if s = tenText then some (⟨10, 0, 0, 1⟩, []) else none
  getaddrinfo _ _ := none

/-- The string `10.0.0.1:80x` is taken for port 80 of 10.0.0.1. -/
theorem trailing_text_accepted :
    ¬ ∀ (w : NameService) (endpoint : List UInt8) (e : IpEndpoint IpAddressV4),
      w.parseEndpoint endpoint = some e → w.IsEndpoint endpoint e := by
  intro hclaim
  have hsplit : splitColon (tenText ++ colon :: [56, 48, 120]) = some (tenText, [56, 48, 120]) :=
    splitColon_eq_some.mpr ⟨rfl, by decide⟩
  have hport : fromChars [56, 48, 120] = some 80 := by decide
  have hparse := (parseEndpoint_of_splitColon (w := literalOnly)
    (e := ⟨⟨10, 0, 0, 1⟩, 80, none⟩) hsplit).mpr ⟨hport, by decide, by decide, rfl⟩
  have hformed := (isEndpoint_of_splitColon hsplit hport (by decide) (by decide)).mp
    (hclaim _ _ _ hparse)
  exact absurd (hformed.digits 120 (by decide)) (by decide)

end NameService

end CutieProxy
