import CutieProxy.Proxy.ParseEndpoint
import CutieProxy.Proxy.ProxyRegistration
import Mathlib.Data.List.DropRight

/-!
# The proxies of the user interface

`QProxyItem` checks the texts of a proxy with Qt: the address with `QHostAddress`, the port with
`QString::toInt`. An item without an error is registered under `endpoint()`, which
`parse_endpoint` reads. Qt passes over white space and a sign before a number, which
`std::from_chars` does not, and 0.0.0.0 is an address to Qt: `registered_iff` says for which items
`parse_endpoint` returns what the constructor validated.

A `QString` is a list of characters, and `toStdString` its UTF-8 encoding.
-/

namespace CutieProxy

/-- `TProxyErrorType`. -/
inductive ProxyErrorType where
  | none
  | invalid
  | invalidIPv4
  | invalidPort
  | invalidCredentials
  | noProtocols
  deriving DecidableEq, Repr

/-- What Qt decides: which characters are white space, and which texts are IPv4 addresses. -/
structure Qt where
  isSpace : Char → Bool
  isSpace_digit : ∀ c : Char, Decimal.IsDigit c.toNat → isSpace c = false
  /-- `QHostAddress(text)` where its protocol is IPv4. -/
  hostAddress : List Char → Option IpAddressV4

/-- `QString::toStdString`. -/
def toStdString (text : List Char) : List UInt8 := text.flatMap String.utf8EncodeChar

/-- The codes of characters. -/
def codes (text : List Char) : List Nat := text.map Char.toNat

namespace Qt

variable (qt : Qt)

/-- A text without the white space around it. -/
def trimmed (text : List Char) : List Char := (text.dropWhile qt.isSpace).rdropWhile qt.isSpace

/-- The number of an unsigned text, if all of it is one. -/
def unsigned (text : List Char) : Option Nat :=
  if text ≠ [] ∧ text.all (fun c => Decimal.IsDigit c.toNat) then
    some (Decimal.value (codes text))
  else none

/-- The number of a text with an optional sign. -/
def signed : List Char → Option Int
  | '+' :: digits => (unsigned digits).map Int.ofNat
  | '-' :: digits => (unsigned digits).map fun n => -Int.ofNat n
  | digits => (unsigned digits).map Int.ofNat

/-- `QString::toInt` to base 10: white space around a number with an optional sign, in the range of
an `int`. -/
def toInt (text : List Char) : Option Int :=
  (signed (qt.trimmed text)).filter fun n => -2147483648 ≤ n ∧ n ≤ 2147483647

end Qt

/-- `QProxyItem`. -/
structure QProxyItem where
  ipv4 : List Char
  port : List Char
  username : List Char
  password : List Char
  /-- `m_Protocols`, which is 0 where no protocol is selected. -/
  protocols : Option SupportedProtocols := none
  error : ProxyErrorType := .invalid

namespace QProxyItem

/-- The protocols of the two check boxes, whose values are those of the bits. -/
def checkedProtocols (tcpChecked udpChecked : Bool) : Option SupportedProtocols :=
  match tcpChecked, udpChecked with
  | false, false => none
  | true, false => some .tcp
  | false, true => some .udp
  | true, true => some .both

/-- `QProxyItem::QProxyItem`. -/
def make (qt : Qt) (ipv4 port username password : List Char) (tcpChecked udpChecked : Bool) :
    QProxyItem :=
  let item : QProxyItem := { ipv4, port, username, password }
  if ipv4 = [] then { item with error := .invalidIPv4 }
  else if port = [] then { item with error := .invalidPort }
  else if qt.hostAddress ipv4 = none then { item with error := .invalidIPv4 }
  else
    match qt.toInt port with
    | none => { item with error := .invalidPort }
    | some iPort =>
      if iPort ≤ 0 ∨ 65535 < iPort then { item with error := .invalidPort }
      else
        match checkedProtocols tcpChecked udpChecked with
        | none => { item with error := .noProtocols }
        | some protocols => { item with protocols := some protocols, error := .none }

/-- `QProxyItem::endpoint`: the places of `"%1:%2"` are filled one after the other, and the first
text has no place of its own. -/
def endpoint (item : QProxyItem) : List Char := item.ipv4 ++ ':' :: item.port

end QProxyItem

/-! ## Texts and their encoding -/

/-- A character below 128 is its own encoding; that of another starts with a byte from 128 on. -/
theorem utf8EncodeChar_cases (c : Char) :
    (c.toNat < 128 ∧ String.utf8EncodeChar c = [UInt8.ofNat c.toNat]) ∨
      (128 ≤ c.toNat ∧ ∃ b bytes, String.utf8EncodeChar c = b :: bytes ∧ 128 ≤ b.toNat) := by
  have hval : c.val.toNat = c.toNat := rfl
  fun_cases String.utf8EncodeChar with
  | case1 v h => exact Or.inl ⟨by omega, rfl⟩
  | case2 v h _ | case3 v h _ _ | case4 v h _ _ =>
    refine Or.inr ⟨by omega, _, _, rfl, ?_⟩
    rw [UInt8.toNat_ofNat']
    omega

/-- The digits a text begins with are those its encoding begins with. -/
theorem leading_toStdString (text : List Char) :
    Decimal.leading ((toStdString text).map UInt8.toNat) = Decimal.leading (codes text) := by
  induction text with
  | nil => rfl
  | cons c text ih =>
    have hcons : toStdString (c :: text) = String.utf8EncodeChar c ++ toStdString text := rfl
    rw [hcons, List.map_append]
    rcases utf8EncodeChar_cases c with ⟨hlt, heq⟩ | ⟨hge, b, bytes, heq, hb⟩
    · have hc : (UInt8.ofNat c.toNat).toNat = c.toNat :=
        UInt8.toNat_ofNat_of_lt' (Nat.lt_trans hlt (by decide))
      rw [heq, List.map_singleton, hc, List.singleton_append, codes, List.map_cons]
      by_cases hdigit : Decimal.IsDigit c.toNat
      · rw [Decimal.leading_cons hdigit, Decimal.leading_cons hdigit, ih, codes]
      · rw [Decimal.leading_cons_of_not hdigit, Decimal.leading_cons_of_not hdigit]
    · rw [heq, List.map_cons, List.cons_append, codes, List.map_cons,
        Decimal.leading_cons_of_not (fun h => by have := h.2; omega),
        Decimal.leading_cons_of_not (fun h => by have := h.2; omega)]

namespace Qt

variable {qt : Qt} {text : List Char} {n : Int}

/-- The number of an unsigned text is that of its leading digits, which are all of it. -/
theorem unsigned_eq_some {m : Nat} : unsigned text = some m ↔
    (text ≠ [] ∧ ∀ c ∈ text, Decimal.IsDigit c.toNat) ∧ Decimal.value (codes text) = m := by
  have hall : (text.all fun c => Decimal.IsDigit c.toNat) = true ↔
      ∀ c ∈ text, Decimal.IsDigit c.toNat := by
    simp only [List.all_eq_true, decide_eq_true_eq]
  rw [← hall]
  unfold unsigned
  split
  · next h => rw [Option.some.injEq, and_iff_right h]
  · next h => exact iff_of_false nofun fun h' => h h'.1

/-- A text that begins with a digit is trimmed at its end only. -/
theorem trimmed_append (qt : Qt) {c : Char} (hc : Decimal.IsDigit c.toNat) (text : List Char) :
    ∃ body space, c :: text = qt.trimmed (c :: text) ++ space ∧
      qt.trimmed (c :: text) = c :: body ∧ ∀ d ∈ space, qt.isSpace d = true := by
  have hkeep : (c :: text).dropWhile qt.isSpace = c :: text :=
    List.dropWhile_cons_of_neg (by rw [qt.isSpace_digit c hc]; exact Bool.false_ne_true)
  have hsplit := List.rdropWhile_append_rtakeWhile (p := qt.isSpace) (l := c :: text)
  have hprefix := List.rdropWhile_prefix (p := qt.isSpace) (l := c :: text)
  unfold trimmed
  rw [hkeep]
  cases hbody : (c :: text).rdropWhile qt.isSpace with
  | nil =>
    have hall := List.rdropWhile_eq_nil_iff.mp hbody c List.mem_cons_self
    rw [qt.isSpace_digit c hc] at hall
    cases hall
  | cons d body =>
    rw [hbody] at hsplit hprefix
    have hd : d = c := (List.cons_prefix_cons.mp hprefix).1
    rw [hd] at hsplit ⊢
    exact ⟨body, _, hsplit.symm, rfl, fun e he => List.mem_rtakeWhile_imp he⟩

theorem signed_cons {c : Char} (hc : Decimal.IsDigit c.toNat) (text : List Char) :
    signed (c :: text) = (unsigned (c :: text)).map Int.ofNat := by
  unfold signed
  split
  · next heq =>
    cases heq
    exact absurd hc (by decide)
  · next heq =>
    cases heq
    exact absurd hc (by decide)
  · rfl

/-- A text that begins with a digit has the number of its leading digits. -/
theorem toInt_cons {c : Char} (hc : Decimal.IsDigit c.toNat) (h : qt.toInt (c :: text) = some n) :
    n = Decimal.value (Decimal.leading (codes (c :: text))) := by
  obtain ⟨body, space, hsplit, hbody, hspace⟩ := qt.trimmed_append hc text
  rw [hbody] at hsplit
  rw [toInt, hbody, signed_cons hc, Option.filter_eq_some_iff] at h
  obtain ⟨m, hm, rfl⟩ := Option.map_eq_some_iff.mp h.1
  obtain ⟨⟨-, hdigits⟩, hvalue⟩ := unsigned_eq_some.mp hm
  have hleading : Decimal.leading (codes (c :: text)) = codes (c :: body) := by
    rw [hsplit, codes, List.map_append]
    refine Decimal.leading_append (fun x hx => ?_) (fun x hx hdigit => ?_)
    · obtain ⟨d, hd, rfl⟩ := List.mem_map.mp hx
      exact hdigits d hd
    · rw [List.head?_map] at hx
      obtain ⟨d, hd, rfl⟩ := Option.map_eq_some_iff.mp hx
      have hfalse := qt.isSpace_digit d hdigit
      rw [hspace d (List.mem_of_mem_head? hd)] at hfalse
      cases hfalse
  rw [hleading, hvalue]
  rfl

end Qt

namespace QProxyItem

variable {qt : Qt} {w : NameService} {a : IpAddressV4} {ipv4 port username password : List Char}
  {tcpChecked udpChecked : Bool}

/-- The text is a dotted quad, which Qt and the system read alike. -/
structure DottedQuad (qt : Qt) (w : NameService) (text : List Char) (a : IpAddressV4) : Prop where
  characters : ∀ c ∈ text, Decimal.IsDigit c.toNat ∨ c = '.'
  literal : w.ipv4StringToAddress (toStdString text) = some (a, [])
  alike : qt.hostAddress text = some a

/-- The port number the constructor validates. -/
def validatedPort (qt : Qt) (port : List Char) : UInt16 :=
  UInt16.ofNat ((qt.toInt port).getD 0).toNat

/-- The constructor keeps the texts, whatever it finds. -/
theorem endpoint_make :
    (make qt ipv4 port username password tcpChecked udpChecked).endpoint =
      ipv4 ++ ':' :: port := by
  unfold make endpoint
  dsimp only
  split
  · rfl
  split
  · rfl
  split
  · rfl
  split
  · rfl
  split
  · rfl
  split <;> rfl

/-- The port of an item without an error is a number from 1 to 65535. -/
theorem port_of_error_none
    (herror : (make qt ipv4 port username password tcpChecked udpChecked).error = .none) :
    ∃ n, qt.toInt port = some n ∧ 0 < n ∧ n ≤ 65535 := by
  unfold make at herror
  dsimp only at herror
  split at herror
  · cases herror
  split at herror
  · cases herror
  split at herror
  · cases herror
  split at herror
  · cases herror
  · next n hn =>
    split at herror
    · cases herror
    · next hrange => exact ⟨n, hn, by omega, by omega⟩

/-- The texts of an item without an error. -/
theorem error_make {n : Int} (hipv4 : ipv4 ≠ []) (haddress : qt.hostAddress ipv4 ≠ none)
    (hport : port ≠ []) (hn : qt.toInt port = some n) (hrange : 0 < n ∧ n ≤ 65535) :
    (make qt ipv4 port username password true udpChecked).error = .none := by
  unfold make
  dsimp only
  rw [if_neg hipv4, if_neg hport, if_neg haddress, hn]
  dsimp only
  rw [if_neg (by omega)]
  cases udpChecked <;> rfl

theorem DottedQuad.byte {c : Char} (h : DottedQuad qt w ipv4 a) (hc : c ∈ ipv4) :
    String.utf8EncodeChar c = [UInt8.ofNat c.toNat] ∧ c.toNat ≠ 58 ∧ c.toNat ≠ 0 ∧
      c.toNat < 128 := by
  have hsmall : c.toNat ≠ 58 ∧ c.toNat ≠ 0 ∧ c.toNat < 128 := by
    rcases h.characters c hc with hdigit | rfl
    · have := hdigit.1
      have := hdigit.2
      omega
    · decide
  rcases utf8EncodeChar_cases c with ⟨-, heq⟩ | ⟨hge, -⟩
  · exact ⟨heq, hsmall⟩
  · exact absurd hsmall.2.2 (Nat.not_lt.mpr hge)

/-- The encoding of a dotted quad has no byte that its characters have not. -/
theorem DottedQuad.notMem {b : UInt8} (h : DottedQuad qt w ipv4 a)
    (hb : b.toNat = 58 ∨ b.toNat = 0) : b ∉ toStdString ipv4 := by
  intro hmem
  obtain ⟨c, hc, hbyte⟩ := List.mem_flatMap.mp hmem
  obtain ⟨hone, hcolon, hnul, hlt⟩ := h.byte hc
  rw [hone] at hbyte
  rw [List.mem_singleton.mp hbyte, UInt8.toNat_ofNat_of_lt' (Nat.lt_trans hlt (by decide))] at hb
  exact hb.elim hcolon hnul

/-- What `parse_endpoint` does with the endpoint of an item: the address is the item's, and the
port is read by `std::from_chars`. -/
theorem DottedQuad.parseEndpoint_iff (h : DottedQuad qt w ipv4 a)
    {e : IpEndpoint IpAddressV4} :
    w.parseEndpoint (toStdString (ipv4 ++ ':' :: port)) = some e ↔
      fromChars (toStdString port) = some e.port ∧ a = e.ip ∧ e.ip ≠ default ∧
        e.scopeId = none := by
  have hsplit : splitColon (toStdString (ipv4 ++ ':' :: port)) =
      some (toStdString ipv4, toStdString port) := by
    refine splitColon_eq_some.mpr ⟨?_, h.notMem (Or.inl rfl)⟩
    rw [toStdString, List.flatMap_append]
    rfl
  have hcStr := cStr_eq_self_iff.mpr (h.notMem (b := 0) (Or.inr rfl))
  have haddress : ∀ p, w.address (toStdString ipv4) p = a := fun p => by
    rw [NameService.address, NameService.fromString_eq, hcStr, h.literal]
    rfl
  rw [NameService.parseEndpoint_of_splitColon hsplit, haddress]

/-- An item without an error for a dotted quad is registered as its address and the port that was
validated exactly when the address is not 0.0.0.0 and the text of the port begins with a digit. -/
theorem registered_iff (hquad : DottedQuad qt w ipv4 a)
    (herror : (make qt ipv4 port username password tcpChecked udpChecked).error = .none) :
    w.parseEndpoint
        (toStdString (make qt ipv4 port username password tcpChecked udpChecked).endpoint) =
      some ⟨a, validatedPort qt port, none⟩ ↔
    a ≠ default ∧ ∃ c ∈ port.head?, Decimal.IsDigit c.toNat := by
  obtain ⟨n, hn, hpos, hle⟩ := port_of_error_none herror
  have hport : validatedPort qt port = UInt16.ofNat n.toNat := by
    rw [validatedPort, hn, Option.getD_some]
  rw [endpoint_make, hquad.parseEndpoint_iff]
  dsimp only
  rw [fromChars_eq_some, leading_toStdString]
  have hhead : Decimal.leading (codes port) ≠ [] ↔ ∃ c ∈ port.head?, Decimal.IsDigit c.toNat := by
    rw [Decimal.leading_ne_nil, codes, List.head?_map]
    cases port <;> simp
  constructor
  · rintro ⟨⟨hdigits, -⟩, -, hne, -⟩
    exact ⟨hne, hhead.mp hdigits⟩
  · rintro ⟨hne, c, hc, hdigit⟩
    refine ⟨⟨hhead.mpr ⟨c, hc, hdigit⟩, ?_⟩, rfl, hne, rfl⟩
    obtain ⟨rest, rfl⟩ := List.head?_eq_some_iff.mp hc
    have hvalue := Qt.toInt_cons hdigit hn
    rw [hport, UInt16.toNat_ofNat_of_lt' (Nat.lt_succ_of_le (by omega))]
    omega

/-- `10.0.0.1`. -/
def tenQuad : List Char := ['1', '0', '.', '0', '.', '0', '.', '1']

/-- Qt as it is for the text `10.0.0.1`, with the ASCII space. -/
def someQt : Qt where
  isSpace c := c == ' '
  isSpace_digit c hc := by
    refine beq_false_of_ne fun heq => ?_
    rw [heq] at hc
    exact absurd hc (by decide)
  hostAddress text := if text = tenQuad then some ⟨10, 0, 0, 1⟩ else none

theorem dottedQuad_ten : DottedQuad someQt NameService.literalOnly tenQuad ⟨10, 0, 0, 1⟩ where
  characters := by simp [tenQuad, Decimal.IsDigit]
  literal := rfl
  alike := rfl

/-- The item `10.0.0.1`, port `1080`. -/
theorem error_make_ten {port : List Char} (hport : port ≠ [])
    (hn : someQt.toInt port = some 1080) :
    (make someQt tenQuad port [] [] true false).error = .none :=
  error_make (List.cons_ne_nil _ _) nofun hport hn (by omega)

theorem registered_iff_ten :
    NameService.literalOnly.parseEndpoint (toStdString
        (make someQt tenQuad ['1', '0', '8', '0'] [] [] true false).endpoint) =
      some ⟨⟨10, 0, 0, 1⟩, validatedPort someQt ['1', '0', '8', '0'], none⟩ ↔
    (⟨10, 0, 0, 1⟩ : IpAddressV4) ≠ default ∧
      ∃ c ∈ ['1', '0', '8', '0'].head?, Decimal.IsDigit c.toNat :=
  registered_iff dottedQuad_ten (error_make_ten (List.cons_ne_nil _ _) rfl)

/-- The port ` 1080`, with a space before it, is validated and cannot be registered. -/
theorem spaced_port_not_registered :
    ¬ ∀ (qt : Qt) (w : NameService) (a : IpAddressV4) (ipv4 port : List Char),
      DottedQuad qt w ipv4 a → (make qt ipv4 port [] [] true false).error = .none →
      w.parseEndpoint (toStdString (make qt ipv4 port [] [] true false).endpoint) =
        some ⟨a, validatedPort qt port, none⟩ := by
  intro hclaim
  have hparse := hclaim someQt NameService.literalOnly _ _ [' ', '1', '0', '8', '0'] dottedQuad_ten
    (error_make_ten (List.cons_ne_nil _ _) rfl)
  rw [endpoint_make, dottedQuad_ten.parseEndpoint_iff] at hparse
  have hdigits := (fromChars_eq_some.mp hparse.1).1
  rw [leading_toStdString] at hdigits
  exact hdigits (Decimal.leading_cons_of_not (by decide))

end QProxyItem

end CutieProxy
