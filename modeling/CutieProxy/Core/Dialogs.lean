import CutieProxy.Core.FiltersDialog
import CutieProxy.Core.ProxyImport

/-!
# The dialogs of the user interface

What a user can do in `CpProxyDialog` and `CpFiltersDialog` before a dialog is accepted, and what
comes out of it then. An item that comes out of `CpProxyDialog` is `ProxyRow.Valid`, and a valid
item comes out of the dialog that edits it as it went in. In `CpFiltersDialog` a process can be
picked by a click on one of its windows, which enters its id in front of the text of ids
(`picked_ids`).
-/

namespace CutieProxy

/-- A `QProxyItem` with its `m_Filters`. -/
structure ProxyRow where
  item : QProxyItem
  filters : List ItemFilter := []

/-- The item is one that its own texts make, without an error. -/
structure ProxyRow.Valid (qt : Qt) (row : ProxyRow) : Prop where
  error : row.item.error = .none
  made : ∃ tcpChecked udpChecked, row.item = QProxyItem.make qt row.item.ipv4 row.item.port
    row.item.username row.item.password tcpChecked udpChecked

/-! ## `CpProxyDialog` -/

/-- The fields of `CpProxyDialog`, with what they hold in a new one. -/
structure ProxyDialog where
  ipLineEdit : List Char := []
  portLineEdit : List Char := []
  usernameLineEdit : List Char := []
  passwordLineEdit : List Char := []
  tcpCheckbox : Bool := true
  udpCheckbox : Bool := true
  /-- `m_Prototype`. -/
  prototype : Option ProxyRow := none

namespace ProxyDialog

/-- `protocols & flag`. -/
def isSet (protocols : Option SupportedProtocols) (flag : SupportedProtocols) : Bool :=
  protocols == some .both || protocols == some flag

/-- `CpProxyDialog::init`. -/
def init : Option ProxyRow → ProxyDialog
  | none => {}
  | some row =>
    { ipLineEdit := row.item.ipv4
      portLineEdit := row.item.port
      usernameLineEdit := row.item.username
      passwordLineEdit := row.item.password
      tcpCheckbox := isSet row.item.protocols .tcp
      udpCheckbox := isSet row.item.protocols .udp
      prototype := some row }

/-- What a user does in the dialog. -/
inductive Input where
  | ip (text : List Char)
  | port (text : List Char)
  | username (text : List Char)
  | password (text : List Char)
  | tcp (checked : Bool)
  | udp (checked : Bool)
  /-- The text of `importLineEdit` is changed. -/
  | importText (text : List Char)

/-- The dialog after an input. -/
def after (re : RegexEngine) (d : ProxyDialog) : Input → ProxyDialog
  | .ip text => { d with ipLineEdit := text }
  | .port text => { d with portLineEdit := text }
  | .username text => { d with usernameLineEdit := text }
  | .password text => { d with passwordLineEdit := text }
  | .tcp checked => { d with tcpCheckbox := checked }
  | .udp checked => { d with udpCheckbox := checked }
  | .importText text =>
    match re.importFields text with
    | none => d
    | some fields =>
      { d with
        usernameLineEdit := fields.username
        passwordLineEdit := fields.password
        ipLineEdit := fields.ip
        portLineEdit := fields.port }

/-- `CpProxyDialog::proxyItem`. -/
def proxyItem (qt : Qt) (d : ProxyDialog) : Option ProxyRow :=
  let newItem := QProxyItem.make qt d.ipLineEdit d.portLineEdit d.usernameLineEdit
    d.passwordLineEdit d.tcpCheckbox d.udpCheckbox
  match newItem.error with
  | .invalid | .noProtocols | .invalidIPv4 | .invalidPort => none
  | .none | .invalidCredentials =>
    match d.prototype with
    | some row => some { item := newItem, filters := row.filters }
    | none => some { item := newItem, filters := QProxyItem.addFilter .all [] }

end ProxyDialog

namespace QProxyItem

variable {qt : Qt} {ipv4 port username password : List Char} {tcpChecked udpChecked : Bool}

/-- What the constructor makes: the texts it was given, and either an error or the protocols of the
check boxes. -/
theorem make_cases (qt : Qt) (ipv4 port username password : List Char)
    (tcpChecked udpChecked : Bool) :
    (∃ error, (error = .invalidIPv4 ∨ error = .invalidPort ∨ error = .noProtocols) ∧
      make qt ipv4 port username password tcpChecked udpChecked =
        { ipv4, port, username, password, error }) ∨
    ∃ protocols, checkedProtocols tcpChecked udpChecked = some protocols ∧
      make qt ipv4 port username password tcpChecked udpChecked =
        { ipv4, port, username, password, protocols := some protocols, error := .none } := by
  unfold make
  dsimp only
  split
  · exact Or.inl ⟨_, Or.inl rfl, rfl⟩
  split
  · exact Or.inl ⟨_, Or.inr (Or.inl rfl), rfl⟩
  split
  · exact Or.inl ⟨_, Or.inl rfl, rfl⟩
  split
  · exact Or.inl ⟨_, Or.inr (Or.inl rfl), rfl⟩
  split
  · exact Or.inl ⟨_, Or.inr (Or.inl rfl), rfl⟩
  split
  · exact Or.inl ⟨_, Or.inr (Or.inr rfl), rfl⟩
  · next protocols hprotocols => exact Or.inr ⟨protocols, hprotocols, rfl⟩

end QProxyItem

namespace ProxyRow

variable {qt : Qt} {row : ProxyRow}

/-- A valid item has protocols, and is what the dialog that shows it makes of its texts. -/
theorem Valid.eq_make (h : row.Valid qt) : ∃ protocols, row.item.protocols = some protocols ∧
    row.item = QProxyItem.make qt row.item.ipv4 row.item.port row.item.username row.item.password
      (ProxyDialog.isSet row.item.protocols .tcp) (ProxyDialog.isSet row.item.protocols .udp) := by
  obtain ⟨herror, tcpChecked, udpChecked, hmade⟩ := h
  rcases QProxyItem.make_cases qt row.item.ipv4 row.item.port row.item.username
    row.item.password tcpChecked udpChecked with ⟨error, hbad, heq⟩ | ⟨protocols, hchecked, heq⟩
  · rw [hmade, heq] at herror
    rcases hbad with rfl | rfl | rfl
    · cases herror
    · cases herror
    · cases herror
  · have hprotocols : row.item.protocols = some protocols := by rw [hmade, heq]
    -- the boxes that show the protocols are the ones they were chosen with
    have hboxes : ProxyDialog.isSet (some protocols) .tcp = tcpChecked ∧
        ProxyDialog.isSet (some protocols) .udp = udpChecked := by
      revert hchecked
      cases tcpChecked with
      | false => cases udpChecked with
        | false => rintro ⟨⟩
        | true => rintro ⟨⟩; exact ⟨rfl, rfl⟩
      | true => cases udpChecked with
        | false => rintro ⟨⟩; exact ⟨rfl, rfl⟩
        | true => rintro ⟨⟩; exact ⟨rfl, rfl⟩
    refine ⟨protocols, hprotocols, ?_⟩
    rw [hprotocols, hboxes.1, hboxes.2]
    exact hmade

end ProxyRow

namespace ProxyDialog

variable {qt : Qt} {d : ProxyDialog} {row : ProxyRow}

/-- What comes out of the dialog. -/
theorem proxyItem_eq_some (h : d.proxyItem qt = some row) : row.Valid qt ∧
    row.filters = match d.prototype with
      | some prototype => prototype.filters
      | none => [.all] := by
  unfold proxyItem at h
  dsimp only at h
  rcases QProxyItem.make_cases qt d.ipLineEdit d.portLineEdit d.usernameLineEdit
    d.passwordLineEdit d.tcpCheckbox d.udpCheckbox with ⟨error, hbad, heq⟩ | ⟨protocols, -, heq⟩
  · rw [heq] at h
    rcases hbad with rfl | rfl | rfl
    · cases h
    · cases h
    · cases h
  · have hvalid : ∀ filters, ProxyRow.Valid qt ⟨QProxyItem.make qt d.ipLineEdit d.portLineEdit
        d.usernameLineEdit d.passwordLineEdit d.tcpCheckbox d.udpCheckbox, filters⟩ :=
      fun filters => ⟨by rw [heq], d.tcpCheckbox, d.udpCheckbox, by simp only [heq]⟩
    have herror : (QProxyItem.make qt d.ipLineEdit d.portLineEdit d.usernameLineEdit
        d.passwordLineEdit d.tcpCheckbox d.udpCheckbox).error = .none := by rw [heq]
    rw [herror] at h
    cases hprototype : d.prototype with
    | some prototype =>
      rw [hprototype] at h
      cases h
      exact ⟨hvalid _, rfl⟩
    | none =>
      rw [hprototype] at h
      cases h
      exact ⟨hvalid _, rfl⟩

/-- A valid item comes out of the dialog that edits it as it went in. -/
theorem proxyItem_init (h : row.Valid qt) : (init (some row)).proxyItem qt = some row := by
  obtain ⟨protocols, hprotocols, hmake⟩ := h.eq_make
  unfold proxyItem init
  dsimp only
  rw [← hmake, h.error]

theorem prototype_after (re : RegexEngine) (inputs : List Input) (d : ProxyDialog) :
    (inputs.foldl (after re) d).prototype = d.prototype := by
  induction inputs generalizing d with
  | nil => rfl
  | cons input inputs ih =>
    rw [List.foldl_cons, ih]
    cases input with
    | importText text =>
      unfold after
      dsimp only
      split <;> rfl
    | _ => rfl

end ProxyDialog

/-! ## `CpFiltersDialog` -/

/-- A user selects an item of the box. -/
def ComboBox.pick {α : Type} (i : Nat) (box : ComboBox α) : ComboBox α :=
  if i < box.items.length then box.setCurrentIndex i else box

/-- `QString("%1").arg(id)`. -/
def decimalText (id : UInt32) : List Char := Nat.toDigits 10 id.toNat

namespace FiltersDialog

/-- What a user does in the dialog. -/
inductive Input where
  | filterType (i : Nat)
  | nameFilterType (i : Nat)
  | stringMatchType (i : Nat)
  | pattern (text : List Char)
  | caseSensitive (checked : Bool)
  | ids (text : List Char)
  /-- `selectByWindowButton` is clicked, and then the windows of these processes; 0 where there is
  no window. -/
  | selectByWindow (clicks : List UInt32)

/-- `CpFiltersDialog::addProcessId`. -/
def addProcessId (id : UInt32) (d : FiltersDialog) : FiltersDialog :=
  { d with idsLineEdit := decimalText id ++ ';' :: d.idsLineEdit }

/-- The clicks that `MouseHookProc` sees: the first on a window of a process that is not ignored
ends the hook. -/
def mouseHookProc (ignoreProcessIds : Finset UInt32) (clicks : List UInt32) : Option UInt32 :=
  clicks.find? fun id => id ≠ 0 ∧ id ∉ ignoreProcessIds

/-- The lambda of `selectByWindowButton`; `own` is what `GetCurrentProcessId` returns. -/
def selectByWindow (qt : Qt) (own : UInt32) (clicks : List UInt32) (d : FiltersDialog) :
    FiltersDialog :=
  match mouseHookProc (insert own (qt.convertStringToIds d.idsLineEdit)) clicks with
  | some id => d.addProcessId id
  | none => d

/-- The dialog after an input. -/
def after (qt : Qt) (own : UInt32) (d : FiltersDialog) : Input → FiltersDialog
  | .filterType i => { d with filterTypeCombo := d.filterTypeCombo.pick i }
  | .nameFilterType i => { d with nameFilterTypeCombo := d.nameFilterTypeCombo.pick i }
  | .stringMatchType i => { d with stringMatchTypeCombo := d.stringMatchTypeCombo.pick i }
  | .pattern text => { d with patternLineEdit := text }
  | .caseSensitive checked => { d with caseSensitiveCheckBox := checked }
  | .ids text => { d with idsLineEdit := text }
  | .selectByWindow clicks => d.selectByWindow qt own clicks

/-- An item is selected in every box. -/
structure Selected (d : FiltersDialog) : Prop where
  filterType : d.filterTypeCombo.currentData.isSome = true
  nameFilterType : d.nameFilterTypeCombo.currentData.isSome = true
  stringMatchType : d.stringMatchTypeCombo.currentData.isSome = true

theorem isSome_pick {α : Type} {box : ComboBox α} (i : Nat) (h : box.currentData.isSome = true) :
    (box.pick i).currentData.isSome = true := by
  unfold ComboBox.pick
  split
  · next hlt => simp [ComboBox.setCurrentIndex, ComboBox.currentData, hlt]
  · exact h

variable {qt : Qt} {own : UInt32} {d : FiltersDialog}

theorem Selected.after (h : d.Selected) (input : Input) : (d.after qt own input).Selected := by
  cases input with
  | filterType i => exact ⟨isSome_pick i h.filterType, h.nameFilterType, h.stringMatchType⟩
  | nameFilterType i => exact ⟨h.filterType, isSome_pick i h.nameFilterType, h.stringMatchType⟩
  | stringMatchType i => exact ⟨h.filterType, h.nameFilterType, isSome_pick i h.stringMatchType⟩
  | selectByWindow clicks =>
    unfold FiltersDialog.after selectByWindow
    dsimp only
    split
    · exact ⟨h.filterType, h.nameFilterType, h.stringMatchType⟩
    · exact h
  | _ => exact ⟨h.filterType, h.nameFilterType, h.stringMatchType⟩

theorem Selected.foldl (h : d.Selected) (inputs : List Input) :
    (inputs.foldl (FiltersDialog.after qt own) d).Selected := by
  induction inputs generalizing d with
  | nil => exact h
  | cons input inputs ih => exact ih (h.after input)

theorem selected_init (filters : List ItemFilter) : (init filters).Selected := by
  rw [init, foldl_load]
  cases filters.getLast? with
  | none => exact ⟨rfl, rfl, rfl⟩
  | some filter =>
    cases filter with
    | _ => exact ⟨rfl, rfl, rfl⟩

/-- A dialog with an item in every box gives a filter. -/
theorem Selected.isSome_filter (h : d.Selected) : (d.filter qt).isSome = true := by
  obtain ⟨t, ht⟩ := Option.isSome_iff_exists.mp h.filterType
  obtain ⟨n, hn⟩ := Option.isSome_iff_exists.mp h.nameFilterType
  obtain ⟨m, hm⟩ := Option.isSome_iff_exists.mp h.stringMatchType
  unfold filter
  rw [ht]
  cases t with
  | name => rw [hn, hm]; rfl
  | _ => rfl

/-- Whatever is done in the dialog, it gives a filter. -/
theorem isSome_filter_of_inputs (filters : List ItemFilter) (inputs : List Input) :
    ((inputs.foldl (FiltersDialog.after qt own) (init filters)).filter qt).isSome = true :=
  ((selected_init filters).foldl inputs).isSome_filter

end FiltersDialog

/-! ## Picking processes -/

namespace Qt

variable {qt : Qt} {text : List Char}

theorem isDigit_of_mem_decimalText {id : UInt32} {c : Char} (hc : c ∈ decimalText id) :
    Decimal.IsDigit c.toNat := by
  have hdigit := Nat.isDigit_of_mem_toDigits (by decide) (by decide) hc
  simp only [Char.isDigit, Bool.and_eq_true, decide_eq_true_eq] at hdigit
  exact hdigit

/-- Qt reads the number that it wrote. -/
theorem toUInt_decimalText (id : UInt32) : qt.toUInt (decimalText id) = some id := by
  have hdigits : ∀ c ∈ decimalText id, Decimal.IsDigit c.toNat := fun c =>
    isDigit_of_mem_decimalText
  have hvalue : Decimal.value (codes (decimalText id)) = id.toNat := by
    rw [Decimal.value, codes, List.foldl_map]
    exact Nat.ofDigitChars_ten_toDigits
  have hunsigned : unsigned (decimalText id) = some id.toNat :=
    unsigned_eq_some.mpr ⟨⟨Nat.toDigits_ne_nil, hdigits⟩, hvalue⟩
  obtain ⟨c, rest, heq⟩ : ∃ c rest, decimalText id = c :: rest :=
    List.exists_cons_of_ne_nil Nat.toDigits_ne_nil
  have htrimmed : qt.trimmed (decimalText id) = decimalText id := by
    have hhead := hdigits c (heq ▸ List.mem_cons_self)
    obtain ⟨body, space, hsplit, hbody, hspace⟩ := qt.trimmed_append hhead rest
    rw [← heq] at hsplit
    cases space with
    | nil =>
      rw [List.append_nil] at hsplit
      exact hsplit.symm
    | cons x space =>
      have hmem : x ∈ decimalText id := by
        rw [hsplit]
        exact List.mem_append_right _ List.mem_cons_self
      have hfalse := qt.isSpace_digit x (hdigits x hmem)
      rw [hspace x List.mem_cons_self] at hfalse
      cases hfalse
  have hplus : ∀ digits, decimalText id ≠ '+' :: digits := by
    intro digits hcons
    have hdigit := hdigits '+' (hcons ▸ List.mem_cons_self)
    revert hdigit
    decide
  unfold toUInt
  rw [htrimmed]
  split
  · next digits hcons => exact absurd hcons (hplus digits)
  · dsimp only
    rw [hunsigned]
    simpa using id.toNat_lt

/-- An id in front of a text of ids is one of them. -/
theorem convertStringToIds_cons (id : UInt32) (text : List Char) :
    qt.convertStringToIds (decimalText id ++ ';' :: text) =
      insert id (qt.convertStringToIds text) := by
  have hsep : ';' ∉ decimalText id := by
    intro hmem
    have hdigit := isDigit_of_mem_decimalText hmem
    revert hdigit
    decide
  have hne : decimalText id ≠ [] := Nat.toDigits_ne_nil
  have hfirst : qt.convertStringToIds (decimalText id ++ ';' :: text) =
      insert id (((text.splitOn ';').filter (· ≠ [])).filterMap qt.toUInt).toFinset := by
    rw [convertStringToIds, if_neg (by simp), List.splitOn_append_cons_self_of_not_mem hsep,
      List.filter_cons_of_pos (by simpa using hne),
      List.filterMap_cons_some (toUInt_decimalText id), List.toFinset_cons]
  rw [hfirst]
  congr 1
  unfold convertStringToIds
  split
  · next hnil =>
    rw [hnil]
    rfl
  · rfl

end Qt

namespace FiltersDialog

variable {qt : Qt} {own : UInt32}

/-- A click on a window of the process does not pick it: it is the program's own, or its id is
known, or there is no window. -/
def Ignored (own : UInt32) (known : Finset UInt32) (id : UInt32) : Prop :=
  id = 0 ∨ id = own ∨ id ∈ known

/-- The processes that series of clicks pick, where the ids `known` are in the dialog: the first
process of every series that is not ignored, which is known from then on. -/
inductive Picked (own : UInt32) : Finset UInt32 → List (List UInt32) → List UInt32 → Prop
  | done (known : Finset UInt32) : Picked own known [] []
  | missed {known : Finset UInt32} {clicks : List UInt32} {rest : List (List UInt32)}
    {picked : List UInt32} (hignored : ∀ id ∈ clicks, Ignored own known id)
    (hrest : Picked own known rest picked) : Picked own known (clicks :: rest) picked
  | found {known : Finset UInt32} {before : List UInt32} {id : UInt32} {after : List UInt32}
    {rest : List (List UInt32)} {picked : List UInt32}
    (hbefore : ∀ id' ∈ before, Ignored own known id') (hid : ¬ Ignored own known id)
    (hrest : Picked own (insert id known) rest picked) :
    Picked own known ((before ++ id :: after) :: rest) (id :: picked)

section
variable {known : Finset UInt32} {clicks : List (List UInt32)} {picked picked' : List UInt32}

/-- The first process that is not ignored. -/
theorem first_unique {before after before' after' : List UInt32} {id id' : UInt32}
    (hbefore : ∀ x ∈ before, Ignored own known x) (hid : ¬ Ignored own known id)
    (hbefore' : ∀ x ∈ before', Ignored own known x) (hid' : ¬ Ignored own known id')
    (h : before ++ id :: after = before' ++ id' :: after') : id = id' := by
  classical
  have hfind : ∀ {before after : List UInt32} {id : UInt32},
      (∀ x ∈ before, Ignored own known x) → ¬ Ignored own known id →
      (before ++ id :: after).find? (fun x => decide (¬ Ignored own known x)) = some id := by
    intro before after id hbefore hid
    refine List.find?_eq_some_iff_append.mpr ⟨decide_eq_true hid, before, after, rfl, ?_⟩
    simpa using hbefore
  have hsame := @hfind before after id hbefore hid
  rw [h, hfind hbefore' hid'] at hsame
  exact (Option.some.inj hsame).symm

/-- The clicks determine what is picked. -/
theorem Picked.unique (h : Picked own known clicks picked) (h' : Picked own known clicks picked') :
    picked = picked' := by
  induction h generalizing picked' with
  | done known =>
    cases h'
    rfl
  | missed hignored _ ih =>
    cases h' with
    | missed _ hrest' => exact ih hrest'
    | found _ hid' _ =>
      exact absurd (hignored _ (List.mem_append_right _ List.mem_cons_self)) hid'
  | @found known before id after rest picked hbefore hid _ ih =>
    generalize hclicks : before ++ id :: after = clicks at h'
    cases h' with
    | missed hignored' _ =>
      rw [← hclicks] at hignored'
      exact absurd (hignored' _ (List.mem_append_right _ List.mem_cons_self)) hid
    | found hbefore' hid' hrest' =>
      obtain rfl := first_unique hbefore hid hbefore' hid' hclicks
      rw [ih hrest']

/-- What is picked was clicked on and not ignored. -/
theorem Picked.mem (h : Picked own known clicks picked) {id : UInt32} (hid : id ∈ picked) :
    id ∈ clicks.flatten ∧ ¬ Ignored own known id := by
  induction h with
  | done known => cases hid
  | missed _ _ ih =>
    obtain ⟨hclicked, hnot⟩ := ih hid
    exact ⟨List.mem_append_right _ hclicked, hnot⟩
  | @found known before first after rest picked _ hfirst _ ih =>
    rw [List.flatten_cons]
    rcases List.mem_cons.mp hid with rfl | hid
    · exact ⟨List.mem_append_left _ (List.mem_append_right _ List.mem_cons_self), hfirst⟩
    · obtain ⟨hclicked, hnot⟩ := ih hid
      refine ⟨List.mem_append_right _ hclicked, fun hignored => hnot ?_⟩
      exact hignored.imp_right (Or.imp_right Finset.mem_insert_of_mem)

theorem Picked.nodup (h : Picked own known clicks picked) : picked.Nodup := by
  induction h with
  | done known => exact List.nodup_nil
  | missed _ _ ih => exact ih
  | found _ _ hrest ih =>
    refine List.nodup_cons.mpr ⟨fun hmem => (hrest.mem hmem).2 ?_, ih⟩
    exact Or.inr (Or.inr (Finset.mem_insert_self _ _))

end

variable (qt) in
/-- One series of clicks: every process is ignored, or the first that is not is entered. -/
theorem selectByWindow_cases (clicks : List UInt32) (d : FiltersDialog) :
    ((∀ id ∈ clicks, Ignored own (qt.convertStringToIds d.idsLineEdit) id) ∧
      d.selectByWindow qt own clicks = d) ∨
      ∃ before id after, clicks = before ++ id :: after ∧
        (∀ id' ∈ before, Ignored own (qt.convertStringToIds d.idsLineEdit) id') ∧
        ¬ Ignored own (qt.convertStringToIds d.idsLineEdit) id ∧
        d.selectByWindow qt own clicks = d.addProcessId id := by
  have hignored (id : UInt32) : (id ≠ 0 ∧
        id ∉ insert own (qt.convertStringToIds d.idsLineEdit)) ↔
      ¬ Ignored own (qt.convertStringToIds d.idsLineEdit) id := by
    rw [Ignored, Finset.mem_insert]
    tauto
  unfold selectByWindow mouseHookProc
  split
  · next id hfind =>
    obtain ⟨hid, before, after, hsplit, hbefore⟩ := List.find?_eq_some_iff_append.mp hfind
    refine Or.inr ⟨before, id, after, hsplit, fun id' hmem => ?_,
      (hignored id).mp (of_decide_eq_true hid), rfl⟩
    have hnot := of_decide_eq_false (Bool.not_eq_true' _ ▸ hbefore id' hmem)
    exact Classical.not_not.mp fun h => hnot ((hignored id').mpr h)
  · next hfind =>
    refine Or.inl ⟨fun id hmem => ?_, rfl⟩
    have hnot := List.find?_eq_none.mp hfind id hmem
    rw [decide_eq_true_iff] at hnot
    exact Classical.not_not.mp fun h => hnot ((hignored id).mpr h)

/-- Picking processes by their windows, however often: the first process of every series of clicks
that is neither the program's own nor known is entered in front of the text, every process once,
and the filter is for the processes it was for before and those picked, whatever was typed
before. -/
theorem picked_ids (qt : Qt) (own : UInt32) (clicks : List (List UInt32)) (d : FiltersDialog) :
    ∃ picked : List UInt32,
      Picked own (qt.convertStringToIds d.idsLineEdit) clicks picked ∧ picked.Nodup ∧
      (∀ id ∈ picked, id ≠ 0 ∧ id ≠ own ∧ id ∈ clicks.flatten ∧
        id ∉ qt.convertStringToIds d.idsLineEdit) ∧
      (clicks.foldl (fun d clicks => d.selectByWindow qt own clicks) d).idsLineEdit =
        picked.reverse.flatMap (fun id => decimalText id ++ [';']) ++ d.idsLineEdit ∧
      qt.convertStringToIds
          (clicks.foldl (fun d clicks => d.selectByWindow qt own clicks) d).idsLineEdit =
        qt.convertStringToIds d.idsLineEdit ∪ picked.toFinset := by
  have hrun : ∃ picked, Picked own (qt.convertStringToIds d.idsLineEdit) clicks picked ∧
      (clicks.foldl (fun d clicks => d.selectByWindow qt own clicks) d).idsLineEdit =
        picked.reverse.flatMap (fun id => decimalText id ++ [';']) ++ d.idsLineEdit ∧
      qt.convertStringToIds
          (clicks.foldl (fun d clicks => d.selectByWindow qt own clicks) d).idsLineEdit =
        qt.convertStringToIds d.idsLineEdit ∪ picked.toFinset := by
    induction clicks generalizing d with
    | nil => exact ⟨[], .done _, by simp, by simp⟩
    | cons first rest ih =>
      obtain ⟨picked, hpicked, htext, hids⟩ := ih (d.selectByWindow qt own first)
      rw [List.foldl_cons]
      rcases selectByWindow_cases qt first d with
        ⟨hignored, hsame⟩ | ⟨before, id, after, rfl, hbefore, hid, hadd⟩
      · rw [hsame] at hpicked htext hids ⊢
        exact ⟨picked, .missed hignored hpicked, htext, hids⟩
      · rw [hadd] at hpicked htext hids ⊢
        have hknown : qt.convertStringToIds (d.addProcessId id).idsLineEdit =
            insert id (qt.convertStringToIds d.idsLineEdit) := Qt.convertStringToIds_cons id _
        rw [hknown] at hpicked hids
        refine ⟨id :: picked, .found hbefore hid hpicked, ?_, ?_⟩
        · rw [htext, List.reverse_cons, List.flatMap_append]
          simp [addProcessId]
        · ext id'
          rw [hids]
          simp only [Finset.mem_union, Finset.mem_insert, List.toFinset_cons]
          tauto
  obtain ⟨picked, hpicked, htext, hids⟩ := hrun
  refine ⟨picked, hpicked, hpicked.nodup, fun id hid => ?_, htext, hids⟩
  obtain ⟨hclicked, hnot⟩ := hpicked.mem hid
  exact ⟨fun h => hnot (Or.inl h), fun h => hnot (Or.inr (Or.inl h)), hclicked,
    fun h => hnot (Or.inr (Or.inr h))⟩

/-- The dialog knows the process 7, and the program is 1. -/
def knowsSeven : FiltersDialog := ({} : FiltersDialog).addProcessId 7

/-- Of four series of clicks two pick a process: the desktop, the program itself and the processes
that are known are passed over. -/
theorem picked_ids_two :
    (List.foldl (fun d clicks => d.selectByWindow QProxyItem.someQt 1 clicks) knowsSeven
      [[0, 1, 7, 9], [9, 7], [12, 13], [1]]).idsLineEdit =
        ['1', '2', ';', '9', ';', '7', ';'] ∧
    QProxyItem.someQt.convertStringToIds (List.foldl
      (fun d clicks => d.selectByWindow QProxyItem.someQt 1 clicks) knowsSeven
      [[0, 1, 7, 9], [9, 7], [12, 13], [1]]).idsLineEdit = {7, 9, 12} := by
  obtain ⟨picked, hpicked, -, -, htext, hids⟩ :=
    picked_ids QProxyItem.someQt 1 [[0, 1, 7, 9], [9, 7], [12, 13], [1]] knowsSeven
  have hknown : QProxyItem.someQt.convertStringToIds knowsSeven.idsLineEdit = {7} :=
    Qt.convertStringToIds_cons 7 []
  have htwo : Picked 1 {7} [[0, 1, 7, 9], [9, 7], [12, 13], [1]] [9, 12] := by
    refine @Picked.found _ _ [0, 1, 7] 9 [] _ _ (by simp [Ignored]) (by simp [Ignored]) ?_
    refine .missed (by simp [Ignored]) ?_
    refine @Picked.found _ _ [] 12 [13] _ _ (by simp) (by simp [Ignored]) ?_
    exact .missed (by simp [Ignored]) (.done _)
  rw [hknown] at hpicked hids
  obtain rfl := htwo.unique hpicked
  refine ⟨htext, hids.trans ?_⟩
  decide

end FiltersDialog

end CutieProxy
