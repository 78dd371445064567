import CutieProxy.Core.NameFilter
import CutieProxy.Core.QProxyItem
import Mathlib.Data.Finset.Basic
import Mathlib.Data.Finset.Dedup

/-!
# Editing the filters of a proxy

`CpFiltersDialog` is opened on an item, and when it is accepted its one filter takes the place of
the item's filters. From the item the dialog learns the class of the last filter and nothing else:
a name filter comes back with the empty pattern, and one on process ids without an id
(`editFilters_eq`). `unchanged_iff` says which items match the same processes afterwards.

A pattern that is no regular expression, on which `std::wregex` throws, matches no process.
-/

namespace CutieProxy

/-- The classes that implement `iphelper::filter_interface`. -/
inductive ItemFilter where
  | none
  | all
  | name (filter : NameFilter)
  | processId (ids : Finset UInt32)

/-- `TFilterType`. -/
inductive FilterType where
  | none
  | all
  | name
  | processId
  deriving DecidableEq, Repr

/-- The value of the enumerator. -/
def FilterType.index : FilterType → Nat
  | .none => 0
  | .all => 1
  | .name => 2
  | .processId => 3

/-- `QComboBox`: the data of its items, and the item that is selected, if one is. -/
structure ComboBox (α : Type) where
  items : List α := []
  currentIndex : Option Nat := none

namespace ComboBox

variable {α : Type}

/-- `QComboBox::addItem`: the first item of an empty box is selected. -/
def addItem (a : α) (box : ComboBox α) : ComboBox α :=
  { items := box.items ++ [a]
    currentIndex := if box.items.isEmpty then some 0 else box.currentIndex }

/-- `QComboBox::setCurrentIndex`. -/
def setCurrentIndex (i : Nat) (box : ComboBox α) : ComboBox α :=
  { box with currentIndex := if i < box.items.length then some i else none }

/-- `itemData(currentIndex())`. -/
def currentData (box : ComboBox α) : Option α := box.currentIndex.bind (box.items[·]?)

end ComboBox

/-- `QString::toStdWString`: UTF-16, with a pair of surrogates for a character from 2^16 on. -/
def toStdWString (text : List Char) : List UInt16 :=
  text.flatMap fun c =>
    if c.toNat < 0x10000 then [UInt16.ofNat c.toNat]
    else
      [UInt16.ofNat (0xD800 + (c.toNat - 0x10000) / 0x400),
        UInt16.ofNat (0xDC00 + (c.toNat - 0x10000) % 0x400)]

namespace Qt

variable (qt : Qt)

/-- `QString::toUInt` to base 10. -/
def toUInt (text : List Char) : Option UInt32 :=
  let digits :=
    match qt.trimmed text with
    | '+' :: digits => digits
    | digits => digits
  ((unsigned digits).filter (· < 4294967296)).map UInt32.ofNat

/-- `CpFiltersDialog::convertStringToIds`. -/
def convertStringToIds (input : List Char) : Finset UInt32 :=
  if input = [] then ∅
  else (((input.splitOn ';').filter (· ≠ [])).filterMap qt.toUInt).toFinset

end Qt

/-- The fields of `CpFiltersDialog`, with what they hold before the dialog fills them. -/
structure FiltersDialog where
  filterTypeCombo : ComboBox FilterType := {}
  nameFilterTypeCombo : ComboBox NameFilterType := {}
  stringMatchTypeCombo : ComboBox StringMatchType := {}
  patternLineEdit : List Char := []
  caseSensitiveCheckBox : Bool := false
  idsLineEdit : List Char := []

namespace FiltersDialog

/-- The dialog with the items of its boxes. -/
def addItems (d : FiltersDialog) : FiltersDialog :=
  { d with
    filterTypeCombo :=
      d.filterTypeCombo |>.addItem .none |>.addItem .all |>.addItem .name |>.addItem .processId
    nameFilterTypeCombo := d.nameFilterTypeCombo |>.addItem .processName |>.addItem .imagePath
    stringMatchTypeCombo :=
      d.stringMatchTypeCombo |>.addItem .exact |>.addItem .contains |>.addItem .regExp }

/-- `CpFiltersDialog::filterTypeByObject`. -/
def filterTypeByObject : ItemFilter → FilterType
  | .all => .all
  | .none => .none
  | .name _ => .name
  | .processId _ => .processId

/-- What `init` does with one filter of the item. -/
def load (d : FiltersDialog) (filter : ItemFilter) : FiltersDialog :=
  { d with
    filterTypeCombo := d.filterTypeCombo.setCurrentIndex (filterTypeByObject filter).index }

/-- `CpFiltersDialog::init`. -/
def init (filters : List ItemFilter) : FiltersDialog := filters.foldl load (addItems {})

/-- `CpFiltersDialog::filter`, which fails where nothing is selected in a box. -/
def filter (qt : Qt) (d : FiltersDialog) : Option ItemFilter :=
  match d.filterTypeCombo.currentData with
  | some .none => some .none
  | some .all => some .all
  | some .name =>
    match d.nameFilterTypeCombo.currentData, d.stringMatchTypeCombo.currentData with
    | some nameFilterType, some stringMatchType =>
      some (.name { filterType := nameFilterType
                    data := toStdWString d.patternLineEdit
                    stringMatchType
                    isCaseSensitive := d.caseSensitiveCheckBox })
    | _, _ => none
  | some .processId => some (.processId (qt.convertStringToIds d.idsLineEdit))
  | none => none

end FiltersDialog

namespace QProxyItem

/-- `QProxyItem::addFilter`. -/
def addFilter (filter : ItemFilter) (filters : List ItemFilter) : List ItemFilter :=
  filters ++ [filter]

/-- `QProxyItem::clearFilters`. -/
def clearFilters (_ : List ItemFilter) : List ItemFilter := []

/-- The filters of an item after `CpWindow` opened the dialog and it was accepted as it was. -/
def editFilters (qt : Qt) (filters : List ItemFilter) : Option (List ItemFilter) :=
  ((FiltersDialog.init filters).filter qt).map fun filter => addFilter filter (clearFilters filters)

end QProxyItem

section
variable (tolower : UInt16 → UInt16) (regexMatch : List UInt16 → List UInt16 → Bool)

namespace NameFilter

/-- The string that is compared with the pattern. -/
def subject (f : NameFilter) (src : List UInt16) : List UInt16 :=
  if f.isCaseSensitive then src else tolowerString tolower src

/-- The filter is a regular expression for no string. -/
def MatchesNothing (f : NameFilter) : Prop :=
  f.stringMatchType = .regExp ∧ ∀ src, regexMatch (f.subject tolower src) f.data = false

/-- The filter is for the empty process name. -/
def MatchesNameless (f : NameFilter) : Prop :=
  f.filterType = .processName ∧
    (f.stringMatchType = .exact ∧ f.data = [] ∨
      f.stringMatchType = .regExp ∧
        ∀ src, regexMatch (f.subject tolower src) f.data = true ↔ src = [])

end NameFilter

namespace ItemFilter

/-- `match` of the four classes. -/
def matchProcess : ItemFilter → FilterInterface
  | none => fun _ => false
  | all => allFilter
  | name f => f.matchProcess tolower regexMatch
  | processId ids => fun process => decide (process.id ∈ ids)

/-- The process is matched by a filter of the item. -/
def matchesAny (filters : List ItemFilter) : FilterInterface := fun process =>
  filters.any fun filter => filter.matchProcess tolower regexMatch process

/-- The filter is none, or it is empty. -/
def MatchesNothing : ItemFilter → Prop
  | none => True
  | all => False
  | name f => f.MatchesNothing tolower regexMatch
  | processId ids => ids = ∅

/-- The filter is one for the empty process name. -/
def MatchesNameless : ItemFilter → Prop
  | name f => f.MatchesNameless tolower regexMatch
  | _ => False

/-- The item has filters that the dialog gives back: all processes, or, where the last filter is on
a name, the processes without a name, or none. -/
def Kept (filters : List ItemFilter) : Prop :=
  match filters.getLast? with
  | some .all => True
  | some (.name _) =>
    (∀ filter ∈ filters, filter.MatchesNothing tolower regexMatch ∨
        filter.MatchesNameless tolower regexMatch) ∧
      ∃ filter ∈ filters, filter.MatchesNameless tolower regexMatch
  | _ => ∀ filter ∈ filters, filter.MatchesNothing tolower regexMatch

/-- The edited item matches the processes it matched before. -/
def Unchanged (qt : Qt) (filters : List ItemFilter) : Prop :=
  ∃ filters', QProxyItem.editFilters qt filters = some filters' ∧
    ∀ process, matchesAny tolower regexMatch filters' process =
      matchesAny tolower regexMatch filters process

end ItemFilter

end

/-! ## What the dialog gives back -/

namespace FiltersDialog

variable {qt : Qt}

/-- The dialog shows the class of the last filter. -/
theorem foldl_load (filters : List ItemFilter) (d : FiltersDialog) :
    filters.foldl load d =
      match filters.getLast? with
      | none => d
      | some filter => d.load filter := by
  induction filters generalizing d with
  | nil => rfl
  | cons filter filters ih =>
    rw [List.foldl_cons, ih, List.getLast?_cons]
    cases filters.getLast? <;> rfl

/-- The filter of the dialog on an item whose last filter is this one. -/
def returned : Option ItemFilter → ItemFilter
  | some .all => .all
  | some (.name _) => .name ⟨.processName, [], .exact, false⟩
  | some (.processId _) => .processId ∅
  | _ => .none

theorem filter_init (filters : List ItemFilter) :
    (init filters).filter qt = some (returned filters.getLast?) := by
  rw [init, foldl_load]
  cases filters.getLast? with
  | none => rfl
  | some filter => cases filter <;> rfl

end FiltersDialog

/-- Of the filters of an item the dialog keeps the class of the last one. -/
theorem QProxyItem.editFilters_eq {qt : Qt} (filters : List ItemFilter) :
    editFilters qt filters = some [FiltersDialog.returned filters.getLast?] := by
  rw [editFilters, FiltersDialog.filter_init]
  rfl

/-! ## What filters match -/

section
variable {tolower : UInt16 → UInt16} {regexMatch : List UInt16 → List UInt16 → Bool}

namespace NameFilter

variable {f : NameFilter}

theorem matchProcess_congr {process process' : NetworkProcess}
    (h : f.selected process = f.selected process') :
    f.matchProcess tolower regexMatch process = f.matchProcess tolower regexMatch process' := by
  rw [matchProcess, matchProcess, h]

/-- A filter that matches only processes without a name does not look at image paths. -/
theorem filterType_of_nameless {process : NetworkProcess}
    (hname : ∀ process, f.matchProcess tolower regexMatch process = true → process.name = [])
    (hmatch : f.matchProcess tolower regexMatch process = true) : f.filterType = .processName := by
  cases htype : f.filterType with
  | processName => rfl
  | imagePath =>
    have hpath : f.selected { process with name := [0] } = f.selected process := by
      rw [selected, selected, htype]
    cases hname _ ((matchProcess_congr hpath).trans hmatch)

/-- A filter that compares characters matches its own pattern. -/
theorem matchProcess_data (htype : f.stringMatchType ≠ .regExp) (process : NetworkProcess) :
    f.matchProcess tolower regexMatch (f.select f.data process) = true := by
  have hself (src : List UInt16) : matchString regexMatch src src f.stringMatchType = true := by
    cases hmatch : f.stringMatchType with
    | exact => exact beq_self_eq_true src
    | contains => exact finds_iff.mpr List.infix_rfl
    | regExp => exact absurd hmatch htype
  simp only [matchProcess, selected_select, if_neg htype, hself, ite_self]

theorem matchProcess_regExp (htype : f.stringMatchType = .regExp) (process : NetworkProcess) :
    f.matchProcess tolower regexMatch process =
      regexMatch (f.subject tolower (f.selected process)) f.data := by
  rw [matchProcess, subject, htype]
  cases f.isCaseSensitive <;> rfl

theorem matchesNothing_iff : f.MatchesNothing tolower regexMatch ↔
    ∀ process, f.matchProcess tolower regexMatch process = false := by
  constructor
  · rintro ⟨htype, hregex⟩ process
    exact (matchProcess_regExp htype process).trans (hregex _)
  · intro h
    have htype : f.stringMatchType = .regExp := by
      by_contra htype
      have hdata : f.matchProcess tolower regexMatch (f.select f.data ⟨0, [], []⟩) = true :=
        matchProcess_data htype _
      rw [h] at hdata
      cases hdata
    refine ⟨htype, fun src => ?_⟩
    have hsrc := h (f.select src ⟨0, [], []⟩)
    rwa [matchProcess_regExp htype, selected_select] at hsrc

theorem matchesNameless_iff : f.MatchesNameless tolower regexMatch ↔
    ∀ process, f.matchProcess tolower regexMatch process = true ↔ process.name = [] := by
  constructor
  · rintro ⟨htype, hpattern⟩ process
    have hselected : f.selected process = process.name := by rw [selected, htype]
    rcases hpattern with ⟨hexact, hdata⟩ | ⟨hregExp, hregex⟩
    · have hempty : tolowerString tolower process.name = [] ↔ process.name = [] :=
        List.map_eq_nil_iff
      rw [matchProcess, hselected, hexact, hdata]
      cases f.isCaseSensitive
      · exact beq_iff_eq.trans hempty
      · exact beq_iff_eq
    · rw [matchProcess_regExp hregExp, hselected, hregex]
  · intro h
    have htype := filterType_of_nameless (fun process => (h process).mp)
      ((h ⟨0, [], []⟩).mpr rfl)
    have hname (src : List UInt16) : (f.select src ⟨0, [], []⟩).name = src := by
      rw [select, htype]
    have hsrc (src : List UInt16) :
        f.matchProcess tolower regexMatch (f.select src ⟨0, [], []⟩) = true ↔ src = [] := by
      rw [h, hname]
    have hdata (hne : f.stringMatchType ≠ .regExp) : f.data = [] :=
      (hsrc f.data).mp (matchProcess_data hne _)
    refine ⟨htype, ?_⟩
    cases hmatch : f.stringMatchType with
    | exact => exact Or.inl ⟨rfl, hdata (by simp [hmatch])⟩
    | contains =>
      -- the empty pattern is a part of every name
      have hfound := (hsrc [0]).mp (by
        rw [matchProcess, hmatch, hdata (by simp [hmatch])]
        cases f.isCaseSensitive <;> exact finds_iff.mpr List.nil_infix)
      cases hfound
    | regExp =>
      refine Or.inr ⟨rfl, fun src => ?_⟩
      have hsrc' := hsrc src
      rwa [matchProcess_regExp hmatch, selected_select] at hsrc'

/-- A filter that matches only processes without a name matches all of them or nothing. -/
theorem of_nameless
    (hname : ∀ process, f.matchProcess tolower regexMatch process = true → process.name = []) :
    f.MatchesNothing tolower regexMatch ∨ f.MatchesNameless tolower regexMatch := by
  rcases Classical.em (∃ process, f.matchProcess tolower regexMatch process = true) with
    ⟨process, hmatch⟩ | hnone
  · refine Or.inr (matchesNameless_iff.mpr fun process' => ⟨hname process', fun hname' => ?_⟩)
    have hselected : f.selected process' = f.selected process := by
      rw [selected, selected, filterType_of_nameless hname hmatch]
      exact hname'.trans (hname process hmatch).symm
    exact (matchProcess_congr hselected).trans hmatch
  · exact Or.inl (matchesNothing_iff.mpr fun process =>
      Bool.eq_false_iff.mpr fun hmatch => hnone ⟨process, hmatch⟩)

end NameFilter

namespace ItemFilter

variable {filter : ItemFilter} {filters : List ItemFilter}

/-- The filter matches no process. -/
theorem matchesNothing_iff : filter.MatchesNothing tolower regexMatch ↔
    ∀ process, filter.matchProcess tolower regexMatch process = false := by
  cases filter with
  | none => exact iff_of_true trivial fun _ => rfl
  | all => exact iff_of_false id fun h => Bool.noConfusion (h ⟨0, [], []⟩)
  | name f => exact NameFilter.matchesNothing_iff
  | processId ids =>
    constructor
    · rintro (rfl : ids = ∅) process
      rfl
    · intro h
      exact Finset.eq_empty_of_forall_notMem fun id =>
        of_decide_eq_false (h ⟨id, [], []⟩)

theorem matchesNameless_iff (h : filter.MatchesNameless tolower regexMatch)
    (process : NetworkProcess) :
    filter.matchProcess tolower regexMatch process = true ↔ process.name = [] := by
  cases filter with
  | name f => exact NameFilter.matchesNameless_iff.mp h process
  | _ => exact h.elim

/-- A filter that matches only processes without a name matches nothing or is for the empty name. -/
theorem nameless_iff : (∀ process, filter.matchProcess tolower regexMatch process = true →
      process.name = []) ↔
    filter.MatchesNothing tolower regexMatch ∨ filter.MatchesNameless tolower regexMatch := by
  constructor
  · intro hname
    cases filter with
    | none => exact Or.inl trivial
    | all => cases hname ⟨0, [0], []⟩ rfl
    | name f => exact NameFilter.of_nameless hname
    | processId ids =>
      refine Or.inl (Finset.eq_empty_of_forall_notMem fun id hid => ?_)
      cases hname ⟨id, [0], []⟩ (decide_eq_true hid)
  · rintro (hnothing | hnameless) process hmatch
    · rw [matchesNothing_iff.mp hnothing] at hmatch
      cases hmatch
    · exact (matchesNameless_iff hnameless process).mp hmatch

theorem matchesAny_eq_true {process : NetworkProcess} :
    matchesAny tolower regexMatch filters process = true ↔
      ∃ filter ∈ filters, filter.matchProcess tolower regexMatch process = true :=
  List.any_eq_true

/-- The filters of an item match no process. -/
theorem matchesAny_nothing_iff :
    (∀ process, matchesAny tolower regexMatch filters process = false) ↔
      ∀ filter ∈ filters, filter.MatchesNothing tolower regexMatch := by
  simp only [matchesNothing_iff, matchesAny, List.any_eq_false, Bool.not_eq_true]
  exact ⟨fun h filter hmem process => h process filter hmem,
    fun h process filter hmem => h filter hmem process⟩

/-- The filters of an item match the processes without a name. -/
theorem matchesAny_nameless_iff :
    (∀ process, matchesAny tolower regexMatch filters process = true ↔ process.name = []) ↔
      (∀ filter ∈ filters, filter.MatchesNothing tolower regexMatch ∨
          filter.MatchesNameless tolower regexMatch) ∧
        ∃ filter ∈ filters, filter.MatchesNameless tolower regexMatch := by
  simp only [matchesAny_eq_true]
  constructor
  · intro h
    have hall : ∀ filter ∈ filters, filter.MatchesNothing tolower regexMatch ∨
        filter.MatchesNameless tolower regexMatch := fun filter hmem =>
      nameless_iff.mp fun process hmatch => (h process).mp ⟨filter, hmem, hmatch⟩
    obtain ⟨filter, hmem, hmatch⟩ := (h ⟨0, [], []⟩).mpr rfl
    refine ⟨hall, filter, hmem, (hall filter hmem).resolve_left fun hnothing => ?_⟩
    rw [matchesNothing_iff.mp hnothing] at hmatch
    cases hmatch
  · rintro ⟨hall, filter, hmem, hnameless⟩ process
    constructor
    · rintro ⟨filter', hmem', hmatch⟩
      exact nameless_iff.mpr (hall filter' hmem') process hmatch
    · intro hname
      exact ⟨filter, hmem, (matchesNameless_iff hnameless process).mpr hname⟩

/-- The one filter that the dialog gives back for an item. -/
theorem unchanged_iff_returned {qt : Qt} : Unchanged tolower regexMatch qt filters ↔
    ∀ process, (FiltersDialog.returned filters.getLast?).matchProcess tolower regexMatch process =
      matchesAny tolower regexMatch filters process := by
  have hone (filter : ItemFilter) (process : NetworkProcess) :
      matchesAny tolower regexMatch [filter] process =
        filter.matchProcess tolower regexMatch process := Bool.or_false _
  simp only [Unchanged, QProxyItem.editFilters_eq, Option.some.injEq, exists_eq_left', hone]

/-- An item matches the processes it matched before just when its last filter is for all of them,
or is on a name and the item matches the processes without one, or the item matches none. -/
theorem unchanged_iff (qt : Qt) (filters : List ItemFilter) :
    Unchanged tolower regexMatch qt filters ↔ Kept tolower regexMatch filters := by
  have hnothing {filter : ItemFilter} (h : filter.MatchesNothing tolower regexMatch) :
      (∀ process, filter.matchProcess tolower regexMatch process =
        matchesAny tolower regexMatch filters process) ↔
      ∀ filter ∈ filters, filter.MatchesNothing tolower regexMatch := by
    simp only [matchesNothing_iff.mp h, ← matchesAny_nothing_iff, eq_comm]
  rw [unchanged_iff_returned, Kept]
  cases hlast : filters.getLast? with
  | none => exact hnothing trivial
  | some filter =>
    have hmem : filter ∈ filters := List.mem_of_getLast? hlast
    cases filter with
    | none => exact hnothing trivial
    | all =>
      exact iff_of_true (fun process => (matchesAny_eq_true.mpr ⟨_, hmem, rfl⟩).symm) trivial
    | name f =>
      have hempty : (FiltersDialog.returned (some (.name f))).MatchesNameless tolower regexMatch :=
        ⟨rfl, Or.inl ⟨rfl, rfl⟩⟩
      refine Iff.trans (forall_congr' fun process => ?_) matchesAny_nameless_iff
      rw [Bool.eq_iff_iff, matchesNameless_iff hempty]
      exact iff_comm
    | processId ids => exact hnothing rfl

/-- The item whose filter is for the process name `A` does not match that process any more. -/
theorem name_filter_lost : ¬ ∀ (qt : Qt) (filters : List ItemFilter),
    Unchanged NameFilter.asciiToLower (fun s p => s == p) qt filters := by
  intro hclaim
  have hsame := unchanged_iff_returned.mp
    (hclaim QProxyItem.someQt [.name ⟨.processName, [65], .exact, true⟩]) NameFilter.processA
  revert hsame
  decide

end ItemFilter

end

end CutieProxy
