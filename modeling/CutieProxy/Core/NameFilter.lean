import CutieProxy.Iphelper.ProcessLookup

/-!
# Filters on process names

`NameFilter` compares the name or the image path of a process with a pattern. Without case
sensitivity both are passed through `std::tolower` first, except that a regular expression is left
as it was written, and each wide character comes out of it as a `char`. Where that conversion
decides no comparison (`KeepsComparisons`) the filter matches what it matches up to letter case
(`match_insensitive_iff`); a regular expression then has to be written in lower case.

What `std::tolower` does in the locale and `std::regex_match` on a pattern that is a regular
expression are parameters. Two characters are the same letter where `std::tolower` agrees on them.
-/

namespace CutieProxy

/-- `TNameFilterType`. -/
inductive NameFilterType where
  | processName
  | imagePath
  deriving DecidableEq, Repr

/-- `TStringMatchType`. -/
inductive StringMatchType where
  | exact
  | contains
  | regExp
  deriving DecidableEq, Repr

/-- `NameFilter`. -/
structure NameFilter where
  filterType : NameFilterType
  data : List UInt16
  stringMatchType : StringMatchType := .exact
  isCaseSensitive : Bool := true

/-- A wide character returned as a `char` and stored as a wide character again: its low byte, with
the sign of a `char`. -/
def toChar (c : UInt16) : UInt16 :=
  if c.toNat % 256 < 128 then UInt16.ofNat (c.toNat % 256)
  else UInt16.ofNat (0xFF00 + c.toNat % 256)

/-- `src.find(p) != std::string::npos`: the pattern is found at some place of the string. -/
def finds : List UInt16 → List UInt16 → Bool
  | [], p => p.isEmpty
  | c :: src, p => p.isPrefixOf (c :: src) || finds src p

section
variable (tolower : UInt16 → UInt16) (regexMatch : List UInt16 → List UInt16 → Bool)

/-- `tolower` of a `std::wstring`. -/
def tolowerString (str : List UInt16) : List UInt16 := str.map fun c => toChar (tolower c)

/-- `matchString`. -/
def matchString (src p : List UInt16) : StringMatchType → Bool
  | .exact => src == p
  | .contains => finds src p
  | .regExp => regexMatch src p

namespace NameFilter

/-- The string of a process that the filter looks at. -/
def selected (f : NameFilter) (process : NetworkProcess) : List UInt16 :=
  match f.filterType with
  | .imagePath => process.pathName
  | .processName => process.name

/-- `NameFilter::match`. -/
def matchProcess (f : NameFilter) : FilterInterface := fun process =>
  let src := f.selected process
  if f.isCaseSensitive then matchString regexMatch src f.data f.stringMatchType
  else
    let pattern := if f.stringMatchType = .regExp then f.data else tolowerString tolower f.data
    matchString regexMatch (tolowerString tolower src) pattern f.stringMatchType

/-- A process whose string that the filter looks at is another. -/
def select (f : NameFilter) (src : List UInt16) (process : NetworkProcess) : NetworkProcess :=
  match f.filterType with
  | .imagePath => { process with pathName := src }
  | .processName => { process with name := src }

/-- The same filter with case sensitivity, for another pattern. -/
def sensitive (f : NameFilter) (pattern : List UInt16) : NameFilter :=
  { f with data := pattern, isCaseSensitive := true }

/-- Two strings are the same up to letter case. -/
def Recasing (s s' : List UInt16) : Prop := s'.map tolower = s.map tolower

/-- The conversion to `char` changes no comparison that the filter makes between a character of the
string and one of the pattern. -/
def KeepsComparisons (f : NameFilter) (process : NetworkProcess) : Prop :=
  ∀ c ∈ f.selected process, ∀ d ∈ f.data,
    if f.stringMatchType = .regExp then toChar (tolower c) = d ↔ tolower c = d
    else toChar (tolower c) = toChar (tolower d) ↔ tolower c = tolower d

/-- What the filter matches: some recasing of the string and of the pattern with case sensitivity,
or, for a regular expression, the string in lower case. -/
def MatchesRecased (f : NameFilter) (process : NetworkProcess) : Prop :=
  if f.stringMatchType = .regExp then
    (f.sensitive f.data).matchProcess tolower regexMatch
      (f.select ((f.selected process).map tolower) process) = true
  else ∃ s' p', Recasing tolower (f.selected process) s' ∧ Recasing tolower f.data p' ∧
    (f.sensitive p').matchProcess tolower regexMatch (f.select s' process) = true

end NameFilter

end

/-! ## Comparisons of strings by characters -/

section
variable {α β γ δ : Type} {f : α → γ} {x : β → γ} {g : α → δ} {y : β → δ} {s : List α}
  {p : List β}

/-- Strings whose characters compare alike under two pairs of functions are equal alike. -/
theorem map_eq_map_iff (h : ∀ c ∈ s, ∀ d ∈ p, f c = x d ↔ g c = y d) :
    s.map f = p.map x ↔ s.map g = p.map y := by
  induction s generalizing p with
  | nil => cases p <;> simp
  | cons c s ih =>
    cases p with
    | nil => simp
    | cons d p =>
      have htail := ih fun c' hc' d' hd' =>
        h c' (List.mem_cons_of_mem _ hc') d' (List.mem_cons_of_mem _ hd')
      simp only [List.map_cons, List.cons.injEq, htail, h c List.mem_cons_self d List.mem_cons_self]

/-- And occur in each other alike. -/
theorem map_isInfix_map_iff (h : ∀ c ∈ s, ∀ d ∈ p, f c = x d ↔ g c = y d) :
    p.map x <:+: s.map f ↔ p.map y <:+: s.map g := by
  rw [List.infix_map_iff, List.infix_map_iff]
  refine exists_congr fun m => and_congr_right fun hm => ?_
  have hpart := map_eq_map_iff fun c hc => h c (hm.mem hc)
  exact eq_comm.trans (hpart.trans eq_comm)

end

/-- A pattern is found just where it is a part of the string. -/
theorem finds_iff {src p : List UInt16} : finds src p = true ↔ p <:+: src := by
  induction src with
  | nil => rw [finds, List.isEmpty_iff, List.infix_nil]
  | cons c src ih =>
    rw [finds, Bool.or_eq_true, ih, List.isPrefixOf_iff_prefix, List.infix_cons_iff]

namespace NameFilter

variable {tolower : UInt16 → UInt16} {regexMatch : List UInt16 → List UInt16 → Bool}
  {f : NameFilter} {process : NetworkProcess} {s s' p p' : List UInt16}

theorem selected_select (f : NameFilter) (src : List UInt16) (process : NetworkProcess) :
    f.selected (f.select src process) = src := by
  unfold selected select
  cases f.filterType <;> rfl

theorem matchProcess_sensitive (f : NameFilter) (s' p' : List UInt16) (process : NetworkProcess) :
    (f.sensitive p').matchProcess tolower regexMatch (f.select s' process) =
      matchString regexMatch s' p' f.stringMatchType :=
  congrArg (matchString regexMatch · p' f.stringMatchType) (selected_select f s' process)

/-- Strings of the same letters have a common recasing. -/
theorem exists_recasing_eq :
    (∃ s' p', Recasing tolower s s' ∧ Recasing tolower p p' ∧ s' = p') ↔
      s.map tolower = p.map tolower := by
  constructor
  · rintro ⟨s', p', hs, hp, rfl⟩
    exact hs.symm.trans hp
  · intro h
    exact ⟨s, s, rfl, h, rfl⟩

/-- The letters of a pattern that occur in a string are those of a part of it. -/
theorem exists_recasing_isInfix :
    (∃ s' p', Recasing tolower s s' ∧ Recasing tolower p p' ∧ p' <:+: s') ↔
      p.map tolower <:+: s.map tolower := by
  constructor
  · rintro ⟨s', p', hs, hp, hinfix⟩
    have hmap := hinfix.map tolower
    rwa [hs, hp] at hmap
  · intro h
    obtain ⟨m, hm, heq⟩ := List.infix_map_iff.mp h
    exact ⟨s, m, rfl, heq.symm, hm⟩

/-- A filter without case sensitivity, for a regular expression of letters and digits only: where
the conversion to `char` changes no comparison it matches the string up to letter case, a regular
expression in lower case only. -/
theorem match_insensitive_iff {isWord : UInt16 → Prop}
    (hregex : ∀ src p, (∀ c ∈ p, isWord c) → (regexMatch src p = true ↔ src = p))
    (hcase : f.isCaseSensitive = false)
    (hword : f.stringMatchType = .regExp → ∀ c ∈ f.data, isWord c)
    (hkeeps : f.KeepsComparisons tolower process) :
    f.matchProcess tolower regexMatch process = true ↔
      f.MatchesRecased tolower regexMatch process := by
  unfold KeepsComparisons at hkeeps
  unfold MatchesRecased
  simp only [matchProcess_sensitive]
  simp only [matchProcess, hcase, Bool.false_eq_true, if_false]
  cases htype : f.stringMatchType with
  | exact =>
    simp only [htype, reduceCtorEq, if_false] at hkeeps
    simp only [matchString, reduceCtorEq, if_false, beq_iff_eq, exists_recasing_eq]
    exact map_eq_map_iff hkeeps
  | contains =>
    simp only [htype, reduceCtorEq, if_false] at hkeeps
    simp only [matchString, reduceCtorEq, if_false, finds_iff, exists_recasing_isInfix]
    exact map_isInfix_map_iff hkeeps
  | regExp =>
    simp only [htype, if_true] at hkeeps
    simp only [matchString, if_true, hregex _ _ (hword htype)]
    have hsame := map_eq_map_iff (x := id) (y := id) hkeeps
    rwa [List.map_id] at hsame

/-- A character below 128 comes out of the conversion to `char` as it is. -/
theorem toChar_of_lt {c : UInt16} (h : c.toNat < 128) : toChar c = c := by
  have hbyte : c.toNat % 256 = c.toNat := Nat.mod_eq_of_lt (Nat.lt_trans h (by decide))
  unfold toChar
  rw [hbyte, if_pos h, UInt16.ofNat_toNat]

/-- The conversion changes no comparison between characters whose lower case is below 128. -/
theorem keepsComparisons_of_lt (hselected : ∀ c ∈ f.selected process, (tolower c).toNat < 128)
    (hdata : ∀ d ∈ f.data, (tolower d).toNat < 128) : f.KeepsComparisons tolower process := by
  intro c hc d hd
  rw [toChar_of_lt (hselected c hc), toChar_of_lt (hdata d hd)]
  split <;> rfl

/-- `std::tolower` in the locale a program starts in. -/
def asciiToLower (c : UInt16) : UInt16 := if 65 ≤ c ∧ c ≤ 90 then c + 32 else c

theorem asciiToLower_lt {c : UInt16} (h : c.toNat < 128) : (asciiToLower c).toNat < 128 := by
  unfold asciiToLower
  split
  · next hupper =>
    have hle : c.toNat ≤ 90 := UInt16.le_iff_toNat_le.mp hupper.2
    rw [UInt16.toNat_add, show UInt16.toNat 32 = 32 from rfl]
    omega
  · exact h

/-- In that locale it changes none between characters below 128. -/
theorem keepsComparisons_ascii (hselected : ∀ c ∈ f.selected process, c.toNat < 128)
    (hdata : ∀ d ∈ f.data, d.toNat < 128) : f.KeepsComparisons asciiToLower process :=
  keepsComparisons_of_lt (fun c hc => asciiToLower_lt (hselected c hc))
    fun d hd => asciiToLower_lt (hdata d hd)

/-- The process `A.exe` would be: its name and its path are `A`. -/
def processA : NetworkProcess := ⟨0, [65], [65]⟩

/-- A filter for `a` that is not case sensitive. -/
def lowerA (stringMatchType : StringMatchType) : NameFilter :=
  ⟨.processName, [97], stringMatchType, false⟩

theorem match_insensitive_iff_a :
    (lowerA .exact).matchProcess asciiToLower (fun s p => s == p) processA = true ↔
      (lowerA .exact).MatchesRecased asciiToLower (fun s p => s == p) processA := by
  have hkeeps : (lowerA .exact).KeepsComparisons asciiToLower processA :=
    keepsComparisons_ascii (List.forall_mem_singleton.mpr (by decide))
      (List.forall_mem_singleton.mpr (by decide))
  have hregex : ∀ src p : List UInt16, (∀ c ∈ p, True) → ((src == p) = true ↔ src = p) :=
    fun _ _ _ => beq_iff_eq
  exact match_insensitive_iff hregex rfl nofun hkeeps

/-- The name `š` is matched by `a` as well, its low byte. -/
example :
    (lowerA .exact).matchProcess asciiToLower (fun s p => s == p) ⟨0, [0x161], []⟩ = true := by
  decide

/-- The regular expression `A` does not match `A`. -/
theorem regExp_pattern_not_lowered : ¬ ∀ (f : NameFilter) (process : NetworkProcess),
    f.isCaseSensitive = false → (f.matchProcess asciiToLower (fun s p => s == p) process = true ↔
      ∃ s' p', Recasing asciiToLower (f.selected process) s' ∧ Recasing asciiToLower f.data p' ∧
        (f.sensitive p').matchProcess asciiToLower (fun s p => s == p) (f.select s' process) =
          true) := by
  intro hclaim
  have hmatch := (hclaim ⟨.processName, [65], .regExp, false⟩ processA rfl).mpr
    ⟨[65], [65], rfl, rfl, by decide⟩
  exact absurd hmatch (by decide)

end NameFilter

end CutieProxy
