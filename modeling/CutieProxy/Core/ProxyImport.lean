import CutieProxy.Lib.Backtrack
import CutieProxy.Lib.Decimal

/-!
# Importing a proxy

`CpProxyDialog` splits the text `user:password@host:port` with a regular expression of four greedy
groups. The first group takes all it can, so a password with a colon is split at its last colon
(`importFields_eq`); `importFields_iff` says which texts are split as they were put together.
-/

namespace CutieProxy

/-- The regular expression engine: the characters that `.` does not match. -/
structure RegexEngine where
  isLineBreak : Char → Bool
  colon : isLineBreak ':' = false
  digit : ∀ c : Char, Decimal.IsDigit c.toNat → isLineBreak c = false

/-- What is captured for the four fields of the dialog. -/
structure ProxyFields where
  username : List Char
  password : List Char
  ip : List Char
  port : List Char
  deriving DecidableEq

namespace RegexEngine

open Backtrack

variable (re : RegexEngine)

/-- `.` matches the character. -/
def dot (c : Char) : Bool := !re.isLineBreak c

/-- The part `(.*)` at the end of the pattern. -/
def portPattern : List Char → Option (List Char × Unit) := group re.dot fun _ => some ()

/-- The part `(.*):(.*)`. -/
def ipPattern : List Char → Option (List Char × List Char × Unit) :=
  group re.dot (char ':' re.portPattern)

/-- The part `(.*)@(.*):(.*)`. -/
def passwordPattern : List Char → Option (List Char × List Char × List Char × Unit) :=
  group re.dot (char '@' re.ipPattern)

/-- The pattern `(.*):(.*)@(.*):(.*)`. -/
def pattern : List Char → Option (List Char × List Char × List Char × List Char × Unit) :=
  group re.dot (char ':' re.passwordPattern)

/-- What the dialog imports from a text: nothing, where the text is empty or does not match. -/
def importFields (text : List Char) : Option ProxyFields :=
  if text = [] then none
  else (search re.pattern text).map fun (username, password, ip, port, _) =>
    { username, password, ip, port }

end RegexEngine

/-- The text `user:password@host:port`. -/
def importText (user password host port : List Char) : List Char :=
  user ++ ':' :: (password ++ '@' :: (host ++ ':' :: port))

namespace RegexEngine

open Backtrack

variable {re : RegexEngine} {user password host port : List Char}

/-- No character of the text is a line break. -/
def OneLine (re : RegexEngine) (text : List Char) : Prop := ∀ c ∈ text, re.dot c = true

/-- A port is digits. -/
def IsPort (port : List Char) : Prop := ∀ c ∈ port, Decimal.IsDigit c.toNat

theorem IsPort.oneLine (h : IsPort port) : re.OneLine port := by
  intro c hc
  rw [dot, re.digit c (h c hc)]
  rfl

theorem IsPort.notMem {c : Char} (h : IsPort port) (hc : ¬ Decimal.IsDigit c.toNat) : c ∉ port :=
  fun hmem => hc (h c hmem)

/-- The last separator of a text is the only one behind it. -/
theorem eq_of_separator {c : Char} {before g' port rest : List Char} (hbefore : c ∉ before)
    (hport : c ∉ port) (h : before ++ c :: port = g' ++ c :: rest) : rest = port := by
  induction before generalizing g' with
  | nil =>
    cases g' with
    | nil => exact (List.cons.inj h).2.symm
    | cons x g' =>
      have htail := (List.cons.inj h).2
      exact absurd (htail ▸ List.mem_append_right _ List.mem_cons_self) hport
  | cons y before ih =>
    cases g' with
    | nil =>
      have hhead := (List.cons.inj h).1
      exact absurd (hhead ▸ List.mem_cons_self) hbefore
    | cons x g' => exact ih (fun hmem => hbefore (List.mem_cons_of_mem _ hmem)) (List.cons.inj h).2

/-! ## The four groups -/

theorem portPattern_eq (hport : re.OneLine port) : re.portPattern port = some (port, ()) := by
  have hgroup : group re.dot (fun _ => some ()) (port ++ []) = some (port, ()) :=
    group_eq_some hport rfl nofun
  rwa [List.append_nil] at hgroup

theorem ipPattern_eq (hhost : re.OneLine host) (hport : re.OneLine port) (hcolon : ':' ∉ port) :
    re.ipPattern (host ++ ':' :: port) = some (host, port, ()) :=
  group_char_eq_some hhost (portPattern_eq hport) hcolon

theorem passwordPattern_eq (hpassword : re.OneLine password) (hhost : re.OneLine host)
    (hport : re.OneLine port) (hcolon : ':' ∉ port) (hat : '@' ∉ host ++ ':' :: port) :
    re.passwordPattern (password ++ '@' :: (host ++ ':' :: port)) =
      some (password, host, port, ()) :=
  group_char_eq_some hpassword (ipPattern_eq hhost hport hcolon) hat

/-- Without an at sign there is no password. -/
theorem passwordPattern_eq_none (hat : '@' ∉ port) : re.passwordPattern port = none := by
  refine group_eq_none fun g' rest' heq => char_eq_none fun hmem => hat ?_
  rw [heq]
  exact List.mem_append_right g' hmem

/-- The first group ends at the last colon before the host. -/
theorem pattern_eq (huser : re.OneLine user) (hpassword : re.OneLine password)
    (hhost : re.OneLine host) (hport : re.OneLine port) (hbefore : ':' ∉ password ++ '@' :: host)
    (hcolon : ':' ∉ port) (hat : '@' ∉ host ++ ':' :: port) :
    re.pattern (importText user password host port) = some (user, password, host, port, ()) := by
  refine group_eq_some huser
    (char_cons.trans (passwordPattern_eq hpassword hhost hport hcolon hat)) ?_
  intro x g' rest' heq
  have htail : (password ++ '@' :: host) ++ ':' :: port = g' ++ rest' := by
    rw [List.append_assoc, List.cons_append]
    exact (List.cons.inj heq).2
  rw [Option.eq_none_iff_forall_ne_some]
  intro b hb
  -- a longer group would have to end at the colon before the port
  obtain ⟨rest, rfl, hnext⟩ := of_char hb
  rw [eq_of_separator hbefore hcolon htail, passwordPattern_eq_none fun hmem =>
    hat (List.mem_append_right _ (List.mem_cons_of_mem _ hmem))] at hnext
  cases hnext

/-- The text is split at the last colon of the password. -/
theorem importFields_eq (huser : re.OneLine user) (hpassword : re.OneLine password)
    (hhost : re.OneLine host) (hport : re.OneLine port) (hbefore : ':' ∉ password ++ '@' :: host)
    (hcolon : ':' ∉ port) (hat : '@' ∉ host ++ ':' :: port) :
    re.importFields (importText user password host port) =
      some { username := user, password, ip := host, port } := by
  have hsearch := search_of_match (pattern_eq huser hpassword hhost hport hbefore hcolon hat)
  have hne : importText user password host port ≠ [] :=
    List.append_ne_nil_of_right_ne_nil _ (List.cons_ne_nil _ _)
  rw [importFields, if_neg hne, hsearch]
  rfl

/-- What is captured has no line breaks. -/
theorem oneLine_of_importFields {text : List Char} {fields : ProxyFields}
    (h : re.importFields text = some fields) :
    re.OneLine fields.username ∧ re.OneLine fields.ip := by
  rw [importFields] at h
  split at h
  · cases h
  obtain ⟨⟨username, password, ip, port, _⟩, hsearch, rfl⟩ := Option.map_eq_some_iff.mp h
  obtain ⟨_, -, hpattern⟩ := of_search hsearch
  obtain ⟨husername, _, -, hnext⟩ := of_group hpattern
  obtain ⟨_, -, hpassword⟩ := of_char hnext
  obtain ⟨-, _, -, hnext⟩ := of_group hpassword
  obtain ⟨_, -, hip⟩ := of_char hnext
  exact ⟨husername, (of_group hip).1⟩

/-- The last colon of a password. -/
theorem exists_last_colon (h : ':' ∈ password) :
    ∃ before after, password = before ++ ':' :: after ∧ ':' ∉ after := by
  induction password with
  | nil => cases h
  | cons x password ih =>
    rcases Decidable.em (':' ∈ password) with hmem | hmem
    · obtain ⟨before, after, heq, hafter⟩ := ih hmem
      exact ⟨x :: before, after, by rw [heq, List.cons_append], hafter⟩
    · rcases List.mem_cons.mp h with rfl | hc
      · exact ⟨[], password, rfl, hmem⟩
      · exact absurd hc hmem

/-- A text is imported as it was put together just when the password has no colon and neither the
user name nor the host has a line break. -/
theorem importFields_iff (hpassword : re.OneLine password) (hhost : ':' ∉ host ∧ '@' ∉ host)
    (hport : IsPort port) :
    re.importFields (importText user password host port) =
        some { username := user, password, ip := host, port } ↔
      re.OneLine user ∧ re.OneLine host ∧ ':' ∉ password := by
  have hcolon : ':' ∉ port := hport.notMem (by decide)
  have hat : '@' ∉ host ++ ':' :: port := by
    rw [List.mem_append, List.mem_cons]
    rintro (hmem | hmem | hmem)
    · exact hhost.2 hmem
    · exact absurd hmem (by decide)
    · exact hport.notMem (by decide) hmem
  have hbefore {text : List Char} (htext : ':' ∉ text) : ':' ∉ text ++ '@' :: host := by
    rw [List.mem_append, List.mem_cons]
    rintro (hmem | hmem | hmem)
    · exact htext hmem
    · exact absurd hmem (by decide)
    · exact hhost.1 hmem
  constructor
  · intro h
    obtain ⟨hlineUser, hlineHost⟩ := oneLine_of_importFields h
    refine ⟨hlineUser, hlineHost, fun hmem => ?_⟩
    obtain ⟨first, last, rfl, hlast⟩ := exists_last_colon hmem
    have hsplit : importText user (first ++ ':' :: last) host port =
        importText (user ++ ':' :: first) last host port := by
      simp [importText]
    have hfirst : re.OneLine (user ++ ':' :: first) := by
      intro c hc
      rcases List.mem_append.mp hc with hc | hc
      · exact hlineUser c hc
      · rcases List.mem_cons.mp hc with rfl | hc
        · rw [dot, re.colon]
          rfl
        · exact hpassword c (List.mem_append_left _ hc)
    rw [hsplit, importFields_eq hfirst (fun c hc => hpassword c
      (List.mem_append_right _ (List.mem_cons_of_mem _ hc))) hlineHost hport.oneLine
      (hbefore hlast) hcolon hat] at h
    -- the user name would have the first part of the password
    have hname : user ++ ':' :: first = user :=
      congrArg ProxyFields.username (Option.some.inj h)
    have hnil : ':' :: first = [] := List.append_right_eq_self.mp hname
    cases hnil
  · rintro ⟨hlineUser, hlineHost, hmem⟩
    exact importFields_eq hlineUser hpassword hlineHost hport.oneLine (hbefore hmem) hcolon hat

/-- An engine for which a line feed and a carriage return are line breaks. -/
def newlines : RegexEngine where
  isLineBreak c := c.toNat == 10 || c.toNat == 13
  colon := rfl
  digit c hc := by
    have hlow := hc.1
    rw [Bool.or_eq_false_iff, beq_eq_false_iff_ne, beq_eq_false_iff_ne]
    omega

/-- The text `alice:p@ss@10.0.0.1:1080`, with an at sign in the password. -/
theorem importFields_iff_plain :
    newlines.importFields "alice:p@ss@10.0.0.1:1080".toList =
      some {
        username := "alice".toList
        password := "p@ss".toList
        ip := "10.0.0.1".toList
        port := "1080".toList } := by
  have hpassword : newlines.OneLine "p@ss".toList := by simp [OneLine, dot, newlines]
  have hhost : ':' ∉ "10.0.0.1".toList ∧ '@' ∉ "10.0.0.1".toList := by simp
  have hport : IsPort "1080".toList := by simp [IsPort, Decimal.IsDigit]
  have huser : newlines.OneLine "alice".toList := by simp [OneLine, dot, newlines]
  have hline : newlines.OneLine "10.0.0.1".toList := by simp [OneLine, dot, newlines]
  exact (importFields_iff hpassword hhost hport).mpr ⟨huser, hline, by simp⟩

/-- The password `a:b` of the user `u` is imported as `b`, of the user `u:a`. -/
theorem colon_in_password_moved : ¬ ∀ (re : RegexEngine) (user password host port : List Char),
    ':' ∉ user ∧ '@' ∉ user → re.OneLine password → ':' ∉ host ∧ '@' ∉ host → IsPort port →
      re.importFields (importText user password host port) =
        some { username := user, password, ip := host, port } := by
  intro hclaim
  have himport := hclaim newlines ['u'] ['a', ':', 'b'] ['h'] ['1'] (by simp)
    (by simp [OneLine, dot, newlines]) (by simp) (by simp [IsPort, Decimal.IsDigit])
  revert himport
  decide

end RegexEngine

end CutieProxy
