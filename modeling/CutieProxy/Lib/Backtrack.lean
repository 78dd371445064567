import Mathlib.Data.List.Basic

/-!
# Greedy matching with backtracking

A matcher reads a text from its front, as far as it needs to, and returns what it captured. `char`
and `group` are a literal and a greedy `(.*)` in front of a matcher, and `search` tries a matcher at
every place of the text. A group captures as much as lets the rest match (`group_eq_some`).
-/

namespace Backtrack

universe u v

variable {α : Type u} {β : Type v} {dot : α → Bool} {next : List α → Option β}
  {text rest g : List α} {c : α} {b : β}

/-- The character `c`, and then the rest of the pattern. -/
def char [DecidableEq α] (c : α) (next : List α → Option β) : List α → Option β
  | [] => none
  | x :: text => if x = c then next text else none

/-- As many characters as possible, all of them `dot`, and then the rest of the pattern. -/
def group (dot : α → Bool) (next : List α → Option β) : List α → Option (List α × β)
  | [] => (next []).map ([], ·)
  | x :: text =>
    if dot x then
      match group dot next text with
      | some (g, b) => some (x :: g, b)
      | none => (next (x :: text)).map ([], ·)
    else (next (x :: text)).map ([], ·)

/-- The first place where the pattern matches. -/
def search (m : List α → Option β) : List α → Option β
  | [] => m []
  | x :: text =>
    match m (x :: text) with
    | some b => some b
    | none => search m text

theorem char_cons [DecidableEq α] : char c next (c :: text) = next text := if_pos rfl

/-- A character that does not occur is not matched. -/
theorem char_eq_none [DecidableEq α] (h : c ∉ text) : char c next text = none := by
  cases text with
  | nil => rfl
  | cons x text => exact if_neg (List.ne_of_not_mem_cons h).symm

/-- A group fails where the rest of the pattern matches no end of the text. -/
theorem group_eq_none (h : ∀ g' rest', text = g' ++ rest' → next rest' = none) :
    group dot next text = none := by
  induction text with
  | nil =>
    rw [group, h [] [] rfl]
    rfl
  | cons x text ih =>
    have htail := ih fun g' rest' heq => h (x :: g') rest' (by rw [heq, List.cons_append])
    rw [group, htail, h [] _ rfl]
    exact ite_self none

/-- A group captures the longest part that lets the rest match. -/
theorem group_eq_some (hg : ∀ x ∈ g, dot x = true) (hnext : next rest = some b)
    (hlongest : ∀ x g' rest', rest = x :: g' ++ rest' → next rest' = none) :
    group dot next (g ++ rest) = some (g, b) := by
  induction g with
  | nil =>
    cases rest with
    | nil =>
      rw [List.nil_append, group, hnext]
      rfl
    | cons x rest =>
      have htail : group dot next rest = none :=
        group_eq_none fun g' rest' heq => hlongest x g' rest' (by rw [heq, List.cons_append])
      rw [List.nil_append, group, htail, hnext]
      exact ite_self _
  | cons x g ih =>
    rw [List.cons_append, group, if_pos (hg x List.mem_cons_self),
      ih fun y hy => hg y (List.mem_cons_of_mem _ hy)]

/-- A group in front of a separator ends at the last one. -/
theorem group_char_eq_some [DecidableEq α] (hg : ∀ x ∈ g, dot x = true) (hnext : next rest = some b)
    (hc : c ∉ rest) : group dot (char c next) (g ++ c :: rest) = some (g, b) := by
  refine group_eq_some hg (char_cons.trans hnext) fun x g' rest' heq => ?_
  have htail : rest = g' ++ rest' := (List.cons.inj heq).2
  refine char_eq_none fun hmem => hc ?_
  rw [htail]
  exact List.mem_append_right g' hmem

/-- What a group captures are characters it takes, and the rest of the pattern matches behind
them. -/
theorem of_group (h : group dot next text = some (g, b)) :
    (∀ x ∈ g, dot x = true) ∧ ∃ rest, text = g ++ rest ∧ next rest = some b := by
  induction text generalizing g with
  | nil =>
    obtain ⟨b', hb, heq⟩ := Option.map_eq_some_iff.mp h
    cases heq
    exact ⟨nofun, [], rfl, hb⟩
  | cons x text ih =>
    have hempty (h : (next (x :: text)).map ([], ·) = some (g, b)) :
        (∀ x ∈ g, dot x = true) ∧ ∃ rest, x :: text = g ++ rest ∧ next rest = some b := by
      obtain ⟨b', hb, heq⟩ := Option.map_eq_some_iff.mp h
      cases heq
      exact ⟨nofun, _, rfl, hb⟩
    rw [group] at h
    split at h
    · next hdot =>
      split at h
      · next g' b' hgroup =>
        cases h
        obtain ⟨hall, rest, htext, hnext⟩ := ih hgroup
        refine ⟨fun y hy => ?_, rest, by rw [htext, List.cons_append], hnext⟩
        rcases List.mem_cons.mp hy with rfl | hy
        · exact hdot
        · exact hall y hy
      · exact hempty h
    · exact hempty h

/-- What a character is matched by. -/
theorem of_char [DecidableEq α] (h : char c next text = some b) :
    ∃ rest, text = c :: rest ∧ next rest = some b := by
  cases text with
  | nil => cases h
  | cons x text =>
    rw [char] at h
    split at h
    · next hx => exact ⟨text, by rw [hx], h⟩
    · cases h

/-- A search that finds something has a match at an end of the text. -/
theorem of_search {m : List α → Option β} (h : search m text = some b) :
    ∃ rest, rest <:+ text ∧ m rest = some b := by
  induction text with
  | nil => exact ⟨[], List.suffix_rfl, h⟩
  | cons x text ih =>
    rw [search] at h
    split at h
    · next hm =>
      cases h
      exact ⟨_, List.suffix_rfl, hm⟩
    · obtain ⟨rest, hrest, hm⟩ := ih h
      exact ⟨rest, hrest.trans (List.suffix_cons x text), hm⟩

/-- A match at the front is found. -/
theorem search_of_match {m : List α → Option β} (h : m text = some b) :
    search m text = some b := by
  cases text with
  | nil => exact h
  | cons x text => rw [search, h]

end Backtrack
