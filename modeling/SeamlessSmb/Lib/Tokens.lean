/-
# `Tokens` — the words of a text between separators

A text is cut at its separators, and the empty pieces are dropped (`tokens`).  What is left are
the words: the longest pieces without a separator in them (`IsToken`, `mem_tokens_iff`).  Words
written each with a separator behind are read back (`tokens_flatMap`).
-/
import Mathlib.Data.List.Basic
import Mathlib.Logic.Basic

namespace Tokens

variable {α : Type} {p : α → Bool} {s w : List α} {sep : α}

/-- The pieces between separators that are not empty. -/
def tokens (p : α → Bool) (s : List α) : List (List α) := (s.splitOnP p).filter fun w => w ≠ []

/-- No separator is in it. -/
def Clean (p : α → Bool) (w : List α) : Prop := ∀ c ∈ w, p c = false

/-- A piece without a separator, with one or nothing on either side. -/
def IsToken (p : α → Bool) (s w : List α) : Prop :=
  w ≠ [] ∧ Clean p w ∧ ∃ before after, s = before ++ (w ++ after) ∧
    (before = [] ∨ ∃ front sep, before = front ++ [sep] ∧ p sep = true) ∧
    (after = [] ∨ ∃ sep rest, after = sep :: rest ∧ p sep = true)

theorem tokens_of_clean (h : Clean p w) : tokens p w = if w = [] then [] else [w] := by
  rw [tokens, List.splitOnP_eq_singleton h]
  by_cases hw : w = []
  · simp [hw]
  · simp [hw]

/-- A separator parts the words before it from those behind. -/
theorem tokens_append_cons {s' : List α} (hsep : p sep = true) :
    tokens p (s ++ sep :: s') = tokens p s ++ tokens p s' := by
  rw [tokens, List.splitOnP_append_cons s s' hsep, List.filter_append]
  rfl

/-- Words written each with a separator behind. -/
theorem tokens_flatMap {ws : List (List α)} (hsep : p sep = true) (hne : ∀ w ∈ ws, w ≠ [])
    (hclean : ∀ w ∈ ws, Clean p w) : tokens p (ws.flatMap fun w => w ++ [sep]) = ws := by
  induction ws with
  | nil => rw [List.flatMap_nil, tokens_of_clean nofun, if_pos rfl]
  | cons w ws ih =>
      have htail := ih (fun w hw => hne w (List.mem_cons_of_mem _ hw))
        fun w hw => hclean w (List.mem_cons_of_mem _ hw)
      rw [List.flatMap_cons, List.append_assoc, List.singleton_append, tokens_append_cons hsep, htail,
        tokens_of_clean (hclean w List.mem_cons_self), if_neg (hne w List.mem_cons_self)]
      rfl

/-- A text has no separator, or it has a first. -/
theorem clean_or_cut (s : List α) :
    Clean p s ∨ ∃ front sep rest, s = front ++ sep :: rest ∧ Clean p front ∧ p sep = true := by
  induction s with
  | nil => exact Or.inl nofun
  | cons c s ih =>
      cases hc : p c with
      | true => exact Or.inr ⟨[], c, s, rfl, nofun, hc⟩
      | false =>
          refine ih.imp (fun hclean => ?_) fun ⟨front, sep, rest, hs, hclean, hsep⟩ => ?_
          · exact List.forall_mem_cons.mpr ⟨hc, hclean⟩
          · exact ⟨c :: front, sep, rest, by rw [hs]; rfl, List.forall_mem_cons.mpr ⟨hc, hclean⟩, hsep⟩

/-- The cut pieces are the words. -/
theorem isToken_of_mem (h : w ∈ tokens p s) : IsToken p s w := by
  induction hn : s.length using Nat.strongRecOn generalizing s with
  | ind n ih =>
      rcases clean_or_cut (p := p) s with hclean | ⟨front, sep, rest, rfl, hclean, hsep⟩
      · rw [tokens_of_clean hclean] at h
        split at h
        · cases h
        · next hne =>
            rw [List.mem_singleton.mp h]
            exact ⟨hne, hclean, [], [], by simp, Or.inl rfl, Or.inl rfl⟩
      · rw [tokens_append_cons hsep] at h
        rcases List.mem_append.mp h with h | h
        · rw [tokens_of_clean hclean] at h
          split at h
          · cases h
          · next hne =>
              rw [List.mem_singleton.mp h]
              exact ⟨hne, hclean, [], sep :: rest, rfl, Or.inl rfl, Or.inr ⟨sep, rest, rfl, hsep⟩⟩
        · have hlength : rest.length < n := by
            rw [← hn, List.length_append, List.length_cons]
            omega
          obtain ⟨hne, hw, before, after, rfl, hbefore, hafter⟩ := ih rest.length hlength h rfl
          refine ⟨hne, hw, front ++ sep :: before, after, by simp, Or.inr ?_, hafter⟩
          rcases hbefore with rfl | ⟨front', sep', rfl, hsep'⟩
          · exact ⟨front, sep, rfl, hsep⟩
          · exact ⟨front ++ sep :: front', sep', by simp, hsep'⟩

/-- **The words of a text**, by where they stand in it. -/
theorem mem_tokens_iff : w ∈ tokens p s ↔ IsToken p s w := by
  refine ⟨isToken_of_mem, ?_⟩
  rintro ⟨hne, hclean, before, after, rfl, hbefore, hafter⟩
  have hword : w ∈ tokens p (w ++ after) := by
    have hself : w ∈ tokens p w := by
      rw [tokens_of_clean hclean, if_neg hne]
      exact List.mem_cons_self
    rcases hafter with rfl | ⟨sep, rest, rfl, hsep⟩
    · rwa [List.append_nil]
    · rw [tokens_append_cons hsep]
      exact List.mem_append_left _ hself
  rcases hbefore with rfl | ⟨front, sep, rfl, hsep⟩
  · exact hword
  · rw [List.append_assoc, List.singleton_append, tokens_append_cons hsep]
    exact List.mem_append_right _ hword

end Tokens
