/-
# `Holders` — a table kept under borrowed keys

Some parties hold a key each, for a while; a key that was given back may be lent again.  Beside them
there is a table of what is kept under the keys.  The table is covered (`Covered`) if each of its keys
is held, and no key by two.

The operations are those on the parties: one takes a key (`Covered.take`), one gives its key back
(`Covered.drop`), or nobody moves (`Covered.keep`); of the table it has to be seen to that nothing is
left under a key that is given back, and nothing put under one that is not held.

The other way round, an object may be shared by all that hold a reference to it and put to rest when
the last one lets go (`release`).  Then what is not at rest is held (`Alive.release`).
-/
import Mathlib.Logic.Function.Basic

namespace Holders

variable {ι κ ν : Type} {holds : ι → Option κ} {table table' : κ → Option ν} {i : ι} {k : κ}

/-- Each key of the table is held, and no key is held twice. -/
structure Covered (holds : ι → Option κ) (table : κ → Option ν) : Prop where
  held : ∀ k, (table k).isSome → ∃ i, holds i = some k
  alone : ∀ i j k, holds i = some k → holds j = some k → i = j

/-- Nothing is kept under a key that nobody holds. -/
theorem Covered.absent (h : Covered holds table) (hk : ∀ i, holds i ≠ some k) : table k = none := by
  by_contra hne
  obtain ⟨i, hi⟩ := h.held k (Option.isSome_iff_ne_none.mpr hne)
  exact hk i hi

theorem covered_empty (holds : ι → Option κ) (h : ∀ i j k, holds i = some k → holds j = some k → i = j) :
    Covered holds fun _ => (none : Option ν) where
  held _ hk := absurd hk Bool.false_ne_true
  alone := h

/-- Nobody moves. -/
theorem Covered.keep (h : Covered holds table)
    (htable : ∀ k, (table' k).isSome → (table k).isSome ∨ ∃ i, holds i = some k) : Covered holds table' where
  held k hk := by
    obtain hk | hheld := htable k hk
    · exact h.held k hk
    · exact hheld
  alone := h.alone

variable [DecidableEq ι]

/-- One that holds nothing takes a key that nobody holds. -/
theorem Covered.take (h : Covered holds table) (hi : holds i = none) (hk : ∀ j, holds j ≠ some k)
    (htable : ∀ k', k' ≠ k → (table' k').isSome → (table k').isSome) :
    Covered (Function.update holds i (some k)) table' where
  held k' hk' := by
    by_cases hkk : k' = k
    · exact ⟨i, by rw [hkk, Function.update_self]⟩
    · obtain ⟨j, hj⟩ := h.held k' (htable k' hkk hk')
      have hji : j ≠ i := by
        rintro rfl
        rw [hi] at hj
        cases hj
      exact ⟨j, by rw [Function.update_of_ne hji, hj]⟩
  alone j j' k' hj hj' := by
    -- the key taken is held by `i` only
    have htaken : ∀ {j}, Function.update holds i (some k) j = some k → j = i := by
      intro j hj
      by_contra hji
      rw [Function.update_of_ne hji] at hj
      exact hk j hj
    by_cases hkk : k' = k
    · subst hkk
      exact (htaken hj).trans (htaken hj').symm
    · have hne : ∀ {j}, Function.update holds i (some k) j = some k' → j ≠ i := by
        rintro j hj rfl
        rw [Function.update_self] at hj
        exact hkk (Option.some_inj.mp hj).symm
      rw [Function.update_of_ne (hne hj)] at hj
      rw [Function.update_of_ne (hne hj')] at hj'
      exact h.alone j j' k' hj hj'

/-- One gives back what it holds, if anything, and nothing is left under it. -/
theorem Covered.drop (h : Covered holds table)
    (htable : ∀ k, (table' k).isSome → (table k).isSome ∧ holds i ≠ some k) :
    Covered (Function.update holds i none) table' where
  held k hk := by
    obtain ⟨hk, hi⟩ := htable k hk
    obtain ⟨j, hj⟩ := h.held k hk
    have hji : j ≠ i := by
      rintro rfl
      exact hi hj
    exact ⟨j, by rw [Function.update_of_ne hji, hj]⟩
  alone j j' k hj hj' := by
    have hne : ∀ {j}, Function.update holds i none j = some k → j ≠ i := by
      rintro j hj rfl
      rw [Function.update_self] at hj
      cases hj
    rw [Function.update_of_ne (hne hj)] at hj
    rw [Function.update_of_ne (hne hj')] at hj'
    exact h.alone j j' k hj hj'

/-! ## Shared objects -/

section

variable {σ : Type} [DecidableEq κ] {held held' : κ → Prop} {rest : σ} {dropped : List κ}
  {state : κ → σ}

/-- References to the objects `dropped` are let go of, and `held` is what is referred to then. -/
def release (held : κ → Prop) [DecidablePred held] (rest : σ) (dropped : List κ) (state : κ → σ) : κ → σ :=
  fun k => if k ∈ dropped ∧ ¬ held k then rest else state k

/-- What is not at rest is held. -/
def Alive (held : κ → Prop) (rest : σ) (state : κ → σ) : Prop := ∀ k, state k ≠ rest → held k

omit [DecidableEq κ] in
theorem Alive.mono (h : Alive held rest state) (hheld : ∀ k, held k → held' k) : Alive held' rest state :=
  fun k hk => hheld k (h k hk)

/-- One that is held may come to any state. -/
theorem Alive.update (h : Alive held rest state) (hk : held k) {v : σ} :
    Alive held rest (Function.update state k v) := by
  intro j hj
  by_cases hjk : j = k
  · rw [hjk]
    exact hk
  · rw [Function.update_of_ne hjk] at hj
    exact h j hj

theorem release_ne_iff [DecidablePred held] :
    release held rest dropped state k ≠ rest ↔ state k ≠ rest ∧ (k ∈ dropped → held k) := by
  unfold release
  split
  · next h => exact iff_of_false (fun hne => hne rfl) fun hk => h.2 (hk.2 h.1)
  · next h => exact ⟨fun hk => ⟨hk, fun hd => by_contra fun hn => h ⟨hd, hn⟩⟩, And.left⟩

/-- Everybody who lets go says of what. -/
theorem Alive.release [DecidablePred held'] (h : Alive held rest state)
    (hheld : ∀ k, held k → held' k ∨ k ∈ dropped) : Alive held' rest (release held' rest dropped state) := by
  intro k hk
  obtain ⟨hstate, hdropped⟩ := release_ne_iff.mp hk
  rcases hheld k (h k hstate) with hk | hk
  · exact hk
  · exact hdropped hk

end

end Holders
