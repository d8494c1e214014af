/-
# `Flags` — words as sets of flags

A word is read as the set of its bits.  A mask stands for several of them, and `Has f m` says
that `f` has all of `m`.  Taking flags away and adding others leaves a word as it is just if
the ones were not there and the others were (`clear_set_eq_self`).  The bits of a word put
together from masks are those of the masks (`getLsbD_foldl_or`).
-/
import Mathlib.Logic.Basic
import Mathlib.Data.List.Basic

namespace Flags

variable {w : ℕ} {f g m n r s : BitVec w}

/-- All of `m` is in `f`. -/
def Has (f m : BitVec w) : Prop := f &&& m = m

instance : Decidable (Has f m) := inferInstanceAs (Decidable (_ = _))

/-- Bit by bit. -/
theorem has_iff : Has f m ↔ ∀ i, m.getLsbD i = true → f.getLsbD i = true := by
  constructor
  · intro h i hi
    have hbit : (f &&& m).getLsbD i = m.getLsbD i := congrArg (BitVec.getLsbD · i) h
    rw [BitVec.getLsbD_and, hi, Bool.and_true] at hbit
    exact hbit
  · intro h
    refine BitVec.eq_of_getLsbD_eq fun i _ => ?_
    rw [BitVec.getLsbD_and]
    cases hi : m.getLsbD i with
    | false => exact Bool.and_false _
    | true => rw [h i hi, Bool.and_true]

theorem has_zero : Has f 0 := BitVec.and_zero

theorem has_or : Has f (m ||| n) ↔ Has f m ∧ Has f n := by
  simp only [has_iff, BitVec.getLsbD_or, Bool.or_eq_true]
  constructor
  · exact fun h => ⟨fun i hi => h i (Or.inl hi), fun i hi => h i (Or.inr hi)⟩
  · rintro ⟨hm, hn⟩ i (hi | hi)
    · exact hm i hi
    · exact hn i hi

/-- Flags that are asked for on a condition. -/
theorem has_ite {c : Prop} [Decidable c] : Has f (if c then m else 0) ↔ (c → Has f m) := by
  by_cases hc : c
  · rw [if_pos hc]
    exact ⟨fun h _ => h, fun h => h hc⟩
  · rw [if_neg hc]
    exact ⟨fun _ h => absurd h hc, fun _ => has_zero⟩

theorem or_ite {c : Prop} [Decidable c] : (if c then f ||| m else f) = f ||| if c then m else 0 := by
  by_cases hc : c
  · rw [if_pos hc, if_pos hc]
  · rw [if_neg hc, if_neg hc]
    exact BitVec.or_zero.symm

theorem or_eq_self : f ||| m = f ↔ Has f m := by
  rw [has_iff]
  constructor
  · intro h i hi
    have hbit : (f ||| m).getLsbD i = f.getLsbD i := congrArg (BitVec.getLsbD · i) h
    rw [BitVec.getLsbD_or, hi, Bool.or_true] at hbit
    exact hbit.symm
  · intro h
    refine BitVec.eq_of_getLsbD_eq fun i _ => ?_
    rw [BitVec.getLsbD_or]
    cases hi : m.getLsbD i with
    | false => exact Bool.or_false _
    | true => rw [h i hi, Bool.or_true]

theorem and_not_eq_self : f &&& ~~~r = f ↔ f &&& r = 0 := by
  constructor
  · intro h
    rw [← h, BitVec.and_assoc, BitVec.not_and_self]
    exact BitVec.and_zero
  · intro h
    refine BitVec.eq_of_getLsbD_eq fun i hi => ?_
    have hbit : (f &&& r).getLsbD i = false := by rw [h]; exact BitVec.getLsbD_zero
    rw [BitVec.getLsbD_and] at hbit ⊢
    rw [BitVec.getLsbD_not, decide_eq_true hi, Bool.true_and]
    revert hbit
    cases f.getLsbD i <;> cases r.getLsbD i <;> decide

/-- Some flags taken away and others added: nothing changes just if the first were not there and
the others were. -/
theorem clear_set_eq_self (hdisjoint : s &&& r = 0) :
    (f &&& ~~~r) ||| s = f ↔ f &&& r = 0 ∧ Has f s := by
  constructor
  · intro h
    have hr : f &&& r = 0 := by
      rw [← h, BitVec.and_or_distrib_right, BitVec.and_assoc, BitVec.not_and_self, hdisjoint]
      simp
    rw [and_not_eq_self.mpr hr] at h
    exact ⟨hr, or_eq_self.mp h⟩
  · rintro ⟨hr, hs⟩
    rw [and_not_eq_self.mpr hr]
    exact or_eq_self.mpr hs

/-- Flags added before or after others are taken away, if they are none of these. -/
theorem or_and_not (hdisjoint : m &&& r = 0) : (f ||| m) &&& ~~~r = (f &&& ~~~r) ||| m := by
  rw [BitVec.and_or_distrib_right, and_not_eq_self.mpr hdisjoint]

/-- Flags added to both sides may be dropped, if the sides agree on them. -/
theorem or_cancel (hagree : f &&& m = g &&& m) : f ||| m = g ||| m ↔ f = g := by
  constructor
  · intro h
    refine BitVec.eq_of_getLsbD_eq fun i _ => ?_
    have hor : (f ||| m).getLsbD i = (g ||| m).getLsbD i := congrArg (BitVec.getLsbD · i) h
    have hand : (f &&& m).getLsbD i = (g &&& m).getLsbD i := congrArg (BitVec.getLsbD · i) hagree
    rw [BitVec.getLsbD_or, BitVec.getLsbD_or] at hor
    rw [BitVec.getLsbD_and, BitVec.getLsbD_and] at hand
    cases hm : m.getLsbD i with
    | false => simpa only [hm, Bool.or_false] using hor
    | true => simpa only [hm, Bool.and_true] using hand
  · intro h
    rw [h]

/-! ## Words put together -/

theorem getLsbD_foldl_or {α : Type} {f : α → BitVec w} {l : List α} {start : BitVec w} {i : ℕ} :
    (l.foldl (fun word a => word ||| f a) start).getLsbD i = true ↔
      start.getLsbD i = true ∨ ∃ a ∈ l, (f a).getLsbD i = true := by
  induction l generalizing start with
  | nil => simp
  | cons a l ih =>
      rw [List.foldl_cons, ih, BitVec.getLsbD_or, Bool.or_eq_true]
      simp only [List.mem_cons, or_and_right, exists_or, exists_eq_left]
      exact or_assoc

/-- Words are the same if they have the same bits. -/
theorem eq_of_bits (h : ∀ i, f.getLsbD i = true ↔ g.getLsbD i = true) : f = g :=
  BitVec.eq_of_getLsbD_eq fun i _ => Bool.eq_iff_iff.mpr (h i)

/-- A word has something of a mask of one bit just if it has the bit. -/
theorem and_twoPow_ne_zero {k : ℕ} (hk : k < w) : f &&& BitVec.twoPow w k ≠ 0 ↔ f.getLsbD k = true := by
  rw [BitVec.and_twoPow]
  cases hf : f.getLsbD k with
  | false => simp
  | true =>
      refine iff_of_true (fun h => ?_) rfl
      have hbit : (BitVec.twoPow w k).getLsbD k = (0 : BitVec w).getLsbD k := by
        rw [← h]
        rfl
      rw [BitVec.getLsbD_twoPow] at hbit
      simp [hk] at hbit

end Flags
