/-
# `Block` — cells in a row, with bounds

A block of memory is a list of cells.  A read is of so many cells from an offset on, a write
replaces as many as it is given, and either comes to nothing (`none`) if one of the cells
lies outside.

| | |
| :-- | :-- |
| `Within i n size` | the `n` cells from `i` on lie in a block of `size` cells |
| `Apart i n j k` | the `n` cells from `i` on and the `k` from `j` on have none in common |
| `read`, `write` | with bounds |
| `upTo z m` | what stands before the first `z` of the block, as a string does before its NUL |

What was written is read back, and what lies apart from it is as it was.
-/
import Mathlib.Data.List.Basic
import Mathlib.Data.List.TakeDrop

namespace Block

variable {α : Type} {m m' : List α} {xs : List α} {i j n k : ℕ}

/-- The `n` cells from `i` on lie in a block of this size. -/
def Within (i n size : ℕ) : Prop := i + n ≤ size

instance (i n size : ℕ) : Decidable (Within i n size) := inferInstanceAs (Decidable (_ ≤ _))

/-- No cell is among both. -/
def Apart (i n j k : ℕ) : Prop := i + n ≤ j ∨ j + k ≤ i

instance (i n j k : ℕ) : Decidable (Apart i n j k) := inferInstanceAs (Decidable (_ ∨ _))

theorem Apart.symm (h : Apart i n j k) : Apart j k i n := Or.symm h

/-- The `n` cells from `i` on. -/
def read (m : List α) (i n : ℕ) : Option (List α) :=
  if Within i n m.length then some ((m.drop i).take n) else none

/-- `xs` takes the place of the cells from `i` on. -/
def write (m : List α) (i : ℕ) (xs : List α) : Option (List α) :=
  if Within i xs.length m.length then some (m.take i ++ (xs ++ m.drop (i + xs.length))) else none

theorem read_eq_some : read m i n = some xs ↔ Within i n m.length ∧ xs = (m.drop i).take n := by
  unfold read
  rw [Option.ite_none_right_eq_some, Option.some_inj, eq_comm (a := xs)]

theorem write_eq_some : write m i xs = some m' ↔
    Within i xs.length m.length ∧ m' = m.take i ++ (xs ++ m.drop (i + xs.length)) := by
  unfold write
  rw [Option.ite_none_right_eq_some, Option.some_inj, eq_comm (a := m')]

theorem length_of_read (h : read m i n = some xs) : xs.length = n := by
  obtain ⟨hin, rfl⟩ := read_eq_some.mp h
  simp only [Within] at hin
  simp
  omega

theorem length_of_write (h : write m i xs = some m') : m'.length = m.length := by
  obtain ⟨hin, rfl⟩ := write_eq_some.mp h
  simp only [Within] at hin
  simp
  omega

/-- A read sees nothing behind. -/
theorem read_take (h : i + n ≤ k) : read (m.take k) i n = read m i n := by
  have hin : Within i n (m.take k).length ↔ Within i n m.length := by
    unfold Within
    rw [List.length_take, Nat.le_min]
    exact and_iff_right h
  unfold read
  rw [if_congr hin rfl rfl, List.drop_take, List.take_take, Nat.min_eq_left (Nat.le_sub_of_add_le' h)]

/-- Some of what is read. -/
theorem read_of_read (h : read m i n = some xs) (hin : Within j k n) :
    read m (i + j) k = some ((xs.drop j).take k) := by
  obtain ⟨hwithin, rfl⟩ := read_eq_some.mp h
  unfold Within at *
  refine read_eq_some.mpr ⟨?_, ?_⟩
  · unfold Within
    omega
  · rw [List.drop_take, List.drop_drop, List.take_take, Nat.min_eq_left (by omega)]

/-- What fits is written. -/
theorem exists_write (h : Within i xs.length m.length) : ∃ m', write m i xs = some m' :=
  ⟨_, write_eq_some.mpr ⟨h, rfl⟩⟩

/-- **What was written** is read. -/
theorem read_of_write (h : write m i xs = some m') : read m' i xs.length = some xs := by
  have hlen := length_of_write h
  obtain ⟨hin, rfl⟩ := write_eq_some.mp h
  refine read_eq_some.mpr ⟨?_, ?_⟩
  · rw [hlen]
    exact hin
  · have hi : (m.take i).length = i := by
      simp only [Within] at hin
      simp
      omega
    rw [List.drop_left' hi, List.take_left' rfl]

/-- One write goes on where another has ended. -/
theorem write_append {ys : List α} {m'' : List α} (h : write m i xs = some m')
    (h' : write m' (i + xs.length) ys = some m'') : write m i (xs ++ ys) = some m'' := by
  have hlen := length_of_write h
  obtain ⟨hin, hm'⟩ := write_eq_some.mp h
  obtain ⟨hin', rfl⟩ := write_eq_some.mp h'
  simp only [Within] at hin hin'
  refine write_eq_some.mpr ⟨?_, ?_⟩
  · simp only [Within, List.length_append]
    omega
  · have hfront : (m.take i ++ xs).length = i + xs.length := by
      simp
      omega
    have hm'' : m' = (m.take i ++ xs) ++ m.drop (i + xs.length) := by rw [hm', List.append_assoc]
    have hback : m'.drop (i + xs.length + ys.length) = m.drop (i + xs.length + ys.length) := by
      rw [hm'', ← List.drop_drop, List.drop_left' hfront, List.drop_drop]
    rw [hback, hm'', List.take_left' hfront, List.length_append, Nat.add_assoc]
    simp

theorem getElem?_of_write (h : write m i xs = some m') (hj : j < i ∨ i + xs.length ≤ j) :
    m'[j]? = m[j]? := by
  obtain ⟨hin, rfl⟩ := write_eq_some.mp h
  simp only [Within] at hin
  have hi : (m.take i).length = i := by
    simp
    omega
  obtain hj | hj := hj
  · rw [List.getElem?_append_left (by omega), List.getElem?_take_of_lt hj]
  · rw [List.getElem?_append_right (by omega), hi, List.getElem?_append_right (by omega),
      List.getElem?_drop]
    congr 1
    omega

/-- **What lies apart** from what was written is as it was. -/
theorem read_of_write_apart (h : write m i xs = some m') (hapart : Apart i xs.length j k) :
    read m' j k = read m j k := by
  have hlen := length_of_write h
  unfold read
  rw [hlen]
  split
  · congr 1
    apply List.ext_getElem?
    intro a
    by_cases ha : a < k
    · rw [List.getElem?_take_of_lt ha, List.getElem?_take_of_lt ha, List.getElem?_drop, List.getElem?_drop]
      refine getElem?_of_write h ?_
      obtain hapart | hapart := hapart
      · right
        omega
      · left
        omega
    · rw [List.getElem?_eq_none (by simp; omega), List.getElem?_eq_none (by simp; omega)]
  · rfl

/-! ## Strings -/

variable [DecidableEq α] {z : α} {s : List α}

/-- What stands before the first `z`, if there is one. -/
def upTo (z : α) : List α → Option (List α)
  | [] => none
  | a :: m => if a = z then some [] else (upTo z m).map fun s => a :: s

theorem upTo_eq_some : upTo z m = some s ↔ z ∉ s ∧ ∃ behind, m = s ++ z :: behind := by
  induction m generalizing s with
  | nil => simp [upTo]
  | cons a m ih =>
      by_cases ha : a = z
      · subst ha
        cases s with
        | nil => simp [upTo]
        | cons b s =>
            simp only [upTo, if_true, List.cons_append, List.cons.injEq, List.mem_cons, not_or]
            refine iff_of_false (by simp) ?_
            rintro ⟨⟨hne, -⟩, behind, rfl, -⟩
            exact hne rfl
      · cases s with
        | nil =>
            simp only [upTo, if_neg ha, Option.map_eq_some_iff, List.nil_append, List.cons.injEq]
            refine iff_of_false (by simp) ?_
            rintro ⟨-, behind, rfl, -⟩
            exact ha rfl
        | cons b s =>
            simp only [upTo, if_neg ha, Option.map_eq_some_iff, ih, List.cons_append, List.cons.injEq,
              List.mem_cons, not_or]
            constructor
            · rintro ⟨t, ⟨hz, behind, rfl⟩, rfl, rfl⟩
              exact ⟨⟨fun h => ha h.symm, hz⟩, behind, rfl, rfl⟩
            · rintro ⟨⟨-, hz⟩, behind, rfl, rfl⟩
              exact ⟨s, ⟨hz, behind, rfl⟩, rfl, rfl⟩

/-- A string is shorter than its block. -/
theorem length_of_upTo (h : upTo z m = some s) : s.length < m.length := by
  obtain ⟨-, behind, rfl⟩ := upTo_eq_some.mp h
  simp

/-- **More of a string.**  What is put from its stop on, up to and with a stop, continues it. -/
theorem upTo_of_write (h : upTo z m = some s) (hz : z ∉ xs)
    (hwrite : write m s.length (xs ++ [z]) = some m') : upTo z m' = some (s ++ xs) := by
  obtain ⟨hs, behind, rfl⟩ := upTo_eq_some.mp h
  obtain ⟨-, rfl⟩ := write_eq_some.mp hwrite
  have hboth : z ∉ s ++ xs := by simp [hs, hz]
  refine upTo_eq_some.mpr ⟨hboth, (s ++ z :: behind).drop (s.length + (xs ++ [z]).length), ?_⟩
  rw [List.take_left' rfl]
  simp

end Block
