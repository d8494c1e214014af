/-
# `Rows` — a view that follows a list

A list is shown row by row by a view that keeps what it was told.  After a change the view gets a
notice, and asks for the rows it does not know.

| notice | it promises | the view |
| :-- | :-- | :-- |
| `inserted first last` | `first ≤ last`, and `first` is no row behind the end | asks for these rows, and puts them there |
| `removed first last` | `0 ≤ first ≤ last`, both are rows | drops these rows |
| `reset` | nothing | asks for everything |

What is asked answers right for the rows there are (`Answers`), and anything else for other numbers:
a view that follows proper notices does not ask for them.
-/
import Mathlib.Data.Int.Notation
import Mathlib.Data.List.Basic

namespace Rows

variable {α β : Type}

inductive Notice
  | inserted (first last : ℕ)
  | removed (first last : ℤ)
  | reset

/-- What a notice promises of the list before, which has `size` rows. -/
def Notice.Proper (size : ℕ) : Notice → Prop
  | .inserted first last => first ≤ last ∧ first ≤ size
  | .removed first last => 0 ≤ first ∧ first ≤ last ∧ last < size
  | .reset => True

/-- What the view makes of a notice; the list has `size` rows after the change. -/
def Notice.follow (size : ℕ) (ask : ℕ → β) (view : List β) : Notice → List β
  | .inserted first last =>
      view.take first ++ (List.range (last + 1 - first)).map (fun k => ask (first + k)) ++ view.drop first
  | .removed first last => view.take first.toNat ++ view.drop (last.toNat + 1)
  | .reset => (List.range size).map ask

/-- Who is asked for a row of the list says what is shown of it. -/
def Answers (f : α → β) (l : List α) (ask : ℕ → β) : Prop := ∀ i a, l[i]? = some a → ask i = f a

variable {f : α → β} {l : List α} {ask : ℕ → β} {view : List β} {a : α} {i first size : ℕ}

/-- A reset shows everything. -/
theorem follow_reset (h : Answers f l ask) : Notice.reset.follow l.length ask view = l.map f := by
  refine List.ext_getElem? ?_
  intro i
  show ((List.range l.length).map ask)[i]? = (l.map f)[i]?
  rw [List.getElem?_map, List.getElem?_map]
  by_cases hi : i < l.length
  · have hrow := List.getElem?_eq_getElem hi
    rw [List.getElem?_range hi, hrow, Option.map_some, Option.map_some, h i _ hrow]
  · rw [List.getElem?_eq_none (Nat.le_of_not_lt hi), List.getElem?_eq_none]
    · rfl
    · rw [List.length_range]
      exact Nat.le_of_not_lt hi

/-- A row that is new at the end is asked for. -/
theorem follow_inserted (h : Answers f (l ++ [a]) ask) :
    (Notice.inserted l.length l.length).follow size ask (l.map f) = (l ++ [a]).map f := by
  have hlast : ask l.length = f a := h _ _ (by simp)
  have hlength : (l.map f).length = l.length := List.length_map f
  show (l.map f).take l.length ++ (List.range (l.length + 1 - l.length)).map (fun k => ask (l.length + k)) ++
    (l.map f).drop l.length = _
  rw [← hlength, List.take_length, List.drop_length, hlength, List.append_nil, Nat.add_sub_cancel_left]
  simp [hlast]

/-- A row that is removed is dropped. -/
theorem follow_removed : (Notice.removed i i).follow size ask (l.map f) = (l.eraseIdx i).map f := by
  show (l.map f).take i ++ (l.map f).drop (i + 1) = (l.eraseIdx i).map f
  rw [List.eraseIdx_eq_take_drop_succ, List.map_append, List.map_take, List.map_drop]

/-- **The rows named** have to be the row removed, and nothing else. -/
theorem follow_removed_iff {last : ℤ} (h : first < l.length) :
    ((Notice.removed first last).Proper l.length ∧
        (Notice.removed first last).follow size ask (l.map f) = (l.eraseIdx first).map f) ↔ last = first := by
  constructor
  · rintro ⟨⟨-, hle, hlast⟩, hfollow⟩
    have hlength := congrArg List.length hfollow
    simp only [Notice.follow, List.length_append, List.length_take, List.length_drop, List.length_map,
      List.length_eraseIdx, if_pos h, Int.toNat_natCast] at hlength
    omega
  · rintro rfl
    exact ⟨⟨Int.natCast_nonneg _, Int.le_refl _, Int.ofNat_lt.mpr h⟩, follow_removed⟩

end Rows
