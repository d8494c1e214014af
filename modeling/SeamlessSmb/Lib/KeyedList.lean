/-
# `KeyedList` — a list searched by a key its elements carry

A list of references, each reading a key out of a store that can change under
it: `key : π → κ`.  The list is searched front to back (`first`), extended at
the end (`add`, only if the key is new), thinned (`remove`), and the key of one
reference is rewritten in place (`rekey`).  This is the mutable cousin of
`List.lookup`: rewriting a key moves no element, so the list may come to hold
two elements of one key.

`Distinct` says it does not.  Under it the list is a partial map from keys, and
the last section says what removing and rewriting do to the map.

| operation | keeps `Distinct` |
| :-- | :-- |
| `add` | always |
| `remove` | always |
| `rekey p k` | exactly when `k` is the old key or unused (`distinct_rekey_iff`) |
| `erase k` | always |
| `replace k q` | if `q` has the key `k` |
-/
import Mathlib.Data.List.Nodup
import Mathlib.Logic.Function.Basic

namespace Keyed

variable {π κ : Type}

/-! ## Searching -/

section

variable [DecidableEq κ] {key key' : π → κ} {l : List π} {p : π} {k : κ}

/-- The first element with key `k`. -/
def first (key : π → κ) (l : List π) (k : κ) : Option π := l.find? fun p => key p = k

theorem first_mem (h : first key l k = some p) : p ∈ l := List.mem_of_find?_eq_some h

theorem first_key (h : first key l k = some p) : key p = k := by
  simpa using List.find?_some h

theorem first_eq_none : first key l k = none ↔ ∀ p ∈ l, key p ≠ k := by
  simp [first, List.find?_eq_none]

theorem first_append :
    first key (l ++ [p]) k = (first key l k).or (if key p = k then some p else none) := by
  unfold first
  rw [List.find?_append, List.find?_singleton]
  simp

/-- Searches for related keys agree exactly when every key in the list is related to
itself at most. -/
theorem first_respects_iff {R : κ → κ → Prop} (hsymm : ∀ {j k}, R j k → R k j) :
    (∀ j k, R j k → first key l j = first key l k) ↔ ∀ p ∈ l, ∀ k, R (key p) k → k = key p := by
  constructor
  · intro h p hp k hk
    cases hfirst : first key l (key p) with
    | none => exact absurd rfl (first_eq_none.mp hfirst p hp)
    | some q =>
        have hother : first key l k = some q := (h _ _ hk).symm.trans hfirst
        exact (first_key hother).symm.trans (first_key hfirst)
  · intro h j k hjk
    cases hj : first key l j with
    | some q =>
        have hkey := first_key hj
        rw [h q (first_mem hj) k (hkey ▸ hjk), hkey, hj]
    | none =>
        cases hk : first key l k with
        | none => rfl
        | some q =>
            have hkey := first_key hk
            have hjq : j = key q := h q (first_mem hk) j (hkey ▸ hsymm hjk)
            rw [hjq, hkey, hk] at hj
            cases hj

/-- A search sees the keys of the list only. -/
theorem first_congr (h : ∀ p ∈ l, key p = key' p) : first key l k = first key' l k := by
  induction l with
  | nil => rfl
  | cons p l ih =>
      have hp := h p List.mem_cons_self
      have hl := ih fun q hq => h q (List.mem_cons_of_mem p hq)
      unfold first at hl ⊢
      rw [List.find?_cons, List.find?_cons, hp, hl]

/-- A search for a key sees no more than the elements of some keys, if it is one of them. -/
theorem first_filter {T : κ → Bool} (hk : T k = true) :
    first key (l.filter fun p => T (key p)) k = first key l k := by
  unfold first
  rw [List.find?_filter]
  congr 1
  funext p
  by_cases hp : key p = k
  · simp [hp, hk]
  · simp [hp]

/-- Append `p`, unless its key is taken. -/
def add (key : π → κ) (l : List π) (p : π) : List π :=
  if (first key l (key p)).isSome then l else l ++ [p]

end

/-! ## Distinct keys -/

/-- No two elements have the same key. -/
def Distinct (key : π → κ) (l : List π) : Prop := (l.map key).Nodup

instance [DecidableEq κ] (key : π → κ) (l : List π) : Decidable (Distinct key l) :=
  inferInstanceAs (Decidable (List.Nodup _))

section

variable {key key' : π → κ} {l : List π} {p q : π} {k : κ}

theorem distinct_nil : Distinct key ([] : List π) := List.nodup_nil

theorem Distinct.nodup (h : Distinct key l) : l.Nodup := List.Nodup.of_map key h

theorem Distinct.inj (h : Distinct key l) (hp : p ∈ l) (hq : q ∈ l) (hk : key p = key q) :
    p = q :=
  List.inj_on_of_nodup_map h hp hq hk

/-- Distinctness depends on the keys of the list only. -/
theorem Distinct.congr (h : Distinct key l) (hk : ∀ p ∈ l, key p = key' p) :
    Distinct key' l := by
  unfold Distinct
  rw [← List.map_congr_left hk]
  exact h

/-- Under distinct keys the first element with a key is the only one. -/
theorem Distinct.first_eq_some [DecidableEq κ] (h : Distinct key l) :
    first key l k = some p ↔ p ∈ l ∧ key p = k := by
  constructor
  · exact fun hf => ⟨first_mem hf, first_key hf⟩
  · intro ⟨hp, hk⟩
    cases hf : first key l k with
    | none => exact absurd hk (first_eq_none.mp hf p hp)
    | some q =>
        have hq := first_key hf
        rw [h.inj (first_mem hf) hp (hq.trans hk.symm)]

theorem Distinct.add [DecidableEq κ] (h : Distinct key l) : Distinct key (add key l p) := by
  unfold Keyed.add
  split
  · exact h
  · next hn =>
      have hnew : ∀ q ∈ l, key q ≠ key p :=
        first_eq_none.mp (Option.not_isSome_iff_eq_none.mp hn)
      unfold Distinct
      rw [List.map_append, List.map_singleton, ← List.concat_eq_append]
      refine List.Nodup.concat (fun hm => ?_) h
      obtain ⟨q, hq, hk⟩ := List.mem_map.mp hm
      exact hnew q hq hk

end

/-! ## Removing and rewriting -/

section

variable [DecidableEq π] {key : π → κ} {l : List π} {p q : π} {k j : κ}

/-- Every copy of `p` goes. -/
def remove (l : List π) (p : π) : List π := l.filter fun q => q ≠ p

theorem mem_remove : q ∈ remove l p ↔ q ∈ l ∧ q ≠ p := by
  simp [remove]

theorem Distinct.remove (h : Distinct key l) : Distinct key (remove l p) :=
  List.Nodup.sublist (List.filter_sublist.map key) h

theorem first_remove_of_ne [DecidableEq κ] (hk : key p ≠ k) :
    first key (remove l p) k = first key l k := by
  unfold first Keyed.remove
  rw [List.find?_filter]
  congr 1
  funext q
  by_cases hq : q = p
  · simp [hq, hk]
  · simp [hq]

/-- Removing an element frees its key. -/
theorem Distinct.first_remove [DecidableEq κ] (h : Distinct key l) (hp : p ∈ l) :
    first key (Keyed.remove l p) (key p) = none := by
  refine first_eq_none.mpr fun q hq hk => ?_
  have ⟨hql, hqp⟩ := mem_remove.mp hq
  exact hqp (h.inj hql hp hk)

/-- The key of `p` becomes `k`. -/
def rekey (key : π → κ) (p : π) (k : κ) : π → κ := Function.update key p k

theorem rekey_self : rekey key p k p = k := Function.update_self ..

theorem rekey_of_ne (h : q ≠ p) : rekey key p k q = key q := Function.update_of_ne h ..

/-- A search for a key that is neither the old nor the new one does not see the
rewriting. -/
theorem first_rekey_of_ne [DecidableEq κ] (hold : key p ≠ j) (hnew : k ≠ j) :
    first (rekey key p k) l j = first key l j := by
  unfold first
  congr 1
  funext q
  by_cases hq : q = p
  · rw [hq, rekey_self]
    simp [hold, hnew]
  · rw [rekey_of_ne hq]

/-- The old key is free afterwards. -/
theorem Distinct.first_rekey_old [DecidableEq κ] (h : Distinct key l) (hp : p ∈ l)
    (hk : k ≠ key p) : first (rekey key p k) l (key p) = none := by
  refine first_eq_none.mpr fun q hq hqk => ?_
  by_cases hqp : q = p
  · rw [hqp, rekey_self] at hqk
    exact hk hqk
  · rw [rekey_of_ne hqp] at hqk
    exact hqp (h.inj hq hp hqk)

/-- Rewriting a key keeps the keys distinct exactly when the new key is the old
one or belongs to nobody. -/
theorem distinct_rekey_iff [DecidableEq κ] (h : Distinct key l) (hp : p ∈ l) :
    Distinct (rekey key p k) l ↔ k = key p ∨ first key l k = none := by
  constructor
  · intro hd
    by_cases hk : k = key p
    · exact Or.inl hk
    · refine Or.inr (first_eq_none.mpr fun q hq hqk => ?_)
      have hne : q ≠ p := by
        intro he
        exact hk (by rw [← hqk, he])
      refine hne (hd.inj hq hp ?_)
      rw [rekey_of_ne hne, rekey_self, hqk]
  · intro hk
    have hfree : ∀ s ∈ l, s ≠ p → key s ≠ k := by
      intro s hs hne
      rcases hk with hk | hk
      · exact fun he => hne (h.inj hs hp (he.trans hk))
      · exact first_eq_none.mp hk s hs
    refine List.Nodup.map_on (fun q hq r hr hqr => ?_) h.nodup
    by_cases hqp : q = p <;> by_cases hrp : r = p
    · exact hqp.trans hrp.symm
    · rw [hqp, rekey_self, rekey_of_ne hrp] at hqr
      exact absurd hqr.symm (hfree r hr hrp)
    · rw [hrp, rekey_self, rekey_of_ne hqp] at hqr
      exact absurd hqr (hfree q hq hqp)
    · rw [rekey_of_ne hqp, rekey_of_ne hrp] at hqr
      exact h.inj hq hr hqr

end

/-! ## Erasing and replacing by key

The list may also be one of plain values that carry their key.  Then the element with a
key is erased or replaced at its place. -/

section

variable [DecidableEq κ] {ι : Type} {key : π → κ} {other : π → ι} {l : List π} {p q : π} {j k : κ}

/-- The first element with key `k` goes. -/
def erase (key : π → κ) (k : κ) : List π → List π
  | [] => []
  | p :: l => if key p = k then l else p :: erase key k l

/-- The first element with key `k` becomes `q`. -/
def replace (key : π → κ) (k : κ) (q : π) : List π → List π
  | [] => []
  | p :: l => if key p = k then q :: l else p :: replace key k q l

theorem first_cons : first key (p :: l) k = if key p = k then some p else first key l k := by
  unfold first
  rw [List.find?_cons]
  split <;> simp_all

theorem erase_sublist : (erase key k l).Sublist l := by
  induction l with
  | nil => exact .slnil
  | cons p l ih =>
      simp only [erase]
      split
      · exact List.sublist_cons_self p l
      · exact ih.cons_cons p

/-- Everything stays but the one that is found. -/
theorem mem_erase_or_first (hp : p ∈ l) : p ∈ erase key k l ∨ first key l k = some p := by
  induction l with
  | nil => cases hp
  | cons r l ih =>
      rw [first_cons]
      simp only [erase]
      split
      · exact (List.mem_cons.mp hp).symm.imp_right fun h => congrArg some h.symm
      · rcases List.mem_cons.mp hp with rfl | hp
        · exact .inl List.mem_cons_self
        · exact (ih hp).imp_left (List.mem_cons_of_mem r)

theorem not_mem_erase_first (h : l.Nodup) (hp : first key l k = some p) : p ∉ erase key k l := by
  induction l with
  | nil => exact List.not_mem_nil
  | cons r l ih =>
      obtain ⟨hr, hl⟩ := List.nodup_cons.mp h
      rw [first_cons] at hp
      simp only [erase]
      split
      · next hk =>
          rw [if_pos hk] at hp
          cases hp
          exact hr
      · next hk =>
          rw [if_neg hk] at hp
          intro hm
          rcases List.mem_cons.mp hm with rfl | hm
          · exact hr (first_mem hp)
          · exact ih hl hp hm

theorem Distinct.erase {other : π → ι} (h : Distinct other l) : Distinct other (erase key k l) :=
  List.Nodup.sublist (erase_sublist.map other) h

theorem mem_replace (h : p ∈ replace key k q l) : p = q ∨ p ∈ l := by
  induction l with
  | nil => exact Or.inr h
  | cons r l ih =>
      simp only [replace] at h
      split at h
      · rcases List.mem_cons.mp h with hp | hp
        · exact Or.inl hp
        · exact Or.inr (List.mem_cons_of_mem r hp)
      · rcases List.mem_cons.mp h with hp | hp
        · exact Or.inr (hp ▸ List.mem_cons_self)
        · exact (ih hp).imp_right (List.mem_cons_of_mem r)

theorem mem_replace_or_first (hp : p ∈ l) : p ∈ replace key k q l ∨ first key l k = some p := by
  induction l with
  | nil => cases hp
  | cons r l ih =>
      rw [first_cons]
      simp only [replace]
      split
      · rcases List.mem_cons.mp hp with rfl | hp
        · exact .inr rfl
        · exact .inl (List.mem_cons_of_mem q hp)
      · rcases List.mem_cons.mp hp with rfl | hp
        · exact .inl List.mem_cons_self
        · exact (ih hp).imp_left (List.mem_cons_of_mem r)

theorem not_mem_replace_first (h : l.Nodup) (hp : first key l k = some p) (hq : p ≠ q) :
    p ∉ replace key k q l := by
  induction l with
  | nil => exact List.not_mem_nil
  | cons r l ih =>
      obtain ⟨hr, hl⟩ := List.nodup_cons.mp h
      rw [first_cons] at hp
      simp only [replace]
      intro hm
      split at hm
      · next hk =>
          rw [if_pos hk] at hp
          cases hp
          exact (List.mem_cons.mp hm).elim hq hr
      · next hk =>
          rw [if_neg hk] at hp
          rcases List.mem_cons.mp hm with rfl | hm
          · exact hr (first_mem hp)
          · exact ih hl hp hm

theorem map_key_replace (hq : key q = k) : (replace key k q l).map key = l.map key := by
  induction l with
  | nil => rfl
  | cons p l ih =>
      simp only [replace]
      split
      · next hp => simp [hq, hp]
      · simp [ih]

/-- The first of a key, and what takes its place, where the elements are seen through a map. -/
theorem first_map {σ : Type} {f : σ → π} {l : List σ} :
    first key (l.map f) k = (first (key ∘ f) l k).map f := by
  unfold first
  rw [List.find?_map]
  rfl

theorem map_replace {σ : Type} {f : σ → π} {l : List σ} {q : σ} :
    (replace (key ∘ f) k q l).map f = replace key k (f q) (l.map f) := by
  induction l with
  | nil => rfl
  | cons p l ih =>
      simp only [replace, List.map_cons, Function.comp_apply]
      split
      · rfl
      · rw [List.map_cons, ih]

/-- Replacing an element by one of its own key keeps the keys. -/
theorem Distinct.replace (h : Distinct key l) (hq : key q = k) : Distinct key (replace key k q l) := by
  unfold Distinct
  rw [map_key_replace hq]
  exact h

/-- Any other numbering stays distinct if the new element has a number of its own. -/
theorem Distinct.replace_fresh (h : Distinct other l) (hq : ∀ p ∈ l, other p ≠ other q) :
    Distinct other (Keyed.replace key k q l) := by
  induction l with
  | nil => exact h
  | cons p l ih =>
      have ⟨hp, hl⟩ := List.nodup_cons.mp (show (other p :: l.map other).Nodup from h)
      have hfresh : ∀ r ∈ l, other r ≠ other q := fun r hr => hq r (List.mem_cons_of_mem p hr)
      simp only [Keyed.replace]
      split
      · refine List.nodup_cons.mpr ⟨?_, hl⟩
        intro hm
        obtain ⟨r, hr, he⟩ := List.mem_map.mp hm
        exact hfresh r hr he
      · refine List.nodup_cons.mpr ⟨?_, ih hl hfresh⟩
        intro hm
        obtain ⟨r, hr, he⟩ := List.mem_map.mp hm
        rcases mem_replace hr with rfl | hr
        · exact hq p List.mem_cons_self he.symm
        · exact hp (List.mem_map.mpr ⟨r, hr, he⟩)

/-- Erasing a key makes it free; the other keys find what they found. -/
theorem Distinct.first_erase (h : Distinct key l) :
    first key (Keyed.erase key k l) = Function.update (first key l) k none := by
  funext j
  induction l with
  | nil =>
      by_cases hj : j = k
      · simp [hj, Keyed.erase, first]
      · simp [hj, Keyed.erase, first]
  | cons p l ih =>
      have ⟨hp, hl⟩ := List.nodup_cons.mp (show (key p :: l.map key).Nodup from h)
      simp only [Keyed.erase]
      split
      · next hk =>
          by_cases hj : j = k
          · rw [hj, Function.update_self]
            refine first_eq_none.mpr ?_
            intro r hr he
            exact hp (List.mem_map.mpr ⟨r, hr, he.trans hk.symm⟩)
          · rw [Function.update_of_ne hj, first_cons, if_neg fun he => hj (he.symm.trans hk)]
      · next hk =>
          rw [first_cons, ih hl]
          by_cases hj : j = k
          · simp [hj, hk]
          · simp [hj, first_cons]

/-- Replacing the element of a key in use makes the key find the new one. -/
theorem first_replace (hq : key q = k) (hk : (first key l k).isSome) :
    first key (Keyed.replace key k q l) = Function.update (first key l) k (some q) := by
  funext j
  induction l with
  | nil => cases hk
  | cons p l ih =>
      simp only [Keyed.replace]
      split
      · next hp =>
          by_cases hj : j = k
          · simp [hj, first_cons, hq]
          · have hjk : k ≠ j := fun he => hj he.symm
            simp [hj, first_cons, hq, hp, hjk]
      · next hp =>
          rw [first_cons, if_neg hp] at hk
          rw [first_cons, ih hk]
          by_cases hj : j = k
          · simp [hj, hp]
          · simp [hj, first_cons]

/-- Of a key in use, the list shows which element of that key was put there. -/
theorem replace_inj {q' : π} (hq : key q = k) (hq' : key q' = k) (hk : (first key l k).isSome) :
    replace key k q l = replace key k q' l ↔ q = q' := by
  constructor
  · intro h
    have hfound := congrFun (congrArg (first key) h) k
    rw [first_replace hq hk, first_replace hq' hk, Function.update_self, Function.update_self] at hfound
    exact Option.some.inj hfound
  · rintro rfl
    rfl

/-- Appending an element with a new key makes the key find it. -/
theorem first_concat (hk : first key l (key q) = none) :
    first key (l ++ [q]) = Function.update (first key l) (key q) (some q) := by
  funext j
  rw [first_append]
  by_cases hj : j = key q
  · simp [hj, hk]
  · have hjq : key q ≠ j := fun he => hj he.symm
    simp [hj, hjq]

end

end Keyed
