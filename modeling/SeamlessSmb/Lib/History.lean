/-
# `History` — what holds at every step of a history

A system moves by labelled steps, a relation `M s ℓ s'`.  A history is the list of
the steps taken, each with its label and the state it ends in (`Path`); a property
of steps holds along the history if it holds of each (`Along`).

Often the property wanted of a history comes down, one step at a time, to a
condition that can be read off the state before the step, but only while an
invariant holds; and the invariant is kept only by steps that have the property.
`Path.along_iff` is the rule for that: the two are then the same along every
history, the bad ones included.  A history leaves its states by a first bad step,
and up to it the invariant holds.
-/

namespace History

variable {σ ℓ : Type} {M : σ → ℓ → σ → Prop} {s s' : σ} {l : ℓ} {rest : List (ℓ × σ)}

/-- Steps of `M`, one from where the other ended. -/
inductive Path (M : σ → ℓ → σ → Prop) : σ → List (ℓ × σ) → Prop
  | nil {s : σ} : Path M s []
  | cons {s s' : σ} {l : ℓ} {rest : List (ℓ × σ)} :
      M s l s' → Path M s' rest → Path M s ((l, s') :: rest)

/-- Every step of the history has the property. -/
def Along (P : σ → ℓ → σ → Prop) : σ → List (ℓ × σ) → Prop
  | _, [] => True
  | s, (l, s') :: rest => P s l s' ∧ Along P s' rest

/-- The state a history ends in. -/
def final : σ → List (ℓ × σ) → σ
  | s, [] => s
  | _, (_, s') :: rest => final s' rest

/-- The steps of a history, each with the state before and the state after. -/
def moves : σ → List (ℓ × σ) → List (σ × ℓ × σ)
  | _, [] => []
  | s, (l, s') :: rest => (s, l, s') :: moves s' rest

/-- The history of a system that moves by a function. -/
def trace (f : σ → ℓ → σ) : σ → List ℓ → List (ℓ × σ)
  | _, [] => []
  | s, l :: ls => (l, f s l) :: trace f (f s l) ls

theorem path_trace {f : σ → ℓ → σ} (ls : List ℓ) :
    ∀ s, Path (fun s l s' => s' = f s l) s (trace f s ls) := by
  induction ls with
  | nil => exact fun s => .nil
  | cons l ls ih => exact fun s => .cons rfl (ih (f s l))

/-- **Histories.**  A property that each step has exactly on a condition, while an
invariant holds that such steps keep, holds along a history exactly when the
condition does. -/
theorem Path.along_iff {I : σ → Prop} {P C : σ → ℓ → σ → Prop}
    (hstep : ∀ s l s', I s → M s l s' → (P s l s' ↔ C s l s'))
    (hkeep : ∀ s l s', I s → M s l s' → P s l s' → I s')
    (hs : I s) (h : Path M s rest) : Along P s rest ↔ Along C s rest := by
  induction h with
  | nil => exact Iff.rfl
  | cons hm _ ih =>
      constructor
      · rintro ⟨hP, hrest⟩
        exact ⟨(hstep _ _ _ hs hm).mp hP, (ih (hkeep _ _ _ hs hm hP)).mp hrest⟩
      · rintro ⟨hC, hrest⟩
        have hP := (hstep _ _ _ hs hm).mpr hC
        exact ⟨hP, (ih (hkeep _ _ _ hs hm hP)).mpr hrest⟩

/-- One half of the rule: the condition is enough, and keeps the invariant. -/
theorem Path.along {I : σ → Prop} {P C : σ → ℓ → σ → Prop}
    (hstep : ∀ s l s', I s → M s l s' → C s l s' → P s l s' ∧ I s')
    (hs : I s) (h : Path M s rest) (hC : Along C s rest) : Along P s rest := by
  induction h with
  | nil => trivial
  | cons hm _ ih =>
      obtain ⟨hc, hrest⟩ := hC
      obtain ⟨hP, hs'⟩ := hstep _ _ _ hs hm hc
      exact ⟨hP, ih hs' hrest⟩

/-- What every step has, from an invariant that it keeps. -/
theorem Path.along_all {I : σ → Prop} {P : σ → ℓ → σ → Prop}
    (hstep : ∀ s l s', I s → M s l s' → P s l s' ∧ I s')
    (hs : I s) (h : Path M s rest) : Along P s rest := by
  induction h with
  | nil => trivial
  | cons hm _ ih =>
      obtain ⟨hP, hs'⟩ := hstep _ _ _ hs hm
      exact ⟨hP, ih hs'⟩

/-- What every step keeps holds at the end. -/
theorem Path.final_invariant {I : σ → Prop} (hstep : ∀ s l s', I s → M s l s' → I s')
    (hs : I s) (h : Path M s rest) : I (final s rest) := by
  induction h with
  | nil => exact hs
  | cons hm _ ih => exact ih (hstep _ _ _ hs hm)

/-- And at the end, if only steps of some labels keep it and these are all there are. -/
theorem Path.final_labelled {I : σ → Prop} {C : ℓ → Prop}
    (hstep : ∀ s l s', I s → M s l s' → C l → I s') (hs : I s) (h : Path M s rest)
    (hC : ∀ e ∈ rest, C e.1) : I (final s rest) := by
  induction h with
  | nil => exact hs
  | cons hm _ ih =>
      exact ih (hstep _ _ _ hs hm (hC _ List.mem_cons_self)) fun e he => hC e (List.mem_cons_of_mem _ he)

/-! ## Following a value

A value is seen in every state, and a step does to it what can be said without looking at
the rest of the state. -/

/-- What the steps of a history do to a value, one after the other. -/
def replay {β : Type} (f : σ → ℓ → β → β) : σ → List (ℓ × σ) → β → β
  | _, [], b => b
  | s, (l, s') :: rest, b => replay f s' rest (f s l b)

/-- **A value followed.**  If every label of the history is such that its step does to the value
what `f` does, the history does what its replay does. -/
theorem Path.view_final {β : Type} {v : σ → β} {f : σ → ℓ → β → β} {C : ℓ → Prop}
    (hstep : ∀ s l s', M s l s' → C l → v s' = f s l (v s)) (h : Path M s rest)
    (hC : ∀ e ∈ rest, C e.1) : v (final s rest) = replay f s rest (v s) := by
  induction h with
  | nil => rfl
  | cons hm _ ih =>
      have hfirst := hstep _ _ _ hm (hC _ List.mem_cons_self)
      show v _ = replay f _ _ (f _ _ (v _))
      rw [← hfirst]
      exact ih fun e he => hC e (List.mem_cons_of_mem _ he)

/-! ## Counting steps

A rank that a step may raise by what its label brings in, and that falls by what its label uses up. -/

/-- What the labels of a history come to. -/
def total (f : ℓ → Nat) : List (ℓ × σ) → Nat
  | [] => 0
  | (l, _) :: rest => f l + total f rest

/-- **Ranks.**  No more is used up than there was at the start and was brought in. -/
theorem Path.total_le {I : σ → Prop} {rank : σ → Nat} {uses brings : ℓ → Nat}
    (hstep : ∀ s l s', I s → M s l s' → I s' ∧ rank s' + uses l ≤ rank s + brings l)
    (hs : I s) (h : Path M s rest) :
    rank (final s rest) + total uses rest ≤ rank s + total brings rest := by
  induction h with
  | nil => exact Nat.le_refl _
  | cons hm _ ih =>
      obtain ⟨hs', hrank⟩ := hstep _ _ _ hs hm
      have hrest := ih hs'
      simp only [total, final] at hrest ⊢
      omega

end History
