/-
# `Twins` — two executions of a program

Where every answer is fixed beforehand, a program does not run in many ways but in one: a
resolver `f : σ → (c : C) → Option (R c × σ)` answers each call, or refuses to, and `exec`
plays the program against it.

A statement about two runs of a program (that one thing has no influence on another) is a
statement about two resolvers.

| | |
| :-- | :-- |
| `exec f p s` | the trace, the value and the last state; `none` if a call is refused |
| `exec_guard` | refusing more calls drops the executions that make one of them |
| `Twins f g p q s t Q` | both are refused, or both return, and then `Q` |

`Twins` has the rules of a triple, on both sides at once: `twins_pure`, `twins_bind` and
`twins_call`, with `twins_related` for answers that are not the same; `Twins.and_sat` adds what a
triple says of the first side.
-/
import SeamlessSmb.Lib.Calls

namespace Calls

variable {C : Type} {R : C → Type} {α α' β β' σ τ : Type}

/-- The one execution of a program. -/
def exec (f : σ → (c : C) → Option (R c × σ)) : Prog C R α → σ → Option (List (Event C R) × α × σ)
  | .done a, s => some ([], a, s)
  | .call c k, s =>
      match f s c with
      | none => none
      | some (r, s₁) =>
          match exec f (k r) s₁ with
          | none => none
          | some (tr, a, s') => some (⟨c, r⟩ :: tr, a, s')

section

variable {f : σ → (c : C) → Option (R c × σ)}

theorem exec_call {c : C} {k : R c → Prog C R α} {s s₁ : σ} {r : R c} (h : f s c = some (r, s₁)) :
    exec f (.call c k) s = (exec f (k r) s₁).map fun x => (⟨c, r⟩ :: x.1, x.2.1, x.2.2) := by
  simp only [exec, h]
  cases exec f (k r) s₁ with
  | none => rfl
  | some x => rfl

theorem exec_refused {c : C} {k : R c → Prog C R α} {s : σ} (h : f s c = none) :
    exec f (.call c k) s = none := by
  simp only [exec, h]

/-- An execution that returns is a run. -/
theorem exec_run {M : σ → (c : C) → R c → σ → Prop}
    (hM : ∀ s c r s', f s c = some (r, s') → M s c r s') {p : Prog C R α} {s s' : σ}
    {tr : List (Event C R)} {a : α} (h : exec f p s = some (tr, a, s')) : Run M p s tr a s' := by
  induction p generalizing s tr with
  | done b =>
      cases h
      exact .done
  | call c k ih =>
      cases hanswer : f s c with
      | none =>
          rw [exec_refused hanswer] at h
          cases h
      | some x =>
          rw [exec_call hanswer] at h
          obtain ⟨y, hrest, hy⟩ := Option.map_eq_some_iff.mp h
          cases hy
          exact .call (hM _ _ _ _ hanswer) (ih _ hrest)

/-- A resolver that refuses some calls and is another one else: its executions are those of the
other in which no such call is made. -/
theorem exec_guard {g : σ → (c : C) → Option (R c × σ)} {bad : C → Bool}
    (hg : ∀ {s} c, g s c = if bad c = true then none else f s c) {p : Prog C R α} {s : σ} :
    exec g p s = (exec f p s).filter fun x => x.1.all fun e => !bad e.call := by
  induction p generalizing s with
  | done a => rfl
  | call c k ih =>
      cases hbad : bad c with
      | true =>
          have hrefused : g s c = none := (hg c).trans (if_pos hbad)
          rw [exec_refused hrefused]
          cases hanswer : f s c with
          | none => rw [exec_refused hanswer, Option.filter_none]
          | some x =>
              rw [exec_call hanswer]
              cases exec f (k x.1) x.2 with
              | none => rfl
              | some y =>
                  refine (Option.filter_some_neg ?_).symm
                  rw [List.all_cons, hbad]
                  rfl
      | false =>
          have hsame : g s c = f s c := (hg c).trans (if_neg (ne_true_of_eq_false hbad))
          cases hanswer : f s c with
          | none => rw [exec_refused (hsame.trans hanswer), exec_refused hanswer, Option.filter_none]
          | some x =>
              rw [exec_call (hsame.trans hanswer), exec_call hanswer, ih x.1]
              cases exec f (k x.1) x.2 with
              | none => rfl
              | some y =>
                  simp only [Option.filter_some, Option.map_some, List.all_cons, hbad, Bool.not_false,
                    Bool.true_and]
                  split
                  · rfl
                  · rfl

/-- A run, seen through a part of the state the calls are about. -/
theorem Run.map {M : τ → (c : C) → R c → τ → Prop} (g : σ → τ) {p : Prog C R α} {s s' : σ}
    {tr : List (Event C R)} {a : α} (h : Run (fun s c r s' => M (g s) c r (g s')) p s tr a s') :
    Run M p (g s) tr a (g s') := by
  induction h with
  | done => exact .done
  | call hm _ ih => exact .call hm ih

/-- A sequence: the second part goes on where the first ended. -/
theorem exec_bind {p : Prog C R α} {h : α → Prog C R β} {s : σ} :
    exec f (p >>= h) s =
      (exec f p s).bind fun x => (exec f (h x.2.1) x.2.2).map fun y => (x.1 ++ y.1, y.2.1, y.2.2) := by
  rw [Prog.bind_eq]
  induction p generalizing s with
  | done a =>
      show exec f (h a) s = (exec f (h a) s).map fun y => ([] ++ y.1, y.2.1, y.2.2)
      cases exec f (h a) s with
      | none => rfl
      | some y => rfl
  | call c k ih =>
      show exec f (.call c fun r => (k r).bind h) s = _
      cases hanswer : f s c with
      | none => rw [exec_refused hanswer, exec_refused hanswer, Option.bind_none]
      | some x =>
          rw [exec_call hanswer, exec_call hanswer, ih x.1]
          cases exec f (k x.1) x.2 with
          | none => rfl
          | some y =>
              show Option.map _ (Option.map _ (exec f (h y.2.1) y.2.2)) =
                Option.map _ (exec f (h y.2.1) y.2.2)
              cases exec f (h y.2.1) y.2.2 with
              | none => rfl
              | some z => rfl

end

/-! ## Two at once -/

section

variable {f : σ → (c : C) → Option (R c × σ)} {g : τ → (c : C) → Option (R c × τ)}

/-- Both executions are refused, or both return, and then `Q` holds of what they return. -/
def Twins (f : σ → (c : C) → Option (R c × σ)) (g : τ → (c : C) → Option (R c × τ)) (p : Prog C R α)
    (q : Prog C R β) (s : σ) (t : τ) (Q : List (Event C R) → α → σ → β → τ → Prop) : Prop :=
  Option.Rel (fun x y => Q x.1 x.2.1 x.2.2 y.2.1 y.2.2) (exec f p s) (exec g q t)

theorem Twins.mono {p : Prog C R α} {q : Prog C R β} {s : σ} {t : τ}
    {Q Q' : List (Event C R) → α → σ → β → τ → Prop} (h : Twins f g p q s t Q)
    (hQ : ∀ tr a s' b t', Q tr a s' b t' → Q' tr a s' b t') : Twins f g p q s t Q' := by
  unfold Twins at *
  generalize exec f p s = x at h ⊢
  generalize exec g q t = y at h ⊢
  cases h with
  | none => exact .none
  | some hxy => exact .some (hQ _ _ _ _ _ hxy)

theorem twins_pure {a : α} {b : β} {s : σ} {t : τ} {Q : List (Event C R) → α → σ → β → τ → Prop}
    (h : Q [] a s b t) : Twins f g (pure a) (pure b) s t Q := .some h

/-- Both calls are answered, and the rest is twins. -/
theorem twins_call {c c' : C} {k : R c → Prog C R α} {k' : R c' → Prog C R β} {s s₁ : σ} {t t₁ : τ}
    {r : R c} {r' : R c'} {Q : List (Event C R) → α → σ → β → τ → Prop} (hr : f s c = some (r, s₁))
    (hr' : g t c' = some (r', t₁))
    (h : Twins f g (k r) (k' r') s₁ t₁ fun tr => Q (⟨c, r⟩ :: tr)) :
    Twins f g (.call c k) (.call c' k') s t Q := by
  unfold Twins at *
  rw [exec_call hr, exec_call hr']
  generalize exec f (k r) s₁ = x at h ⊢
  generalize exec g (k' r') t₁ = y at h ⊢
  cases h with
  | none => exact .none
  | some hxy => exact .some hxy

/-- The same, for a call at the head of a sequence. -/
theorem twins_perform {c c' : C} {h : R c → Prog C R α} {k : R c' → Prog C R β} {s s₁ : σ} {t t₁ : τ}
    {r : R c} {r' : R c'} {Q : List (Event C R) → α → σ → β → τ → Prop} (hr : f s c = some (r, s₁))
    (hr' : g t c' = some (r', t₁)) (hrest : Twins f g (h r) (k r') s₁ t₁ fun tr => Q (⟨c, r⟩ :: tr)) :
    Twins f g (Prog.perform c >>= h) (Prog.perform c' >>= k) s t Q := twins_call hr hr' hrest

theorem twins_refused {c c' : C} {k : R c → Prog C R α} {k' : R c' → Prog C R β} {s : σ} {t : τ}
    {Q : List (Event C R) → α → σ → β → τ → Prop} (hr : f s c = none) (hr' : g t c' = none) :
    Twins f g (.call c k) (.call c' k') s t Q := by
  unfold Twins
  rw [exec_refused hr, exec_refused hr']
  exact .none

/-- The two answers are related, or both calls are refused. -/
theorem twins_related {c c' : C} {k : R c → Prog C R α} {k' : R c' → Prog C R β} {s : σ} {t : τ}
    {Q : List (Event C R) → α → σ → β → τ → Prop} {A : R c × σ → R c' × τ → Prop}
    (hrel : Option.Rel A (f s c) (g t c'))
    (h : ∀ x y, A x y → Twins f g (k x.1) (k' y.1) x.2 y.2 fun tr => Q (⟨c, x.1⟩ :: tr)) :
    Twins f g (.call c k) (.call c' k') s t Q := by
  generalize hx : f s c = x at hrel
  generalize hy : g t c' = y at hrel
  cases hrel with
  | none => exact twins_refused hx hy
  | some hxy => exact twins_call hx hy (h _ _ hxy)

/-- **Sequencing**, on both sides. -/
theorem twins_bind {p : Prog C R α} {q : Prog C R α'} {h : α → Prog C R β} {k : α' → Prog C R β'} {s : σ}
    {t : τ} {Q : List (Event C R) → β → σ → β' → τ → Prop}
    (hp : Twins f g p q s t fun tr a s₁ a' t₁ =>
      Twins f g (h a) (k a') s₁ t₁ fun tr' => Q (tr ++ tr')) :
    Twins f g (p >>= h) (q >>= k) s t Q := by
  unfold Twins at *
  rw [exec_bind, exec_bind]
  generalize exec f p s = x at hp ⊢
  generalize exec g q t = y at hp ⊢
  cases hp with
  | none => exact .none
  | @some x y hxy =>
      have hxy : Option.Rel _ (exec f (h x.2.1) x.2.2) (exec g (k y.2.1) y.2.2) := hxy
      show Option.Rel _ (Option.map _ (exec f (h x.2.1) x.2.2)) (Option.map _ (exec g (k y.2.1) y.2.2))
      generalize exec f (h x.2.1) x.2.2 = x' at hxy ⊢
      generalize exec g (k y.2.1) y.2.2 = y' at hxy ⊢
      cases hxy with
      | none => exact .none
      | some hxy' => exact .some hxy'

/-- If the first execution returns, so does the second. -/
theorem Twins.returns {p : Prog C R α} {q : Prog C R β} {s : σ} {t : τ}
    {Q : List (Event C R) → α → σ → β → τ → Prop} (h : Twins f g p q s t Q)
    {x : List (Event C R) × α × σ} (hx : exec f p s = some x) :
    ∃ y, exec g q t = some y ∧ Q x.1 x.2.1 x.2.2 y.2.1 y.2.2 := by
  unfold Twins at h
  rw [hx] at h
  generalize exec g q t = o at h ⊢
  cases h with
  | some hxy => exact ⟨_, rfl, hxy⟩

/-- If it is refused, so is the second. -/
theorem Twins.refused {p : Prog C R α} {q : Prog C R β} {s : σ} {t : τ}
    {Q : List (Event C R) → α → σ → β → τ → Prop} (h : Twins f g p q s t Q) (hx : exec f p s = none) :
    exec g q t = none := by
  unfold Twins at h
  rw [hx] at h
  generalize exec g q t = o at h ⊢
  cases h with
  | none => rfl

/-- What a triple says of the first execution. -/
theorem Twins.and_sat {M : σ → (c : C) → R c → σ → Prop}
    (hM : ∀ s c r s', f s c = some (r, s') → M s c r s') {p : Prog C R α} {q : Prog C R β} {s : σ} {t : τ}
    {P : List (Event C R) → α → σ → Prop} {Q : List (Event C R) → α → σ → β → τ → Prop}
    (h : Twins f g p q s t Q) (hp : Sat M p s P) :
    Twins f g p q s t fun tr a s' b t' => P tr a s' ∧ Q tr a s' b t' := by
  unfold Twins
  cases hx : exec f p s with
  | none =>
      rw [h.refused hx]
      exact .none
  | some x =>
      obtain ⟨y, hy, hxy⟩ := h.returns hx
      rw [hy]
      exact .some ⟨hp _ _ _ (exec_run hM hx), hxy⟩

end

end Calls
