/-
# `Rely` — threads that rely on each other

Threads on one state (`Threads`) that all keep an invariant `I` of it, and that change it only by steps
in a relation `G`.  Each may rely on the others for both: what it saw when it last made a call has
since moved by `G`.

| | |
| :-- | :-- |
| `m.Guarantees I G Cond p l s Q` | `p`, which has last seen the shared state as `s`, keeps `I`, moves by `G`, and returns in `Q` |
| `m.Guarded I G Cond Q pool` | `I` holds, and each thread guarantees this from a state seen before |

Steps for which `Cond` fails are of no account.

**Proved here:** a pool in which each thread guarantees its part goes on to be one, so that what has
returned is in `Q` (`Guarded.final`, `Guarded.returned`).
-/
import SeamlessSmb.Lib.Threads

namespace Calls.Machine

open History

variable {ι C : Type} {R : C → Type} {L σ β : Type} {α : ι → Type}

/-- If the others only move by `G`, `p` keeps `I`, moves by `G` as well, and returns in `Q`. -/
def Guarantees (m : Machine C R L σ) (I : σ → Prop) (G : σ → σ → Prop)
    (Cond : σ → (c : C) → R c → Prop) : Prog C R β → L → σ → (β → Prop) → Prop
  | .done a, _, _, Q => Q a
  | .call c k, l, seen, Q =>
      ∀ s r t, G seen s → I s → m.answers (m.install l s) c r t → Cond s c r →
        I t ∧ G s t ∧ Guarantees m I G Cond (k r) (m.save t) t Q

/-- The invariant, and every thread's part. -/
structure Guarded (m : Machine C R L σ) (I : σ → Prop) (G : σ → σ → Prop)
    (Cond : σ → (c : C) → R c → Prop) (Q : (i : ι) → α i → Prop) (s : Pool C R L σ α) : Prop where
  shared : I s.shared
  threads : ∀ i, ∃ seen, G seen s.shared ∧
    m.Guarantees I G Cond (s.threads i).2 (s.threads i).1 seen (Q i)

variable {m : Machine C R L σ} {I : σ → Prop} {G : σ → σ → Prop} {Cond : σ → (c : C) → R c → Prop}
  {Q : (i : ι) → α i → Prop} {s s' : Pool C R L σ α} {run : List ((ι × Event C R) × Pool C R L σ α)}

theorem guarantees_pure {a : β} {l : L} {seen : σ} {Q : β → Prop} :
    m.Guarantees I G Cond (pure a) l seen Q ↔ Q a := Iff.rfl

theorem guarantees_call {c : C} {f : R c → Prog C R β} {l : L} {seen : σ} {Q : β → Prop} :
    m.Guarantees I G Cond (Prog.perform c >>= f) l seen Q ↔
      ∀ s r t, G seen s → I s → m.answers (m.install l s) c r t → Cond s c r →
        I t ∧ G s t ∧ m.Guarantees I G Cond (f r) (m.save t) t Q := Iff.rfl

/-- A call that only looks. -/
theorem guarantees_look {c : C} {f : R c → Prog C R β} {l : L} {seen : σ} {Q : β → Prop}
    (hrefl : ∀ s, G s s) (hlook : ∀ s r t, m.answers (m.install l s) c r t → t = s)
    (h : ∀ s r, G seen s → I s → m.answers (m.install l s) c r s → Cond s c r →
      m.Guarantees I G Cond (f r) (m.save s) s Q) :
    m.Guarantees I G Cond (Prog.perform c >>= f) l seen Q := by
  refine guarantees_call.mpr ?_
  intro s r t hseen hs hm hcond
  obtain rfl := hlook s r t hm
  exact ⟨hs, hrefl _, h t r hseen hs hm hcond⟩

/-- A part, and what comes behind it from wherever the state is by then. -/
theorem guarantees_bind {γ : Type} {p : Prog C R γ} {f : γ → Prog C R β} {l : L} {seen : σ} {P : γ → Prop}
    {Q : β → Prop} (hp : m.Guarantees I G Cond p l seen P)
    (hf : ∀ a, P a → ∀ l s, m.Guarantees I G Cond (f a) l s Q) :
    m.Guarantees I G Cond (p >>= f) l seen Q := by
  induction p generalizing l seen with
  | done a => exact hf a hp l seen
  | call c k ih =>
      intro s r t hseen hs hm hcond
      obtain ⟨ht, hmove, hrest⟩ := hp s r t hseen hs hm hcond
      exact ⟨ht, hmove, ih r hrest⟩

/-- What has returned. -/
theorem Guarded.returned (hs : m.Guarded I G Cond Q s) {i : ι} {a : α i}
    (h : (s.threads i).2 = .done a) : Q i a := by
  obtain ⟨seen, -, hi⟩ := hs.threads i
  rw [h] at hi
  exact hi

/-- **A step.**  The thread that moves keeps the invariant, and what the others rely on. -/
theorem Step.guarded [DecidableEq ι] (hrefl : ∀ s, G s s) (htrans : ∀ s t u, G s t → G t u → G s u)
    {i : ι} {e : Event C R} (h : m.Step s (i, e) s') (hcond : Cond s.shared e.call e.answer)
    (hs : m.Guarded I G Cond Q s) : m.Guarded I G Cond Q s' := by
  obtain ⟨l, k, hi, hc, hself, hother⟩ := h.inv
  obtain ⟨seen, hseen, hguarantees⟩ := hs.threads i
  rw [hi] at hguarantees
  obtain ⟨hshared, hmove, hrest⟩ :=
    hguarantees s.shared e.answer s'.shared hseen hs.shared hc hcond
  refine ⟨hshared, ?_⟩
  intro j
  by_cases hji : j = i
  · subst hji
    rw [hself]
    exact ⟨s'.shared, hrefl _, hrest⟩
  · obtain ⟨seen, hseen, hj⟩ := hs.threads j
    rw [hother j hji]
    exact ⟨seen, htrans _ _ _ hseen hmove, hj⟩

/-- **A run.** -/
theorem Guarded.final [DecidableEq ι] (hrefl : ∀ s, G s s) (htrans : ∀ s t u, G s t → G t u → G s u)
    (h : Path m.Step s run) (hcond : Along (fun s e _ => Cond s.shared e.2.call e.2.answer) s run)
    (hs : m.Guarded I G Cond Q s) : m.Guarded I G Cond Q (final s run) := by
  induction h with
  | nil => exact hs
  | cons hm _ ih => exact ih hcond.2 (hm.guarded hrefl htrans hcond.1 hs)

end Calls.Machine
