/-
# `Checkpoint` — a value that is kept, and the work on it that survives

A value is worked on, one piece of work after the other.  Now and then a copy of it is made, and
when things start again the copy takes its place.

| event | value | copy |
| :-- | :-- | :-- |
| `work w` | what `w` makes of it | |
| `save` | | the value |
| `restart` | the copy | |
| `idle` | | |

What a system does of this is read off its steps (`events`).

**Proved here:** a restart loses the work since the last copy and no other.  Whatever the value is,
it comes to what the work that survived makes of the first one (`foldl_survivors`), and so does the
state of a system that keeps such a value (`survivors_of_path`).
-/
import SeamlessSmb.Lib.History

namespace Checkpoint

inductive Event (ω : Type)
  | work (w : ω)
  | save
  | restart
  | idle

/-- The value, and the copy. -/
structure Kept (β : Type) where
  value : β
  copy : β

variable {ω β γ : Type}

/-- What an event does, where a piece of work changes the value by `f`. -/
def Kept.act (f : β → ω → β) (k : Kept β) : Event ω → Kept β
  | .work w => { k with value := f k.value w }
  | .save => { k with copy := k.value }
  | .restart => { k with value := k.copy }
  | .idle => k

def Kept.map (h : β → γ) (k : Kept β) : Kept γ := ⟨h k.value, h k.copy⟩

/-- The work that has its effect on the value, and on the copy. -/
def survivors (events : List (Event ω)) : Kept (List ω) :=
  events.foldl (Kept.act fun ws w => ws ++ [w]) ⟨[], []⟩

variable {f : β → ω → β} {g : γ → ω → γ} {h : β → γ}

/-- A view of the value on which work has an effect of its own. -/
theorem Kept.map_act (hwork : ∀ b w, h (f b w) = g (h b) w) (k : Kept β) (e : Event ω) :
    (k.act f e).map h = (k.map h).act g e := by
  cases e with
  | work w => exact congrArg (Kept.mk · _) (hwork k.value w)
  | save => rfl
  | restart => rfl
  | idle => rfl

theorem map_foldl (hwork : ∀ b w, h (f b w) = g (h b) w) (events : List (Event ω)) :
    ∀ k : Kept β, (events.foldl (Kept.act f) k).map h = events.foldl (Kept.act g) (k.map h) := by
  induction events with
  | nil =>
      intro k
      rfl
  | cons e events ih =>
      intro k
      rw [List.foldl_cons, List.foldl_cons, ih, Kept.map_act hwork]

/-- **Survivors.**  The value and the copy are what the work that survived makes of the first one. -/
theorem foldl_survivors (f : β → ω → β) (b : β) (events : List (Event ω)) :
    events.foldl (Kept.act f) ⟨b, b⟩ = (survivors events).map (List.foldl f b) := by
  have hwork : ∀ (ws : List ω) (w : ω), (ws ++ [w]).foldl f b = f (ws.foldl f b) w := by
    intro ws w
    exact List.foldl_append
  exact (map_foldl hwork events ⟨[], []⟩).symm

/-! ## Histories -/

open History

variable {σ ℓ : Type} {M C : σ → ℓ → σ → Prop} {s : σ} {history : List (ℓ × σ)}

/-- What the steps of a history are to the value. -/
def events (e : σ → ℓ → Event ω) (s : σ) (history : List (ℓ × σ)) : List (Event ω) :=
  (moves s history).map fun m => e m.1 m.2.1

/-- Each step is to the value what its event is, and so is a history. -/
theorem foldl_events {R : σ → Kept β → Prop} {e : σ → ℓ → Event ω}
    (hstep : ∀ s l s' k, R s k → M s l s' → C s l s' → R s' (k.act f (e s l)))
    (h : Path M s history) : ∀ {k : Kept β}, R s k → Along C s history →
      R (final s history) ((events e s history).foldl (Kept.act f) k) := by
  induction h with
  | nil =>
      intro k hR _
      exact hR
  | cons hm _ ih =>
      rintro k hR ⟨hC, hrest⟩
      exact ih (hstep _ _ _ _ hR hm hC) hrest

theorem both_along {C' : σ → ℓ → σ → Prop} (hC : Along C s history) (hC' : Along C' s history) :
    Along (fun s l s' => C s l s' ∧ C' s l s') s history := by
  induction history generalizing s with
  | nil => trivial
  | cons x rest ih => exact ⟨⟨hC.1, hC'.1⟩, ih hC.2 hC'.2⟩

/-- **Systems.**  A history does to the value what the work that survived does. -/
theorem survivors_of_path {R : σ → Kept β → Prop} {e : σ → ℓ → Event ω} {b : β}
    (hstep : ∀ s l s' k, R s k → M s l s' → C s l s' → R s' (k.act f (e s l)))
    (hR : R s ⟨b, b⟩) (h : Path M s history) (hC : Along C s history) :
    R (final s history) ((survivors (events e s history)).map (List.foldl f b)) := by
  rw [← foldl_survivors]
  exact foldl_events hstep h hR hC

end Checkpoint
