/-
# `Interleave` — two threads, cut into blocks

Two programs run side by side on one state.  Each is cut into blocks that run
without interruption (`Blocks`), and a schedule says whose block is next.  A
thread also has state of its own: it is put in place before a block (`install`)
and taken out after it (`save`).

The second half is the smallest protocol with a race, check-then-act on a cell
that may be empty: look whether the cell is filled; then, if it was, update it,
and if it was not, fill it, unless somebody else has by then.

**Proved here:** threads may be exchanged (`Interleaved.swap`), and an interleaving
of two check-then-act calls ends like one of the two sequential runs exactly when
the cell was filled, one call was over before the other looked, or the update that
got lost would have changed nothing (`runs_sequential_iff`).
-/
import SeamlessSmb.Lib.Calls
import Mathlib.Data.Option.Basic

namespace Calls

/-- Whose turn it is. -/
inductive Side
  | left
  | right
  deriving DecidableEq

def Side.other : Side → Side
  | .left => .right
  | .right => .left

/-- A program cut into blocks. -/
inductive Blocks (C : Type) (R : C → Type) (α : Type) : Type 1
  | done (a : α) : Blocks C R α
  | block {β : Type} (p : Prog C R β) (k : β → Blocks C R α) : Blocks C R α

section

variable {C : Type} {R : C → Type} {α β σ L : Type} {M : σ → (c : C) → R c → σ → Prop}

/-- The program the blocks make up. -/
def Blocks.flatten : Blocks C R α → Prog C R α
  | .done a => .done a
  | .block p k => p.bind fun b => (k b).flatten

/-- A thread: its own state, and the blocks it still has to run. -/
structure Thread (C : Type) (R : C → Type) (L α : Type) where
  own : L
  blocks : Blocks C R α

/-- Two threads run to their ends by a schedule. -/
inductive Interleaved (M : σ → (c : C) → R c → σ → Prop) (install : L → σ → σ) (save : σ → L) :
    Thread C R L α → Thread C R L α → σ → List Side → α × α → σ → Prop
  | done {l₁ l₂ : L} {a b : α} {s : σ} :
      Interleaved M install save ⟨l₁, .done a⟩ ⟨l₂, .done b⟩ s [] (a, b) s
  | left {β : Type} {l : L} {p : Prog C R β} {k : β → Blocks C R α} {t : Thread C R L α}
      {s s₁ s' : σ} {tr : List (Event C R)} {b : β} {sched : List Side} {r : α × α} :
      Run M p (install l s) tr b s₁ →
      Interleaved M install save ⟨save s₁, k b⟩ t s₁ sched r s' →
      Interleaved M install save ⟨l, .block p k⟩ t s (.left :: sched) r s'
  | right {β : Type} {l : L} {p : Prog C R β} {k : β → Blocks C R α} {t : Thread C R L α}
      {s s₁ s' : σ} {tr : List (Event C R)} {b : β} {sched : List Side} {r : α × α} :
      Run M p (install l s) tr b s₁ →
      Interleaved M install save t ⟨save s₁, k b⟩ s₁ sched r s' →
      Interleaved M install save t ⟨l, .block p k⟩ s (.right :: sched) r s'

/-- Threads may be exchanged. -/
theorem Interleaved.swap {install : L → σ → σ} {save : σ → L} {t₁ t₂ : Thread C R L α} {s s' : σ}
    {sched : List Side} {r : α × α} (h : Interleaved M install save t₁ t₂ s sched r s') :
    Interleaved M install save t₂ t₁ s (sched.map Side.other) r.swap s' := by
  induction h with
  | done => exact .done
  | left hp _ ih => exact .right hp ih
  | right hp _ ih => exact .left hp ih

end

end Calls

namespace CheckThenAct

open Calls (Side)

/-! ## Check, then act -/

section

variable {X : Type}

/-- A call: what it fills an empty cell with, and what it makes of a filled one. -/
structure Call (X : Type) where
  fresh : X
  onto : X → X

/-- The second step, after the first `saw` whether the cell was filled. -/
def Call.act (c : Call X) : (saw : Bool) → Option X → Option X
  | true, d => d.map c.onto
  | false, none => some c.fresh
  | false, some x => some x

/-- Both steps in a row. -/
def Call.alone (c : Call X) (d : Option X) : Option X := c.act d.isSome d

/-- Where a call stands. -/
inductive Phase
  | look
  | act (saw : Bool)
  | done (saw : Bool)

inductive Step (c : Call X) : Phase → Option X → Phase → Option X → Prop
  | look {d : Option X} : Step c .look d (.act d.isSome) d
  | act {saw : Bool} {d : Option X} : Step c (.act saw) d (.done saw) (c.act saw d)

/-- A call that is left alone leaves the cell filled. -/
theorem Call.alone_isSome {c : Call X} {d : Option X} : (c.alone d).isSome = true := by
  cases d with
  | none => rfl
  | some x => rfl

/-- What a call that is left alone from now on makes of the cell. -/
def Call.finish (c : Call X) : Phase → Option X → Option X
  | .look, d => c.alone d
  | .act saw, d => c.act saw d
  | .done _, d => d

theorem Step.finish {c : Call X} {p p' : Phase} {d d' : Option X} (h : Step c p d p' d') :
    c.finish p' d' = c.finish p d := by
  cases h with
  | look => rfl
  | act => rfl

/-- Two calls run to their ends by a schedule; `a` and `b` are what they saw. -/
inductive Runs (c₁ c₂ : Call X) :
    Phase → Phase → Option X → List Side → Bool → Bool → Option X → Prop
  | done {a b : Bool} {d : Option X} : Runs c₁ c₂ (.done a) (.done b) d [] a b d
  | left {p p' q : Phase} {d d' e : Option X} {sched : List Side} {a b : Bool} :
      Step c₁ p d p' d' → Runs c₁ c₂ p' q d' sched a b e →
      Runs c₁ c₂ p q d (.left :: sched) a b e
  | right {p q q' : Phase} {d d' e : Option X} {sched : List Side} {a b : Bool} :
      Step c₂ q d q' d' → Runs c₁ c₂ p q' d' sched a b e →
      Runs c₁ c₂ p q d (.right :: sched) a b e

/-- Both calls look before either acts. -/
def Overlap : List Side → Prop
  | x :: y :: _ => x ≠ y
  | _ => False

/-- The update of `loser` may be dropped after `winner` has filled the cell: it changes
nothing there, or `winner` undoes it. -/
def Absorbs (winner loser : Call X) : Prop :=
  loser.onto winner.fresh = winner.fresh ∨ winner.onto loser.fresh = winner.fresh

/-- The call that acts first absorbs the other. -/
def WinnerAbsorbs (c₁ c₂ : Call X) : List Side → Prop
  | _ :: _ :: .left :: _ => Absorbs c₁ c₂
  | _ :: _ :: .right :: _ => Absorbs c₂ c₁
  | _ => False

variable {c₁ c₂ : Call X} {d e : Option X} {sched : List Side} {a b : Bool}

/-- Both look first: with the cell filled both updates happen, with it empty only the
first. -/
theorem overlap_iff {w l : Call X} :
    (l.act d.isSome (w.act d.isSome d) = l.alone (w.alone d) ∨
      l.act d.isSome (w.act d.isSome d) = w.alone (l.alone d)) ↔
    d.isSome ∨ Absorbs w l := by
  cases d with
  | some x => exact iff_of_true (Or.inl rfl) (Or.inl rfl)
  | none =>
      show (some w.fresh = some (l.onto w.fresh) ∨ some w.fresh = some (w.onto l.fresh)) ↔
        false = true ∨ Absorbs w l
      unfold Absorbs
      constructor
      · intro h
        refine Or.inr (h.imp ?_ ?_) <;> exact fun he => (Option.some.inj he).symm
      · intro h
        rcases h with h | h
        · cases h
        · exact h.imp (fun he => congrArg some he.symm) fun he => congrArg some he.symm

theorem Runs.swap {p q : Phase} (h : Runs c₁ c₂ p q d sched a b e) :
    Runs c₂ c₁ q p d (sched.map Side.other) b a e := by
  induction h with
  | done => exact .done
  | left hs _ ih => exact .right hs ih
  | right hs _ ih => exact .left hs ih

/-- One call over, the other about to act. -/
theorem runs_done_act {u v : Bool} (h : Runs c₁ c₂ (.done u) (.act v) d sched a b e) :
    sched = [.right] ∧ a = u ∧ b = v ∧ e = c₂.act v d := by
  cases h with
  | left hs _ => cases hs
  | right hs h =>
      cases hs
      cases h with
      | done => exact ⟨rfl, rfl, rfl, rfl⟩
      | left hs _ => cases hs
      | right hs _ => cases hs

/-- One call over before the other starts. -/
theorem runs_done_look {u : Bool} (h : Runs c₁ c₂ (.done u) .look d sched a b e) :
    sched = [.right, .right] ∧ a = u ∧ b = d.isSome ∧ e = c₂.alone d := by
  cases h with
  | left hs _ => cases hs
  | right hs h =>
      cases hs
      have ⟨hsched, ha, hb, he⟩ := runs_done_act h
      exact ⟨by rw [hsched], ha, hb, he⟩

/-- Both calls about to act. -/
theorem runs_act_act {u v : Bool} (h : Runs c₁ c₂ (.act u) (.act v) d sched a b e) :
    a = u ∧ b = v ∧
      (sched = [.left, .right] ∧ e = c₂.act v (c₁.act u d) ∨
        sched = [.right, .left] ∧ e = c₁.act u (c₂.act v d)) := by
  cases h with
  | left hs h =>
      cases hs
      have ⟨hsched, ha, hb, he⟩ := runs_done_act h
      exact ⟨ha, hb, Or.inl ⟨by rw [hsched], he⟩⟩
  | right hs h =>
      cases hs
      have ⟨hsched, hb, ha, he⟩ := runs_done_act h.swap
      refine ⟨ha, hb, Or.inr ⟨?_, he⟩⟩
      obtain ⟨x, rfl, hx⟩ := List.map_eq_singleton_iff.mp hsched
      cases x with
      | left => rfl
      | right => cases hx

/-- The schedules in which the left call looks first. -/
theorem runs_left_first (h : Runs c₁ c₂ .look .look d (.left :: sched) a b e) :
    sched = [.left, .right, .right] ∧ a = d.isSome ∧ e = c₂.alone (c₁.alone d) ∨
    a = d.isSome ∧ b = d.isSome ∧
      (sched = [.right, .left, .right] ∧ e = c₂.act d.isSome (c₁.act d.isSome d) ∨
        sched = [.right, .right, .left] ∧ e = c₁.act d.isSome (c₂.act d.isSome d)) := by
  cases h with
  | left hs h =>
      cases hs
      cases h with
      | left hs h =>
          cases hs
          have ⟨hsched, ha, _, he⟩ := runs_done_look h
          exact Or.inl ⟨by rw [hsched], ha, he⟩
      | right hs h =>
          cases hs
          have ⟨ha, hb, hend⟩ := runs_act_act h
          refine Or.inr ⟨ha, hb, hend.imp ?_ ?_⟩ <;>
            exact fun ⟨hsched, he⟩ => ⟨by rw [hsched], he⟩

theorem runs_sequential_left (h : Runs c₁ c₂ .look .look d (.left :: sched) a b e) :
    (e = c₂.alone (c₁.alone d) ∨ e = c₁.alone (c₂.alone d)) ↔
      d.isSome ∨ ¬ Overlap (.left :: sched) ∨ WinnerAbsorbs c₁ c₂ (.left :: sched) := by
  rcases runs_left_first h with ⟨rfl, -, rfl⟩ | ⟨-, -, ⟨rfl, rfl⟩ | ⟨rfl, rfl⟩⟩
  · exact iff_of_true (Or.inl rfl) (Or.inr (Or.inl fun h => h rfl))
  · rw [overlap_iff]
    exact or_congr_right (by simp [Overlap, WinnerAbsorbs])
  · rw [or_comm, overlap_iff]
    exact or_congr_right (by simp [Overlap, WinnerAbsorbs])

theorem overlap_swap : Overlap (sched.map Side.other) ↔ Overlap sched := by
  match sched with
  | [] => exact Iff.rfl
  | [_] => exact Iff.rfl
  | x :: y :: _ => cases x <;> cases y <;> simp [Overlap, Side.other]

theorem winnerAbsorbs_swap :
    WinnerAbsorbs c₂ c₁ (sched.map Side.other) ↔ WinnerAbsorbs c₁ c₂ sched := by
  match sched with
  | [] => exact Iff.rfl
  | [_] => exact Iff.rfl
  | [_, _] => exact Iff.rfl
  | _ :: _ :: z :: _ => cases z <;> exact Iff.rfl

/-- **Check-then-act.**  The interleaving ends like a sequential run exactly when the
cell was filled, or the calls do not overlap, or the first to act absorbs the other. -/
theorem runs_sequential_iff (h : Runs c₁ c₂ .look .look d sched a b e) :
    (e = c₂.alone (c₁.alone d) ∨ e = c₁.alone (c₂.alone d)) ↔
      d.isSome ∨ ¬ Overlap sched ∨ WinnerAbsorbs c₁ c₂ sched := by
  cases sched with
  | nil => cases h
  | cons x sched =>
      cases x with
      | left => exact runs_sequential_left h
      | right =>
          rw [or_comm, ← overlap_swap, ← winnerAbsorbs_swap]
          exact runs_sequential_left h.swap

/-- Calls that do not overlap run one after the other, and the first sees what the cell was. -/
theorem first_of_not_overlap (h : Runs c₁ c₂ .look .look d (.left :: sched) a b e)
    (ho : ¬ Overlap (.left :: sched)) : a = d.isSome ∧ e = c₂.alone (c₁.alone d) := by
  rcases runs_left_first h with ⟨-, ha, he⟩ | ⟨-, -, ⟨rfl, -⟩ | ⟨rfl, -⟩⟩
  · exact ⟨ha, he⟩
  · exact absurd Side.noConfusion ho
  · exact absurd Side.noConfusion ho

/-- Calls that overlap both see what the cell was. -/
theorem saw_of_overlap (h : Runs c₁ c₂ .look .look d sched a b e) (ho : Overlap sched) :
    a = d.isSome ∧ b = d.isSome := by
  have hleft : ∀ {c₁ c₂ : Call X} {sched : List Side} {a b : Bool},
      Runs c₁ c₂ .look .look d (.left :: sched) a b e → Overlap (.left :: sched) →
      a = d.isSome ∧ b = d.isSome := by
    intro c₁ c₂ sched a b h ho
    rcases runs_left_first h with ⟨rfl, -⟩ | ⟨ha, hb, -⟩
    · exact absurd rfl ho
    · exact ⟨ha, hb⟩
  cases sched with
  | nil => cases h
  | cons x sched =>
      cases x with
      | left => exact hleft h ho
      | right => exact (hleft h.swap (overlap_swap.mpr ho)).symm

end

end CheckThenAct
