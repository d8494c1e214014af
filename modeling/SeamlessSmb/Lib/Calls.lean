/-
# `Calls` — programs that make calls, their runs and their triples

A routine that talks to an operating system is a tree: it stops with a value,
or it makes a call and goes on with whatever the call answers.  `Prog C R α`
is that tree, over an alphabet `C` of calls with answers of type `R c`.

The meaning of the calls is a relation `M : σ → (c : C) → R c → σ → Prop`:
which answers call `c` may give in a state, and the state it leaves.  Nothing
makes `M` a function, so "for every outcome of the calls" is a quantifier over
the runs.

| | |
| :-- | :-- |
| `Run M p s tr a s'` | `p`, started in `s`, makes the calls `tr`, returns `a`, ends in `s'` |
| `Sat M p s Q` | every run of `p` from `s` ends in `Q` (partial correctness) |
| `OnlyCalls P p` | no call of the tree falls outside `P` |

`Sat` obeys one rule for each constructor and one for sequencing, all of them
equivalences, so a program is run symbolically by rewriting.  `OnlyCalls.sat`
is the frame rule: what every allowed call leaves alone, the program leaves alone;
`OnlyCalls.exists_run` is progress.
-/
import Mathlib.Logic.Basic
import Mathlib.Data.List.Basic

namespace Calls

/-- A program over the calls `C`. -/
inductive Prog (C : Type) (R : C → Type) (α : Type) : Type
  | done (a : α) : Prog C R α
  | call (c : C) (k : R c → Prog C R α) : Prog C R α

/-- A call together with the answer it got. -/
structure Event (C : Type) (R : C → Type) where
  call : C
  answer : R call

namespace Prog

variable {C : Type} {R : C → Type} {α β σ : Type}

/-- Sequencing. -/
def bind : Prog C R α → (α → Prog C R β) → Prog C R β
  | .done a, f => f a
  | .call c k, f => .call c (fun r => (k r).bind f)

instance : Monad (Prog C R) where
  pure := .done
  bind := bind

/-- One call, answered to the caller. -/
def perform (c : C) : Prog C R (R c) := .call c .done

/-- Run `p` only if `b`. -/
def onlyIf (b : Prop) [Decidable b] (p : Prog C R Unit) : Prog C R Unit :=
  if b then p else .done ()

theorem bind_eq (p : Prog C R α) (f : α → Prog C R β) : (p >>= f) = p.bind f := rfl

theorem bind_assoc {γ : Type} (p : Prog C R α) (f : α → Prog C R β) (g : β → Prog C R γ) :
    (p.bind f).bind g = p.bind fun a => (f a).bind g := by
  induction p with
  | done a => rfl
  | call c k ih => exact congrArg (Prog.call c) (funext ih)

end Prog

section Runs

variable {C : Type} {R : C → Type} {α β σ : Type}

/-- The runs of a program, with the calls made and the answers received. -/
inductive Run (M : σ → (c : C) → R c → σ → Prop) :
    Prog C R α → σ → List (Event C R) → α → σ → Prop
  | done {a : α} {s : σ} : Run M (.done a) s [] a s
  | call {c : C} {k : R c → Prog C R α} {r : R c} {s s₁ s' : σ}
      {tr : List (Event C R)} {a : α} :
      M s c r s₁ → Run M (k r) s₁ tr a s' → Run M (.call c k) s (⟨c, r⟩ :: tr) a s'

variable {M : σ → (c : C) → R c → σ → Prop}

theorem run_done {a b : α} {s s' : σ} {tr : List (Event C R)} :
    Run M (.done a) s tr b s' ↔ tr = [] ∧ b = a ∧ s' = s := by
  constructor
  · intro h
    cases h
    exact ⟨rfl, rfl, rfl⟩
  · rintro ⟨rfl, rfl, rfl⟩
    exact .done

theorem run_call {c : C} {k : R c → Prog C R α} {s s' : σ} {tr : List (Event C R)} {a : α} :
    Run M (.call c k) s tr a s' ↔
      ∃ r s₁ tr₁, tr = ⟨c, r⟩ :: tr₁ ∧ M s c r s₁ ∧ Run M (k r) s₁ tr₁ a s' := by
  constructor
  · intro h
    cases h with
    | call hm hk => exact ⟨_, _, _, rfl, hm, hk⟩
  · rintro ⟨r, s₁, tr₁, rfl, hm, hk⟩
    exact .call hm hk

/-- A run of a sequence is a run of its first part followed by one of its second. -/
theorem run_bind {p : Prog C R α} {f : α → Prog C R β} {s s' : σ}
    {tr : List (Event C R)} {b : β} :
    Run M (p.bind f) s tr b s' ↔
      ∃ tr₁ a s₁ tr₂, tr = tr₁ ++ tr₂ ∧ Run M p s tr₁ a s₁ ∧ Run M (f a) s₁ tr₂ b s' := by
  induction p generalizing s tr with
  | done a =>
      simp only [Prog.bind, run_done]
      constructor
      · exact fun h => ⟨[], a, s, tr, rfl, ⟨rfl, rfl, rfl⟩, h⟩
      · rintro ⟨_, _, _, tr₂, rfl, ⟨rfl, rfl, rfl⟩, h⟩
        exact h
  | call c k ih =>
      simp only [Prog.bind, run_call]
      constructor
      · rintro ⟨r, s₁, tr₁, rfl, hm, hk⟩
        obtain ⟨u₁, a, s₂, u₂, rfl, h₁, h₂⟩ := (ih r).mp hk
        exact ⟨⟨c, r⟩ :: u₁, a, s₂, u₂, rfl, ⟨r, s₁, u₁, rfl, hm, h₁⟩, h₂⟩
      · rintro ⟨_, a, s₂, u₂, rfl, ⟨r, s₁, u₁, rfl, hm, h₁⟩, h₂⟩
        exact ⟨r, s₁, u₁ ++ u₂, rfl, hm, (ih r).mpr ⟨u₁, a, s₂, u₂, rfl, h₁, h₂⟩⟩

theorem Run.bind {p : Prog C R α} {f : α → Prog C R β} {s s₁ s' : σ}
    {tr₁ tr₂ : List (Event C R)} {a : α} {b : β} (hp : Run M p s tr₁ a s₁)
    (hf : Run M (f a) s₁ tr₂ b s') : Run M (p >>= f) s (tr₁ ++ tr₂) b s' :=
  run_bind.mpr ⟨tr₁, a, s₁, tr₂, rfl, hp, hf⟩

/-- A run of a program of which only a part of the value is wanted. -/
theorem Run.of_bind_pure {p : Prog C R α} {f : α → β} {s s' : σ} {tr : List (Event C R)} {b : β}
    (h : Run M (p >>= fun a => pure (f a)) s tr b s') : ∃ a, Run M p s tr a s' ∧ b = f a := by
  obtain ⟨tr₁, a, s₁, tr₂, rfl, hp, hf⟩ := run_bind.mp h
  obtain ⟨rfl, rfl, rfl⟩ := run_done.mp hf
  refine ⟨a, ?_, rfl⟩
  rwa [List.append_nil]

/-- What holds of every answer a call may get holds along the trace. -/
theorem Run.forall_mem {P : Event C R → Prop} (hP : ∀ s c r s', M s c r s' → P ⟨c, r⟩)
    {p : Prog C R α} {s s' : σ} {tr : List (Event C R)} {a : α} (h : Run M p s tr a s') :
    ∀ e ∈ tr, P e := by
  induction h with
  | done => exact fun e he => absurd he List.not_mem_nil
  | call hm _ ih =>
      intro e he
      cases he with
      | head => exact hP _ _ _ _ hm
      | tail _ he => exact ih e he

theorem Run.ite_pos {b : Prop} [Decidable b] {p q : Prog C R α} {s s' : σ}
    {tr : List (Event C R)} {a : α} (hb : b) (h : Run M p s tr a s') :
    Run M (if b then p else q) s tr a s' := by
  rw [if_pos hb]
  exact h

theorem Run.ite_neg {b : Prop} [Decidable b] {p q : Prog C R α} {s s' : σ}
    {tr : List (Event C R)} {a : α} (hb : ¬ b) (h : Run M q s tr a s') :
    Run M (if b then p else q) s tr a s' := by
  rw [if_neg hb]
  exact h

/-! ## Triples -/

/-- Every run of `p` from `s` ends in `Q`.  A program with no run from `s`
satisfies every `Q`. -/
def Sat (M : σ → (c : C) → R c → σ → Prop) (p : Prog C R α) (s : σ)
    (Q : List (Event C R) → α → σ → Prop) : Prop :=
  ∀ tr a s', Run M p s tr a s' → Q tr a s'

theorem Sat.mono {p : Prog C R α} {s : σ} {Q Q' : List (Event C R) → α → σ → Prop}
    (h : Sat M p s Q) (hQ : ∀ tr a s', Q tr a s' → Q' tr a s') : Sat M p s Q' :=
  fun tr a s' hr => hQ tr a s' (h tr a s' hr)

theorem sat_done {a : α} {s : σ} {Q : List (Event C R) → α → σ → Prop} :
    Sat M (.done a) s Q ↔ Q [] a s := by
  constructor
  · exact fun h => h [] a s .done
  · rintro h tr b s' hr
    obtain ⟨rfl, rfl, rfl⟩ := run_done.mp hr
    exact h

theorem sat_pure {a : α} {s : σ} {Q : List (Event C R) → α → σ → Prop} :
    Sat M (Pure.pure a) s Q ↔ Q [] a s := sat_done

theorem sat_call {c : C} {k : R c → Prog C R α} {s : σ}
    {Q : List (Event C R) → α → σ → Prop} :
    Sat M (.call c k) s Q ↔
      ∀ r s₁, M s c r s₁ → Sat M (k r) s₁ (fun tr => Q (⟨c, r⟩ :: tr)) := by
  constructor
  · exact fun h r s₁ hm tr a s' hk => h _ a s' (.call hm hk)
  · rintro h tr a s' hr
    obtain ⟨r, s₁, tr₁, rfl, hm, hk⟩ := run_call.mp hr
    exact h r s₁ hm tr₁ a s' hk

theorem sat_perform {c : C} {s : σ} {Q : List (Event C R) → R c → σ → Prop} :
    Sat M (Prog.perform c) s Q ↔ ∀ r s₁, M s c r s₁ → Q [⟨c, r⟩] r s₁ := by
  simp only [Prog.perform, sat_call, sat_done]

/-- **Sequencing.**  The postcondition of the first part is the triple of the
second. -/
theorem sat_bind {p : Prog C R α} {f : α → Prog C R β} {s : σ}
    {Q : List (Event C R) → β → σ → Prop} :
    Sat M (p >>= f) s Q ↔
      Sat M p s (fun tr₁ a s₁ => Sat M (f a) s₁ (fun tr₂ => Q (tr₁ ++ tr₂))) := by
  rw [Prog.bind_eq]
  constructor
  · exact fun h tr₁ a s₁ h₁ tr₂ b s' h₂ =>
      h _ b s' (run_bind.mpr ⟨tr₁, a, s₁, tr₂, rfl, h₁, h₂⟩)
  · rintro h tr b s' hr
    obtain ⟨tr₁, a, s₁, tr₂, rfl, h₁, h₂⟩ := run_bind.mp hr
    exact h tr₁ a s₁ h₁ tr₂ b s' h₂

/-- A call, and what is done with its answer. -/
theorem sat_perform_bind {c : C} {f : R c → Prog C R β} {s : σ}
    {Q : List (Event C R) → β → σ → Prop} :
    Sat M (Prog.perform c >>= f) s Q ↔
      ∀ r s₁, M s c r s₁ → Sat M (f r) s₁ (fun tr => Q (⟨c, r⟩ :: tr)) := sat_call

/-! ## Watching some of the calls

Where a property looks at a part of the trace only, the other calls are passed over. -/

/-- The watched part of a trace. -/
def watched (keep : C → Bool) (tr : List (Event C R)) : List (Event C R) :=
  tr.filter fun e => keep e.call

/-- Every run of `p` from `s` ends in `Q`, which sees the watched calls. -/
def Watch (M : σ → (c : C) → R c → σ → Prop) (keep : C → Bool) (p : Prog C R α) (s : σ)
    (Q : List (Event C R) → α → σ → Prop) : Prop :=
  Sat M p s fun tr => Q (watched keep tr)

variable {keep : C → Bool}

theorem watch_pure {a : α} {s : σ} {Q : List (Event C R) → α → σ → Prop} :
    Watch M keep (Pure.pure a) s Q ↔ Q [] a s := sat_pure

theorem watch_bind {p : Prog C R α} {f : α → Prog C R β} {s : σ}
    {Q : List (Event C R) → β → σ → Prop} :
    Watch M keep (p >>= f) s Q ↔
      Watch M keep p s (fun tr a s₁ => Watch M keep (f a) s₁ fun tr' => Q (tr ++ tr')) := by
  unfold Watch
  rw [sat_bind]
  simp only [watched, List.filter_append]

/-- A call that is watched. -/
theorem watch_call {c : C} {f : R c → Prog C R β} {s : σ} {Q : List (Event C R) → β → σ → Prop}
    (hc : keep c = true) :
    Watch M keep (Prog.perform c >>= f) s Q ↔
      ∀ r s₁, M s c r s₁ → Watch M keep (f r) s₁ fun tr => Q (⟨c, r⟩ :: tr) := by
  show Sat M (.call c f) s _ ↔ _
  rw [sat_call]
  simp only [Watch, watched, List.filter_cons, hc, if_true]

/-- One that is not. -/
theorem watch_call_of_not {c : C} {f : R c → Prog C R β} {s : σ}
    {Q : List (Event C R) → β → σ → Prop} (hc : keep c = false) :
    Watch M keep (Prog.perform c >>= f) s Q ↔ ∀ r s₁, M s c r s₁ → Watch M keep (f r) s₁ Q := by
  show Sat M (.call c f) s _ ↔ _
  rw [sat_call]
  simp only [Watch, watched, List.filter_cons, hc, Bool.false_eq_true, if_false]

theorem Watch.mono {p : Prog C R α} {s : σ} {Q Q' : List (Event C R) → α → σ → Prop}
    (h : Watch M keep p s Q) (hQ : ∀ tr a s', Q tr a s' → Q' tr a s') : Watch M keep p s Q' :=
  Sat.mono h fun tr => hQ (watched keep tr)

/-- A run none of whose calls is watched, with anything asked of the watched ones. -/
theorem Run.and_of_unwatched {p : Prog C R α} {s s' : σ} {tr : List (Event C R)} {a : α}
    (h : Run M p s tr a s') (hnone : watched keep tr = []) (Q : σ → Prop) :
    Run (fun s c r s' => M s c r s' ∧ (keep c = true → Q s')) p s tr a s' := by
  induction h with
  | done => exact .done
  | @call c k r s s₁ s' tr a hm _ ih =>
      cases hc : keep c with
      | true => simp [watched, hc] at hnone
      | false =>
          have hrest : watched keep tr = [] := by simpa [watched, hc] using hnone
          refine .call ⟨hm, fun h => ?_⟩ (ih hrest)
          rw [hc] at h
          cases h

/-- **One watched call.**  Where a run makes at most one call that is watched, what it leaves may
be fixed beforehand. -/
theorem Run.exists_leaving {γ : Type} [Inhabited γ] (g : σ → γ) {p : Prog C R α} {s s' : σ}
    {tr : List (Event C R)} {a : α} (h : Run M p s tr a s') (hone : (watched keep tr).length ≤ 1) :
    ∃ left, Run (fun s c r s' => M s c r s' ∧ (keep c = true → g s' = left)) p s tr a s' := by
  induction h with
  | done => exact ⟨default, .done⟩
  | @call c k r s s₁ s' tr a hm hrun ih =>
      cases hc : keep c with
      | true =>
          have hnone : watched keep tr = [] := by simpa [watched, hc] using hone
          exact ⟨g s₁, .call ⟨hm, fun _ => rfl⟩ (hrun.and_of_unwatched hnone _)⟩
      | false =>
          have hrest : (watched keep tr).length ≤ 1 := by simpa [watched, hc] using hone
          obtain ⟨left, hleft⟩ := ih hrest
          refine ⟨left, .call ⟨hm, fun h => ?_⟩ hleft⟩
          rw [hc] at h
          cases h

/-! ## Frames -/

/-- Every call the program can make satisfies `P`. -/
def OnlyCalls (P : C → Prop) : Prog C R α → Prop
  | .done _ => True
  | .call c k => P c ∧ ∀ r, OnlyCalls P (k r)

theorem OnlyCalls.mono {P Q : C → Prop} (hPQ : ∀ c, P c → Q c) {p : Prog C R α}
    (hp : OnlyCalls P p) : OnlyCalls Q p := by
  induction p with
  | done a => trivial
  | call c k ih => exact ⟨hPQ c hp.1, fun r => ih r (hp.2 r)⟩

theorem onlyCalls_perform {P : C → Prop} {c : C} :
    OnlyCalls P (Prog.perform c : Prog C R (R c)) ↔ P c :=
  ⟨fun h => h.1, fun h => ⟨h, fun _ => trivial⟩⟩

theorem OnlyCalls.bind {P : C → Prop} {p : Prog C R α} {f : α → Prog C R β}
    (hp : OnlyCalls P p) (hf : ∀ a, OnlyCalls P (f a)) : OnlyCalls P (p >>= f) := by
  rw [Prog.bind_eq]
  induction p with
  | done a => exact hf a
  | call c k ih => exact ⟨hp.1, fun r => ih r (hp.2 r)⟩

theorem OnlyCalls.onlyIf {P : C → Prop} {b : Prop} [Decidable b] {p : Prog C R Unit}
    (hp : b → OnlyCalls P p) : OnlyCalls P (Prog.onlyIf b p) := by
  unfold Prog.onlyIf
  split
  · next hb => exact hp hb
  · trivial

/-- A program none of whose calls is watched. -/
theorem OnlyCalls.watch {p : Prog C R α} (hp : OnlyCalls (fun c => keep c = false) p) {s : σ}
    {Q : List (Event C R) → α → σ → Prop} (hQ : ∀ a s', Q [] a s') : Watch M keep p s Q := by
  induction p generalizing s with
  | done a => exact watch_pure.mpr (hQ a s)
  | call c k ih =>
      refine sat_call.mpr fun r s₁ _ tr a s' h => ?_
      have hrest := ih r (hp.2 r) tr a s' h
      simpa [watched, hp.1] using hrest

/-- **The frame rule.**  What every call in `P` leaves as it is, every program that
makes no other calls leaves as it is; and its trace shows only calls in `P`. -/
theorem OnlyCalls.sat {γ : Type} {P : C → Prop} (g : σ → γ)
    (hstep : ∀ s c r s', P c → M s c r s' → g s' = g s) {p : Prog C R α} (hp : OnlyCalls P p)
    (s : σ) : Sat M p s (fun tr _ s' => (∀ e ∈ tr, P e.call) ∧ g s' = g s) := by
  induction p generalizing s with
  | done a => exact sat_done.mpr ⟨fun _ he => absurd he List.not_mem_nil, rfl⟩
  | call c k ih =>
      refine sat_call.mpr (fun r s₁ hm => (ih r (hp.2 r) s₁).mono ?_)
      intro tr a s' ⟨htr, hg⟩
      refine ⟨fun e he => ?_, hg.trans (hstep s c r s₁ hp.1 hm)⟩
      cases he with
      | head => exact hp.1
      | tail _ he => exact htr e he

/-- The frame rule for an invariant: the calls in `P` need only keep it where it holds. -/
theorem OnlyCalls.invariant {P : C → Prop} {I : σ → Prop}
    (hstep : ∀ s c r s', P c → I s → M s c r s' → I s') {p : Prog C R α} (hp : OnlyCalls P p)
    {s : σ} (hs : I s) : Sat M p s (fun _ _ s' => I s') := by
  induction p generalizing s with
  | done a => exact sat_done.mpr hs
  | call c k ih => exact sat_call.mpr fun r s₁ hm => ih r (hp.2 r) (hstep s c r s₁ hp.1 hs hm)

/-- **Progress.**  Where every call in `P` can be answered, a program that makes no
other calls has a run. -/
theorem OnlyCalls.exists_run {P : C → Prop} (htotal : ∀ s c, P c → ∃ r s', M s c r s')
    {p : Prog C R α} (hp : OnlyCalls P p) (s : σ) : ∃ tr a s', Run M p s tr a s' := by
  induction p generalizing s with
  | done a => exact ⟨[], a, s, .done⟩
  | call c k ih =>
      obtain ⟨r, s₁, hm⟩ := htotal s c hp.1
      obtain ⟨tr, a, s', hrun⟩ := ih r (hp.2 r) s₁
      exact ⟨⟨c, r⟩ :: tr, a, s', .call hm hrun⟩

end Runs

end Calls
