/-
# `Phases` — programs that go through phases

A protocol of calls: each call is allowed in some phases, and takes the program that makes it to
another.  The protocol is a predicate `allows q c` and a function `note q ⟨c, r⟩`, of the phase
before and the call with its answer.

| | |
| :-- | :-- |
| `Follows allows note p q Q` | started in phase `q`, the program `p` keeps to the protocol, and `Q` holds of what it returns and the phase it returns in |
| `InOrder allows note q tr` | begun in phase `q`, each call of the trace `tr` is allowed in its phase |
| `annotate note n run` | the history with a note kept beside each state |

A program follows a protocol whatever it is answered, so threads that follow one go on following it
whatever the others do (`Machine.Step.follows`).  Run alone, it keeps what its calls keep from phase to
phase (`Follows.run`).
-/
import SeamlessSmb.Lib.Threads

/-! ## Notes beside a history -/

namespace History

variable {σ ℓ ν : Type} {M : σ → ℓ → σ → Prop} {s : σ} {run : List (ℓ × σ)} {note : ν → ℓ → ν} {n : ν}

/-- The history with a note kept beside each state. -/
def annotate (note : ν → ℓ → ν) : ν → List (ℓ × σ) → List (ℓ × (σ × ν))
  | _, [] => []
  | n, (l, s) :: rest => (l, (s, note n l)) :: annotate note (note n l) rest

theorem Path.annotate (h : Path M s run) (n : ν) :
    Path (fun x l y => M x.1 l y.1 ∧ y.2 = note x.2 l) (s, n) (annotate note n run) := by
  induction h generalizing n with
  | nil => exact .nil
  | cons hm _ ih => exact .cons ⟨hm, rfl⟩ (ih _)

/-- What holds of every state holds of the last. -/
theorem Along.final {P : σ → Prop} (h : Along (fun _ _ s' => P s') s run) (hs : P s) :
    P (final s run) := by
  induction run generalizing s with
  | nil => exact hs
  | cons x rest ih => exact ih h.2 h.1

theorem Along.mono {P P' : σ → ℓ → σ → Prop} (h : Along P s run) (hP : ∀ s l s', P s l s' → P' s l s') :
    Along P' s run := by
  induction run generalizing s with
  | nil => trivial
  | cons x rest ih => exact ⟨hP _ _ _ h.1, ih h.2⟩

instance decidableAlong (P : σ → ℓ → σ → Prop) [∀ s l s', Decidable (P s l s')] :
    (s : σ) → (run : List (ℓ × σ)) → Decidable (Along P s run)
  | _, [] => isTrue trivial
  | s, (l, s') :: rest =>
      have : Decidable (Along P s' rest) := decidableAlong P s' rest
      inferInstanceAs (Decidable (P s l s' ∧ Along P s' rest))

end History

/-! ## Programs -/

namespace Calls

variable {C φ α β : Type} {R : C → Type}

/-- Started in phase `q`, the program keeps to the protocol, and `Q` holds of what it returns and the
phase it returns in. -/
def Follows (allows : φ → C → Prop) (note : φ → Event C R → φ) :
    Prog C R α → φ → (α → φ → Prop) → Prop
  | .done a, q, Q => Q a q
  | .call c k, q, Q => allows q c ∧ ∀ r, Follows allows note (k r) (note q ⟨c, r⟩) Q

variable {allows : φ → C → Prop} {note : φ → Event C R → φ} {q : φ} {Q : α → φ → Prop} {Q' : β → φ → Prop}

theorem follows_pure {a : α} : Follows allows note (pure a : Prog C R α) q Q ↔ Q a q := Iff.rfl

theorem follows_call {c : C} {f : R c → Prog C R α} :
    Follows allows note (Prog.perform c >>= f) q Q ↔
      allows q c ∧ ∀ r, Follows allows note (f r) (note q ⟨c, r⟩) Q := Iff.rfl

theorem follows_bind {p : Prog C R α} {f : α → Prog C R β}
    (h : Follows allows note p q fun a q' => Follows allows note (f a) q' Q') :
    Follows allows note (p >>= f) q Q' := by
  rw [Prog.bind_eq]
  induction p generalizing q with
  | done a => exact h
  | call c k ih => exact ⟨h.1, fun r => ih r (h.2 r)⟩

theorem Follows.mono {p : Prog C R α} {P : α → φ → Prop} (h : Follows allows note p q P)
    (hPQ : ∀ a q', P a q' → Q a q') : Follows allows note p q Q := by
  induction p generalizing q with
  | done a => exact hPQ a q h
  | call c k ih => exact ⟨h.1, fun r => ih r (h.2 r)⟩

/-- Whether something is done first or not, what comes next starts in a phase of `S`. -/
theorem follows_onlyIf_bind {b : Prop} [Decidable b] {p : Prog C R Unit} {f : Unit → Prog C R β} {S : φ → Prop}
    (hp : b → Follows allows note p q fun _ q' => S q') (hq : ¬ b → S q)
    (hf : ∀ q', S q' → Follows allows note (f ()) q' Q') :
    Follows allows note (Prog.onlyIf b p >>= f) q Q' := by
  refine follows_bind ?_
  unfold Prog.onlyIf
  split
  · next hb => exact (hp hb).mono fun _ q' hq' => hf q' hq'
  · next hb => exact hf q (hq hb)

/-- A protocol that allows more is kept to as well. -/
theorem Follows.weaken {allows' : φ → C → Prop} {p : Prog C R α} (h : Follows allows note p q Q)
    (hallow : ∀ q c, allows q c → allows' q c) : Follows allows' note p q Q := by
  induction p generalizing q with
  | done a => exact h
  | call c k ih => exact ⟨hallow q c h.1, fun r => ih r (h.2 r)⟩

/-- Calls that may be made in a phase and leave it as it is. -/
theorem follows_of_onlyCalls {P : C → Prop} {p : Prog C R α} (hp : OnlyCalls P p)
    (hstay : ∀ c, P c → allows q c ∧ ∀ r, note q ⟨c, r⟩ = q) (hQ : ∀ a, Q a q) :
    Follows allows note p q Q := by
  induction p with
  | done a => exact hQ a
  | call c k ih =>
    refine ⟨(hstay c hp.1).1, ?_⟩
    intro r
    rw [(hstay c hp.1).2 r]
    exact ih r (hp.2 r)

/-- And then something else. -/
theorem follows_onlyCalls_bind {P : C → Prop} {p : Prog C R α} {f : α → Prog C R β} (hp : OnlyCalls P p)
    (hstay : ∀ c, P c → allows q c ∧ ∀ r, note q ⟨c, r⟩ = q)
    (hf : ∀ a, Follows allows note (f a) q Q') : Follows allows note (p >>= f) q Q' :=
  follows_bind (follows_of_onlyCalls hp hstay hf)

/-- **Runs.**  What each call that is allowed keeps from one phase to the next holds at the end, in the
phase the program returns in.  The events of the run may be restricted to those in `P`. -/
theorem Follows.run {σ : Type} {M : σ → (c : C) → R c → σ → Prop} {J : φ → σ → Prop}
    {P : Event C R → Prop} {p : Prog C R α} {s s' : σ} {tr : List (Event C R)} {a : α}
    (hstep : ∀ q s c r s', allows q c → J q s → M s c r s' → P ⟨c, r⟩ → J (note q ⟨c, r⟩) s')
    (h : Follows allows note p q Q) (hs : J q s) (hrun : Run M p s tr a s') (hP : ∀ e ∈ tr, P e) :
    ∃ q', Q a q' ∧ J q' s' := by
  induction hrun generalizing q with
  | done => exact ⟨q, h, hs⟩
  | call hm hk ih =>
    have hs₁ := hstep _ _ _ _ _ h.1 hs hm (hP _ List.mem_cons_self)
    exact ih (h.2 _) hs₁ fun e he => hP e (List.mem_cons_of_mem _ he)

/-- Each call of a trace is allowed in the phase it is made in. -/
def InOrder (allows : φ → C → Prop) (note : φ → Event C R → φ) : φ → List (Event C R) → Prop
  | _, [] => True
  | q, e :: tr => allows q e.call ∧ InOrder allows note (note q e) tr

/-- **Traces.**  What a program that follows a protocol does is in order. -/
theorem Follows.inOrder {σ : Type} {M : σ → (c : C) → R c → σ → Prop} {p : Prog C R α} {s s' : σ}
    {tr : List (Event C R)} {a : α} (h : Follows allows note p q Q) (hrun : Run M p s tr a s') :
    InOrder allows note q tr ∧ Q a (tr.foldl note q) := by
  induction hrun generalizing q with
  | done => exact ⟨trivial, h⟩
  | call _ _ ih =>
    obtain ⟨horder, hQ⟩ := ih (h.2 _)
    exact ⟨⟨h.1, horder⟩, hQ⟩

/-- What each call that is allowed keeps from one phase to the next holds at the end. -/
theorem InOrder.final {σ : Type} {M : σ → (c : C) → R c → σ → Prop} {J : φ → σ → Prop}
    {p : Prog C R α} {s s' : σ} {tr : List (Event C R)} {a : α}
    (hstep : ∀ q s c r s', allows q c → J q s → M s c r s' → J (note q ⟨c, r⟩) s')
    (h : InOrder allows note q tr) (hs : J q s) (hrun : Run M p s tr a s') :
    J (tr.foldl note q) s' := by
  induction hrun generalizing q with
  | done => exact hs
  | call hm _ ih => exact ih h.2 (hstep _ _ _ _ _ h.1 hs hm)

/-! ## Threads -/

/-- **A step.**  The thread that moves makes a call of its phase, and all go on following the
protocol. -/
theorem Machine.Step.follows {ι L σ : Type} {α : ι → Type} [DecidableEq ι] {m : Machine C R L σ}
    {Q : φ → Prop} {s s' : Pool C R L σ α} {i : ι} {e : Event C R} {phase : ι → φ} (h : m.Step s (i, e) s')
    (hs : ∀ j, Follows allows note (s.threads j).2 (phase j) fun _ => Q) :
    allows (phase i) e.call ∧ ∀ j, Follows allows note (s'.threads j).2
      (Function.update phase i (note (phase i) e) j) fun _ => Q := by
  obtain ⟨l, k, hi, -, hself, hother⟩ := h.inv
  have hfollows := hs i
  rw [hi] at hfollows
  refine ⟨hfollows.1, ?_⟩
  intro j
  by_cases hji : j = i
  · subst hji
    rw [hself, Function.update_self]
    exact hfollows.2 e.answer
  · rw [hother j hji, Function.update_of_ne hji]
    exact hs j

end Calls
