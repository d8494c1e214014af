/-
# `Threads` — any number of programs on one state

Programs run side by side, one call at a time and in any order.  A pool holds what each
thread still has to do, a state of its own (`install` puts it in place for a call, `save`
takes it out), and the state all share.

| | |
| :-- | :-- |
| `m.Step s (i, e) s'` | thread `i` makes the call `e` |
| `m.Ensures P p l Q` | whatever the others do in between, `p` makes calls in `P` only and returns in `Q` |
| `m.Atomic P see Cond E p l` | `p` leaves alone what is seen, but for one call, which has the effect `E` |

The last two look at the calls of one thread, with the shared state arbitrary before each:
they are triples that no other thread can break.

**Proved here:** threads that take effect in one call each come out as the effects
one after the other, in some order (`Machine.serial`).  A thread whose part of the state the others leave
alone does what it does by itself (`Machine.exists_run_alone`).
-/
import SeamlessSmb.Lib.Calls
import SeamlessSmb.Lib.History
import Mathlib.Logic.Function.Basic
import Mathlib.Data.List.Nodup

namespace Calls

open History

/-- What a call does, on the shared state with a thread's own put in place. -/
structure Machine (C : Type) (R : C → Type) (L σ : Type) where
  answers : σ → (c : C) → R c → σ → Prop
  install : L → σ → σ
  save : σ → L

/-- Threads, and what they share. -/
structure Pool {ι : Type} (C : Type) (R : C → Type) (L σ : Type) (α : ι → Type) where
  threads : (i : ι) → L × Prog C R (α i)
  shared : σ

/-- The calls of thread `i` in a history. -/
def ownCalls {ι C τ : Type} {R : C → Type} [DecidableEq ι] (i : ι) :
    List ((ι × Event C R) × τ) → List (Event C R)
  | [] => []
  | ((j, e), _) :: rest => if j = i then e :: ownCalls i rest else ownCalls i rest

/-- One effect after the other. -/
inductive Serial {ι γ : Type} (E : ι → γ → γ → Prop) : γ → List ι → γ → Prop
  | nil {c : γ} : Serial E c [] c
  | cons {i : ι} {c c' d : γ} {order : List ι} :
      E i c c' → Serial E c' order d → Serial E c (i :: order) d

namespace Machine

variable {ι C : Type} {R : C → Type} {L σ β δ γ : Type} {α : ι → Type}

/-- One of the threads makes a call. -/
inductive Step [DecidableEq ι] (m : Machine C R L σ) :
    Pool C R L σ α → ι × Event C R → Pool C R L σ α → Prop
  | call {s : Pool C R L σ α} {i : ι} {l : L} {c : C} {k : R c → Prog C R (α i)} {r : R c} {t : σ} :
      s.threads i = (l, .call c k) → m.answers (m.install l s.shared) c r t →
      Step m s (i, ⟨c, r⟩) ⟨Function.update s.threads i (m.save t, k r), t⟩

/-- Whatever the others do in between, `p` makes calls in `P` only and returns in `Q`. -/
def Ensures (m : Machine C R L σ) (P : C → Prop) : Prog C R β → L → (β → L → Prop) → Prop
  | .done a, l, Q => Q a l
  | .call c k, l, Q =>
      P c ∧ ∀ r s t, m.answers (m.install l s) c r t → Ensures m P (k r) (m.save t) Q

/-- Whatever the others do in between, `p` leaves alone what is seen, but for one call.
That one has the effect `E` of the value returned.  Calls for which `Cond` fails are of no
account. -/
def Atomic (m : Machine C R L σ) (P : C → Prop) (see : σ → γ) (Cond : σ → (c : C) → R c → Prop)
    (E : β → γ → γ → Prop) : Prog C R β → L → Prop
  | .done _, _ => False
  | .call c k, l =>
      ∀ r s t, m.answers (m.install l s) c r t → Cond s c r →
        (see t = see s ∧ Atomic m P see Cond E (k r) (m.save t)) ∨
          ∃ a, E a (see s) (see t) ∧ m.Ensures P (k r) (m.save t) fun b _ => b = a

/-! ## The triples -/

section

variable {m : Machine C R L σ} {P : C → Prop} {see : σ → γ} {Cond : σ → (c : C) → R c → Prop}
  {E : β → γ → γ → Prop} {l : L}

theorem ensures_pure {a : β} {Q : β → L → Prop} : m.Ensures P (pure a) l Q ↔ Q a l := Iff.rfl

theorem ensures_call {c : C} {f : R c → Prog C R β} {Q : β → L → Prop} :
    m.Ensures P (Prog.perform c >>= f) l Q ↔
      P c ∧ ∀ r s t, m.answers (m.install l s) c r t → m.Ensures P (f r) (m.save t) Q := Iff.rfl

theorem ensures_bind {p : Prog C R δ} {f : δ → Prog C R β} {Q : β → L → Prop}
    (h : m.Ensures P p l fun a l' => m.Ensures P (f a) l' Q) : m.Ensures P (p >>= f) l Q := by
  rw [Prog.bind_eq]
  induction p generalizing l with
  | done a => exact h
  | call c k ih => exact ⟨h.1, fun r s t hc => ih r (h.2 r s t hc)⟩

theorem Ensures.mono {p : Prog C R β} {Q Q' : β → L → Prop} (h : m.Ensures P p l Q)
    (hQ : ∀ a l', Q a l' → Q' a l') : m.Ensures P p l Q' := by
  induction p generalizing l with
  | done a => exact hQ a l h
  | call c k ih => exact ⟨h.1, fun r s t hc => ih r (h.2 r s t hc)⟩

/-- A program of quiet calls. -/
theorem ensures_of_onlyCalls {p : Prog C R β} (hp : OnlyCalls P p) {Q : β → L → Prop}
    (hQ : ∀ a l', Q a l') : m.Ensures P p l Q := by
  induction p generalizing l with
  | done a => exact hQ a l
  | call c k ih => exact ⟨hp.1, fun r s t _ => ih r (hp.2 r)⟩

theorem atomic_call {c : C} {f : R c → Prog C R β} :
    m.Atomic P see Cond E (Prog.perform c >>= f) l ↔
      ∀ r s t, m.answers (m.install l s) c r t → Cond s c r →
        (see t = see s ∧ m.Atomic P see Cond E (f r) (m.save t)) ∨
          ∃ a, E a (see s) (see t) ∧ m.Ensures P (f r) (m.save t) fun b _ => b = a := Iff.rfl

/-- Quiet calls come before the effect. -/
theorem atomic_bind (hquiet : ∀ l s c r t, P c → m.answers (m.install l s) c r t → see t = see s)
    {p : Prog C R δ} {f : δ → Prog C R β}
    (h : m.Ensures P p l fun a l' => m.Atomic P see Cond E (f a) l') :
    m.Atomic P see Cond E (p >>= f) l := by
  rw [Prog.bind_eq]
  induction p generalizing l with
  | done a => exact h
  | call c k ih =>
      exact fun r s t hc _ => .inl ⟨hquiet l s c r t h.1 hc, ih r (h.2 r s t hc)⟩

end

/-! ## Along a history of the pool -/

section

variable [DecidableEq ι] {m : Machine C R L σ} {P : C → Prop} {s s' : Pool C R L σ α}
  {run : List ((ι × Event C R) × Pool C R L σ α)}

/-- What a step does: one thread goes on with the answer it got. -/
theorem Step.inv {i : ι} {e : Event C R} (h : m.Step s (i, e) s') :
    ∃ l k, s.threads i = (l, .call e.call k) ∧
      m.answers (m.install l s.shared) e.call e.answer s'.shared ∧
      s'.threads i = (m.save s'.shared, k e.answer) ∧ ∀ j, j ≠ i → s'.threads j = s.threads j := by
  cases h with
  | @call _ l c k r t hi hc =>
      exact ⟨l, k, hi, hc, Function.update_self .., fun j hj => Function.update_of_ne hj ..⟩

theorem Step.ensures {e : ι × Event C R} {i : ι} {Q : α i → L → Prop} (h : m.Step s e s')
    (hi : m.Ensures P (s.threads i).2 (s.threads i).1 Q) :
    m.Ensures P (s'.threads i).2 (s'.threads i).1 Q := by
  obtain ⟨j, e⟩ := e
  obtain ⟨l, k, hj, hc, hself, hother⟩ := h.inv
  by_cases hij : i = j
  · subst hij
    rw [hj] at hi
    rw [hself]
    exact hi.2 e.answer s.shared s'.shared hc
  · rw [hother i hij]
    exact hi

/-- A triple of one thread survives whatever the others do. -/
theorem ensures_final {i : ι} {Q : α i → L → Prop} (h : Path m.Step s run)
    (hi : m.Ensures P (s.threads i).2 (s.threads i).1 Q) :
    m.Ensures P ((final s run).threads i).2 ((final s run).threads i).1 Q := by
  induction h with
  | nil => exact hi
  | cons hm _ ih => exact ih (hm.ensures hi)

section

variable {see : σ → γ} {Cond : ι → σ → (c : C) → R c → Prop} {E : (i : ι) → α i → γ → γ → Prop}
  {pending : ι → Prop}

/-- The pending threads still have their effect before them, the others have none. -/
structure Standing (m : Machine C R L σ) (P : C → Prop) (see : σ → γ)
    (Cond : ι → σ → (c : C) → R c → Prop) (E : (i : ι) → α i → γ → γ → Prop) (pending : ι → Prop)
    (s : Pool C R L σ α) : Prop where
  ahead : ∀ i, pending i → m.Atomic P see (Cond i) (E i) (s.threads i).2 (s.threads i).1
  quiet : ∀ i, ¬ pending i → m.Ensures P (s.threads i).2 (s.threads i).1 fun _ _ => True

/-- **A step.**  It leaves alone what is seen, or it is the effect of a pending thread, which
will return what the effect is of. -/
theorem Step.standing
    (hquiet : ∀ l s c r t, P c → m.answers (m.install l s) c r t → see t = see s)
    {i : ι} {e : Event C R} (h : m.Step s (i, e) s') (hcond : Cond i s.shared e.call e.answer)
    (hs : m.Standing P see Cond E pending s) :
    (see s'.shared = see s.shared ∧ m.Standing P see Cond E pending s') ∨
      pending i ∧ ∃ a, E i a (see s.shared) (see s'.shared) ∧
        m.Standing P see Cond E (fun j => pending j ∧ j ≠ i) s' ∧
        m.Ensures P (s'.threads i).2 (s'.threads i).1 fun b _ => b = a := by
  have hensures : ∀ j, ¬ pending j → m.Ensures P (s'.threads j).2 (s'.threads j).1 fun _ _ => True :=
    fun j hj => h.ensures (hs.quiet j hj)
  obtain ⟨l, k, hi, hc, hself, hother⟩ := h.inv
  by_cases hp : pending i
  · have hatomic := hs.ahead i hp
    rw [hi] at hatomic
    cases hatomic e.answer s.shared s'.shared hc hcond with
    | inl hstill =>
        refine .inl ⟨hstill.1, fun j hj => ?_, hensures⟩
        by_cases hji : j = i
        · subst hji
          rw [hself]
          exact hstill.2
        · rw [hother j hji]
          exact hs.ahead j hj
    | inr htakes =>
        obtain ⟨a, heffect, hk⟩ := htakes
        refine .inr ⟨hp, a, heffect, ⟨fun j hj => ?_, fun j hj => ?_⟩, ?_⟩
        · rw [hother j hj.2]
          exact hs.ahead j hj.1
        · by_cases hji : j = i
          · subst hji
            rw [hself]
            exact hk.mono fun _ _ _ => trivial
          · exact hensures j fun h => hj ⟨h, hji⟩
        · rw [hself]
          exact hk
  · have hcall := hs.quiet i hp
    rw [hi] at hcall
    refine .inl ⟨hquiet l _ _ _ _ hcall.1 hc, fun j hj => ?_, hensures⟩
    rw [hother j fun h => hp (h ▸ hj)]
    exact hs.ahead j hj

/-- **One after the other.**  Threads that take effect in one call each, beside others that
leave alone what is seen, come out as the effects one after the other do, in some order; and
each effect is there when its thread makes one of its calls. -/
theorem serial (hquiet : ∀ l s c r t, P c → m.answers (m.install l s) c r t → see t = see s)
    (h : Path m.Step s run)
    (hcond : Along (fun s e _ => Cond e.1 s.shared e.2.call e.2.answer) s run)
    {res : (i : ι) → α i} (hdone : ∀ i, ((final s run).threads i).2 = .done (res i))
    (hs : m.Standing P see Cond E pending s) :
    ∃ order : List ι, order.Nodup ∧ (∀ i, i ∈ order ↔ pending i) ∧
      Serial (fun i => E i (res i)) (see s.shared) order (see (final s run).shared) ∧
      ∀ i, pending i → ∃ x ∈ moves s run,
        x.2.1.1 = i ∧ E i (res i) (see x.1.shared) (see x.2.2.shared) := by
  induction h generalizing pending with
  | @nil s =>
      have hnone : ∀ i, ¬ pending i := by
        intro i hi
        have hatomic := hs.ahead i hi
        rw [show (s.threads i).2 = .done (res i) from hdone i] at hatomic
        exact hatomic
      exact ⟨[], List.nodup_nil, fun i => iff_of_false List.not_mem_nil (hnone i), .nil,
        fun i hi => absurd hi (hnone i)⟩
  | @cons s s' e rest hm hrest ih =>
      obtain ⟨i, e⟩ := e
      cases hm.standing hquiet hcond.1 hs with
      | inl hstill =>
          obtain ⟨hsee, hs'⟩ := hstill
          obtain ⟨order, hnodup, hmem, hserial, hmoves⟩ := ih hcond.2 hdone hs'
          refine ⟨order, hnodup, hmem, hsee ▸ hserial, fun j hj => ?_⟩
          obtain ⟨x, hx, hxj⟩ := hmoves j hj
          exact ⟨x, List.mem_cons_of_mem _ hx, hxj⟩
      | inr htakes =>
          obtain ⟨hp, a, heffect, hs', hreturns⟩ := htakes
          have hresult : res i = a := by
            have hend := ensures_final hrest hreturns
            rw [show ((final s' rest).threads i).2 = .done (res i) from hdone i] at hend
            exact hend
          subst hresult
          obtain ⟨order, hnodup, hmem, hserial, hmoves⟩ := ih hcond.2 hdone hs'
          refine ⟨i :: order, List.nodup_cons.mpr ⟨fun h => ((hmem i).mp h).2 rfl, hnodup⟩,
            fun j => ?_, .cons heffect hserial, fun j hj => ?_⟩
          · rw [List.mem_cons, hmem]
            by_cases hji : j = i
            · exact iff_of_true (.inl hji) (hji ▸ hp)
            · simp only [hji, false_or, ne_eq, not_false_eq_true, and_true]
          · by_cases hji : j = i
            · subst hji
              exact ⟨_, List.mem_cons_self, rfl, heffect⟩
            · obtain ⟨x, hx, hxj⟩ := hmoves j ⟨hj, hji⟩
              exact ⟨x, List.mem_cons_of_mem _ hx, hxj⟩

end

/-! ## One thread by itself -/

section

variable {i j : ι} {e : Event C R}

theorem ownCalls_self {τ : Type} {t : τ} {rest : List ((ι × Event C R) × τ)} (h : j = i) :
    ownCalls i (((j, e), t) :: rest) = e :: ownCalls i rest := if_pos h

theorem ownCalls_of_ne {τ : Type} {t : τ} {rest : List ((ι × Event C R) × τ)} (h : j ≠ i) :
    ownCalls i (((j, e), t) :: rest) = ownCalls i rest := if_neg h

/-- **By itself.**  `Sim tr s u` says how a state `u` of a system in which thread `i` is alone goes with the
pool `s`, where `tr` is what the thread will have done.  If each of its calls can be made there with the same
answer, and the others leave this alone, then the thread does there what it does in the pool. -/
theorem exists_run_alone {τ : Type} {M : τ → (c : C) → R c → τ → Prop}
    (Sim : List (Event C R) → Pool C R L σ α → τ → Prop)
    (hown : ∀ s e s' tr u, m.Step s (i, e) s' → Sim (e :: tr) s u →
      ∃ u', M u e.call e.answer u' ∧ Sim tr s' u')
    (hothers : ∀ s j e s' tr u, j ≠ i → m.Step s (j, e) s' → Sim tr s u → Sim tr s' u)
    (h : Path m.Step s run) {u : τ} (hsim : Sim (ownCalls i run) s u) {a : α i}
    (hdone : ((final s run).threads i).2 = .done a) :
    ∃ u', Run M (s.threads i).2 u (ownCalls i run) a u' ∧ Sim [] (final s run) u' := by
  induction h generalizing u with
  | @nil s =>
      have hs : (s.threads i).2 = .done a := hdone
      rw [hs]
      exact ⟨u, .done, hsim⟩
  | @cons s s' l rest hm _ ih =>
      obtain ⟨j, e⟩ := l
      by_cases hji : j = i
      · subst hji
        rw [ownCalls_self rfl] at hsim ⊢
        obtain ⟨u', hcall, hsim'⟩ := hown _ _ _ _ _ hm hsim
        obtain ⟨u'', hrest, hend⟩ := ih hsim' hdone
        obtain ⟨l, k, hi, -, hself, -⟩ := hm.inv
        rw [hself] at hrest
        rw [hi]
        exact ⟨u'', .call hcall hrest, hend⟩
      · rw [ownCalls_of_ne hji] at hsim ⊢
        obtain ⟨l, k, -, -, -, hother⟩ := hm.inv
        rw [← hother i (Ne.symm hji)]
        exact ih (hothers _ _ _ _ _ _ hji hm hsim) hdone

end

/-! ## Playing a schedule -/

/-- The history in which the threads move in the order of the schedule and every call gets the
answer set down for it.  It stops where there is none. -/
def play (m : Machine C R L σ) (reply : σ → (c : C) → Option (R c × σ)) :
    Pool C R L σ α → List ι → List ((ι × Event C R) × Pool C R L σ α)
  | _, [] => []
  | s, i :: schedule =>
      match s.threads i with
      | (_, .done _) => play m reply s schedule
      | (l, .call c k) =>
          match reply (m.install l s.shared) c with
          | none => []
          | some (r, t) =>
              ((i, ⟨c, r⟩), ⟨Function.update s.threads i (m.save t, k r), t⟩) ::
                play m reply ⟨Function.update s.threads i (m.save t, k r), t⟩ schedule

theorem path_play {reply : σ → (c : C) → Option (R c × σ)}
    (hreply : ∀ s c r t, reply s c = some (r, t) → m.answers s c r t) {schedule : List ι} :
    Path m.Step s (play m reply s schedule) := by
  induction schedule generalizing s with
  | nil => exact .nil
  | cons i schedule ih =>
      unfold play
      split
      · exact ih
      · next l c k hi =>
          split
          · exact .nil
          · next r t hr => exact .cons (.call hi (hreply _ _ _ _ hr)) ih

end

end Machine

end Calls
