/-
# `Codec` — writing values to a stream and reading them back

A reader takes symbols off the front of a stream and gives back a value and the rest
(`Input`); it fails where the stream ends too early.  `Reads p bs a` says that `p` takes
exactly `bs` and makes `a` of it, whatever follows; it composes like the reader does.

A reader that looks no further than it reads (`Stops`) cannot tell what lies behind.  So
if it reads a value out of `bs`, it fails on everything `bs` continues: there is no way
to read less (`Reads.short`).

| | |
| :-- | :-- |
| `Input B α` | a reader of `α` from a stream over `B` |
| `many p n` | `n` values, one after the other |
| `Codec B α` | a writer and a reader of `α` that fit together |
| `imap`, `pair`, `list` | codecs made of codecs |
| `littleEndian k`, `bigEndian k` | words of `k` bytes |
| `tally`, `escape` | numbers |
-/
import Mathlib.Data.List.Basic
import Mathlib.Logic.Basic

namespace Stream

variable {B α β : Type}

/-- A reader. -/
abbrev Input (B : Type) := StateT (List B) Option

/-- `p` takes `bs` and makes `a` of it. -/
def Reads (p : Input B α) (bs : List B) (a : α) : Prop := ∀ rest, p.run (bs ++ rest) = some (a, rest)

/-- `p` does not look behind what it reads. -/
def Stops (p : Input B α) : Prop := ∀ s a r t, p.run s = some (a, r) → p.run (s ++ t) = some (a, r ++ t)

/-! ## Reading in sequence -/

theorem run_bind_eq_some {p : Input B α} {f : α → Input B β} {s r : List B} {b : β} :
    (p >>= f).run s = some (b, r) ↔ ∃ a s', p.run s = some (a, s') ∧ (f a).run s' = some (b, r) := by
  simp only [StateT.run_bind, Option.bind_eq_bind, Option.bind_eq_some_iff, Prod.exists]

theorem reads_pure {a : α} : Reads (pure a : Input B α) [] a := fun _ => rfl

theorem Reads.bind {p : Input B α} {f : α → Input B β} {bs cs : List B} {a : α} {b : β}
    (hp : Reads p bs a) (hf : Reads (f a) cs b) : Reads (p >>= f) (bs ++ cs) b := by
  intro rest
  refine run_bind_eq_some.mpr ⟨a, cs ++ rest, ?_, hf rest⟩
  rw [List.append_assoc]
  exact hp (cs ++ rest)

/-- A last step that reads nothing. -/
theorem Reads.map {p : Input B α} {f : α → β} {bs : List B} {a : α} (hp : Reads p bs a) :
    Reads (p >>= fun a => pure (f a)) bs (f a) := by
  have h := hp.bind (f := fun a => pure (f a)) reads_pure
  rw [List.append_nil] at h
  exact h

theorem stops_pure {a : α} : Stops (pure a : Input B α) := by
  intro s b r t h
  cases h
  rfl

theorem stops_failure : Stops (failure : Input B α) := by
  intro s a r t h
  cases h

theorem Stops.bind {p : Input B α} {f : α → Input B β} (hp : Stops p) (hf : ∀ a, Stops (f a)) :
    Stops (p >>= f) := by
  intro s b r t h
  obtain ⟨a, s', hps, hfs⟩ := run_bind_eq_some.mp h
  exact run_bind_eq_some.mpr ⟨a, s' ++ t, hp s a s' t hps, hf a s' b r t hfs⟩

/-- **A short stream.**  What is missing at the end is noticed. -/
theorem Reads.short {p : Input B α} {bs s : List B} {a : α} (hp : Reads p bs a) (hstop : Stops p)
    (hs : s <+: bs) (hne : s ≠ bs) : p.run s = none := by
  obtain ⟨t, rfl⟩ := hs
  cases hrun : p.run s with
  | none => rfl
  | some x =>
      obtain ⟨b, r⟩ := x
      have hlong := hstop s b r t hrun
      have hall := hp []
      rw [List.append_nil, hlong] at hall
      have hrest : r ++ t = [] := congrArg Prod.snd (Option.some.inj hall)
      rw [(List.append_eq_nil_iff.mp hrest).2, List.append_nil] at hne
      exact absurd rfl hne

/-! ## Loops -/

/-- `n` values. -/
def many (p : Input B α) : Nat → Input B (List α)
  | 0 => pure []
  | n + 1 => do
      let a ← p
      let as ← many p n
      pure (a :: as)

theorem reads_many {p : Input B α} {save : α → List B} (h : ∀ a, Reads p (save a) a) (as : List α) :
    Reads (many p as.length) (as.flatMap save) as := by
  induction as with
  | nil => exact reads_pure
  | cons a as ih =>
      have htail : Reads (many p as.length >>= fun as => pure (a :: as)) (as.flatMap save) (a :: as) :=
        ih.map
      exact (h a).bind htail

theorem stops_many {p : Input B α} (h : Stops p) {n : Nat} : Stops (many p n) := by
  induction n with
  | zero => exact stops_pure
  | succ n ih => exact h.bind fun _ => ih.bind fun _ => stops_pure

/-! ## Codecs -/

/-- A writer and a reader that fit together. -/
structure Codec (B α : Type) where
  save : α → List B
  load : Input B α
  reads : ∀ a, Reads load (save a) a
  stops : Stops load

namespace Codec

/-- Values that are written as others; what stands for none of them is not read. -/
def imap (c : Codec B α) (f : α → Option β) (g : β → α) (h : ∀ b, f (g b) = some b) : Codec B β where
  save b := c.save (g b)
  load := do
    let a ← c.load
    match f a with
    | some b => pure b
    | none => failure
  reads b := by
    rw [← List.append_nil (c.save _)]
    refine (c.reads (g b)).bind ?_
    rw [h]
    exact reads_pure
  stops := by
    refine c.stops.bind fun a => ?_
    cases f a with
    | some b => exact stops_pure
    | none => exact stops_failure

/-- One value after the other. -/
def pair (c : Codec B α) (d : Codec B β) : Codec B (α × β) where
  save x := c.save x.1 ++ d.save x.2
  load := do
    let a ← c.load
    let b ← d.load
    pure (a, b)
  reads x := (c.reads x.1).bind (d.reads x.2).map
  stops := c.stops.bind fun _ => d.stops.bind fun _ => stops_pure

/-- A number of values, with the number in front. -/
def list (count : Codec B Nat) (c : Codec B α) : Codec B (List α) where
  save as := count.save as.length ++ as.flatMap c.save
  load := do
    let n ← count.load
    many c.load n
  reads as := (count.reads as.length).bind (reads_many c.reads as)
  stops := count.stops.bind fun _ => stops_many c.stops

/-- One symbol. -/
def symbol : Codec B B where
  save b := [b]
  load
    | [] => none
    | b :: s => some (b, s)
  reads _ _ := rfl
  stops := by
    intro s a r t h
    cases s with
    | nil => cases h
    | cons b s =>
        cases h
        rfl

/-- The reader of `tally`. -/
def tallyLoad [DecidableEq B] (stop : B) : List B → Option (Nat × List B)
  | [] => none
  | b :: s => if b = stop then some (0, s) else (tallyLoad stop s).map fun x => (x.1 + 1, x.2)

/-- A number, as so many marks and a stop. -/
def tally [DecidableEq B] (mark stop : B) (h : mark ≠ stop) : Codec B Nat where
  save n := List.replicate n mark ++ [stop]
  load := tallyLoad stop
  reads n := by
    intro rest
    show tallyLoad stop (List.replicate n mark ++ [stop] ++ rest) = some (n, rest)
    induction n with
    | zero => simp [tallyLoad]
    | succ n ih =>
        rw [List.replicate_succ, List.cons_append, List.cons_append, tallyLoad, if_neg h, ih]
        rfl
  stops := by
    intro s n r t hrun
    change tallyLoad stop s = some (n, r) at hrun
    show tallyLoad stop (s ++ t) = some (n, r ++ t)
    induction s generalizing n with
    | nil => cases hrun
    | cons b s ih =>
        rw [List.cons_append, tallyLoad]
        rw [tallyLoad] at hrun
        split at hrun
        · next hb =>
            cases hrun
            rw [if_pos hb]
        · next hb =>
            obtain ⟨⟨k, r'⟩, hk, he⟩ := Option.map_eq_some_iff.mp hrun
            cases he
            rw [if_neg hb, ih k hk]
            rfl

theorem append_setWidth {w : Nat} {b : BitVec (w + 8)} :
    (b >>> 8).setWidth w ++ b.setWidth 8 = b := by
  ext i hi
  rw [BitVec.getElem_append]
  split
  · next h => rw [BitVec.getElem_setWidth, BitVec.getLsbD_eq_getElem hi]
  · next h =>
      rw [BitVec.getElem_setWidth, BitVec.getLsbD_ushiftRight, Nat.add_sub_cancel' (by omega),
        BitVec.getLsbD_eq_getElem hi]

/-- A word of `k` bytes, the lowest first. -/
def littleEndian : (k : Nat) → Codec (BitVec 8) (BitVec (8 * k))
  | 0 =>
    { save := fun _ => []
      load := pure 0
      reads := fun b rest => by
        rw [BitVec.of_length_zero (x := b)]
        rfl
      stops := stops_pure }
  | k + 1 =>
    (pair symbol (littleEndian k)).imap (fun x => some (x.2 ++ x.1))
      (fun b => (b.setWidth 8, (b >>> 8).setWidth (8 * k))) fun _ => congrArg some append_setWidth

theorem length_littleEndian {k : Nat} {b : BitVec (8 * k)} : ((littleEndian k).save b).length = k := by
  induction k with
  | zero => rfl
  | succ k ih => exact congrArg (· + 1) ih

theorem save_littleEndian_zero {k : Nat} : (littleEndian k).save 0 = List.replicate k 0 := by
  induction k with
  | zero => rfl
  | succ k ih =>
      show (0#(8 * k + 8)).setWidth 8 :: (littleEndian k).save ((0#(8 * k + 8) >>> 8).setWidth (8 * k)) = _
      rw [BitVec.zero_ushiftRight, BitVec.setWidth_zero, BitVec.setWidth_zero, List.replicate_succ]
      exact congrArg _ ih

/-- A word of `k` bytes, the highest first. -/
def bigEndian : (k : Nat) → Codec (BitVec 8) (BitVec (8 * k))
  | 0 =>
    { save := fun _ => []
      load := pure 0
      reads := fun b rest => by
        rw [BitVec.of_length_zero (x := b)]
        rfl
      stops := stops_pure }
  | k + 1 =>
    (pair (bigEndian k) symbol).imap (fun x => some (x.1 ++ x.2))
      (fun b => ((b >>> 8).setWidth (8 * k), b.setWidth 8)) fun _ => congrArg some append_setWidth

/-- A number as a word; the last word stands for all numbers that do not fit, which
follow in full. -/
def escape {w : Nat} (c : Codec B (BitVec w)) (long : Codec B Nat) : Codec B Nat where
  save n :=
    if n < (BitVec.allOnes w).toNat then c.save (BitVec.ofNat w n) else c.save (BitVec.allOnes w) ++ long.save n
  load := do
    let b ← c.load
    if b = BitVec.allOnes w then long.load else pure b.toNat
  reads n := by
    split
    · next h =>
        have hn : (BitVec.ofNat w n).toNat = n :=
          Nat.mod_eq_of_lt (Nat.lt_trans h (BitVec.allOnes w).isLt)
        have hne : BitVec.ofNat w n ≠ BitVec.allOnes w := by
          intro he
          rw [← he, hn] at h
          exact Nat.lt_irrefl n h
        rw [← List.append_nil (c.save _)]
        refine (c.reads (BitVec.ofNat w n)).bind ?_
        rw [if_neg hne, hn]
        exact reads_pure
    · refine (c.reads (BitVec.allOnes w)).bind ?_
      rw [if_pos rfl]
      exact long.reads n
  stops := by
    refine c.stops.bind fun b => ?_
    split
    · exact long.stops
    · exact stops_pure

end Codec

end Stream
