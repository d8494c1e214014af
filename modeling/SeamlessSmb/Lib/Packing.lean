/-
# `Packing` — a record with a header and its parts behind it

A record is a block of bytes.  For each of its parts the header has a word of four bytes that says
where the part lies, counted from the beginning of the record; zero there stands for no part.
The parts are put in one after the other, each with its word.

| | |
| :-- | :-- |
| `load`, `store` | a word of `k` bytes in a block, the lowest first |
| `Header ι` | where the words of the parts stand, and how long the header is |
| `Layout ι` | where the parts lie, and what they are |
| `Packed h align m dest lay` | the record `m` has been filled up to `dest` |
| `Sized` | a kind of parts that begin with their size, and `cut` off at it |

A part that is put in at the end leaves a record that is packed (`Packed.place`), and the rest of
the header as it was (`load_of_place`).  A part that tells its size is found again wherever it has
been put (`Sized.cut_of_read`).
-/
import Mathlib.Logic.Function.Basic
import SeamlessSmb.Lib.Block
import SeamlessSmb.Lib.Codec

namespace Packing

open Stream

abbrev Bytes := List (BitVec 8)

/-! ## Words -/

variable {k l : ℕ} {m m' m'' : Bytes} {a c dest dest' : ℕ}

/-- The word of `k` bytes at `a`. -/
def load (k : ℕ) (m : Bytes) (a : ℕ) : Option (BitVec (8 * k)) := do
  let bytes ← Block.read m a k
  let (w, _) ← (Codec.littleEndian k).load.run bytes
  some w

/-- The word goes to the `k` bytes from `a` on. -/
def store (k : ℕ) (m : Bytes) (a : ℕ) (w : BitVec (8 * k)) : Option Bytes :=
  Block.write m a ((Codec.littleEndian k).save w)

theorem length_of_store {w : BitVec (8 * k)} (h : store k m a w = some m') : m'.length = m.length :=
  Block.length_of_write h

theorem exists_store {w : BitVec (8 * k)} (h : Block.Within a k m.length) :
    ∃ m', store k m a w = some m' := by
  refine Block.exists_write ?_
  rw [Codec.length_littleEndian]
  exact h

theorem load_of_read {w : BitVec (8 * k)} (h : Block.read m a k = some ((Codec.littleEndian k).save w)) :
    load k m a = some w := by
  have hload := (Codec.littleEndian k).reads w []
  rw [List.append_nil] at hload
  unfold load
  rw [h]
  show (do let (w, _) ← (Codec.littleEndian k).load.run ((Codec.littleEndian k).save w); some w) = some w
  rw [hload]
  rfl

/-- **What was stored** is loaded. -/
theorem load_of_store {w : BitVec (8 * k)} (h : store k m a w = some m') : load k m' a = some w := by
  have hread := Block.read_of_write h
  rw [Codec.length_littleEndian] at hread
  exact load_of_read hread

/-- Among zeros there is a zero. -/
theorem load_of_zeros {n : ℕ} (h : Block.read m 0 n = some (List.replicate n 0))
    (hin : Block.Within a k n) : load k m a = some 0 := by
  have hread := Block.read_of_read h hin
  have hall : ((List.replicate n (0 : BitVec 8)).drop a).take k = List.replicate k 0 := by
    unfold Block.Within at hin
    rw [List.drop_replicate, List.take_replicate, Nat.min_eq_left (by omega)]
  rw [Nat.zero_add, hall] at hread
  refine load_of_read ?_
  rw [Codec.save_littleEndian_zero]
  exact hread

theorem load_of_write_apart {xs : Bytes} (h : Block.write m a xs = some m')
    (hapart : Block.Apart a xs.length c k) : load k m' c = load k m c := by
  unfold load
  rw [Block.read_of_write_apart h hapart]

theorem load_of_store_apart {w : BitVec (8 * l)} (h : store l m a w = some m')
    (hapart : Block.Apart a l c k) : load k m' c = load k m c := by
  refine load_of_write_apart h ?_
  rw [Codec.length_littleEndian]
  exact hapart

theorem read_of_store_apart {n : ℕ} {w : BitVec (8 * l)} (h : store l m a w = some m')
    (hapart : Block.Apart a l c n) : Block.read m' c n = Block.read m c n := by
  refine Block.read_of_write_apart h ?_
  rw [Codec.length_littleEndian]
  exact hapart

theorem load_take {n : ℕ} (h : a + k ≤ n) : load k (m.take n) a = load k m a := by
  unfold load
  rw [Block.read_take h]

/-! ## Records -/

/-- Where the word of each part stands. -/
structure Header (ι : Type) where
  field : ι → ℕ
  size : ℕ
  within : ∀ i, Block.Within (field i) 4 size
  apart : ∀ i j, i ≠ j → Block.Apart (field i) 4 (field j) 4

/-- Where each part lies, and its bytes. -/
abbrev Layout (ι : Type) := ι → Option (ℕ × Bytes)

variable {ι : Type} {h : Header ι} {align : ℕ} {lay : Layout ι} {i : ι} {part : Bytes}

/-- The word of a part. -/
def Layout.offset (lay : Layout ι) (i : ι) : BitVec 32 :=
  match lay i with
  | none => 0
  | some (a, _) => BitVec.ofNat 32 a

/-- A part lies where its word says, behind the header and before `dest`, on a boundary and
apart from the others. -/
structure Packed (h : Header ι) (align : ℕ) (m : Bytes) (dest : ℕ) (lay : Layout ι) : Prop where
  aligned : align ∣ dest
  behind : h.size ≤ dest
  fields : ∀ i, load 4 m (h.field i) = some (lay.offset i)
  parts : ∀ i a part, lay i = some (a, part) →
    align ∣ a ∧ h.size ≤ a ∧ a + part.length ≤ dest ∧ Block.read m a part.length = some part
  apart : ∀ i j a part c part', i ≠ j → lay i = some (a, part) → lay j = some (c, part') →
    Block.Apart a part.length c part'.length

/-- A header that has just been made. -/
theorem Packed.empty (haligned : align ∣ h.size) (hfields : ∀ i, load 4 m (h.field i) = some 0) :
    Packed h align m h.size fun _ => none where
  aligned := haligned
  behind := Nat.le_refl _
  fields := hfields
  parts := nofun
  apart := nofun

/-- Other words of the header may change. -/
theorem Packed.store {w : BitVec (8 * k)} (hpacked : Packed h align m dest lay)
    (hstore : store k m a w = some m') (hwithin : Block.Within a k h.size)
    (hapart : ∀ i, Block.Apart a k (h.field i) 4) : Packed h align m' dest lay where
  aligned := hpacked.aligned
  behind := hpacked.behind
  fields i := by
    rw [load_of_store_apart hstore (hapart i)]
    exact hpacked.fields i
  parts i c part hi := by
    obtain ⟨halign, hbehind, hend, hread⟩ := hpacked.parts i c part hi
    refine ⟨halign, hbehind, hend, ?_⟩
    rw [read_of_store_apart hstore (Or.inl (Nat.le_trans hwithin hbehind))]
    exact hread
  apart := hpacked.apart

/-- **One more part**, at the end, with its word; the next one comes no earlier than this one ends. -/
theorem Packed.place [DecidableEq ι] (hpacked : Packed h align m dest lay) (hnew : lay i = none)
    (hwrite : Block.write m dest part = some m')
    (hstore : Packing.store 4 m' (h.field i) (BitVec.ofNat 32 dest) = some m'')
    (haligned : align ∣ dest') (hnext : dest + part.length ≤ dest') :
    Packed h align m'' dest' (Function.update lay i (some (dest, part))) where
  aligned := haligned
  behind := Nat.le_trans hpacked.behind (Nat.le_trans (Nat.le_add_right _ _) hnext)
  fields j := by
    by_cases hj : j = i
    · subst hj
      rw [load_of_store hstore, Layout.offset, Function.update_self]
    · have hbefore : Block.Apart dest part.length (h.field j) 4 :=
        Or.inr (Nat.le_trans (h.within j) hpacked.behind)
      rw [load_of_store_apart hstore (h.apart i j (Ne.symm hj)), load_of_write_apart hwrite hbefore,
        Layout.offset, Function.update_of_ne hj]
      exact hpacked.fields j
  parts j a part' hj := by
    have hkept : ∀ n, h.size ≤ a → Block.read m'' a n = Block.read m' a n := fun n hbehind =>
      read_of_store_apart hstore (Or.inl (Nat.le_trans (h.within i) hbehind))
    by_cases hji : j = i
    · subst hji
      rw [Function.update_self] at hj
      cases hj
      refine ⟨hpacked.aligned, hpacked.behind, hnext, ?_⟩
      rw [hkept _ hpacked.behind]
      exact Block.read_of_write hwrite
    · rw [Function.update_of_ne hji] at hj
      obtain ⟨halign, hbehind, hend, hread⟩ := hpacked.parts j a part' hj
      refine ⟨halign, hbehind, Nat.le_trans hend (Nat.le_trans (Nat.le_add_right _ _) hnext), ?_⟩
      rw [hkept _ hbehind, Block.read_of_write_apart hwrite (Or.inr hend)]
      exact hread
  apart j j' a part₁ c part₂ hne hj hj' := by
    by_cases hji : j = i
    · subst hji
      rw [Function.update_self] at hj
      rw [Function.update_of_ne (Ne.symm hne)] at hj'
      cases hj
      exact Or.inr (hpacked.parts j' c part₂ hj').2.2.1
    · rw [Function.update_of_ne hji] at hj
      by_cases hji' : j' = i
      · subst hji'
        rw [Function.update_self] at hj'
        cases hj'
        exact Or.inl (hpacked.parts j a part₁ hj).2.2.1
      · rw [Function.update_of_ne hji'] at hj'
        exact hpacked.apart j j' a part₁ c part₂ hne hj hj'

/-- The word of a part says where it is. -/
theorem Packed.toNat_offset (hpacked : Packed h align m dest lay) (hsmall : dest < 0x100000000)
    (hi : lay i = some (a, part)) : (lay.offset i).toNat = a := by
  have hin := (hpacked.parts i a part hi).2.2.1
  rw [Layout.offset, hi]
  exact Nat.mod_eq_of_lt (by omega)

/-- A part that fits is put in. -/
theorem Packed.exists_place (hpacked : Packed h align m dest lay) (i : ι)
    (hfits : dest + part.length ≤ m.length) :
    ∃ m' m'', Block.write m dest part = some m' ∧
      Packing.store 4 m' (h.field i) (BitVec.ofNat 32 dest) = some m'' := by
  obtain ⟨m', hwrite⟩ := Block.exists_write (show Block.Within dest part.length m.length from hfits)
  have hlength := Block.length_of_write hwrite
  have hin : Block.Within (h.field i) 4 m'.length := by
    have hfield := h.within i
    have hbehind := hpacked.behind
    unfold Block.Within at *
    omega
  obtain ⟨m'', hstore⟩ := exists_store (w := BitVec.ofNat 32 dest) hin
  exact ⟨m', m'', hwrite, hstore⟩

/-- The rest of the header. -/
theorem load_of_place (hbehind : h.size ≤ dest) (hwrite : Block.write m dest part = some m')
    (hstore : store 4 m' (h.field i) (BitVec.ofNat 32 dest) = some m'') (hwithin : Block.Within a k h.size)
    (hapart : Block.Apart (h.field i) 4 a k) : load k m'' a = load k m a := by
  rw [load_of_store_apart hstore hapart,
    load_of_write_apart hwrite (Or.inr (Nat.le_trans hwithin hbehind))]

/-! ## Parts that tell their size -/

/-- The size of a part stands in its first `head` bytes. -/
structure Sized where
  head : ℕ
  size : Bytes → Option ℕ
  depends : ∀ m m', m.take head = m'.take head → size m = size m'
  covers : ∀ m n, size m = some n → head ≤ n

namespace Sized

variable {s : Sized} {rest : Bytes}

/-- The part that `m` begins with. -/
def cut (s : Sized) (m : Bytes) : Option Bytes := (s.size m).bind fun n => Block.read m 0 n

theorem cut_eq_some : s.cut m = some part ↔
    s.size m = some part.length ∧ ∃ rest, m = part ++ rest := by
  unfold cut
  rw [Option.bind_eq_some_iff]
  constructor
  · rintro ⟨n, hsize, hread⟩
    rw [Block.length_of_read hread]
    obtain ⟨-, rfl⟩ := Block.read_eq_some.mp hread
    exact ⟨hsize, m.drop n, (List.take_append_drop n m).symm⟩
  · rintro ⟨hsize, rest, rfl⟩
    refine ⟨part.length, hsize, Block.read_eq_some.mpr ⟨?_, (List.take_left' rfl).symm⟩⟩
    unfold Block.Within
    rw [List.length_append, Nat.zero_add]
    exact Nat.le_add_right _ _

theorem read_of_cut (h : s.cut m = some part) : Block.read m 0 part.length = some part := by
  obtain ⟨-, rest, rfl⟩ := cut_eq_some.mp h
  refine Block.read_eq_some.mpr ⟨?_, (List.take_left' rfl).symm⟩
  unfold Block.Within
  rw [List.length_append, Nat.zero_add]
  exact Nat.le_add_right _ _

/-- What follows a part has no say. -/
theorem cut_append (h : s.cut m = some part) : s.cut (part ++ rest) = some part := by
  obtain ⟨hsize, behind, rfl⟩ := cut_eq_some.mp h
  have hhead : s.head ≤ part.length := s.covers _ _ hsize
  refine cut_eq_some.mpr ⟨?_, rest, rfl⟩
  rw [← hsize]
  apply s.depends
  rw [List.take_append_of_le_length hhead, List.take_append_of_le_length hhead]

/-- **A part that was put somewhere** is there. -/
theorem cut_of_read (h : s.cut m = some part) (hread : Block.read m' a part.length = some part) :
    s.cut (m'.drop a) = some part := by
  obtain ⟨-, hpart⟩ := Block.read_eq_some.mp hread
  have hbegins : m'.drop a = part ++ (m'.drop a).drop part.length := by
    conv_lhs => rw [← List.take_append_drop part.length (m'.drop a), ← hpart]
  rw [hbegins]
  exact cut_append h

end Sized

end Packing
