/-
# `Region` — the nodes of some names

A region is a set of names, and the nodes of a store that have one of them.  What is done to the names
outside leaves the region alone, although all nodes are in one list; and what is done to the names inside
comes out the same in two stores that have the same region, whatever else is in them.

| | |
| :-- | :-- |
| `n.within T` | the pointers listed under names of `T`, in their order |
| `Keeps T n n'` | no node gets into the region, or out of it |
| `Aside T n n'` | the region of `n'` is that of `n` |
| `Agree T K n u` | the regions are the same, and so are the nodes behind the pointers of `K` |

**Proved here:** all operations keep a region, a renaming if both names are in it or neither is; with names
outside they leave it alone; and with names inside they answer the same and leave the same in stores that
agree.
-/
import SeamlessSmb.Store

namespace SeamlessSmb

namespace Nodes

variable {T : WString → Bool} {n n' n'' u : Nodes} {f : Filenode} {fname newfname k : WString} {p : Ptr}
  {s : SecurityInformations} {K : List Ptr}

/-- The pointers listed under names of `T`. -/
def within (n : Nodes) (T : WString → Bool) : List Ptr := n.filenodes.filter fun p => T (n.name p)

theorem mem_within : p ∈ n.within T ↔ p ∈ n.filenodes ∧ T (n.name p) = true := List.mem_filter

theorem findFileNode_within (hk : T k = true) : Keyed.first n.name (n.within T) k = n.findFileNode k := by
  rw [findFileNode_eq]
  exact Keyed.first_filter hk

theorem within_congr (hlist : n'.filenodes = n.filenodes)
    (hname : ∀ p ∈ n.filenodes, T (n'.name p) = T (n.name p)) : n'.within T = n.within T := by
  unfold within
  rw [hlist]
  exact List.filter_congr hname

theorem findFileNode_in (h : n.findFileNode k = some p) (hk : T k = true) : p ∈ n.within T :=
  mem_within.mpr ⟨findFileNode_mem h, (congrArg T (findFileNode_name h)).trans hk⟩

/-! ## What is listed after an operation -/

theorem addFileNode_name {node : Option Ptr} : (n.addFileNode node).2.name = n.name := by
  funext q
  exact congrArg (fun h : Ptr → Filenode => (h q).fileName) addFileNode_heap

theorem addFileNode_some {q : Ptr} (h : n.findFileNode (n.name p) = some q) :
    (n.addFileNode (some p)) = (false, n) := by
  have hfind : n.findFileNodeP (n.name p) = some q := h
  simp only [addFileNode, hfind]

theorem addFileNode_none (h : n.findFileNode (n.name p) = .none) :
    (n.addFileNode (some p)) = (true, n.pushBack p) := by
  have hfind : n.findFileNodeP (n.name p) = .none := h
  simp only [addFileNode, hfind]

theorem rename_fst : (n.rename fname newfname).1 = (n.findFileNode fname).isSome := by
  unfold rename
  show _ = (n.findFileNodeP fname).isSome
  split
  · next hnil =>
      unfold findFileNodeP
      rw [if_pos hnil]
      rfl
  · cases n.findFileNodeP fname with
    | none => rfl
    | some p => rfl

theorem deleteFileNode_fst : (n.deleteFileNode fname).1 = (n.findFileNode fname).isSome := by
  unfold deleteFileNode
  show _ = (n.findFileNodeP fname).isSome
  split
  · next hnil =>
      unfold findFileNodeP
      rw [if_pos hnil]
      rfl
  · cases n.findFileNodeP fname with
    | none => rfl
    | some p => rfl

theorem rename_next : (n.rename fname newfname).2.next = n.next := by
  cases hf : n.findFileNode fname with
  | none => rw [rename_none hf]
  | some p =>
      rw [rename_some hf]
      rfl

theorem deleteFileNode_next : (n.deleteFileNode fname).2.next = n.next := by
  cases hf : n.findFileNode fname with
  | none => rw [deleteFileNode_none hf]
  | some p =>
      rw [deleteFileNode_some hf]
      rfl

theorem within_pushBack :
    (n.pushBack p).within T = if T (n.name p) = true then n.within T ++ [p] else n.within T := by
  show (n.filenodes ++ [p]).filter (fun q => T (n.name q)) = _
  rw [List.filter_append, List.filter_singleton]
  cases hp : T (n.name p) with
  | true => simp [within]
  | false => simp [within]

theorem within_remove : (n.remove p).within T = Keyed.remove (n.within T) p := by
  show (Keyed.remove n.filenodes p).filter (fun q => T (n.name q)) = _
  unfold Keyed.remove within
  rw [List.filter_comm]

theorem within_write (hname : T f.fileName = T (n.name p)) : (n.write p f).within T = n.within T := by
  refine within_congr rfl ?_
  intro q _
  by_cases hq : q = p
  · subst hq
    show T (Function.update n.heap q f q).fileName = _
    rw [Function.update_self, hname]
  · show T (Function.update n.heap p f q).fileName = _
    rw [Function.update_of_ne hq]
    rfl

/-! ## The region stays -/

/-- The nodes there were are in the region if they were. -/
structure Keeps (T : WString → Bool) (n n' : Nodes) : Prop where
  next : n.next ≤ n'.next
  name : ∀ p, p < n.next → T (n'.name p) = T (n.name p)

/-- And those of the region are as they were. -/
structure Aside (T : WString → Bool) (n n' : Nodes) : Prop extends Keeps T n n' where
  within : n'.within T = n.within T
  heap : ∀ p, p < n.next → T (n.name p) = true → n'.heap p = n.heap p

theorem Keeps.refl (n : Nodes) : Keeps T n n := ⟨Nat.le_refl _, fun _ _ => rfl⟩

theorem Aside.refl (n : Nodes) : Aside T n n := ⟨Keeps.refl n, rfl, fun _ _ _ => rfl⟩

theorem Aside.trans (h : Aside T n n') (h' : Aside T n' n'') : Aside T n n'' where
  next := Nat.le_trans h.next h'.next
  name p hp := (h'.name p (Nat.lt_of_lt_of_le hp h.next)).trans (h.name p hp)
  within := h'.within.trans h.within
  heap p hp hT :=
    (h'.heap p (Nat.lt_of_lt_of_le hp h.next) ((h.name p hp).trans hT)).trans (h.heap p hp hT)

/-- A name of the region has the node it had. -/
theorem Aside.node (h : Aside T n n') (hk : T k = true) : n'.node k = n.node k := by
  have hname : ∀ p ∈ n.within T, n'.name p = n.name p := by
    intro p hp
    obtain ⟨hlisted, hT⟩ := mem_within.mp hp
    exact congrArg Filenode.fileName (h.heap p (n.allocated p hlisted) hT)
  have hfind : n'.findFileNode k = n.findFileNode k := by
    rw [← findFileNode_within hk, ← findFileNode_within hk, h.within]
    exact Keyed.first_congr hname
  unfold Nodes.node
  rw [hfind]
  cases hf : n.findFileNode k with
  | none => rfl
  | some p =>
      obtain ⟨hlisted, hT⟩ := mem_within.mp (findFileNode_in hf hk)
      exact congrArg some (h.heap p (n.allocated p hlisted) hT)

theorem makeShared_heap_of_lt (hp : p < n.next) : (n.makeShared f).heap p = n.heap p :=
  Function.update_of_ne (Nat.ne_of_lt hp) ..

theorem aside_makeShared : Aside T n (n.makeShared f) where
  next := Nat.le_succ _
  name p hp := congrArg (fun f : Filenode => T f.fileName) (makeShared_heap_of_lt hp)
  within := by
    refine within_congr rfl ?_
    intro p hp
    exact congrArg (fun f : Filenode => T f.fileName) (makeShared_heap_of_lt (n.allocated p hp))
  heap p hp _ := makeShared_heap_of_lt hp

theorem keeps_addFileNode {node : Option Ptr} : Keeps T n (n.addFileNode node).2 where
  next := by
    cases node with
    | none => exact Nat.le_refl _
    | some p =>
        cases hfind : n.findFileNode (n.name p) with
        | some q =>
            have hnext := congrArg (fun x : Bool × Nodes => x.2.next) (addFileNode_some hfind)
            exact Nat.le_of_eq hnext.symm
        | none =>
            rw [addFileNode_none hfind]
            exact Nat.le_max_left ..
  name p _ := by rw [addFileNode_name]

theorem aside_addFileNode (hT : T (n.name p) = false) : Aside T n (n.addFileNode (some p)).2 where
  toKeeps := keeps_addFileNode
  within := by
    cases hfind : n.findFileNode (n.name p) with
    | some q => rw [addFileNode_some hfind]
    | none =>
        rw [addFileNode_none hfind, within_pushBack, hT]
        rfl
  heap q _ _ := by rw [addFileNode_heap]

/-- A renaming takes no node across the border. -/
theorem keeps_rename (hT : T newfname = T fname) : Keeps T n (n.rename fname newfname).2 := by
  cases hf : n.findFileNode fname with
  | none =>
      rw [rename_none hf]
      exact Keeps.refl n
  | some p =>
      rw [rename_some hf]
      refine ⟨Nat.le_refl _, ?_⟩
      intro q _
      rw [name_write_fileName]
      by_cases hq : q = p
      · rw [hq, Keyed.rekey_self, hT, findFileNode_name hf]
      · rw [Keyed.rekey_of_ne hq]

theorem aside_rename (hold : T fname = false) (hnew : T newfname = false) :
    Aside T n (n.rename fname newfname).2 := by
  refine ⟨keeps_rename (hnew.trans hold.symm), ?_, ?_⟩
  · cases hf : n.findFileNode fname with
    | none => rw [rename_none hf]
    | some p =>
        rw [rename_some hf]
        refine within_write ?_
        rw [findFileNode_name hf, hold]
        exact hnew
  · intro q _ hT
    cases hf : n.findFileNode fname with
    | none => rw [rename_none hf]
    | some p =>
        rw [rename_some hf]
        refine Function.update_of_ne ?_ ..
        rintro rfl
        rw [findFileNode_name hf, hold] at hT
        cases hT

theorem keeps_deleteFileNode : Keeps T n (n.deleteFileNode fname).2 := by
  cases hf : n.findFileNode fname with
  | none =>
      rw [deleteFileNode_none hf]
      exact Keeps.refl n
  | some p =>
      rw [deleteFileNode_some hf]
      exact ⟨Nat.le_refl _, fun _ _ => rfl⟩

theorem aside_deleteFileNode (hT : T fname = false) : Aside T n (n.deleteFileNode fname).2 := by
  refine ⟨keeps_deleteFileNode, ?_, ?_⟩
  · cases hf : n.findFileNode fname with
    | none => rw [deleteFileNode_none hf]
    | some p =>
        rw [deleteFileNode_some hf, within_remove]
        refine List.filter_eq_self.mpr ?_
        intro q hq
        refine decide_eq_true ?_
        rintro rfl
        have hin := (mem_within.mp hq).2
        rw [findFileNode_name hf, hT] at hin
        cases hin
  · intro q _ _
    cases hf : n.findFileNode fname with
    | none => rw [deleteFileNode_none hf]
    | some p =>
        rw [deleteFileNode_some hf]
        rfl

theorem keeps_secure : Keeps T n (n.secure p s) := ⟨Nat.le_refl _, fun _ _ => by rw [secure_name]⟩

theorem aside_secure (hT : T (n.name p) = false) : Aside T n (n.secure p s) := by
  refine ⟨keeps_secure, within_congr rfl fun _ _ => by rw [secure_name], ?_⟩
  intro q _ hq
  refine Function.update_of_ne ?_ ..
  rintro rfl
  rw [hT] at hq
  cases hq

/-! ## Stores that agree -/

/-- The regions are the same, and so are the nodes behind some pointers. -/
structure Agree (T : WString → Bool) (K : List Ptr) (n u : Nodes) : Prop where
  within : n.within T = u.within T
  listed : ∀ p ∈ n.within T, n.heap p = u.heap p
  known : ∀ p ∈ K, n.heap p = u.heap p

theorem Agree.name (h : Agree T K n u) (hp : p ∈ n.within T) : n.name p = u.name p :=
  congrArg Filenode.fileName (h.listed p hp)

theorem Agree.findFileNode (h : Agree T K n u) (hk : T k = true) : n.findFileNode k = u.findFileNode k := by
  rw [← findFileNode_within hk, ← findFileNode_within hk, ← h.within]
  exact Keyed.first_congr fun p hp => h.name hp

theorem Agree.node (h : Agree T K n u) (hk : T k = true) : n.node k = u.node k := by
  unfold Nodes.node
  rw [← h.findFileNode hk]
  cases hf : n.findFileNode k with
  | none => rfl
  | some p => exact congrArg some (h.listed p (findFileNode_in hf hk))

/-- What leaves the region of the one alone. -/
theorem Agree.aside (h : Agree T K n u) (ha : Aside T n n')
    (hK : ∀ p ∈ K, p < n.next ∧ T (n.name p) = true) : Agree T K n' u where
  within := ha.within.trans h.within
  listed p hp := by
    rw [ha.within] at hp
    obtain ⟨hlisted, hT⟩ := mem_within.mp hp
    exact (ha.heap p (n.allocated p hlisted) hT).trans (h.listed p hp)
  known p hp := (ha.heap p (hK p hp).1 (hK p hp).2).trans (h.known p hp)

/-- A node that was found is known. -/
theorem Agree.find (h : Agree T K n u) (hf : n.findFileNode k = some p) (hk : T k = true) :
    Agree T (p :: K) n u := by
  refine ⟨h.within, h.listed, ?_⟩
  intro q hq
  cases hq with
  | head => exact h.listed p (findFileNode_in hf hk)
  | tail _ hq => exact h.known q hq

theorem Agree.makeShared (h : Agree T K n u) (hnext : n.next = u.next) (hK : ∀ p ∈ K, p < n.next) :
    Agree T (n.next :: K) (n.makeShared f) (u.makeShared f) := by
  have hn : Aside T n (n.makeShared f) := aside_makeShared
  have hu : Aside T u (u.makeShared f) := aside_makeShared
  have hheap : ∀ p, p < n.next → n.heap p = u.heap p → (n.makeShared f).heap p = (u.makeShared f).heap p := by
    intro p hp hsame
    rw [makeShared_heap_of_lt hp, makeShared_heap_of_lt (hnext ▸ hp), hsame]
  refine ⟨hn.within.trans (h.within.trans hu.within.symm), ?_, ?_⟩
  · intro p hp
    rw [hn.within] at hp
    exact hheap p (n.allocated p (mem_within.mp hp).1) (h.listed p hp)
  · intro p hp
    cases hp with
    | head =>
        rw [makeShared_heap_next, hnext, makeShared_heap_next]
    | tail _ hp => exact hheap p (hK p hp) (h.known p hp)

/-- A node written through a pointer that is known, which stays in the region. -/
theorem Agree.write (h : Agree T K n u) (hp : n.heap p = u.heap p) (hT : T f.fileName = T (n.name p)) :
    Agree T K (n.write p f) (u.write p f) := by
  have hheap : ∀ q, n.heap q = u.heap q → (n.write p f).heap q = (u.write p f).heap q := by
    intro q hq
    show Function.update n.heap p f q = Function.update u.heap p f q
    by_cases hqp : q = p
    · rw [hqp, Function.update_self, Function.update_self]
    · rw [Function.update_of_ne hqp, Function.update_of_ne hqp, hq]
  have hname : n.name p = u.name p := congrArg Filenode.fileName hp
  refine ⟨?_, ?_, fun q hq => hheap q (h.known q hq)⟩
  · rw [within_write hT, within_write (hname ▸ hT), h.within]
  · intro q hq
    rw [within_write hT] at hq
    exact hheap q (h.listed q hq)

theorem Agree.secure (h : Agree T K n u) (hp : p ∈ K) : Agree T K (n.secure p s) (u.secure p s) := by
  unfold Nodes.secure
  rw [← h.known p hp]
  exact h.write (h.known p hp) rfl

theorem Agree.addFileNode (h : Agree T K n u) (hp : p ∈ K) (hT : T (n.name p) = true) :
    (n.addFileNode (some p)).1 = (u.addFileNode (some p)).1 ∧
      Agree T K (n.addFileNode (some p)).2 (u.addFileNode (some p)).2 := by
  have hname : n.name p = u.name p := congrArg Filenode.fileName (h.known p hp)
  have hfind : n.findFileNode (n.name p) = u.findFileNode (u.name p) := hname ▸ h.findFileNode hT
  cases hf : n.findFileNode (n.name p) with
  | some q =>
      rw [addFileNode_some hf, addFileNode_some (hfind.symm.trans hf)]
      exact ⟨rfl, h⟩
  | none =>
      rw [addFileNode_none hf, addFileNode_none (hfind.symm.trans hf)]
      refine ⟨rfl, ?_, ?_, h.known⟩
      · rw [within_pushBack, within_pushBack, if_pos hT, if_pos (hname ▸ hT), h.within]
      · intro q hq
        rw [within_pushBack, if_pos hT] at hq
        rcases List.mem_append.mp hq with hq | hq
        · exact h.listed q hq
        · rw [List.mem_singleton.mp hq]
          exact h.known p hp

theorem Agree.rename (h : Agree T K n u) (hold : T fname = true) (hnew : T newfname = true) :
    (n.rename fname newfname).1 = (u.rename fname newfname).1 ∧
      Agree T K (n.rename fname newfname).2 (u.rename fname newfname).2 := by
  have hfind := h.findFileNode hold
  refine ⟨by rw [rename_fst, rename_fst, hfind], ?_⟩
  cases hf : n.findFileNode fname with
  | none =>
      rw [rename_none hf, rename_none (hfind.symm.trans hf)]
      exact h
  | some p =>
      have hp := h.listed p (findFileNode_in hf hold)
      rw [rename_some hf, rename_some (hfind.symm.trans hf), ← hp]
      refine h.write hp ?_
      rw [findFileNode_name hf, hold]
      exact hnew

theorem Agree.deleteFileNode (h : Agree T K n u) (hT : T fname = true) :
    (n.deleteFileNode fname).1 = (u.deleteFileNode fname).1 ∧
      Agree T K (n.deleteFileNode fname).2 (u.deleteFileNode fname).2 := by
  have hfind := h.findFileNode hT
  refine ⟨by rw [deleteFileNode_fst, deleteFileNode_fst, hfind], ?_⟩
  cases hf : n.findFileNode fname with
  | none =>
      rw [deleteFileNode_none hf, deleteFileNode_none (hfind.symm.trans hf)]
      exact h
  | some p =>
      rw [deleteFileNode_some hf, deleteFileNode_some (hfind.symm.trans hf)]
      refine ⟨by rw [within_remove, within_remove, h.within], ?_, h.known⟩
      intro q hq
      rw [within_remove] at hq
      exact h.listed q (Keyed.mem_remove.mp hq).1

end Nodes

end SeamlessSmb
