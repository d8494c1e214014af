/-
# `Store` — the node list as a map from names to nodes

What the callbacks rely on is not the list but what a search of it finds:
`Nodes.node n name`, the node stored under a name.  Seen that way the store is a
partial map, and there are five things a callback does to it (`Change`).

| change | effect on the map |
| :-- | :-- |
| `keep` | none |
| `put node` | the name of `node`, which had no node, gets it |
| `secure name s` | the node under `name` gets the security `s` |
| `drop name` | `name` loses its node, if names are distinct |
| `rename fname newfname` | the node moves, if names are distinct and the target free |

`Change.Between n n'` says that the list `n'` is what the list operations make of
`n`, up to objects that are in no list (`Nodes.Same`).

**Proved here:** the right column of the table (`Change.Between.node`), and that every
change but a renaming onto a name in use keeps the names distinct.
-/
import SeamlessSmb.Nodes

namespace SeamlessSmb

namespace Nodes

variable {n n' n'' : Nodes} {p : Ptr} {f : Filenode} {fname k : WString}
  {s : SecurityInformations}

/-- The node stored under a name. -/
def node (n : Nodes) (fname : WString) : Option Filenode := (n.findFileNode fname).map n.heap

theorem node_eq_none : n.node fname = none ↔ n.findFileNode fname = none := Option.map_eq_none_iff

theorem node_isSome : (n.node fname).isSome = (n.findFileNode fname).isSome := Option.isSome_map

/-! ## The same store -/

/-- The same list, and behind its pointers the same nodes. -/
structure Same (n n' : Nodes) : Prop where
  filenodes : n'.filenodes = n.filenodes
  heap : ∀ p ∈ n.filenodes, n'.heap p = n.heap p

theorem Same.refl (n : Nodes) : Same n n := ⟨rfl, fun _ _ => rfl⟩

theorem Same.trans (h : Same n n') (h' : Same n' n'') : Same n n'' :=
  ⟨h'.filenodes.trans h.filenodes,
    fun p hp => (h'.heap p (h.filenodes.symm ▸ hp)).trans (h.heap p hp)⟩

theorem Same.symm (h : Same n n') : Same n' n :=
  ⟨h.filenodes.symm, fun p hp => (h.heap p (h.filenodes ▸ hp)).symm⟩

theorem Same.of_eq (h : n' = n) : Same n n' := h ▸ Same.refl n

theorem Same.findFileNode (h : Same n n') : n'.findFileNode fname = n.findFileNode fname := by
  rw [findFileNode_eq, findFileNode_eq, h.filenodes]
  exact Keyed.first_congr fun p hp => congrArg Filenode.fileName (h.heap p hp)

theorem Same.node (h : Same n n') : n'.node fname = n.node fname := by
  unfold Nodes.node
  rw [h.findFileNode]
  cases hf : n.findFileNode fname with
  | none => rfl
  | some p => exact congrArg some (h.heap p (findFileNode_mem hf))

theorem Same.name (h : Same n n') {p : Ptr} (hp : p ∈ n.filenodes) : n'.name p = n.name p :=
  congrArg Filenode.fileName (h.heap p hp)

theorem Same.namesDistinct (h : Same n n') (hd : n.NamesDistinct) : n'.NamesDistinct := by
  unfold NamesDistinct
  rw [h.filenodes]
  exact hd.congr fun p hp => (h.name hp).symm

theorem makeShared_same : Same n (n.makeShared f) :=
  ⟨rfl, fun p hp => Function.update_of_ne (Nat.ne_of_lt (n.allocated p hp)) ..⟩

/-! ## A new node -/

/-- A node made and offered to the list. -/
def enter (n : Nodes) (f : Filenode) : Nodes :=
  ((n.makeShared f).addFileNode (some n.next)).2

theorem makeShared_heap_next : (n.makeShared f).heap n.next = f := Function.update_self ..

theorem makeShared_name_next : (n.makeShared f).name n.next = f.fileName :=
  congrArg Filenode.fileName makeShared_heap_next

theorem enter_filenodes :
    (n.enter f).filenodes =
      if (n.findFileNode f.fileName).isSome then n.filenodes else n.filenodes ++ [n.next] := by
  unfold enter
  rw [addFileNode_filenodes, Keyed.add, makeShared_name_next, ← findFileNode_eq,
    makeShared_same.findFileNode]
  rfl

theorem enter_heap : (n.enter f).heap = (n.makeShared f).heap := addFileNode_heap

/-- A name in use refuses the node. -/
theorem enter_of_some (h : (n.findFileNode f.fileName).isSome) : Same n (n.enter f) := by
  refine ⟨?_, fun p hp => ?_⟩
  · rw [enter_filenodes, if_pos h]
  · rw [enter_heap]
    exact makeShared_same.heap p hp

theorem enter_of_none (h : n.findFileNode f.fileName = none) :
    (n.enter f).filenodes = n.filenodes ++ [n.next] := by
  rw [enter_filenodes, h]
  rfl

/-- **A node put under a free name** is found there and nowhere else. -/
theorem node_enter (h : n.findFileNode f.fileName = none) :
    (n.enter f).node = Function.update n.node f.fileName (some f) := by
  funext k
  have hheap : (n.enter f).heap = (n.makeShared f).heap := enter_heap
  have hfind : (n.enter f).findFileNode k =
      (n.findFileNode k).or (if f.fileName = k then some n.next else none) := by
    rw [findFileNode_eq, show (n.enter f).name = (n.makeShared f).name from by
      funext q
      exact congrArg Filenode.fileName (congrFun hheap q)]
    rw [enter_of_none h, Keyed.first_append, makeShared_name_next]
    rw [show n.filenodes = (n.makeShared f).filenodes from rfl, ← findFileNode_eq,
      makeShared_same.findFileNode]
  by_cases hk : k = f.fileName
  · rw [hk, Function.update_self, Nodes.node, ← hk, hfind, hk, h, hheap]
    simp [makeShared_heap_next]
  · rw [Function.update_of_ne hk, Nodes.node, hfind, if_neg (Ne.symm hk), Option.or_none, hheap,
      ← makeShared_same.findFileNode]
    exact makeShared_same.node

theorem NamesDistinct.enter (h : n.NamesDistinct) : (n.enter f).NamesDistinct :=
  (makeShared_same.namesDistinct h).addFileNode

/-! ## Writing through the pointer found -/

/-- The security behind a pointer becomes `s`. -/
def secure (n : Nodes) (p : Ptr) (s : SecurityInformations) : Nodes :=
  n.write p { n.heap p with security := s }

theorem secure_name : (n.secure p s).name = n.name := by
  funext q
  by_cases hq : q = p
  · rw [hq]
    simp [name, secure, write]
  · simp [name, secure, write, Function.update_of_ne hq]

theorem secure_findFileNode : (n.secure p s).findFileNode fname = n.findFileNode fname := by
  rw [findFileNode_eq, findFileNode_eq, secure_name]
  rfl

/-- **New security** is seen under the name it is written for, and under no other. -/
theorem node_secure (h : n.findFileNode fname = some p) :
    (n.secure p s).node =
      Function.update n.node fname (some { n.heap p with security := s }) := by
  funext k
  by_cases hk : k = fname
  · rw [hk, Function.update_self, Nodes.node, secure_findFileNode, h]
    simp [secure, write]
  · rw [Function.update_of_ne hk, Nodes.node, secure_findFileNode, Nodes.node]
    cases hf : n.findFileNode k with
    | none => rfl
    | some q =>
        have hq : q ≠ p := by
          intro he
          exact hk ((findFileNode_name hf).symm.trans (he ▸ findFileNode_name h))
        simp [secure, write, Function.update_of_ne hq]

theorem NamesDistinct.secure (h : n.NamesDistinct) : (n.secure p s).NamesDistinct := by
  unfold NamesDistinct
  rw [secure_name]
  exact h

/-! ## Taking a node out -/

/-- The other names keep their nodes, even where names are not distinct. -/
theorem node_remove_of_ne (h : n.findFileNode fname = some p) (hk : k ≠ fname) :
    (n.remove p).node k = n.node k := by
  rw [Nodes.node, findFileNode_eq]
  rw [show (n.remove p).filenodes = Keyed.remove n.filenodes p from rfl,
    show (n.remove p).name = n.name from rfl,
    Keyed.first_remove_of_ne (fun he => hk (he.symm.trans (findFileNode_name h))),
    ← findFileNode_eq]
  rfl

/-- **A dropped name** has no node, and the other names keep theirs. -/
theorem NamesDistinct.node_remove (hd : n.NamesDistinct) (h : n.findFileNode fname = some p) :
    (n.remove p).node = Function.update n.node fname none := by
  funext k
  by_cases hk : k = fname
  · rw [hk, Function.update_self, node_eq_none, findFileNode_eq]
    rw [← findFileNode_name h]
    exact Keyed.Distinct.first_remove hd (findFileNode_mem h)
  · rw [Function.update_of_ne hk]
    exact node_remove_of_ne h hk

/-! ## Renaming -/

theorem findFileNode_rename {newfname : WString} (h : n.findFileNode fname = some p) :
    (n.rename fname newfname).2.findFileNode k =
      Keyed.first (Keyed.rekey n.name p newfname) n.filenodes k := by
  rw [rename_some h, findFileNode_eq, name_write_fileName]
  rfl

/-- Names that are neither keep their nodes. -/
theorem node_rename_of_ne {newfname : WString} (h : n.findFileNode fname = some p) (hf : k ≠ fname)
    (hk : k ≠ newfname) : (n.rename fname newfname).2.node k = n.node k := by
  have hname := findFileNode_name h
  rw [Nodes.node, findFileNode_rename h,
    Keyed.first_rekey_of_ne (fun he => hf (he.symm.trans hname)) (Ne.symm hk), ← findFileNode_eq,
    Nodes.node]
  cases hk' : n.findFileNode k with
  | none => rfl
  | some q =>
      have hq : q ≠ p := fun he => hf ((findFileNode_name hk').symm.trans (he ▸ hname))
      rw [rename_some h]
      simp [write, Function.update_of_ne hq]

/-- **A renamed node** leaves its old name for the new one, which must have been free. -/
theorem NamesDistinct.node_rename {newfname : WString} (hd : n.NamesDistinct)
    (h : n.findFileNode fname = some p)
    (hfree : newfname = fname ∨ n.findFileNode newfname = none) :
    (n.rename fname newfname).2.node =
      Function.update (Function.update n.node fname none) newfname
        (some { n.heap p with fileName := newfname }) := by
  have hname := findFileNode_name h
  have hp := findFileNode_mem h
  have hdist : (n.rename fname newfname).2.NamesDistinct := hd.rename_iff.mpr (Or.inr hfree)
  funext k
  by_cases hk : k = newfname
  · have hnew : (n.rename fname newfname).2.findFileNode newfname = some p := by
      unfold NamesDistinct at hdist
      rw [rename_some h, name_write_fileName] at hdist
      rw [findFileNode_rename h]
      exact (Keyed.Distinct.first_eq_some hdist).mpr ⟨hp, Keyed.rekey_self⟩
    rw [hk, Function.update_self, Nodes.node, hnew, rename_some h]
    simp [write]
  · rw [Function.update_of_ne hk]
    by_cases hf : k = fname
    · rw [hf, Function.update_self, node_eq_none, findFileNode_rename h, ← hname]
      exact Keyed.Distinct.first_rekey_old hd hp fun he => hk (hf.trans (hname.symm.trans he.symm))
    · rw [Function.update_of_ne hf]
      exact node_rename_of_ne h hf hk

/-! ## Changes -/

/-- What a callback does to the store. -/
inductive Change
  | keep
  | put (f : Filenode)
  | secure (fname : WString) (s : SecurityInformations)
  | drop (fname : WString)
  | rename (fname newfname : WString)

namespace Change

/-- The effect on the map.  A name in use refuses a node. -/
def apply (m : WString → Option Filenode) : Change → WString → Option Filenode
  | keep => m
  | put f => Function.update m f.fileName (some ((m f.fileName).getD f))
  | secure fname s => Function.update m fname ((m fname).map fun f => { f with security := s })
  | drop fname => Function.update m fname none
  | rename fname newfname =>
      match m fname with
      | some f =>
          Function.update (Function.update m fname none) newfname
            (some { f with fileName := newfname })
      | none => m

/-- The change does not rename onto a name in use. -/
def Free (n : Nodes) : Change → Prop
  | rename fname newfname => n.TargetFree fname newfname
  | _ => True

/-- The list `n'` is what the change makes of the list `n`, up to nodes in no list. -/
def Between (n n' : Nodes) : Change → Prop
  | keep => Same n n'
  | put f => Same (n.enter f) n'
  | secure fname s => ∃ p, n.findFileNode fname = some p ∧ Same (n.secure p s) n'
  | drop fname => Same (n.deleteFileNode fname).2 n'
  | rename fname newfname => Same (n.rename fname newfname).2 n'

/-- The names the change is about. -/
def Concerns (k : WString) : Change → Prop
  | keep => False
  | put f => f.fileName = k
  | secure fname _ | drop fname => fname = k
  | rename fname newfname => fname = k ∨ newfname = k

/-- **A change leaves the other names alone**, whatever the list has come to. -/
theorem Between.node_other {c : Change} (h : c.Between n n') (hk : ¬ c.Concerns k) :
    n'.node k = n.node k := by
  cases c with
  | keep => exact Same.node h
  | put f =>
      have hk : k ≠ f.fileName := fun he => hk he.symm
      have hsame : Same (n.enter f) n' := h
      rw [hsame.node]
      cases hf : n.findFileNode f.fileName with
      | none => rw [node_enter hf, Function.update_of_ne hk]
      | some p => exact (enter_of_some (hf ▸ rfl)).node
  | secure fname s =>
      have hk : k ≠ fname := fun he => hk he.symm
      obtain ⟨p, hp, hsame⟩ := h
      rw [hsame.node, node_secure hp, Function.update_of_ne hk]
  | drop fname =>
      have hk : k ≠ fname := fun he => hk he.symm
      have hsame : Same (n.deleteFileNode fname).2 n' := h
      rw [hsame.node]
      cases hf : n.findFileNode fname with
      | none => rw [deleteFileNode_none hf]
      | some p =>
          rw [deleteFileNode_some hf]
          exact node_remove_of_ne hf hk
  | rename fname newfname =>
      obtain ⟨hold, hnew⟩ := not_or.mp hk
      have hsame : Same (n.rename fname newfname).2 n' := h
      rw [hsame.node]
      cases hf : n.findFileNode fname with
      | none => rw [rename_none hf]
      | some p => exact node_rename_of_ne hf (Ne.symm hold) (Ne.symm hnew)

/-- A change keeps the names distinct exactly if it does not rename onto a name in use. -/
theorem Between.namesDistinct_iff {c : Change} (h : c.Between n n') (hd : n.NamesDistinct) :
    n'.NamesDistinct ↔ c.Free n := by
  cases c with
  | keep => exact iff_of_true (Same.namesDistinct h hd) trivial
  | put f => exact iff_of_true (Same.namesDistinct h hd.enter) trivial
  | secure fname s =>
      obtain ⟨p, -, hsame⟩ := h
      exact iff_of_true (hsame.namesDistinct hd.secure) trivial
  | drop fname => exact iff_of_true (Same.namesDistinct h hd.deleteFileNode) trivial
  | rename fname newfname =>
      have hsame : Same (n.rename fname newfname).2 n' := h
      rw [← show _ ↔ (Change.rename fname newfname).Free n from hd.rename_iff]
      exact ⟨hsame.symm.namesDistinct, hsame.namesDistinct⟩

/-- **The list refines the map**, while names are distinct and no renaming has its
target in use. -/
theorem Between.node {c : Change} (h : c.Between n n') (hd : n.NamesDistinct) (hfree : c.Free n) :
    n'.node = c.apply n.node := by
  have hsame : ∀ {m : Nodes}, Same m n' → n'.node = m.node := fun h => funext fun _ => h.node
  cases c with
  | keep => exact hsame h
  | put f =>
      rw [hsame h]
      show _ = Function.update n.node f.fileName (some ((n.node f.fileName).getD f))
      cases hf : n.node f.fileName with
      | none => exact node_enter (node_eq_none.mp hf)
      | some g =>
          have hin : (n.findFileNode f.fileName).isSome := by
            rw [← node_isSome, hf]
            rfl
          rw [Option.getD_some, ← hf, Function.update_eq_self]
          exact funext fun k => (enter_of_some hin).node
  | secure fname s =>
      obtain ⟨p, hp, h⟩ := h
      rw [hsame h, node_secure hp]
      show _ = Function.update n.node fname (((n.findFileNode fname).map n.heap).map _)
      rw [hp]
      rfl
  | drop fname =>
      rw [hsame h]
      show _ = Function.update n.node fname none
      cases hf : n.findFileNode fname with
      | none =>
          rw [deleteFileNode_none hf, ← node_eq_none.mpr hf, Function.update_eq_self]
      | some p =>
          rw [deleteFileNode_some hf]
          exact hd.node_remove hf
  | rename fname newfname =>
      rw [hsame h]
      show _ = match (n.findFileNode fname).map n.heap with
        | some f => _
        | none => n.node
      cases hf : n.findFileNode fname with
      | none =>
          rw [rename_none hf]
          rfl
      | some p =>
          refine hd.node_rename hf (hfree.resolve_left fun hn => ?_)
          rw [hf] at hn
          cases hn

end Change

end Nodes

end SeamlessSmb
