/-
# `Nodes` — the store of security nodes

The mounted drive keeps the security descriptor of a file not on the backing
file but in a node of its own.  The nodes are shared objects, held in one list
and searched front to back by name; the list is the whole store.

| source | here |
| :-- | :-- |
| `security_informations` | `SecurityInformations` |
| `filenode` | `Filenode` |
| `std::shared_ptr<filenode>` | `Option Ptr`, an index into `Nodes.heap` |
| `Nodes` | `Nodes` |

`rename` writes the new name through the shared pointer, so it changes the heap
and not the list; the two `deleteFileNode`s change the list and not the heap.
Every operation holds `m_mutex` from its first line to its last, hence is one
step here.

**Proved here:** `addFileNode` and both `deleteFileNode`s keep the names of the
listed nodes distinct, `rename` does exactly when its target is free
(`distinct_apply_iff`), and so along runs (`namesDistinct_run_iff`).
-/
import SeamlessSmb.Platform.Win32
import SeamlessSmb.Lib.KeyedList
import Mathlib.Data.List.Induction

namespace SeamlessSmb

/-! ## Nodes -/

/-- `security_informations`.  `descriptor` and `descriptor_size` are one field:
`none` is a size of zero. -/
structure SecurityInformations where
  strdescriptor : CodeUnits := []
  descriptor : Option SecurityDescriptor := none
  deriving DecidableEq

namespace SecurityInformations

/-- `SetDescriptor`: a null pointer changes nothing.  `convert` is
`ConvertSecurityDescriptorToStringSecurityDescriptorW`.  Whether it fails is not looked at;
what the string is then made of, `ssd` and `size`, was never written to: `stray` is what they
make. -/
def setDescriptor (convert : SecurityDescriptor → Option CodeUnits) (stray : CodeUnits)
    (s : SecurityInformations) : Option SecurityDescriptor → SecurityInformations
  | none => s
  | some sd => { strdescriptor := (convert sd).getD stray, descriptor := some sd }

/-- `GetDescriptor`: the stored bytes, or the default when there are none. -/
def getDescriptor (defaultSD : SecurityDescriptor) (s : SecurityInformations) :
    SecurityDescriptor :=
  s.descriptor.getD defaultSD

end SecurityInformations

/-- `filenode`. -/
structure Filenode where
  isDirectory : Bool
  attributes : DWORD
  fileName : WString
  security : SecurityInformations := {}
  deriving DecidableEq

abbrev Ptr := Nat

/-- The store: the shared nodes (`heap`), the next unused pointer, and the list
`_filenodes`, which holds pointers made before. -/
structure Nodes where
  heap : Ptr → Filenode
  next : Ptr
  filenodes : List Ptr
  allocated : ∀ p ∈ filenodes, p < next

namespace Nodes

/-- A `Nodes` just made, beside nodes that are in no list. -/
def empty (heap : Ptr → Filenode) : Nodes :=
  { heap := heap, next := 0, filenodes := [], allocated := fun _ h => absurd h List.not_mem_nil }

/-- `_fileName` of the node behind a pointer. -/
def name (n : Nodes) (p : Ptr) : WString := (n.heap p).fileName

/-- `std::make_shared<filenode>(…)`. -/
def makeShared (n : Nodes) (node : Filenode) : Nodes :=
  { heap := Function.update n.heap n.next node
    next := n.next + 1
    filenodes := n.filenodes
    allocated := fun p hp => Nat.lt_succ_of_lt (n.allocated p hp) }

/-- Write through a pointer. -/
def write (n : Nodes) (p : Ptr) (node : Filenode) : Nodes :=
  { n with heap := Function.update n.heap p node }

/-! ## The operations -/

/-- `findFileNodeP`. -/
def findFileNodeP (n : Nodes) (fname : WString) : Option Ptr :=
  if n.filenodes = [] then none else Keyed.first n.name n.filenodes fname

/-- `findFileNode`. -/
def findFileNode (n : Nodes) (fname : WString) : Option Ptr := n.findFileNodeP fname

/-- `_filenodes.push_back(node)`. -/
def pushBack (n : Nodes) (p : Ptr) : Nodes :=
  { n with
    next := max n.next (p + 1)
    filenodes := n.filenodes ++ [p]
    allocated := fun q hq => by
      rcases List.mem_append.mp hq with hq | hq
      · exact Nat.lt_of_lt_of_le (n.allocated q hq) (Nat.le_max_left ..)
      · rw [List.mem_singleton.mp hq]
        exact Nat.lt_of_lt_of_le (Nat.lt_succ_self p) (Nat.le_max_right ..) }

/-- `addFileNode`. -/
def addFileNode (n : Nodes) : Option Ptr → Bool × Nodes
  | none => (false, n)
  | some p =>
      match n.findFileNodeP (n.name p) with
      | none => (true, n.pushBack p)
      | some _ => (false, n)

/-- `rename`. -/
def rename (n : Nodes) (fname newfname : WString) : Bool × Nodes :=
  if n.filenodes = [] then (false, n)
  else
    match n.findFileNodeP fname with
    | some f => (true, n.write f { n.heap f with fileName := newfname })
    | none => (false, n)

/-- `move`. -/
def move (n : Nodes) (fname newfname : WString) : Bool × Nodes := n.rename fname newfname

/-- `_filenodes.remove(node)`. -/
def remove (n : Nodes) (p : Ptr) : Nodes :=
  { n with
    filenodes := Keyed.remove n.filenodes p
    allocated := fun q hq => n.allocated q (Keyed.mem_remove.mp hq).1 }

/-- `deleteFileNode(std::wstring)`. -/
def deleteFileNode (n : Nodes) (fname : WString) : Bool × Nodes :=
  if n.filenodes = [] then (false, n)
  else
    match n.findFileNodeP fname with
    | some f => (true, n.remove f)
    | none => (false, n)

/-- `deleteFileNode(std::shared_ptr<filenode>)`.  The list holds no null pointer. -/
def deleteFileNodePtr (n : Nodes) (node : Option Ptr) : Bool × Nodes :=
  if n.filenodes = [] then (false, n)
  else
    match node with
    | some p => (true, n.remove p)
    | none => (true, n)

/-! ## What each operation does to the list and the names -/

variable {n : Nodes} {p q : Ptr} {fname newfname k : WString}

theorem findFileNode_eq : n.findFileNode fname = Keyed.first n.name n.filenodes fname := by
  show n.findFileNodeP fname = _
  unfold findFileNodeP
  split
  · next h =>
      rw [h]
      rfl
  · rfl

theorem findFileNode_mem (h : n.findFileNode fname = some p) : p ∈ n.filenodes :=
  Keyed.first_mem (findFileNode_eq ▸ h)

theorem findFileNode_name (h : n.findFileNode fname = some p) : n.name p = fname :=
  Keyed.first_key (findFileNode_eq ▸ h)

theorem findFileNode_eq_none : n.findFileNode fname = none ↔ ∀ p ∈ n.filenodes, n.name p ≠ fname := by
  rw [findFileNode_eq]
  exact Keyed.first_eq_none

theorem addFileNode_filenodes :
    (n.addFileNode (some p)).2.filenodes = Keyed.add n.name n.filenodes p := by
  show (match n.findFileNode (n.name p) with
    | none => (true, n.pushBack p)
    | some _ => (false, n)).2.filenodes = _
  rw [findFileNode_eq, Keyed.add]
  cases Keyed.first n.name n.filenodes (n.name p) with
  | none => rfl
  | some q => rfl

theorem addFileNode_heap {node : Option Ptr} : (n.addFileNode node).2.heap = n.heap := by
  cases node with
  | none => rfl
  | some p =>
      simp only [addFileNode]
      cases n.findFileNodeP (n.name p) with
      | none => rfl
      | some q => rfl

/-- `rename` of a stored name rewrites the name of the first node that has it. -/
theorem rename_some (h : n.findFileNode fname = some p) :
    (n.rename fname newfname).2 = n.write p { n.heap p with fileName := newfname } := by
  unfold rename
  rw [if_neg (List.ne_nil_of_mem (findFileNode_mem h)), show n.findFileNodeP fname = some p from h]

theorem rename_none (h : n.findFileNode fname = none) : (n.rename fname newfname).2 = n := by
  unfold rename
  rw [show n.findFileNodeP fname = none from h]
  split <;> rfl

theorem name_write_fileName :
    (n.write p { n.heap p with fileName := newfname }).name = Keyed.rekey n.name p newfname := by
  funext q
  by_cases hq : q = p
  · rw [hq, Keyed.rekey_self]
    simp [name, write]
  · rw [Keyed.rekey_of_ne hq]
    simp [name, write, Function.update_of_ne hq]

/-- `deleteFileNode` of a stored name takes the first node that has it out of the
list. -/
theorem deleteFileNode_some (h : n.findFileNode fname = some p) :
    (n.deleteFileNode fname).2 = n.remove p := by
  unfold deleteFileNode
  rw [if_neg (List.ne_nil_of_mem (findFileNode_mem h)), show n.findFileNodeP fname = some p from h]

theorem deleteFileNode_none (h : n.findFileNode fname = none) : (n.deleteFileNode fname).2 = n := by
  unfold deleteFileNode
  rw [show n.findFileNodeP fname = none from h]
  split <;> rfl

/-! ## Distinct names -/

/-- No two elements of `_filenodes` have the same `_fileName`. -/
def NamesDistinct (n : Nodes) : Prop := Keyed.Distinct n.name n.filenodes

instance : Decidable n.NamesDistinct := inferInstanceAs (Decidable (List.Nodup _))

theorem namesDistinct_empty {heap : Ptr → Filenode} : (empty heap).NamesDistinct :=
  Keyed.distinct_nil

theorem NamesDistinct.addFileNode (h : n.NamesDistinct) {node : Option Ptr} :
    (n.addFileNode node).2.NamesDistinct := by
  cases node with
  | none => exact h
  | some p =>
      have hname : (n.addFileNode (some p)).2.name = n.name := by
        funext q
        show ((n.addFileNode (some p)).2.heap q).fileName = _
        rw [addFileNode_heap]
        rfl
      unfold NamesDistinct
      rw [hname, addFileNode_filenodes]
      exact Keyed.Distinct.add h

theorem NamesDistinct.remove (h : n.NamesDistinct) : (n.remove p).NamesDistinct :=
  Keyed.Distinct.remove h

theorem NamesDistinct.deleteFileNode (h : n.NamesDistinct) :
    (n.deleteFileNode fname).2.NamesDistinct := by
  cases hf : n.findFileNode fname with
  | none =>
      rw [deleteFileNode_none hf]
      exact h
  | some p =>
      rw [deleteFileNode_some hf]
      exact h.remove

theorem NamesDistinct.deleteFileNodePtr (h : n.NamesDistinct) {node : Option Ptr} :
    (n.deleteFileNodePtr node).2.NamesDistinct := by
  unfold Nodes.deleteFileNodePtr
  split
  · exact h
  · cases node with
    | none => exact h
    | some p => exact h.remove

/-- Under distinct names a deleted name is gone. -/
theorem NamesDistinct.findFileNode_deleteFileNode (h : n.NamesDistinct) :
    (n.deleteFileNode fname).2.findFileNode fname = none := by
  cases hf : n.findFileNode fname with
  | none =>
      rw [deleteFileNode_none hf]
      exact hf
  | some p =>
      rw [deleteFileNode_some hf, findFileNode_eq, ← findFileNode_name hf]
      exact Keyed.Distinct.first_remove h (findFileNode_mem hf)

/-- The target of a renaming is free: there is nothing to rename, or the new name
is the old one, or no node has it. -/
def TargetFree (n : Nodes) (fname newfname : WString) : Prop :=
  n.findFileNode fname = none ∨ newfname = fname ∨ n.findFileNode newfname = none

theorem NamesDistinct.rename_iff (h : n.NamesDistinct) :
    (n.rename fname newfname).2.NamesDistinct ↔ n.TargetFree fname newfname := by
  cases hf : n.findFileNode fname with
  | none =>
      rw [rename_none hf]
      exact iff_of_true h (Or.inl hf)
  | some p =>
      rw [rename_some hf]
      unfold NamesDistinct TargetFree
      rw [name_write_fileName, hf, ← findFileNode_name hf, findFileNode_eq]
      rw [show (n.write p { n.heap p with fileName := newfname }).filenodes = n.filenodes from rfl]
      rw [Keyed.distinct_rekey_iff h (findFileNode_mem hf)]
      simp

/-! ## Runs -/

/-- A call of one of the store's operations. -/
inductive Op
  | addFileNode (node : Option Ptr)
  | rename (fname newfname : WString)
  | move (fname newfname : WString)
  | deleteFileNode (fname : WString)
  | deleteFileNodePtr (node : Option Ptr)

def Op.apply (n : Nodes) : Op → Nodes
  | .addFileNode node => (n.addFileNode node).2
  | .rename fname newfname => (n.rename fname newfname).2
  | .move fname newfname => (n.move fname newfname).2
  | .deleteFileNode fname => (n.deleteFileNode fname).2
  | .deleteFileNodePtr node => (n.deleteFileNodePtr node).2

/-- The operations one after the other. -/
def run (n : Nodes) (ops : List Op) : Nodes := ops.foldl Op.apply n

/-- The operation does not rename onto a name in use. -/
def Op.Free (n : Nodes) : Op → Prop
  | .rename fname newfname | .move fname newfname => n.TargetFree fname newfname
  | _ => True

/-- **One step.**  An operation keeps the names distinct exactly when it does not
rename onto a name in use. -/
theorem distinct_apply_iff (h : n.NamesDistinct) (op : Op) :
    (op.apply n).NamesDistinct ↔ op.Free n := by
  cases op with
  | addFileNode node => exact iff_of_true h.addFileNode trivial
  | rename fname newfname => exact h.rename_iff
  | move fname newfname => exact h.rename_iff
  | deleteFileNode fname => exact iff_of_true h.deleteFileNode trivial
  | deleteFileNodePtr node => exact iff_of_true h.deleteFileNodePtr trivial

theorem run_concat {ops : List Op} {op : Op} : n.run (ops ++ [op]) = op.apply (n.run ops) := by
  unfold run
  rw [List.foldl_append]
  rfl

/-- **Runs.**  From an empty store the names stay distinct all along a sequence of
operations, so that a deleted name is never found, exactly when no operation of
the sequence renames onto a name in use. -/
theorem namesDistinct_run_iff (heap : Ptr → Filenode) (ops : List Op) :
    (∀ done, done <+: ops →
      ((empty heap).run done).NamesDistinct ∧
      ∀ name, (((empty heap).run done).deleteFileNode name).2.findFileNode name = none) ↔
    ∀ done op, done ++ [op] <+: ops → op.Free ((empty heap).run done) := by
  constructor
  · intro h done op hop
    have hdone := (h done ((List.prefix_append done [op]).trans hop)).1
    have hnext := (h (done ++ [op]) hop).1
    rw [run_concat] at hnext
    exact (distinct_apply_iff hdone op).mp hnext
  · intro h done
    -- the invariant along the run; the deleted name follows from it in each state
    have hinv : done <+: ops → ((empty heap).run done).NamesDistinct := by
      induction done using List.reverseRecOn with
      | nil => exact fun _ => namesDistinct_empty
      | append_singleton done op ih =>
          intro hop
          rw [run_concat]
          exact (distinct_apply_iff (ih ((List.prefix_append done [op]).trans hop)) op).mpr
            (h done op hop)
    exact fun hd => ⟨hinv hd, fun name => (hinv hd).findFileNode_deleteFileNode⟩

/-- Two nodes, `\a` and `\b`, and then `\a` renamed to `\b`: both are `\b`. -/
theorem not_namesDistinct_run :
    ¬ ∀ (heap : Ptr → Filenode) (ops : List Op),
      ((empty heap).run ops).NamesDistinct ∧
      ∀ name, (((empty heap).run ops).deleteFileNode name).2.findFileNode name = none := by
  intro h
  have hrun := (h
    (fun p => { isDirectory := false, attributes := 0,
                fileName := if p = 0 then wide ['\\', 'a'] else wide ['\\', 'b'] })
    [.addFileNode (some 0), .addFileNode (some 1),
      .rename (wide ['\\', 'a']) (wide ['\\', 'b'])]).1
  exact absurd hrun (by decide)

end Nodes

end SeamlessSmb
