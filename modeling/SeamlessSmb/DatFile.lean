/-
# `DatFile` — the node store on disk

Beside the program lies one file for each mount, named after the directory it mirrors.
`saveSecurity` opens it for writing, which empties it, and writes the archive of the
nodes; the constructor of a `FileMount` reads it, if it is there.  The constructor throws
what the archive throws (`none`); the other way it does not get through is a null pointer for
`otherPrint`.

| source | here |
| :-- | :-- |
| `exec_location` and the directory entries | `Program.execLocation`, `Program.locate` |
| `datfile` | `Program.datfile` |
| `FileMount::saveSecurity` | `saveSecurity` |
| `FileMount::FileMount`, the whole | `FileMount.construct` |

A save may not get through: the file is not opened, or the process is killed and only a
part of the bytes has reached it (`Progress`).

**Proved here:** a store saved is loaded again as it was (`construct_saveSecurity`).  A
save that is cut off leaves a file on which the constructor throws, from the opening to
the last byte but one (`construct_killed`).  Two mounts do not disturb each other exactly
if the names of their files, made by replacing every backslash in the root directory by an
underscore, name different files (`isolated_iff`).
-/
import SeamlessSmb.Archive
import SeamlessSmb.Mount
import Mathlib.Data.Set.Function

namespace SeamlessSmb

variable {ι : Type}

/-! ## The file -/

/-- Where the program lies and which file a path names. -/
structure Program (ι : Type) where
  execLocation : WString
  locate : WString → ι

/-- The content of the files there are. -/
abbrev Disk (ι : Type) := ι → Option (List Byte)

/-- `std::replace(rootdir.begin(), rootdir.end(), L'\\', L'_')`. -/
def replaceBackslash (rootdir : WString) : WString :=
  rootdir.map fun c => if c = backslash then wchar '_' else c

/-- `datfile`, and the file it names. -/
def Program.datfile (p : Program ι) (rootDirectory : WString) : WString :=
  p.execLocation ++ [backslash] ++ replaceBackslash rootDirectory ++ wide ['.', 'd', 'a', 't']

def Program.file (p : Program ι) (rootDirectory : WString) : ι := p.locate (p.datfile rootDirectory)

/-- How far a save gets. -/
inductive Progress
  | notOpened
  | killed (count : Nat)
  | done
  deriving DecidableEq

/-- `FileMount::saveSecurity`: the files afterwards. -/
def saveSecurity [DecidableEq ι] (ar : Archive) (p : Program ι) (disk : Disk ι)
    (rootDirectory : WString) (n : Nodes) : Progress → Disk ι
  | .notOpened => disk
  | .killed count => Function.update disk (p.file rootDirectory) (some ((n.save ar).take count))
  | .done => Function.update disk (p.file rootDirectory) (some (n.save ar))

/-- `FileMount::FileMount`, what it makes of `m_context->nodes`. -/
def loadNodes (ar : Archive) (p : Program ι) (disk : Disk ι) (rootDirectory : WString)
    (heap : Ptr → Filenode) : Option Nodes :=
  match disk (p.file rootDirectory) with
  | none => some (Nodes.empty heap)
  | some bytes => ((Nodes.load ar heap).run bytes).map Prod.fst

/-- `FileMount::FileMount`. -/
def FileMount.construct (ar : Archive) (p : Program ι) (disk : Disk ι) (heap : Ptr → Filenode)
    (context : BitVec 64) (globals : Globals) (dokanOptions : DokanOptions)
    (otherPrint : Option DbgPrint) : Option (FileMount × Nodes) :=
  (FileMount.make context globals dokanOptions otherPrint).bind fun m =>
    (loadNodes ar p disk globals.rootDirectory heap).map fun n => (m, n)

theorem FileMount.construct_some {ar : Archive} {p : Program ι} {disk : Disk ι}
    {heap : Ptr → Filenode} {context : BitVec 64} {globals : Globals} {dokanOptions : DokanOptions}
    {otherPrint : DbgPrint} :
    FileMount.construct ar p disk heap context globals dokanOptions otherPrint =
      (loadNodes ar p disk globals.rootDirectory heap).map fun n =>
        (FileMount.fill context globals dokanOptions, n) := rfl

theorem FileMount.construct_of_loadNodes {ar : Archive} {p : Program ι} {disk : Disk ι}
    {heap : Ptr → Filenode} {context : BitVec 64} {globals : Globals} {dokanOptions : DokanOptions}
    {otherPrint : Option DbgPrint} (h : loadNodes ar p disk globals.rootDirectory heap = none) :
    FileMount.construct ar p disk heap context globals dokanOptions otherPrint = none := by
  unfold FileMount.construct
  rw [h]
  cases FileMount.make context globals dokanOptions otherPrint with
  | none => rfl
  | some m => rfl

variable {ar : Archive} {p : Program ι} {disk : Disk ι} {rootDirectory : WString} {n : Nodes}
  {heap : Ptr → Filenode}

/-! ## A store on disk -/

/-- The file holds the store.  Where there is no file, the store is empty. -/
def Stored (ar : Archive) (p : Program ι) (disk : Disk ι) (rootDirectory : WString) (n : Nodes) :
    Prop :=
  disk (p.file rootDirectory) = some (n.save ar) ∨
    disk (p.file rootDirectory) = none ∧ n.filenodes = []

/-- A stored store is what the constructor loads. -/
theorem Stored.loadNodes (h : Stored ar p disk rootDirectory n) (heap : Ptr → Filenode) :
    ∃ m, loadNodes ar p disk rootDirectory heap = some m ∧ Nodes.Copy n m := by
  unfold SeamlessSmb.loadNodes
  rcases h with hfile | ⟨hfile, hnil⟩
  · obtain ⟨m, hreads, hcopy⟩ := Nodes.reads_load ar n heap
    refine ⟨m, ?_, hcopy⟩
    have hall := hreads []
    rw [List.append_nil] at hall
    rw [hfile]
    exact congrArg (Option.map Prod.fst) hall
  · refine ⟨Nodes.empty heap, ?_, ?_, ?_⟩
    · rw [hfile]
    · rw [hnil]
      rfl
    · intro i j
      rw [hnil]
      exact iff_of_true rfl rfl

/-- The constructor completes, given an `otherPrint`, with a copy of these nodes. -/
def FileMount.StartsWith (ar : Archive) (p : Program ι) (disk : Disk ι) (globals : Globals)
    (dokanOptions : DokanOptions) (n : Nodes) : Prop :=
  ∀ heap context (otherPrint : DbgPrint), ∃ m,
    FileMount.construct ar p disk heap context globals dokanOptions otherPrint =
      some (FileMount.fill context globals dokanOptions, m) ∧
    m.filenodes.map m.heap = n.filenodes.map n.heap ∧ Nodes.Copy n m

variable {globals : Globals} {dokanOptions : DokanOptions}

theorem Stored.startsWith (h : Stored ar p disk globals.rootDirectory n) :
    FileMount.StartsWith ar p disk globals dokanOptions n := by
  intro heap context otherPrint
  obtain ⟨m, hm, hcopy⟩ := h.loadNodes heap
  exact ⟨m, congrArg (Option.map _) hm, hcopy.nodes, hcopy⟩

section

variable [DecidableEq ι]

theorem stored_saveSecurity : Stored ar p (saveSecurity ar p disk rootDirectory n .done) rootDirectory n :=
  Or.inl (Function.update_self ..)

/-- **A restart.**  Whatever nodes a mount has, once they are saved the next mount of the
same directory starts with them: in the same order, with the same names, flags,
attributes and descriptors. -/
theorem startsWith_saveSecurity (ar : Archive) (p : Program ι) (disk : Disk ι) (n : Nodes)
    (globals : Globals) (dokanOptions : DokanOptions) :
    FileMount.StartsWith ar p (saveSecurity ar p disk globals.rootDirectory n .done) globals
      dokanOptions n :=
  stored_saveSecurity.startsWith

/-! ## A save cut off -/

theorem saveSecurity_killed {count : Nat} (h : (n.save ar).length ≤ count) :
    saveSecurity ar p disk rootDirectory n (.killed count) =
      saveSecurity ar p disk rootDirectory n .done := by
  show Function.update disk _ (some ((n.save ar).take count)) = _
  rw [List.take_of_length_le h]
  rfl

/-- The constructor throws on a file that lacks the end of an archive. -/
theorem loadNodes_killed {count : Nat} (h : count < (n.save ar).length) :
    loadNodes ar p (saveSecurity ar p disk rootDirectory n (.killed count)) rootDirectory heap =
      none := by
  obtain ⟨m, hreads, -⟩ := Nodes.reads_load ar n heap
  have hshort : (Nodes.load ar heap).run ((n.save ar).take count) = none := by
    refine hreads.short Nodes.stops_load (List.take_prefix ..) fun heq => ?_
    have hlen := congrArg List.length heq
    rw [List.length_take] at hlen
    omega
  have hfile : saveSecurity ar p disk rootDirectory n (.killed count) (p.file rootDirectory) =
      some ((n.save ar).take count) := Function.update_self ..
  unfold loadNodes
  rw [hfile]
  exact congrArg (Option.map Prod.fst) hshort

/-- **A kill during a save.**  The next mount starts with the old nodes if the file was not
opened, and with the new ones if all bytes reached it.  In between its constructor
throws. -/
theorem startsWith_killed (ar : Archive) (p : Program ι) (disk : Disk ι) (old new : Nodes)
    (globals : Globals) (dokanOptions : DokanOptions)
    (hold : Stored ar p disk globals.rootDirectory old) :
    FileMount.StartsWith ar p (saveSecurity ar p disk globals.rootDirectory new .notOpened) globals
      dokanOptions old ∧
    (∀ count, (new.save ar).length ≤ count →
      FileMount.StartsWith ar p (saveSecurity ar p disk globals.rootDirectory new (.killed count))
        globals dokanOptions new) ∧
    FileMount.StartsWith ar p (saveSecurity ar p disk globals.rootDirectory new .done) globals
      dokanOptions new ∧
    (∀ count heap context otherPrint, count < (new.save ar).length →
      FileMount.construct ar p (saveSecurity ar p disk globals.rootDirectory new (.killed count)) heap
        context globals dokanOptions otherPrint = none) := by
  refine ⟨hold.startsWith, ?_, stored_saveSecurity.startsWith, ?_⟩
  · intro count hcount
    rw [saveSecurity_killed hcount]
    exact stored_saveSecurity.startsWith
  · intro count heap context otherPrint hcount
    exact FileMount.construct_of_loadNodes (loadNodes_killed hcount)

/-- A program on a disk where every path names a file of its own. -/
def Program.plain : Program WString := { execLocation := wide ['C', ':'], locate := id }

/-- A store of one node. -/
def Nodes.single (f : Filenode) : Nodes := (Nodes.empty fun _ => f).pushBack 0

/-- The node of a file. -/
def Filenode.plain (fname : WString) : Filenode :=
  { isDirectory := false, attributes := 0, fileName := fname }

/-- The store of a mount of `D:`, with `\a` in it, saved. -/
def Disk.saved : Disk WString :=
  saveSecurity Archive.binary Program.plain (fun _ => none) (wide ['D', ':'])
    (Nodes.single (Filenode.plain (wide ['\\', 'a']))) .done

/-- A kill when the file of `D:` is open and the new store not yet written. -/
theorem startsWith_killed_opened :
    FileMount.construct Archive.binary Program.plain
      (saveSecurity Archive.binary Program.plain Disk.saved (wide ['D', ':'])
        (Nodes.single (Filenode.plain (wide ['\\', 'b']))) (.killed 0))
      (fun _ => Filenode.plain []) 1 { rootDirectory := wide ['D', ':'] } {} otherlog = none :=
  (startsWith_killed Archive.binary Program.plain Disk.saved
    (Nodes.single (Filenode.plain (wide ['\\', 'a']))) (Nodes.single (Filenode.plain (wide ['\\', 'b'])))
    { rootDirectory := wide ['D', ':'] } {} stored_saveSecurity).2.2.2 0 _ 1 _ (by decide)

/-- The same kill: the next mount has neither the old store nor the new one. -/
theorem not_startsWith_killed :
    ¬ ∀ (ar : Archive) (p : Program WString) (disk : Disk WString) (old new : Nodes)
        (globals : Globals) (dokanOptions : DokanOptions) (progress : Progress),
      Stored ar p disk globals.rootDirectory old →
      FileMount.StartsWith ar p (saveSecurity ar p disk globals.rootDirectory new progress) globals
          dokanOptions old ∨
        FileMount.StartsWith ar p (saveSecurity ar p disk globals.rootDirectory new progress) globals
          dokanOptions new := by
  intro h
  have hnone : FileMount.construct Archive.binary Program.plain
      (saveSecurity Archive.binary Program.plain Disk.saved (wide ['D', ':'])
        (Nodes.single (Filenode.plain (wide ['\\', 'b']))) (.killed 0))
      (fun _ => Filenode.plain []) 1 { rootDirectory := wide ['D', ':'] } {} otherlog = none :=
    FileMount.construct_of_loadNodes (loadNodes_killed (by decide))
  rcases h Archive.binary Program.plain Disk.saved
      (Nodes.single (Filenode.plain (wide ['\\', 'a'])))
      (Nodes.single (Filenode.plain (wide ['\\', 'b'])))
      { rootDirectory := wide ['D', ':'] } {} (.killed 0) stored_saveSecurity with hold | hnew
  · obtain ⟨m, hm, -⟩ := hold (fun _ => Filenode.plain []) 1 otherlog
    rw [hnone] at hm
    cases hm
  · obtain ⟨m, hm, -⟩ := hnew (fun _ => Filenode.plain []) 1 otherlog
    rw [hnone] at hm
    cases hm

/-! ## Several mounts -/

/-- The files, and what each mount has saved last; nothing saved is an empty store. -/
structure Saves (ι : Type) where
  disk : Disk ι
  last : WString → Nodes

namespace Saves

/-- A save or a load of the mount of a directory. -/
inductive Event
  | saveSecurity (root : WString) (n : Nodes) (opened : Bool)
  | construct (globals : Globals) (dokanOptions : DokanOptions)

/-- The directory of the mount that saves or loads. -/
def Event.root : Event → WString
  | .saveSecurity root _ _ => root
  | .construct globals _ => globals.rootDirectory

/-- A save that opens its file goes through. -/
def step (ar : Archive) (p : Program ι) (s : Saves ι) : Event → Saves ι
  | .saveSecurity root n opened =>
      if opened then
        { disk := SeamlessSmb.saveSecurity ar p s.disk root n .done
          last := Function.update s.last root n }
      else { s with disk := SeamlessSmb.saveSecurity ar p s.disk root n .notOpened }
  | .construct .. => s

/-- A mount that starts has the nodes last saved for its directory. -/
def LoadsOwn (ar : Archive) (p : Program ι) (s : Saves ι) : Event → Prop
  | .saveSecurity .. => True
  | .construct globals dokanOptions =>
      FileMount.StartsWith ar p s.disk globals dokanOptions (s.last globals.rootDirectory)

/-- So does every mount that starts in the course of events. -/
def Isolated (ar : Archive) (p : Program ι) : Saves ι → List Event → Prop
  | _, [] => True
  | s, e :: es => s.LoadsOwn ar p e ∧ Isolated ar p (s.step ar p e) es

/-- Before the first save. -/
def start (heap : Ptr → Filenode) : Saves ι := { disk := fun _ => none, last := fun _ => Nodes.empty heap }

variable {s : Saves ι} {roots : Set WString}

/-- A save reaches the file of its own directory, and no other of these. -/
theorem step_stored (hinj : Set.InjOn p.file roots) (e : Event) (he : e.root ∈ roots)
    (h : ∀ r ∈ roots, Stored ar p s.disk r (s.last r)) :
    ∀ r ∈ roots, Stored ar p (s.step ar p e).disk r ((s.step ar p e).last r) := by
  intro r hr
  cases e with
  | construct globals dokanOptions => exact h r hr
  | saveSecurity root n opened =>
      cases opened with
      | false => exact h r hr
      | true =>
          by_cases hroot : r = root
          · subst hroot
            show Stored ar p _ r (Function.update s.last r n r)
            rw [Function.update_self]
            exact stored_saveSecurity
          · have hfile : p.file r ≠ p.file root := fun heq => hroot (hinj hr he heq)
            have hdisk : SeamlessSmb.saveSecurity ar p s.disk root n .done (p.file r) =
                s.disk (p.file r) := Function.update_of_ne hfile ..
            show Stored ar p (SeamlessSmb.saveSecurity ar p s.disk root n .done) r
              (Function.update s.last root n r)
            rw [Function.update_of_ne hroot]
            unfold Stored
            rw [hdisk]
            exact h r hr

/-- Directories whose files differ do not disturb each other. -/
theorem isolated_of_injOn (hinj : Set.InjOn p.file roots) :
    ∀ (es : List Event) (s : Saves ι), (∀ r ∈ roots, Stored ar p s.disk r (s.last r)) →
      (∀ e ∈ es, e.root ∈ roots) → Isolated ar p s es := by
  intro es
  induction es with
  | nil => exact fun _ _ _ => trivial
  | cons e es ih =>
      intro s h hes
      have he := hes e List.mem_cons_self
      refine ⟨?_, ih _ (step_stored hinj e he h) fun e' he' => hes e' (List.mem_cons_of_mem e he')⟩
      cases e with
      | saveSecurity root n opened => trivial
      | construct globals dokanOptions => exact (h globals.rootDirectory he).startsWith

/-- Two directories with one file: the one is saved, and the other's mount loads it. -/
theorem not_isolated_of_file_eq {r₁ r₂ : WString} (hne : r₁ ≠ r₂) (hfile : p.file r₁ = p.file r₂)
    (heap : Ptr → Filenode) :
    ¬ Isolated ar p (start heap)
      [.saveSecurity r₁ (Nodes.single (Filenode.plain [])) true,
        .construct { rootDirectory := r₂ } {}] := by
  rintro ⟨-, hload, -⟩
  have hlast : Function.update (start heap : Saves ι).last r₁ (Nodes.single (Filenode.plain [])) r₂ =
      Nodes.empty heap := Function.update_of_ne (Ne.symm hne) ..
  have hsingle : FileMount.StartsWith ar p
      (SeamlessSmb.saveSecurity ar p (fun _ => none) r₁ (Nodes.single (Filenode.plain [])) .done)
      { rootDirectory := r₂ } {} (Nodes.single (Filenode.plain [])) := by
    refine Stored.startsWith ?_
    unfold Stored
    rw [← hfile]
    exact stored_saveSecurity
  -- the mount starts with the one node and with none
  obtain ⟨m, hm, hnodes, -⟩ := hload heap 0 otherlog
  obtain ⟨m', hm', hnodes', -⟩ := hsingle heap 0 otherlog
  have heq : m = m' := congrArg Prod.snd (Option.some.inj (hm.symm.trans hm'))
  rw [← heq, hnodes] at hnodes'
  have hlen := congrArg List.length hnodes'
  rw [show (step ar p (start heap) (.saveSecurity r₁ (Nodes.single (Filenode.plain [])) true)).last r₂ =
    Nodes.empty heap from hlast] at hlen
  exact Nat.zero_ne_one hlen

/-- **Isolation.**  Two mounts of different directories load what each has saved, in every
course of events, exactly if their files are different ones. -/
theorem isolated_iff (ar : Archive) (p : Program ι) (heap : Ptr → Filenode) (r₁ r₂ : WString)
    (hne : r₁ ≠ r₂) :
    (∀ es : List Event, (∀ e ∈ es, e.root = r₁ ∨ e.root = r₂) →
      Isolated ar p (start heap) es) ↔
    p.file r₁ ≠ p.file r₂ := by
  constructor
  · intro h hfile
    refine not_isolated_of_file_eq hne hfile heap (h _ ?_)
    intro e he
    rcases List.mem_pair.mp he with rfl | rfl
    · exact Or.inl rfl
    · exact Or.inr rfl
  · intro hfile es hes
    have hinj : Set.InjOn p.file {r | r = r₁ ∨ r = r₂} := by
      rintro r (rfl | rfl) r' (rfl | rfl) heq
      · rfl
      · exact absurd heq hfile
      · exact absurd heq.symm hfile
      · rfl
    exact isolated_of_injOn hinj es (start heap) (fun r _ => Or.inr ⟨rfl, rfl⟩) hes

/-- A mount of `D:` is saved, and then one of `E:` starts and one of `D:`. -/
theorem isolated_drives :
    Isolated Archive.binary Program.plain (start fun _ => Filenode.plain [])
      [.saveSecurity (wide ['D', ':']) (Nodes.single (Filenode.plain (wide ['\\', 'a']))) true,
        .construct { rootDirectory := wide ['E', ':'] } {},
        .construct { rootDirectory := wide ['D', ':'] } {}] :=
  (isolated_iff Archive.binary Program.plain (fun _ => Filenode.plain []) (wide ['D', ':'])
    (wide ['E', ':']) (by decide)).mpr (by decide) _ (by decide)

/-- The directories `D:\a_b` and `D:\a\b` share a file. -/
theorem not_isolated :
    ¬ ∀ (ar : Archive) (p : Program WString) (heap : Ptr → Filenode) (r₁ r₂ : WString), r₁ ≠ r₂ →
      ∀ es : List Event, (∀ e ∈ es, e.root = r₁ ∨ e.root = r₂) → Isolated ar p (start heap) es := by
  intro h
  have hne : wide ['D', ':', '\\', 'a', '_', 'b'] ≠ wide ['D', ':', '\\', 'a', '\\', 'b'] := by decide
  have hfile : Program.plain.file (wide ['D', ':', '\\', 'a', '_', 'b']) =
      Program.plain.file (wide ['D', ':', '\\', 'a', '\\', 'b']) := by decide
  refine not_isolated_of_file_eq hne hfile (fun _ => Filenode.plain [])
    (h Archive.binary Program.plain _ _ _ hne _ ?_)
  decide

end Saves

end

end SeamlessSmb
