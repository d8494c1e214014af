/-
# `Archive` — the node store as bytes

A mount keeps its nodes in a file between two runs.  They are written by a
`boost::archive::binary_oarchive` and read by a `binary_iarchive`, member by
member in the order of the `serialize` functions; a `security_informations` has
a `save` and a `load` of its own, since its descriptor is a size and a loop over
the bytes.

What the archive makes of a number or a string is its own affair (`Archive`);
that it reads back what it wrote is a law of each codec.  The list holds shared
pointers, and an object is written once: in front of each pointer stands the
number of its object, in order of first appearance, and the object follows
where the number is new.

| source | here |
| :-- | :-- |
| `security_informations::save`, `load` | `SecurityInformations.save`, `load` |
| `filenode::serialize` | `Filenode.save`, `load` |
| `Nodes::serialize`, the list | `Nodes.save`, `load`; `savePointers`, `loadPointers` |

**Proved here:** what `save` wrote `load` reads back, for every node and every
list (`Nodes.reads_load`): the same nodes in the same order, sharing included
(`Nodes.Copy`).
-/
import SeamlessSmb.Store
import SeamlessSmb.Lib.Codec

namespace SeamlessSmb

open Stream

/-- A binary archive, opened for writing and for reading: how it writes the values it
is given, the size in front of a collection and the number of an object. -/
structure Archive where
  bool : Codec Byte Bool
  unsignedLong : Codec Byte DWORD
  byte : Codec Byte Byte
  wstring : Codec Byte CodeUnits
  collectionSize : Codec Byte Nat
  objectId : Codec Byte Nat

namespace Archive

/-- A size: eight bytes.  A size that does not fit, which no machine has, is escaped. -/
def size : Codec Byte Nat := (Codec.littleEndian 8).escape (Codec.tally 1 0 (by decide))

/-- The archive of a 64-bit Windows. -/
def binary : Archive where
  bool :=
    Codec.symbol.imap (fun b => some (b ≠ 0)) (fun b => if b then 1 else 0) (by
      intro b
      cases b <;> rfl)
  unsignedLong := Codec.littleEndian 4
  byte := Codec.symbol
  wstring := Codec.list size (Codec.littleEndian 2)
  collectionSize := size
  objectId := (Codec.littleEndian 4).escape (Codec.tally 1 0 (by decide))

/-- A string without a NUL, as one that has its length. -/
def fileName (ar : Archive) : Codec Byte WString :=
  ar.wstring.imap WString.ofUnits WString.units WString.ofUnits_units

end Archive

variable {ar : Archive}

/-! ## `security_informations` -/

/-- The descriptor that `load` allocates and fills. -/
def SecurityDescriptor.ofBytes (bytes : List Byte) : Option SecurityDescriptor :=
  if h : bytes ≠ [] ∧ bytes.length < 0x100000000 then
    some { bytes := bytes, nonempty := h.1, fits := h.2 }
  else none

namespace SecurityInformations

variable {s : SecurityInformations}

/-- What `descriptor` points to. -/
def descriptorBytes (s : SecurityInformations) : List Byte :=
  match s.descriptor with
  | none => []
  | some sd => sd.bytes

/-- `descriptor_size`. -/
def descriptorSize (s : SecurityInformations) : DWORD := BitVec.ofNat 32 s.descriptorBytes.length

/-- `security_informations::save`. -/
def save (ar : Archive) (s : SecurityInformations) : List Byte :=
  ar.wstring.save s.strdescriptor ++
    (ar.unsignedLong.save s.descriptorSize ++
      (List.range s.descriptorSize.toNat).flatMap fun i => ar.byte.save (s.descriptorBytes.getD i 0))

/-- `security_informations::load`. -/
def load (ar : Archive) : Input Byte SecurityInformations := do
  let strdescriptor ← ar.wstring.load
  let size ← ar.unsignedLong.load
  let bytes ← many ar.byte.load size.toNat
  pure { strdescriptor := strdescriptor, descriptor := SecurityDescriptor.ofBytes bytes }

theorem toNat_descriptorSize : s.descriptorSize.toNat = s.descriptorBytes.length := by
  unfold descriptorSize descriptorBytes
  cases s.descriptor with
  | none => rfl
  | some sd => exact Nat.mod_eq_of_lt sd.fits

theorem ofBytes_descriptorBytes : SecurityDescriptor.ofBytes s.descriptorBytes = s.descriptor := by
  unfold descriptorBytes SecurityDescriptor.ofBytes
  cases s.descriptor with
  | none => rfl
  | some sd => exact dif_pos ⟨sd.nonempty, sd.fits⟩

/-- The loop over the indices runs through the bytes. -/
theorem flatMap_range_getD {c : Byte → List Byte} {bytes : List Byte} :
    ((List.range bytes.length).flatMap fun i => c (bytes.getD i 0)) = bytes.flatMap c := by
  have hbytes : (List.range bytes.length).map (bytes.getD · 0) = bytes := by
    refine List.ext_getElem (by simp) fun i h₁ h₂ => ?_
    simp [h₂]
  conv_rhs => rw [← hbytes, List.flatMap_map]

theorem reads_load (s : SecurityInformations) : Reads (load ar) (s.save ar) s := by
  unfold load save
  refine (ar.wstring.reads _).bind ((ar.unsignedLong.reads _).bind ?_)
  have hbytes : Reads (many ar.byte.load s.descriptorBytes.length)
      (s.descriptorBytes.flatMap ar.byte.save) s.descriptorBytes :=
    reads_many ar.byte.reads _
  rw [toNat_descriptorSize, flatMap_range_getD]
  have hs : s = { strdescriptor := s.strdescriptor
                  descriptor := SecurityDescriptor.ofBytes s.descriptorBytes } := by
    rw [ofBytes_descriptorBytes]
  conv => rhs; rw [hs]
  exact hbytes.map

theorem stops_load : Stops (load ar) :=
  ar.wstring.stops.bind fun _ => ar.unsignedLong.stops.bind fun _ =>
    (stops_many ar.byte.stops).bind fun _ => stops_pure

end SecurityInformations

/-! ## `filenode` -/

namespace Filenode

/-- `filenode::serialize` into an archive. -/
def save (ar : Archive) (f : Filenode) : List Byte :=
  ar.bool.save f.isDirectory ++
    (ar.unsignedLong.save f.attributes ++ (ar.fileName.save f.fileName ++ f.security.save ar))

/-- `filenode::serialize` out of an archive. -/
def load (ar : Archive) : Input Byte Filenode := do
  let isDirectory ← ar.bool.load
  let attributes ← ar.unsignedLong.load
  let fileName ← ar.fileName.load
  let security ← SecurityInformations.load ar
  pure { isDirectory := isDirectory, attributes := attributes, fileName := fileName,
         security := security }

theorem reads_load (f : Filenode) : Reads (load ar) (f.save ar) f :=
  (ar.bool.reads _).bind ((ar.unsignedLong.reads _).bind ((ar.fileName.reads _).bind
    (SecurityInformations.reads_load f.security).map))

theorem stops_load : Stops (load ar) :=
  ar.bool.stops.bind fun _ => ar.unsignedLong.stops.bind fun _ => ar.fileName.stops.bind fun _ =>
    SecurityInformations.stops_load.bind fun _ => stops_pure

end Filenode

/-! ## `Nodes` -/

namespace Nodes

variable {n m : Nodes}

/-- The pointers of a list; `seen` are the objects written before, by their numbers. -/
def savePointers (ar : Archive) (heap : Ptr → Filenode) : List Ptr → List Ptr → List Byte
  | _, [] => []
  | seen, p :: ps =>
      if p ∈ seen then ar.objectId.save (seen.idxOf p) ++ savePointers ar heap seen ps
      else
        ar.objectId.save seen.length ++
          ((heap p).save ar ++ savePointers ar heap (seen ++ [p]) ps)

/-- `count` more pointers for a list; `seen` are the objects read before, by their
numbers. -/
def loadPointers (ar : Archive) : Nat → List Ptr → Nodes → Input Byte Nodes
  | 0, _, n => pure n
  | count + 1, seen, n => do
      let id ← ar.objectId.load
      match seen[id]? with
      | some p => loadPointers ar count seen (n.pushBack p)
      | none => do
          let f ← Filenode.load ar
          loadPointers ar count (seen ++ [n.next]) ((n.makeShared f).pushBack n.next)

/-- `Nodes::serialize` into an archive. -/
def save (ar : Archive) (n : Nodes) : List Byte :=
  ar.collectionSize.save n.filenodes.length ++ savePointers ar n.heap [] n.filenodes

/-- `Nodes::serialize` out of an archive, over a store just made. -/
def load (ar : Archive) (heap : Ptr → Filenode) : Input Byte Nodes := do
  let count ← ar.collectionSize.load
  loadPointers ar count [] (empty heap)

/-! ## The same nodes -/

/-- The same nodes in the same order, and where one list has one object twice, so has
the other. -/
structure Copy (n m : Nodes) : Prop where
  nodes : m.filenodes.map m.heap = n.filenodes.map n.heap
  shared : ∀ i j : Nat, m.filenodes[i]? = m.filenodes[j]? ↔ n.filenodes[i]? = n.filenodes[j]?

theorem node_eq_find (fname : WString) :
    n.node fname = (n.filenodes.map n.heap).find? fun f => f.fileName = fname := by
  rw [node, findFileNode_eq, Keyed.first, List.find?_map]
  rfl

/-- A copy answers every search alike. -/
theorem Copy.node (h : Copy n m) : m.node = n.node := by
  funext fname
  rw [node_eq_find, node_eq_find, h.nodes]

theorem Copy.namesDistinct_iff (h : Copy n m) : m.NamesDistinct ↔ n.NamesDistinct := by
  have hnames : ∀ k : Nodes, k.filenodes.map k.name = (k.filenodes.map k.heap).map Filenode.fileName :=
    fun k => by rw [List.map_map]; rfl
  unfold NamesDistinct Keyed.Distinct
  rw [hnames, hnames, h.nodes]

/-! ## Reading a list back -/

/-- The objects met so far, where they were and where they are now, by their numbers. -/
structure Objects (heap : Ptr → Filenode) (m : Nodes) (objs : List (Ptr × Ptr)) : Prop where
  written : (objs.map Prod.fst).Nodup
  read : (objs.map Prod.snd).Nodup
  made : ∀ o ∈ objs, o.2 < m.next
  same : ∀ o ∈ objs, m.heap o.2 = heap o.1

namespace Objects

variable {heap : Ptr → Filenode} {objs : List (Ptr × Ptr)} {p q : Ptr}

theorem pushBack (h : Objects heap m objs) : Objects heap (m.pushBack q) objs :=
  ⟨h.written, h.read, fun o ho => Nat.lt_of_lt_of_le (h.made o ho) (Nat.le_max_left ..), h.same⟩

/-- A new number, and behind it a new object. -/
theorem makeShared (h : Objects heap m objs) (hp : p ∉ objs.map Prod.fst) :
    Objects heap (m.makeShared (heap p)) (objs ++ [(p, m.next)]) := by
  have hfresh : m.next ∉ objs.map Prod.snd := by
    intro hin
    obtain ⟨o, ho, heq⟩ := List.mem_map.mp hin
    exact Nat.lt_irrefl _ (heq ▸ h.made o ho)
  constructor
  · rw [List.map_append]
    exact h.written.append (List.nodup_singleton _) (by simpa using hp)
  · rw [List.map_append]
    exact h.read.append (List.nodup_singleton _) (by simpa using hfresh)
  · intro o ho
    rcases List.mem_append.mp ho with ho | ho
    · exact Nat.lt_succ_of_lt (h.made o ho)
    · rw [List.mem_singleton.mp ho]
      exact Nat.lt_succ_self _
  · intro o ho
    rcases List.mem_append.mp ho with ho | ho
    · rw [← h.same o ho]
      exact Function.update_of_ne (Nat.ne_of_lt (h.made o ho)) ..
    · rw [List.mem_singleton.mp ho]
      exact Function.update_self ..

/-- The number of an object written before leads to it. -/
theorem getElem?_idxOf (hp : p ∈ objs.map Prod.fst) :
    ∃ q, (objs.map Prod.snd)[(objs.map Prod.fst).idxOf p]? = some q ∧ (p, q) ∈ objs := by
  have hlt := List.idxOf_lt_length_of_mem hp
  rw [List.length_map] at hlt
  have hfst : objs[(objs.map Prod.fst).idxOf p].1 = p := by
    have hget := List.getElem_idxOf (x := p) (List.idxOf_lt_length_of_mem hp)
    rw [List.getElem_map] at hget
    exact hget
  refine ⟨objs[(objs.map Prod.fst).idxOf p].2, ?_, ?_⟩
  · rw [List.getElem?_map, List.getElem?_eq_getElem hlt]
    rfl
  · have hmem := List.getElem_mem hlt
    rwa [show objs[(objs.map Prod.fst).idxOf p] = (p, objs[(objs.map Prod.fst).idxOf p].2) from
      Prod.ext hfst rfl] at hmem

end Objects

/-- **The pointers of a list.**  Each is read as the object its number or the bytes behind
it stand for; `objs` grows along the list. -/
theorem reads_loadPointers (ar : Archive) {heap : Ptr → Filenode} (ps : List Ptr) :
    ∀ {objs : List (Ptr × Ptr)} {m : Nodes}, Objects heap m objs →
      ∃ m' objs' qs,
        Reads (loadPointers ar ps.length (objs.map Prod.snd) m)
          (savePointers ar heap (objs.map Prod.fst) ps) m' ∧
        Objects heap m' objs' ∧ objs ⊆ objs' ∧ m'.filenodes = m.filenodes ++ qs ∧
        List.Forall₂ (fun p q => (p, q) ∈ objs') ps qs := by
  induction ps with
  | nil =>
      intro objs m h
      exact ⟨m, objs, [], reads_pure, h, List.Subset.refl _, (List.append_nil _).symm, .nil⟩
  | cons p ps ih =>
      intro objs m h
      rw [List.length_cons, loadPointers, savePointers]
      by_cases hp : p ∈ objs.map Prod.fst
      · -- an object written before
        obtain ⟨q, hq, hpq⟩ := Objects.getElem?_idxOf hp
        obtain ⟨m', objs', qs, hreads, hobjs, hsub, hlist, hall⟩ := ih (h.pushBack (q := q))
        refine ⟨m', objs', q :: qs, ?_, hobjs, hsub, ?_, .cons (hsub hpq) hall⟩
        · rw [if_pos hp]
          refine (ar.objectId.reads _).bind ?_
          rw [hq]
          exact hreads
        · rw [hlist]
          exact List.append_assoc ..
      · -- a new one
        have hnew := (h.makeShared hp).pushBack (q := m.next)
        obtain ⟨m', objs', qs, hreads, hobjs, hsub, hlist, hall⟩ := ih hnew
        refine ⟨m', objs', m.next :: qs, ?_, hobjs, ?_, ?_, .cons ?_ hall⟩
        · rw [if_neg hp]
          refine (ar.objectId.reads _).bind ?_
          rw [List.length_map, List.getElem?_eq_none (Nat.le_of_eq (List.length_map _))]
          refine (Filenode.reads_load (heap p)).bind ?_
          rw [List.map_append, List.map_append] at hreads
          exact hreads
        · exact fun o ho => hsub (List.mem_append_left _ ho)
        · rw [hlist]
          exact List.append_assoc ..
        · exact hsub (List.mem_append_right _ (List.mem_singleton_self _))

theorem stops_loadPointers {count : Nat} :
    ∀ {seen : List Ptr} {m : Nodes}, Stops (loadPointers ar count seen m) := by
  induction count with
  | zero => exact stops_pure
  | succ count ih =>
      intro seen m
      refine ar.objectId.stops.bind fun id => ?_
      cases seen[id]? with
      | some p => exact ih
      | none => exact Filenode.stops_load.bind fun f => ih

theorem stops_load {heap : Ptr → Filenode} : Stops (load ar heap) :=
  ar.collectionSize.stops.bind fun _ => stops_loadPointers

/-- Two lists of the same objects are copies. -/
theorem Objects.copy {objs : List (Ptr × Ptr)} (h : Objects n.heap m objs)
    (hall : List.Forall₂ (fun p q => (p, q) ∈ objs) n.filenodes m.filenodes) : Copy n m := by
  obtain ⟨hlen, hget⟩ := List.forall₂_iff_get.mp hall
  have hpair : ∀ i : Nat, n.filenodes[i]? = none ∧ m.filenodes[i]? = none ∨
      ∃ o ∈ objs, n.filenodes[i]? = some o.1 ∧ m.filenodes[i]? = some o.2 := by
    intro i
    by_cases hi : i < n.filenodes.length
    · have hi' : i < m.filenodes.length := hlen ▸ hi
      exact Or.inr ⟨_, hget i hi hi', List.getElem?_eq_getElem hi, List.getElem?_eq_getElem hi'⟩
    · refine Or.inl ⟨List.getElem?_eq_none (by omega), List.getElem?_eq_none (by omega)⟩
  constructor
  · refine List.ext_getElem? fun i => ?_
    rw [List.getElem?_map, List.getElem?_map]
    rcases hpair i with ⟨hn, hm⟩ | ⟨o, ho, hn, hm⟩
    · rw [hn, hm]
      rfl
    · rw [hn, hm]
      exact congrArg some (h.same o ho)
  · intro i j
    rcases hpair i with ⟨hn, hm⟩ | ⟨o, ho, hn, hm⟩
    · rcases hpair j with ⟨hn', hm'⟩ | ⟨o', ho', hn', hm'⟩
      · rw [hn, hm, hn', hm']
      · rw [hn, hm, hn', hm']
        simp
    · rcases hpair j with ⟨hn', hm'⟩ | ⟨o', ho', hn', hm'⟩
      · rw [hn, hm, hn', hm']
        simp
      · rw [hn, hm, hn', hm', Option.some_inj, Option.some_inj]
        constructor
        · intro heq
          rw [List.inj_on_of_nodup_map h.read ho ho' heq]
        · intro heq
          rw [List.inj_on_of_nodup_map h.written ho ho' heq]

/-- **A store written and read back** is a copy. -/
theorem reads_load (ar : Archive) (n : Nodes) (heap : Ptr → Filenode) :
    ∃ m, Reads (load ar heap) (n.save ar) m ∧ Copy n m := by
  have hempty : Objects n.heap (empty heap) [] :=
    ⟨List.nodup_nil, List.nodup_nil, fun o ho => absurd ho List.not_mem_nil,
      fun o ho => absurd ho List.not_mem_nil⟩
  obtain ⟨m, objs, qs, hreads, hobjs, -, hlist, hall⟩ :=
    reads_loadPointers ar n.filenodes hempty
  have hqs : m.filenodes = qs := hlist.trans (List.nil_append qs)
  exact ⟨m, (ar.collectionSize.reads _).bind hreads, hobjs.copy (hqs ▸ hall)⟩

end Nodes

end SeamlessSmb
