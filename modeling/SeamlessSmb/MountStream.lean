/-
# `MountStream` — mounts on a `QDataStream`

The controller, the service and the settings file exchange mounts through two operators of
`common.cpp`, which write the fields of a `MountInfo` and read them in the same order.  The
option word is an `unsigned long`, of four bytes or of eight, and goes as the integer of its size.

How Qt writes a string, a `bool`, a uuid and an integer is left open (`QDataStream`); what is
written is read back, and no more.  `QDataStream.bigEndian` does it by the documentation.

A string here may be null, which is not empty, and hold any characters; the rest of the
development knows of no null strings and of option words of four bytes (`MountInfo.streamed`).

**Proved here:** mounts written one after the other are read back one after the other, with
nothing taken of what follows (`mountInfos_read`).
-/
import SeamlessSmb.Lib.Codec
import SeamlessSmb.Mount

namespace SeamlessSmb

open Stream

/-! ## The stream -/

/-- A `QString`; a null string is `none`. -/
abbrev QString := Option (List (BitVec 16))

/-- `operator<<` and `operator>>` of a type: what is written is read back, and no more. -/
structure StreamOperators (α : Type) where
  write : α → List (BitVec 8)
  read : Input (BitVec 8) α
  reads : ∀ a, Reads read (write a) a

/-- The operators of Qt. -/
structure QDataStream where
  qstring : StreamOperators QString
  bool : StreamOperators Bool
  quuid : StreamOperators (BitVec 128)
  quint32 : StreamOperators (BitVec 32)
  quint64 : StreamOperators (BitVec 64)

namespace DataStream

/-- `MountInfo` with its strings as Qt has them; `size` is `sizeof(unsigned long)`. -/
structure MountInfo (size : ℕ) where
  rootDirectory : QString := none
  mountPoint : QString := none
  uncName : QString := none
  volname : QString := none
  caseSensitive : Bool := false
  impersonateCallerUser : Bool := false
  hasSeSecurityPrivilege : Bool := false
  uuid : BitVec 128
  enabled : Bool := false
  keepAlive : Bool := false
  debug : Bool := false
  cerr : Bool := false
  singlethreaded : Bool := false
  options : BitVec (8 * size) := 0

variable {size : ℕ} (s : QDataStream)

/-- The end of `operator<<`. -/
def writeOptions (options : BitVec (8 * size)) : List (BitVec 8) :=
  if size = 4 then s.quint32.write (options.setWidth 32)
  else if size = 8 then s.quint64.write (options.setWidth 64)
  else []

/-- The end of `operator>>`; `options` is what was there. -/
def readOptions (options : BitVec (8 * size)) : Input (BitVec 8) (BitVec (8 * size)) :=
  if size = 4 then do
    let opt ← s.quint32.read
    pure (opt.setWidth (8 * size))
  else if size = 8 then do
    let opt ← s.quint64.read
    pure (opt.setWidth (8 * size))
  else pure options

/-- `operator<<`. -/
def write (v : MountInfo size) : List (BitVec 8) :=
  s.qstring.write v.rootDirectory ++ (s.qstring.write v.mountPoint ++ (s.qstring.write v.uncName ++
    (s.qstring.write v.volname ++ (s.bool.write v.caseSensitive ++ (s.bool.write v.impersonateCallerUser ++
    (s.bool.write v.hasSeSecurityPrivilege ++ (s.quuid.write v.uuid ++ (s.bool.write v.debug ++
    (s.bool.write v.cerr ++ (s.bool.write v.singlethreaded ++ (s.bool.write v.enabled ++
    (s.bool.write v.keepAlive ++ writeOptions s v.options))))))))))))

/-- `operator>>` into a variable that holds `v`. -/
def read (v : MountInfo size) : Input (BitVec 8) (MountInfo size) := do
  let rootDirectory ← s.qstring.read
  let mountPoint ← s.qstring.read
  let uncName ← s.qstring.read
  let volname ← s.qstring.read
  let caseSensitive ← s.bool.read
  let impersonateCallerUser ← s.bool.read
  let hasSeSecurityPrivilege ← s.bool.read
  let uuid ← s.quuid.read
  let debug ← s.bool.read
  let cerr ← s.bool.read
  let singlethreaded ← s.bool.read
  let enabled ← s.bool.read
  let keepAlive ← s.bool.read
  let options ← readOptions s v.options
  pure
    { rootDirectory := rootDirectory
      mountPoint := mountPoint
      uncName := uncName
      volname := volname
      caseSensitive := caseSensitive
      impersonateCallerUser := impersonateCallerUser
      hasSeSecurityPrivilege := hasSeSecurityPrivilege
      uuid := uuid
      enabled := enabled
      keepAlive := keepAlive
      debug := debug
      cerr := cerr
      singlethreaded := singlethreaded
      options := options }

/-- One element after the other, each into its variable. -/
def readEach : List (MountInfo size) → Input (BitVec 8) (List (MountInfo size))
  | [] => pure []
  | v :: vs => do
      let a ← read s v
      let as ← readEach vs
      pure (a :: as)

section

variable {s} {v old : MountInfo size}

/-- The option word comes back, whichever of the two sizes it has. -/
theorem reads_options (hsize : size = 4 ∨ size = 8) :
    Reads (readOptions s old.options) (writeOptions s v.options) v.options := by
  unfold readOptions writeOptions
  rcases hsize with rfl | rfl
  · rw [if_pos rfl, if_pos rfl]
    have hread := (s.quint32.reads (v.options.setWidth 32)).map (f := fun opt => opt.setWidth (8 * 4))
    rwa [BitVec.setWidth_eq, BitVec.setWidth_eq] at hread
  · rw [if_neg (by decide), if_pos rfl, if_neg (by decide), if_pos rfl]
    have hread := (s.quint64.reads (v.options.setWidth 64)).map (f := fun opt => opt.setWidth (8 * 8))
    rwa [BitVec.setWidth_eq, BitVec.setWidth_eq] at hread

theorem reads_mountInfo (hsize : size = 4 ∨ size = 8) : Reads (read s old) (write s v) v := by
  refine (s.qstring.reads _).bind ((s.qstring.reads _).bind ((s.qstring.reads _).bind ?_))
  refine (s.qstring.reads _).bind ((s.bool.reads _).bind ((s.bool.reads _).bind ?_))
  refine (s.bool.reads _).bind ((s.quuid.reads _).bind ((s.bool.reads _).bind ?_))
  refine (s.bool.reads _).bind ((s.bool.reads _).bind ((s.bool.reads _).bind ?_))
  exact (s.bool.reads _).bind (reads_options hsize).map

/-- Element by element, whatever the variables held. -/
theorem reads_each (hsize : size = 4 ∨ size = 8) {vs olds : List (MountInfo size)}
    (hlength : olds.length = vs.length) : Reads (readEach s olds) (vs.flatMap (write s)) vs := by
  induction vs generalizing olds with
  | nil =>
      rw [List.length_eq_zero_iff.mp hlength]
      exact reads_pure
  | cons v vs ih =>
      cases olds with
      | nil => cases hlength
      | cons old olds => exact (reads_mountInfo hsize).bind (ih (Nat.succ.inj hlength)).map

/-- **Mounts on a stream** are read back, every field as it was, and what follows is left. -/
theorem mountInfos_read (hsize : size = 4 ∨ size = 8) {vs olds : List (MountInfo size)}
    (hlength : olds.length = vs.length) (rest : List (BitVec 8)) :
    (readEach s olds).run (vs.flatMap (write s) ++ rest) = some (vs, rest) :=
  reads_each hsize hlength rest

end

end DataStream

/-! ## The stream of Qt -/

namespace QDataStream

/-- The word that stands for a null string, and the one before it, for a long one. -/
def nullLength : BitVec 32 := 0xFFFFFFFF

def longLength : BitVec 32 := 0xFFFFFFFE

theorem mark_ne_stop : (1 : BitVec 8) ≠ 0 := by decide

/-- The number of bytes of a string.  One that does not fit the word, for which Qt takes eight
bytes, is a `tally`. -/
def writeLength : Option ℕ → List (BitVec 8)
  | none => (Codec.bigEndian 4).save nullLength
  | some n =>
      if n < longLength.toNat then (Codec.bigEndian 4).save (BitVec.ofNat 32 n)
      else (Codec.bigEndian 4).save longLength ++ (Codec.tally 1 0 mark_ne_stop).save n

def readLength : Input (BitVec 8) (Option ℕ) := do
  let word ← (Codec.bigEndian 4).load
  if word = nullLength then pure none
  else if word = longLength then do
    let n ← (Codec.tally 1 0 mark_ne_stop).load
    pure (some n)
  else pure (some word.toNat)

theorem reads_length (length : Option ℕ) : Reads readLength (writeLength length) length := by
  cases length with
  | none =>
      rw [writeLength, ← List.append_nil (Codec.save _ _)]
      refine ((Codec.bigEndian 4).reads nullLength).bind ?_
      rw [if_pos rfl]
      exact reads_pure
  | some n =>
      rw [writeLength]
      by_cases hshort : n < longLength.toNat
      · have hn : (BitVec.ofNat 32 n).toNat = n :=
          Nat.mod_eq_of_lt (Nat.lt_trans hshort longLength.isLt)
        have hne : ∀ word : BitVec 32, longLength.toNat ≤ word.toNat → BitVec.ofNat 32 n ≠ word := by
          rintro word hword rfl
          rw [hn] at hword
          exact Nat.not_le_of_lt hshort hword
        rw [if_pos hshort, ← List.append_nil (Codec.save _ _)]
        refine ((Codec.bigEndian 4).reads (BitVec.ofNat 32 n)).bind ?_
        rw [if_neg (hne nullLength (by decide)), if_neg (hne longLength (Nat.le_refl _)), hn]
        exact reads_pure
      · rw [if_neg hshort]
        refine ((Codec.bigEndian 4).reads longLength).bind ?_
        rw [if_neg (by decide), if_pos rfl]
        exact ((Codec.tally 1 0 mark_ne_stop).reads n).map

/-- A string: its length, and its characters. -/
def writeString : QString → List (BitVec 8)
  | none => writeLength none
  | some cs => writeLength (some (2 * cs.length)) ++ cs.flatMap (Codec.bigEndian 2).save

def readString : Input (BitVec 8) QString := do
  let length ← readLength
  match length with
  | none => pure none
  | some bytes => do
      let cs ← many (Codec.bigEndian 2).load (bytes / 2)
      pure (some cs)

theorem reads_string (str : QString) : Reads readString (writeString str) str := by
  cases str with
  | none =>
      rw [writeString, ← List.append_nil (writeLength none)]
      exact (reads_length none).bind reads_pure
  | some cs =>
      refine (reads_length (some (2 * cs.length))).bind ?_
      show Reads (many (Codec.bigEndian 2).load (2 * cs.length / 2) >>= fun cs => pure (some cs)) _ _
      rw [Nat.mul_div_cancel_left _ (by decide)]
      exact (reads_many (Codec.bigEndian 2).reads cs).map

/-- A codec as operators. -/
def operators {α : Type} (c : Codec (BitVec 8) α) : StreamOperators α where
  write := c.save
  read := c.load
  reads := c.reads

/-- The stream as it is documented: every integer with its highest byte first, and a uuid as its
fields. -/
def bigEndian : QDataStream where
  qstring := { write := writeString, read := readString, reads := reads_string }
  bool :=
    operators (Codec.symbol.imap (fun b => some (b ≠ 0)) (fun b => if b then 1 else 0) (by
      intro b
      cases b <;> rfl))
  quuid := operators (Codec.bigEndian 16)
  quint32 := operators (Codec.bigEndian 4)
  quint64 := operators (Codec.bigEndian 8)

end QDataStream

/-- Two mounts with option words of eight bytes, and strings null, empty and with a NUL inside. -/
def twoMounts : List (DataStream.MountInfo 8) :=
  [{ rootDirectory := some [], uuid := 7, options := 0x100000001 },
    { mountPoint := some [0x4D, 0], uuid := 9, keepAlive := true }]

/-- They are read back, and a byte that follows is left. -/
theorem mountInfos_read_two :
    (DataStream.readEach .bigEndian [{ uuid := 0 }, { uuid := 1 }]).run
      (twoMounts.flatMap (DataStream.write .bigEndian) ++ [5]) = some (twoMounts, [5]) :=
  DataStream.mountInfos_read (Or.inr rfl) (show [_, _].length = twoMounts.length from rfl) [5]

/-! ## The mounts of the other modules -/

/-- The characters of a string that is not null. -/
def WString.toQString (str : WString) : QString := some (str.map Subtype.val)

/-- The string without its NULs; a null string is taken as empty. -/
def QString.toWString (str : QString) : WString :=
  (str.getD []).filterMap fun c => if h : c ≠ 0 then some ⟨c, h⟩ else none

theorem toWString_toQString (str : WString) : QString.toWString (WString.toQString str) = str := by
  show (str.map Subtype.val).filterMap _ = str
  induction str with
  | nil => rfl
  | cons c str ih =>
      rw [List.map_cons, List.filterMap_cons, dif_pos c.2, ih]

/-- A mount as it is sent. -/
def MountInfo.streamed (info : MountInfo) : DataStream.MountInfo 4 where
  rootDirectory := WString.toQString info.rootDirectory
  mountPoint := WString.toQString info.mountPoint
  uncName := WString.toQString info.uncName
  volname := WString.toQString info.volname
  caseSensitive := info.caseSensitive
  impersonateCallerUser := info.impersonateCallerUser
  hasSeSecurityPrivilege := info.hasSeSecurityPrivilege
  uuid := info.uuid
  enabled := info.enabled
  keepAlive := info.keepAlive
  debug := info.debug
  cerr := info.cerr
  singlethreaded := info.singlethreaded
  options := info.options

/-- A mount as it is taken. -/
def DataStream.MountInfo.received (v : DataStream.MountInfo 4) : SeamlessSmb.MountInfo where
  rootDirectory := QString.toWString v.rootDirectory
  mountPoint := QString.toWString v.mountPoint
  uncName := QString.toWString v.uncName
  volname := QString.toWString v.volname
  caseSensitive := v.caseSensitive
  impersonateCallerUser := v.impersonateCallerUser
  hasSeSecurityPrivilege := v.hasSeSecurityPrivilege
  uuid := v.uuid
  enabled := v.enabled
  keepAlive := v.keepAlive
  debug := v.debug
  cerr := v.cerr
  singlethreaded := v.singlethreaded
  options := v.options

theorem received_streamed (info : MountInfo) : info.streamed.received = info := by
  simp only [MountInfo.streamed, DataStream.MountInfo.received, toWString_toQString]

/-- **The mounts sent are the mounts taken.** -/
theorem reads_received {s : QDataStream} {infos : List MountInfo} {olds : List (DataStream.MountInfo 4)}
    (hlength : olds.length = infos.length) :
    Reads (DataStream.readEach s olds >>= fun vs => pure (vs.map DataStream.MountInfo.received))
      ((infos.map MountInfo.streamed).flatMap (DataStream.write s)) infos := by
  have hlength' : olds.length = (infos.map MountInfo.streamed).length := by
    rw [hlength, List.length_map]
  have hsame : (infos.map MountInfo.streamed).map DataStream.MountInfo.received = infos := by
    rw [List.map_map]
    exact (List.map_congr_left fun info _ => received_streamed info).trans (List.map_id infos)
  have hread := (DataStream.reads_each (s := s) (Or.inl rfl) hlength').map
    (f := List.map DataStream.MountInfo.received)
  rwa [hsame] at hread

end SeamlessSmb
