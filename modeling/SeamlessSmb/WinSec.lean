/-
# `WinSec` — putting a new security descriptor together

`RtlpSetSecurityObject` takes each part of a descriptor from another one, if it is asked to, and
else from the old, and lays the parts out in a block of its own.  How long the block has to be is
added up before; where the parts go is decided as they are copied.

What `HeapAlloc` delivers is left open but for the length.  The function goes on when it delivers
nothing, and writes to address zero (`Ended.outside`).

**Proved here:** both agree.  Whatever the lengths, each part lies on a boundary of four bytes,
apart from the others, behind the header and in the block; and the parts that are read back are the
ones that were chosen (`rtlpSetSecurityObject_encodes`).  What is set again and again has each part
from whoever was asked for it last (`setAll_part`).
-/
import SeamlessSmb.Platform.SecurityDescriptor

namespace SeamlessSmb.WinSec

open Packing

/-! ## Sizes -/

abbrev SIZE_T := BitVec 64

/-- `ROUND_UP`.  The cast to `ULONG` that `ROUND_DOWN` makes takes only the first term of the sum
that it is handed, so the sum is of type `size_t`. -/
def roundUp (n : ULONG) (align : SIZE_T) : SIZE_T := (n.setWidth 64 + align - 1) &&& ~~~(align - 1)

def sizeofULONG : SIZE_T := 4

/-- `sizeof(SECURITY_DESCRIPTOR_RELATIVE)`. -/
def sizeofRelative : SIZE_T := 20

/-- The sum is of type `size_t`; the variable is not. -/
def ulNewSdSize (ulOwnerSidSize ulGroupSidSize ulDaclSize ulSaclSize : ULONG) : ULONG :=
  (sizeofRelative +
    roundUp ulOwnerSidSize sizeofULONG +
    roundUp ulGroupSidSize sizeofULONG +
    roundUp ulDaclSize sizeofULONG +
    roundUp ulSaclSize sizeofULONG).setWidth 32

theorem and_not_three {w : ℕ} {x : BitVec w} : x &&& ~~~3#w = (x >>> 2) <<< 2 := by
  refine BitVec.eq_of_getLsbD_eq fun i hi => ?_
  rw [BitVec.getLsbD_and, BitVec.getLsbD_shiftLeft, BitVec.getLsbD_ushiftRight]
  match i with
  | 0 => simp [BitVec.getLsbD_ofNat, Nat.testBit]
  | 1 => simp [BitVec.getLsbD_ofNat, Nat.testBit]
  | i + 2 =>
      have hmask : (~~~3#w).getLsbD (i + 2) = true := by
        rw [BitVec.getLsbD_not, BitVec.getLsbD_ofNat, Nat.testBit_add]
        simp [hi]
      rw [hmask]
      simp [hi, Nat.add_comm]

/-- The next multiple of four. -/
def rounded (n : ℕ) : ℕ := (n + 3) / 4 * 4

theorem toNat_roundUp {n : ULONG} : (roundUp n sizeofULONG).toNat = rounded n.toNat := by
  have hn := n.isLt
  have hsum : (n.setWidth 64 + sizeofULONG - 1).toNat = n.toNat + 3 := by
    unfold sizeofULONG
    bv_omega
  have hmask : ~~~(sizeofULONG - 1) = ~~~3#64 := by decide
  unfold roundUp rounded
  rw [hmask, and_not_three, BitVec.toNat_shiftLeft, BitVec.toNat_ushiftRight, hsum,
    Nat.shiftRight_eq_div_pow, Nat.shiftLeft_eq]
  omega

theorem le_rounded {n : ℕ} : n ≤ rounded n := by
  unfold rounded
  omega

theorem dvd_rounded {n : ℕ} : 4 ∣ rounded n := Nat.dvd_mul_left 4 _

/-- **No overflow.** -/
theorem toNat_ulNewSdSize {o g d s : ULONG} (ho : o.toNat < 65536) (hg : g.toNat < 65536)
    (hd : d.toNat < 65536) (hs : s.toNat < 65536) : (ulNewSdSize o g d s).toNat =
      20 + rounded o.toNat + rounded g.toNat + rounded d.toNat + rounded s.toNat := by
  have hsum : sizeofRelative.toNat = 20 := rfl
  unfold ulNewSdSize
  simp only [BitVec.toNat_setWidth, BitVec.toNat_add, toNat_roundUp, hsum, rounded]
  omega

/-! ## The parts of the new descriptor -/

def ERROR_INVALID_OWNER : NTSTATUS := 1307
def ERROR_INVALID_PRIMARY_GROUP : NTSTATUS := 1308

/-- Why the function stops early. -/
inductive Stop
  | returns (status : NTSTATUS)
  | outside
  deriving DecidableEq

/-- Where there is nothing to read or to write, the program is at its end. -/
def reach {α : Type} : Option α → Except Stop α
  | some a => .ok a
  | none => .error .outside

/-- `if (call == 0) return GetLastError();` -/
def checked {α : Type} : Option (Except DWORD α) → Except Stop α
  | some (.ok a) => .ok a
  | some (.error e) => .error (.returns e)
  | none => .error .outside

/-- "Change the Owner SID" and "Change the Group SID": the SID, its size, and `Defaulted`. -/
def changeSid (p : SidPart) (invalid : NTSTATUS) (SecurityInformation : DWORD)
    (modification object : Descriptor) : Except Stop (Bytes × ULONG × Bool) := do
  let sid ←
    (if SecurityInformation &&& (Part.sid p).information ≠ 0 then checked (fetchSid p modification)
    else checked (fetchSid p object))
  match sid with
  | none => .error (.returns invalid)
  | some (sid, Defaulted) =>
      if isValidSid sid then do
        let size ← reach (getLengthSid sid)
        pure (sid, size, Defaulted)
      else .error (.returns invalid)

def changeOwner := changeSid .owner ERROR_INVALID_OWNER
def changeGroup := changeSid .group ERROR_INVALID_PRIMARY_GROUP

/-- "Change the DACL" and "Change the SACL": the ACL, `Defaulted` and `Control`.  Where there is no
ACL, `Defaulted` is what it was. -/
def changeAcl (p : AclPart) (SecurityInformation : DWORD) (modification object : Descriptor)
    (Defaulted : Bool) (Control : WORD) : Except Stop (Pointer × Bool × WORD) :=
  if SecurityInformation &&& (Part.acl p).information ≠ 0 then do
    let acl ← checked (fetchAcl p modification)
    pure (acl.bind Prod.fst, (acl.map Prod.snd).getD Defaulted, Control ||| p.present)
  else do
    let acl ← checked (fetchAcl p object)
    let Defaulted := (acl.map Prod.snd).getD Defaulted
    let Control := if acl.isSome then Control ||| p.present else Control
    let Control := if Defaulted then Control ||| p.defaulted else Control
    pure (acl.bind Prod.fst, Defaulted, Control)

def changeDacl := changeAcl .dacl
def changeSacl := changeAcl .sacl

/-- `AclSize`, if there is an ACL. -/
def sizeOfAcl : Pointer → Except Stop ULONG
  | none => pure 0
  | some acl => do
      let size ← reach (aclSize acl)
      pure (size.setWidth 32)

/-- The local variables, when the parts have been found. -/
structure NewParts where
  pOwnerSid : Bytes
  ulOwnerSidSize : ULONG
  pGroupSid : Bytes
  ulGroupSidSize : ULONG
  pDacl : Pointer
  ulDaclSize : ULONG
  pSacl : Pointer
  ulSaclSize : ULONG
  Control : WORD

def newParts (SecurityInformation : DWORD) (modification object : Descriptor) :
    Except Stop NewParts := do
  let (pOwnerSid, ulOwnerSidSize, _) ← changeOwner SecurityInformation modification object
  let (pGroupSid, ulGroupSidSize, Defaulted) ← changeGroup SecurityInformation modification object
  let (pDacl, Defaulted, Control) ←
    changeDacl SecurityInformation modification object Defaulted SE_SELF_RELATIVE
  let ulDaclSize ← sizeOfAcl pDacl
  let (pSacl, _, Control) ← changeSacl SecurityInformation modification object Defaulted Control
  let ulSaclSize ← sizeOfAcl pSacl
  pure
    { pOwnerSid, ulOwnerSidSize, pGroupSid, ulGroupSidSize, pDacl, ulDaclSize, pSacl, ulSaclSize,
      Control }

/-! ## The new descriptor -/

/-- What `HeapAlloc` delivers is as long as it was asked to be. -/
abbrev HeapAlloc := (size : ULONG) → Option { m : Bytes // m.length = size.toNat }

/-- `RtlCreateSecurityDescriptorRelative`. -/
def rtlCreateSecurityDescriptorRelative (sd : Pointer) (Revision : ULONG) :
    Option (NTSTATUS × Pointer) :=
  if Revision ≠ SECURITY_DESCRIPTOR_REVISION then
    some (ERROR_UNKNOWN_REVISION, sd)
  else do
    let m ← sd
    let m ← Block.write m 0 (List.replicate sizeofRelative.toNat 0)
    let m ← store 1 m 0 (SECURITY_DESCRIPTOR_REVISION.setWidth 8)
    let m ← store 2 m 2 SE_SELF_RELATIVE
    some (ERROR_SUCCESS, some m)

/-- A part is copied to `pDest`, its offset stored, and `pDest` moved on. -/
def copyPart (p : Part) (source : Bytes) (size : ULONG) (sd : Bytes) (pDest : ℕ) :
    Option (Bytes × ℕ) := do
  let bytes ← Block.read source 0 size.toNat
  let sd ← Block.write sd pDest bytes
  let sd ← store 4 sd (relativeHeader.field p) (BitVec.ofNat 32 pDest)
  some (sd, pDest + (roundUp size sizeofULONG).toNat)

/-- A part is copied if it is there. -/
def copyNonNull (p : Part) (source : Pointer) (size : ULONG) (sd : Bytes) (pDest : ℕ) :
    Option (Bytes × ℕ) :=
  match source with
  | none => some (sd, pDest)
  | some source => copyPart p source size sd pDest

/-- From the allocation on; nothing comes of it if the block is not there or too short.  A block
that could not be initialized is freed and then written to all the same. -/
def newDescriptor (heapAlloc : HeapAlloc) (parts : NewParts) : Option (NTSTATUS × Bytes) := do
  let size := ulNewSdSize parts.ulOwnerSidSize parts.ulGroupSidSize parts.ulDaclSize parts.ulSaclSize
  let pNewSd := (heapAlloc size).map Subtype.val
  let (Status, pNewSd) ← rtlCreateSecurityDescriptorRelative pNewSd SECURITY_DESCRIPTOR_REVISION
  if Status ≠ ERROR_SUCCESS then none
  else do
    let sd ← pNewSd
    let sd ← store 2 sd 2 parts.Control
    let (sd, pDest) ← copyNonNull (.acl .sacl) parts.pSacl parts.ulSaclSize sd sizeofRelative.toNat
    let (sd, pDest) ← copyNonNull (.acl .dacl) parts.pDacl parts.ulDaclSize sd pDest
    let (sd, pDest) ← copyPart (.sid .owner) parts.pOwnerSid parts.ulOwnerSidSize sd pDest
    -- the source leaves `pDest` where it is here, and does not use it again
    let (sd, _) ← copyPart (.sid .group) parts.pGroupSid parts.ulGroupSidSize sd pDest
    some (Status, sd)

/-- How a call ends: with a status, `*ObjectsSecurityDescriptor` and what has been freed, or where
there is no memory. -/
inductive Ended
  | returns (status : NTSTATUS) (object : Descriptor) (freed : List Descriptor)
  | outside

/-- `RtlpSetSecurityObject`. -/
def rtlpSetSecurityObject (heapAlloc : HeapAlloc) (SecurityInformation : DWORD)
    (modification object : Descriptor) : Ended :=
  match newParts SecurityInformation modification object with
  | .error (.returns status) => .returns status object []
  | .error .outside => .outside
  | .ok parts =>
      match newDescriptor heapAlloc parts with
      | some (status, sd) => .returns status (.relative sd) [object]
      | none => .outside

/-! ## Which parts -/

/-- Each part, of the descriptor it is to come from. -/
def chosen (SecurityInformation : DWORD) (modification object : Descriptor) (p : Part) : Option Bytes :=
  if SecurityInformation &&& p.information ≠ 0 then modification.part p else object.part p

/-- A pointer leads to the part, if there is one, and this is its size. -/
structure Held (p : Part) (source : Pointer) (size : ULONG) (part : Option Bytes) : Prop where
  cut : source.bind p.sized.cut = part
  there : source.isSome = part.isSome
  size : size.toNat = (part.getD []).length

/-- The number of bytes of a part, if there is one. -/
def partLength (parts : Part → Option Bytes) (p : Part) : ℕ := ((parts p).getD []).length

/-- The number of bytes of a descriptor with these parts. -/
def packedSize (parts : Part → Option Bytes) : ℕ :=
  20 + rounded (partLength parts (.sid .owner)) + rounded (partLength parts (.sid .group)) +
    rounded (partLength parts (.acl .dacl)) + rounded (partLength parts (.acl .sacl))

namespace NewParts

def source (v : NewParts) : Part → Pointer
  | .sid .owner => some v.pOwnerSid
  | .sid .group => some v.pGroupSid
  | .acl .dacl => v.pDacl
  | .acl .sacl => v.pSacl

def size (v : NewParts) : Part → ULONG
  | .sid .owner => v.ulOwnerSidSize
  | .sid .group => v.ulGroupSidSize
  | .acl .dacl => v.ulDaclSize
  | .acl .sacl => v.ulSaclSize

/-- The local variables have these parts. -/
structure Supplies (v : NewParts) (parts : Part → Option Bytes) : Prop where
  held : ∀ p, Held p (v.source p) (v.size p) (parts p)
  present : ∀ p, (v.source (.acl p)).isSome → v.Control &&& p.present ≠ 0
  relative : v.Control &&& SE_SELF_RELATIVE ≠ 0

end NewParts

variable {SecurityInformation : DWORD} {modification object : Descriptor} {part : Bytes}

/-- Bits that are there stay there. -/
theorem and_or_ne_zero {c b m : WORD} (h : c &&& m ≠ 0) : (c ||| b) &&& m ≠ 0 := by
  intro h'
  rw [BitVec.and_or_distrib_right] at h'
  exact h (BitVec.or_eq_zero_iff.mp h').1

theorem or_if_ne_zero {c b m : WORD} {given : Bool} (h : c &&& m ≠ 0) :
    (if given then c ||| b else c) &&& m ≠ 0 := by
  cases given with
  | false => exact h
  | true => exact and_or_ne_zero h

/-- A part that can be read is found, and is as long as it says. -/
theorem part_eq_some {d : Descriptor} {p : Part} (h : d.part p = some part) :
    ∃ m, d.found p = some m ∧ p.sized.cut m = some part ∧ p.sized.size m = some part.length := by
  obtain ⟨m, hm, hcut⟩ := Option.bind_eq_some_iff.mp h
  exact ⟨m, hm, hcut, (Sized.cut_eq_some.mp hcut).1⟩

/-- One of the two is asked. -/
theorem exists_supplier (SecurityInformation : DWORD) (hmodification : modification.Valid)
    (hobject : object.Valid) (p : Part) :
    ∃ d : Descriptor, d.Valid ∧ chosen SecurityInformation modification object p = d.part p ∧
      ∀ {α : Type} (call : Descriptor → α),
        (if SecurityInformation &&& p.information ≠ 0 then call modification else call object) = call d := by
  by_cases hselected : SecurityInformation &&& p.information ≠ 0
  · exact ⟨modification, hmodification, if_pos hselected, fun _ => if_pos hselected⟩
  · exact ⟨object, hobject, if_neg hselected, fun _ => if_neg hselected⟩

theorem changeSid_eq {p : SidPart} (invalid : NTSTATUS) (hmodification : modification.Valid)
    (hobject : object.Valid)
    (hpart : chosen SecurityInformation modification object (.sid p) = some part) :
    ∃ sid size Defaulted,
      changeSid p invalid SecurityInformation modification object = .ok (sid, size, Defaulted) ∧
        Held (.sid p) (some sid) size (some part) := by
  obtain ⟨d, hd, hchosen, hcall⟩ := exists_supplier SecurityInformation hmodification hobject (.sid p)
  rw [hchosen] at hpart
  obtain ⟨m, hm, hcut, hlength⟩ := part_eq_some hpart
  obtain ⟨sid, hfetch, hfound⟩ := hd.fetchSid p
  rw [hm] at hfound
  obtain ⟨⟨_, Defaulted⟩, rfl, rfl⟩ := Option.map_eq_some_iff.mp hfound.symm
  obtain ⟨hvalid, size, hsize, hn⟩ := sidLength_eq_some.mp hlength
  refine ⟨_, size, Defaulted, ?_, hcut, rfl, hn⟩
  unfold changeSid
  rw [hcall fun d => checked (fetchSid p d), hfetch]
  show (if isValidSid _ then reach (getLengthSid _) >>= _ else _) = _
  rw [if_pos hvalid, hsize]
  rfl

theorem changeAcl_eq (p : AclPart) (Defaulted : Bool) (Control : WORD)
    (hmodification : modification.Valid) (hobject : object.Valid) :
    ∃ acl Defaulted' Control',
      changeAcl p SecurityInformation modification object Defaulted Control =
          .ok (acl, Defaulted', Control') ∧
        (∃ d : Descriptor, d.Valid ∧ d.found (.acl p) = acl ∧
          chosen SecurityInformation modification object (.acl p) = d.part (.acl p)) ∧
        (acl.isSome → Control' &&& p.present ≠ 0) ∧
        ∀ m, Control &&& m ≠ 0 → Control' &&& m ≠ 0 := by
  have hbit : ∀ c : WORD, (c ||| p.present) &&& p.present ≠ 0 := by
    intro c
    rw [BitVec.or_comm]
    refine and_or_ne_zero ?_
    cases p <;> decide
  unfold changeAcl
  by_cases hselected : SecurityInformation &&& (Part.acl p).information ≠ 0
  · obtain ⟨acl, hfetch, hfound⟩ := hmodification.fetchAcl p
    rw [if_pos hselected, hfetch]
    refine ⟨_, _, _, rfl, ⟨modification, hmodification, hfound, if_pos hselected⟩, ?_, ?_⟩
    · intro _
      exact hbit Control
    · intro m
      exact and_or_ne_zero
  · obtain ⟨acl, hfetch, hfound⟩ := hobject.fetchAcl p
    rw [if_neg hselected, hfetch]
    refine ⟨_, _, _, rfl, ⟨object, hobject, hfound, if_neg hselected⟩, ?_, ?_⟩
    · intro hacl
      refine or_if_ne_zero ?_
      cases acl with
      | none => cases hacl
      | some acl => exact hbit Control
    · intro m hm
      exact or_if_ne_zero (or_if_ne_zero hm)

theorem sizeOfAcl_eq {p : AclPart} {d : Descriptor} (hd : d.Valid) :
    ∃ size, sizeOfAcl (d.found (.acl p)) = .ok size ∧
      Held (.acl p) (d.found (.acl p)) size (d.part (.acl p)) := by
  cases hfound : d.found (.acl p) with
  | none =>
      have hpart : d.part (.acl p) = none := by rw [Descriptor.part, hfound, Option.bind_none]
      rw [hpart]
      exact ⟨0, rfl, rfl, rfl, rfl⟩
  | some acl =>
      obtain ⟨part, hcut⟩ := Option.isSome_iff_exists.mp (hd.parts (.acl p) acl hfound)
      have hpart : d.part (.acl p) = some part := by rw [Descriptor.part, hfound, Option.bind_some, hcut]
      obtain ⟨size, hsize, -, hn⟩ := aclLength_eq_some.mp (Sized.cut_eq_some.mp hcut).1
      rw [hpart]
      refine ⟨size.setWidth 32, ?_, hcut, rfl, ?_⟩
      · rw [sizeOfAcl, hsize]
        rfl
      · rw [Option.getD_some, ← hn]
        bv_omega

/-- **Which parts.**  They are found, with their sizes. -/
theorem newParts_eq (hmodification : modification.Valid) (hobject : object.Valid)
    (howner : (chosen SecurityInformation modification object (.sid .owner)).isSome)
    (hgroup : (chosen SecurityInformation modification object (.sid .group)).isSome) :
    ∃ v, newParts SecurityInformation modification object = .ok v ∧
      v.Supplies (chosen SecurityInformation modification object) := by
  obtain ⟨owner, howner⟩ := Option.isSome_iff_exists.mp howner
  obtain ⟨group, hgroup⟩ := Option.isSome_iff_exists.mp hgroup
  obtain ⟨pOwnerSid, ulOwnerSidSize, _, hpOwner, hheldOwner⟩ :=
    changeSid_eq ERROR_INVALID_OWNER hmodification hobject howner
  obtain ⟨pGroupSid, ulGroupSidSize, Defaulted, hpGroup, hheldGroup⟩ :=
    changeSid_eq ERROR_INVALID_PRIMARY_GROUP hmodification hobject hgroup
  obtain ⟨_, Defaulted', Control, hpDacl, ⟨d, hd, rfl, hdacl⟩, hdaclPresent, hkept⟩ :=
    changeAcl_eq .dacl Defaulted SE_SELF_RELATIVE hmodification hobject
  obtain ⟨_, _, Control', hpSacl, ⟨d', hd', rfl, hsacl⟩, hsaclPresent, hkept'⟩ :=
    changeAcl_eq .sacl Defaulted' Control hmodification hobject
  obtain ⟨ulDaclSize, hdaclSize, hheldDacl⟩ := sizeOfAcl_eq (p := .dacl) hd
  obtain ⟨ulSaclSize, hsaclSize, hheldSacl⟩ := sizeOfAcl_eq (p := .sacl) hd'
  refine ⟨⟨pOwnerSid, ulOwnerSidSize, pGroupSid, ulGroupSidSize, d.found (.acl .dacl), ulDaclSize,
    d'.found (.acl .sacl), ulSaclSize, Control'⟩, ?_, ?_, ?_, ?_⟩
  · unfold newParts changeOwner changeGroup changeDacl changeSacl
    rw [hpOwner]
    show (changeSid .group _ _ _ _ >>= _) = _
    rw [hpGroup]
    show (changeAcl .dacl _ _ _ Defaulted _ >>= _) = _
    rw [hpDacl]
    show (sizeOfAcl (d.found (.acl .dacl)) >>= _) = _
    rw [hdaclSize]
    show (changeAcl .sacl _ _ _ Defaulted' Control >>= _) = _
    rw [hpSacl]
    show (sizeOfAcl (d'.found (.acl .sacl)) >>= _) = _
    rw [hsaclSize]
    rfl
  · rintro ((_ | _) | (_ | _))
    · rw [howner]
      exact hheldOwner
    · rw [hgroup]
      exact hheldGroup
    · rw [hsacl]
      exact hheldSacl
    · rw [hdacl]
      exact hheldDacl
  · rintro (_ | _) hthere
    · exact hsaclPresent hthere
    · exact hkept' _ (hdaclPresent hthere)
  · exact hkept' _ (hkept _ (by decide))

/-! ## Where the parts go -/

/-- The header has been made, and the parts in `done` are behind it. -/
structure Filled (parts : Part → Option Bytes) (Control : WORD) (done : List Part) (sd : Bytes)
    (dest : ℕ) : Prop where
  packed : ∃ lay, Packed relativeHeader 4 sd dest lay ∧
    ∀ p, (lay p).map Prod.snd = if p ∈ done then parts p else none
  revision : load 1 sd 0 = some (SECURITY_DESCRIPTOR_REVISION.setWidth 8)
  control : load 2 sd 2 = some Control

variable {parts : Part → Option Bytes} {Control : WORD} {done : List Part} {sd : Bytes} {dest : ℕ}

/-- The offsets are neither the revision nor the control word. -/
theorem apart_field (p : Part) : Block.Apart (relativeHeader.field p) 4 0 1 ∧
    Block.Apart (relativeHeader.field p) 4 2 2 := by
  rcases p with (_ | _) | (_ | _) <;> decide

theorem Filled.copyPart {p : Part} {source part : Bytes} {size : ULONG}
    (hfilled : Filled parts Control done sd dest) (hnew : p ∉ done) (hpart : parts p = some part)
    (hcut : p.sized.cut source = some part) (hsize : size.toNat = part.length)
    (hfits : dest + rounded size.toNat ≤ sd.length) :
    ∃ sd', WinSec.copyPart p source size sd dest = some (sd', dest + rounded size.toNat) ∧
      sd'.length = sd.length ∧ Filled parts Control (p :: done) sd' (dest + rounded size.toNat) := by
  obtain ⟨lay, hpacked, hlay⟩ := hfilled.packed
  have hfree : lay p = none := by
    have hnone := hlay p
    rw [if_neg hnew] at hnone
    exact Option.map_eq_none_iff.mp hnone
  have hnext : dest + part.length ≤ dest + rounded size.toNat := by
    rw [hsize]
    exact Nat.add_le_add_left le_rounded dest
  obtain ⟨m', m'', hwrite, hstore⟩ := hpacked.exists_place p (Nat.le_trans hnext hfits)
  have hkept : ∀ {a k : ℕ}, Block.Within a k relativeHeader.size →
      Block.Apart (relativeHeader.field p) 4 a k → load k m'' a = load k sd a :=
    load_of_place hpacked.behind hwrite hstore
  refine ⟨m'', ?_, ?_, ⟨_, hpacked.place hfree hwrite hstore ?_ hnext, ?_⟩, ?_, ?_⟩
  · unfold WinSec.copyPart
    rw [hsize, Sized.read_of_cut hcut, ← hsize, ← toNat_roundUp]
    show (Block.write sd dest part >>= _) = _
    rw [hwrite]
    show (store 4 m' _ _ >>= _) = _
    rw [hstore]
    rfl
  · rw [length_of_store hstore, Block.length_of_write hwrite]
  · exact Nat.dvd_add hpacked.aligned dvd_rounded
  · intro q
    by_cases hq : q = p
    · subst hq
      rw [Function.update_self, if_pos List.mem_cons_self, hpart]
      rfl
    · rw [Function.update_of_ne hq, hlay q]
      simp only [List.mem_cons, hq, false_or]
  · rw [hkept (by decide) (apart_field p).1]
    exact hfilled.revision
  · rw [hkept (by decide) (apart_field p).2]
    exact hfilled.control

/-- **One step.** -/
theorem Filled.copyNonNull {p : Part} {source : Pointer} {size : ULONG}
    (hfilled : Filled parts Control done sd dest) (hnew : p ∉ done)
    (hheld : Held p source size (parts p)) (hfits : dest + rounded size.toNat ≤ sd.length) :
    ∃ sd', WinSec.copyNonNull p source size sd dest = some (sd', dest + rounded size.toNat) ∧
      sd'.length = sd.length ∧ Filled parts Control (p :: done) sd' (dest + rounded size.toNat) := by
  obtain ⟨hcut, hthere, hsize⟩ := hheld
  cases source with
  | none =>
      have hpart : parts p = none := hcut.symm
      have hempty : size.toNat = 0 := by
        rw [hpart] at hsize
        exact hsize
      obtain ⟨lay, hpacked, hlay⟩ := hfilled.packed
      rw [hempty]
      refine ⟨sd, rfl, rfl, ⟨lay, hpacked, fun q => ?_⟩, hfilled.revision, hfilled.control⟩
      rw [hlay q]
      by_cases hq : q = p
      · rw [hq, hpart, ite_self, ite_self]
      · simp only [List.mem_cons, hq, false_or]
  | some source =>
      obtain ⟨part, hpart⟩ := Option.isSome_iff_exists.mp hthere.symm
      rw [hpart] at hcut hsize
      exact hfilled.copyPart hnew hpart hcut hsize hfits

/-- A header that has just been made. -/
theorem filled_nil (parts : Part → Option Bytes) (Control : WORD) {m : Bytes} (hm : 20 ≤ m.length) :
    ∃ m' sd, rtlCreateSecurityDescriptorRelative (some m) SECURITY_DESCRIPTOR_REVISION =
        some (ERROR_SUCCESS, some m') ∧
      store 2 m' 2 Control = some sd ∧ sd.length = m.length ∧ Filled parts Control [] sd 20 := by
  obtain ⟨z, hz⟩ := Block.exists_write
    (show Block.Within 0 (List.replicate 20 (0 : BitVec 8)).length m.length by unfold Block.Within; simpa)
  have hzlen := Block.length_of_write hz
  have hzeros : Block.read z 0 20 = some (List.replicate 20 0) := Block.read_of_write hz
  obtain ⟨r, hr⟩ := exists_store (k := 1) (w := SECURITY_DESCRIPTOR_REVISION.setWidth 8)
    (show Block.Within 0 1 z.length by unfold Block.Within; omega)
  have hrlen := length_of_store hr
  obtain ⟨m', hm'⟩ := exists_store (k := 2) (w := SE_SELF_RELATIVE)
    (show Block.Within 2 2 r.length by unfold Block.Within; omega)
  have hmlen := length_of_store hm'
  obtain ⟨sd, hsd⟩ := exists_store (k := 2) (w := Control)
    (show Block.Within 2 2 m'.length by unfold Block.Within; omega)
  refine ⟨m', sd, ?_, hsd, ?_, ⟨fun _ => none, Packed.empty (by decide) ?_, fun _ => rfl⟩, ?_, ?_⟩
  · unfold rtlCreateSecurityDescriptorRelative
    rw [if_neg (not_not.mpr rfl)]
    show (Block.write m 0 (List.replicate 20 0) >>= _) = _
    rw [hz]
    show (store 1 z 0 _ >>= _) = _
    rw [hr]
    show (store 2 r 2 _ >>= _) = _
    rw [hm']
    rfl
  · rw [length_of_store hsd, hmlen, hrlen, hzlen]
  · intro p
    have hcontrol : Block.Apart 2 2 (relativeHeader.field p) 4 := (apart_field p).2.symm
    have hrevision : Block.Apart 0 1 (relativeHeader.field p) 4 := (apart_field p).1.symm
    rw [load_of_store_apart hsd hcontrol, load_of_store_apart hm' hcontrol,
      load_of_store_apart hr hrevision]
    exact load_of_zeros hzeros (relativeHeader.within p)
  · rw [load_of_store_apart hsd (by decide), load_of_store_apart hm' (by decide)]
    exact load_of_store hr
  · exact load_of_store hsd

theorem NewParts.Supplies.size_lt {v : NewParts} (h : v.Supplies parts) (p : Part) :
    (v.size p).toNat < 65536 := by
  obtain ⟨hcut, hthere, hsize⟩ := h.held p
  rw [hsize]
  cases hpart : parts p with
  | none => decide
  | some part =>
      rw [hpart] at hcut
      obtain ⟨m, -, hm⟩ := Option.bind_eq_some_iff.mp hcut
      exact Part.size_lt (Sized.cut_eq_some.mp hm).1

/-- **The size** is as it was added up. -/
theorem NewParts.Supplies.ulNewSdSize {v : NewParts} (h : v.Supplies parts) :
    (WinSec.ulNewSdSize v.ulOwnerSidSize v.ulGroupSidSize v.ulDaclSize v.ulSaclSize).toNat =
      packedSize parts := by
  have hsum := toNat_ulNewSdSize (h.size_lt (.sid .owner)) (h.size_lt (.sid .group))
    (h.size_lt (.acl .dacl)) (h.size_lt (.acl .sacl))
  rw [(h.held (.sid .owner)).size, (h.held (.sid .group)).size, (h.held (.acl .dacl)).size,
    (h.held (.acl .sacl)).size] at hsum
  exact hsum

theorem NewParts.Supplies.ulNewSdSize_eq {v : NewParts} (h : v.Supplies parts) :
    WinSec.ulNewSdSize v.ulOwnerSidSize v.ulGroupSidSize v.ulDaclSize v.ulSaclSize =
      BitVec.ofNat 32 (packedSize parts) := by
  rw [← h.ulNewSdSize, BitVec.ofNat_toNat, BitVec.setWidth_eq]

/-- **The whole descriptor.** -/
theorem newDescriptor_filled {heapAlloc : HeapAlloc} {v : NewParts} (h : v.Supplies parts)
    (hheap : (heapAlloc (BitVec.ofNat 32 (packedSize parts))).isSome) :
    packedSize parts < 0x100000000 ∧
    ∃ sd, newDescriptor heapAlloc v = some (ERROR_SUCCESS, sd) ∧ sd.length = packedSize parts ∧
      Filled parts v.Control [.sid .group, .sid .owner, .acl .dacl, .acl .sacl] sd sd.length := by
  have hsize := h.ulNewSdSize
  have hlt : packedSize parts < 0x100000000 := by
    rw [← hsize]
    exact BitVec.isLt _
  refine ⟨hlt, ?_⟩
  rw [← h.ulNewSdSize_eq] at hheap
  obtain ⟨⟨m, hm⟩, hblock⟩ := Option.isSome_iff_exists.mp hheap
  rw [hsize] at hm
  have hpacked : packedSize parts = 20 + rounded (v.size (.sid .owner)).toNat +
      rounded (v.size (.sid .group)).toNat + rounded (v.size (.acl .dacl)).toNat +
      rounded (v.size (.acl .sacl)).toNat := by
    rw [(h.held (.sid .owner)).size, (h.held (.sid .group)).size, (h.held (.acl .dacl)).size,
      (h.held (.acl .sacl)).size]
    rfl
  obtain ⟨m', sd₀, hcreate, hcontrol, hlen₀, hfilled₀⟩ :=
    filled_nil parts v.Control (m := m) (by omega)
  obtain ⟨sd₁, hcopy₁, hlen₁, hfilled₁⟩ :=
    hfilled₀.copyNonNull (by decide) (h.held (.acl .sacl)) (by omega)
  obtain ⟨sd₂, hcopy₂, hlen₂, hfilled₂⟩ :=
    hfilled₁.copyNonNull (by decide) (h.held (.acl .dacl)) (by omega)
  obtain ⟨sd₃, hcopy₃, hlen₃, hfilled₃⟩ :=
    hfilled₂.copyNonNull (by decide) (h.held (.sid .owner)) (by omega)
  obtain ⟨sd₄, hcopy₄, hlen₄, hfilled₄⟩ :=
    hfilled₃.copyNonNull (by decide) (h.held (.sid .group)) (by omega)
  refine ⟨sd₄, ?_, by omega, ?_⟩
  · show (rtlCreateSecurityDescriptorRelative ((heapAlloc (ulNewSdSize v.ulOwnerSidSize v.ulGroupSidSize
      v.ulDaclSize v.ulSaclSize)).map Subtype.val) _ >>= _) = _
    rw [hblock]
    show (rtlCreateSecurityDescriptorRelative (some m) _ >>= _) = _
    rw [hcreate]
    show (store 2 m' 2 v.Control >>= _) = _
    rw [hcontrol]
    show (copyNonNull _ (v.source (.acl .sacl)) (v.size (.acl .sacl)) sd₀ 20 >>= _) = _
    rw [hcopy₁]
    show (copyNonNull _ (v.source (.acl .dacl)) (v.size (.acl .dacl)) sd₁ _ >>= _) = _
    rw [hcopy₂]
    show (copyNonNull (.sid .owner) (v.source (.sid .owner)) (v.size (.sid .owner)) sd₂ _ >>= _) = _
    rw [hcopy₃]
    show (copyNonNull (.sid .group) (v.source (.sid .group)) (v.size (.sid .group)) sd₃ _ >>= _) = _
    rw [hcopy₄]
    rfl
  · have hend : sd₄.length = 20 + rounded (v.size (.acl .sacl)).toNat +
        rounded (v.size (.acl .dacl)).toNat + rounded (v.size (.sid .owner)).toNat +
        rounded (v.size (.sid .group)).toNat := by omega
    rw [hend]
    exact hfilled₄

/-! ## Reading it back -/

/-- Where the header says that the part is. -/
def offsetOf (sd : Bytes) (p : Part) : Option ℕ :=
  (load 4 sd (relativeHeader.field p)).map BitVec.toNat

/-- The block is a self-relative descriptor with these parts: each has a range of its own, on a
boundary of four bytes, behind the header and in the block, and is what is read there. -/
structure Encodes (sd : Bytes) (parts : Part → Option Bytes) : Prop where
  selfRelative : ∃ control, load 2 sd 2 = some control ∧ control &&& SE_SELF_RELATIVE ≠ 0
  absent : ∀ p, parts p = none → offsetOf sd p = some 0
  present : ∀ p part, parts p = some part → ∃ a, offsetOf sd p = some a ∧
    4 ∣ a ∧ 20 ≤ a ∧ a + part.length ≤ sd.length ∧ Block.read sd a part.length = some part
  disjoint : ∀ p q part part' a c, p ≠ q → parts p = some part → parts q = some part' →
    offsetOf sd p = some a → offsetOf sd q = some c → Block.Apart a part.length c part'.length
  valid : (Descriptor.relative sd).Valid
  readBack : ∀ p, (Descriptor.relative sd).part p = parts p

/-- All parts are there. -/
structure Laid (parts : Part → Option Bytes) (Control : WORD) (sd : Bytes) (lay : Layout Part) : Prop where
  packed : Packed relativeHeader 4 sd sd.length lay
  parts : ∀ p, (lay p).map Prod.snd = parts p
  revision : load 1 sd 0 = some (SECURITY_DESCRIPTOR_REVISION.setWidth 8)
  control : load 2 sd 2 = some Control
  small : sd.length < 0x100000000

theorem Filled.laid (hsmall : sd.length < 0x100000000)
    (hfilled : Filled parts Control [.sid .group, .sid .owner, .acl .dacl, .acl .sacl] sd sd.length) :
    ∃ lay, Laid parts Control sd lay := by
  obtain ⟨⟨lay, hpacked, hlay⟩, hrevision, hcontrol⟩ := hfilled
  refine ⟨lay, hpacked, ?_, hrevision, hcontrol, hsmall⟩
  intro p
  rw [hlay p]
  rcases p with (_ | _) | (_ | _) <;> rfl

namespace Laid

variable {lay : Layout Part} {p : Part} {a : ℕ}

theorem setWidth_revision :
    (SECURITY_DESCRIPTOR_REVISION.setWidth 8).setWidth 32 = SECURITY_DESCRIPTOR_REVISION := rfl

theorem lay_of_parts (hlaid : Laid parts Control sd lay) (hp : parts p = some part) :
    ∃ a, lay p = some (a, part) := by
  rw [← hlaid.parts p] at hp
  obtain ⟨⟨a, _⟩, ha, rfl⟩ := Option.map_eq_some_iff.mp hp
  exact ⟨a, ha⟩

theorem offsetOf_eq (hlaid : Laid parts Control sd lay) (ha : lay p = some (a, part)) :
    offsetOf sd p = some a := by
  unfold offsetOf
  rw [hlaid.packed.fields p, Option.map_some, hlaid.packed.toNat_offset hlaid.small ha]

theorem offsetOf_eq_zero (hlaid : Laid parts Control sd lay) (hp : parts p = none) :
    offsetOf sd p = some 0 := by
  rw [← hlaid.parts p, Option.map_eq_none_iff] at hp
  unfold offsetOf
  rw [hlaid.packed.fields p, Layout.offset, hp]
  rfl

/-- No part lies at zero, so its offset is taken for one. -/
theorem pointer_eq (hlaid : Laid parts Control sd lay) :
    (Descriptor.relative sd).pointer p = some ((lay p).map fun x => sd.drop x.1) := by
  show (load 4 sd (relativeHeader.field p)).map _ = _
  rw [hlaid.packed.fields p, Option.map_some]
  cases ha : lay p with
  | none =>
      rw [Layout.offset, ha]
      rfl
  | some x =>
      have hoffset := hlaid.packed.toNat_offset hlaid.small ha
      have hne : lay.offset p ≠ 0 := by
        intro hzero
        have hbehind := (hlaid.packed.parts p x.1 x.2 ha).2.1
        rw [← hoffset, hzero] at hbehind
        exact absurd hbehind (by decide)
      rw [if_neg hne, hoffset]
      rfl

variable {v : NewParts}

theorem found_eq (hlaid : Laid parts v.Control sd lay) (h : v.Supplies parts) :
    (Descriptor.relative sd).found p = (lay p).map fun x => sd.drop x.1 := by
  refine Descriptor.found_eq hlaid.revision setWidth_revision hlaid.control hlaid.pointer_eq ?_
  rintro q rfl hthere
  refine h.present q ?_
  rw [(h.held (.acl q)).there, ← hlaid.parts (.acl q), Option.isSome_map]
  rw [Option.isSome_map] at hthere
  exact hthere

/-- A part is found again where it has been put. -/
theorem cut_eq (hlaid : Laid parts v.Control sd lay) (h : v.Supplies parts)
    (ha : lay p = some (a, part)) : p.sized.cut (sd.drop a) = some part := by
  have hcut := (h.held p).cut
  rw [← hlaid.parts p, ha, Option.map_some] at hcut
  obtain ⟨m, -, hm⟩ := Option.bind_eq_some_iff.mp hcut
  exact Sized.cut_of_read hm (hlaid.packed.parts p a part ha).2.2.2

theorem valid (hlaid : Laid parts v.Control sd lay) (h : v.Supplies parts) :
    (Descriptor.relative sd).Valid where
  revision := ⟨_, hlaid.revision, setWidth_revision⟩
  control := ⟨_, hlaid.control, fun _ => rfl, fun _ => h.relative⟩
  pointers p := by
    rw [hlaid.pointer_eq]
    rfl
  parts p m hm := by
    rw [hlaid.found_eq h] at hm
    obtain ⟨x, ha, rfl⟩ := Option.map_eq_some_iff.mp hm
    rw [hlaid.cut_eq h ha]
    rfl

theorem part_eq (hlaid : Laid parts v.Control sd lay) (h : v.Supplies parts) :
    (Descriptor.relative sd).part p = parts p := by
  unfold Descriptor.part
  rw [hlaid.found_eq h, ← hlaid.parts p]
  cases ha : lay p with
  | none => rfl
  | some x => exact hlaid.cut_eq h ha

theorem encodes (hlaid : Laid parts v.Control sd lay) (h : v.Supplies parts) : Encodes sd parts where
  selfRelative := ⟨v.Control, hlaid.control, h.relative⟩
  absent _ hp := hlaid.offsetOf_eq_zero hp
  present p part hp := by
    obtain ⟨a, ha⟩ := hlaid.lay_of_parts hp
    exact ⟨a, hlaid.offsetOf_eq ha, hlaid.packed.parts p a part ha⟩
  disjoint p q part part' a c hne hp hq ha hc := by
    obtain ⟨a', ha'⟩ := hlaid.lay_of_parts hp
    obtain ⟨c', hc'⟩ := hlaid.lay_of_parts hq
    rw [hlaid.offsetOf_eq ha'] at ha
    rw [hlaid.offsetOf_eq hc'] at hc
    obtain rfl := Option.some.inj ha
    obtain rfl := Option.some.inj hc
    exact hlaid.packed.apart p q _ part _ part' hne ha' hc'
  valid := hlaid.valid h
  readBack _ := hlaid.part_eq h

end Laid

theorem newDescriptor_encodes {heapAlloc : HeapAlloc} {v : NewParts} (h : v.Supplies parts)
    (hheap : (heapAlloc (BitVec.ofNat 32 (packedSize parts))).isSome) :
    packedSize parts < 0x100000000 ∧
    ∃ sd, newDescriptor heapAlloc v = some (ERROR_SUCCESS, sd) ∧ sd.length = packedSize parts ∧
      Encodes sd parts := by
  obtain ⟨hlt, sd, hnew, hlength, hfilled⟩ := newDescriptor_filled h hheap
  obtain ⟨lay, hlaid⟩ := hfilled.laid (hlength ▸ hlt)
  exact ⟨hlt, sd, hnew, hlength, hlaid.encodes h⟩

/-! ## The function -/

/-- **The new descriptor** is made of the parts that were chosen. -/
theorem rtlpSetSecurityObject_encodes {heapAlloc : HeapAlloc} (hmodification : modification.Valid)
    (hobject : object.Valid)
    (howner : (chosen SecurityInformation modification object (.sid .owner)).isSome)
    (hgroup : (chosen SecurityInformation modification object (.sid .group)).isSome)
    (hheap : (heapAlloc (BitVec.ofNat 32
      (packedSize (chosen SecurityInformation modification object)))).isSome) :
    packedSize (chosen SecurityInformation modification object) < 0x100000000 ∧
    ∃ sd, rtlpSetSecurityObject heapAlloc SecurityInformation modification object =
        .returns ERROR_SUCCESS (.relative sd) [object] ∧
      sd.length = packedSize (chosen SecurityInformation modification object) ∧
      Encodes sd (chosen SecurityInformation modification object) := by
  obtain ⟨v, hv, hsupplies⟩ := newParts_eq hmodification hobject howner hgroup
  obtain ⟨hlt, sd, hnew, hlength, hencodes⟩ := newDescriptor_encodes hsupplies hheap
  refine ⟨hlt, sd, ?_, hlength, hencodes⟩
  unfold rtlpSetSecurityObject
  rw [hv]
  show (match newDescriptor heapAlloc v with | some (status, sd) => _ | none => _) = _
  rw [hnew]

/-- A descriptor with an owner of twelve bytes, a group of sixteen and no ACLs, in one block. -/
def plainDescriptor : Descriptor :=
  .relative
    ([1, 0, 0x00, 0x80, 20, 0, 0, 0, 32, 0, 0, 0, 0, 0, 0, 0, 0, 0, 0, 0] ++
      [1, 1, 0, 0, 0, 0, 0, 5, 18, 0, 0, 0] ++
      [1, 2, 0, 0, 0, 0, 0, 5, 32, 0, 0, 0, 32, 2, 0, 0])

/-- Another one, with pointers: an owner, and an ACL of nine bytes. -/
def ownDescriptor : Descriptor :=
  .absolute
    { Revision := 1
      Control := SE_DACL_PRESENT
      Owner := some [1, 1, 0, 0, 0, 0, 0, 1, 7, 0, 0, 0]
      Group := none
      Sacl := none
      Dacl := some [2, 0, 9, 0, 0, 0, 0, 0, 77] }

theorem plainDescriptor_valid : plainDescriptor.Valid where
  revision := ⟨1, rfl, rfl⟩
  control := ⟨SE_SELF_RELATIVE, rfl, by decide⟩
  pointers := by rintro ((_ | _) | (_ | _)) <;> decide
  parts := by
    intro p m hm
    have hall : ((plainDescriptor.found p).all fun m => (p.sized.cut m).isSome) = true := by
      rcases p with (_ | _) | (_ | _) <;> decide
    rw [hm] at hall
    exact hall

theorem ownDescriptor_valid : ownDescriptor.Valid where
  revision := ⟨1, rfl, rfl⟩
  control := ⟨SE_DACL_PRESENT, rfl, by decide⟩
  pointers := by rintro ((_ | _) | (_ | _)) <;> decide
  parts := by
    intro p m hm
    have hall : ((ownDescriptor.found p).all fun m => (p.sized.cut m).isSome) = true := by
      rcases p with (_ | _) | (_ | _) <;> decide
    rw [hm] at hall
    exact hall

/-- Owner and DACL are changed, the group stays. -/
theorem rtlpSetSecurityObject_encodes_plain :
    packedSize (chosen 5 ownDescriptor plainDescriptor) < 0x100000000 ∧
    ∃ sd, rtlpSetSecurityObject (fun n => some ⟨List.replicate n.toNat 204, List.length_replicate⟩) 5
          ownDescriptor plainDescriptor = .returns ERROR_SUCCESS (.relative sd) [plainDescriptor] ∧
      sd.length = packedSize (chosen 5 ownDescriptor plainDescriptor) ∧
      Encodes sd (chosen 5 ownDescriptor plainDescriptor) :=
  rtlpSetSecurityObject_encodes ownDescriptor_valid plainDescriptor_valid (by decide) (by decide) rfl

/-! ## What is missing -/

theorem found_eq_none {d : Descriptor} {p : Part} (hd : d.Valid) (hp : d.part p = none) :
    d.found p = none := by
  cases hfound : d.found p with
  | none => rfl
  | some m =>
      have hcut := hd.parts p m hfound
      rw [Descriptor.part, hfound, Option.bind_some] at hp
      rw [hp] at hcut
      cases hcut

theorem changeSid_missing {p : SidPart} (invalid : NTSTATUS) (hmodification : modification.Valid)
    (hobject : object.Valid) (hpart : chosen SecurityInformation modification object (.sid p) = none) :
    changeSid p invalid SecurityInformation modification object = .error (.returns invalid) := by
  obtain ⟨d, hd, hchosen, hcall⟩ := exists_supplier SecurityInformation hmodification hobject (.sid p)
  rw [hchosen] at hpart
  obtain ⟨sid, hfetch, hfound⟩ := hd.fetchSid p
  rw [found_eq_none hd hpart] at hfound
  unfold changeSid
  rw [hcall fun d => checked (fetchSid p d), hfetch, Option.map_eq_none_iff.mp hfound.symm]
  rfl

theorem newDescriptor_status {heapAlloc : HeapAlloc} {v : NewParts} {status : NTSTATUS}
    (h : newDescriptor heapAlloc v = some (status, sd)) : status = ERROR_SUCCESS := by
  obtain ⟨⟨Status, pNewSd⟩, -, h⟩ := Option.bind_eq_some_iff.mp h
  dsimp only at h
  by_cases hStatus : Status = ERROR_SUCCESS
  · rw [if_neg (not_not.mpr hStatus)] at h
    obtain ⟨_, -, h⟩ := Option.bind_eq_some_iff.mp h
    obtain ⟨_, -, h⟩ := Option.bind_eq_some_iff.mp h
    obtain ⟨_, -, h⟩ := Option.bind_eq_some_iff.mp h
    obtain ⟨_, -, h⟩ := Option.bind_eq_some_iff.mp h
    obtain ⟨_, -, h⟩ := Option.bind_eq_some_iff.mp h
    obtain ⟨_, -, h⟩ := Option.bind_eq_some_iff.mp h
    cases h
    exact hStatus
  · rw [if_pos hStatus] at h
    cases h

/-- A block is there, if anything comes of it. -/
theorem heapAlloc_of_newDescriptor {heapAlloc : HeapAlloc} {v : NewParts} {x : NTSTATUS × Bytes}
    (h : newDescriptor heapAlloc v = some x) : (heapAlloc
      (ulNewSdSize v.ulOwnerSidSize v.ulGroupSidSize v.ulDaclSize v.ulSaclSize)).isSome := by
  obtain ⟨_, hcreate, -⟩ := Option.bind_eq_some_iff.mp h
  cases hblock : heapAlloc (ulNewSdSize v.ulOwnerSidSize v.ulGroupSidSize v.ulDaclSize v.ulSaclSize) with
  | none =>
      rw [hblock] at hcreate
      cases hcreate
  | some block => rfl

/-- **The first half**, with what is missing. -/
theorem newParts_cases (SecurityInformation : DWORD) (hmodification : modification.Valid)
    (hobject : object.Valid) :
    newParts SecurityInformation modification object = .error (.returns ERROR_INVALID_OWNER) ∨
    newParts SecurityInformation modification object = .error (.returns ERROR_INVALID_PRIMARY_GROUP) ∨
    ∃ v, newParts SecurityInformation modification object = .ok v ∧
      v.Supplies (chosen SecurityInformation modification object) := by
  cases howner : chosen SecurityInformation modification object (.sid .owner) with
  | none =>
      left
      unfold newParts changeOwner
      rw [changeSid_missing ERROR_INVALID_OWNER hmodification hobject howner]
      rfl
  | some owner =>
      right
      cases hgroup : chosen SecurityInformation modification object (.sid .group) with
      | none =>
          left
          obtain ⟨_, _, _, hOwner, -⟩ := changeSid_eq ERROR_INVALID_OWNER hmodification hobject howner
          unfold newParts changeOwner changeGroup
          rw [hOwner]
          show (changeSid .group _ _ _ _ >>= _) = _
          rw [changeSid_missing ERROR_INVALID_PRIMARY_GROUP hmodification hobject hgroup]
          rfl
      | some group =>
          right
          exact newParts_eq hmodification hobject (by rw [howner]; rfl) (by rw [hgroup]; rfl)

/-- **A call that succeeds** has found all it needs. -/
theorem encodes_of_success {heapAlloc : HeapAlloc} {object' : Descriptor} {freed : List Descriptor}
    (hmodification : modification.Valid) (hobject : object.Valid)
    (h : rtlpSetSecurityObject heapAlloc SecurityInformation modification object =
      .returns ERROR_SUCCESS object' freed) :
    ∃ sd, object' = .relative sd ∧ freed = [object] ∧
      Encodes sd (chosen SecurityInformation modification object) := by
  unfold rtlpSetSecurityObject at h
  obtain hstop | hstop | ⟨v, hv, hsupplies⟩ :=
    newParts_cases SecurityInformation hmodification hobject
  · rw [hstop] at h
    cases h
  · rw [hstop] at h
    cases h
  · rw [hv] at h
    dsimp only at h
    split at h
    · next status sd hnew =>
        cases h
        have hheap := heapAlloc_of_newDescriptor hnew
        rw [hsupplies.ulNewSdSize_eq] at hheap
        obtain ⟨-, sd', hnew', -, hencodes⟩ := newDescriptor_encodes hsupplies hheap
        rw [hnew'] at hnew
        cases hnew
        exact ⟨sd, rfl, rfl, hencodes⟩
    · cases h

/-- **A call that fails** leaves the descriptor as it was. -/
theorem unchanged_of_failure {heapAlloc : HeapAlloc} {object' : Descriptor} {freed : List Descriptor}
    {status : NTSTATUS} (hfailed : status ≠ ERROR_SUCCESS)
    (h : rtlpSetSecurityObject heapAlloc SecurityInformation modification object =
      .returns status object' freed) : object' = object ∧ freed = [] := by
  unfold rtlpSetSecurityObject at h
  split at h
  · cases h
    exact ⟨rfl, rfl⟩
  · cases h
  · split at h
    · next hnew =>
        cases h
        exact absurd (newDescriptor_status hnew) hfailed
    · cases h

/-! ## Setting it again -/

/-- The descriptor is set again and again, each time on top of what came out before. -/
def setAll (heapAlloc : HeapAlloc) : List (DWORD × Descriptor) → Descriptor → Option Descriptor
  | [], object => some object
  | (SecurityInformation, modification) :: changes, object =>
      match rtlpSetSecurityObject heapAlloc SecurityInformation modification object with
      | .returns status object _ => if status = ERROR_SUCCESS then setAll heapAlloc changes object else none
      | .outside => none

/-- Each part, of whoever was asked for it last. -/
def lastChosen : List (DWORD × Descriptor) → (Part → Option Bytes) → Part → Option Bytes
  | [], parts => parts
  | (SecurityInformation, modification) :: changes, parts =>
      lastChosen changes fun p =>
        if SecurityInformation &&& p.information ≠ 0 then modification.part p else parts p

/-- **Again and again.** -/
theorem setAll_part {heapAlloc : HeapAlloc} {changes : List (DWORD × Descriptor)} {object' : Descriptor}
    (hchanges : ∀ change ∈ changes, change.2.Valid) (hobject : object.Valid)
    (h : setAll heapAlloc changes object = some object') :
    object'.Valid ∧ object'.part = lastChosen changes object.part := by
  induction changes generalizing object with
  | nil =>
      cases h
      exact ⟨hobject, rfl⟩
  | cons change changes ih =>
      obtain ⟨SecurityInformation, modification⟩ := change
      obtain ⟨hmodification, hrest⟩ := List.forall_mem_cons.mp hchanges
      unfold setAll at h
      split at h
      · next status object₁ freed hset =>
          rw [Option.ite_none_right_eq_some] at h
          obtain ⟨rfl, h⟩ := h
          obtain ⟨sd, rfl, -, hencodes⟩ := encodes_of_success hmodification hobject hset
          obtain ⟨hvalid, hparts⟩ := ih hrest hencodes.valid h
          refine ⟨hvalid, ?_⟩
          rw [hparts, lastChosen]
          congr 1
          exact funext hencodes.readBack
      · cases h

/-- Owner and DACL are changed, and then the owner is changed back. -/
theorem setAll_part_back :
    ∃ object', setAll (fun n => some ⟨List.replicate n.toNat 204, List.length_replicate⟩)
        [(5, ownDescriptor), (1, plainDescriptor)] plainDescriptor = some object' ∧
      object'.Valid ∧
      object'.part = lastChosen [(5, ownDescriptor), (1, plainDescriptor)] plainDescriptor.part := by
  have hdone : (setAll (fun n => some ⟨List.replicate n.toNat 204, List.length_replicate⟩)
      [(5, ownDescriptor), (1, plainDescriptor)] plainDescriptor).isSome = true := by decide +kernel
  obtain ⟨object', h⟩ := Option.isSome_iff_exists.mp hdone
  refine ⟨object', h, setAll_part ?_ plainDescriptor_valid h⟩
  intro change hchange
  rcases List.mem_pair.mp hchange with rfl | rfl
  · exact ownDescriptor_valid
  · exact plainDescriptor_valid

end SeamlessSmb.WinSec
