/-
# `SecurityDescriptor` — security descriptors in memory

What the Windows headers and their documentation say of `SECURITY_DESCRIPTOR`, of `SID` and `ACL`,
and of the calls that take a descriptor apart.  An absolute descriptor has pointers to its parts;
a self-relative one is a single block, with the offsets of the parts in its header.

A pointer is what memory holds from where it points, or nothing for `NULL`.  What a function comes
to that reads where memory holds nothing is `none`.
-/
import SeamlessSmb.Lib.Packing
import SeamlessSmb.Platform.Win32

namespace SeamlessSmb.WinSec

open Packing

abbrev WORD := BitVec 16
abbrev ULONG := BitVec 32

abbrev Pointer := Option Bytes

/-! ## The parts -/

inductive SidPart
  | owner
  | group
  deriving DecidableEq

inductive AclPart
  | sacl
  | dacl
  deriving DecidableEq

inductive Part
  | sid (p : SidPart)
  | acl (p : AclPart)
  deriving DecidableEq

/-- The part in a `SECURITY_INFORMATION`. -/
def Part.information : Part → DWORD
  | .sid .owner => OWNER_SECURITY_INFORMATION
  | .sid .group => GROUP_SECURITY_INFORMATION
  | .acl .dacl => DACL_SECURITY_INFORMATION
  | .acl .sacl => SACL_SECURITY_INFORMATION

def SE_OWNER_DEFAULTED : WORD := 0x1
def SE_GROUP_DEFAULTED : WORD := 0x2
def SE_DACL_PRESENT : WORD := 0x4
def SE_DACL_DEFAULTED : WORD := 0x8
def SE_SACL_PRESENT : WORD := 0x10
def SE_SACL_DEFAULTED : WORD := 0x20
def SE_SELF_RELATIVE : WORD := 0x8000

def SidPart.defaulted : SidPart → WORD
  | .owner => SE_OWNER_DEFAULTED
  | .group => SE_GROUP_DEFAULTED

def AclPart.defaulted : AclPart → WORD
  | .dacl => SE_DACL_DEFAULTED
  | .sacl => SE_SACL_DEFAULTED

def AclPart.present : AclPart → WORD
  | .dacl => SE_DACL_PRESENT
  | .sacl => SE_SACL_PRESENT

/-! ## SIDs and ACLs -/

def SID_REVISION : Byte := 1
def SID_MAX_SUB_AUTHORITIES : Byte := 15

/-- `IsValidSid`: the revision and the number of subauthorities. -/
def isValidSid : Bytes → Bool
  | revision :: subAuthorityCount :: _ =>
      decide (revision = SID_REVISION ∧ subAuthorityCount ≤ SID_MAX_SUB_AUTHORITIES)
  | _ => false

/-- `GetLengthSid`: eight bytes, and four for each subauthority. -/
def getLengthSid : Bytes → Option ULONG
  | _ :: subAuthorityCount :: _ => some (8 + 4 * subAuthorityCount.setWidth 32)
  | _ => none

/-- `sizeof(ACL)`. -/
def sizeofAcl : ℕ := 8

/-- `AclSize` of an `ACL`. -/
def aclSize (acl : Bytes) : Option WORD := load 2 acl 2

/-- The number of bytes of a valid SID. -/
def sidLength (m : Bytes) : Option ℕ :=
  if isValidSid m then (getLengthSid m).map BitVec.toNat else none

/-- The number of bytes of an ACL, which is no less than its own header. -/
def aclLength (m : Bytes) : Option ℕ :=
  (aclSize m).bind fun n => if sizeofAcl ≤ n.toNat then some n.toNat else none

theorem sidLength_eq_some {m : Bytes} {n : ℕ} : sidLength m = some n ↔
    isValidSid m = true ∧ ∃ size, getLengthSid m = some size ∧ size.toNat = n := by
  unfold sidLength
  rw [Option.ite_none_right_eq_some, Option.map_eq_some_iff]

theorem aclLength_eq_some {m : Bytes} {n : ℕ} : aclLength m = some n ↔
    ∃ size, aclSize m = some size ∧ sizeofAcl ≤ size.toNat ∧ size.toNat = n := by
  unfold aclLength
  simp only [Option.bind_eq_some_iff, Option.ite_none_right_eq_some, Option.some_inj]

/-- Both begin with their size. -/
def Part.sized : Part → Sized
  | .sid _ =>
    { head := 2
      size := sidLength
      depends := by
        intro m m' h
        match m, m', h with
        | [], [], _ => rfl
        | [_], [_], _ => rfl
        | [_], _ :: _ :: _, h => exact absurd (congrArg List.length h) (by simp)
        | _ :: _ :: _, [_], h => exact absurd (congrArg List.length h) (by simp)
        | _ :: _ :: _, _ :: _ :: _, h =>
            cases h
            rfl
      covers := by
        intro m n h
        obtain ⟨-, size, hsize, rfl⟩ := sidLength_eq_some.mp h
        match m with
        | [] => cases hsize
        | [_] => cases hsize
        | revision :: subAuthorityCount :: rest =>
            cases hsize
            have hcount := subAuthorityCount.isLt
            bv_omega }
  | .acl _ =>
    { head := 4
      size := aclLength
      depends := by
        intro m m' h
        have hload : aclSize m = aclSize m' := by
          unfold aclSize
          rw [← load_take (m := m) (n := 4) (Nat.le_refl _), h, load_take (Nat.le_refl _)]
        unfold aclLength
        rw [hload]
      covers := by
        intro m n h
        obtain ⟨size, -, hheader, rfl⟩ := aclLength_eq_some.mp h
        exact Nat.le_trans (by decide) hheader }

/-- No part is longer than an `AclSize` says. -/
theorem Part.size_lt {p : Part} {m : Bytes} {n : ℕ} (h : p.sized.size m = some n) : n < 65536 := by
  cases p with
  | sid p =>
      obtain ⟨-, size, hsize, rfl⟩ := sidLength_eq_some.mp h
      match m with
      | [] => cases hsize
      | [_] => cases hsize
      | revision :: subAuthorityCount :: rest =>
          cases hsize
          have hcount := subAuthorityCount.isLt
          bv_omega
  | acl p =>
      obtain ⟨size, -, -, rfl⟩ := aclLength_eq_some.mp h
      exact size.isLt

/-! ## Descriptors -/

def SECURITY_DESCRIPTOR_REVISION : ULONG := 1

/-- Where a self-relative descriptor has the offsets of its parts. -/
def relativeHeader : Header Part where
  field
    | .sid .owner => 4
    | .sid .group => 8
    | .acl .sacl => 12
    | .acl .dacl => 16
  size := 20
  within := by rintro ((_ | _) | (_ | _)) <;> decide
  apart := by
    rintro ((_ | _) | (_ | _)) ((_ | _) | (_ | _)) hne <;> first | exact absurd rfl hne | decide

/-- `SECURITY_DESCRIPTOR`. -/
structure AbsoluteDescriptor where
  Revision : Byte
  Control : WORD
  Owner : Pointer
  Group : Pointer
  Sacl : Pointer
  Dacl : Pointer

/-- A descriptor in either form. -/
inductive Descriptor
  | absolute (sd : AbsoluteDescriptor)
  | relative (memory : Bytes)

namespace Descriptor

def revision : Descriptor → Option Byte
  | .absolute sd => some sd.Revision
  | .relative m => load 1 m 0

def control : Descriptor → Option WORD
  | .absolute sd => some sd.Control
  | .relative m => load 2 m 2

/-- Where the part is, if anywhere. -/
def pointer (d : Descriptor) (p : Part) : Option Pointer :=
  match d with
  | .absolute sd =>
      match p with
      | .sid .owner => some sd.Owner
      | .sid .group => some sd.Group
      | .acl .sacl => some sd.Sacl
      | .acl .dacl => some sd.Dacl
  | .relative m =>
      (load 4 m (relativeHeader.field p)).map fun offset =>
        if offset = 0 then none else some (m.drop offset.toNat)

end Descriptor

def ERROR_UNKNOWN_REVISION : DWORD := 1305

/-- `GetSecurityDescriptorOwner` and `GetSecurityDescriptorGroup`: the last error, or where the SID
is and whether it came by default; the latter is left alone where there is no SID. -/
def fetchSid (p : SidPart) (d : Descriptor) : Option (Except DWORD (Option (Bytes × Bool))) := do
  let revision ← d.revision
  if revision.setWidth 32 ≠ SECURITY_DESCRIPTOR_REVISION then
    some (.error ERROR_UNKNOWN_REVISION)
  else do
    let control ← d.control
    let pointer ← d.pointer (.sid p)
    some (.ok (pointer.map fun sid => (sid, decide (control &&& p.defaulted ≠ 0))))

/-- `GetSecurityDescriptorDacl` and `GetSecurityDescriptorSacl`: the last error, or, if the ACL is
present, where it is and whether it came by default; both are left alone if it is not. -/
def fetchAcl (p : AclPart) (d : Descriptor) : Option (Except DWORD (Option (Pointer × Bool))) := do
  let revision ← d.revision
  if revision.setWidth 32 ≠ SECURITY_DESCRIPTOR_REVISION then
    some (.error ERROR_UNKNOWN_REVISION)
  else do
    let control ← d.control
    if control &&& p.present = 0 then
      some (.ok none)
    else do
      let pointer ← d.pointer (.acl p)
      some (.ok (some (pointer, decide (control &&& p.defaulted ≠ 0))))

/-! ## What a descriptor says -/

namespace Descriptor

/-- Where the calls find the part. -/
def found (d : Descriptor) : Part → Pointer
  | .sid p =>
      match fetchSid p d with
      | some (.ok (some (sid, _))) => some sid
      | _ => none
  | .acl p =>
      match fetchAcl p d with
      | some (.ok (some (acl, _))) => acl
      | _ => none

/-- The part itself. -/
def part (d : Descriptor) (p : Part) : Option Bytes := (d.found p).bind p.sized.cut

def isRelative : Descriptor → Bool
  | .absolute _ => false
  | .relative _ => true

/-- The header can be read, its revision is the one there is, its control word has the form right,
and each part that is there begins with its size and goes on for as long. -/
structure Valid (d : Descriptor) : Prop where
  revision : ∃ revision, d.revision = some revision ∧ revision.setWidth 32 = SECURITY_DESCRIPTOR_REVISION
  control : ∃ control, d.control = some control ∧
    (control &&& SE_SELF_RELATIVE ≠ 0 ↔ d.isRelative = true)
  pointers : ∀ p, (d.pointer p).isSome
  parts : ∀ p m, d.found p = some m → (p.sized.cut m).isSome

variable {d : Descriptor} {revision : Byte} {control : WORD} {pointer : Pointer}

theorem fetchSid_eq {p : SidPart} (hrevision : d.revision = some revision)
    (hone : revision.setWidth 32 = SECURITY_DESCRIPTOR_REVISION) (hcontrol : d.control = some control)
    (hpointer : d.pointer (.sid p) = some pointer) : fetchSid p d =
      some (.ok (pointer.map fun sid => (sid, decide (control &&& p.defaulted ≠ 0)))) := by
  simp only [fetchSid, hrevision, hcontrol, hpointer, Option.bind_eq_bind, Option.bind_some,
    if_neg (not_not.mpr hone)]

theorem fetchAcl_eq {p : AclPart} (hrevision : d.revision = some revision)
    (hone : revision.setWidth 32 = SECURITY_DESCRIPTOR_REVISION) (hcontrol : d.control = some control)
    (hpointer : d.pointer (.acl p) = some pointer) : fetchAcl p d =
      some (.ok (if control &&& p.present = 0 then none
        else some (pointer, decide (control &&& p.defaulted ≠ 0)))) := by
  simp only [fetchAcl, hrevision, hcontrol, hpointer, Option.bind_eq_bind, Option.bind_some,
    if_neg (not_not.mpr hone)]
  split <;> rfl

theorem Valid.fetchSid (h : d.Valid) (p : SidPart) :
    ∃ sid, fetchSid p d = some (.ok sid) ∧ d.found (.sid p) = sid.map Prod.fst := by
  obtain ⟨revision, hrevision, hone⟩ := h.revision
  obtain ⟨control, hcontrol, -⟩ := h.control
  obtain ⟨pointer, hpointer⟩ := Option.isSome_iff_exists.mp (h.pointers (.sid p))
  have hfetch := fetchSid_eq hrevision hone hcontrol hpointer
  refine ⟨_, hfetch, ?_⟩
  rw [found, hfetch]
  cases pointer <;> rfl

theorem Valid.fetchAcl (h : d.Valid) (p : AclPart) :
    ∃ acl, fetchAcl p d = some (.ok acl) ∧ d.found (.acl p) = acl.bind Prod.fst := by
  obtain ⟨revision, hrevision, hone⟩ := h.revision
  obtain ⟨control, hcontrol, -⟩ := h.control
  obtain ⟨pointer, hpointer⟩ := Option.isSome_iff_exists.mp (h.pointers (.acl p))
  have hfetch := fetchAcl_eq hrevision hone hcontrol hpointer
  refine ⟨_, hfetch, ?_⟩
  rw [found, hfetch]
  by_cases hpresent : control &&& p.present = 0
  · rw [if_pos hpresent]
    rfl
  · rw [if_neg hpresent]
    rfl

/-- A pointer leads to the part if the control word says so. -/
theorem found_eq {p : Part} (hrevision : d.revision = some revision)
    (hone : revision.setWidth 32 = SECURITY_DESCRIPTOR_REVISION) (hcontrol : d.control = some control)
    (hpointer : d.pointer p = some pointer)
    (hpresent : ∀ q, p = .acl q → pointer.isSome → control &&& q.present ≠ 0) :
    d.found p = pointer := by
  cases p with
  | sid p =>
      rw [found, fetchSid_eq hrevision hone hcontrol hpointer]
      cases pointer <;> rfl
  | acl p =>
      rw [found, fetchAcl_eq hrevision hone hcontrol hpointer]
      cases pointer with
      | none => by_cases h : control &&& p.present = 0 <;> simp only [h, if_true, if_false]
      | some acl => rw [if_neg (hpresent p rfl rfl)]

end Descriptor

end SeamlessSmb.WinSec
