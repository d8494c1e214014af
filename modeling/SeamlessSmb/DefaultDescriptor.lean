/-
# `DefaultDescriptor` — the descriptor of a file that has none

`CreateDefaultSelfRelativeSD` puts a descriptor together from the SIDs of the user the service was
started by and from a list of entries of its own, once; from then on it gives out copies.  The block
for the entries is measured before they are added, and an entry that does not fit is left out without
a word.

The callbacks run on the threads of the driver, and nothing guards `SDCached`, so the accesses to it
are calls here (`CacheCall`), and what a thread does between two of them takes no time.  `SDCached` is
assigned before the block it then points to is filled, and a `memcpy` takes its bytes one after the
other.

| source | here |
| :-- | :-- |
| `GetTokenInformation` and the calls around it | `ProcessToken`, what they deliver |
| `AllocateAndInitializeSid`, `AddAccessAllowedAceEx` | by their documentation |
| `GetExplicitEntriesFromAclW`, `BuildSecurityDescriptorW` | `Accounts`, the same at any time |
| `LocalAlloc` | a block of zeros, which is always there |

What is printed on the way is left out, and so is what is freed.

**Proved here:** every entry is in the list, and with an owner the list takes up its block to the last
byte (`defaultAcl_complete`).  However the threads run, what they are given is the descriptor, with zeros
for the bytes that were copied too early (`descriptors_same`).
-/
import SeamlessSmb.Lib.Rely
import SeamlessSmb.WinSec

namespace SeamlessSmb.WinSec

open Packing Stream

/-! ## SIDs -/

def SECURITY_NT_AUTHORITY : Bytes := [0, 0, 0, 0, 0, 5]
def SECURITY_WORLD_SID_AUTHORITY : Bytes := [0, 0, 0, 0, 0, 1]
def SECURITY_LOCAL_SYSTEM_RID : DWORD := 18
def SECURITY_BUILTIN_DOMAIN_RID : DWORD := 32
def DOMAIN_ALIAS_RID_ADMINS : DWORD := 544
def SECURITY_WORLD_RID : DWORD := 0

/-- `AllocateAndInitializeSid`: of the subauthorities as many as are counted. -/
def allocateAndInitializeSid (authority : Bytes) (count : Byte) (subAuthorities : List DWORD) : Bytes :=
  [SID_REVISION, count] ++ authority ++
    (subAuthorities.take count.toNat).flatMap (Codec.littleEndian 4).save

def ntauth : Bytes :=
  allocateAndInitializeSid SECURITY_NT_AUTHORITY 1 [SECURITY_LOCAL_SYSTEM_RID, DOMAIN_ALIAS_RID_ADMINS]

def admins : Bytes :=
  allocateAndInitializeSid SECURITY_NT_AUTHORITY 2 [SECURITY_BUILTIN_DOMAIN_RID, DOMAIN_ALIAS_RID_ADMINS]

def everyone : Bytes := allocateAndInitializeSid SECURITY_WORLD_SID_AUTHORITY 1 [SECURITY_WORLD_RID, 0]

/-! ## The list of entries -/

def FILE_GENERIC_READ : DWORD := 0x120089
def FILE_GENERIC_WRITE : DWORD := 0x120116
def FILE_GENERIC_EXECUTE : DWORD := 0x1200A0

/-- The access of those who may do anything. -/
def fullAccess : DWORD :=
  DELETE ||| FILE_GENERIC_READ ||| FILE_GENERIC_WRITE ||| FILE_GENERIC_EXECUTE ||| READ_CONTROL |||
    WRITE_DAC ||| WRITE_OWNER ||| SYNCHRONIZE

/-- The access of the owner and of everyone, to a file itself. -/
def plainAccess : DWORD :=
  FILE_GENERIC_READ ||| FILE_GENERIC_WRITE ||| FILE_GENERIC_EXECUTE ||| READ_CONTROL ||| SYNCHRONIZE

/-- `ACCESS_ALLOWED_ACE`. -/
structure Ace where
  aceFlags : Byte
  mask : DWORD
  sid : Bytes

/-- `sizeof(ACCESS_ALLOWED_ACE)`, which has room for one subauthority of the SID. -/
def sizeofAce : DWORD := 12

def sizeofDWORD : DWORD := 4

/-- `AceSize`: the SID begins where the entry has room for it. -/
def Ace.size (ace : Ace) : ℕ := (sizeofAce - sizeofDWORD).toNat + ((getLengthSid ace.sid).elim 0 BitVec.toNat)

/-- An `ACL` under way. -/
structure Acl where
  aclSize : ℕ
  aces : List Ace

def sizeofAces : List Ace → ℕ
  | [] => 0
  | ace :: aces => ace.size + sizeofAces aces

/-- What is taken up, the header included. -/
def Acl.used (acl : Acl) : ℕ := sizeofAcl + sizeofAces acl.aces

/-- `AddAccessAllowedAceEx`, and `AddAccessAllowedAce` without flags: nothing is added where the SID is
not valid or the entry does not fit. -/
def Acl.addAccessAllowedAceEx (acl : Acl) (ace : Ace) : Acl :=
  if isValidSid ace.sid = true ∧ acl.used + ace.size ≤ acl.aclSize then
    { acl with aces := acl.aces ++ [ace] }
  else acl

/-- The owner, where there is one that is valid. -/
def validOwner (owner : Pointer) : Pointer := owner.filter isValidSid

/-- What is added, in this order: for each SID an entry that is handed down, and one that is not. -/
def defaultAces (owner : Pointer) : List Ace :=
  [⟨3, fullAccess, ntauth⟩, ⟨0, fullAccess, ntauth⟩, ⟨3, fullAccess, admins⟩, ⟨0, fullAccess, admins⟩] ++
    ((validOwner owner).elim [] fun owner => [⟨3, fullAccess, owner⟩, ⟨0, plainAccess, owner⟩]) ++
    [⟨3, fullAccess, everyone⟩, ⟨0, plainAccess, everyone⟩]

def NUM_OF_ACES : DWORD := 8

/-- What a SID has more than its first subauthority. -/
def room (sid : Bytes) : Option DWORD := (getLengthSid sid).map fun n => n - sizeofDWORD

/-- `cbAcl`: twice what each SID needs, aligned. -/
def cbAcl (owner : Pointer) : Option DWORD := do
  let system ← room ntauth
  let administrators ← room admins
  let user ← (validOwner owner).elim (some 0) room
  let world ← room everyone
  let cbAcl := 8 + sizeofAce * NUM_OF_ACES + system + system + administrators + administrators +
    user + user + world + world
  pure ((cbAcl + (sizeofDWORD - 1)) &&& 0xfffffffc)

/-- `InitializeAcl`, which the size is not too small or too large for, and what is added then. -/
def defaultAcl (owner : Pointer) : Option Acl := do
  let cbAcl ← cbAcl owner
  pure ((defaultAces owner).foldl Acl.addAccessAllowedAceEx { aclSize := cbAcl.toNat, aces := [] })

theorem aligned_toNat {n : DWORD} (h : n.toNat < 0xfffffffc) :
    ((n + (sizeofDWORD - 1)) &&& 0xfffffffc).toNat = rounded n.toNat := by
  have hmask : (0xfffffffc : DWORD) = ~~~3#32 := by decide
  have hsum : (n + (sizeofDWORD - 1)).toNat = n.toNat + 3 := by
    unfold sizeofDWORD
    bv_omega
  rw [hmask, and_not_three, BitVec.toNat_shiftLeft, BitVec.toNat_ushiftRight, hsum,
    Nat.shiftRight_eq_div_pow, Nat.shiftLeft_eq]
  unfold rounded
  omega

/-- The length of a valid SID. -/
theorem length_of_valid {sid : Bytes} (h : isValidSid sid = true) :
    ∃ n, getLengthSid sid = some n ∧ n.toNat ≤ 68 ∧ 8 ≤ n.toNat ∧ 4 ∣ n.toNat := by
  match sid with
  | [] => cases h
  | [_] => cases h
  | revision :: count :: rest =>
      obtain ⟨-, hcount⟩ := of_decide_eq_true h
      have hle : count.toNat ≤ 15 := hcount
      refine ⟨_, rfl, ?_, ?_, ?_⟩
      · bv_omega
      · bv_omega
      · have hlen : (8 + 4 * count.setWidth 32 : ULONG).toNat = 8 + 4 * count.toNat := by bv_omega
        rw [hlen]
        omega

theorem room_ntauth : room ntauth = some 8 := rfl

theorem room_admins : room admins = some 12 := rfl

theorem room_everyone : room everyone = some 8 := rfl

theorem size_ntauth {flags : Byte} {mask : DWORD} : Ace.size ⟨flags, mask, ntauth⟩ = 20 := rfl

theorem size_admins {flags : Byte} {mask : DWORD} : Ace.size ⟨flags, mask, admins⟩ = 24 := rfl

theorem size_everyone {flags : Byte} {mask : DWORD} : Ace.size ⟨flags, mask, everyone⟩ = 20 := rfl

/-- `cbAcl`, with what the owner needs left open. -/
theorem cbAcl_eq {owner : Pointer} {user : DWORD} (h : (validOwner owner).elim (some 0) room = some user) :
    cbAcl owner = some ((144 + user + user + 8 + 8 + (sizeofDWORD - 1)) &&& 0xfffffffc) := by
  unfold cbAcl
  rw [room_ntauth, room_admins, room_everyone, h]
  rfl

/-- **The block** is measured for its entries; without an owner it has room for two more. -/
theorem cbAcl_toNat (owner : Pointer) : ∃ n, cbAcl owner = some n ∧
    sizeofAcl + sizeofAces (defaultAces owner) + (if (validOwner owner).isSome then 0 else 24) =
      n.toNat := by
  cases howner : validOwner owner with
  | none =>
      have huser : (validOwner owner).elim (some 0) room = some 0 := by
        rw [howner]
        rfl
      refine ⟨_, cbAcl_eq huser, ?_⟩
      unfold defaultAces
      rw [howner]
      rfl
  | some sid =>
      have hvalid : isValidSid sid = true := (Option.filter_eq_some_iff.mp howner).2
      obtain ⟨n, hn, hle, hge, hdvd⟩ := length_of_valid hvalid
      have huser : (validOwner owner).elim (some 0) room = some (n - sizeofDWORD) := by
        rw [howner]
        show (getLengthSid sid).map _ = _
        rw [hn]
        rfl
      have hsize : ∀ {flags : Byte} {mask : DWORD}, Ace.size ⟨flags, mask, sid⟩ = 8 + n.toNat := by
        intro flags mask
        show _ + (getLengthSid sid).elim 0 BitVec.toNat = _
        rw [hn]
        rfl
      have htotal : (144 + (n - sizeofDWORD) + (n - sizeofDWORD) + 8 + 8).toNat = 152 + 2 * n.toNat := by
        unfold sizeofDWORD
        bv_omega
      refine ⟨_, cbAcl_eq huser, ?_⟩
      rw [aligned_toNat (by omega), htotal]
      unfold defaultAces rounded
      rw [howner]
      simp only [Option.elim_some, Option.isSome_some, if_true, List.cons_append, List.nil_append, sizeofAces,
        size_ntauth, size_admins, size_everyone, hsize, sizeofAcl]
      omega

theorem sizeofAces_append {aces more : List Ace} :
    sizeofAces (aces ++ more) = sizeofAces aces + sizeofAces more := by
  induction aces with
  | nil => exact (Nat.zero_add _).symm
  | cons ace aces ih =>
      simp only [List.cons_append, sizeofAces]
      omega

/-- Entries that fit are all there. -/
theorem foldl_addAce {aces : List Ace} (hvalid : ∀ ace ∈ aces, isValidSid ace.sid = true) :
    ∀ {acl : Acl}, acl.used + sizeofAces aces ≤ acl.aclSize →
      aces.foldl Acl.addAccessAllowedAceEx acl = { acl with aces := acl.aces ++ aces } := by
  induction aces with
  | nil =>
      intro acl _
      simp
  | cons ace aces ih =>
      intro acl hroom
      rw [sizeofAces] at hroom
      have hadd : acl.addAccessAllowedAceEx ace = { acl with aces := acl.aces ++ [ace] } :=
        if_pos ⟨hvalid ace List.mem_cons_self, by omega⟩
      rw [List.foldl_cons, hadd, ih fun ace h => hvalid ace (List.mem_cons_of_mem _ h)]
      · simp
      · simp only [Acl.used, sizeofAces_append, sizeofAces] at hroom ⊢
        omega

/-- Every entry is for a valid SID. -/
theorem defaultAces_valid {owner : Pointer} : ∀ ace ∈ defaultAces owner, isValidSid ace.sid = true := by
  intro ace hace
  unfold defaultAces at hace
  cases howner : validOwner owner with
  | none =>
      rw [howner] at hace
      simp only [Option.elim_none, List.append_nil, List.cons_append, List.nil_append, List.mem_cons,
        List.not_mem_nil, or_false] at hace
      rcases hace with rfl | rfl | rfl | rfl | rfl | rfl <;> rfl
  | some sid =>
      have hvalid : isValidSid sid = true := (Option.filter_eq_some_iff.mp howner).2
      rw [howner] at hace
      simp only [Option.elim_some, List.cons_append, List.nil_append, List.mem_cons, List.not_mem_nil,
        or_false] at hace
      rcases hace with rfl | rfl | rfl | rfl | rfl | rfl | rfl | rfl
      · rfl
      · rfl
      · rfl
      · rfl
      · exact hvalid
      · exact hvalid
      · rfl
      · rfl

/-- **The entries.**  Whoever the owner is, and without one, all are in the list. -/
theorem defaultAcl_complete (owner : Pointer) : ∃ acl, defaultAcl owner = some acl ∧
    acl.aces = defaultAces owner ∧
    acl.used + (if (validOwner owner).isSome then 0 else 24) = acl.aclSize := by
  obtain ⟨n, hn, hsize⟩ := cbAcl_toNat owner
  refine ⟨{ aclSize := n.toNat, aces := defaultAces owner }, ?_, rfl, hsize⟩
  unfold defaultAcl
  rw [hn]
  refine congrArg some ((foldl_addAce defaultAces_valid ?_).trans ?_)
  · show sizeofAcl + 0 + _ ≤ n.toNat
    omega
  · rfl

/-! ## Whose descriptor it is -/

/-- `TOKEN_ELEVATION_TYPE`. -/
inductive ElevationType
  | default
  | full
  | limited

/-- What the system delivers of the token of the process: an error, or what was asked for. -/
structure ProcessToken where
  token : Except DWORD Unit
  elevationType : Except DWORD ElevationType
  linkedToken : Except DWORD Unit
  user : Except DWORD Bytes
  primaryGroup : Except DWORD Bytes

/-- `CopySid`, of as many bytes as `GetLengthSid` says. -/
def copySid (sid : Bytes) : Option Bytes := (getLengthSid sid).map fun n => sid.take n.toNat

/-- `GetNotElevatedSIDS`, but for the error, which its caller prints: the owner and the group.  Where the
group cannot be read, its SID is at `NULL`, and is measured there. -/
def getNotElevatedSIDS (t : ProcessToken) : Option (Pointer × Pointer) :=
  match t.token, t.elevationType, t.linkedToken, t.user with
  | .ok _, .ok .full, .ok _, .ok user =>
      match t.primaryGroup with
      | .ok primaryGroup => do
          let owner ← copySid user
          let group ← copySid primaryGroup
          some (some owner, some group)
      | .error _ => none
  | _, _, _, _ => some (none, none)

/-- The process's token, and what the system makes of a list of entries; `E` is an array of
`EXPLICIT_ACCESS`. -/
structure Accounts (E : Type) where
  token : ProcessToken
  getExplicitEntriesFromAcl : Acl → Except DWORD E
  buildSecurityDescriptor : (owner group : Pointer) → E →
    Except DWORD { sd : Bytes // sd.length < 0x100000000 }

/-- What `CreateDefaultSelfRelativeSD` comes to when it makes a descriptor.  One that could not be built
is copied from `NULL`. -/
def defaultDescriptor {E : Type} (a : Accounts E) :
    Option (Except DWORD { sd : Bytes // sd.length < 0x100000000 }) := do
  let (owner, group) ← getNotElevatedSIDS a.token
  let acl ← defaultAcl owner
  match a.getExplicitEntriesFromAcl acl with
  | .error error => some (.error error)
  | .ok entries =>
      let (towner, tgroup) := if (validOwner owner).isNone then (some everyone, some everyone) else (owner, group)
      match a.buildSecurityDescriptor towner tgroup entries with
      | .error _ => none
      | .ok lcsd => some (.ok lcsd)

/-! ## The copy that is kept -/

/-- `SDCached` and `SDCachedSize`, and the blocks that were allocated; a pointer is a number of one. -/
structure Cached where
  SDCached : Option ℕ := none
  SDCachedSize : ULONG := 0
  blocks : List Bytes := []

inductive CacheCall
  | loadPointer
  | loadSize
  | localAlloc (size : ULONG)
  | storeSize (size : ULONG)
  | storePointer (block : ℕ)
  /-- A byte of a `memcpy` out of a block. -/
  | readByte (block i : ℕ)
  /-- A byte of a `memcpy` to a block. -/
  | writeByte (block i : ℕ) (b : Byte)

@[reducible] def CacheAnswer : CacheCall → Type
  | .loadPointer => Option ℕ
  | .loadSize => ULONG
  | .localAlloc _ => ℕ
  | .readByte _ _ => Option Byte
  | .writeByte _ _ _ => Bool
  | _ => Unit

abbrev CacheOp (α : Type) := Calls.Prog CacheCall CacheAnswer α

/-- A write to a block, if the cell is in it. -/
def Cached.writeByte (s : Cached) (block i : ℕ) (b : Byte) : Bool × Cached :=
  match s.blocks[block]? with
  | some m => if i < m.length then (true, { s with blocks := s.blocks.set block (m.set i b) }) else (false, s)
  | none => (false, s)

/-- What a call delivers, and what it leaves. -/
def CacheCall.result (s : Cached) : (c : CacheCall) → CacheAnswer c × Cached
  | .loadPointer => (s.SDCached, s)
  | .loadSize => (s.SDCachedSize, s)
  | .localAlloc size =>
      (s.blocks.length, { s with blocks := s.blocks ++ [List.replicate size.toNat 0] })
  | .storeSize size => ((), { s with SDCachedSize := size })
  | .storePointer block => ((), { s with SDCached := some block })
  | .readByte block i => (s.blocks[block]?.bind fun m => m[i]?, s)
  | .writeByte block i b => s.writeByte block i b

/-- How a call ends. -/
inductive Created
  | descriptor (sd : Bytes)
  | error (status : DWORD)
  /-- Memory was touched that is not the process's, or not there. -/
  | outside

/-- `memcpy` of so many bytes out of a block. -/
def copyOut (block : ℕ) : (i n : ℕ) → CacheOp (Option Bytes)
  | _, 0 => pure (some [])
  | i, n + 1 => do
      let b ← Calls.Prog.perform (CacheCall.readByte block i)
      match (b : Option Byte) with
      | none => pure none
      | some b => do
          let rest ← copyOut block (i + 1) n
          pure (rest.map (b :: ·))

/-- `memcpy` to a block. -/
def copyIn (block : ℕ) : (i : ℕ) → Bytes → CacheOp Bool
  | _, [] => pure true
  | i, b :: bs => do
      let written ← Calls.Prog.perform (CacheCall.writeByte block i b)
      if written = true then copyIn block (i + 1) bs else pure false

/-- A copy of what is kept. -/
def copyCached : CacheOp Created := do
  let allocated ← Calls.Prog.perform CacheCall.loadSize
  let block ← Calls.Prog.perform CacheCall.loadPointer
  let size ← Calls.Prog.perform CacheCall.loadSize
  match (block : Option ℕ) with
  | none => pure .outside
  | some block => do
      let sd ← copyOut block 0 (BitVec.toNat size)
      match sd with
      | none => pure .outside
      | some sd =>
          if BitVec.toNat allocated < BitVec.toNat size then pure .outside
          else pure (.descriptor (sd ++ List.replicate (BitVec.toNat allocated - BitVec.toNat size) 0))

/-- The descriptor that was made is kept, and given out itself. -/
def keep (lcsd : Bytes) : CacheOp Created := do
  let sdsize : ULONG := BitVec.ofNat 32 lcsd.length
  Calls.Prog.perform (CacheCall.storeSize sdsize)
  let allocated ← Calls.Prog.perform (CacheCall.localAlloc sdsize)
  Calls.Prog.perform (CacheCall.storePointer allocated)
  let block ← Calls.Prog.perform CacheCall.loadPointer
  match (block : Option ℕ) with
  | none => pure .outside
  | some block => do
      let filled ← copyIn block 0 lcsd
      if filled = true then pure (.descriptor lcsd) else pure .outside

/-- `CreateDefaultSelfRelativeSD`. -/
def createDefaultSelfRelativeSD {E : Type} (a : Accounts E) : CacheOp Created := do
  let cached ← Calls.Prog.perform CacheCall.loadPointer
  match (cached : Option ℕ) with
  | some _ => copyCached
  | none =>
      match defaultDescriptor a with
      | none => pure .outside
      | some (.error error) => pure (.error error)
      | some (.ok lcsd) => keep lcsd

/-! ## Threads -/

/-- Any number of threads, with nothing of their own. -/
def cacheMachine : Calls.Machine CacheCall CacheAnswer Unit Cached where
  answers s c r t := (r, t) = c.result s
  install _ s := s
  save _ := ()

/-- A byte of the descriptor, or of a block that is not filled so far. -/
def Torn (b c : Byte) : Prop := b = c ∨ b = 0

/-- Every block is for the descriptor, and the fields are about one of them. -/
structure InBlocks (lcsd : Bytes) (s : Cached) : Prop where
  blocks : ∀ m ∈ s.blocks, List.Forall₂ Torn m lcsd
  cached : ∀ block, s.SDCached = some block →
    block < s.blocks.length ∧ s.SDCachedSize = BitVec.ofNat 32 lcsd.length

/-- Nothing is taken back: neither a block, nor that one is kept, nor its size. -/
structure Onward (lcsd : Bytes) (s t : Cached) : Prop where
  cached : s.SDCached ≠ none → t.SDCached ≠ none
  size : s.SDCachedSize = BitVec.ofNat 32 lcsd.length → t.SDCachedSize = BitVec.ofNat 32 lcsd.length
  blocks : s.blocks.length ≤ t.blocks.length

/-- The bytes of the block that is copied from are to those of the descriptor as `R` says. -/
def CopiesFrom (R : Byte → Byte → Prop) (lcsd : Bytes) (s : Cached) (c : CacheCall) (_ : CacheAnswer c) :
    Prop := ∀ block i m, c = .readByte block i → s.blocks[block]? = some m → List.Forall₂ R m lcsd

/-- What comes back. -/
def Given (R : Byte → Byte → Prop) (lcsd : Bytes) (r : Created) : Prop :=
  ∃ sd, r = .descriptor sd ∧ List.Forall₂ R sd lcsd

section

variable {lcsd : Bytes} {R : Byte → Byte → Prop} {s t : Cached} {b : ℕ}

theorem onward_refl (s : Cached) : Onward lcsd s s := ⟨id, id, Nat.le_refl _⟩

theorem onward_trans (s t u : Cached) (h : Onward lcsd s t) (h' : Onward lcsd t u) : Onward lcsd s u :=
  ⟨fun hs => h'.cached (h.cached hs), fun hs => h'.size (h.size hs), Nat.le_trans h.blocks h'.blocks⟩

theorem InBlocks.block (h : InBlocks lcsd s) (hblock : b < s.blocks.length) :
    ∃ m, s.blocks[b]? = some m ∧ List.Forall₂ Torn m lcsd :=
  ⟨_, List.getElem?_eq_getElem hblock, h.blocks _ (List.getElem_mem hblock)⟩

theorem InBlocks.size (h : InBlocks lcsd s) (hcached : s.SDCached ≠ none) :
    s.SDCachedSize = BitVec.ofNat 32 lcsd.length := by
  obtain ⟨block, hblock⟩ := Option.ne_none_iff_exists'.mp hcached
  exact (h.cached block hblock).2

theorem sdsize_toNat (hlcsd : lcsd.length < 0x100000000) :
    (BitVec.ofNat 32 lcsd.length).toNat = lcsd.length := by
  rw [BitVec.toNat_ofNat]
  exact Nat.mod_eq_of_lt hlcsd

/-- What is copied out of a block. -/
theorem guarantees_copyOut {i n : ℕ} (hn : i + n = lcsd.length) (hb : b < s.blocks.length) :
    cacheMachine.Guarantees (InBlocks lcsd) (Onward lcsd) (CopiesFrom R lcsd) (copyOut b i n) () s fun sd =>
      ∃ bs, sd = some bs ∧ List.Forall₂ R bs (lcsd.drop i) := by
  induction n generalizing i s with
  | zero =>
      refine Calls.Machine.guarantees_pure.mpr ⟨[], rfl, ?_⟩
      have hdone : lcsd.drop i = [] := List.drop_of_length_le (Nat.le_of_eq hn.symm)
      rw [hdone]
      exact .nil
  | succ n ih =>
      refine Calls.Machine.guarantees_look onward_refl (fun _ _ _ h => (Prod.mk.inj h).2) ?_
      intro s₁ byte h₁ hin₁ hstep₁ hcopies
      have hb₁ := Nat.lt_of_lt_of_le hb h₁.blocks
      obtain ⟨m, hm, -⟩ := hin₁.block hb₁
      obtain ⟨hlength, hbytes⟩ := List.forall₂_iff_get.mp (hcopies b i m rfl hm)
      have hi : i < lcsd.length := by omega
      have him : i < m.length := hlength ▸ hi
      obtain rfl : byte = some m[i] := by
        have hbyte : byte = s₁.blocks[b]?.bind fun m => m[i]? := (Prod.mk.inj hstep₁).1
        rw [hbyte, hm, Option.bind_some, List.getElem?_eq_getElem him]
      refine Calls.Machine.guarantees_bind (ih (by omega) hb₁) ?_
      rintro _ ⟨bs, rfl, hbs⟩ _ _
      refine Calls.Machine.guarantees_pure.mpr ⟨m[i] :: bs, rfl, ?_⟩
      rw [List.drop_eq_getElem_cons hi]
      exact .cons (hbytes i him hi) hbs

/-- **A copy**, begun after a block was kept. -/
theorem guarantees_copyCached (hlcsd : lcsd.length < 0x100000000) (hcached : s.SDCached ≠ none) :
    cacheMachine.Guarantees (InBlocks lcsd) (Onward lcsd) (CopiesFrom R lcsd) copyCached () s
      (Given R lcsd) := by
  refine Calls.Machine.guarantees_look onward_refl (fun _ _ _ h => (Prod.mk.inj h).2) ?_
  intro s₁ allocated h₁ hin₁ hstep₁ _
  have hcached₁ := h₁.cached hcached
  obtain rfl : allocated = BitVec.ofNat 32 lcsd.length :=
    (Prod.mk.inj hstep₁).1.trans (hin₁.size hcached₁)
  refine Calls.Machine.guarantees_look onward_refl (fun _ _ _ h => (Prod.mk.inj h).2) ?_
  intro s₂ pointer h₂ hin₂ hstep₂ _
  have hcached₂ := h₂.cached hcached₁
  obtain ⟨b, hb⟩ := Option.ne_none_iff_exists'.mp hcached₂
  have hlt := (hin₂.cached b hb).1
  obtain rfl : pointer = some b := (Prod.mk.inj hstep₂).1.trans hb
  refine Calls.Machine.guarantees_look onward_refl (fun _ _ _ h => (Prod.mk.inj h).2) ?_
  intro s₃ size h₃ hin₃ hstep₃ _
  obtain rfl : size = BitVec.ofNat 32 lcsd.length :=
    (Prod.mk.inj hstep₃).1.trans (hin₃.size (h₃.cached hcached₂))
  refine Calls.Machine.guarantees_bind (guarantees_copyOut (R := R) ?_ (Nat.lt_of_lt_of_le hlt h₃.blocks)) ?_
  · rw [Nat.zero_add]
    exact sdsize_toNat hlcsd
  rintro _ ⟨sd, rfl, hsd⟩ _ s₄
  show cacheMachine.Guarantees _ _ _ (if _ < _ then _ else _) _ _ _
  rw [if_neg (Nat.lt_irrefl _), Nat.sub_self, List.replicate_zero, List.append_nil]
  exact ⟨sd, rfl, hsd⟩

/-! What `keep` does call by call. -/

theorem InBlocks.storeSize (h : InBlocks lcsd s) :
    InBlocks lcsd { s with SDCachedSize := BitVec.ofNat 32 lcsd.length } where
  blocks := h.blocks
  cached b hb := ⟨(h.cached b hb).1, rfl⟩

theorem InBlocks.localAlloc (hlcsd : lcsd.length < 0x100000000) (h : InBlocks lcsd s) :
    InBlocks lcsd
      { s with blocks := s.blocks ++ [List.replicate (BitVec.ofNat 32 lcsd.length).toNat 0] } where
  blocks m hm := by
    rcases List.mem_append.mp hm with hm | hm
    · exact h.blocks m hm
    · rw [List.mem_singleton.mp hm, sdsize_toNat hlcsd]
      refine List.forall₂_iff_get.mpr ⟨List.length_replicate, fun i _ _ => .inr ?_⟩
      exact List.getElem_replicate _
  cached b hb := by
    obtain ⟨hlt, hsize⟩ := h.cached b hb
    exact ⟨Nat.lt_of_lt_of_le hlt ((List.sublist_append_left _ _).length_le), hsize⟩

theorem InBlocks.storePointer (h : InBlocks lcsd s) (hb : b < s.blocks.length)
    (hsize : s.SDCachedSize = BitVec.ofNat 32 lcsd.length) :
    InBlocks lcsd { s with SDCached := some b } where
  blocks := h.blocks
  cached := by
    rintro b ⟨⟩
    exact ⟨hb, hsize⟩

/-- A byte of the descriptor is put where it belongs. -/
theorem InBlocks.writeByte {i : ℕ} {m : Bytes} (h : InBlocks lcsd s) (hm : s.blocks[b]? = some m)
    (hi : i < lcsd.length) : InBlocks lcsd { s with blocks := s.blocks.set b (m.set i lcsd[i]) } where
  blocks m' hm' := by
    rcases List.mem_or_eq_of_mem_set hm' with hm' | rfl
    · exact h.blocks m' hm'
    · obtain ⟨hlength, hbytes⟩ := List.forall₂_iff_get.mp (h.blocks m (List.mem_of_getElem? hm))
      refine List.forall₂_iff_get.mpr ⟨List.length_set.trans hlength, fun j hj hj' => ?_⟩
      show Torn (m.set i lcsd[i])[j] lcsd[j]
      rw [List.getElem_set]
      split
      · next hij =>
          subst hij
          exact .inl rfl
      · exact hbytes j (hlength ▸ hj') hj'
  cached b' hb' := by
    rw [List.length_set]
    exact h.cached b' hb'

theorem writeByte_step {i : ℕ} {m : Bytes} {byte : Byte} {written : Bool} (hm : s.blocks[b]? = some m)
    (hi : i < m.length) (hstep : (written, t) = s.writeByte b i byte) :
    written = true ∧ t = { s with blocks := s.blocks.set b (m.set i byte) } := by
  unfold Cached.writeByte at hstep
  rw [hm] at hstep
  simp only [if_pos hi] at hstep
  exact Prod.mk.inj hstep

/-- What is copied to a block. -/
theorem guarantees_copyIn {i : ℕ} {bs : Bytes} (hbs : bs = lcsd.drop i) (hb : b < s.blocks.length) :
    cacheMachine.Guarantees (InBlocks lcsd) (Onward lcsd) (CopiesFrom R lcsd) (copyIn b i bs) () s
      fun filled => filled = true := by
  induction bs generalizing i s with
  | nil => exact Calls.Machine.guarantees_pure.mpr rfl
  | cons byte bs ih =>
      have hi : i < lcsd.length := by
        rw [← Nat.not_le, ← List.drop_eq_nil_iff, ← hbs]
        exact List.cons_ne_nil _ _
      rw [List.drop_eq_getElem_cons hi] at hbs
      obtain ⟨rfl, rfl⟩ := List.cons.inj hbs
      refine Calls.Machine.guarantees_call.mpr ?_
      intro s₁ written t₁ h₁ hin₁ hstep₁ _
      have hb₁ := Nat.lt_of_lt_of_le hb h₁.blocks
      obtain ⟨m, hm, htorn⟩ := hin₁.block hb₁
      obtain ⟨rfl, rfl⟩ := writeByte_step hm (htorn.length_eq ▸ hi) hstep₁
      have hlength : (s₁.blocks.set b (m.set i lcsd[i])).length = s₁.blocks.length := List.length_set
      exact ⟨hin₁.writeByte hm hi, ⟨id, id, Nat.le_of_eq hlength.symm⟩, ih rfl (hlength ▸ hb₁)⟩

/-- **The first call**, which keeps what it made. -/
theorem guarantees_keep (hlcsd : lcsd.length < 0x100000000) (hR : ∀ byte, R byte byte) :
    cacheMachine.Guarantees (InBlocks lcsd) (Onward lcsd) (CopiesFrom R lcsd) (keep lcsd) () s
      (Given R lcsd) := by
  refine Calls.Machine.guarantees_call.mpr ?_
  intro s₁ _ t₁ _ hin₁ hstep₁ _
  obtain rfl : t₁ = { s₁ with SDCachedSize := BitVec.ofNat 32 lcsd.length } := (Prod.mk.inj hstep₁).2
  refine ⟨hin₁.storeSize, ⟨id, fun _ => rfl, Nat.le_refl _⟩, ?_⟩
  refine Calls.Machine.guarantees_call.mpr ?_
  intro s₂ allocated t₂ h₂ hin₂ hstep₂ _
  have hsize₂ : s₂.SDCachedSize = BitVec.ofNat 32 lcsd.length := h₂.size rfl
  obtain ⟨hallocated, ht₂⟩ : allocated = s₂.blocks.length ∧
    t₂ = { s₂ with blocks := s₂.blocks ++ [List.replicate (BitVec.ofNat 32 lcsd.length).toNat 0] } :=
    Prod.mk.inj hstep₂
  have hlt₂ : allocated < t₂.blocks.length := by
    rw [hallocated, ht₂]
    simp
  have hin₂' : InBlocks lcsd t₂ := ht₂ ▸ hin₂.localAlloc hlcsd
  have honward₂ : Onward lcsd s₂ t₂ := by
    subst ht₂
    exact ⟨id, id, (List.sublist_append_left _ _).length_le⟩
  refine ⟨hin₂', honward₂, ?_⟩
  refine Calls.Machine.guarantees_call.mpr ?_
  intro s₃ _ t₃ h₃ hin₃ hstep₃ _
  obtain rfl : t₃ = { s₃ with SDCached := some allocated } := (Prod.mk.inj hstep₃).2
  have hin₃' : InBlocks lcsd { s₃ with SDCached := some allocated } :=
    hin₃.storePointer (Nat.lt_of_lt_of_le hlt₂ h₃.blocks) (h₃.size (honward₂.size hsize₂))
  refine ⟨hin₃', ⟨fun _ => Option.some_ne_none _, id, Nat.le_refl _⟩, ?_⟩
  refine Calls.Machine.guarantees_look onward_refl (fun _ _ _ h => (Prod.mk.inj h).2) ?_
  intro s₄ pointer h₄ hin₄ hstep₄ _
  obtain ⟨b, hb⟩ := Option.ne_none_iff_exists'.mp (h₄.cached (Option.some_ne_none _))
  have hlt₄ := (hin₄.cached b hb).1
  obtain rfl : pointer = some b := (Prod.mk.inj hstep₄).1.trans hb
  refine Calls.Machine.guarantees_bind (guarantees_copyIn rfl hlt₄) ?_
  rintro _ rfl _ _
  exact Calls.Machine.guarantees_pure.mpr ⟨lcsd, rfl, List.forall₂_same.mpr fun byte _ => hR byte⟩

/-- **A call**, whether it is the first or not. -/
theorem guarantees_create {E : Type} {a : Accounts E} {sd : { sd : Bytes // sd.length < 0x100000000 }}
    (h : defaultDescriptor a = some (.ok sd)) (hR : ∀ byte, R byte byte) :
    cacheMachine.Guarantees (InBlocks sd.1) (Onward sd.1) (CopiesFrom R sd.1) (createDefaultSelfRelativeSD a)
      () s (Given R sd.1) := by
  refine Calls.Machine.guarantees_look onward_refl (fun _ _ _ h => (Prod.mk.inj h).2) ?_
  intro s₁ cached _ _ hstep _
  cases cached with
  | some b =>
      have hcached : s₁.SDCached = some b := (Prod.mk.inj hstep).1.symm
      exact guarantees_copyCached sd.2 (by rw [hcached]; exact Option.some_ne_none b)
  | none =>
      show cacheMachine.Guarantees _ _ _ (match defaultDescriptor a with
        | none => pure .outside
        | some (.error error) => pure (.error error)
        | some (.ok lcsd) => keep lcsd) _ _ _
      rw [h]
      exact guarantees_keep sd.2 hR

end

/-- Any number of calls that begin with nothing kept. -/
def requests {E : Type} (ι : Type) (a : Accounts E) :
    Calls.Pool CacheCall CacheAnswer Unit Cached fun _ : ι => Created where
  threads _ := ((), createDefaultSelfRelativeSD a)
  shared := {}

/-- **The descriptor of a file that has none** is the same in every call that can make one, however the
calls run side by side, but for bytes that are zero; and it is the same in every byte as long as none is
copied from a block that is not filled yet. -/
theorem descriptors_same {E ι : Type} [DecidableEq ι] {a : Accounts E}
    {lcsd : { sd : Bytes // sd.length < 0x100000000 }} (h : defaultDescriptor a = some (.ok lcsd))
    {run : List ((ι × Calls.Event CacheCall CacheAnswer) × Calls.Pool CacheCall CacheAnswer Unit Cached _)}
    (hrun : History.Path cacheMachine.Step (requests ι a) run) {i : ι} {r : Created}
    (hdone : ((History.final (requests ι a) run).threads i).2 = .done r) :
    (∃ sd, r = .descriptor sd ∧ List.Forall₂ Torn sd lcsd) ∧
      (History.Along (fun s e _ => CopiesFrom Eq lcsd s.shared e.2.call e.2.answer) (requests ι a) run →
        r = .descriptor lcsd) := by
  have hstart : ∀ R : Byte → Byte → Prop, (∀ byte, R byte byte) →
      cacheMachine.Guarded (InBlocks lcsd) (Onward lcsd) (CopiesFrom R lcsd) (fun _ => Given R lcsd)
        (requests ι a) := by
    intro R hR
    refine ⟨⟨fun m hm => absurd hm List.not_mem_nil, fun b hb => by cases hb⟩, ?_⟩
    intro i
    exact ⟨{}, onward_refl _, guarantees_create h hR⟩
  constructor
  · have htorn := hstart Torn fun _ => .inl rfl
    have hall : History.Along (fun s e _ => CopiesFrom Torn lcsd s.shared e.2.call e.2.answer)
        (requests ι a) run := by
      refine hrun.along_all (fun s e s' hs hstep => ?_) htorn
      have hcopies : CopiesFrom Torn lcsd s.shared e.2.call e.2.answer :=
        fun _ _ m _ hm => hs.shared.blocks m (List.mem_of_getElem? hm)
      exact ⟨hcopies, hstep.guarded onward_refl onward_trans hcopies hs⟩
    exact (htorn.final onward_refl onward_trans hrun hall).returned hdone
  · intro hfilled
    obtain ⟨sd, rfl, hsame⟩ :=
      ((hstart Eq fun _ => rfl).final onward_refl onward_trans hrun hfilled).returned hdone
    rw [List.forall₂_eq_eq_eq] at hsame
    rw [hsame]

theorem four_fits : ([1, 0, 4, 128] : Bytes).length < 0x100000000 := by decide

/-- A process that was not elevated, and a descriptor of four bytes. -/
def unelevated : Accounts Unit where
  token :=
    { token := .ok ()
      elevationType := .ok .limited
      linkedToken := .ok ()
      user := .ok ntauth
      primaryGroup := .ok admins }
  getExplicitEntriesFromAcl _ := .ok ()
  buildSecurityDescriptor _ _ _ := .ok ⟨[1, 0, 4, 128], four_fits⟩

/-- One call has filled three of the four bytes, and another copies the block. -/
theorem descriptors_same_early :
    let run := cacheMachine.play (fun s c => some (c.result s)) (requests Bool unelevated)
      (List.replicate 8 true ++ List.replicate 8 false)
    let lcsd : { sd : Bytes // sd.length < 0x100000000 } := ⟨[1, 0, 4, 128], four_fits⟩
    (∃ sd, Created.descriptor [1, 0, 4, 0] = .descriptor sd ∧ List.Forall₂ Torn sd lcsd) ∧
      (History.Along (fun s e _ => CopiesFrom Eq lcsd s.shared e.2.call e.2.answer)
        (requests Bool unelevated) run → Created.descriptor [1, 0, 4, 0] = .descriptor lcsd) :=
  descriptors_same (a := unelevated) (i := false) rfl
    (Calls.Machine.path_play fun _ _ _ _ h => (Option.some.inj h).symm) rfl

end SeamlessSmb.WinSec
