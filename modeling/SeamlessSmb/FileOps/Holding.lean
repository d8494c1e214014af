/-
# `FileOps.Holding` — what a callback holds of the nodes

A callback gives the list of nodes free between two operations on it.  What it keeps are the pointers it was
answered, and it goes on with them although others may have renamed the nodes behind them since, or taken
them out of the list.

| call | when |
| :-- | :-- |
| `findFileNode` | of a name it is given (`Action.Mentions`) |
| `getDescriptor` | of a node it has found |
| `setDescriptor` | of a node it has under a name it may change (`Owns`) |
| `makeShared` | once, with a name it may change |
| `addFileNode` | then, of a node it has under such a name |
| `rename`, `deleteFileNode` | of names it may change |
| reads of what else the threads share | never |

**Proved here:** every callback that comes near the nodes keeps to this, whatever it is answered
(`follows_program`).
-/
import SeamlessSmb.Lib.Phases
import SeamlessSmb.FileOps.Isolation
import SeamlessSmb.FileOps.ReadWrite

namespace SeamlessSmb

open Calls

/-! ## What a call may do -/

/-- The call reads nothing that the threads share, and leaves the nodes alone. -/
def Call.Apart : Call → Prop
  | .makeShared _ | .findFileNode _ | .addFileNode _ | .rename _ _ | .deleteFileNode _ | .getDescriptor _
  | .setDescriptor _ _ _ => False
  | .writeCount _ | .setWriteCount _ _ | .incWriteCount _ => False
  | .readCache | .copyCacheData _ _ | .allocCacheData _ | .storeCacheData _ | .storeCacheInfo _
  | .setNotAvailable => False
  | _ => True

/-- The call is given the name. -/
def Action.Mentions (F : WString) (a : Action) : Prop :=
  match a with
  | .getSecurity fileName _ _ _ => fileName = F
  | a => a.Touches F

theorem Action.Touches.mentions {F : WString} {a : Action} (h : a.Touches F) : a.Mentions F := by
  cases a with
  | getSecurity fileName parts bufferLength unset => exact h.elim
  | _ => exact h

/-- A call under way: the nodes it has found and made, with the names they had then. -/
structure Underway where
  action : Action
  found : List (Ptr × WString) := []
  made : Bool := false

namespace Underway

/-- It has the node under a name it may change. -/
def Owns (q : Underway) (p : Ptr) : Prop := ∃ f, (p, f) ∈ q.found ∧ q.action.Touches f

/-- What it may do next. -/
def Allows (q : Underway) : Call → Prop
  | .findFileNode f => q.action.Mentions f
  | .makeShared node => q.action.Touches node.fileName ∧ q.made = false
  | .addFileNode (some p) => q.Owns p ∧ q.made = true
  | .setDescriptor p _ _ => q.Owns p
  | .getDescriptor p => ∃ f, (p, f) ∈ q.found
  | .rename f g => q.action.Touches f ∧ q.action.Touches g
  | .deleteFileNode f => q.action.Touches f
  | c => c.Apart

/-- What it comes to. -/
def note (q : Underway) : Event Call Answer → Underway
  | ⟨.findFileNode f, some p⟩ => { q with found := (p, f) :: q.found }
  | ⟨.makeShared node, p⟩ => { q with found := (p, node.fileName) :: q.found, made := true }
  | _ => q

variable {q : Underway} {c : Call}

theorem allows_apart (hc : c.Apart) : q.Allows c := by
  cases c with
  | findFileNode f => exact hc.elim
  | makeShared node => exact hc.elim
  | addFileNode node => exact hc.elim
  | setDescriptor p sd stray => exact hc.elim
  | getDescriptor p => exact hc.elim
  | rename f g => exact hc.elim
  | deleteFileNode f => exact hc.elim
  | _ => exact hc

theorem note_apart (hc : c.Apart) (r : Answer c) : q.note ⟨c, r⟩ = q := by
  cases c with
  | findFileNode f => exact hc.elim
  | makeShared node => exact hc.elim
  | _ => rfl

end Underway

/-! ## The callbacks keep to it -/

/-- The calls every callback makes are apart. -/
theorem housekeeping_apart : Housekeeping Call.Apart where
  getLastError := trivial
  print _ _ := trivial
  closeHandle _ := trivial
  invalidParameter := trivial

section

variable {env : Env} {α β : Type} {q : Underway}

theorem follows_apart {p : Op α} {Q : α → Underway → Prop} (hp : OnlyCalls Call.Apart p) (hQ : ∀ a, Q a q) :
    Follows Underway.Allows Underway.note p q Q :=
  follows_of_onlyCalls hp (fun _ hc => ⟨Underway.allows_apart hc, Underway.note_apart hc⟩) hQ

theorem follows_apart_bind {p : Op α} {f : α → Op β} {Q : β → Underway → Prop} (hp : OnlyCalls Call.Apart p)
    (hf : ∀ a, Follows Underway.Allows Underway.note (f a) q Q) :
    Follows Underway.Allows Underway.note (p >>= f) q Q :=
  follows_onlyCalls_bind hp (fun _ hc => ⟨Underway.allows_apart hc, Underway.note_apart hc⟩) hf

/-- One call that is apart. -/
theorem follows_apart_call {c : Call} {f : Answer c → Op β} {Q : β → Underway → Prop} (hc : c.Apart)
    (hf : ∀ r, Follows Underway.Allows Underway.note (f r) q Q) :
    Follows Underway.Allows Underway.note (Prog.perform c >>= f) q Q :=
  follows_apart_bind (onlyCalls_perform.mpr hc) hf

theorem apart_deliverSecurity {parts bufferLength unset : DWORD} {current : SecurityDescriptor} {num : Int} :
    OnlyCalls Call.Apart (deliverSecurity parts bufferLength unset current num) := by
  refine OnlyCalls.bind (onlyCalls_perform.mpr trivial) fun size => ?_
  dsimp only
  split
  · trivial
  · refine OnlyCalls.bind (onlyCalls_perform.mpr trivial) fun r => ?_
    cases r with
    | ok sd e => exact OnlyCalls.bind (onlyCalls_perform.mpr trivial) fun _ => trivial
    | fail e =>
        refine OnlyCalls.bind (onlyCalls_perform.mpr trivial) fun error => ?_
        refine OnlyCalls.bind (onlyCalls_perform.mpr trivial) fun _ => ?_
        exact OnlyCalls.bind (onlyCalls_perform.mpr trivial) fun _ => trivial

theorem follows_getSecurity {fileName : WString} {parts bufferLength unset : DWORD}
    (hmentions : q.action.Mentions fileName) :
    Follows Underway.Allows Underway.note (mirrorGetFileSecurity env unset fileName parts bufferLength) q
      fun _ _ => True := by
  refine follows_apart_bind housekeeping_apart.onlyCalls_filePathOf fun path => ?_
  refine follows_apart_call trivial fun _ => ?_
  refine follows_apart_bind housekeeping_apart.onlyCalls_checkFlags fun _ => ?_
  refine follows_call.mpr ⟨hmentions, ?_⟩
  intro f
  cases f with
  | none => exact follows_apart_call trivial fun sd => follows_apart apart_deliverSecurity fun _ => trivial
  | some p =>
      refine follows_call.mpr ⟨⟨fileName, List.mem_cons_self⟩, ?_⟩
      intro sd
      exact follows_apart_call trivial fun _ => follows_apart apart_deliverSecurity fun _ => trivial

theorem follows_setExisting {stat : NTSTATUS} {stray : CodeUnits} {parts : DWORD} {sd : SecurityDescriptor} {p : Ptr}
    (hp : q.Owns p) :
    Follows Underway.Allows Underway.note (setExisting env stat stray parts sd p) q fun _ _ => True := by
  obtain ⟨f, hfound, htouches⟩ := hp
  refine follows_apart_call trivial fun _ => ?_
  refine follows_call.mpr ⟨⟨f, hfound⟩, ?_⟩
  intro current
  refine follows_apart_call trivial fun r => ?_
  refine follows_apart_call trivial fun _ => ?_
  split
  · refine follows_apart_call trivial fun error => ?_
    exact follows_apart_call trivial fun _ => follows_pure.mpr trivial
  · refine follows_call.mpr ⟨⟨f, hfound, htouches⟩, ?_⟩
    intro _
    exact follows_apart_call trivial fun _ => follows_pure.mpr trivial

theorem follows_setNew {stat : NTSTATUS} {stray : CodeUnits} {fileName : WString} {parts : DWORD}
    {sd : SecurityDescriptor} {info : DokanFileInfo} (htouches : q.action.Touches fileName) (hmade : q.made = false) :
    Follows Underway.Allows Underway.note (setNew env stat stray fileName parts sd info) q
      fun _ _ => True := by
  refine follows_apart_call trivial fun current => ?_
  refine follows_apart_call trivial fun _ => ?_
  refine follows_apart_call trivial fun r => ?_
  cases r with
  | fail e =>
      refine follows_apart_call trivial fun _ => ?_
      exact follows_apart_call trivial fun error => follows_pure.mpr trivial
  | ok merged e =>
      refine follows_apart_call trivial fun _ => ?_
      refine follows_apart_call trivial fun _ => ?_
      refine follows_call.mpr ⟨⟨htouches, hmade⟩, ?_⟩
      intro p
      -- the node just made is its own
      have howns : (q.note ⟨.makeShared _, p⟩).Owns p := ⟨fileName, List.mem_cons_self, htouches⟩
      refine follows_call.mpr ⟨howns, ?_⟩
      intro _
      refine follows_call.mpr ⟨⟨howns, rfl⟩, ?_⟩
      intro _
      exact follows_pure.mpr trivial

theorem follows_setSecurity {stat : NTSTATUS} {stray : CodeUnits} {fileName : WString} {parts : DWORD}
    {sd : SecurityDescriptor} {info : DokanFileInfo} (htouches : q.action.Touches fileName) (hmade : q.made = false) :
    Follows Underway.Allows Underway.note (mirrorSetFileSecurity env stat stray fileName parts sd info) q
      fun _ _ => True := by
  refine follows_apart_bind housekeeping_apart.onlyCalls_filePathOf fun path => ?_
  refine follows_apart_call trivial fun _ => ?_
  split
  · exact follows_apart_call trivial fun _ => follows_pure.mpr trivial
  · refine follows_apart_bind housekeeping_apart.onlyCalls_checkFlags fun _ => ?_
    refine follows_call.mpr ⟨htouches.mentions, ?_⟩
    intro f
    cases f with
    | none => exact follows_setNew htouches hmade
    | some p => exact follows_setExisting ⟨fileName, List.mem_cons_self, htouches⟩

/-- Nothing of a node is asked, and none is made. -/
theorem follows_onNames {P : Call → Prop} {p : Op α} (hp : OnlyCalls (fun c => c.Apart ∨ P c) p)
    (hP : ∀ c, P c → q.Allows c ∧ ∀ r, q.note ⟨c, r⟩ = q) :
    Follows Underway.Allows Underway.note p q fun _ _ => True := by
  refine follows_of_onlyCalls hp ?_ fun _ => trivial
  intro c hc
  rcases hc with hc | hc
  · exact ⟨Underway.allows_apart hc, Underway.note_apart hc⟩
  · exact hP c hc

/-- The calls of a deletion. -/
def Call.Deletes (fileName : WString) (c : Call) : Prop := c.Apart ∨ c = .deleteFileNode fileName

theorem housekeeping_deletes {fileName : WString} : Housekeeping (Call.Deletes fileName) where
  getLastError := .inl trivial
  print _ _ := .inl trivial
  closeHandle _ := .inl trivial
  invalidParameter := .inl trivial

theorem deletes_passCheck {fileName : WString} : OnlyCalls (Call.Deletes fileName) (passCheck fileName) :=
  OnlyCalls.bind (onlyCalls_perform.mpr (.inr rfl)) fun _ => trivial

theorem deletes_deleteFile {fileName : WString} {info : DokanFileInfo} :
    OnlyCalls (Call.Deletes fileName) (mirrorDeleteFile env fileName info) := by
  refine OnlyCalls.bind housekeeping_deletes.onlyCalls_filePathOf fun path => ?_
  refine OnlyCalls.bind (onlyCalls_perform.mpr (.inl trivial)) fun _ => ?_
  refine OnlyCalls.bind (Housekeeping.onlyCalls_getFileAttributes (.inl trivial)) fun dwAttrib => ?_
  split
  · trivial
  · split
    · refine OnlyCalls.bind (onlyCalls_perform.mpr (.inl trivial)) fun r => ?_
      cases r with
      | ok u e => exact deletes_passCheck
      | fail e =>
          refine OnlyCalls.bind (onlyCalls_perform.mpr (.inl trivial)) fun error => ?_
          refine OnlyCalls.bind (onlyCalls_perform.mpr (.inl trivial)) fun _ => ?_
          exact OnlyCalls.bind (onlyCalls_perform.mpr (.inl trivial)) fun _ => trivial
    · exact deletes_passCheck

theorem deletes_deleteDirectory {fileName : WString} {info : DokanFileInfo} :
    OnlyCalls (Call.Deletes fileName) (deleteDirectory env fileName info) := by
  refine OnlyCalls.bind housekeeping_deletes.onlyCalls_filePathOf fun path => ?_
  refine OnlyCalls.bind (onlyCalls_perform.mpr (.inl trivial)) fun _ => ?_
  split
  · trivial
  · split
    · trivial
    · refine OnlyCalls.bind (onlyCalls_perform.mpr (.inl trivial)) fun r => ?_
      cases r with
      | fail e =>
          refine OnlyCalls.bind (onlyCalls_perform.mpr (.inl trivial)) fun error => ?_
          exact OnlyCalls.bind (onlyCalls_perform.mpr (.inl trivial)) fun _ => trivial
      | ok listing e =>
          dsimp only
          unfold checkEntries
          split
          · refine OnlyCalls.bind (onlyCalls_perform.mpr (.inl trivial)) fun _ => ?_
            exact OnlyCalls.bind (onlyCalls_perform.mpr (.inl trivial)) fun _ => trivial
          · refine OnlyCalls.bind (onlyCalls_perform.mpr (.inl trivial)) fun _ => ?_
            split
            · exact OnlyCalls.bind (onlyCalls_perform.mpr (.inl trivial)) fun _ => trivial
            · exact deletes_passCheck

theorem follows_deletion {fileName : WString} {p : Op α} (hp : OnlyCalls (Call.Deletes fileName) p)
    (htouches : q.action.Touches fileName) :
    Follows Underway.Allows Underway.note p q fun _ _ => True := by
  refine follows_onNames hp ?_
  rintro c rfl
  exact ⟨htouches, fun _ => rfl⟩

theorem apart_cleanup {fileName : WString} {info : DokanFileInfo} :
    OnlyCalls Call.Apart (mirrorCleanup env fileName info) := by
  refine OnlyCalls.bind housekeeping_apart.onlyCalls_filePathOf fun path => ?_
  refine OnlyCalls.bind ?_ fun closed => ?_
  · unfold closeContext
    split
    · refine OnlyCalls.bind (onlyCalls_perform.mpr trivial) fun _ => ?_
      refine OnlyCalls.bind (onlyCalls_perform.mpr trivial) fun _ => ?_
      refine OnlyCalls.bind ?_ fun _ => trivial
      exact OnlyCalls.bind (onlyCalls_perform.mpr trivial) fun _ => trivial
    · exact OnlyCalls.bind (onlyCalls_perform.mpr trivial) fun _ => trivial
  · refine OnlyCalls.bind ?_ fun _ => trivial
    exact onlyCalls_deleteOnClose trivial (fun _ _ => trivial) trivial trivial

theorem follows_move {fileName newFileName : WString} {replaceIfExisting : Bool} {info : DokanFileInfo}
    (hold : q.action.Touches fileName) (hnew : q.action.Touches newFileName) :
    Follows Underway.Allows Underway.note (mirrorMoveFile env fileName newFileName replaceIfExisting info) q
      fun _ _ => True := by
  have hnewPath : OnlyCalls Call.Apart (newPathOf env.globals newFileName) := by
    unfold newPathOf
    split
    · exact housekeeping_apart.onlyCalls_filePathOf
    · split
      · trivial
      · exact ⟨trivial, fun r => r.elim⟩
  refine follows_apart_bind housekeeping_apart.onlyCalls_filePathOf fun path => ?_
  refine follows_apart_bind hnewPath fun newPath => ?_
  refine follows_apart_call trivial fun _ => ?_
  split
  · exact follows_apart_call trivial fun _ => follows_pure.mpr trivial
  · refine follows_apart_call trivial fun r => ?_
    cases r with
    | fail e => exact follows_pure.mpr trivial
    | ok u e =>
        refine follows_apart_call trivial fun r => ?_
        cases r with
        | ok u e =>
            refine follows_call.mpr ⟨⟨hold, hnew⟩, ?_⟩
            intro _
            exact follows_pure.mpr trivial
        | fail e =>
            refine follows_apart_call trivial fun error => ?_
            exact follows_apart_call trivial fun _ => follows_pure.mpr trivial

section

variable {cq : CreateRequest} {l : CreateLocals} {info : DokanFileInfo}

theorem apart_impersonate {token : HANDLE} : OnlyCalls Call.Apart (impersonate env token) :=
  onlyCalls_impersonate trivial fun _ _ => trivial

theorem apart_endImpersonation {token : HANDLE} {close : Bool} :
    OnlyCalls Call.Apart (endImpersonation env token close) :=
  onlyCalls_endImpersonation trivial (fun _ => trivial) trivial fun _ => trivial

theorem apart_finishCreate {handle : HANDLE} {res : CreateResult} :
    OnlyCalls Call.Apart (finishCreate l handle res) :=
  OnlyCalls.bind (OnlyCalls.onlyIf fun _ => onlyCalls_perform.mpr trivial) fun _ =>
    OnlyCalls.bind (onlyCalls_perform.mpr trivial) fun _ => trivial

theorem apart_createFile {path : WString} {access share disposition flags : DWORD}
    {sd : Option SecurityDescriptor} :
    OnlyCalls Call.Apart (createFile path access share sd disposition flags) :=
  Housekeeping.onlyCalls_createFile trivial

theorem apart_openFolder {sd : Option SecurityDescriptor} :
    OnlyCalls Call.Apart (openFolder env cq info l sd) := by
  unfold openFolder
  split
  · trivial
  · refine OnlyCalls.bind apart_impersonate fun _ => ?_
    refine OnlyCalls.bind apart_createFile fun handle => ?_
    refine OnlyCalls.bind apart_endImpersonation fun _ => ?_
    split
    · refine OnlyCalls.bind (onlyCalls_perform.mpr trivial) fun error => ?_
      exact OnlyCalls.bind (onlyCalls_perform.mpr trivial) fun _ => apart_finishCreate
    · dsimp only
      split
      · trivial
      · exact apart_finishCreate

/-- If a node is made, it is its own. -/
theorem follows_makeNodeIf {b : Prop} [Decidable b] {isDirectory : Bool}
    (htouches : q.action.Touches cq.fileName) (hmade : q.made = false) :
    Follows Underway.Allows Underway.note (makeNodeIf b cq isDirectory) q
      fun made q => ∀ p, made.1 = some p → q.Owns p ∧ q.made = true := by
  unfold makeNodeIf
  split
  · refine follows_bind (follows_call.mpr ⟨⟨htouches, hmade⟩, ?_⟩)
    intro p
    have howns : (q.note ⟨.makeShared _, p⟩).Owns p := ⟨cq.fileName, List.mem_cons_self, htouches⟩
    refine follows_call.mpr ⟨howns, ?_⟩
    intro _
    refine follows_pure.mpr (follows_pure.mpr ?_)
    rintro _ ⟨⟩
    exact ⟨howns, rfl⟩
  · refine follows_pure.mpr ?_
    intro p hp
    cases hp

theorem follows_addIf {f : Option Ptr} (hf : ∀ p, f = some p → q.Owns p ∧ q.made = true) :
    Follows Underway.Allows Underway.note (addIf f) q fun _ _ => True := by
  cases f with
  | none => exact follows_pure.mpr trivial
  | some p =>
      refine follows_call.mpr ⟨hf p rfl, ?_⟩
      intro _
      exact follows_pure.mpr trivial

theorem follows_createFolder (htouches : q.action.Touches cq.fileName) (hmade : q.made = false) :
    Follows Underway.Allows Underway.note (createFolder env cq l) q fun _ _ => True := by
  unfold createFolder
  split
  · refine follows_apart_bind apart_impersonate fun _ => ?_
    refine follows_bind ((follows_makeNodeIf htouches hmade).mono ?_)
    rintro ⟨f, sd⟩ q hf
    refine follows_apart_call trivial fun r => ?_
    have hend : ∀ (status : NTSTATUS) (q : Underway), Follows Underway.Allows Underway.note
        (do endImpersonation env l.userTokenHandle (status ≠ STATUS_SUCCESS); pure (status, sd)) q
        fun _ _ => True := by
      intro status q
      exact follows_apart_bind apart_endImpersonation fun _ => follows_pure.mpr trivial
    cases r with
    | fail e =>
        refine follows_apart_call trivial fun error => ?_
        split
        · exact follows_apart_call trivial fun _ => hend _ q
        · exact hend _ q
    | ok u e => exact follows_bind ((follows_addIf hf).mono fun _ q _ => hend _ q)
  · exact follows_pure.mpr trivial

theorem follows_directoryBranch (htouches : q.action.Touches cq.fileName) (hmade : q.made = false) :
    Follows Underway.Allows Underway.note (directoryBranch env cq info l) q fun _ _ => True := by
  refine follows_bind ((follows_createFolder htouches hmade).mono ?_)
  rintro ⟨status, sd⟩ q _
  dsimp only
  split
  · exact follows_apart apart_openFolder fun _ => trivial
  · exact follows_apart apart_finishCreate fun _ => trivial

theorem follows_fileBranch (htouches : q.action.Touches cq.fileName) (hmade : q.made = false) :
    Follows Underway.Allows Underway.note (fileBranch env cq info l) q fun _ _ => True := by
  unfold fileBranch
  split
  · exact follows_pure.mpr trivial
  · refine follows_apart_bind apart_impersonate fun _ => ?_
    refine follows_bind ((follows_makeNodeIf htouches hmade).mono ?_)
    rintro ⟨f, sd⟩ q hf
    refine follows_apart_bind apart_createFile fun handle => ?_
    refine follows_apart_bind apart_endImpersonation fun _ => ?_
    refine follows_onlyIf_bind (S := fun _ => True) (fun _ => follows_addIf hf) (fun _ => trivial) ?_
    intro q _
    split
    · refine follows_apart_call trivial fun error => ?_
      exact follows_apart_call trivial fun _ => follows_apart apart_finishCreate fun _ => trivial
    · refine follows_apart_bind ?_ fun status => follows_apart apart_finishCreate fun _ => trivial
      exact onlyCalls_openedFile (fun _ _ => trivial) trivial fun _ _ => trivial

theorem follows_create (htouches : q.action.Touches cq.fileName) (hmade : q.made = false) :
    Follows Underway.Allows Underway.note (mirrorCreateFile env cq info) q fun _ _ => True := by
  refine follows_apart_bind housekeeping_apart.onlyCalls_filePathOf fun path => ?_
  refine follows_apart_bind ?_ fun processName => ?_
  · exact onlyCalls_createPrelude (fun _ _ => trivial) (fun _ _ => trivial) fun _ => trivial
  refine follows_apart_bind (Housekeeping.onlyCalls_getFileAttributes trivial) fun fileAttr => ?_
  split
  · exact follows_apart_call trivial fun _ => follows_pure.mpr trivial
  · refine follows_apart_bind (onlyCalls_openToken (fun _ _ => trivial) trivial) fun token => ?_
    dsimp only
    split
    · exact follows_directoryBranch htouches hmade
    · split
      · exact follows_directoryBranch htouches hmade
      · exact follows_fileBranch htouches hmade

end

theorem follows_ignore {p : Op α} (h : Follows Underway.Allows Underway.note p q fun _ _ => True) :
    Follows Underway.Allows Underway.note (do let _ ← p) q fun _ _ => True :=
  follows_bind (h.mono fun _ _ _ => follows_pure.mpr trivial)

/-- **The callbacks** keep to it. -/
theorem follows_program (a : Action) :
    Follows Underway.Allows Underway.note (a.program env) { action := a } fun _ _ => True := by
  cases a with
  | create cq info =>
      have htouches : (Action.create cq info).Touches cq.fileName := rfl
      exact follows_ignore (follows_create htouches rfl)
  | getSecurity fileName parts bufferLength unset =>
      have hmentions : (Action.getSecurity fileName parts bufferLength unset).Mentions fileName := rfl
      exact follows_ignore (follows_getSecurity hmentions)
  | setSecurity fileName r =>
      have htouches : (Action.setSecurity fileName r).Touches fileName := rfl
      exact follows_ignore (follows_setSecurity htouches rfl)
  | deleteFile fileName info =>
      have htouches : (Action.deleteFile fileName info).Touches fileName := rfl
      exact follows_ignore (follows_deletion deletes_deleteFile htouches)
  | deleteDirectory fileName info =>
      have htouches : (Action.deleteDirectory fileName info).Touches fileName := rfl
      exact follows_ignore (follows_deletion deletes_deleteDirectory htouches)
  | cleanup fileName info => exact follows_ignore (follows_apart apart_cleanup fun _ => trivial)
  | move fileName newFileName replaceIfExisting info =>
      have hold : (Action.move fileName newFileName replaceIfExisting info).Touches fileName := .inl rfl
      have hnew : (Action.move fileName newFileName replaceIfExisting info).Touches newFileName := .inr rfl
      exact follows_ignore (follows_move hold hnew)

end

end SeamlessSmb
