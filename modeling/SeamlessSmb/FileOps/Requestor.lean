/-
# `FileOps.Requestor` — the token of the caller

On a mount that impersonates the caller `MirrorCreateFile` asks the driver for a token, works
under it in one section or in two, and closes it in the last.  Two returns lie between the
opening of the token and that section.

| | |
| :-- | :-- |
| `ClosesOnce` | the token is closed once, and not used after |
| `impersonating` | the thread works under the token of another |
| `ReturnsEarly` | the request ends between the token and its last section |
| `LastReverts` | the last `RevertToSelf` succeeds, if the thread is not itself before it |

**Proved here:** every impersonation is followed by a `RevertToSelf` (`CreateCalls.revertCalled`), and
the token is closed and the thread is itself again exactly where the request does not return early
and the last of these calls does its work (`tokenReleased_iff`).
-/
import SeamlessSmb.FileOps.CreateCalls
import SeamlessSmb.FileOps.CreateFlags

namespace SeamlessSmb

open Calls

/-! ## The token and the thread -/

/-- The call of the API, if it is one. -/
def Call.toWin32 : Call → Option Win32Call
  | .win32 c => some c
  | _ => none

theorem Call.toWin32_eq_some {c : Call} {x : Win32Call} : c.toWin32 = some x ↔ c = .win32 x := by
  cases c <;> simp [Call.toWin32]

/-- The event closes the token. -/
def Closes (token : HANDLE) (e : Event Call Answer) : Prop := e.call = .win32 (.closeHandle token)

instance (token : HANDLE) (e : Event Call Answer) : Decidable (Closes token e) :=
  decidable_of_iff (e.call.toWin32 = some (.closeHandle token)) Call.toWin32_eq_some

/-- The event uses the token. -/
def UsesToken (token : HANDLE) (e : Event Call Answer) : Prop :=
  Closes token e ∨ e.call = .win32 (.impersonateLoggedOnUser token)

/-- The token is closed once, and is not used after. -/
def ClosesOnce (token : HANDLE) (tr : Trace) : Prop :=
  ∃ before e after, tr = before ++ e :: after ∧ Closes token e ∧
    (∀ e' ∈ before, ¬ Closes token e') ∧ ∀ e' ∈ after, ¬ UsesToken token e'

/-- The token the driver gave. -/
def tokenGiven : Event Call Answer → Option HANDLE
  | ⟨.win32 .dokanOpenRequestorToken, r⟩ => Outcome.toOption r
  | _ => none

/-- The driver gave this token, and it is valid. -/
def GotToken (token : HANDLE) (tr : Trace) : Prop :=
  token ≠ INVALID_HANDLE_VALUE ∧ ∃ e ∈ tr, tokenGiven e = some token

instance (token : HANDLE) (tr : Trace) : Decidable (GotToken token tr) :=
  inferInstanceAs (Decidable (_ ∧ _))

/-- The event takes the thread into an impersonation. -/
def entersUser : Event Call Answer → Bool
  | ⟨.win32 (.impersonateLoggedOnUser _), r⟩ => Outcome.succeeded r
  | _ => false

/-- The event takes it out again. -/
def revertsUser : Event Call Answer → Bool
  | ⟨.win32 .revertToSelf, r⟩ => Outcome.succeeded r
  | _ => false

/-- The thread works under a token after the calls, if it did so before them or not. -/
def impersonating (on : Bool) : Trace → Bool
  | [] => on
  | e :: tr => impersonating (if entersUser e = true then true else if revertsUser e = true then false else on) tr

/-- The token is closed once and not used after, and the thread is itself again. -/
structure TokenReleased (tr : Trace) : Prop where
  closed : ∀ token, GotToken token tr → ClosesOnce token tr
  reverted : impersonating false tr = false

/-- The last `RevertToSelf` succeeds, if the thread works under a token when it is called. -/
def LastReverts (tr : Trace) : Prop :=
  ∀ before r after, tr = before ++ ⟨.win32 .revertToSelf, r⟩ :: after →
    (∀ e ∈ after, e.call ≠ .win32 .revertToSelf) → impersonating false before = true →
      Outcome.succeeded r = true

/-- After every `ImpersonateLoggedOnUser` that succeeds `RevertToSelf` is called. -/
def RevertCalled : Trace → Prop
  | [] => True
  | e :: tr => (entersUser e = true → ∃ e' ∈ tr, e'.call = .win32 .revertToSelf) ∧ RevertCalled tr

/-- The request ends between the token and its last section: a file is asked for as a directory,
and what was to be made before is made; or a read-only file is opened for deletion. -/
def ReturnsEarly (env : Env) (q : CreateRequest) (fileAttr : DWORD) (directory : Prop) [Decidable directory]
    (tr : Trace) : Prop :=
  if directory then
    RefusesFolder q fileAttr ∧ ∀ path sd r, ⟨.win32 (.createDirectory path sd), r⟩ ∈ tr →
      ¬ FolderFails (userFlags env q).creationDisposition r
  else CannotDelete fileAttr (userFlags env q).fileAttributesAndFlags

/-! ## What holds of any calls -/

section

variable {token : HANDLE} {e : Event Call Answer} {tr tr' : Trace} {on : Bool}

theorem not_closes {c : Win32Call} {r : Outcome c.Value} (hc : ∀ t, c ≠ .closeHandle t) :
    ¬ Closes token ⟨.win32 c, r⟩ := fun h => hc token (Call.win32.inj h)

theorem ClosesOnce.append_left (h : ClosesOnce token tr') (hkept : ∀ e ∈ tr, ¬ Closes token e) :
    ClosesOnce token (tr ++ tr') := by
  obtain ⟨before, e, after, rfl, he, hbefore, hafter⟩ := h
  refine ⟨tr ++ before, e, after, (List.append_assoc ..).symm, he, fun e' he' => ?_, hafter⟩
  rcases List.mem_append.mp he' with he' | he'
  · exact hkept e' he'
  · exact hbefore e' he'

theorem ClosesOnce.append_right (h : ClosesOnce token tr) (hunused : ∀ e ∈ tr', ¬ UsesToken token e) :
    ClosesOnce token (tr ++ tr') := by
  obtain ⟨before, e, after, rfl, he, hbefore, hafter⟩ := h
  refine ⟨before, e, after ++ tr', List.append_assoc .., he, hbefore, fun e' he' => ?_⟩
  rcases List.mem_append.mp he' with he' | he'
  · exact hafter e' he'
  · exact hunused e' he'

theorem not_closesOnce (hkept : ∀ e ∈ tr, ¬ Closes token e) : ¬ ClosesOnce token tr := by
  rintro ⟨before, e, after, rfl, he, -, -⟩
  exact hkept e (List.mem_append_right _ List.mem_cons_self) he

theorem impersonating_append :
    impersonating on (tr ++ tr') = impersonating (impersonating on tr) tr' := by
  induction tr generalizing on with
  | nil => rfl
  | cons e tr ih => exact ih

/-- Without a `RevertToSelf` a thread under a token stays so. -/
theorem impersonating_true (hnone : ∀ e ∈ tr, e.call ≠ .win32 .revertToSelf) :
    impersonating true tr = true := by
  induction tr with
  | nil => rfl
  | cons e tr ih =>
      have hkept : revertsUser e = false := by
        unfold revertsUser
        split
        · exact absurd rfl (hnone _ List.mem_cons_self)
        · rfl
      rw [impersonating, hkept, if_neg Bool.false_ne_true, ite_self]
      exact ih fun e' he' => hnone e' (List.mem_cons_of_mem _ he')

theorem RevertCalled.append (h : RevertCalled tr) (h' : RevertCalled tr') : RevertCalled (tr ++ tr') := by
  induction tr with
  | nil => exact h'
  | cons e tr ih =>
      refine ⟨fun he => ?_, ih h.2⟩
      obtain ⟨e', he', hcall⟩ := h.1 he
      exact ⟨e', List.mem_append_left _ he', hcall⟩

theorem RevertCalled.right (h : RevertCalled (tr ++ tr')) : RevertCalled tr' := by
  induction tr with
  | nil => exact h
  | cons e tr ih => exact ih h.2

theorem revertCalled_of_never (hnever : ∀ e ∈ tr, entersUser e = false) : RevertCalled tr := by
  induction tr with
  | nil => trivial
  | cons e tr ih =>
      refine ⟨fun he => ?_, ih fun e' he' => hnever e' (List.mem_cons_of_mem _ he')⟩
      rw [hnever e List.mem_cons_self] at he
      cases he

/-- Where none is called, no impersonation succeeded. -/
theorem RevertCalled.itself (h : RevertCalled tr) (hnone : ∀ e ∈ tr, e.call ≠ .win32 .revertToSelf) :
    impersonating false tr = false := by
  induction tr with
  | nil => rfl
  | cons e tr ih =>
      have hnone' : ∀ e' ∈ tr, e'.call ≠ .win32 .revertToSelf :=
        fun e' he' => hnone e' (List.mem_cons_of_mem _ he')
      have houtside : ¬ entersUser e = true := fun he => by
        obtain ⟨e', he', hcall⟩ := h.1 he
        exact hnone' e' he' hcall
      rw [impersonating, if_neg houtside, ite_self]
      exact ih h.2 hnone'

theorem exists_last {p : Event Call Answer → Prop} (h : ∃ e ∈ tr, p e) :
    ∃ before e after, tr = before ++ e :: after ∧ p e ∧ ∀ e' ∈ after, ¬ p e' := by
  induction tr with
  | nil => simp at h
  | cons e tr ih =>
      by_cases hlater : ∃ e' ∈ tr, p e'
      · obtain ⟨before, e', after, rfl, he', hafter⟩ := ih hlater
        exact ⟨e :: before, e', after, rfl, he', hafter⟩
      · obtain ⟨e', hmem, he'⟩ := h
        rcases List.mem_cons.mp hmem with rfl | hmem
        · exact ⟨[], e', tr, rfl, he', fun e hmem he => hlater ⟨e, hmem, he⟩⟩
        · exact absurd ⟨e', hmem, he'⟩ hlater

/-- With a `RevertToSelf` after every impersonation the last of them decides. -/
theorem RevertCalled.impersonating_iff (h : RevertCalled tr) :
    impersonating false tr = false ↔ LastReverts tr := by
  constructor
  · rintro hself before r after rfl hlast hunder
    rw [impersonating_append, hunder] at hself
    cases r with
    | ok _ _ => rfl
    | fail _ => exact absurd ((impersonating_true hlast).symm.trans hself) Bool.noConfusion
  · intro hlast
    by_cases hcalled : ∃ e ∈ tr, e.call = .win32 .revertToSelf
    · obtain ⟨before, ⟨c, r⟩, after, rfl, hcall, hafter⟩ := exists_last hcalled
      obtain rfl : c = .win32 .revertToSelf := hcall
      have hself : impersonating false (before ++ [⟨.win32 .revertToSelf, r⟩]) = false := by
        rw [impersonating_append]
        cases hunder : impersonating false before with
        | false => cases r <;> rfl
        | true =>
            have hreverts := hlast before r after rfl hafter hunder
            cases r with
            | ok _ _ => rfl
            | fail _ => cases hreverts
      rw [List.append_cons, impersonating_append, hself]
      exact (RevertCalled.right h).2.itself hafter
    · exact h.itself fun e he hcall => hcalled ⟨e, he, hcall⟩

end

/-! ## The branches -/

section

variable {env : Env} {q : CreateRequest} {info : DokanFileInfo} {l : CreateLocals} {token : HANDLE}
  {e : Event Call Answer} {tr : Trace}

/-- The section that closes the token. -/
theorem Section.closesOnce (himp : Impersonates env token) (he : ¬ Closes token e)
    (h : Section env token e true tr) : ClosesOnce token tr := by
  cases h with
  | bare hbare => exact absurd himp hbare
  | @closed r r' r'' _ =>
      refine ⟨[⟨.win32 (.impersonateLoggedOnUser token), r⟩, e], _, [⟨.win32 .revertToSelf, r''⟩], rfl, rfl,
        fun e' he' => ?_, fun e' he' => ?_⟩
      · simp only [List.mem_cons, List.not_mem_nil, or_false] at he'
        rcases he' with rfl | rfl
        · exact fun h => by cases h
        · exact he
      · rw [List.mem_singleton.mp he']
        rintro (h | h) <;> cases h

/-- The section that keeps it. -/
theorem Section.keeps (he : ¬ Closes token e) (h : Section env token e false tr) :
    ∀ e' ∈ tr, ¬ Closes token e' := by
  intro e' he'
  cases h with
  | bare _ =>
      rw [List.mem_singleton.mp he']
      exact he
  | kept _ =>
      simp only [List.mem_cons, List.not_mem_nil, or_false] at he'
      rcases he' with rfl | rfl | rfl
      · exact fun h => by cases h
      · exact he
      · exact fun h => by cases h

/-- What comes of making the folder decides whether the directory branch goes on. -/
theorem FolderCalls.goesOn_iff {goesOn : Bool} (h : FolderCalls env l goesOn tr) :
    goesOn = true ↔ ∀ path sd r, ⟨.win32 (.createDirectory path sd), r⟩ ∈ tr →
      ¬ FolderFails l.creationDisposition r := by
  have hsame : ∀ {close : Bool} {path path' sd sd' r r'},
      Section env l.userTokenHandle ⟨.win32 (.createDirectory path sd), r⟩ close tr →
      ⟨.win32 (.createDirectory path' sd'), r'⟩ ∈ tr → r' = r := by
    intro close path path' sd sd' r r' hsection hmem
    rcases hsection.mem hmem with heq | htoken
    · cases heq
      rfl
    · rcases htoken with h | ⟨_, h | h⟩ <;> cases h
  cases h with
  | existing _ => exact iff_of_true rfl nofun
  | made _ hok hsection =>
      refine iff_of_true rfl fun path sd r hmem => ?_
      rw [hsame hsection hmem]
      exact hok
  | failed _ hfails hsection =>
      exact iff_of_false Bool.noConfusion fun h => h _ _ _ hsection.mem_self hfails

theorem FolderCalls.keeps (h : FolderCalls env l true tr) : ∀ e ∈ tr, ¬ Closes l.userTokenHandle e := by
  cases h with
  | existing _ => exact nofun
  | made _ _ hsection => exact hsection.keeps (not_closes fun t h => by cases h)

/-- Every section ends its impersonation. -/
theorem Section.revertCalled {close : Bool} (he : entersUser e = false) (h : Section env token e close tr) :
    RevertCalled tr := by
  cases h with
  | bare _ => exact revertCalled_of_never fun e' he' => List.mem_singleton.mp he' ▸ he
  | kept _ => exact ⟨fun _ => ⟨_, List.mem_cons_of_mem _ (List.mem_singleton_self _), rfl⟩,
      fun h => absurd (he.symm.trans h) Bool.noConfusion, nofun, trivial⟩
  | closed _ =>
      exact ⟨fun _ => ⟨_, List.mem_cons_of_mem _ (List.mem_cons_of_mem _ (List.mem_singleton_self _)), rfl⟩,
        fun h => absurd (he.symm.trans h) Bool.noConfusion, nofun, nofun, trivial⟩

theorem FolderCalls.revertCalled {goesOn : Bool} (h : FolderCalls env l goesOn tr) : RevertCalled tr := by
  cases h with
  | existing _ => trivial
  | made _ _ hsection => exact hsection.revertCalled rfl
  | failed _ _ hsection => exact hsection.revertCalled rfl

theorem BranchCalls.revertCalled {directory : Bool} (h : BranchCalls env q l directory tr) :
    RevertCalled tr := by
  cases h with
  | notMade hfolder => exact hfolder.revertCalled
  | notADirectory hfolder _ => exact hfolder.revertCalled
  | folder hfolder _ hsection => exact hfolder.revertCalled.append (hsection.revertCalled rfl)
  | cannotDelete _ => trivial
  | file _ hsection hafter =>
      refine (hsection.revertCalled rfl).append (revertCalled_of_never fun ⟨c, r⟩ he => ?_)
      obtain ⟨a, rfl⟩ := hafter _ he
      rfl

/-- **Every impersonation is followed by a `RevertToSelf`**, on every path. -/
theorem CreateCalls.revertCalled (h : CreateCalls env q info tr) : RevertCalled tr := by
  cases h with
  | aDirectory => exact ⟨nofun, nofun, trivial⟩
  | branch hopened hbranch =>
      refine ⟨nofun, nofun, RevertCalled.append ?_ hbranch.revertCalled⟩
      cases hopened with
      | off _ => trivial
      | asked _ => exact ⟨nofun, trivial⟩

/-- Under a token, a branch closes it, or it returns early and leaves it. -/
theorem BranchCalls.closes_or_early {path : WString} {fileAttr : DWORD} {directory : Bool}
    (himp : Impersonates env token)
    (h : BranchCalls env q (createLocals env q path fileAttr token) directory tr) :
    ClosesOnce token tr ∧ ¬ ReturnsEarly env q fileAttr (directory = true) tr ∨
      (∀ e ∈ tr, ¬ Closes token e) ∧ ReturnsEarly env q fileAttr (directory = true) tr := by
  cases h with
  | notMade hfolder =>
      refine Or.inl ⟨?_, fun h => Bool.false_ne_true (hfolder.goesOn_iff.mpr h.2)⟩
      cases hfolder with
      | failed _ _ hsection => exact hsection.closesOnce himp (not_closes fun t h => by cases h)
  | notADirectory hfolder hrefuses => exact Or.inr ⟨hfolder.keeps, hrefuses, hfolder.goesOn_iff.mp rfl⟩
  | folder hfolder hopens hsection =>
      refine Or.inl ⟨?_, fun h => hopens h.1⟩
      exact (hsection.closesOnce himp (not_closes fun t h => by cases h)).append_left hfolder.keeps
  | cannotDelete hrefuses => exact Or.inr ⟨nofun, hrefuses⟩
  | file hopens hsection hafter =>
      refine Or.inl ⟨?_, hopens⟩
      refine (hsection.closesOnce himp (not_closes fun t h => by cases h)).append_right fun e he => ?_
      obtain ⟨a, ha⟩ := hafter e he
      rintro (h | h)
      · exact absurd (ha.symm.trans h) nofun
      · exact absurd (ha.symm.trans h) nofun

/-- No branch asks for a token. -/
theorem BranchCalls.call_ne {directory : Bool} (h : BranchCalls env q l directory tr) :
    ∀ e ∈ tr, e.call ≠ .win32 .dokanOpenRequestorToken := by
  have hsection : ∀ {close : Bool} {e' : Event Call Answer} {tr' : Trace},
      e'.call ≠ .win32 .dokanOpenRequestorToken → Section env l.userTokenHandle e' close tr' →
      ∀ e ∈ tr', e.call ≠ .win32 .dokanOpenRequestorToken := by
    intro close e' tr' he' hsection e he hcall
    rcases hsection.mem he with rfl | htoken
    · exact he' hcall
    · rcases htoken with h | ⟨_, h | h⟩ <;> rw [hcall] at h <;> cases h
  have hfolder : ∀ {goesOn : Bool} {tr' : Trace}, FolderCalls env l goesOn tr' →
      ∀ e ∈ tr', e.call ≠ .win32 .dokanOpenRequestorToken := by
    intro goesOn tr' h
    cases h with
    | existing _ => exact nofun
    | made _ _ h => exact hsection (fun h => by cases h) h
    | failed _ _ h => exact hsection (fun h => by cases h) h
  intro e he
  cases h with
  | notMade h => exact hfolder h e he
  | notADirectory h _ => exact hfolder h e he
  | folder h _ h' => exact (List.mem_append.mp he).elim (hfolder h e) (hsection (fun h => by cases h) h' e)
  | cannotDelete _ => cases he
  | file _ h hafter =>
      refine (List.mem_append.mp he).elim (hsection (fun h => by cases h) h e) fun he => ?_
      obtain ⟨a, ha⟩ := hafter e he
      rw [ha]
      exact nofun

theorem tokenGiven_eq_some {got : HANDLE} :
    tokenGiven e = some got ↔ ∃ error, e = ⟨.win32 .dokanOpenRequestorToken, .ok got error⟩ := by
  constructor
  · intro h
    unfold tokenGiven at h
    split at h
    · next r =>
        cases r with
        | ok t error =>
            cases h
            exact ⟨error, rfl⟩
        | fail error => cases h
    · cases h
  · rintro ⟨error, rfl⟩
    rfl

/-- The token a request works with, if it got one. -/
theorem impersonates_of_gotToken {opened rest : Trace} {got : HANDLE} (h : TokenCalls env token opened)
    (hrest : ∀ e ∈ rest, e.call ≠ .win32 .dokanOpenRequestorToken) (hgot : GotToken got (opened ++ rest)) :
    Impersonates env token ∧ got = token := by
  obtain ⟨hvalid, e, he, hgiven⟩ := hgot
  obtain ⟨error, rfl⟩ := tokenGiven_eq_some.mp hgiven
  rcases List.mem_append.mp he with he | he
  · cases h with
    | off _ => cases he
    | asked hon =>
        cases List.mem_singleton.mp he
        exact ⟨⟨hon, hvalid⟩, rfl⟩
  · exact absurd rfl (hrest _ he)

theorem returnsEarly_congr {fileAttr : DWORD} {directory directory' : Prop} [Decidable directory]
    [Decidable directory'] {tr' : Trace} (hdirectory : directory ↔ directory')
    (hmade : ∀ path sd r, (⟨.win32 (.createDirectory path sd), r⟩ : Event Call Answer) ∈ tr ↔
      (⟨.win32 (.createDirectory path sd), r⟩ : Event Call Answer) ∈ tr') :
    ReturnsEarly env q fileAttr directory tr ↔ ReturnsEarly env q fileAttr directory' tr' := by
  unfold ReturnsEarly
  simp only [hmade]
  by_cases h : directory
  · rw [if_pos h, if_pos (hdirectory.mp h)]
  · rw [if_neg h, if_neg fun h' => h (hdirectory.mpr h')]

/-- With a token, the whole closes it just if it does not return early. -/
theorem CreateCalls.closesOnce_iff (h : CreateCalls env q info tr) (hgot : GotToken token tr) :
    ClosesOnce token tr ↔
      ¬ ReturnsEarly env q (attributesSeen tr) (ForDirectory info (attributesSeen tr)) tr := by
  cases h with
  | aDirectory =>
      obtain ⟨-, e, he, hgiven⟩ := hgot
      simp only [List.mem_cons, List.not_mem_nil, or_false] at he
      rcases he with rfl | rfl <;> cases hgiven
  | @branch path name a token' opened rest hopened hbranch =>
      have hgot' : GotToken token (opened ++ rest) := by
        obtain ⟨hvalid, e, he, hgiven⟩ := hgot
        refine ⟨hvalid, e, ?_, hgiven⟩
        simp only [List.mem_cons] at he
        rcases he with rfl | rfl | he
        · cases hgiven
        · cases hgiven
        · exact he
      obtain ⟨himp, rfl⟩ := impersonates_of_gotToken hopened hbranch.call_ne hgot'
      have hbefore : ∀ e ∈ [⟨.win32 (.getProcessNameFromPID info.processId), name⟩,
          ⟨.win32 (.getFileAttributes path), a⟩] ++ opened, ¬ Closes token e := by
        intro e he hcloses
        simp only [List.mem_append, List.mem_cons, List.not_mem_nil, or_false] at he
        rcases he with (rfl | rfl) | he
        · cases hcloses
        · cases hcloses
        · exact absurd ((hopened.mem he).symm.trans hcloses) nofun
      have hearly : ReturnsEarly env q (attributesOf a) (ForDirectory info (attributesOf a))
          (⟨.win32 (.getProcessNameFromPID info.processId), name⟩ ::
            ⟨.win32 (.getFileAttributes path), a⟩ :: (opened ++ rest)) ↔
          ReturnsEarly env q (attributesOf a) (decide (ForDirectory info (attributesOf a)) = true) rest := by
        refine returnsEarly_congr decide_eq_true_iff.symm fun path' sd r => ⟨fun hmem => ?_, fun hmem => ?_⟩
        · simp only [List.mem_cons, List.mem_append] at hmem
          rcases hmem with hmem | hmem | hmem | hmem
          · cases hmem
          · cases hmem
          · cases hopened.mem hmem
          · exact hmem
        · exact List.mem_cons_of_mem _ (List.mem_cons_of_mem _ (List.mem_append_right _ hmem))
      have hwhole : ∀ {tr : Trace}, [⟨.win32 (.getProcessNameFromPID info.processId), name⟩,
          ⟨.win32 (.getFileAttributes path), a⟩] ++ opened ++ tr =
          ⟨.win32 (.getProcessNameFromPID info.processId), name⟩ ::
            ⟨.win32 (.getFileAttributes path), a⟩ :: (opened ++ tr) := rfl
      rcases hbranch.closes_or_early himp with ⟨hcloses, hlate⟩ | ⟨hkept, hreturns⟩
      · exact iff_of_true (hwhole ▸ hcloses.append_left hbefore) fun h => hlate (hearly.mp h)
      · refine iff_of_false (not_closesOnce fun e he => ?_) (not_not.mpr (hearly.mpr hreturns))
        rw [← hwhole] at he
        exact (List.mem_append.mp he).elim (hbefore e) (hkept e)

/-- With a token or without, the calls of a request. -/
theorem CreateCalls.released_iff (h : CreateCalls env q info tr) :
    TokenReleased tr ↔
      (∀ token, GotToken token tr →
        ¬ ReturnsEarly env q (attributesSeen tr) (ForDirectory info (attributesSeen tr)) tr) ∧
      LastReverts tr := by
  have hreverted : impersonating false tr = false ↔ LastReverts tr := h.revertCalled.impersonating_iff
  constructor
  · intro hreleased
    refine ⟨fun token hgot => (h.closesOnce_iff hgot).mp (hreleased.closed token hgot), ?_⟩
    exact hreverted.mp hreleased.reverted
  · rintro ⟨hlate, hrev⟩
    exact ⟨fun token hgot => (h.closesOnce_iff hgot).mpr (hlate token hgot), hreverted.mpr hrev⟩

end

/-! ## The runs -/

/-- **The token is closed once, not used after, and the thread is itself again** exactly where the
request does not return between the token and its last section, and the last `RevertToSelf`
succeeds, if the thread works under the token when it is called. -/
theorem tokenReleased_iff {O : Type} {env : Env} {os : O → (c : Win32Call) → Outcome c.Value → O → Prop}
    {w w' : World O} {q : CreateRequest} {info : DokanFileInfo} {tr : Trace} {res : CreateResult}
    (h : Run (step env os) (mirrorCreateFile env q info) w tr res w') :
    TokenReleased (watched Call.isWin32 tr) ↔
      (∀ token, GotToken token (watched Call.isWin32 tr) →
        ¬ ReturnsEarly env q (attributesSeen tr) (ForDirectory info (attributesSeen tr))
          (watched Call.isWin32 tr)) ∧
      LastReverts (watched Call.isWin32 tr) := by
  rw [← attributesSeen_watched]
  exact (run_createCalls h).released_iff

/-! ## Two requests -/

/-- A platform that knows a file under every name, and grants the token, the handle, and what is
done with them. -/
def granting : Script where
  outcome _ c :=
    match c with
    | .getFileAttributes _ => .ok ⟨FILE_ATTRIBUTE_NORMAL, by decide⟩ 0
    | .createFile .. => .ok ⟨8, by decide⟩ 0
    | .dokanOpenRequestorToken => .ok 4 0
    | .impersonateLoggedOnUser _ | .revertToSelf | .closeHandle _ => .ok () 0
    | _ => .fail ⟨1, by decide⟩
  keeps _ := true
  left _ e := e
  memory _ _ := 0

theorem granting_allowed {env : Env} : granting.Allowed env := by
  intro k c
  cases c <;> trivial

/-- The mount with impersonation. -/
def Env.impersonating : Env :=
  { Env.plain false with globals := { (Env.plain false).globals with impersonateCallerUser := true } }

/-- What exists is opened. -/
def CreateRequest.opening (createOptions : DWORD) : CreateRequest :=
  { CreateRequest.plain 1 with createOptions := createOptions }

/-- A decidable fact about the run of a request there. -/
theorem exists_granted {q : CreateRequest} {info : DokanFileInfo} (P : Trace → Prop) [DecidablePred P]
    (h : (granting.play .impersonating quiet (mirrorCreateFile .impersonating q info) (.start .none)).any
      fun x => decide (P x.1)) :
    ∃ tr res w', Run (step .impersonating anything) (mirrorCreateFile .impersonating q info) (.start .none)
      tr res w' ∧ P tr := by
  cases hplay : granting.play .impersonating quiet (mirrorCreateFile .impersonating q info) (.start .none) with
  | none =>
      rw [hplay] at h
      exact absurd h Bool.false_ne_true
  | some x =>
      rw [hplay] at h
      obtain ⟨tr, res, u⟩ := x
      have hrun : Run (step (Env.impersonating.debugging false) anything) _ _ tr res u.world :=
        play_run granting_allowed hplay
      exact ⟨tr, res, u.world, hrun, of_decide_eq_true h⟩

/-- A file that is opened and nothing more: the token is closed. -/
theorem tokenReleased_file :
    ∃ tr res w', Run (step .impersonating anything) (mirrorCreateFile .impersonating (.opening 0) {})
        (.start .none) tr res w' ∧
      GotToken 4 (watched Call.isWin32 tr) ∧ TokenReleased (watched Call.isWin32 tr) := by
  obtain ⟨tr, res, w', h, hgot, hattr, hself⟩ := exists_granted
    (fun tr => GotToken 4 (watched Call.isWin32 tr) ∧ attributesSeen tr = FILE_ATTRIBUTE_NORMAL ∧
      impersonating false (watched Call.isWin32 tr) = false)
    (show (granting.play _ quiet (mirrorCreateFile _ (.opening 0) {}) _).any _ from by decide)
  refine ⟨tr, res, w', h, hgot, (tokenReleased_iff h).mpr ⟨fun token _ => ?_, ?_⟩⟩
  · rw [hattr]
    show ¬ CannotDelete FILE_ATTRIBUTE_NORMAL FILE_ATTRIBUTE_NORMAL
    decide
  · exact (run_createCalls h).revertCalled.impersonating_iff.mp hself

/-- The file is asked for as a directory, and the token stays open. -/
theorem not_tokenReleased :
    ¬ ∀ (env : Env) (os : Unit → (c : Win32Call) → Outcome c.Value → Unit → Prop) (q : CreateRequest)
      (info : DokanFileInfo) (w w' : World Unit) (tr : Trace) (res : CreateResult),
      env.globals.impersonateCallerUser = true →
      Run (step env os) (mirrorCreateFile env q info) w tr res w' →
        TokenReleased (watched Call.isWin32 tr) := by
  intro hclaim
  obtain ⟨tr, res, w', h, hgot, hkept⟩ := exists_granted
    (fun tr => GotToken 4 (watched Call.isWin32 tr) ∧ ∀ e ∈ watched Call.isWin32 tr, ¬ Closes 4 e)
    (show (granting.play _ quiet (mirrorCreateFile _ (.opening FILE_DIRECTORY_FILE)
      { isDirectory := true }) _).any _ from by decide)
  exact not_closesOnce hkept ((hclaim _ _ _ _ _ _ _ _ rfl h).closed 4 hgot)

end SeamlessSmb
