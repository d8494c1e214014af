/-
# `FileOps.Listings` — what a listing comes to

The loops of `MirrorFindFiles` and `MirrorFindStreams` (`FileOps.Loops`) over a listing of any length,
which may end or break off anywhere, and for streams with a driver that may run out of room anywhere.

| | |
| :-- | :-- |
| `Offered entries full os` | the entries were offered in order up to the first that was refused |
| `FilesDelivered`, `StreamsDelivered` | every entry once and in order, and a success if that was all |

**Proved here:** with fuel for every entry the two deliver what there is and say so, the first where
its pattern fits (`listings_delivered`); and what comes of a listing entry by entry is what comes of it as one answer
(`findFiles_refines`, `findStreams_refines`, `deleteDirectory_refines`).
-/
import SeamlessSmb.FileOps.Loops
import SeamlessSmb.FileOps.Volume

namespace SeamlessSmb

open Calls Block

namespace Loops

/-! ## Directories -/

/-- The entries of a directory that are shown: all, but for the root. -/
def shown (fileName : WString) (entries : List FindDataW) : List FindDataW :=
  entries.filter fun d => fileName ≠ [backslash] ∨ RealEntry d.cFileName

theorem shown_cons {fileName : WString} {d : FindDataW} {entries : List FindDataW} :
    shown fileName (d :: entries) = shown fileName [d] ++ shown fileName entries := by
  unfold shown
  rw [← List.filter_append]
  rfl

section

variable {env : Env} {fileName : WString} {fuel : ℕ} {d : FindDataW} {s : Search FindDataW}

/-- One entry is shown or passed over. -/
theorem watch_show :
    Watch (step env) FindCall.seen
      (Prog.onlyIf (fileName ≠ [backslash] ∨ RealEntry d.cFileName) do
        let _ ← Prog.perform (FindCall.fill d)
        pure ()) s fun tr _ s' =>
      searched tr = [] ∧ handed tr = shown fileName [d] ∧ ∃ e, s' = { s with lastError := e } := by
  unfold Prog.onlyIf
  split
  · next hshown =>
      refine (watch_call rfl).mpr ?_
      intro taken s' hs'
      refine watch_pure.mpr ⟨rfl, ?_, hs'⟩
      simp [shown, handed, hshown]
  · next hshown =>
      refine watch_pure.mpr ⟨rfl, ?_, s.lastError, rfl⟩
      simp [shown, handed, hshown]

/-- **The loop of `MirrorFindFiles`** ends, and has shown every entry that is to be shown. -/
theorem watch_fillFiles (hfuel : s.coming.length < fuel) (count : DWORD) :
    Watch (step env) FindCall.seen (fillFiles fileName fuel d count) s fun tr r s' =>
      searched tr = [] ∧ handed tr = shown fileName (d :: s.coming) ∧ (∃ n, r = some n) ∧
        s'.lastError = s.final.1 := by
  induction fuel generalizing s d count with
  | zero => exact absurd hfuel (Nat.not_lt_zero _)
  | succ fuel ih =>
      refine watch_bind.mpr (watch_show.mono ?_)
      rintro tr₁ - s₁ ⟨hsearched, hhanded, e, rfl⟩
      refine watch_findNext ?_ ?_
      · intro hcoming
        change s.coming = [] at hcoming
        refine watch_pure.mpr ⟨?_, ?_, ⟨count + 1, rfl⟩, rfl⟩
        · simp [hsearched]
        · rw [List.append_nil, hhanded, hcoming]
      · intro d' coming e' hcoming
        change s.coming = d' :: coming at hcoming
        have hless : coming.length < fuel := by
          rw [hcoming] at hfuel
          exact Nat.lt_of_succ_lt_succ hfuel
        refine (ih (s := { s with coming := coming, lastError := e' }) hless (count + 1)).mono ?_
        rintro tr₂ r s₃ ⟨hsearched₂, hhanded₂, hr, hlast⟩
        refine ⟨?_, ?_, hr, hlast⟩
        · simp [hsearched, hsearched₂]
        · have hboth : handed (tr₁ ++ tr₂) = handed tr₁ ++ handed tr₂ := by simp [handed]
          rw [hboth, hhanded, hhanded₂, hcoming]
          exact shown_cons.symm

/-- The status of a listing of files. -/
def fileStatus (env : Env) (final : Win32Error) : NTSTATUS :=
  if final.1 = ERROR_NO_MORE_FILES then STATUS_SUCCESS else env.ntStatusFromWin32 final.1

/-- **From `FindFirstFile` on**, with an entry. -/
theorem watch_listFiles (hne : s.coming ≠ []) (hfuel : s.coming.length ≤ fuel)
    {filePath : List (BitVec 16)} :
    Watch (step env) FindCall.seen (listFiles env fuel fileName filePath) s fun tr r _ =>
      searched tr = [filePath] ∧ handed tr = shown fileName s.coming ∧
        r = .status (fileStatus env s.final) := by
  refine watch_findFirst hne ?_
  intro d coming e hcoming
  have hless : coming.length < fuel := by
    rw [hcoming] at hfuel
    exact hfuel
  refine watch_bind.mpr ((watch_fillFiles (s := { s with coming := coming, lastError := e })
    hless 0).mono ?_)
  rintro tr r s₂ ⟨hsearched, hhanded, ⟨n, rfl⟩, hlast⟩
  refine (watch_call_of_not rfl).mpr ?_
  rintro error s₃ ⟨rfl, rfl⟩
  refine (watch_call_of_not rfl).mpr ?_
  intro _ s₄ _
  unfold fileStatus
  rw [hcoming, ← hhanded, ← hlast]
  by_cases hend : s₃.lastError = ERROR_NO_MORE_FILES
  · rw [if_neg (not_not.mpr hend), if_pos hend]
    refine (watch_call_of_not rfl).mpr ?_
    intro _ s₅ _
    refine watch_pure.mpr ⟨?_, ?_, rfl⟩
    · simp [hsearched]
    · simp [handed]
  · rw [if_pos hend, if_neg hend]
    refine watch_reportError.mono ?_
    rintro _ r s₅ ⟨rfl, rfl⟩
    refine ⟨?_, ?_, rfl⟩
    · simp [hsearched]
    · simp [handed]

end

/-! ## Streams -/

/-- The entries were offered in order, up to the first that was refused; `full` is whether all were
taken. -/
inductive Offered {D : Type} : List D → Bool → List (D × Bool) → Prop
  | done : Offered [] true []
  | refuse {d : D} {entries : List D} : Offered (d :: entries) false [(d, false)]
  | take {d : D} {entries : List D} {full : Bool} {os : List (D × Bool)} :
      Offered entries full os → Offered (d :: entries) full ((d, true) :: os)

section

variable {D : Type} {entries : List D} {full : Bool} {os : List (D × Bool)}

theorem Offered.inOrder (h : Offered entries full os) : os.map Prod.fst <+: entries := by
  induction h with
  | done => exact List.nil_prefix
  | refuse => simp
  | take _ ih => simpa using ih

theorem Offered.full_iff (h : Offered entries full os) : full = false ↔ ∃ d, (d, false) ∈ os := by
  induction h with
  | done => simp
  | refuse => simp
  | take _ ih => simpa using ih

theorem Offered.complete (h : Offered entries full os) (hfull : full = true) :
    os.map Prod.fst = entries := by
  induction h with
  | done => rfl
  | refuse => cases hfull
  | take _ ih => simpa using ih hfull

/-- None but the last is refused. -/
theorem Offered.refusedLast (h : Offered entries full os) : ∀ o ∈ os.dropLast, o.2 = true := by
  induction h with
  | done => simp
  | refuse => simp
  | @take d entries full os _ ih =>
      intro o ho
      cases os with
      | nil => simp at ho
      | cons o' os =>
          rw [List.dropLast_cons_cons, List.mem_cons] at ho
          obtain rfl | ho := ho
          · rfl
          · exact ih o ho

end

section

variable {env : Env} {fileName : WString} {fuel : ℕ} {s : Search FindStreamData}

/-- **The loop of `MirrorFindStreams`** ends, having offered what was to come up to the first that was
refused. -/
theorem watch_fillStreams (hfuel : s.coming.length < fuel) (count : DWORD) :
    Watch (step env) FindCall.seen (fillStreams fuel count) s fun tr r s' =>
      ∃ full n, r = some (full, n) ∧ searched tr = [] ∧ Offered s.coming full (offers tr) ∧
        (full = true → s'.lastError = s.final.1) := by
  induction fuel generalizing s count with
  | zero => exact absurd hfuel (Nat.not_lt_zero _)
  | succ fuel ih =>
      refine watch_findNext ?_ ?_
      · intro hcoming
        refine watch_pure.mpr ⟨true, count, rfl, rfl, ?_, fun _ => rfl⟩
        rw [hcoming]
        exact .done
      · intro d coming e hcoming
        refine (watch_call rfl).mpr ?_
        rintro taken s₂ ⟨e', rfl⟩
        rw [hcoming]
        cases taken with
        | false => exact watch_pure.mpr ⟨false, count, rfl, rfl, .refuse, nofun⟩
        | true =>
            have hless : coming.length < fuel := by
              rw [hcoming] at hfuel
              exact Nat.lt_of_succ_lt_succ hfuel
            refine (ih (s := { s with coming := coming, lastError := e' }) hless (count + 1)).mono ?_
            rintro tr r s₃ ⟨full, n, rfl, hsearched, hoffered, hlast⟩
            exact ⟨full, n, rfl, hsearched, .take hoffered, hlast⟩

/-- The first entry is offered as well. -/
theorem watch_fillFromFirst {d : FindStreamData} (hfuel : s.coming.length < fuel) :
    Watch (step env) FindCall.seen (fillFromFirst fuel d) s fun tr r s' =>
      ∃ full n, r = some (full, n) ∧ searched tr = [] ∧ Offered (d :: s.coming) full (offers tr) ∧
        (full = true → s'.lastError = s.final.1) := by
  refine (watch_call rfl).mpr ?_
  rintro taken s₁ ⟨e, rfl⟩
  cases taken with
  | false => exact watch_pure.mpr ⟨false, 0, rfl, rfl, .refuse, nofun⟩
  | true =>
      refine (watch_fillStreams (s := { s with lastError := e }) hfuel 1).mono ?_
      rintro tr r s₂ ⟨full, n, rfl, hsearched, hoffered, hlast⟩
      exact ⟨full, n, rfl, hsearched, .take hoffered, hlast⟩

/-- The status of a listing of streams: `full` is whether all were taken. -/
def streamStatus (env : Env) (full : Bool) (final : Win32Error) : NTSTATUS :=
  if full = false then STATUS_BUFFER_OVERFLOW
  else if final.1 = ERROR_HANDLE_EOF then STATUS_SUCCESS
  else env.ntStatusFromWin32 final.1

theorem watch_mirrorFindStreams (hne : s.coming ≠ []) (hfuel : s.coming.length ≤ fuel) :
    Watch (step env) FindCall.seen (mirrorFindStreams env fuel fileName) s fun tr r _ =>
      ∃ full, Offered s.coming full (offers tr) ∧ r = .status (streamStatus env full s.final) := by
  refine (watch_call_of_not rfl).mpr ?_
  rintro filePath s₁ ⟨-, rfl⟩
  refine (watch_call_of_not rfl).mpr ?_
  rintro _ s₂ ⟨e₂, -, rfl⟩
  refine watch_findFirst hne ?_
  intro d coming e₃ hcoming
  change s₁.coming = d :: coming at hcoming
  have hless : coming.length < fuel := by
    rw [hcoming] at hfuel
    exact hfuel
  refine watch_bind.mpr ((watch_fillFromFirst (s := { s₁ with coming := coming, lastError := e₃ })
    hless).mono ?_)
  rintro tr r s₄ ⟨full, n, rfl, -, hoffered, hlast⟩
  refine (watch_call_of_not rfl).mpr ?_
  rintro error s₅ ⟨rfl, rfl⟩
  refine (watch_call_of_not rfl).mpr ?_
  intro _ s₆ _
  rw [hcoming]
  unfold streamStatus
  cases full with
  | false =>
      refine (watch_call_of_not rfl).mpr ?_
      intro _ s₇ _
      refine watch_pure.mpr ⟨false, ?_, rfl⟩
      simpa using hoffered
  | true =>
      rw [← hlast rfl]
      by_cases hend : s₅.lastError = ERROR_HANDLE_EOF
      · rw [if_neg Bool.noConfusion, if_neg (not_not.mpr hend)]
        refine (watch_call_of_not rfl).mpr ?_
        intro _ s₇ _
        refine watch_pure.mpr ⟨true, ?_, ?_⟩
        · simpa using hoffered
        · rw [if_neg Bool.noConfusion, if_pos hend]
      · rw [if_neg Bool.noConfusion, if_pos hend]
        refine watch_reportError.mono ?_
        rintro _ r s₇ ⟨rfl, rfl⟩
        refine ⟨true, ?_, ?_⟩
        · simpa using hoffered
        · rw [if_neg Bool.noConfusion, if_neg hend]

end

/-! ## What is delivered -/

/-- `NT_ERROR(status)`: not only no success, but no warning either. -/
def NtError (status : NTSTATUS) : Prop := 0xC0000000 ≤ status

instance (status : NTSTATUS) : Decidable (NtError status) := inferInstanceAs (Decidable (_ ≤ _))

/-- Where the pattern fits, what is to be shown is handed over, each entry once and in order, and it
is a success if it was the whole listing.  Where it does not, nothing is. -/
structure FilesDelivered (fileName path : WString) (s : Search FindDataW) (tr : FindTrace FindDataW)
    (r : Returned) : Prop where
  returns : ∃ status, r = .status status
  inOrder : Fits (searchPattern path) → handed tr = shown fileName s.coming
  unfit : ¬ Fits (searchPattern path) → handed tr = []
  success : r = .status STATUS_SUCCESS ↔ Fits (searchPattern path) ∧ s.final.1 = ERROR_NO_MORE_FILES

/-- The streams are handed over, each once and in order, up to the first that is refused; it is a
success if all were taken and there are no more. -/
structure StreamsDelivered (s : Search FindStreamData) (tr : FindTrace FindStreamData)
    (r : Returned) : Prop where
  returns : ∃ status, r = .status status
  inOrder : handed tr <+: s.coming
  refusedLast : ∀ o ∈ (offers tr).dropLast, o.2 = true
  success : r = .status STATUS_SUCCESS ↔
    (handed tr = s.coming ∧ ¬ Refused tr) ∧ s.final.1 = ERROR_HANDLE_EOF
  complete : ¬ Refused tr → handed tr = s.coming
  refused : Refused tr → r = .status STATUS_BUFFER_OVERFLOW

/-- `MirrorFindFiles` lists the directory if the pattern fits, and reports the overflow if not. -/
theorem watch_mirrorFindFiles {env : Env} {fuel : ℕ} {fileName path : WString} {s : Search FindDataW}
    (hpath : getFilePath env.globals DOKAN_MAX_PATH fileName = some path) (hpathne : path ≠ [])
    (hne : s.coming ≠ []) (hfuel : s.coming.length ≤ fuel) :
    Watch (step env) FindCall.seen (mirrorFindFiles env fuel fileName) s fun tr r _ =>
      (Fits (searchPattern path) → handed tr = shown fileName s.coming ∧
        r = .status (fileStatus env s.final)) ∧
      (¬ Fits (searchPattern path) → handed tr = [] ∧ r = .status STATUS_BUFFER_OVERFLOW) := by
  refine watch_getFilePath hpath fun filePath hholds => (watch_call_of_not rfl).mpr ?_
  rintro _ s₁ ⟨e₁, -, rfl⟩
  show Watch _ _ (withPattern filePath.1 (listFiles env fuel fileName)) _ _
  unfold withPattern
  by_cases hfits : Fits (searchPattern path)
  · obtain ⟨pattern, hpattern, -⟩ := wildcard_holds filePath.2 hholds hpathne hfits
    rw [hpattern]
    refine (watch_listFiles (s := { s with lastError := e₁ }) hne hfuel).mono ?_
    rintro tr r s₂ ⟨-, hhanded, hr⟩
    exact ⟨fun _ => ⟨hhanded, hr⟩, fun h => absurd hfits h⟩
  · rw [wildcard_overflow filePath.2 hholds hpathne hfits]
    exact watch_pure.mpr ⟨fun h => absurd h hfits, fun _ => ⟨rfl, rfl⟩⟩

theorem watch_filesDelivered {env : Env} {fuel : ℕ} {fileName path : WString} {s : Search FindDataW}
    (hpath : getFilePath env.globals DOKAN_MAX_PATH fileName = some path) (hpathne : path ≠ [])
    (hne : s.coming ≠ []) (hfuel : s.coming.length ≤ fuel) :
    Watch (step env) FindCall.seen (mirrorFindFiles env fuel fileName) s fun tr r _ =>
      FilesDelivered fileName path s tr r := by
  refine (watch_mirrorFindFiles hpath hpathne hne hfuel).mono ?_
  rintro tr r - ⟨hlisted, hunfit⟩
  by_cases hfits : Fits (searchPattern path)
  · obtain ⟨hhanded, rfl⟩ := hlisted hfits
    refine ⟨⟨_, rfl⟩, fun _ => hhanded, fun h => absurd hfits h, ?_⟩
    by_cases hend : s.final.1 = ERROR_NO_MORE_FILES
    · simp [fileStatus, hend, hfits]
    · simp [fileStatus, hend, env.ntStatus_error _ s.final.2]
  · obtain ⟨hnothing, rfl⟩ := hunfit hfits
    refine ⟨⟨_, rfl⟩, fun h => absurd h hfits, fun _ => hnothing, iff_of_false ?_ fun h => hfits h.1⟩
    simp [STATUS_BUFFER_OVERFLOW, STATUS_SUCCESS]

theorem watch_streamsDelivered {env : Env} {fuel : ℕ} {fileName : WString} {s : Search FindStreamData}
    (hne : s.coming ≠ []) (hfuel : s.coming.length ≤ fuel) :
    Watch (step env) FindCall.seen (mirrorFindStreams env fuel fileName) s fun tr r _ =>
      StreamsDelivered s tr r := by
  refine (watch_mirrorFindStreams hne hfuel).mono ?_
  rintro tr r - ⟨full, hoffered, rfl⟩
  cases full with
  | false =>
      have hrefused : Refused tr := hoffered.full_iff.mp rfl
      refine ⟨⟨_, rfl⟩, hoffered.inOrder, hoffered.refusedLast, ?_, fun h => absurd hrefused h, ?_⟩
      · simp [streamStatus, hrefused, STATUS_BUFFER_OVERFLOW, STATUS_SUCCESS]
      · simp [streamStatus]
  | true =>
      have htaken : ¬ Refused tr := by
        intro h
        cases hoffered.full_iff.mpr h
      have hall : handed tr = s.coming := hoffered.complete rfl
      refine ⟨⟨_, rfl⟩, hoffered.inOrder, hoffered.refusedLast, ?_, fun _ => hall, fun h => absurd h htaken⟩
      by_cases hend : s.final.1 = ERROR_HANDLE_EOF
      · simp [streamStatus, hend, hall, htaken]
      · simp [streamStatus, hend, env.ntStatus_error _ s.final.2]

/-- An overflow is one of the driver's, unless the enumeration breaks off with one. -/
theorem watch_streamsOverflow {env : Env} {fuel : ℕ} {fileName : WString} {s : Search FindStreamData}
    (hne : s.coming ≠ []) (hfuel : s.coming.length ≤ fuel)
    (hfail : s.final.1 ≠ ERROR_HANDLE_EOF → NtError (env.ntStatusFromWin32 s.final.1)) :
    Watch (step env) FindCall.seen (mirrorFindStreams env fuel fileName) s fun tr r _ =>
      r = .status STATUS_BUFFER_OVERFLOW → Refused tr := by
  refine (watch_mirrorFindStreams hne hfuel).mono ?_
  rintro tr r - ⟨full, hoffered, rfl⟩ hoverflow
  refine hoffered.full_iff.mp (Bool.eq_false_iff.mpr fun hfull => ?_)
  have hstatus : streamStatus env full s.final = STATUS_BUFFER_OVERFLOW := Returned.status.inj hoverflow
  unfold streamStatus at hstatus
  rw [hfull, if_neg Bool.noConfusion] at hstatus
  by_cases hend : s.final.1 = ERROR_HANDLE_EOF
  · rw [if_pos hend] at hstatus
    exact absurd hstatus (by decide)
  · have herror := hfail hend
    rw [if_neg hend] at hstatus
    rw [hstatus] at herror
    exact absurd herror (by decide)

theorem handed_watched {D : Type} {tr : FindTrace D} : handed (watched FindCall.seen tr) = handed tr := by
  unfold handed
  rw [offers_watched]

theorem FilesDelivered.of_watched {fileName path : WString} {s : Search FindDataW}
    {tr : FindTrace FindDataW} {r : Returned}
    (h : FilesDelivered fileName path s (watched FindCall.seen tr) r) :
    FilesDelivered fileName path s tr r := by
  obtain ⟨hreturns, hinOrder, hunfit, hsuccess⟩ := h
  rw [handed_watched] at hinOrder hunfit
  exact ⟨hreturns, hinOrder, hunfit, hsuccess⟩

theorem refused_watched {D : Type} {tr : FindTrace D} : Refused (watched FindCall.seen tr) ↔ Refused tr := by
  unfold Refused
  rw [offers_watched]

theorem StreamsDelivered.of_watched {s : Search FindStreamData} {tr : FindTrace FindStreamData}
    {r : Returned} (h : StreamsDelivered s (watched FindCall.seen tr) r) : StreamsDelivered s tr r := by
  obtain ⟨hreturns, hinOrder, hlast, hsuccess, hcomplete, hrefused⟩ := h
  rw [handed_watched, refused_watched] at hsuccess hcomplete
  rw [handed_watched] at hinOrder
  rw [offers_watched] at hlast
  rw [refused_watched] at hrefused
  exact ⟨hreturns, hinOrder, hlast, hsuccess, hcomplete, hrefused⟩

/-- Two files. -/
def someFiles : Search FindDataW where
  coming := [⟨⟨0, 0, 0, 0, 0⟩, [dot]⟩, ⟨⟨0, 0, 0, 0, 0⟩, wide ['a']⟩]
  final := ⟨ERROR_NO_MORE_FILES, by decide⟩
  lastError := 0

theorem accessDenied_ne : (5 : DWORD) ≠ 0 := by decide

/-- A stream, and a denied access where the next should be. -/
def brokenStreams : Search FindStreamData where
  coming := [⟨0, wide [':', ':']⟩]
  final := ⟨5, accessDenied_ne⟩
  lastError := 0

/-- The names of a directory that are shown. -/
def shownNames (fileName : WString) (names : List WString) : List WString :=
  if fileName = [backslash] then names.filter fun s => decide (RealEntry s) else names

theorem shown_names {fileName : WString} {entries : List FindDataW} :
    (shown fileName entries).map FindDataW.cFileName =
      shownNames fileName (entries.map FindDataW.cFileName) := by
  unfold shown shownNames
  by_cases hroot : fileName = [backslash]
  · simp [hroot, List.filter_map, Function.comp_def]
  · simp [hroot]

/-- The call asks for a listing. -/
def asksListing : Call → Bool
  | .win32 (.findFirstFile _) | .win32 (.findFirstStream _) => true
  | _ => false

section

variable {O : Type} {env : Env} {os : O → (c : Win32Call) → Outcome c.Value → O → Prop} {w : World O}
  {fileName : WString}

theorem unlisted_filePathOf : OnlyCalls (fun c => asksListing c = false) (filePathOf env.globals fileName) :=
  onlyCalls_filePathOf (P := fun c => asksListing c = false) rfl

/-- Something is printed, and that is the end. -/
theorem watch_printed {α : Type} {format : String} {args : List PrintArg} {a : α}
    {Q : Trace → α → World O → Prop} (h : ∀ w', Q [] a w') :
    Watch (SeamlessSmb.step env os) asksListing
      (do
        SeamlessSmb.print format args
        pure a) w Q := by
  refine (watch_call_of_not rfl).mpr ?_
  intro _ w' _
  exact watch_pure.mpr (h w')

theorem watch_reportStatus {format : String} :
    Watch (SeamlessSmb.step env os) asksListing (reportStatus env format) w fun tr _ _ => tr = [] := by
  refine (watch_call_of_not rfl).mpr ?_
  intro error w₁ _
  exact watch_printed fun _ => rfl

/-- Asked for a listing, the platform gave `listing`; and this is what came of it. -/
theorem watch_findFiles_asOne :
    Watch (SeamlessSmb.step env os) asksListing (SeamlessSmb.mirrorFindFiles env fileName) w fun tr r _ =>
      ∀ pattern listing e, ⟨.win32 (.findFirstFile pattern), .ok listing e⟩ ∈ tr →
        r.status = fileStatus env listing.final ∧
          r.entries = shownNames fileName (listing.first :: listing.rest) := by
  refine watch_bind.mpr (unlisted_filePathOf.watch ?_)
  intro filePath w₁
  refine (watch_call_of_not rfl).mpr ?_
  intro _ w₂ _
  split
  · refine watch_pure.mpr ?_
    intro pattern listing e he
    cases he
  · refine (watch_call rfl).mpr ?_
    intro out w₃ _
    cases out with
    | fail error =>
        refine watch_bind.mpr (watch_reportStatus.mono ?_)
        rintro _ status w₄ rfl
        refine watch_pure.mpr ?_
        intro pattern listing e he
        simp at he
    | ok listing e =>
        refine (watch_call_of_not rfl).mpr ?_
        intro _ w₄ _
        unfold fileStatus
        by_cases hend : listing.final.1 = ERROR_NO_MORE_FILES
        · rw [if_neg (not_not.mpr hend)]
          refine watch_printed ?_
          intro w₅ pattern listing' e' he
          simp at he
          obtain ⟨-, rfl, -⟩ := he
          exact ⟨(if_pos hend).symm, rfl⟩
        · rw [if_pos hend]
          refine watch_printed ?_
          intro w₅ pattern listing' e' he
          simp at he
          obtain ⟨-, rfl, -⟩ := he
          exact ⟨(if_neg hend).symm, rfl⟩

/-- The names a driver takes that takes its `n`-th entry if `accepts n`. -/
def takenNames (accepts : ℕ → Bool) (k : ℕ) (names : List WString) : List WString :=
  ((names.zipIdx k).takeWhile fun s => accepts s.2).map Prod.fst

/-- A driver that answers by the number of the entry takes the same either way. -/
theorem Offered.takenNames {D : Type} {entries : List D} {full : Bool} {os : List (D × Bool)}
    (h : Offered entries full os) (name : D → WString) {accepts : ℕ → Bool} {k : ℕ}
    (hanswers : ∀ n o, os[n]? = some o → o.2 = accepts (k + n)) :
    Loops.takenNames accepts k (entries.map name) = (os.filter Prod.snd).map (fun o => name o.1) ∧
      (full = false ↔ (Loops.takenNames accepts k (entries.map name)).length < entries.length) := by
  induction h generalizing k with
  | done => simp [Loops.takenNames]
  | @refuse d entries =>
      have hfalse : accepts k = false := (hanswers 0 (d, false) rfl).symm
      simp [Loops.takenNames, hfalse]
  | @take d entries full os h ih =>
      have htrue : accepts k = true := (hanswers 0 (d, true) rfl).symm
      have hrest : ∀ n o, os[n]? = some o → o.2 = accepts (k + 1 + n) := by
        intro n o ho
        rw [hanswers (n + 1) o ho]
        congr 1
        omega
      obtain ⟨hnames, hfull⟩ := ih hrest
      have hcons : Loops.takenNames accepts k ((d :: entries).map name) =
          name d :: Loops.takenNames accepts (k + 1) (entries.map name) := by
        simp [Loops.takenNames, htrue]
      rw [hcons, hnames, hfull, hnames]
      simp

theorem watch_findStreams_asOne {accepts : ℕ → Bool} :
    Watch (SeamlessSmb.step env os) asksListing (SeamlessSmb.mirrorFindStreams env fileName accepts) w
      fun tr r _ => ∀ path listing e, ⟨.win32 (.findFirstStream path), .ok listing e⟩ ∈ tr →
        r.entries = takenNames accepts 0 (listing.first :: listing.rest) ∧
          r.status = streamStatus env
            (!decide (r.entries.length < (listing.first :: listing.rest).length)) listing.final := by
  refine watch_bind.mpr (unlisted_filePathOf.watch ?_)
  intro filePath w₁
  refine (watch_call_of_not rfl).mpr ?_
  intro _ w₂ _
  refine (watch_call rfl).mpr ?_
  intro out w₃ _
  cases out with
  | fail error =>
      refine watch_bind.mpr (watch_reportStatus.mono ?_)
      rintro _ status w₄ rfl
      refine watch_pure.mpr ?_
      intro path listing e he
      simp at he
  | ok listing e =>
      refine (watch_call_of_not rfl).mpr ?_
      intro _ w₄ _
      have hnamed : ∀ {path : WString} {listing' : Listing} {e' : DWORD},
          (⟨.win32 (.findFirstStream path), .ok listing' e'⟩ : Event Call Answer) ∈
            [(⟨.win32 (.findFirstStream filePath), .ok listing e⟩ : Event Call Answer)] →
          listing = listing' := by
        intro path listing' e' he
        simp at he
        exact he.2.1.symm
      split
      · next hless =>
          refine watch_printed ?_
          intro w₅ path listing' e' he
          cases hnamed he
          refine ⟨rfl, ?_⟩
          rw [decide_eq_true hless]
          rfl
      · next hless =>
          unfold streamStatus
          by_cases hend : listing.final.1 = ERROR_HANDLE_EOF
          · rw [if_neg (not_not.mpr hend)]
            refine watch_printed ?_
            intro w₅ path listing' e' he
            cases hnamed he
            refine ⟨rfl, ?_⟩
            rw [decide_eq_false hless, if_pos hend]
            rfl
          · rw [if_pos hend]
            refine watch_printed ?_
            intro w₅ path listing' e' he
            cases hnamed he
            refine ⟨rfl, ?_⟩
            rw [decide_eq_false hless, if_neg hend]
            rfl

/-- **Files.**  A listing that comes entry by entry comes to what it comes to as one answer. -/
theorem findFiles_refines {fuel : ℕ} {s s' : Search FindDataW} {tr : FindTrace FindDataW} {r : Returned}
    {tr' : Trace} {r' : ListingResult} {w' : World O} {path pattern : WString} {listing : Listing}
    {e : DWORD} (hentries : s.coming.map FindDataW.cFileName = listing.first :: listing.rest)
    (hfinal : s.final = listing.final) (hfuel : s.coming.length ≤ fuel)
    (hpath : getFilePath env.globals DOKAN_MAX_PATH fileName = some path) (hpathne : path ≠ [])
    (hfits : Fits (searchPattern path))
    (hrun : Run (step env) (mirrorFindFiles env fuel fileName) s tr r s')
    (hrun' : Run (SeamlessSmb.step env os) (SeamlessSmb.mirrorFindFiles env fileName) w tr' r' w')
    (hlisted : ⟨.win32 (.findFirstFile pattern), .ok listing e⟩ ∈ tr') :
    r = .status r'.status ∧ (handed tr).map FindDataW.cFileName = r'.entries := by
  have hne : s.coming ≠ [] := by
    intro h
    rw [h] at hentries
    cases hentries
  have hmem : ⟨.win32 (.findFirstFile pattern), .ok listing e⟩ ∈ watched asksListing tr' :=
    List.mem_filter.mpr ⟨hlisted, rfl⟩
  obtain ⟨hstatus, hnames⟩ := watch_findFiles_asOne tr' r' w' hrun' pattern listing e hmem
  obtain ⟨hhanded, hr⟩ := (watch_mirrorFindFiles hpath hpathne hne hfuel tr r s' hrun).1 hfits
  rw [handed_watched] at hhanded
  rw [hr, hhanded, hstatus, hnames, hfinal, shown_names, hentries]
  exact ⟨rfl, rfl⟩

/-- **Streams.**  The same, with a driver that answers by the number of the entry. -/
theorem findStreams_refines {fuel : ℕ} {s s' : Search FindStreamData} {tr : FindTrace FindStreamData}
    {r : Returned} {tr' : Trace} {r' : ListingResult} {w' : World O} {path : WString} {listing : Listing}
    {e : DWORD} {accepts : ℕ → Bool}
    (hentries : s.coming.map FindStreamData.cStreamName = listing.first :: listing.rest)
    (hfinal : s.final = listing.final) (hfuel : s.coming.length ≤ fuel)
    (hrun : Run (step env) (mirrorFindStreams env fuel fileName) s tr r s')
    (hanswers : ∀ n o, (offers tr)[n]? = some o → o.2 = accepts n)
    (hrun' : Run (SeamlessSmb.step env os) (SeamlessSmb.mirrorFindStreams env fileName accepts) w tr' r' w')
    (hlisted : ⟨.win32 (.findFirstStream path), .ok listing e⟩ ∈ tr') :
    r = .status r'.status ∧
      ((offers tr).filter Prod.snd).map (fun o => o.1.cStreamName) = r'.entries := by
  have hne : s.coming ≠ [] := by
    intro h
    rw [h] at hentries
    cases hentries
  have hmem : ⟨.win32 (.findFirstStream path), .ok listing e⟩ ∈ watched asksListing tr' :=
    List.mem_filter.mpr ⟨hlisted, rfl⟩
  obtain ⟨hnames, hstatus⟩ := watch_findStreams_asOne tr' r' w' hrun' path listing e hmem
  obtain ⟨full, hoffered, hr⟩ := watch_mirrorFindStreams hne hfuel tr r s' hrun
  rw [offers_watched] at hoffered
  have hanswers' : ∀ n o, (offers tr)[n]? = some o → o.2 = accepts (0 + n) := by
    intro n o ho
    rw [Nat.zero_add]
    exact hanswers n o ho
  obtain ⟨htaken, hfull⟩ := hoffered.takenNames FindStreamData.cStreamName hanswers'
  have hlength : s.coming.length = (listing.first :: listing.rest).length := by
    rw [← hentries, List.length_map]
  rw [hentries] at htaken hfull
  have hsame : full = !decide (r'.entries.length < (listing.first :: listing.rest).length) := by
    rw [hnames, ← hlength]
    cases full with
    | false =>
        rw [decide_eq_true (hfull.mp rfl)]
        rfl
    | true =>
        have hall : ¬ (takenNames accepts 0 (listing.first :: listing.rest)).length < s.coming.length :=
          fun h => Bool.noConfusion (hfull.mpr h)
        rw [decide_eq_false hall]
        rfl
  rw [hr, hstatus, hsame, hfinal, ← htaken, hnames]
  exact ⟨rfl, rfl⟩

/-! ### Directories to be deleted -/

/-- The status of a directory that is to be deleted. -/
def directoryStatus (env : Env) (names : List WString) (final : Win32Error) : NTSTATUS :=
  if (names.find? fun s => decide (RealEntry s)).isSome then STATUS_DIRECTORY_NOT_EMPTY
  else fileStatus env final

theorem watch_findRealEntry {fuel : ℕ} {d : FindDataW} {s : Search FindDataW}
    (hfuel : s.coming.length < fuel) :
    Watch (step env) FindCall.seen (findRealEntry fuel d) s fun tr r s' =>
      tr = [] ∧ r = some ((d :: s.coming).find? fun d => decide (RealEntry d.cFileName)) ∧
        (r = some none → s'.lastError = s.final.1) := by
  induction fuel generalizing s d with
  | zero => exact absurd hfuel (Nat.not_lt_zero _)
  | succ fuel ih =>
      unfold findRealEntry
      split
      · next hreal =>
          have hfound : ((d :: s.coming).find? fun d => decide (RealEntry d.cFileName)) = some d :=
            List.find?_cons_of_pos (p := fun d : FindDataW => decide (RealEntry d.cFileName))
              (decide_eq_true hreal)
          refine watch_pure.mpr ⟨rfl, ?_, ?_⟩
          · rw [hfound]
          · intro h
            cases h
      · next hreal =>
          have hrest : ((d :: s.coming).find? fun d => decide (RealEntry d.cFileName)) =
              s.coming.find? fun d => decide (RealEntry d.cFileName) :=
            List.find?_cons_of_neg fun h => hreal (of_decide_eq_true h)
          rw [hrest]
          refine watch_findNext ?_ ?_
          · intro hcoming
            rw [hcoming]
            exact watch_pure.mpr ⟨rfl, rfl, fun _ => rfl⟩
          · intro d' coming e hcoming
            rw [hcoming]
            refine ih (s := { s with coming := coming, lastError := e }) ?_
            rw [hcoming] at hfuel
            exact Nat.lt_of_succ_lt_succ hfuel

theorem watch_deleteDirectory {fuel : ℕ} {path : WString} {s : Search FindDataW} {info : DokanFileInfo}
    (hpath : getFilePath env.globals DOKAN_MAX_PATH fileName = some path) (hpathne : path ≠ [])
    (hfits : Fits (searchPattern path)) (hdelete : info.deleteOnClose = true) (hne : s.coming ≠ [])
    (hfuel : s.coming.length ≤ fuel) :
    Watch (step env) FindCall.seen (deleteDirectory env fuel fileName info) s fun _ r _ =>
      r = .status (directoryStatus env (s.coming.map FindDataW.cFileName) s.final) := by
  refine watch_getFilePath hpath fun filePath hholds => (watch_call_of_not rfl).mpr ?_
  rintro _ s₂ ⟨e₂, -, rfl⟩
  obtain ⟨pattern, hpattern, -⟩ := wildcard_holds filePath.2 hholds hpathne hfits
  rw [hdelete, if_neg Bool.noConfusion]
  unfold withPattern
  rw [hpattern]
  refine watch_findFirst hne ?_
  intro d coming e₃ hcoming
  change s.coming = d :: coming at hcoming
  have hless : coming.length < fuel := by
    rw [hcoming] at hfuel
    exact hfuel
  refine watch_bind.mpr ((watch_findRealEntry (s := { s with coming := coming, lastError := e₃ })
    hless).mono ?_)
  rintro _ stopped s₄ ⟨rfl, rfl, hlast⟩
  have hnames : ((s.coming.map FindDataW.cFileName).find? fun s => decide (RealEntry s)).isSome =
      ((d :: coming).find? fun d => decide (RealEntry d.cFileName)).isSome := by
    rw [hcoming, List.find?_map, Option.isSome_map]
    rfl
  unfold directoryStatus
  rw [hnames]
  cases hfound : (d :: coming).find? fun d => decide (RealEntry d.cFileName) with
  | some found =>
      refine (watch_call_of_not rfl).mpr ?_
      intro _ s₅ _
      refine (watch_call_of_not rfl).mpr ?_
      intro _ s₆ _
      exact watch_pure.mpr rfl
  | none =>
      refine (watch_call_of_not rfl).mpr ?_
      rintro error s₅ ⟨rfl, rfl⟩
      refine (watch_call_of_not rfl).mpr ?_
      intro _ s₆ _
      have hfinal : s₅.lastError = s.final.1 := hlast (by rw [hfound])
      rw [hfinal]
      unfold fileStatus
      by_cases hend : s.final.1 = ERROR_NO_MORE_FILES
      · rw [if_neg (not_not.mpr hend)]
        refine (watch_call_of_not rfl).mpr ?_
        intro _ s₇ _
        exact watch_pure.mpr (by rw [if_pos hend]; rfl)
      · rw [if_pos hend]
        refine watch_reportError.mono ?_
        rintro _ r s₇ ⟨-, rfl⟩
        rw [if_neg hend]
        rfl

theorem watch_deleteDirectory_asOne {info : DokanFileInfo} :
    Watch (SeamlessSmb.step env os) asksListing (SeamlessSmb.deleteDirectory env fileName info) w
      fun tr status _ => ∀ pattern listing e, ⟨.win32 (.findFirstFile pattern), .ok listing e⟩ ∈ tr →
        status = directoryStatus env (listing.first :: listing.rest) listing.final := by
  refine watch_bind.mpr (unlisted_filePathOf.watch ?_)
  intro filePath w₁
  refine (watch_call_of_not rfl).mpr ?_
  intro _ w₂ _
  split
  · exact watch_pure.mpr nofun
  split
  · exact watch_pure.mpr nofun
  refine (watch_call rfl).mpr ?_
  intro out w₃ _
  cases out with
  | fail error =>
      refine (watch_call_of_not rfl).mpr ?_
      intro _ w₄ _
      refine (watch_call_of_not rfl).mpr ?_
      intro _ w₅ _
      refine watch_pure.mpr ?_
      intro pattern listing e he
      simp at he
  | ok listing e =>
      have hchecked : Watch (SeamlessSmb.step env os) asksListing (checkEntries env fileName listing) w₃
          fun tr status _ => tr = [] ∧
            status = directoryStatus env (listing.first :: listing.rest) listing.final := by
        unfold checkEntries directoryStatus
        cases hfound : (listing.first :: listing.rest).find? fun s => decide (RealEntry s) with
        | some found =>
            refine (watch_call_of_not rfl).mpr ?_
            intro _ w₄ _
            refine (watch_call_of_not rfl).mpr ?_
            intro _ w₅ _
            exact watch_pure.mpr ⟨rfl, rfl⟩
        | none =>
            refine (watch_call_of_not rfl).mpr ?_
            intro _ w₄ _
            unfold fileStatus
            by_cases hend : listing.final.1 = ERROR_NO_MORE_FILES
            · rw [if_neg (not_not.mpr hend), if_pos hend]
              refine (watch_call_of_not rfl).mpr ?_
              intro _ w₅ _
              exact watch_pure.mpr ⟨rfl, rfl⟩
            · rw [if_pos hend, if_neg hend]
              refine (watch_call_of_not rfl).mpr ?_
              intro _ w₅ _
              exact watch_pure.mpr ⟨rfl, rfl⟩
      refine hchecked.mono ?_
      rintro _ status w₄ ⟨rfl, rfl⟩ pattern listing' e' he
      simp at he
      rw [he.2.1]

/-- **Directories.**  The same for a directory that is to be deleted. -/
theorem deleteDirectory_refines {fuel : ℕ} {s s' : Search FindDataW} {tr : FindTrace FindDataW}
    {r : Returned} {tr' : Trace} {status : NTSTATUS} {w' : World O} {pattern : WString} {listing : Listing}
    {e : DWORD} {info : DokanFileInfo} {path : WString}
    (hentries : s.coming.map FindDataW.cFileName = listing.first :: listing.rest)
    (hfinal : s.final = listing.final) (hfuel : s.coming.length ≤ fuel)
    (hpath : getFilePath env.globals DOKAN_MAX_PATH fileName = some path) (hpathne : path ≠ [])
    (hfits : Fits (searchPattern path)) (hdelete : info.deleteOnClose = true)
    (hrun : Run (step env) (deleteDirectory env fuel fileName info) s tr r s')
    (hrun' : Run (SeamlessSmb.step env os) (SeamlessSmb.deleteDirectory env fileName info) w tr' status w')
    (hlisted : ⟨.win32 (.findFirstFile pattern), .ok listing e⟩ ∈ tr') : r = .status status := by
  have hne : s.coming ≠ [] := by
    intro h
    rw [h] at hentries
    cases hentries
  have hmem : ⟨.win32 (.findFirstFile pattern), .ok listing e⟩ ∈ watched asksListing tr' :=
    List.mem_filter.mpr ⟨hlisted, rfl⟩
  have hstatus := watch_deleteDirectory_asOne tr' status w' hrun' pattern listing e hmem
  rw [watch_deleteDirectory hpath hpathne hfits hdelete hne hfuel tr r s' hrun, hstatus, hentries, hfinal]

end

end Loops

end SeamlessSmb
