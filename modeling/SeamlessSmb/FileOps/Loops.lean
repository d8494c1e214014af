/-
# `FileOps.Loops` — the listings, call by call

`MirrorFindFiles`, `MirrorFindStreams` and `DeleteDirectory` go through a listing of unknown length:
they ask for one entry after the other, do something with each, and judge by the last error why
there are no more.  Elsewhere the listing is one answer of the platform; here it comes entry by
entry, as the loops see it, and the path is in its array.

| source | here |
| :-- | :-- |
| `FindFirstFile`, `FindFirstStreamW` | `findFirst`, with the entry if there is one |
| `FindNextFile`, `FindNextStreamW` | `findNext` |
| `FillFindData`, `FillFindStreamData` | `fill`; whether the entry is taken is up to the driver |
| the handle, and what is behind it | `Search`: the entries still to come, and the error after them |

A loop is given with fuel: it is `unfinished` if it goes round more often than that.

**Proved here:** what the two that make a pattern search for is the pattern, if it fits
(`patterns_made`).
-/
import SeamlessSmb.FileOps.Wildcard
import SeamlessSmb.FileOps.Attributes

namespace SeamlessSmb

open Calls Block

/-- `WIN32_FIND_DATAW`. -/
structure FindDataW extends FindData where
  cFileName : WString

/-- `WIN32_FIND_STREAM_DATA`. -/
structure FindStreamData where
  streamSize : BitVec 64
  cStreamName : WString

namespace Loops

/-! ## The calls -/

/-- An argument of `print`. -/
inductive FindArg
  | num (n : DWORD)
  | buffer (filePath : List (BitVec 16))
  | name (s : WString)

/-- A call of one of the three; `D` is what is stored for an entry. -/
inductive FindCall (D : Type)
  /-- `GetFilePath` into the array on the stack. -/
  | getFilePath (fileName : WString)
  | print (format : String) (args : List FindArg)
  | getLastError
  | findFirst (filePath : List (BitVec 16))
  | findNext
  | findClose
  | fill (findData : D)
  | deleteFileNode (fileName : WString)

/-- `WCHAR filePath[DOKAN_MAX_PATH]`. -/
abbrev PathBuffer := { m : List (BitVec 16) // m.length = DOKAN_MAX_PATH }

@[reducible] def FindAnswer {D : Type} : FindCall D → Type
  | .getFilePath _ => PathBuffer
  | .getLastError => DWORD
  | .findFirst _ | .findNext => Option D
  | .fill _ => Bool
  | _ => Unit

abbrev FindOp (D α : Type) := Prog (FindCall D) FindAnswer α

abbrev FindTrace (D : Type) := List (Event (FindCall D) FindAnswer)

/-- What the enumeration will still deliver, the error that ends it, and the last error of the
thread. -/
structure Search (D : Type) where
  coming : List D
  final : Win32Error
  lastError : DWORD

/-- The next entry, or why there is none. -/
def Search.Next {D : Type} (s : Search D) (entry : Option D) (s' : Search D) : Prop :=
  match s.coming with
  | d :: coming => entry = some d ∧ ∃ e, s' = { s with coming := coming, lastError := e }
  | [] => entry = none ∧ s' = { s with lastError := s.final.1 }

/-- One call. -/
def step {D : Type} (env : Env) (s : Search D) : (c : FindCall D) → FindAnswer c → Search D → Prop
  | .getFilePath fileName, filePath, s' =>
      (∃ path, getFilePath env.globals DOKAN_MAX_PATH fileName = some path ∧
        HoldsPath filePath.1 path) ∧ s' = s
  | .print _ _, _, s' => ∃ e, (env.debugMode = false → e = s.lastError) ∧ s' = { s with lastError := e }
  | .getLastError, error, s' => error = s.lastError ∧ s' = s
  | .findFirst _, entry, s' => s.Next entry s'
  | .findNext, entry, s' => s.Next entry s'
  | .findClose, _, s' => ∃ e, s' = { s with lastError := e }
  | .fill _, _, s' => ∃ e, s' = { s with lastError := e }
  | .deleteFileNode _, _, s' => s' = s

/-- How one of the three ends. -/
inductive Returned
  | status (status : NTSTATUS)
  /-- A cell outside the array was touched. -/
  | outside
  | unfinished

variable {D : Type}

def print (format : String) (args : List FindArg) : FindOp D Unit :=
  Prog.perform (FindCall.print format args)

/-- An error, printed and mapped. -/
def reportError (env : Env) (format : String) (error : DWORD) : FindOp D Returned := do
  print format [.num error]
  pure (.status (env.ntStatusFromWin32 error))

/-- What follows a `findFirst` without an entry. -/
def refused (env : Env) (format : String) : FindOp D Returned := do
  let error ← Prog.perform FindCall.getLastError
  reportError env format error

/-! ## The loops -/

/-- The array goes on as the pattern, or the callback ends there. -/
def withPattern (filePath : List (BitVec 16)) (search : List (BitVec 16) → FindOp D Returned) :
    FindOp D Returned :=
  match wildcard filePath with
  | none => pure .outside
  | some (.error status) => pure (.status status)
  | some (.ok filePath) => search filePath

/-- The `do` of `MirrorFindFiles`, and its count. -/
def fillFiles (fileName : WString) : (fuel : ℕ) → FindDataW → DWORD → FindOp FindDataW (Option DWORD)
  | 0, _, _ => pure none
  | fuel + 1, findData, count => do
      Prog.onlyIf (fileName ≠ [backslash] ∨ RealEntry findData.cFileName) do
        let _ ← Prog.perform (FindCall.fill findData)
        pure ()
      let next ← Prog.perform FindCall.findNext
      match (next : Option FindDataW) with
      | some findData => fillFiles fileName fuel findData (count + 1)
      | none => pure (some (count + 1))

/-- `MirrorFindFiles` from `FindFirstFile` on. -/
def listFiles (env : Env) (fuel : ℕ) (fileName : WString) (filePath : List (BitVec 16)) :
    FindOp FindDataW Returned := do
  let first ← Prog.perform (FindCall.findFirst filePath)
  match (first : Option FindDataW) with
  | none => refused env "\tinvalid file handle. Error is %u\n\n"
  | some findData => do
      let count ← fillFiles fileName fuel findData 0
      match count with
      | none => pure .unfinished
      | some count => do
          let error ← Prog.perform FindCall.getLastError
          Prog.perform FindCall.findClose
          if error ≠ ERROR_NO_MORE_FILES then
            reportError env "\tFindNextFile error. Error is %u\n\n" error
          else do
            print "\tFindFiles return %d entries in %s\n\n" [.num count, .buffer filePath]
            pure (.status STATUS_SUCCESS)

/-- `MirrorFindFiles`. -/
def mirrorFindFiles (env : Env) (fuel : ℕ) (fileName : WString) : FindOp FindDataW Returned := do
  let filePath ← Prog.perform (FindCall.getFilePath fileName)
  print "FindFiles : %s\n" [.buffer (Subtype.val filePath)]
  withPattern (Subtype.val filePath) (listFiles env fuel fileName)

/-- The `while` of `MirrorFindStreams`: `bufferFull` and the count after it. -/
def fillStreams : (fuel : ℕ) → DWORD → FindOp FindStreamData (Option (Bool × DWORD))
  | 0, _ => pure none
  | fuel + 1, count => do
      let next ← Prog.perform FindCall.findNext
      match (next : Option FindStreamData) with
      | none => pure (some (true, count))
      | some findData => do
          let bufferFull ← Prog.perform (FindCall.fill findData)
          if bufferFull = false then pure (some (false, count)) else fillStreams fuel (count + 1)

/-- The first entry, and the `while` if it was taken. -/
def fillFromFirst (fuel : ℕ) (findData : FindStreamData) : FindOp FindStreamData (Option (Bool × DWORD)) := do
  let bufferFull ← Prog.perform (FindCall.fill findData)
  if bufferFull = true then fillStreams fuel 1 else pure (some (bufferFull, 0))

/-- `MirrorFindStreams`.  `bufferFull` is what `FillFindStreamData` returns: false where it has no
room. -/
def mirrorFindStreams (env : Env) (fuel : ℕ) (fileName : WString) : FindOp FindStreamData Returned := do
  let filePath ← Prog.perform (FindCall.getFilePath fileName)
  print "FindStreams :%s\n" [.buffer (Subtype.val filePath)]
  let first ← Prog.perform (FindCall.findFirst (Subtype.val filePath))
  match (first : Option FindStreamData) with
  | none => refused env "\tinvalid file handle. Error is %u\n\n"
  | some findData => do
      let filled ← fillFromFirst fuel findData
      match filled with
      | none => pure .unfinished
      | some (bufferFull, count) => do
          let error ← Prog.perform FindCall.getLastError
          Prog.perform FindCall.findClose
          if bufferFull = false then do
            print "\tFindStreams returned %d entries in %s with STATUS_BUFFER_OVERFLOW\n\n"
              [.num count, .buffer (Subtype.val filePath)]
            pure (.status STATUS_BUFFER_OVERFLOW)
          else if error ≠ ERROR_HANDLE_EOF then
            reportError env "\tFindNextStreamW error. Error is %u\n\n" error
          else do
            print "\tFindStreams return %d entries in %s\n\n" [.num count, .buffer (Subtype.val filePath)]
            pure (.status STATUS_SUCCESS)

/-- The `do` of `DeleteDirectory`: the entry it stops at, if there is one. -/
def findRealEntry : (fuel : ℕ) → FindDataW → FindOp FindDataW (Option (Option FindDataW))
  | 0, _ => pure none
  | fuel + 1, findData =>
      if RealEntry findData.cFileName then pure (some (some findData))
      else do
        let next ← Prog.perform FindCall.findNext
        match (next : Option FindDataW) with
        | some findData => findRealEntry fuel findData
        | none => pure (some none)

/-- `DeleteDirectory` from `FindFirstFile` on. -/
def checkDirectory (env : Env) (fuel : ℕ) (fileName : WString) (filePath : List (BitVec 16)) :
    FindOp FindDataW Returned := do
  let first ← Prog.perform (FindCall.findFirst filePath)
  match (first : Option FindDataW) with
  | none => refused env "\tDeleteDirectory error code = %d\n\n"
  | some findData => do
      let stopped ← findRealEntry fuel findData
      match stopped with
      | none => pure .unfinished
      | some (some findData) => do
          Prog.perform FindCall.findClose
          print "\tDirectory is not empty: %s\n" [.name findData.cFileName]
          pure (.status STATUS_DIRECTORY_NOT_EMPTY)
      | some none => do
          let error ← Prog.perform FindCall.getLastError
          Prog.perform FindCall.findClose
          if error ≠ ERROR_NO_MORE_FILES then
            reportError env "\tDeleteDirectory error code = %d\n\n" error
          else do
            Prog.perform (FindCall.deleteFileNode fileName)
            pure (.status STATUS_SUCCESS)

/-- `DeleteDirectory`.  That the array is zeroed first makes no difference to what follows. -/
def deleteDirectory (env : Env) (fuel : ℕ) (fileName : WString) (info : DokanFileInfo) :
    FindOp FindDataW Returned := do
  let filePath ← Prog.perform (FindCall.getFilePath fileName)
  print "DeleteDirectory %s - %d\n"
    [.buffer (Subtype.val filePath), .num (if info.deleteOnClose then 1 else 0)]
  if info.deleteOnClose = false then pure (.status STATUS_SUCCESS)
  else withPattern (Subtype.val filePath) (checkDirectory env fuel fileName)

/-! ## What a run shows -/

/-- What was searched for. -/
def searched (tr : FindTrace D) : List (List (BitVec 16)) :=
  tr.filterMap fun
    | ⟨.findFirst filePath, _⟩ => some filePath
    | _ => none

/-- What was handed to the driver, and whether it was taken. -/
def offers (tr : FindTrace D) : List (D × Bool) :=
  tr.filterMap fun
    | ⟨.fill findData, taken⟩ => some (findData, taken)
    | _ => none

/-- What was handed to the driver. -/
def handed (tr : FindTrace D) : List D := (offers tr).map Prod.fst

/-- The driver had no room for an entry. -/
def Refused (tr : FindTrace D) : Prop := ∃ d, (d, false) ∈ offers tr

@[simp] theorem searched_nil : searched ([] : FindTrace D) = [] := rfl

@[simp] theorem offers_nil : offers ([] : FindTrace D) = [] := rfl

@[simp] theorem searched_findFirst {m : List (BitVec 16)} {entry : Option D} {tr : FindTrace D} :
    searched (⟨.findFirst m, entry⟩ :: tr) = m :: searched tr := rfl

@[simp] theorem searched_fill {d : D} {taken : Bool} {tr : FindTrace D} :
    searched (⟨.fill d, taken⟩ :: tr) = searched tr := rfl

@[simp] theorem offers_findFirst {m : List (BitVec 16)} {entry : Option D} {tr : FindTrace D} :
    offers (⟨.findFirst m, entry⟩ :: tr) = offers tr := rfl

@[simp] theorem offers_fill {d : D} {taken : Bool} {tr : FindTrace D} :
    offers (⟨.fill d, taken⟩ :: tr) = (d, taken) :: offers tr := rfl

@[simp] theorem searched_append {tr tr' : FindTrace D} :
    searched (tr ++ tr') = searched tr ++ searched tr' := List.filterMap_append

@[simp] theorem offers_append {tr tr' : FindTrace D} : offers (tr ++ tr') = offers tr ++ offers tr' :=
  List.filterMap_append

/-- The call is seen by `searched` or `offers`. -/
def FindCall.seen : FindCall D → Bool
  | .findFirst _ | .fill _ => true
  | _ => false

@[simp] theorem searched_watched {tr : FindTrace D} :
    searched (watched FindCall.seen tr) = searched tr := by
  unfold searched watched
  rw [List.filterMap_filter]
  apply List.filterMap_congr
  rintro ⟨c, r⟩ -
  cases c <;> rfl

@[simp] theorem offers_watched {tr : FindTrace D} : offers (watched FindCall.seen tr) = offers tr := by
  unfold offers watched
  rw [List.filterMap_filter]
  apply List.filterMap_congr
  rintro ⟨c, r⟩ -
  cases c <;> rfl

section

variable {env : Env} {s s' : Search D} {entry : Option D}

theorem Search.Next.cases (h : s.Next entry s') :
    (s.coming = [] ∧ entry = none ∧ s' = { s with lastError := s.final.1 }) ∨
      ∃ d coming e, s.coming = d :: coming ∧ entry = some d ∧
        s' = { s with coming := coming, lastError := e } := by
  unfold Search.Next at h
  cases hcoming : s.coming with
  | nil =>
      rw [hcoming] at h
      exact .inl ⟨rfl, h⟩
  | cons d coming =>
      rw [hcoming] at h
      obtain ⟨hentry, e, hs'⟩ := h
      exact .inr ⟨d, coming, e, rfl, hentry, hs'⟩

end

section

variable {env : Env} {s : Search D} {α : Type}

/-- What comes of an error that is mapped. -/
theorem watch_reportError {format : String} {error : DWORD} :
    Watch (step env) FindCall.seen (reportError env format error) s fun tr r _ =>
      tr = [] ∧ r = .status (env.ntStatusFromWin32 error) := by
  refine (watch_call_of_not rfl).mpr ?_
  intro _ s' _
  exact watch_pure.mpr ⟨rfl, rfl⟩

/-- The array holds the path. -/
theorem watch_getFilePath {fileName path : WString} {p : PathBuffer → FindOp D α}
    {Q : FindTrace D → α → Search D → Prop}
    (hpath : getFilePath env.globals DOKAN_MAX_PATH fileName = some path)
    (h : ∀ filePath, HoldsPath filePath.1 path → Watch (step env) FindCall.seen (p filePath) s Q) :
    Watch (step env) FindCall.seen (Prog.perform (FindCall.getFilePath fileName) >>= p) s Q := by
  refine (watch_call_of_not rfl).mpr ?_
  rintro filePath s' ⟨⟨path', hpath', hholds⟩, rfl⟩
  rw [hpath] at hpath'
  cases hpath'
  exact h filePath hholds

/-- The first entry, where there is one. -/
theorem watch_findFirst {m : List (BitVec 16)} {p : Option D → FindOp D α}
    {Q : FindTrace D → α → Search D → Prop} (hne : s.coming ≠ [])
    (h : ∀ d coming e, s.coming = d :: coming →
      Watch (step env) FindCall.seen (p (some d)) { s with coming := coming, lastError := e }
        fun tr a s' => Q (⟨.findFirst m, some d⟩ :: tr) a s') :
    Watch (step env) FindCall.seen (Prog.perform (FindCall.findFirst m) >>= p) s Q := by
  refine (watch_call rfl).mpr ?_
  intro entry s' hnext
  obtain ⟨hcoming, -, -⟩ | ⟨d, coming, e, hcoming, rfl, rfl⟩ := Search.Next.cases hnext
  · exact absurd hcoming hne
  · exact h d coming e hcoming

/-- The next entry, or the end. -/
theorem watch_findNext {p : Option D → FindOp D α} {Q : FindTrace D → α → Search D → Prop}
    (hend : s.coming = [] →
      Watch (step env) FindCall.seen (p none) { s with lastError := s.final.1 } Q)
    (hmore : ∀ d coming e, s.coming = d :: coming →
      Watch (step env) FindCall.seen (p (some d)) { s with coming := coming, lastError := e } Q) :
    Watch (step env) FindCall.seen (Prog.perform FindCall.findNext >>= p) s Q := by
  refine (watch_call_of_not rfl).mpr ?_
  intro entry s' hnext
  obtain ⟨hcoming, rfl, rfl⟩ | ⟨d, coming, e, hcoming, rfl, rfl⟩ := Search.Next.cases hnext
  · exact hend hcoming
  · exact hmore d coming e hcoming

/-! ### The pattern -/

/-- The call begins a search. -/
def FindCall.begins : FindCall D → Bool
  | .findFirst _ => true
  | _ => false

/-- A part of a callback that begins no search. -/
theorem watch_quiet {p : FindOp D α} (hp : OnlyCalls (fun c => c.begins = false) p) :
    Watch (step env) FindCall.seen p s fun tr _ _ => searched tr = [] := by
  have hsat := hp.sat (M := step env) (fun _ => ()) (fun _ _ _ _ _ _ => rfl) s
  refine Sat.mono hsat ?_
  rintro tr a s' ⟨hcalls, -⟩
  rw [searched_watched]
  refine List.filterMap_eq_nil_iff.mpr ?_
  rintro ⟨c, r⟩ he
  have hc := hcalls _ he
  cases c with
  | findFirst m => cases hc
  | _ => rfl

/-- What the array comes to. -/
structure PatternMade (path : WString) (tr : FindTrace D) (r : Returned) : Prop where
  inside : r ≠ .outside
  passed : Fits (searchPattern path) → ∃ filePath, searched tr = [filePath] ∧
    HoldsPath filePath (searchPattern path)
  overflow : ¬ Fits (searchPattern path) → searched tr = [] ∧ r = .status STATUS_BUFFER_OVERFLOW

/-- **The pattern** is what is searched for, if it fits. -/
theorem watch_withPattern {filePath : PathBuffer} {path : WString} (hpath : HoldsPath filePath.1 path)
    (hne : path ≠ []) {search : List (BitVec 16) → FindOp D Returned}
    (hsearch : ∀ filePath, Watch (step env) FindCall.seen (search filePath) s fun tr r _ =>
      searched tr = [filePath] ∧ r ≠ .outside) :
    Watch (step env) FindCall.seen (withPattern filePath.1 search) s fun tr r _ =>
      PatternMade path tr r := by
  unfold withPattern
  by_cases hfits : Fits (searchPattern path)
  · obtain ⟨pattern, hpattern, hholds⟩ := wildcard_holds filePath.2 hpath hne hfits
    rw [hpattern]
    refine (hsearch pattern).mono ?_
    rintro tr r - ⟨hsearched, hinside⟩
    exact ⟨hinside, fun _ => ⟨pattern, hsearched, hholds⟩, fun h => absurd hfits h⟩
  · rw [wildcard_overflow filePath.2 hpath hne hfits]
    refine watch_pure.mpr ⟨?_, fun h => absurd h hfits, fun _ => ⟨rfl, rfl⟩⟩
    intro h
    cases h

end

section

variable {env : Env} {fileName path : WString} {fuel : ℕ} {s : Search FindDataW}

/-- Without a handle, nothing more is searched for. -/
theorem watch_refused {format : String} :
    Watch (step env) FindCall.seen (refused env format) s fun tr r _ => tr = [] ∧ r ≠ .outside := by
  refine (watch_call_of_not rfl).mpr ?_
  intro error s₁ _
  refine watch_reportError.mono ?_
  rintro _ r s₂ ⟨rfl, rfl⟩
  exact ⟨rfl, nofun⟩

/-- Nor is it behind the loop, where the last error is judged. -/
theorem watch_judged {format : String} {last : FindOp FindDataW Returned}
    (hlast : ∀ s, Watch (step env) FindCall.seen last s fun tr r _ => tr = [] ∧ r ≠ .outside) :
    Watch (step env) FindCall.seen
      (do
        let error ← Prog.perform FindCall.getLastError
        Prog.perform FindCall.findClose
        if error ≠ ERROR_NO_MORE_FILES then reportError env format error else last) s
      fun tr r _ => tr = [] ∧ r ≠ .outside := by
  refine (watch_call_of_not rfl).mpr ?_
  intro error s₁ _
  refine (watch_call_of_not rfl).mpr ?_
  intro _ s₂ _
  split
  · refine watch_reportError.mono ?_
    rintro _ r s₃ ⟨rfl, rfl⟩
    exact ⟨rfl, nofun⟩
  · exact hlast s₂

/-- **From `FindFirstFile` on**, whatever there is. -/
theorem searched_listFiles {filePath : List (BitVec 16)} :
    Watch (step env) FindCall.seen (listFiles env fuel fileName filePath) s fun tr r _ =>
      searched tr = [filePath] ∧ r ≠ .outside := by
  have hloop : ∀ fuel d count,
      OnlyCalls (fun c => c.begins = false) (fillFiles fileName fuel d count) := by
    intro fuel
    induction fuel with
    | zero =>
        intro d count
        trivial
    | succ fuel ih =>
        intro d count
        refine OnlyCalls.bind (OnlyCalls.onlyIf fun _ => ⟨rfl, fun _ => trivial⟩) ?_
        intro _
        refine ⟨rfl, ?_⟩
        intro next
        cases next with
        | none => trivial
        | some d' => exact ih d' (count + 1)
  refine (watch_call rfl).mpr ?_
  intro entry s₁ _
  cases entry with
  | none =>
      refine watch_refused.mono ?_
      rintro _ r s₂ ⟨rfl, hinside⟩
      exact ⟨rfl, hinside⟩
  | some d =>
      refine watch_bind.mpr ((watch_quiet (hloop fuel d 0)).mono ?_)
      intro tr count s₂ hquiet
      cases count with
      | none => exact watch_pure.mpr ⟨by simp [hquiet], nofun⟩
      | some count =>
          refine (watch_judged ?_).mono ?_
          · intro s₃
            refine (watch_call_of_not rfl).mpr ?_
            intro _ s₄ _
            exact watch_pure.mpr ⟨rfl, nofun⟩
          · rintro _ r s₃ ⟨rfl, hinside⟩
            exact ⟨by simp [hquiet], hinside⟩

/-- **From `FindFirstFile` on**, in `DeleteDirectory`. -/
theorem searched_checkDirectory {filePath : List (BitVec 16)} :
    Watch (step env) FindCall.seen (checkDirectory env fuel fileName filePath) s fun tr r _ =>
      searched tr = [filePath] ∧ r ≠ .outside := by
  have hloop : ∀ fuel d, OnlyCalls (fun c => c.begins = false) (findRealEntry fuel d) := by
    intro fuel
    induction fuel with
    | zero =>
        intro d
        trivial
    | succ fuel ih =>
        intro d
        unfold findRealEntry
        split
        · trivial
        · refine ⟨rfl, ?_⟩
          intro next
          cases next with
          | none => trivial
          | some d' => exact ih d'
  refine (watch_call rfl).mpr ?_
  intro entry s₁ _
  cases entry with
  | none =>
      refine watch_refused.mono ?_
      rintro _ r s₂ ⟨rfl, hinside⟩
      exact ⟨rfl, hinside⟩
  | some d =>
      refine watch_bind.mpr ((watch_quiet (hloop fuel d)).mono ?_)
      intro tr stopped s₂ hquiet
      match stopped with
      | none => exact watch_pure.mpr ⟨by simp [hquiet], nofun⟩
      | some (some found) =>
          refine (watch_call_of_not rfl).mpr ?_
          intro _ s₃ _
          refine (watch_call_of_not rfl).mpr ?_
          intro _ s₄ _
          exact watch_pure.mpr ⟨by simp [hquiet], nofun⟩
      | some none =>
          refine (watch_judged ?_).mono ?_
          · intro s₃
            refine (watch_call_of_not rfl).mpr ?_
            intro _ s₄ _
            exact watch_pure.mpr ⟨rfl, nofun⟩
          · rintro _ r s₃ ⟨rfl, hinside⟩
            exact ⟨by simp [hquiet], hinside⟩

theorem PatternMade.of_watched {tr : FindTrace D} {r : Returned}
    (h : PatternMade path (watched FindCall.seen tr) r) : PatternMade path tr r := by
  obtain ⟨hinside, hpassed, hoverflow⟩ := h
  rw [searched_watched] at hpassed hoverflow
  exact ⟨hinside, hpassed, hoverflow⟩

theorem sat_findFiles_pattern (hpath : getFilePath env.globals DOKAN_MAX_PATH fileName = some path)
    (hne : path ≠ []) :
    Sat (step env) (mirrorFindFiles env fuel fileName) s fun tr r _ => PatternMade path tr r := by
  have hwatch : Watch (step env) FindCall.seen (mirrorFindFiles env fuel fileName) s fun tr r _ =>
      PatternMade path tr r := by
    refine watch_getFilePath hpath fun filePath hholds => (watch_call_of_not rfl).mpr ?_
    intro _ s₁ _
    exact watch_withPattern hholds hne fun _ => searched_listFiles
  exact Sat.mono hwatch fun _ _ _ => PatternMade.of_watched

theorem sat_deleteDirectory_pattern {info : DokanFileInfo}
    (hpath : getFilePath env.globals DOKAN_MAX_PATH fileName = some path) (hne : path ≠ [])
    (hdelete : info.deleteOnClose = true) :
    Sat (step env) (deleteDirectory env fuel fileName info) s fun tr r _ => PatternMade path tr r := by
  have hwatch : Watch (step env) FindCall.seen (deleteDirectory env fuel fileName info) s fun tr r _ =>
      PatternMade path tr r := by
    refine watch_getFilePath hpath fun filePath hholds => (watch_call_of_not rfl).mpr ?_
    intro _ s₁ _
    rw [hdelete, if_neg Bool.noConfusion]
    exact watch_withPattern hholds hne fun _ => searched_checkDirectory
  exact Sat.mono hwatch fun _ _ _ => PatternMade.of_watched

end

end Loops

end SeamlessSmb
