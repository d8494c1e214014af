/-
# `FileOps.Searches` — what a search handle goes through

`MirrorFindFiles`, `MirrorFindStreams` and `DeleteDirectory` each open a search, go on with it, judge
it by the last error and close it.  What may be called when is the table below; `Allowed` and `after`
are its two columns.

| phase | calls | next |
| :-- | :-- | :-- |
| `idle` | `getFilePath`, `print`, `findFirst` | `refused`, or `entry` |
| `refused` | `getLastError`, once and at once; then `print` | |
| `entry` | `fill` with this entry, once; `findNext`; `getLastError`; `findClose` | `entry`, `exhausted`, `closed` |
| `exhausted` | `getLastError`, once and at once; then `findClose` | `closed` |
| `closed` | `print`; `deleteFileNode`, where it is due | `deleted` |

So a handle that was opened is closed once, and not used after that; none is closed that was not
opened; an entry is handed on at most once, while it is in `findData`; and an error that is judged is
that of the call that failed, as nothing comes between.

**Proved here:** the three keep to this, whatever they are answered; they begin a search where their
pattern fits, and only there; with fuel for every entry they leave no handle open and no refusal without
its error read; and `DeleteDirectory` reports a success, where it was to delete, exactly if it
takes the node out of the table, which it does exactly of a directory that was listed to its end and has
nothing in it (`searches_orderly`).
-/
import SeamlessSmb.FileOps.Listings
import SeamlessSmb.Lib.Phases

namespace SeamlessSmb

open Calls Block

namespace Loops

/-! ## The protocol -/

/-- Where a search is; with what it has delivered, and the error once it was asked for. -/
inductive Searching (D : Type)
  | idle
  | refused (error : Option DWORD)
  | entry (before : List D) (findData : D) (handed : Bool)
  | exhausted (seen : List D) (error : Option DWORD)
  | closed (seen : List D) (error : Option DWORD)
  | deleted (seen : List D)

variable {D : Type}

/-- What may be called; `due` says when a directory may be taken out of the table. -/
def Allowed (due : List D → DWORD → Prop) : Searching D → FindCall D → Prop
  | .idle, .getFilePath _ | .idle, .print _ _ | .idle, .findFirst _ => True
  | .refused none, .getLastError => True
  | .refused (some _), .print _ _ => True
  | .entry _ findData handed, .fill d => d = findData ∧ handed = false
  | .entry _ _ _, .findNext | .entry _ _ _, .getLastError | .entry _ _ _, .findClose => True
  | .exhausted _ none, .getLastError => True
  | .exhausted _ (some _), .findClose => True
  | .closed _ _, .print _ _ => True
  | .closed seen (some error), .deleteFileNode _ => due seen error
  | _, _ => False

/-- What it comes to. -/
def after : Searching D → Event (FindCall D) FindAnswer → Searching D
  | .idle, ⟨.findFirst _, none⟩ => .refused none
  | .idle, ⟨.findFirst _, some d⟩ => .entry [] d false
  | .refused _, ⟨.getLastError, error⟩ => .refused (some error)
  | .entry before d _, ⟨.fill _, _⟩ => .entry before d true
  | .entry before d _, ⟨.findNext, some d'⟩ => .entry (before ++ [d]) d' false
  | .entry before d _, ⟨.findNext, none⟩ => .exhausted (before ++ [d]) none
  | .entry before d _, ⟨.findClose, _⟩ => .closed (before ++ [d]) none
  | .exhausted seen _, ⟨.getLastError, error⟩ => .exhausted seen (some error)
  | .exhausted seen error, ⟨.findClose, _⟩ => .closed seen error
  | .closed seen _, ⟨.deleteFileNode _, _⟩ => .deleted seen
  | q, _ => q

/-- No handle is open, and a refusal is explained. -/
def Searching.Settled : Searching D → Prop
  | .refused none | .entry _ _ _ | .exhausted _ _ => False
  | _ => True

/-- A search was begun. -/
def Searching.Begun : Searching D → Prop
  | .idle => False
  | _ => True

/-- How many entries were delivered while the handle is open. -/
def Searching.delivered : Searching D → ℕ
  | .entry before _ _ => before.length + 1
  | .exhausted seen _ => seen.length
  | _ => 0

/-- The node was taken out of the table. -/
def Searching.Deleted : Searching D → Prop
  | .deleted _ => True
  | _ => False

/-- No error has been read, and so no deletion is due. -/
def never (_ : List D) (_ : DWORD) : Prop := False

/-- The directory has nothing in it, and was listed to its end. -/
def nothingInIt (seen : List FindDataW) (error : DWORD) : Prop :=
  (∀ d ∈ seen, ¬ RealEntry d.cFileName) ∧ error = ERROR_NO_MORE_FILES

section

variable {env : Env} {due : List D → DWORD → Prop} {α : Type} {Q : α → Searching D → Prop}

/-- The error that was read. -/
def Searching.error : Searching D → Option DWORD
  | .refused error | .exhausted _ error | .closed _ error => error
  | _ => none

/-- A callback ends settled, or has gone round more often than there was fuel for. -/
structure Ended (fuel : ℕ) (r : Returned) (q : Searching D) : Prop where
  settled : r ≠ .unfinished → q.Settled
  unfinished : r = .unfinished → fuel < q.delivered

theorem ended_status {fuel : ℕ} {status : NTSTATUS} {q : Searching D} (hq : q.Settled) :
    Ended fuel (.status status) q where
  settled _ := hq
  unfinished h := by cases h

theorem ended_outside {fuel : ℕ} : Ended fuel .outside (.idle : Searching D) where
  settled _ := trivial
  unfinished h := by cases h

/-! ## The ends -/

/-- Nothing was found. -/
theorem follows_refused {format : String} :
    Follows (Allowed due) after (refused env format) (.refused none) fun r q =>
      ∃ error, q = .refused (some error) ∧ r = .status (env.ntStatusFromWin32 error) := by
  refine follows_call.mpr ⟨trivial, ?_⟩
  intro error
  refine follows_call.mpr ⟨trivial, ?_⟩
  intro _
  exact follows_pure.mpr ⟨error, rfl, rfl⟩

/-- The error that ended a search is read, the handle closed, and the error judged. -/
theorem follows_judged {seen : List D} {expected : DWORD} {format : String} {last : FindOp D Returned}
    {Q : Returned → Searching D → Prop}
    (herror : ∀ error, error ≠ expected →
      Q (.status (env.ntStatusFromWin32 error)) (.closed seen (some error)))
    (hlast : Follows (Allowed due) after last (.closed seen (some expected)) Q) :
    Follows (Allowed due) after
      (do
        let error ← Prog.perform FindCall.getLastError
        Prog.perform FindCall.findClose
        if error ≠ expected then reportError env format error else last)
      (.exhausted seen none) Q := by
  refine follows_call.mpr ⟨trivial, ?_⟩
  intro error
  refine follows_call.mpr ⟨trivial, ?_⟩
  intro _
  split
  · next hne =>
      refine follows_call.mpr ⟨trivial, ?_⟩
      intro _
      exact follows_pure.mpr (herror error hne)
  · next heq =>
      rw [ne_eq, not_not] at heq
      subst heq
      exact hlast

/-! ## The loops -/

/-- The `do` of `MirrorFindFiles`. -/
theorem follows_fillFiles {fileName : WString} {fuel : ℕ} :
    ∀ {before : List FindDataW} {d : FindDataW} {count : DWORD},
      Follows (Allowed never) after (fillFiles fileName fuel d count) (.entry before d false) fun r q =>
        match r with
        | none => q.delivered = before.length + 1 + fuel
        | some _ => ∃ seen, q = .exhausted seen none := by
  induction fuel with
  | zero =>
      intro before d count
      exact rfl
  | succ fuel ih =>
      intro before d count
      refine follows_onlyIf_bind (S := fun q => ∃ handed, q = .entry before d handed) ?_ (fun _ => ⟨false, rfl⟩) ?_
      · intro _
        refine follows_call.mpr ⟨⟨rfl, rfl⟩, ?_⟩
        intro _
        exact follows_pure.mpr ⟨true, rfl⟩
      · rintro _ ⟨handed, rfl⟩
        refine follows_call.mpr ⟨trivial, ?_⟩
        intro next
        cases next with
        | none => exact follows_pure.mpr ⟨_, rfl⟩
        | some d' =>
            refine ih.mono ?_
            intro r q h
            cases r with
            | none =>
                have hlength : (before ++ [d]).length = before.length + 1 := List.length_append
                omega
            | some count => exact h

/-- The `while` of `MirrorFindStreams`. -/
theorem follows_fillStreams {fuel : ℕ} :
    ∀ {before : List FindStreamData} {d : FindStreamData} {handed : Bool} {count : DWORD},
      Follows (Allowed never) after (fillStreams fuel count) (.entry before d handed) fun r q =>
        match r with
        | none => q.delivered = before.length + 1 + fuel
        | some (true, _) => ∃ seen, q = .exhausted seen none
        | some (false, _) => ∃ before d handed, q = .entry before d handed := by
  induction fuel with
  | zero =>
      intro before d handed count
      exact rfl
  | succ fuel ih =>
      intro before d handed count
      refine follows_call.mpr ⟨trivial, ?_⟩
      intro next
      cases next with
      | none => exact follows_pure.mpr ⟨_, rfl⟩
      | some d' =>
          refine follows_call.mpr ⟨⟨rfl, rfl⟩, ?_⟩
          intro taken
          cases taken with
          | false => exact follows_pure.mpr ⟨_, _, _, rfl⟩
          | true =>
              refine ih.mono ?_
              intro r q h
              match r, h with
              | none, h =>
                  have hlength : (before ++ [d]).length = before.length + 1 := List.length_append
                  omega
              | some (true, _), h => exact h
              | some (false, _), h => exact h

/-- How the `do` of `DeleteDirectory` ends: out of fuel, with an entry in hand, or with none left. -/
def Looked (fuel : ℕ) (before : List FindDataW) : Option (Option FindDataW) → Searching FindDataW → Prop
  | none, q => q.delivered = before.length + 1 + fuel
  | some (some _), q => ∃ before d handed, q = .entry before d handed
  | some none, q => ∃ seen, q = .exhausted (before ++ seen) none ∧ ∀ d ∈ seen, ¬ RealEntry d.cFileName

/-- One entry further on. -/
theorem Looked.cons {fuel : ℕ} {before : List FindDataW} {d : FindDataW} {r : Option (Option FindDataW)}
    {q : Searching FindDataW} (hd : ¬ RealEntry d.cFileName) (h : Looked fuel (before ++ [d]) r q) :
    Looked (fuel + 1) before r q := by
  cases r with
  | none =>
      have hlength : (before ++ [d]).length = before.length + 1 := List.length_append
      have hdelivered : q.delivered = (before ++ [d]).length + 1 + fuel := h
      show q.delivered = before.length + 1 + (fuel + 1)
      omega
  | some found =>
      cases found with
      | some _ => exact h
      | none =>
          obtain ⟨seen, hq, hseen⟩ := h
          refine ⟨d :: seen, ?_, ?_⟩
          · rw [hq, List.append_assoc]
            rfl
          · intro d' hd'
            cases hd' with
            | head => exact hd
            | tail _ hd' => exact hseen d' hd'

/-- The `do` of `DeleteDirectory`. -/
theorem follows_findRealEntry {fuel : ℕ} :
    ∀ {before : List FindDataW} {d : FindDataW} {handed : Bool},
      Follows (Allowed nothingInIt) after (findRealEntry fuel d) (.entry before d handed)
        (Looked fuel before) := by
  induction fuel with
  | zero =>
      intro before d handed
      exact rfl
  | succ fuel ih =>
      intro before d handed
      unfold findRealEntry
      split
      · exact follows_pure.mpr ⟨_, _, _, rfl⟩
      · next hreal =>
          refine follows_call.mpr ⟨trivial, ?_⟩
          intro next
          cases next with
          | none =>
              refine follows_pure.mpr ⟨[d], rfl, ?_⟩
              intro d' hd'
              cases List.mem_singleton.mp hd'
              exact hreal
          | some d' => exact ih.mono fun _ _ h => h.cons hreal

/-! ## The callbacks -/

/-- A handle is closed as soon as nothing more is asked of it. -/
theorem follows_withPattern {due : List FindDataW → DWORD → Prop} {filePath : List (BitVec 16)}
    {search : List (BitVec 16) → FindOp FindDataW Returned} {Q : Returned → Searching FindDataW → Prop}
    (houtside : Q .outside .idle) (hoverflow : Q (.status STATUS_BUFFER_OVERFLOW) .idle)
    (hsearch : ∀ filePath, Follows (Allowed due) after (search filePath) .idle Q) :
    Follows (Allowed due) after (withPattern filePath search) .idle Q := by
  unfold withPattern
  cases hw : wildcard filePath with
  | none => exact follows_pure.mpr houtside
  | some made =>
      cases made with
      | error status =>
          rw [wildcard_error hw]
          exact follows_pure.mpr hoverflow
      | ok filePath => exact hsearch filePath

theorem follows_mirrorFindFiles {fuel : ℕ} {fileName : WString} :
    Follows (Allowed never) after (mirrorFindFiles env fuel fileName) .idle (Ended fuel) := by
  refine follows_call.mpr ⟨trivial, ?_⟩
  intro filePath
  refine follows_call.mpr ⟨trivial, ?_⟩
  intro _
  refine follows_withPattern ended_outside (ended_status trivial) ?_
  intro filePath
  refine follows_call.mpr ⟨trivial, ?_⟩
  intro first
  cases first with
  | none =>
      refine follows_refused.mono ?_
      rintro _ _ ⟨error, rfl, rfl⟩
      exact ended_status trivial
  | some d =>
      refine follows_bind (follows_fillFiles.mono ?_)
      intro count q h
      cases count with
      | none =>
          refine follows_pure.mpr ⟨fun hne => absurd rfl hne, fun _ => ?_⟩
          have hlength : ([] : List FindDataW).length = 0 := rfl
          omega
      | some count =>
          obtain ⟨seen, rfl⟩ := h
          refine follows_judged (fun _ _ => ended_status trivial) ?_
          refine follows_call.mpr ⟨trivial, ?_⟩
          intro _
          exact follows_pure.mpr (ended_status trivial)

theorem follows_mirrorFindStreams {fuel : ℕ} {fileName : WString} :
    Follows (Allowed never) after (mirrorFindStreams env fuel fileName) .idle (Ended fuel) := by
  refine follows_call.mpr ⟨trivial, ?_⟩
  intro filePath
  refine follows_call.mpr ⟨trivial, ?_⟩
  intro _
  refine follows_call.mpr ⟨trivial, ?_⟩
  intro first
  cases first with
  | none =>
      refine follows_refused.mono ?_
      rintro _ _ ⟨error, rfl, rfl⟩
      exact ended_status trivial
  | some d =>
      refine follows_bind ?_
      refine follows_call.mpr ⟨⟨rfl, rfl⟩, ?_⟩
      intro taken
      -- without room for the next entry, the last error is read and dropped
      have hfull : ∀ (before : List FindStreamData) (d : FindStreamData) (handed : Bool) (count : DWORD),
          Follows (Allowed never) after
            (do
              let error ← Prog.perform FindCall.getLastError
              Prog.perform FindCall.findClose
              if false = false then do
                print "\tFindStreams returned %d entries in %s with STATUS_BUFFER_OVERFLOW\n\n"
                  [.num count, .buffer (Subtype.val filePath)]
                pure (.status STATUS_BUFFER_OVERFLOW)
              else if error ≠ ERROR_HANDLE_EOF then
                reportError env "\tFindNextStreamW error. Error is %u\n\n" error
              else do
                print "\tFindStreams return %d entries in %s\n\n"
                  [.num count, .buffer (Subtype.val filePath)]
                pure (.status STATUS_SUCCESS))
            (.entry before d handed) (Ended fuel) := by
        intro before d handed count
        refine follows_call.mpr ⟨trivial, ?_⟩
        intro error
        refine follows_call.mpr ⟨trivial, ?_⟩
        intro _
        refine follows_call.mpr ⟨trivial, ?_⟩
        intro _
        exact follows_pure.mpr (ended_status trivial)
      cases taken with
      | false => exact follows_pure.mpr (hfull _ _ _ _)
      | true =>
          refine follows_fillStreams.mono ?_
          intro filled q h
          match filled, h with
          | none, h =>
              refine follows_pure.mpr ⟨fun hne => absurd rfl hne, fun _ => ?_⟩
              have hlength : ([] : List FindStreamData).length = 0 := rfl
              omega
          | some (false, count), ⟨before, d, handed, hq⟩ =>
              rw [hq]
              exact hfull _ _ _ _
          | some (true, count), ⟨seen, hq⟩ =>
              rw [hq]
              refine follows_judged (fun _ _ => ended_status trivial) ?_
              refine follows_call.mpr ⟨trivial, ?_⟩
              intro _
              exact follows_pure.mpr (ended_status trivial)

/-- What `DeleteDirectory` comes to, where it is to delete. -/
structure Decided (env : Env) (r : Returned) (q : Searching FindDataW) : Prop where
  deleted : q.Deleted → r = .status STATUS_SUCCESS
  success : r = .status STATUS_SUCCESS →
    q.Deleted ∨ ∃ error, q.error = some error ∧ r = .status (env.ntStatusFromWin32 error)

theorem follows_deleteDirectory {fuel : ℕ} {fileName : WString} {info : DokanFileInfo} :
    Follows (Allowed nothingInIt) after (deleteDirectory env fuel fileName info) .idle fun r q =>
      Ended fuel r q ∧ (info.deleteOnClose = true → Decided env r q) := by
  have hstatus : ∀ {status : NTSTATUS} {q : Searching FindDataW}, q.Settled → ¬ q.Deleted →
      (status = STATUS_SUCCESS → ∃ error, q.error = some error ∧ status = env.ntStatusFromWin32 error) →
      Ended fuel (.status status) q ∧ (info.deleteOnClose = true → Decided env (.status status) q) := by
    intro status q hq hdeleted hsuccess
    refine ⟨ended_status hq, fun _ => ⟨fun h => absurd h hdeleted, ?_⟩⟩
    intro h
    obtain ⟨error, herror, rfl⟩ := hsuccess (by cases h; rfl)
    exact .inr ⟨error, herror, rfl⟩
  refine follows_call.mpr ⟨trivial, ?_⟩
  intro filePath
  refine follows_call.mpr ⟨trivial, ?_⟩
  intro _
  split
  · next hclose =>
      refine follows_pure.mpr ⟨ended_status trivial, ?_⟩
      intro h
      rw [hclose] at h
      cases h
  · have hundecided : Decided env .outside .idle := by
      constructor
      · intro h
        cases h
      · intro h
        cases h
    refine follows_withPattern ⟨ended_outside, fun _ => hundecided⟩ (hstatus trivial id fun h => absurd h (by decide)) ?_
    intro filePath
    refine follows_call.mpr ⟨trivial, ?_⟩
    intro first
    cases first with
    | none =>
        refine follows_refused.mono ?_
        rintro _ _ ⟨error, rfl, rfl⟩
        exact hstatus trivial id fun _ => ⟨error, rfl, rfl⟩
    | some d =>
        refine follows_bind (follows_findRealEntry.mono ?_)
        intro stopped q h
        cases stopped with
        | none =>
            have hdelivered : q.delivered = 0 + 1 + fuel := h
            refine follows_pure.mpr ⟨⟨fun hne => absurd rfl hne, fun _ => by omega⟩, fun _ => ⟨?_, fun h => by cases h⟩⟩
            intro hdeleted
            cases q with
            | deleted seen =>
                have hnone : 0 = 0 + 1 + fuel := hdelivered
                omega
            | _ => cases hdeleted
        | some found =>
            cases found with
            | some found =>
                obtain ⟨before, d, handed, hq⟩ := h
                rw [hq]
                refine follows_call.mpr ⟨trivial, ?_⟩
                intro _
                refine follows_call.mpr ⟨trivial, ?_⟩
                intro _
                exact follows_pure.mpr (hstatus trivial id fun h => absurd h (by decide))
            | none =>
                obtain ⟨seen, hq, hseen⟩ := h
                rw [hq, List.nil_append]
                refine follows_judged (fun error _ => hstatus trivial id fun _ => ⟨error, rfl, rfl⟩) ?_
                refine follows_call.mpr ⟨⟨hseen, rfl⟩, ?_⟩
                intro _
                exact follows_pure.mpr ⟨ended_status trivial, fun _ => ⟨fun _ => rfl, fun _ => .inl trivial⟩⟩

end

/-! ## The listing behind the handle -/

/-- What the phase says of a listing that was `s₀` when the search began. -/
def Tracks (due : List D → DWORD → Prop) (s₀ : Search D) : Searching D → Search D → Prop
  | .idle, s => s.coming = s₀.coming ∧ s.final = s₀.final
  | .refused none, s => s.lastError = s₀.final.1
  | .refused (some error), _ => error = s₀.final.1
  | .entry before d _, s => before ++ d :: s.coming = s₀.coming ∧ s.final = s₀.final
  | .exhausted seen none, s => seen = s₀.coming ∧ s.lastError = s₀.final.1
  | .exhausted seen (some error), _ => seen = s₀.coming ∧ error = s₀.final.1
  | .closed _ none, _ => True
  | .closed seen (some error), _ => seen = s₀.coming ∧ error = s₀.final.1
  | .deleted seen, _ => seen = s₀.coming ∧ due seen s₀.final.1

section

variable {env : Env} {due : List D → DWORD → Prop} {s₀ s s' : Search D} {q : Searching D}
  {c : FindCall D} {r : FindAnswer c}

/-- **A step** takes the listing where the phase says. -/
theorem Tracks.step (hallowed : Allowed due q c) (ht : Tracks due s₀ q s) (h : Loops.step env s c r s') :
    Tracks due s₀ (after q ⟨c, r⟩) s' := by
  cases q with
  | idle =>
      cases c with
      | getFilePath _ =>
          obtain ⟨-, rfl⟩ := h
          exact ht
      | print _ _ =>
          obtain ⟨e, -, rfl⟩ := h
          exact ht
      | findFirst _ =>
          obtain ⟨hcoming, hfinal⟩ := ht
          obtain ⟨-, rfl, rfl⟩ | ⟨d, coming, e, hd, rfl, rfl⟩ := Search.Next.cases h
          · exact congrArg Subtype.val hfinal
          · exact ⟨hd.symm.trans hcoming, hfinal⟩
      | _ => exact False.elim hallowed
  | refused error =>
      cases error with
      | none =>
          cases c with
          | getLastError =>
              obtain ⟨rfl, rfl⟩ := h
              exact ht
          | _ => exact False.elim hallowed
      | some error =>
          cases c with
          | print _ _ => exact ht
          | _ => exact False.elim hallowed
  | entry before d handed =>
      cases c with
      | fill _ =>
          obtain ⟨rfl, -⟩ := hallowed
          obtain ⟨e, rfl⟩ := h
          exact ht
      | findNext =>
          obtain ⟨hcoming, hfinal⟩ := ht
          obtain ⟨hd, rfl, rfl⟩ | ⟨d', coming, e, hd, rfl, rfl⟩ := Search.Next.cases h
          · rw [hd] at hcoming
            exact ⟨hcoming, congrArg Subtype.val hfinal⟩
          · rw [hd] at hcoming
            refine ⟨?_, hfinal⟩
            rw [List.append_assoc]
            exact hcoming
      | getLastError =>
          obtain ⟨-, rfl⟩ := h
          exact ht
      | findClose => trivial
      | _ => exact False.elim hallowed
  | exhausted seen error =>
      cases error with
      | none =>
          cases c with
          | getLastError =>
              obtain ⟨rfl, rfl⟩ := h
              exact ht
          | _ => exact False.elim hallowed
      | some error =>
          cases c with
          | findClose => exact ht
          | _ => exact False.elim hallowed
  | closed seen error =>
      cases error with
      | none =>
          cases c with
          | print _ _ => trivial
          | _ => exact False.elim hallowed
      | some error =>
          cases c with
          | print _ _ => exact ht
          | deleteFileNode _ =>
              obtain ⟨hseen, rfl⟩ := ht
              exact ⟨hseen, hallowed⟩
          | _ => exact False.elim hallowed
  | deleted seen => cases c <;> exact False.elim hallowed

/-- No more entries come than there are. -/
theorem Tracks.delivered_le (ht : Tracks due s₀ q s) : q.delivered ≤ s₀.coming.length := by
  match q, ht with
  | .entry before d _, ⟨hcoming, _⟩ =>
      rw [← hcoming]
      simp [Searching.delivered]
  | .exhausted seen none, ⟨hseen, _⟩ => exact Nat.le_of_eq (congrArg List.length hseen)
  | .exhausted seen (some _), ⟨hseen, _⟩ => exact Nat.le_of_eq (congrArg List.length hseen)
  | .idle, _ | .refused _, _ | .closed _ _, _ | .deleted _, _ => exact Nat.zero_le _

/-- An error that was read is the one that ended the search. -/
theorem Tracks.error_eq {error : DWORD} (ht : Tracks due s₀ q s) (h : q.error = some error) :
    error = s₀.final.1 := by
  match q, ht, h with
  | .refused (some _), ht, rfl => exact ht
  | .exhausted _ (some _), ht, rfl => exact ht.2
  | .closed _ (some _), ht, rfl => exact ht.2

/-- A search once begun stays so, and it is begun by its first call. -/
theorem begun_foldl {tr : FindTrace D} : (tr.foldl after q).Begun ↔ q.Begun ∨ searched tr ≠ [] := by
  induction tr generalizing q with
  | nil => simp
  | cons e tr ih =>
      obtain ⟨c, r⟩ := e
      rw [List.foldl_cons, ih]
      cases q with
      | idle =>
          cases c with
          | findFirst filePath => cases r <;> simp [after, Searching.Begun]
          | _ => rfl
      | refused error => cases c <;> simp [after, Searching.Begun]
      | entry before d handed =>
          cases c with
          | findNext => cases r <;> simp [after, Searching.Begun]
          | _ => simp [after, Searching.Begun]
      | exhausted seen error => cases c <;> simp [after, Searching.Begun]
      | closed seen error => cases c <;> simp [after, Searching.Begun]
      | deleted seen => cases c <;> simp [after, Searching.Begun]

/-- The calls of a run are those of its phases, there is a search if there is to be one, and it ends with
no handle open and no refusal unexplained. -/
structure Orderly (due : List D → DWORD → Prop) (searches : Prop) (tr : FindTrace D) (r : Returned) :
    Prop where
  inOrder : InOrder (Allowed due) after .idle tr
  begun : (tr.foldl after .idle).Begun ↔ searches
  settled : (tr.foldl after .idle).Settled
  finished : r ≠ .unfinished

/-- **A run** of a callback that follows the protocol, with fuel for every entry. -/
theorem orderly_of_follows {searches : Prop} {fuel : ℕ} {p : FindOp D Returned} {P : Returned → Searching D → Prop}
    (hfuel : s.coming.length ≤ fuel)
    (h : Follows (Allowed due) after p .idle fun r q => Ended fuel r q ∧ P r q)
    (hsearched : Sat (Loops.step env) p s fun tr _ _ => searched tr ≠ [] ↔ searches) :
    Sat (Loops.step env) p s fun tr r s' =>
      Orderly due searches tr r ∧ P r (tr.foldl after .idle) ∧ Tracks due s (tr.foldl after .idle) s' := by
  intro tr r s' hrun
  obtain ⟨horder, hended, hP⟩ := h.inOrder hrun
  have htracks : Tracks due s (tr.foldl after .idle) s' :=
    horder.final (fun _ _ _ _ _ hallowed ht hstep => ht.step hallowed hstep) ⟨rfl, rfl⟩ hrun
  have hfinished : r ≠ .unfinished := by
    intro hr
    have hmore := hended.unfinished hr
    have hle := htracks.delivered_le
    omega
  have hbegun : (tr.foldl after .idle).Begun ↔ searches :=
    begun_foldl.trans ((or_iff_right id).trans (hsearched tr r s' hrun))
  exact ⟨⟨horder, hbegun, hended.settled hfinished, hfinished⟩, hP, htracks⟩

end

/-- A directory is taken out of the table exactly where a success is reported, and then it was listed to
its end and there is nothing in it. -/
structure DeletesEmpty (files : Search FindDataW) (tr : FindTrace FindDataW) (r : Returned) : Prop where
  success_iff : r = .status STATUS_SUCCESS ↔ (tr.foldl after .idle).Deleted
  empty : (tr.foldl after .idle).Deleted → nothingInIt files.coming files.final.1

theorem deletesEmpty {env : Env} {files s' : Search FindDataW} {tr : FindTrace FindDataW} {r : Returned}
    (h : Decided env r (tr.foldl after .idle))
    (ht : Tracks nothingInIt files (tr.foldl after .idle) s') : DeletesEmpty files tr r where
  success_iff := by
    refine ⟨fun hr => ?_, h.deleted⟩
    rcases h.success hr with hdeleted | ⟨error, herror, hstatus⟩
    · exact hdeleted
    · rw [ht.error_eq herror, hr] at hstatus
      injection hstatus with hstatus
      exact absurd hstatus.symm (env.ntStatus_error _ files.final.2)
  empty := by
    intro hdeleted
    generalize tr.foldl after .idle = q at ht hdeleted
    cases q with
    | deleted seen =>
        obtain ⟨rfl, hnothing⟩ := ht
        exact hnothing
    | _ => cases hdeleted

/-! ## What is searched for -/

section

variable {env : Env} {fuel : ℕ} {fileName path : WString} {tr : FindTrace D} {r : Returned}

theorem PatternMade.searched_iff (h : PatternMade path tr r) :
    searched tr ≠ [] ↔ Fits (searchPattern path) := by
  by_cases hfits : Fits (searchPattern path)
  · obtain ⟨filePath, hsearched, -⟩ := h.passed hfits
    rw [hsearched]
    exact iff_of_true (List.cons_ne_nil _ _) hfits
  · exact iff_of_false (not_not.mpr (h.overflow hfits).1) hfits

theorem searched_mirrorFindStreams {s : Search FindStreamData} :
    Sat (step env) (mirrorFindStreams env fuel fileName) s fun tr _ _ => searched tr ≠ [] ↔ True := by
  have hwatch : Watch (step env) FindCall.seen (mirrorFindStreams env fuel fileName) s fun tr _ _ =>
      searched tr ≠ [] := by
    refine (watch_call_of_not rfl).mpr ?_
    intro filePath s₁ _
    refine (watch_call_of_not rfl).mpr ?_
    intro _ s₂ _
    refine (watch_call rfl).mpr ?_
    intro first s₃ _ tr r s₄ _
    exact List.cons_ne_nil _ _
  intro tr r s' hrun
  have hne : searched (watched FindCall.seen tr) ≠ [] := hwatch tr r s' hrun
  rw [searched_watched] at hne
  exact iff_true_intro hne

/-- Without the flag nothing is looked for. -/
theorem searched_deleteDirectory {info : DokanFileInfo} {s : Search FindDataW}
    (hpath : getFilePath env.globals DOKAN_MAX_PATH fileName = some path) (hne : path ≠ []) :
    Sat (step env) (deleteDirectory env fuel fileName info) s fun tr _ _ =>
      searched tr ≠ [] ↔ info.deleteOnClose = true ∧ Fits (searchPattern path) := by
  cases hdelete : info.deleteOnClose with
  | true =>
      refine Sat.mono (sat_deleteDirectory_pattern hpath hne hdelete) fun tr r _ h => ?_
      rw [h.searched_iff, eq_self, true_and]
  | false =>
      have hwatch : Watch (step env) FindCall.seen (deleteDirectory env fuel fileName info) s fun tr _ _ =>
          searched tr = [] := by
        refine (watch_call_of_not rfl).mpr ?_
        intro filePath s₁ _
        refine (watch_call_of_not rfl).mpr ?_
        intro _ s₂ _
        rw [hdelete, if_pos rfl]
        exact watch_pure.mpr rfl
      intro tr r s' hrun
      have hnothing : searched (watched FindCall.seen tr) = [] := hwatch tr r s' hrun
      rw [searched_watched] at hnothing
      exact iff_of_false (not_not.mpr hnothing) fun h => Bool.false_ne_true h.1

end

end Loops

end SeamlessSmb
