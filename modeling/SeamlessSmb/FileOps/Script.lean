/-
# `FileOps.Script` — a callback with every outcome fixed

`step` says what a call may do.  To ask whether something has an influence on a callback,
the rest must be held fixed: a `Script` says how every call of the platform comes out, and
what the routines of the program that call it on their own account leave in the last error.
What is left open is whether debugging is on, and what the printing then does to the last
error (`Printing`); it does nothing when debugging is off (`quiet`).

Under a script and a printing a callback has at most one run, its play.  The calls are counted, and
the script is asked for the `k`-th.

A call that succeeds may leave the last error as it was.  Of `CreateFile` for the dispositions
that open or create, and of `GetFileSize` where it delivers what looks like its error value,
it is documented that they set it.

**Proved here:** a play is a run of the model (`play_run`), and a play with debugging on in
which the printing does nothing is the quiet one, unless that prints what cannot be printed
(`play_hushed`).
-/
import SeamlessSmb.Lib.Twins
import SeamlessSmb.FileOps.World

namespace SeamlessSmb

open Calls

/-- How the calls of a callback come out, by their number. -/
structure Script where
  outcome : ℕ → (c : Win32Call) → Outcome c.Value
  /-- The call leaves the last error as it was, if it succeeds. -/
  keeps : ℕ → Bool
  /-- What a routine of the program leaves in the last error. -/
  left : ℕ → DWORD → DWORD
  /-- What lies in memory nothing was written to. -/
  memory : ℕ → ℕ → Byte

/-- Whether debugging is on, and what printing makes of the last error. -/
structure Printing where
  on : Bool
  leaves : ℕ → DWORD → DWORD
  off : on = false → ∀ k e, leaves k e = e

/-- Debugging is off: nothing is printed. -/
def quiet : Printing := ⟨false, fun _ e => e, fun _ _ _ => rfl⟩

/-- The same is printed, and the last error left alone. -/
def Printing.hushed (printed : Printing) : Printing := ⟨printed.on, fun _ e => e, fun _ _ _ => rfl⟩

/-- The last error is set even by the success of the call. -/
def Win32Call.sets : (c : Win32Call) → c.Value → Bool
  | .createFile _ _ _ _ disposition _, _ => disposition = CREATE_ALWAYS ∨ disposition = OPEN_ALWAYS
  | .getFileSize _, size => size.setWidth 32 = INVALID_FILE_SIZE
  | _, _ => false

/-- A world, and how many calls were made. -/
structure Turn where
  world : World Unit
  calls : ℕ := 0

namespace Turn

/-- The call was made and left this. -/
def next (t : Turn) (w : World Unit) : Turn := { world := w, calls := t.calls + 1 }

/-- The world with another last error. -/
def leave (t : Turn) (e : DWORD) : World Unit := { t.world with lastError := e }

end Turn

namespace Script

/-- The answer of the platform, with the last error it leaves. -/
def answer (s : Script) (k : ℕ) (c : Win32Call) (lastError : DWORD) : Outcome c.Value :=
  match s.outcome k c with
  | .ok v e => .ok v (if s.keeps k = true ∧ c.sets v = false then lastError else e)
  | .fail e => .fail e

/-- So many bytes of memory. -/
def bytes (s : Script) (k n : ℕ) : List Byte := (List.range n).map (s.memory k)

/-- One call. -/
def resolve (s : Script) (env : Env) (printed : Printing) (t : Turn) :
    (c : Call) → Option (Answer c × Turn)
  | .getLastError => some (t.world.lastError, t.next t.world)
  | .setLastError error => some ((), t.next (t.leave error))
  | .print _ _ => some ((), t.next (t.leave (printed.leaves t.calls t.world.lastError)))
  | .printSD none _ => some ((), t.next t.world)
  | .printSD (some sd) _ =>
      -- `printACL` follows the pointer to the DACL
      if printed.on && env.nullDacl sd then none
      else some ((), t.next (t.leave (printed.leaves t.calls (s.left t.calls t.world.lastError))))
  | .printOwner _ =>
      some ((), t.next (t.leave (printed.leaves t.calls (s.left t.calls t.world.lastError))))
  | .invalidParameter => none
  | .makeShared node =>
      some (t.world.nodes.next,
        t.next { t.leave (s.left t.calls t.world.lastError) with
          nodes := t.world.nodes.makeShared node })
  | .findFileNode fname => some (t.world.nodes.findFileNode fname, t.next t.world)
  | .addFileNode node =>
      some ((t.world.nodes.addFileNode node).1,
        t.next { t.world with nodes := (t.world.nodes.addFileNode node).2 })
  | .rename fname newfname =>
      some ((t.world.nodes.rename fname newfname).1,
        t.next { t.world with nodes := (t.world.nodes.rename fname newfname).2 })
  | .deleteFileNode fname =>
      some ((t.world.nodes.deleteFileNode fname).1,
        t.next { t.world with nodes := (t.world.nodes.deleteFileNode fname).2 })
  | .getDescriptor p =>
      some ((t.world.nodes.heap p).security.getDescriptor env.defaultSD,
        t.next (t.leave (printed.leaves t.calls (s.left t.calls t.world.lastError))))
  | .setDescriptor p sd stray =>
      some ((),
        t.next { t.leave (printed.leaves t.calls (s.left t.calls t.world.lastError)) with
          nodes := t.world.nodes.setDescriptor env.convertSD p sd stray })
  | .createDefaultSelfRelativeSD =>
      some (env.defaultSD,
        t.next (t.leave (printed.leaves t.calls (s.left t.calls t.world.lastError))))
  | .lockData _ => some ((), t.next t.world)
  | .unlockData _ => some ((), t.next t.world)
  | .insertWriteCount h =>
      some ((), t.next { t.world with
        writeCounts := Function.update t.world.writeCounts h (some ((t.world.writeCounts h).getD 0)) })
  | .eraseWriteCount h =>
      some ((), t.next { t.world with writeCounts := Function.update t.world.writeCounts h none })
  | .writeCount h =>
      some ((t.world.writeCounts h).getD 0, t.next { t.world with
        writeCounts := Function.update t.world.writeCounts h (some ((t.world.writeCounts h).getD 0)) })
  | .setWriteCount h n =>
      some ((), t.next { t.world with writeCounts := Function.update t.world.writeCounts h (some n) })
  | .incWriteCount h =>
      some ((), t.next { t.world with
        writeCounts := Function.update t.world.writeCounts h (some ((t.world.writeCounts h).getD 0 + 1)) })
  | .readCache => some (t.world.cache, t.next t.world)
  | .copyCacheData offset count =>
      some (((t.world.cache.bzvolData ++ s.bytes t.calls (offset.toNat + count)).drop offset.toNat).take
        count, t.next t.world)
  | .allocCacheData size =>
      some ((), t.next { t.world with
        cache := { t.world.cache with
          bzvolDataLength := size.setWidth 32
          bzvolData := s.bytes t.calls size.toNat } })
  | .storeCacheData bytes =>
      some ((), t.next { t.world with
        cache := { t.world.cache with
          bzvolData := bytes ++ t.world.cache.bzvolData.drop bytes.length } })
  | .storeCacheInfo info =>
      some ((), t.next { t.world with
        cache := { t.world.cache with bzvolInfo := info, bzvolInfoSet := true } })
  | .setNotAvailable =>
      some ((), t.next { t.world with
        cache := { t.world.cache with getVolumeInformationNotAvailable := true } })
  | .win32 c =>
      some (s.answer t.calls c t.world.lastError,
        t.next (t.leave (s.answer t.calls c t.world.lastError).lastError))

/-- The run of a program: the calls it makes, what it returns, and what it leaves. -/
def play {α : Type} (s : Script) (env : Env) (printed : Printing) (p : Op α) (w : World Unit) :
    Option (Trace × α × Turn) :=
  exec (s.resolve env printed) p { world := w }

/-- The outcomes are such as the platform delivers. -/
def Allowed (s : Script) (env : Env) : Prop := ∀ k c, Win32Call.Allowed env c (s.outcome k c)

end Script

/-! ## A play is a run -/

section

variable {s : Script} {env : Env} {printed : Printing} {t u : Turn}

theorem Script.length_bytes {k n : ℕ} : (s.bytes k n).length = n := by
  unfold Script.bytes
  rw [List.length_map, List.length_range]

/-- A last error that was kept changes nothing of what is delivered. -/
theorem Script.answer_allowed (hs : s.Allowed env) {k : ℕ} {c : Win32Call} {e : DWORD} :
    Win32Call.Allowed env c (s.answer k c e) := by
  have hallowed := hs k c
  unfold Script.answer
  cases houtcome : s.outcome k c with
  | fail error =>
      rw [houtcome] at hallowed
      exact hallowed
  | ok v e' =>
      rw [houtcome] at hallowed
      cases c with
      | getFileSize handle =>
          intro hsize
          have hsets : Win32Call.sets (.getFileSize handle) v = true := decide_eq_true hsize
          rw [hsets, if_neg fun h => Bool.noConfusion h.2]
          exact hallowed hsize
      | _ => exact hallowed

/-- What the platform may do when nothing is said of it. -/
def anything : Unit → (c : Win32Call) → Outcome c.Value → Unit → Prop := fun _ _ _ _ => True

/-- The mount with debugging on or off. -/
def Env.debugging (env : Env) (on : Bool) : Env := { env with debugMode := on }

theorem resolve_faults {sd : SecurityDescriptor} {num : Int}
    (hfaults : (printed.on && env.nullDacl sd) = true) :
    s.resolve env printed t (.printSD (some sd) num) = none := if_pos hfaults

theorem resolve_printSD {sd : SecurityDescriptor} {num : Int}
    (hfine : (printed.on && env.nullDacl sd) = false) :
    s.resolve env printed t (.printSD (some sd) num) =
      some ((), t.next (t.leave (printed.leaves t.calls (s.left t.calls t.world.lastError)))) :=
  if_neg (ne_true_of_eq_false hfine)

/-- Each call does what it may do. -/
theorem resolve_step (hs : s.Allowed env) {c : Call} {r : Answer c}
    (h : s.resolve env printed t c = some (r, u)) :
    step (env.debugging printed.on) anything t.world c r u.world := by
  cases c with
  | printSD sd num =>
      cases sd with
      | none =>
          cases h
          exact ⟨rfl, _, fun _ => rfl, rfl⟩
      | some sd =>
          cases hfaults : printed.on && env.nullDacl sd with
          | true => cases (resolve_faults hfaults).symm.trans h
          | false =>
              cases (resolve_printSD hfaults).symm.trans h
              exact ⟨congrArg (!·) hfaults, _, nofun, rfl⟩
  | print format args =>
      cases h
      exact ⟨_, fun hoff => printed.off hoff _ _, rfl⟩
  | invalidParameter => cases h
  | win32 c =>
      cases h
      exact ⟨Script.answer_allowed hs, (), trivial, rfl⟩
  | copyCacheData offset count =>
      cases h
      refine ⟨⟨?_, _, rfl⟩, rfl⟩
      rw [List.length_take, List.length_drop, List.length_append, Script.length_bytes]
      omega
  | allocCacheData size =>
      cases h
      exact ⟨_, Script.length_bytes, rfl⟩
  | printOwner _ | setDescriptor _ _ _ =>
      cases h
      exact ⟨_, rfl⟩
  | makeShared _ | getDescriptor _ | createDefaultSelfRelativeSD =>
      cases h
      exact ⟨rfl, _, rfl⟩
  | getLastError | findFileNode _ | addFileNode _ | rename _ _ | deleteFileNode _ | writeCount _
  | readCache =>
      cases h
      exact ⟨rfl, rfl⟩
  | setLastError _ | lockData _ | unlockData _ | insertWriteCount _ | eraseWriteCount _
  | setWriteCount _ _ | incWriteCount _ | storeCacheData _ | storeCacheInfo _ | setNotAvailable =>
      cases h
      rfl

/-- **A play is a run** of the model, with debugging on or off as the printing says. -/
theorem play_run (hs : s.Allowed env) {α : Type} {p : Op α} {w : World Unit} {tr : Trace} {a : α}
    (h : s.play env printed p w = some (tr, a, u)) :
    Run (step (env.debugging printed.on) anything) p w tr a u.world := by
  have hexec : exec (s.resolve env printed) p { world := w } = some (tr, a, u) := h
  have hstep : ∀ t c r u, s.resolve env printed t c = some (r, u) →
      step (env.debugging printed.on) anything t.world c r u.world := fun t c r u => resolve_step hs
  have hrun : Run (fun t c r u => step (env.debugging printed.on) anything t.world c r u.world) p
      { world := w } tr a u := exec_run hstep hexec
  exact hrun.map Turn.world

/-! ## What cannot be printed -/

/-- With debugging on the call does not return. -/
def Call.faults (env : Env) : Call → Bool
  | .printSD (some sd) _ => env.nullDacl sd
  | _ => false

theorem resolve_hushed (c : Call) :
    s.resolve env printed.hushed t c =
      if (printed.on && c.faults env) = true then none else s.resolve env quiet t c := by
  have hfine : ¬ (printed.on && false) = true := by
    rw [Bool.and_false]
    exact Bool.false_ne_true
  cases c with
  | printSD sd num =>
      cases sd with
      | none => exact (if_neg hfine).symm
      | some sd => rfl
  | _ => exact (if_neg hfine).symm

/-- **Debugging on, and the last error left alone:** the play is the quiet one, unless that prints
what cannot be printed. -/
theorem play_hushed (printed : Printing) {α : Type} {p : Op α} {w : World Unit} :
    s.play env printed.hushed p w =
      (s.play env quiet p w).filter fun x => x.1.all fun e => !(printed.on && e.call.faults env) :=
  exec_guard resolve_hushed

theorem play_hushed_of_fine {α : Type} {p : Op α} {w : World Unit} {x : Trace × α × Turn}
    (hplay : s.play env quiet p w = some x) (hfine : ∀ e ∈ x.1, e.call.faults env = false) :
    s.play env printed.hushed p w = some x := by
  rw [play_hushed, hplay]
  refine Option.filter_some_pos (List.all_eq_true.mpr fun e he => ?_)
  rw [hfine e he, Bool.and_false]
  rfl

end

end SeamlessSmb
