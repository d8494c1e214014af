/-
# `FileOps.Wildcard` — a path in its buffer, and the search pattern made of it

`MirrorFindFiles` and `DeleteDirectory` keep the path in an array of `DOKAN_MAX_PATH` characters
and make the pattern for `FindFirstFile` in the same array: a backslash where the path does not
end in one, an asterisk, a NUL.  The backslash is stored, and the length counted up, before there
is a look at whether the rest fits.

| source | here |
| :-- | :-- |
| `WCHAR filePath[DOKAN_MAX_PATH]` | a block of cells (`Block`), with what `GetFilePath` left in it |
| `filePath[i]` outside the array | `none` |

**Proved here:** no cell outside is touched, and the array ends up with the pattern, or the
overflow is reported if that does not fit (`wildcard_holds`, `wildcard_overflow`).
-/
import SeamlessSmb.Lib.Block
import SeamlessSmb.FileOps.Delete

namespace SeamlessSmb

open Block

/-- The characters of a string, as they stand in memory. -/
def cells (s : WString) : List (BitVec 16) := s.map Subtype.val

/-- The array holds the string, with its NUL. -/
def HoldsPath (filePath : List (BitVec 16)) (s : WString) : Prop := upTo 0 filePath = some (cells s)

/-- The string and its NUL find room in a path's array. -/
def Fits (s : WString) : Prop := s.length < DOKAN_MAX_PATH

instance (s : WString) : Decidable (Fits s) := inferInstanceAs (Decidable (_ < _))

/-- `filePath[fileLen - 1]`. -/
def cellBefore (filePath : List (BitVec 16)) : ℕ → Option (BitVec 16)
  | 0 => none
  | fileLen + 1 => filePath[fileLen]?

/-- The path is made to end in a backslash; with its length, as it is counted up. -/
def appendBackslash (filePath : List (BitVec 16)) : Option (List (BitVec 16) × ℕ) := do
  let fileLen ← (upTo 0 filePath).map List.length
  let last ← cellBefore filePath fileLen
  if last ≠ backslash.1 then do
    let filePath ← write filePath fileLen (cells [backslash])
    some (filePath, fileLen + 1)
  else some (filePath, fileLen)

/-- The lines before `FindFirstFile`, in both functions. -/
def wildcard (filePath : List (BitVec 16)) : Option (Except NTSTATUS (List (BitVec 16))) := do
  let (filePath, fileLen) ← appendBackslash filePath
  if fileLen + 1 ≥ DOKAN_MAX_PATH then some (.error STATUS_BUFFER_OVERFLOW)
  else do
    let filePath ← write filePath fileLen (cells (wide ['*']))
    let filePath ← write filePath (fileLen + 1) [0]
    some (.ok filePath)

/-- The pattern for what is in a directory. -/
def searchPattern (path : WString) : WString := withBackslash path ++ wide ['*']

section

variable {filePath : List (BitVec 16)} {path : WString}

theorem length_cells {s : WString} : (cells s).length = s.length := List.length_map _

theorem cells_append {s t : WString} : cells (s ++ t) = cells s ++ cells t := List.map_append

theorem zero_notMem_cells {s : WString} : (0 : BitVec 16) ∉ cells s := by
  intro h
  obtain ⟨c, -, hc⟩ := List.mem_map.mp h
  exact c.2 hc

theorem withBackslash_concat {front : WString} {c : WCHAR} :
    withBackslash (front ++ [c]) =
      if c.1 ≠ backslash.1 then front ++ [c] ++ [backslash] else front ++ [c] := by
  unfold withBackslash
  rw [List.getLast?_concat]
  by_cases hc : c = backslash
  · simp [hc]
  · have hne : c.1 ≠ backslash.1 := fun h => hc (Subtype.ext h)
    simp [hc, hne]

/-- The last character of the path is looked at. -/
theorem cellBefore_concat {front : WString} {c : WCHAR} (h : HoldsPath filePath (front ++ [c])) :
    cellBefore filePath (front ++ [c]).length = some c.1 := by
  obtain ⟨-, behind, rfl⟩ := upTo_eq_some.mp h
  rw [List.length_append, List.length_singleton, cells_append, List.append_assoc]
  show (cells front ++ (cells [c] ++ 0 :: behind))[front.length]? = some c.1
  rw [List.getElem?_append_right (Nat.le_of_eq length_cells), length_cells, Nat.sub_self]
  rfl

/-- What comes behind the path then, with a NUL, continues it. -/
theorem appendBackslash_eq (hsize : filePath.length = DOKAN_MAX_PATH) (hpath : HoldsPath filePath path)
    (hne : path ≠ []) : ∃ m, appendBackslash filePath = some (m, (withBackslash path).length) ∧
      m.length = DOKAN_MAX_PATH ∧ ∀ t m', write m (withBackslash path).length (cells t ++ [0]) = some m' →
        HoldsPath m' (withBackslash path ++ t) := by
  obtain ⟨front, c, rfl⟩ : ∃ front c, path = front ++ [c] :=
    ⟨_, _, (List.dropLast_append_getLast hne).symm⟩
  have hlen : (upTo 0 filePath).map List.length = some (front ++ [c]).length := by
    rw [show upTo 0 filePath = _ from hpath, Option.map_some, length_cells]
  have hcells : (front ++ [c]).length = (cells (front ++ [c])).length := length_cells.symm
  have hroom : (cells (front ++ [c])).length < filePath.length := length_of_upTo hpath
  unfold appendBackslash
  simp only [hlen, cellBefore_concat hpath, Option.bind_eq_bind, Option.bind_some]
  rw [withBackslash_concat]
  by_cases hc : c.1 = backslash.1
  · refine ⟨filePath, ?_, hsize, ?_⟩
    · simp [hc]
    · intro t m' hwrite
      rw [if_neg (not_not.mpr hc)] at hwrite ⊢
      rw [hcells] at hwrite
      have hmore := upTo_of_write hpath zero_notMem_cells hwrite
      rwa [← cells_append] at hmore
  · have hin : Within (front ++ [c]).length (cells [backslash]).length filePath.length := by
      rw [hcells]
      exact hroom
    obtain ⟨m, hm⟩ := exists_write hin
    have hlonger : (front ++ [c] ++ [backslash]).length = (front ++ [c]).length + 1 := List.length_append
    refine ⟨m, ?_, (length_of_write hm).trans hsize, ?_⟩
    · rw [if_pos hc, if_pos hc, hm, hlonger]
      rfl
    · intro t m' hwrite
      rw [if_pos hc] at hwrite ⊢
      rw [hlonger] at hwrite
      have hall := write_append hm hwrite
      rw [hcells, ← List.append_assoc, ← cells_append] at hall
      have hmore := upTo_of_write hpath zero_notMem_cells hall
      rwa [← cells_append, ← List.append_assoc] at hmore

/-- It is the overflow that is reported, if anything. -/
theorem wildcard_error {status : NTSTATUS} (h : wildcard filePath = some (.error status)) :
    status = STATUS_BUFFER_OVERFLOW := by
  obtain ⟨⟨m, fileLen⟩, -, h⟩ := Option.bind_eq_some_iff.mp h
  dsimp only at h
  by_cases hroom : fileLen + 1 ≥ DOKAN_MAX_PATH
  · rw [if_pos hroom] at h
    cases h
    rfl
  · rw [if_neg hroom] at h
    obtain ⟨m', -, h⟩ := Option.bind_eq_some_iff.mp h
    obtain ⟨m'', -, h⟩ := Option.bind_eq_some_iff.mp h
    cases h

/-- **The pattern** is in the array, if it fits. -/
theorem wildcard_holds (hsize : filePath.length = DOKAN_MAX_PATH) (hpath : HoldsPath filePath path)
    (hne : path ≠ []) (hfits : Fits (searchPattern path)) :
    ∃ pattern, wildcard filePath = some (.ok pattern) ∧ HoldsPath pattern (searchPattern path) := by
  obtain ⟨m, hm, hsize', hmore⟩ := appendBackslash_eq hsize hpath hne
  have hroom : (withBackslash path).length + 1 < DOKAN_MAX_PATH := by
    unfold Fits searchPattern at hfits
    rwa [List.length_append] at hfits
  have hone : (cells (wide ['*'])).length = 1 := rfl
  have hasterisk : Within (withBackslash path).length (cells (wide ['*'])).length m.length := by
    rw [hone, hsize']
    exact Nat.le_of_lt hroom
  obtain ⟨m', h'⟩ := exists_write hasterisk
  have hnul : Within ((withBackslash path).length + 1) [(0 : BitVec 16)].length m'.length := by
    rw [length_of_write h', hsize']
    exact hroom
  obtain ⟨m'', h''⟩ := exists_write hnul
  refine ⟨m'', ?_, hmore (wide ['*']) m'' (write_append h' h'')⟩
  unfold wildcard
  simp only [hm, h', h'', Option.bind_eq_bind, Option.bind_some]
  exact if_neg (Nat.not_le.mpr hroom)

/-- **Too long a pattern** is reported. -/
theorem wildcard_overflow (hsize : filePath.length = DOKAN_MAX_PATH) (hpath : HoldsPath filePath path)
    (hne : path ≠ []) (hfits : ¬ Fits (searchPattern path)) :
    wildcard filePath = some (.error STATUS_BUFFER_OVERFLOW) := by
  obtain ⟨m, hm, -, -⟩ := appendBackslash_eq hsize hpath hne
  have hroom : (withBackslash path).length + 1 ≥ DOKAN_MAX_PATH := by
    unfold Fits searchPattern at hfits
    rw [List.length_append] at hfits
    exact Nat.le_of_not_lt hfits
  unfold wildcard
  simp only [hm, Option.bind_eq_bind, Option.bind_some]
  exact if_pos hroom

end

end SeamlessSmb
