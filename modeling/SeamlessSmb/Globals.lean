/-
# `Globals` — the settings of a mount, and the path behind a name

Every callback is given the name of a file on the mounted drive and works on a
file below the mirrored directory.  `GetFilePath` makes one out of the other: it
appends the name to `RootDirectory`, after taking the UNC prefix off if the name
carries it.

**Proved here:** what is appended (`getFilePath_eq_some`), and when the result stays
in the mirrored directory (`getFilePath_inside_iff`): always, unless the UNC name
ends in the middle of a component of the name.
-/
import SeamlessSmb.Platform.Win32

namespace SeamlessSmb

def DOKAN_MAX_PATH : Nat := 32768

/-- `Globals`. -/
structure Globals where
  rootDirectory : WString := []
  mountPoint : WString := []
  uncName : WString := []
  volname : WString := []
  caseSensitive : Bool := false
  impersonateCallerUser : Bool := false
  hasSeSecurityPrivilege : Bool := false
  deriving DecidableEq

def backslash : WCHAR := wchar '\\'

def dot : WCHAR := wchar '.'

/-- `FileOps::GetFilePath`: the contents of `filePath`, or `none` when a copy does
not fit. -/
def getFilePath (g : Globals) (numberOfElements : Nat) (fileName : WString) : Option WString :=
  match wcsncpyS numberOfElements g.rootDirectory g.rootDirectory.length with
  | none => none
  | some filePath =>
      let unclen := g.uncName.length
      if unclen > 0 ∧ wcsnicmp fileName g.uncName unclen = 0 then
        if wcsnicmp (fileName.drop unclen) [dot] 1 ≠ 0 then
          wcsncatS filePath numberOfElements (fileName.drop unclen) (fileName.length - unclen)
        else some filePath
      else wcsncatS filePath numberOfElements fileName fileName.length

/-! ## What is appended -/

/-- The name carries the UNC name in front, letter case ignored. -/
def HasUNC (uncName fileName : WString) : Prop :=
  uncName ≠ [] ∧ (fileName.take uncName.length).map towlower = uncName.map towlower

instance (u f : WString) : Decidable (HasUNC u f) := inferInstanceAs (Decidable (_ ∧ _))

/-- The part of a name that goes behind the root directory. -/
def relativePath (uncName fileName : WString) : WString :=
  if HasUNC uncName fileName then
    if (fileName.drop uncName.length).head? = some dot then [] else fileName.drop uncName.length
  else fileName

theorem towlower_eq_dot {c : WCHAR} : towlower c = towlower dot ↔ c = dot := by
  constructor
  · intro h
    have hval : (towlower c).1.toNat = 46 := by
      rw [h]
      decide
    unfold towlower at hval
    split at hval
    · next hc =>
        have hsum : (c.1 + 32).toNat = c.1.toNat + 32 := by bv_omega
        change (c.1 + 32).toNat = 46 at hval
        omega
    · exact Subtype.ext (BitVec.eq_of_toNat_eq hval)
  · exact congrArg towlower

theorem wcsnicmp_dot {s : WString} : wcsnicmp s [dot] 1 = 0 ↔ s.head? = some dot := by
  rw [wcsnicmp_eq_zero]
  cases s with
  | nil => simp
  | cons c s => simpa using towlower_eq_dot

theorem wcsnicmp_unc {u f : WString} :
    (u.length > 0 ∧ wcsnicmp f u u.length = 0) ↔ HasUNC u f := by
  rw [wcsnicmp_eq_zero, List.take_length, gt_iff_lt, List.length_pos_iff]
  exact Iff.rfl

/-- `GetFilePath` appends `relativePath` to the root directory, if that fits. -/
theorem getFilePath_eq_some {g : Globals} {size : Nat} {f path : WString} :
    getFilePath g size f = some path ↔
      path = g.rootDirectory ++ relativePath g.uncName f ∧ path.length < size := by
  unfold getFilePath
  cases hcpy : wcsncpyS size g.rootDirectory g.rootDirectory.length with
  | none =>
      -- the root directory alone does not fit
      refine iff_of_false (Option.some_ne_none _ ·.symm) ?_
      rintro ⟨rfl, hlen⟩
      rw [List.length_append] at hlen
      have hroot : wcsncpyS size g.rootDirectory g.rootDirectory.length = some g.rootDirectory :=
        wcsncpyS_eq_some.mpr ⟨List.take_length.symm, by omega⟩
      rw [hcpy] at hroot
      cases hroot
  | some root =>
      obtain ⟨hroot, hlen⟩ := wcsncpyS_eq_some.mp hcpy
      rw [List.take_length] at hroot
      subst hroot
      simp only [wcsnicmp_unc, ne_eq, wcsnicmp_dot]
      unfold relativePath
      split
      · next hunc =>
          split
          · next hdot =>
              rw [wcsncatS_eq_some, ← List.length_drop, List.take_length]
          · next hdot =>
              rw [if_pos (not_not.mp hdot), List.append_nil, Option.some_inj]
              exact ⟨fun he => he ▸ ⟨rfl, hlen⟩, fun he => he.1.symm⟩
      · next hunc => rw [wcsncatS_eq_some, List.take_length]

/-! ## Staying in the mirrored directory -/

/-- The path is the directory itself or continues it with a component. -/
def Inside (root path : WString) : Prop := path = root ∨ ∃ s, path = root ++ backslash :: s

/-- The UNC name is a prefix of the name that ends inside a component: what
follows it is neither empty nor a new component nor a dot. -/
def CutsComponent (uncName fileName : WString) : Prop :=
  HasUNC uncName fileName ∧
    ∃ c rest, fileName.drop uncName.length = c :: rest ∧ c ≠ backslash ∧ c ≠ dot

theorem inside_append {root s : WString} :
    Inside root (root ++ s) ↔ s = [] ∨ ∃ t, s = backslash :: t := by
  unfold Inside
  rw [List.append_right_eq_self]
  refine or_congr_right ⟨?_, ?_⟩
  · intro ⟨t, h⟩
    exact ⟨t, List.append_cancel_left h⟩
  · intro ⟨t, h⟩
    exact ⟨t, by rw [h]⟩

/-- **The backing path.**  A name that starts with a backslash is mapped into the
mirrored directory exactly when the UNC name does not end inside one of its
components. -/
theorem getFilePath_inside_iff {g : Globals} {size : Nat} {f path : WString}
    (hf : f.head? = some backslash) (h : getFilePath g size f = some path) :
    Inside g.rootDirectory path ↔ ¬ CutsComponent g.uncName f := by
  rw [(getFilePath_eq_some.mp h).1, inside_append]
  unfold relativePath CutsComponent
  by_cases hunc : HasUNC g.uncName f
  · simp only [hunc, if_true, true_and]
    cases hrest : f.drop g.uncName.length with
    | nil => simp
    | cons c rest =>
        by_cases hdot : c = dot
        · simp [hdot]
        · simp [hdot]
  · simp only [hunc, if_false, false_and, not_false_iff, iff_true]
    cases f with
    | nil => simp at hf
    | cons c s =>
        have hc : c = backslash := by simpa using hf
        exact Or.inr ⟨s, by rw [hc]⟩

/-- A share named by its own UNC name maps into the directory. -/
theorem getFilePath_inside_share :
    Inside (wide ['D', ':']) (wide ['D', ':', '\\', 'a']) :=
  (@getFilePath_inside_iff { rootDirectory := wide ['D', ':'], uncName := wide ['\\', 's'] }
    DOKAN_MAX_PATH (wide ['\\', 'S', '\\', 'a']) _ (by decide) (by decide)).mpr (by
      intro ⟨_, c, rest, hrest, hc, _⟩
      rw [show List.drop _ _ = wide ['\\', 'a'] from by decide] at hrest
      exact hc (List.cons.inj hrest).1.symm)

/-- With root `D:` and UNC name `\s`, the name `\sx` is mapped to the path `D:x`. -/
theorem not_getFilePath_inside :
    ¬ ∀ (g : Globals) (f path : WString), f.head? = some backslash →
      wide ['.', '.'] ∉ f.splitOn backslash →
      getFilePath g DOKAN_MAX_PATH f = some path → Inside g.rootDirectory path := by
  intro h
  have hin := h { rootDirectory := wide ['D', ':'], uncName := wide ['\\', 's'] }
    (wide ['\\', 's', 'x']) (wide ['D', ':', 'x']) (by decide) (by decide) (by decide)
  rw [show wide ['D', ':', 'x'] = wide ['D', ':'] ++ wide ['x'] from by decide,
    inside_append] at hin
  rcases hin with hnil | ⟨t, ht⟩
  · exact absurd hnil (by decide)
  · exact absurd (List.cons.inj ht).1 (by decide)

end SeamlessSmb
