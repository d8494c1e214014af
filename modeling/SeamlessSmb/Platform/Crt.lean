/-
# `Crt` — wide strings and the C runtime functions the program calls on them

A `PWCHAR`, and a `std::wstring` made of one, are the characters before the
terminating NUL, so a `WString` is a list of nonzero sixteen-bit words: a string
with a NUL inside cannot be written down, and `_wcsnicmp` compares what the lists
hold.  A string that was given its length is a list of any words (`CodeUnits`).

| runtime | here |
| :-- | :-- |
| `towlower` | `towlower`, the "C" locale (the program never sets another) |
| `_wcsnicmp` | `wcsnicmp`, a three-way comparison |
| `wcscpy_s`, `wcsncpy_s`, `wcsncat_s` | `wcscpyS`, `wcsncpyS`, `wcsncatS`; `none` ends the process |
| `_wtol` | `wtol`, saturating |

**Proved here:** `wcsnicmp` is zero exactly when the two lower-cased prefixes
agree, and the bounded copies return what they were given or nothing.
-/
import Mathlib.Data.List.Basic
import Mathlib.Data.List.TakeDrop

namespace SeamlessSmb

abbrev DWORD := BitVec 32

/-- A character of a C string: any but NUL. -/
abbrev WCHAR := { c : BitVec 16 // c ≠ 0 }

/-- A NUL-terminated wide string, without its NUL. -/
abbrev WString := List WCHAR

/-- A string that carries its length: a NUL is a character like any other. -/
abbrev CodeUnits := List (BitVec 16)

/-- The characters of a NUL-terminated string. -/
def WString.units (s : WString) : CodeUnits := s.map Subtype.val

/-- A string with no NUL in it. -/
def WString.ofUnits (cs : CodeUnits) : Option WString :=
  if h : ∀ c ∈ cs, c ≠ 0 then some (cs.attach.map fun c => ⟨c.1, h c.1 c.2⟩) else none

theorem WString.ofUnits_units (s : WString) : WString.ofUnits s.units = some s := by
  have h : ∀ c ∈ s.units, c ≠ 0 := by
    intro c hc
    obtain ⟨d, -, rfl⟩ := List.mem_map.mp hc
    exact d.2
  unfold WString.ofUnits
  rw [dif_pos h]
  refine congrArg some (List.map_injective_iff.mpr Subtype.val_injective ?_)
  rw [List.map_map]
  exact List.attach_map_subtype_val _

/-- A literal's character. -/
def wchar (c : Char) (h : BitVec.ofNat 16 c.toNat ≠ 0 := by decide) : WCHAR :=
  ⟨BitVec.ofNat 16 c.toNat, h⟩

/-- A wide string literal `L"…"`. -/
def wide (cs : List Char) : WString :=
  cs.filterMap fun c =>
    if h : BitVec.ofNat 16 c.toNat ≠ 0 then some ⟨BitVec.ofNat 16 c.toNat, h⟩ else none

/-! ## Letter case -/

/-- `A` … `Z` go to `a` … `z`; every other character stays. -/
def towlower (c : WCHAR) : WCHAR :=
  if h : 65 ≤ c.1.toNat ∧ c.1.toNat ≤ 90 then
    ⟨c.1 + 32, by bv_omega⟩
  else c

/-- Compare the first `n` characters of two strings, letter case ignored.  A
string that ends first is compared by its NUL. -/
def wcsnicmp : WString → WString → Nat → Int
  | _, _, 0 => 0
  | [], [], _ + 1 => 0
  | [], b :: _, _ + 1 => - (towlower b).1.toNat
  | a :: _, [], _ + 1 => (towlower a).1.toNat
  | a :: as, b :: bs, n + 1 =>
      if towlower a = towlower b then wcsnicmp as bs n
      else ((towlower a).1.toNat : Int) - (towlower b).1.toNat

theorem toNat_pos (c : WCHAR) : 0 < c.1.toNat := by
  rcases Nat.eq_zero_or_pos c.1.toNat with h | h
  · exact absurd (BitVec.eq_of_toNat_eq (by simpa using h)) c.2
  · exact h

/-- `_wcsnicmp` answers zero exactly when the lower-cased prefixes are equal. -/
theorem wcsnicmp_eq_zero (a b : WString) (n : Nat) :
    wcsnicmp a b n = 0 ↔ (a.take n).map towlower = (b.take n).map towlower := by
  induction a, b, n using wcsnicmp.induct with
  | case1 => simp [wcsnicmp]
  | case2 => simp [wcsnicmp]
  | case3 b bs n =>
      have := toNat_pos (towlower b)
      simp only [wcsnicmp, List.take_nil, List.map_nil, List.take_succ_cons, List.map_cons]
      constructor
      · intro h
        omega
      · exact fun h => absurd h (List.cons_ne_nil _ _).symm
  | case4 a as n =>
      have := toNat_pos (towlower a)
      simp only [wcsnicmp, List.take_nil, List.map_nil, List.take_succ_cons, List.map_cons]
      constructor
      · intro h
        omega
      · exact fun h => absurd h (List.cons_ne_nil _ _)
  | case5 a as b bs n heq ih =>
      simp [wcsnicmp, heq, ih]
  | case6 a as b bs n hne =>
      have hval : (towlower a).1.toNat ≠ (towlower b).1.toNat :=
        fun h => hne (Subtype.ext (BitVec.eq_of_toNat_eq h))
      simp only [wcsnicmp, hne, if_false, List.take_succ_cons, List.map_cons, List.cons.injEq,
        false_and, iff_false]
      omega

/-! ## Bounded copies -/

/-- `wcsncpy_s(dest, size, src, count)`: what `dest` holds afterwards. -/
def wcsncpyS (size : Nat) (src : WString) (count : Nat) : Option WString :=
  if (src.take count).length < size then some (src.take count) else none

/-- `wcscpy_s(dest, size, src)`: what `dest` holds afterwards. -/
def wcscpyS (size : Nat) (src : WString) : Option WString := wcsncpyS size src src.length

/-- `wcsncat_s(dest, size, src, count)`: what `dest` holds afterwards. -/
def wcsncatS (dest : WString) (size : Nat) (src : WString) (count : Nat) : Option WString :=
  if dest.length + (src.take count).length < size then some (dest ++ src.take count) else none

theorem wcsncpyS_eq_some {size count : Nat} {src s : WString} :
    wcsncpyS size src count = some s ↔ s = src.take count ∧ s.length < size := by
  unfold wcsncpyS
  rw [Option.ite_none_right_eq_some, Option.some_inj]
  constructor
  · rintro ⟨hlen, rfl⟩
    exact ⟨rfl, hlen⟩
  · rintro ⟨rfl, hlen⟩
    exact ⟨hlen, rfl⟩

theorem wcsncatS_eq_some {dest src s : WString} {size count : Nat} :
    wcsncatS dest size src count = some s ↔ s = dest ++ src.take count ∧ s.length < size := by
  unfold wcsncatS
  rw [← List.length_append, Option.ite_none_right_eq_some, Option.some_inj]
  constructor
  · rintro ⟨hlen, rfl⟩
    exact ⟨rfl, hlen⟩
  · rintro ⟨rfl, hlen⟩
    exact ⟨hlen, rfl⟩

/-! ## Numbers -/

/-- `iswspace` in the "C" locale. -/
def iswspace (c : WCHAR) : Bool := c.1.toNat = 32 ∨ (9 ≤ c.1.toNat ∧ c.1.toNat ≤ 13)

/-- The value of a decimal digit. -/
def digit (c : WCHAR) : Option Nat :=
  if 48 ≤ c.1.toNat ∧ c.1.toNat ≤ 57 then some (c.1.toNat - 48) else none

/-- The number the leading digits spell, `acc` being what stands before them. -/
def digits : Nat → WString → Nat
  | acc, [] => acc
  | acc, c :: cs =>
      match digit c with
      | some d => digits (10 * acc + d) cs
      | none => acc

/-- `_wtol`: blanks, a sign, digits.  A number outside `long` is replaced by the
nearest `long`. -/
def wtol (s : WString) : DWORD :=
  match s.dropWhile iswspace with
  | [] => 0
  | c :: cs =>
      if c.1 = 45 then BitVec.ofInt 32 (max (-0x80000000) (-(digits 0 cs : Int)))
      else if c.1 = 43 then BitVec.ofInt 32 (min (0x7FFFFFFF) (digits 0 cs : Int))
      else BitVec.ofInt 32 (min (0x7FFFFFFF) (digits 0 (c :: cs) : Int))

example : wtol (wide [' ', '-', '4', '2', 'x']) = BitVec.ofInt 32 (-42) := by decide

end SeamlessSmb
