/-
# `Qt` — uuids and numbers as text

The service and its controller talk over a local socket, in lines of text.  What they write is
ASCII, so the bytes of the stream are written as characters here.

| Qt | here |
| :-- | :-- |
| `QUuid::toString`, `QUuid(const QString &)` | the fields of a `UuidText` |
| `QString::remove(str)` | `removeAll`: every occurrence goes |
| `QString::startsWith` | `List.isPrefixOf` |
| `QString::split(" ")` | `List.splitOn` |
| `QString::toInt` | `stringToInt`, by its documentation |

`UuidText.braced` is one that goes by the documented form: five fields of hexadecimal digits
between braces, which may be left out when reading.  It reads no further than the last field.
-/
import Mathlib.Data.List.Basic
import Mathlib.Tactic.Ring

namespace SeamlessSmb

/-! ## Strings -/

/-- `s.remove(pat)`; `skip` counts what is left of an occurrence. -/
def removeAll (pat : List Char) : Nat → List Char → List Char
  | _, [] => []
  | skip + 1, _ :: s => removeAll pat skip s
  | 0, c :: s =>
      if pat.isPrefixOf (c :: s) then removeAll pat (pat.length - 1) s else c :: removeAll pat 0 s

theorem removeAll_skip {pat p s : List Char} : removeAll pat p.length (p ++ s) = removeAll pat 0 s := by
  induction p with
  | nil => rfl
  | cons c p ih => exact ih

theorem removeAll_of_not_mem {c : Char} {pat s : List Char} (h : c ∉ s) : removeAll (c :: pat) 0 s = s := by
  induction s with
  | nil => rfl
  | cons d s ih =>
      have ⟨hd, hs⟩ := not_or.mp (mt List.mem_cons.mpr h)
      simp [removeAll, hd, ih hs]

/-- What starts with the text, and has its first character nowhere else, loses it. -/
theorem removeAll_prefix {c : Char} {pat s : List Char} (h : c ∉ s) :
    removeAll (c :: pat) 0 (c :: pat ++ s) = s := by
  have hprefix : (c :: pat).isPrefixOf (c :: pat ++ s) = true :=
    List.isPrefixOf_iff_prefix.mpr (List.prefix_append _ _)
  rw [List.cons_append] at hprefix ⊢
  rw [removeAll, if_pos hprefix]
  exact removeAll_skip.trans (removeAll_of_not_mem h)

/-! ## Numbers -/

/-- `QString::toInt`: a decimal `int` between white space; anything else is 0. -/
def stringToInt (s : List Char) : Int :=
  let s := ((s.dropWhile Char.isWhitespace).reverse.dropWhile Char.isWhitespace).reverse
  let digits := if s.head? = some '-' ∨ s.head? = some '+' then s.tail else s
  let n : Int := digits.foldl (fun n c => 10 * n + (c.toNat - 48)) 0
  let n := if s.head? = some '-' then -n else n
  if digits ≠ [] ∧ digits.all Char.isDigit ∧ -0x80000000 ≤ n ∧ n ≤ 0x7FFFFFFF then n else 0

example : stringToInt ['-', '4', '2', '\n'] = -42 := by decide

/-! ## Uuids -/

def hexDigits : List Char :=
  ['0', '1', '2', '3', '4', '5', '6', '7', '8', '9', 'a', 'b', 'c', 'd', 'e', 'f']

/-- What the text of a uuid is made of. -/
def uuidChars : List Char := '{' :: '}' :: '-' :: hexDigits

/-- What the program relies on of `QUuid`: the text of a uuid is read back, also with the end
of the line behind it. -/
structure UuidText where
  toString : BitVec 128 → List Char
  ofString : List Char → BitVec 128
  chars : ∀ u, ∀ c ∈ toString u, c ∈ uuidChars
  read : ∀ u, ofString (toString u) = u
  readEol : ∀ u, ofString (toString u ++ ['\n']) = u

theorem UuidText.not_mem (q : UuidText) (u : BitVec 128) {c : Char} (h : c ∉ uuidChars) :
    c ∉ q.toString u := fun hm => h (q.chars u c hm)

namespace UuidText

/-! ### The documented form -/

/-- The digits of a number, `k` of them. -/
def hex : Nat → Nat → List Nat
  | 0, _ => []
  | k + 1, n => hex k (n / 16) ++ [n % 16]

/-- The number the digits spell. -/
def value (ds : List Nat) : Nat := ds.foldl (fun n d => 16 * n + d) 0

theorem value_hex (k n : Nat) : value (hex k n) = n % 16 ^ k := by
  induction k generalizing n with
  | zero => simp [hex, value, Nat.mod_one]
  | succ k ih =>
      have happ : value (hex k (n / 16) ++ [n % 16]) = 16 * value (hex k (n / 16)) + n % 16 := by
        simp [value]
      rw [hex, happ, ih, Nat.pow_succ, Nat.mul_comm (16 ^ k), Nat.mod_mul]
      omega

theorem hex_length (k n : Nat) : (hex k n).length = k := by
  induction k generalizing n with
  | zero => rfl
  | succ k ih => simp [hex, ih]

theorem hex_lt (k n : Nat) : ∀ d ∈ hex k n, d < 16 := by
  induction k generalizing n with
  | zero => simp [hex]
  | succ k ih =>
      intro d hd
      rcases List.mem_append.mp hd with hd | hd
      · exact ih (n / 16) d hd
      · rw [List.mem_singleton.mp hd]
        exact Nat.mod_lt n (by decide)

def digitChar (d : Nat) : Char := hexDigits.getD d '0'

/-- A digit read, in either case. -/
def digitValue (c : Char) : Option Nat := hexDigits.idxOf? c.toLower

theorem digitValue_digitChar : ∀ d < 16, digitValue (digitChar d) = some d := by decide

theorem digitChar_mem : ∀ d < 16, digitChar d ∈ hexDigits := by decide

/-- The five fields: a digit, or the dash between two fields. -/
def fields : List Bool :=
  List.replicate 8 true ++ [false] ++ List.replicate 4 true ++ [false] ++ List.replicate 4 true ++
    [false] ++ List.replicate 4 true ++ [false] ++ List.replicate 12 true

def write : List Bool → List Nat → List Char
  | false :: mask, ds => '-' :: write mask ds
  | true :: mask, d :: ds => digitChar d :: write mask ds
  | _, _ => []

def parse : List Bool → List Char → Option (List Nat)
  | [], _ => some []
  | false :: mask, c :: cs => if c = '-' then parse mask cs else none
  | true :: mask, c :: cs =>
      match digitValue c with
      | some d => (parse mask cs).map fun ds => d :: ds
      | none => none
  | _ :: _, [] => none

theorem parse_write {mask : List Bool} {ds : List Nat} {rest : List Char}
    (hlen : mask.count true = ds.length) (hlt : ∀ d ∈ ds, d < 16) :
    parse mask (write mask ds ++ rest) = some ds := by
  induction mask generalizing ds with
  | nil =>
      have hnil : ds = [] := List.length_eq_zero_iff.mp hlen.symm
      rw [hnil]
      rfl
  | cons b mask ih =>
      cases b with
      | false => simpa [write, parse] using ih (by simpa using hlen) hlt
      | true =>
          cases ds with
          | nil => simp at hlen
          | cons d ds =>
              have hd := digitValue_digitChar d (hlt d List.mem_cons_self)
              have hrest := ih (by simpa using hlen) fun e he => hlt e (List.mem_cons_of_mem d he)
              simp [write, parse, hd, hrest]

theorem write_chars {mask : List Bool} {ds : List Nat} (hlt : ∀ d ∈ ds, d < 16) :
    ∀ c ∈ write mask ds, c ∈ uuidChars := by
  induction mask generalizing ds with
  | nil => simp [write]
  | cons b mask ih =>
      cases b with
      | false =>
          intro c hc
          rcases List.mem_cons.mp hc with rfl | hc
          · decide
          · exact ih hlt c hc
      | true =>
          cases ds with
          | nil => simp [write]
          | cons d ds =>
              intro c hc
              rcases List.mem_cons.mp hc with rfl | hc
              · have hd := digitChar_mem d (hlt d List.mem_cons_self)
                exact List.mem_cons_of_mem _ (List.mem_cons_of_mem _ (List.mem_cons_of_mem _ hd))
              · exact ih (fun e he => hlt e (List.mem_cons_of_mem d he)) c hc

def bracedString (u : BitVec 128) : List Char := '{' :: write fields (hex 32 u.toNat) ++ ['}']

/-- What cannot be read is the null uuid. -/
def ofBraced (s : List Char) : BitVec 128 :=
  match parse fields (if s.head? = some '{' then s.tail else s) with
  | some ds => BitVec.ofNat 128 (value ds)
  | none => 0

/-- What follows the last field is not looked at. -/
theorem ofBraced_append (u : BitVec 128) (rest : List Char) : ofBraced (bracedString u ++ rest) = u := by
  have hparse : parse fields (write fields (hex 32 u.toNat) ++ '}' :: rest) = some (hex 32 u.toNat) :=
    parse_write (by rw [hex_length]; rfl) (hex_lt 32 u.toNat)
  have hvalue : BitVec.ofNat 128 (u.toNat % 16 ^ 32) = u := by
    rw [Nat.mod_eq_of_lt (Nat.lt_of_lt_of_le u.isLt (by decide))]
    simp
  simpa [ofBraced, bracedString, hparse, value_hex] using hvalue

/-- `QUuid` by its documentation. -/
def braced : UuidText where
  toString := bracedString
  ofString := ofBraced
  chars := by
    intro u c hc
    rcases List.mem_append.mp hc with hc | hc
    · rcases List.mem_cons.mp hc with rfl | hc
      · decide
      · exact write_chars (hex_lt 32 u.toNat) c hc
    · rw [List.mem_singleton.mp hc]
      decide
  read u := by simpa using ofBraced_append u []
  readEol u := ofBraced_append u ['\n']

end UuidText

end SeamlessSmb
