/-
# `Controller.OptionText` — the options as the user edits them

A `MountEditor` shows the option word as a line of names and takes it back as text.  Both ways go
through a `QMap` of names and masks: the printer goes through the masks and looks up the name of
each that is set, the reader cuts the text at its separators and looks up the words.

| source | here |
| :-- | :-- |
| `stringmappings` as a `QMap` | `stringmap`, in the order of the names |
| `stringmappings.key(opt, "")` | `stringmapKey` |
| `checkFlag`, `convertOptionsToString` | under their names |

The reader cuts with a `QRegularExpression`, which looks at no text that is not valid UTF-16: such
a text is one word, and none that is known.

**Proved here:** what is printed is read back, less the bits that have no name; and what is read of
a valid text is the masks of the known words, whichever way they are written (`options_text`).
-/
import SeamlessSmb.Lib.Flags
import SeamlessSmb.Lib.Tokens
import SeamlessSmb.Controller.MountListModel

namespace SeamlessSmb

open Flags Tokens

/-! ## The printer -/

/-- `operator<` of `QString` or equality: by the characters. -/
def qstringLe : CodeUnits → CodeUnits → Bool
  | [], _ => true
  | _ :: _, [] => false
  | a :: as, b :: bs => if a = b then qstringLe as bs else decide (a.toNat < b.toNat)

/-- The map, in the order of its keys. -/
def stringmap : List (CodeUnits × DWORD) := stringmappings.mergeSort fun a b => qstringLe a.1 b.1

/-- The first key with the value, or the empty string. -/
def stringmapKey (opt : DWORD) : CodeUnits :=
  ((stringmap.find? fun entry => entry.2 = opt).map Prod.fst).getD []

/-- `MountOptionsConverter::checkFlag`. -/
def checkFlag (str : CodeUnits) (options opt : DWORD) : CodeUnits :=
  if options &&& opt ≠ 0 then
    let tmpstr := stringmapKey opt
    if tmpstr ≠ [] then str ++ (tmpstr ++ latin [' ']) else str
  else str

/-- `MountOptionsConverter::convertOptionsToString`. -/
def convertOptionsToString (options : DWORD) : CodeUnits :=
  (stringmap.map Prod.snd).foldl (fun str opt => checkFlag str options opt) []

/-! ## What the map is like -/

/-- The separators of the reader. -/
def separates (c : BitVec 16) : Bool := optionSeparators.contains c

/-- Every mask is one bit. -/
theorem stringmappings_bit :
    ∀ entry ∈ stringmappings, ∃ k : Fin 32, entry.2 = BitVec.twoPow 32 k := by decide

/-- No mask has two names. -/
theorem stringmappings_inj :
    ∀ entry ∈ stringmappings, ∀ entry' ∈ stringmappings, entry.2 = entry'.2 → entry = entry' := by
  have hmasks : (stringmappings.map Prod.snd).Nodup := by decide
  intro entry hentry entry' hentry'
  exact List.inj_on_of_nodup_map hmasks hentry hentry'

/-- The names differ, and each is a word of units that stand alone. -/
theorem stringmappings_names : (stringmappings.map Prod.fst).Nodup ∧
    ∀ entry ∈ stringmappings, entry.1 ≠ [] ∧
      (entry.1.all fun c => !separates c && !isSurrogate c) = true := by
  decide

theorem stringmappings_units {entry : CodeUnits × DWORD} (h : entry ∈ stringmappings) {c : BitVec 16}
    (hc : c ∈ entry.1) : separates c = false ∧ isSurrogate c = false := by
  simpa using List.all_eq_true.mp (stringmappings_names.2 entry h).2 c hc

/-- No name has two masks. -/
theorem stringmappings_lookup :
    ∀ entry ∈ stringmappings, stringmappings.lookup entry.1 = some entry.2 := by
  intro entry hentry
  cases hlookup : stringmappings.lookup entry.1 with
  | none => simpa using List.lookup_eq_none_iff.mp hlookup entry hentry
  | some mask =>
      obtain ⟨front, back, hsplit, -⟩ := List.lookup_eq_some_iff.mp hlookup
      have hmem : (entry.1, mask) ∈ stringmappings := by simp [hsplit]
      rw [← List.inj_on_of_nodup_map stringmappings_names.1 hmem hentry rfl]

/-- A name is a word. -/
theorem stringmappings_word :
    ∀ entry ∈ stringmappings, entry.1 ≠ [] ∧ Clean separates entry.1 := by
  intro entry hentry
  exact ⟨(stringmappings_names.2 entry hentry).1, fun c hc => (stringmappings_units hentry hc).1⟩

/-- A text without surrogates is valid. -/
theorem isValidUtf16_of_plain {str : CodeUnits} (h : ∀ c ∈ str, isSurrogate c = false) :
    isValidUtf16 str = true := by
  induction str using isValidUtf16.induct with
  | case1 => rfl
  | case2 c => rw [isValidUtf16, h c List.mem_cons_self, Bool.not_false]
  | case3 c d str hc => exact absurd ((h c List.mem_cons_self).symm.trans hc) Bool.false_ne_true
  | case4 c d str hc ih =>
      rw [isValidUtf16, if_neg hc]
      exact ih fun c' hc' => h c' (List.mem_cons_of_mem _ hc')

/-- A name is a valid text. -/
theorem stringmappings_valid : ∀ entry ∈ stringmappings, isValidUtf16 entry.1 = true :=
  fun _ hentry => isValidUtf16_of_plain fun _ hc => (stringmappings_units hentry hc).2

theorem mem_stringmap {entry : CodeUnits × DWORD} : entry ∈ stringmap ↔ entry ∈ stringmappings :=
  (List.mergeSort_perm _ _).mem_iff

/-- The name of a mask is found. -/
theorem stringmapKey_of_mem {entry : CodeUnits × DWORD} (h : entry ∈ stringmappings) :
    stringmapKey entry.2 = entry.1 := by
  unfold stringmapKey
  cases hfind : stringmap.find? fun entry' => entry'.2 = entry.2 with
  | none =>
      have hnone := List.find?_eq_none.mp hfind entry (mem_stringmap.mpr h)
      exact absurd (decide_eq_true rfl) hnone
  | some entry' =>
      have hmem := mem_stringmap.mp (List.mem_of_find?_eq_some hfind)
      have hmask := List.find?_some hfind
      rw [stringmappings_inj entry' hmem entry h (of_decide_eq_true hmask)]
      rfl

/-! ## What is printed -/

/-- The names that are printed. -/
def optionWords (options : DWORD) : List CodeUnits :=
  (stringmap.filter fun entry => options &&& entry.2 ≠ 0).map Prod.fst

theorem mem_optionWords {options : DWORD} {word : CodeUnits} :
    word ∈ optionWords options ↔ ∃ mask, (word, mask) ∈ stringmappings ∧ options &&& mask ≠ 0 := by
  unfold optionWords
  simp only [List.mem_map, List.mem_filter, mem_stringmap, decide_eq_true_eq]
  constructor
  · rintro ⟨⟨word', mask⟩, ⟨hmem, hset⟩, rfl⟩
    exact ⟨mask, hmem, hset⟩
  · rintro ⟨mask, hmem, hset⟩
    exact ⟨(word, mask), ⟨hmem, hset⟩, rfl⟩

/-- What is printed are the names of the masks that are set, each with a blank behind. -/
theorem convertOptionsToString_eq {options : DWORD} :
    convertOptionsToString options = (optionWords options).flatMap fun word => word ++ latin [' '] := by
  have hfold : ∀ (l : List (CodeUnits × DWORD)) (str : CodeUnits), (∀ entry ∈ l, entry ∈ stringmappings) →
      (l.map Prod.snd).foldl (fun str opt => checkFlag str options opt) str =
        str ++ ((l.filter fun entry => options &&& entry.2 ≠ 0).map Prod.fst).flatMap
          fun word => word ++ latin [' '] := by
    intro l
    induction l with
    | nil => simp
    | cons entry l ih =>
        intro str hl
        have hmem := hl entry List.mem_cons_self
        rw [List.map_cons, List.foldl_cons, ih _ fun entry hentry => hl entry (List.mem_cons_of_mem _ hentry),
          checkFlag, List.filter_cons]
        by_cases hset : options &&& entry.2 ≠ 0
        · rw [if_pos hset]
          simp only [stringmapKey_of_mem hmem, if_pos (stringmappings_word entry hmem).1]
          rw [if_pos (decide_eq_true hset), List.map_cons, List.flatMap_cons, List.append_assoc,
            List.append_assoc]
        · rw [if_neg hset, if_neg fun h => hset (of_decide_eq_true h)]
  exact hfold stringmap [] fun entry hentry => mem_stringmap.mp hentry

theorem tokens_convertOptionsToString {options : DWORD} :
    tokens separates (convertOptionsToString options) = optionWords options := by
  rw [convertOptionsToString_eq]
  refine tokens_flatMap (by decide) (fun word hword => ?_) fun word hword => ?_
  · obtain ⟨mask, hmem, -⟩ := mem_optionWords.mp hword
    exact (stringmappings_word _ hmem).1
  · obtain ⟨mask, hmem, -⟩ := mem_optionWords.mp hword
    exact (stringmappings_word _ hmem).2

/-- What is printed is a valid text. -/
theorem isValidUtf16_convertOptionsToString {options : DWORD} :
    isValidUtf16 (convertOptionsToString options) = true := by
  rw [convertOptionsToString_eq]
  refine isValidUtf16_of_plain fun c hc => ?_
  obtain ⟨word, hword, hc⟩ := List.mem_flatMap.mp hc
  obtain ⟨mask, hmem, -⟩ := mem_optionWords.mp hword
  rcases List.mem_append.mp hc with hc | hc
  · exact (stringmappings_units hmem hc).2
  · rw [List.mem_singleton.mp hc]
    decide

/-! ## What is read -/

theorem splitOptions_of_valid {str : CodeUnits} (hvalid : isValidUtf16 str = true) :
    splitOptions str = tokens separates str := by
  unfold splitOptions
  rw [if_pos hvalid]
  rfl

/-- **Reading** gives the bits of the words that are known. -/
theorem getLsbD_convertStringToOptions {str : CodeUnits} {i : ℕ} :
    (convertStringToOptions str).getLsbD i = true ↔
      ∃ entry ∈ stringmappings, entry.1 ∈ splitOptions str ∧ entry.2.getLsbD i = true := by
  have hvalue : ∀ word, ((stringmappings.lookup word).getD 0).getLsbD i = true ↔
      ∃ entry ∈ stringmappings, entry.1 = word ∧ entry.2.getLsbD i = true := by
    intro word
    cases hlookup : stringmappings.lookup word with
    | none =>
        refine iff_of_false (by simp) ?_
        rintro ⟨entry, hmem, rfl, -⟩
        rw [stringmappings_lookup entry hmem] at hlookup
        cases hlookup
    | some mask =>
        rw [Option.getD_some]
        constructor
        · intro hbit
          obtain ⟨front, back, hsplit, -⟩ := List.lookup_eq_some_iff.mp hlookup
          exact ⟨(word, mask), by rw [hsplit]; simp, rfl, hbit⟩
        · rintro ⟨entry, hmem, rfl, hbit⟩
          rw [stringmappings_lookup entry hmem] at hlookup
          cases hlookup
          exact hbit
  rw [convertStringToOptions, getLsbD_foldl_or]
  simp only [hvalue]
  constructor
  · rintro (hzero | ⟨word, hword, entry, hmem, rfl, hbit⟩)
    · simp at hzero
    · exact ⟨entry, hmem, hword, hbit⟩
  · rintro ⟨entry, hmem, hword, hbit⟩
    exact Or.inr ⟨entry.1, hword, entry, hmem, rfl, hbit⟩

/-- The bits that have a name. -/
def optionMask : DWORD := stringmappings.foldl (fun mask entry => mask ||| entry.2) 0

theorem getLsbD_optionMask {i : ℕ} :
    optionMask.getLsbD i = true ↔ ∃ entry ∈ stringmappings, entry.2.getLsbD i = true := by
  rw [optionMask, getLsbD_foldl_or]
  exact or_iff_right (by simp)

/-- What is printed is read back. -/
theorem convertStringToOptions_toString (options : DWORD) :
    convertStringToOptions (convertOptionsToString options) = options &&& optionMask := by
  refine eq_of_bits fun i => ?_
  rw [getLsbD_convertStringToOptions, splitOptions_of_valid isValidUtf16_convertOptionsToString,
    tokens_convertOptionsToString, BitVec.getLsbD_and, Bool.and_eq_true, getLsbD_optionMask]
  -- of a mask of one bit there is something set just if the bit is
  have hbit : ∀ entry ∈ stringmappings, entry.2.getLsbD i = true →
      (entry.1 ∈ optionWords options ↔ options.getLsbD i = true) := by
    intro entry hmem hi
    obtain ⟨k, hk⟩ := stringmappings_bit entry hmem
    have hki : (k : ℕ) = i := by
      rw [hk, BitVec.getLsbD_twoPow] at hi
      simpa using hi
    rw [mem_optionWords, ← hki, ← and_twoPow_ne_zero k.isLt, ← hk]
    constructor
    · rintro ⟨mask, hmask, hset⟩
      have hsame := stringmappings_lookup _ hmask
      rw [stringmappings_lookup entry hmem] at hsame
      rwa [Option.some.inj hsame]
    · exact fun hset => ⟨entry.2, hmem, hset⟩
  constructor
  · rintro ⟨entry, hmem, hword, hi⟩
    exact ⟨(hbit entry hmem hi).mp hword, entry, hmem, hi⟩
  · rintro ⟨hset, entry, hmem, hi⟩
    exact ⟨entry, hmem, (hbit entry hmem hi).mpr hset, hi⟩

/-- Only bits with a name are read. -/
theorem convertStringToOptions_and (str : CodeUnits) :
    convertStringToOptions str &&& optionMask = convertStringToOptions str := by
  refine eq_of_bits fun i => ?_
  rw [BitVec.getLsbD_and, Bool.and_eq_true, getLsbD_optionMask]
  refine and_iff_left_of_imp fun hi => ?_
  obtain ⟨entry, hmem, -, hi⟩ := getLsbD_convertStringToOptions.mp hi
  exact ⟨entry, hmem, hi⟩

/-- Of a text that is not valid nothing is read. -/
theorem convertStringToOptions_of_not_valid {str : CodeUnits} (hvalid : isValidUtf16 str = false) :
    convertStringToOptions str = 0 := by
  refine eq_of_bits fun i => ?_
  rw [getLsbD_convertStringToOptions]
  refine iff_of_false ?_ (by simp)
  rintro ⟨entry, hmem, hword, -⟩
  unfold splitOptions at hword
  rw [hvalid, if_neg Bool.false_ne_true] at hword
  have hword : entry.1 = str := List.mem_singleton.mp (List.mem_of_mem_filter hword)
  rw [← hword, stringmappings_valid entry hmem] at hvalid
  cases hvalid

/-- **Options as text.**  What is printed is read back, less the bits that have no name; what is
read of a valid text are the masks of its known words, however they are parted, ordered and
repeated and whatever else stands between them, and nothing is read of any other; and it stays
when it is printed and read. -/
theorem options_text :
    (∀ options, convertStringToOptions (convertOptionsToString options) = options &&& optionMask) ∧
    (∀ str, isValidUtf16 str = true → ∀ i, (convertStringToOptions str).getLsbD i = true ↔
      ∃ entry ∈ stringmappings, IsToken separates str entry.1 ∧ entry.2.getLsbD i = true) ∧
    (∀ str, isValidUtf16 str = false → convertStringToOptions str = 0) ∧
    (∀ str str', isValidUtf16 str = true → isValidUtf16 str' = true →
      (∀ entry ∈ stringmappings, IsToken separates str entry.1 ↔ IsToken separates str' entry.1) →
      convertStringToOptions str = convertStringToOptions str') ∧
    ∀ str, convertStringToOptions (convertOptionsToString (convertStringToOptions str)) =
      convertStringToOptions str := by
  have hbits : ∀ str, isValidUtf16 str = true → ∀ i, (convertStringToOptions str).getLsbD i = true ↔
      ∃ entry ∈ stringmappings, IsToken separates str entry.1 ∧ entry.2.getLsbD i = true := by
    intro str hvalid i
    rw [getLsbD_convertStringToOptions, splitOptions_of_valid hvalid]
    simp only [mem_tokens_iff]
  refine ⟨convertStringToOptions_toString, hbits, fun str => convertStringToOptions_of_not_valid,
    fun str str' hvalid hvalid' hsame => eq_of_bits fun i => ?_, fun str => ?_⟩
  · rw [hbits str hvalid, hbits str' hvalid']
    refine exists_congr fun entry => and_congr_right fun hmem => ?_
    rw [hsame entry hmem]
  · rw [convertStringToOptions_toString, convertStringToOptions_and]

/-- Half of a pair stands before a known word. -/
theorem not_options_text : ¬ ∀ (str : CodeUnits) (i : ℕ), (convertStringToOptions str).getLsbD i = true ↔
    ∃ entry ∈ stringmappings, IsToken separates str entry.1 ∧ entry.2.getLsbD i = true := by
  intro hclaim
  let word := latin "DOKAN_OPTION_NETWORK".toList
  have hnothing : convertStringToOptions (0xD800 :: (latin [' '] ++ word)) = 0 :=
    convertStringToOptions_of_not_valid (by decide)
  have hmem : (word, DOKAN_OPTION_NETWORK) ∈ stringmappings := by decide
  obtain ⟨hne, hclean⟩ := stringmappings_word _ hmem
  have htoken : IsToken separates (0xD800 :: (latin [' '] ++ word)) word :=
    ⟨hne, hclean, [0xD800, 0x20], [], by decide, Or.inr ⟨[0xD800], 0x20, rfl, by decide⟩, Or.inl rfl⟩
  have hread := (hclaim (0xD800 :: (latin [' '] ++ word)) 4).mpr ⟨_, hmem, htoken, by decide⟩
  rw [hnothing] at hread
  exact absurd hread (by decide)

end SeamlessSmb
