/-
# `Usage` — the usage text against the option loop

`ShowUsage` prints the letters that `wmain` knows and where an argument follows.  A line of such
options should be accepted by the option loop, and should mean the same whichever way its options
are ordered.

| source | here |
| :-- | :-- |
| the lines of `ShowUsage` | `usage`: a letter, and whether an argument is shown |
| options in the usage text's form, each at most once | `UsageLine` |

**Proved here:** which lines are read so (`usage_accepted_iff`).  The loop has no case for `/z` and
takes no argument for `/t`, so the thread count is read as the next option.
-/
import Mathlib.Data.List.Nodup
import SeamlessSmb.Mount

namespace SeamlessSmb

/-! ## The usage text -/

/-- The options of `ShowUsage` in its order, with whether an argument is shown. -/
def usage : List (WCHAR × Bool) :=
  [ ('r', true), ('l', true), ('t', true), ('d', false), ('s', false), ('n', false), ('m', false),
    ('w', false), ('b', false), ('o', false), ('c', false), ('u', true), ('p', false), ('a', true),
    ('k', true), ('f', false), ('i', true), ('z', false), ('x', false), ('e', false),
    ('v', true) ].flatMap fun entry => (wide [entry.1]).map fun letter => (letter, entry.2)

/-- An option as the usage text has it. -/
structure UsageOption where
  letter : WCHAR
  argument : Option WString
  documented : (letter, argument.isSome) ∈ usage

/-- The command line arguments that give the option. -/
def UsageOption.words (o : UsageOption) : List WString :=
  [wchar '/', o.letter] :: o.argument.toList

/-- Options of the usage text, each at most once. -/
structure UsageLine where
  options : List UsageOption
  once : (options.map UsageOption.letter).Nodup

def UsageLine.words (line : UsageLine) : List WString := line.options.flatMap UsageOption.words

/-! ## What a case changes -/

namespace Switch

/-- The settings after a case; those before it where it refuses its argument. -/
def change (sw : Switch) (arg : WString) (s : CommandLine) : CommandLine :=
  match sw.apply s arg with
  | .ok s' => s'
  | .error _ => s

/-- The case takes what it is given. -/
def Takes (sw : Switch) (arg : WString) : Prop := sw = .rootDirectory → arg ≠ []

theorem apply_of_takes {sw : Switch} {arg : WString} (h : sw.Takes arg) (s : CommandLine) :
    sw.apply s arg = .ok (sw.change arg s) := by
  cases sw with
  | rootDirectory => simp [change, apply, h rfl]
  | _ => rfl

/-- What a case without an argument raises. -/
structure Raised where
  singleThread : Bool := false
  debugMode : Bool := false
  useStdErr : Bool := false
  caseSensitive : Bool := false
  impersonateCallerUser : Bool := false
  options : DWORD := 0#32

def raised : Switch → Raised
  | .singleThread => { singleThread := true }
  | .debugMode => { debugMode := true }
  | .useStdErr => { useStdErr := true }
  | .option bit => { options := bit }
  | .caseSensitive => { caseSensitive := true, options := DOKAN_OPTION_CASE_SENSITIVE }
  | .impersonateCallerUser => { impersonateCallerUser := true }
  | _ => {}

def Raised.raise (r : Raised) (s : CommandLine) : CommandLine :=
  { s with
    globals :=
      { s.globals with
        caseSensitive := s.globals.caseSensitive || r.caseSensitive
        impersonateCallerUser := s.globals.impersonateCallerUser || r.impersonateCallerUser }
    dokanOptions :=
      { s.dokanOptions with
        singleThread := s.dokanOptions.singleThread || r.singleThread
        options := s.dokanOptions.options ||| r.options }
    debugMode := s.debugMode || r.debugMode
    useStdErr := s.useStdErr || r.useStdErr }

theorem Raised.raise_comm (r r' : Raised) (s : CommandLine) :
    r.raise (r'.raise s) = r'.raise (r.raise s) := by
  simp [raise, Bool.or_right_comm, BitVec.or_assoc, BitVec.or_comm r.options]

theorem change_eq_raise {sw : Switch} (h : sw.takesArgument = false) (arg : WString)
    (s : CommandLine) : sw.change arg s = sw.raised.raise s := by
  cases sw with
  | rootDirectory | mountPoint | uncName | timeout | allocationUnitSize | sectorSize | volname =>
    cases h
  | _ =>
    dsimp only [change, apply, raised, Raised.raise]
    simp only [Bool.or_false, Bool.or_true, BitVec.or_zero]

/-- A case with an argument leaves alone what the others raise. -/
theorem change_raise {sw : Switch} (h : sw.takesArgument = true) (arg : WString) (r : Raised)
    (s : CommandLine) : sw.change arg (r.raise s) = r.raise (sw.change arg s) := by
  cases sw with
  | rootDirectory =>
    by_cases hnil : arg = []
    · simp [change, apply, hnil]
    · simp [change, apply, hnil, Raised.raise]
  | mountPoint | uncName | timeout | allocationUnitSize | sectorSize | volname => rfl
  | _ => cases h

theorem change_rootDirectory (arg : WString) (s : CommandLine) :
    Switch.rootDirectory.change arg s =
      { s with
        globals :=
          { s.globals with rootDirectory := if arg = [] then s.globals.rootDirectory else arg } } := by
  by_cases h : arg = []
  · simp [change, apply, h]
  · simp [change, apply, h]

/-- Two cases with an argument fill different settings. -/
theorem change_change {sw sw' : Switch} (h : sw.takesArgument = true) (h' : sw'.takesArgument = true)
    (hne : sw ≠ sw') (arg arg' : WString) (s : CommandLine) :
    sw.change arg (sw'.change arg' s) = sw'.change arg' (sw.change arg s) := by
  cases sw <;> cases h <;> cases sw' <;> cases h' <;>
    first | exact absurd rfl hne | rfl | (rw [change_rootDirectory, change_rootDirectory]; rfl)

end Switch

/-! ## Words as cases -/

/-- A case with its argument; the empty text where it takes none. -/
abbrev SwitchCase := Switch × WString

def SwitchCase.change (s : CommandLine) (c : SwitchCase) : CommandLine := c.1.change c.2 s

/-- Two cases may change places, unless both fill the same setting. -/
theorem SwitchCase.change_comm {c c' : SwitchCase} (h : c.1.takesArgument = true → c.1 = c'.1 → c = c')
    (s : CommandLine) : change (change s c) c' = change (change s c') c := by
  unfold change
  cases hc : c.1.takesArgument with
  | false =>
    cases hc' : c'.1.takesArgument with
    | false =>
      simp only [Switch.change_eq_raise hc, Switch.change_eq_raise hc']
      exact Switch.Raised.raise_comm c'.1.raised c.1.raised s
    | true =>
      rw [Switch.change_eq_raise hc, Switch.change_eq_raise hc, Switch.change_raise hc']
  | true =>
    cases hc' : c'.1.takesArgument with
    | false =>
      rw [Switch.change_eq_raise hc', Switch.change_eq_raise hc', Switch.change_raise hc]
    | true =>
      by_cases hsw : c.1 = c'.1
      · rw [h hc hsw]
      · exact (Switch.change_change hc hc' hsw c.2 c'.2 s).symm

/-- The loop reads the words as the cases, whatever follows them. -/
inductive ReadAs : List WString → List SwitchCase → Prop
  | nil : ReadAs [] []
  | plain {c d : WCHAR} {cs : WString} {sw : Switch} {words : List WString}
      {cases : List SwitchCase} : Switch.ofChar d = some sw → sw.takesArgument = false →
      ReadAs words cases → ReadAs ((c :: d :: cs) :: words) ((sw, []) :: cases)
  | argument {c d : WCHAR} {cs arg : WString} {sw : Switch} {words : List WString}
      {cases : List SwitchCase} : Switch.ofChar d = some sw → sw.takesArgument = true →
      sw.Takes arg → ReadAs words cases →
      ReadAs ((c :: d :: cs) :: arg :: words) ((sw, arg) :: cases)

namespace ReadAs

theorem append {words words' : List WString} {cases cases' : List SwitchCase}
    (h : ReadAs words cases) (h' : ReadAs words' cases') :
    ReadAs (words ++ words') (cases ++ cases') := by
  induction h with
  | nil => exact h'
  | plain hd harg _ ih => exact .plain hd harg ih
  | argument hd harg htakes _ ih => exact .argument hd harg htakes ih

theorem optionLoop_append {words : List WString} {cases : List SwitchCase} (h : ReadAs words cases)
    (behind : List WString → Option WCHAR) (rest : List WString) (s : CommandLine) :
    optionLoop behind (words ++ rest) s =
      optionLoop behind rest (cases.foldl SwitchCase.change s) := by
  induction h generalizing s with
  | nil => rfl
  | plain hd harg _ ih =>
    rename_i sw _ _ _
    have htakes : sw.Takes [] := by
      rintro rfl
      cases harg
    simp only [List.cons_append, optionLoop, optionChar, List.head?_cons, Option.bind_some, hd, harg,
      Switch.apply_of_takes htakes, Bool.false_eq_true, if_false, ih, List.foldl_cons]
    rfl
  | argument hd harg htakes _ ih =>
    simp only [List.cons_append, optionLoop, optionChar, List.head?_cons, Option.bind_some, hd, harg,
      Switch.apply_of_takes htakes, if_true, ih, List.foldl_cons]
    rfl

end ReadAs

/-! ## Options as cases -/

/-- The loop takes an option of the usage text as one: it has a case for the letter, the root
directory is not empty, and what follows `/t` can be read as an option without an argument. -/
structure UsageOption.Accepted (o : UsageOption) : Prop where
  known : o.letter ≠ wchar 'z'
  root : o.letter = wchar 'r' → o.argument ≠ some []
  thread : o.letter = wchar 't' → ∃ c d cs sw, o.argument = some (c :: d :: cs) ∧
    Switch.ofChar d = some sw ∧ sw.takesArgument = false

/-- What is checked of one letter after the other. -/
theorem forall_usage {P : WCHAR × Bool → Prop} [DecidablePred P]
    (h : (usage.all fun entry => decide (P entry)) = true) : ∀ entry ∈ usage, P entry := by
  intro entry hmem
  exact of_decide_eq_true (List.all_eq_true.mp h entry hmem)

/-- The letters of the usage text in the `switch`. -/
theorem usage_switch : ∀ entry ∈ usage, (Switch.ofChar entry.1).map Switch.takesArgument =
    if entry.1 = wchar 'z' then none else some (entry.2 && entry.1 ≠ wchar 't') :=
  forall_usage (by decide)

/-- No two letters of the usage text have one case. -/
theorem usage_ofChar_inj : ∀ entry ∈ usage, ∀ entry' ∈ usage,
    Switch.ofChar entry.1 = Switch.ofChar entry'.1 → entry.1 = entry'.1 := by
  have hall : ∀ entry ∈ usage, (usage.all fun entry' =>
      decide (Switch.ofChar entry.1 = Switch.ofChar entry'.1 → entry.1 = entry'.1)) = true :=
    forall_usage (by decide)
  exact fun entry hmem => forall_usage (hall entry hmem)

theorem usage_rootDirectory :
    ∀ entry ∈ usage, Switch.ofChar entry.1 = some .rootDirectory → entry.1 = wchar 'r' :=
  forall_usage (by decide)

theorem ofChar_r : Switch.ofChar (wchar 'r') = some .rootDirectory := by decide

theorem ofChar_z : Switch.ofChar (wchar 'z') = none := by decide

theorem ofChar_t : Switch.ofChar (wchar 't') = some .singleThread := by decide

theorem usage_t : ∀ entry ∈ usage, entry.1 = wchar 't' → entry.2 = true := forall_usage (by decide)

namespace UsageOption

/-- The cases an option is read as. -/
def reads (o : UsageOption) : List SwitchCase :=
  match Switch.ofChar o.letter with
  | none => []
  | some sw =>
      if sw.takesArgument then [(sw, o.argument.getD [])]
      else (sw, []) :: o.argument.toList.filterMap fun arg =>
        ((optionChar (fun _ => none) arg []).bind Switch.ofChar).map fun sw => (sw, [])

variable {o : UsageOption}

/-- The loop has a case for the letter, with an argument where the usage text has one. -/
theorem exists_switch (hz : o.letter ≠ wchar 'z') : ∃ sw, Switch.ofChar o.letter = some sw ∧
    sw.takesArgument = (o.argument.isSome && o.letter ≠ wchar 't') := by
  have husage := usage_switch _ o.documented
  rw [if_neg hz] at husage
  obtain ⟨sw, hsw, harg⟩ := Option.map_eq_some_iff.mp husage
  exact ⟨sw, hsw, harg⟩

theorem thread_reads {c d : WCHAR} {cs : WString} {sw : Switch} (ht : o.letter = wchar 't')
    (harg : o.argument = some (c :: d :: cs)) (hd : Switch.ofChar d = some sw) :
    o.reads = [(.singleThread, []), (sw, [])] := by
  simp [reads, ht, ofChar_t, harg, Switch.takesArgument, optionChar, hd]

theorem argument_reads {sw : Switch} {arg : WString} (hsw : Switch.ofChar o.letter = some sw)
    (htakes : sw.takesArgument = true) (harg : o.argument = some arg) : o.reads = [(sw, arg)] := by
  simp [reads, hsw, htakes, harg]

theorem plain_reads {sw : Switch} (hsw : Switch.ofChar o.letter = some sw)
    (htakes : sw.takesArgument = false) (harg : o.argument = none) : o.reads = [(sw, [])] := by
  simp [reads, hsw, htakes, harg]

/-- What an accepted option is read as: `/t` with its argument as two options, any other as meant. -/
theorem Accepted.readAs (h : o.Accepted) : ReadAs o.words o.reads := by
  obtain ⟨sw, hsw, htakes⟩ := exists_switch h.known
  by_cases ht : o.letter = wchar 't'
  · obtain ⟨c, d, cs, sw', harg, hd, hplain⟩ := h.thread ht
    rw [thread_reads ht harg hd, words, harg]
    exact .plain (ht ▸ ofChar_t) rfl (.plain hd hplain .nil)
  · simp only [ht, not_false_eq_true, decide_true, Bool.and_true, ne_eq] at htakes
    cases harg : o.argument with
    | none =>
      rw [harg] at htakes
      rw [plain_reads hsw htakes harg, words, harg]
      exact .plain hsw htakes .nil
    | some arg =>
      rw [harg] at htakes
      rw [argument_reads hsw htakes harg, words, harg]
      refine .argument hsw htakes ?_ .nil
      rintro rfl rfl
      exact h.root (usage_rootDirectory _ o.documented hsw) harg

/-- A case with an argument is all that its option is read as. -/
theorem Accepted.reads_argument (h : o.Accepted) {c : SwitchCase} (hc : c ∈ o.reads)
    (harg : c.1.takesArgument = true) : Switch.ofChar o.letter = some c.1 ∧ o.reads = [c] := by
  obtain ⟨sw, hsw, htakes⟩ := exists_switch h.known
  by_cases ht : o.letter = wchar 't'
  · obtain ⟨_, _, _, sw', hargument, hd, hplain⟩ := h.thread ht
    rw [thread_reads ht hargument hd, List.mem_pair] at hc
    obtain rfl | rfl := hc
    · cases harg
    · cases harg.symm.trans hplain
  · simp only [ht, not_false_eq_true, decide_true, Bool.and_true, ne_eq] at htakes
    have hreads : o.reads = [(sw, o.argument.getD [])] := by
      cases hargument : o.argument with
      | none =>
        rw [hargument] at htakes
        exact plain_reads hsw htakes hargument
      | some arg =>
        rw [hargument] at htakes
        exact argument_reads hsw htakes hargument
    rw [hreads, List.mem_singleton] at hc
    subst hc
    exact ⟨hsw, hreads⟩

end UsageOption

/-! ## A whole line -/

theorem readAs_flatMap {opts : List UsageOption} (h : ∀ o ∈ opts, o.Accepted) :
    ReadAs (opts.flatMap UsageOption.words) (opts.flatMap UsageOption.reads) := by
  induction opts with
  | nil => exact .nil
  | cons o opts ih =>
    have hrest := ih fun o' ho' => h o' (List.mem_cons_of_mem o ho')
    exact (h o List.mem_cons_self).readAs.append hrest

namespace UsageLine

/-- The loop accepts the options in every order, whatever lies behind an empty argument, and always
with the same settings. -/
def OrderFree (line : UsageLine) : Prop :=
  ∃ s, ∀ (behind : List WString → Option WCHAR) (line' : UsageLine),
    line'.options.Perm line.options → optionLoop behind line'.words {} = .ok s

variable {line : UsageLine}

theorem words_run (h : ∀ o ∈ line.options, o.Accepted) (behind : List WString → Option WCHAR) :
    optionLoop behind line.words {} =
      .ok ((line.options.flatMap UsageOption.reads).foldl SwitchCase.change {}) := by
  have hrun := (readAs_flatMap h).optionLoop_append behind [] {}
  rwa [List.append_nil] at hrun

/-- In one line no setting is filled twice. -/
theorem reads_once (h : ∀ o ∈ line.options, o.Accepted) {c c' : SwitchCase}
    (hc : c ∈ line.options.flatMap UsageOption.reads)
    (hc' : c' ∈ line.options.flatMap UsageOption.reads)
    (harg : c.1.takesArgument = true) (heq : c.1 = c'.1) : c = c' := by
  obtain ⟨o, ho, hco⟩ := List.mem_flatMap.mp hc
  obtain ⟨o', ho', hco'⟩ := List.mem_flatMap.mp hc'
  obtain ⟨hsw, hreads⟩ := (h o ho).reads_argument hco harg
  obtain ⟨hsw', hreads'⟩ := (h o' ho').reads_argument hco' (heq ▸ harg)
  have hletter : o.letter = o'.letter :=
    usage_ofChar_inj _ o.documented _ o'.documented (by rw [hsw, hsw', heq])
  have hoo : o = o' := List.inj_on_of_nodup_map line.once ho ho' hletter
  subst hoo
  exact List.singleton_inj.mp (hreads.symm.trans hreads')

theorem orderFree_of_accepted (h : ∀ o ∈ line.options, o.Accepted) : line.OrderFree := by
  refine ⟨(line.options.flatMap UsageOption.reads).foldl SwitchCase.change {}, ?_⟩
  intro behind line' hperm
  have hreads := hperm.flatMap_right UsageOption.reads
  rw [words_run fun o ho => h o (hperm.mem_iff.mp ho)]
  refine congrArg Except.ok (hreads.foldl_eq' ?_ _)
  intro c hc c' hc' s
  exact SwitchCase.change_comm (reads_once h (hreads.mem_iff.mp hc) (hreads.mem_iff.mp hc')) s

theorem OrderFree.accepts (h : line.OrderFree) {opts : List UsageOption}
    (hperm : opts.Perm line.options) (behind : List WString → Option WCHAR) :
    ∃ s, optionLoop behind (opts.flatMap UsageOption.words) {} = .ok s := by
  obtain ⟨s, hs⟩ := h
  exact ⟨s, hs behind ⟨opts, (hperm.map _).nodup_iff.mpr line.once⟩ hperm⟩

/-- Each option may stand first. -/
theorem OrderFree.accepts_first (h : line.OrderFree) {o : UsageOption} (ho : o ∈ line.options) :
    ∃ rest s, optionLoop (fun _ => none) (o.words ++ rest) {} = .ok s := by
  obtain ⟨before, after, heq⟩ := List.append_of_mem ho
  have hperm : (o :: (before ++ after)).Perm line.options := heq ▸ List.perm_middle.symm
  exact ⟨_, h.accepts hperm _⟩

/-- Each option may stand last. -/
theorem OrderFree.accepts_last (h : line.OrderFree) {o : UsageOption} (ho : o ∈ line.options) :
    ∃ others : List UsageOption, (∀ o' ∈ others, o' ∈ line.options ∧ o'.letter ≠ o.letter) ∧
      ∃ s, optionLoop (fun _ => none) (others.flatMap UsageOption.words ++ o.words) {} = .ok s := by
  obtain ⟨before, after, heq⟩ := List.append_of_mem ho
  have hperm : (o :: (before ++ after)).Perm line.options := heq ▸ List.perm_middle.symm
  have hletters := (hperm.map UsageOption.letter).nodup_iff.mpr line.once
  refine ⟨before ++ after, fun o' ho' => ⟨hperm.mem_iff.mp (List.mem_cons_of_mem o ho'), ?_⟩, ?_⟩
  · intro hsame
    exact (List.nodup_cons.mp hletters).1 (hsame ▸ List.mem_map_of_mem ho')
  · obtain ⟨s, hs⟩ := h.accepts ((List.perm_append_singleton o _).trans hperm) fun _ => none
    exact ⟨s, by simpa using hs⟩

theorem OrderFree.known (h : line.OrderFree) {o : UsageOption} (ho : o ∈ line.options) :
    o.letter ≠ wchar 'z' := by
  intro hz
  obtain ⟨rest, s, hs⟩ := h.accepts_first ho
  simp [UsageOption.words, optionLoop, optionChar, hz, ofChar_z] at hs

theorem OrderFree.root (h : line.OrderFree) {o : UsageOption} (ho : o ∈ line.options)
    (hr : o.letter = wchar 'r') : o.argument ≠ some [] := by
  intro harg
  obtain ⟨rest, s, hs⟩ := h.accepts_first ho
  simp [UsageOption.words, optionLoop, optionChar, hr, harg, ofChar_r, Switch.takesArgument,
    Switch.apply] at hs

/-- What follows `/t` is read as the next option, and as the last where `/t` stands last. -/
theorem OrderFree.thread (h : line.OrderFree) {o : UsageOption} (ho : o ∈ line.options)
    (ht : o.letter = wchar 't') : ∃ c d cs sw, o.argument = some (c :: d :: cs) ∧
      Switch.ofChar d = some sw ∧ sw.takesArgument = false := by
  obtain ⟨arg, harg⟩ := Option.isSome_iff_exists.mp (usage_t _ o.documented ht)
  have hwords : o.words = [[wchar '/', wchar 't'], arg] := by simp [UsageOption.words, ht, harg]
  have hskip : ∀ rest s, optionLoop (fun _ => none) (o.words ++ rest) s =
      optionLoop (fun _ => none) (arg :: rest) (SwitchCase.change s (.singleThread, [])) := by
    intro rest s
    rw [hwords]
    exact (ReadAs.plain ofChar_t rfl .nil).optionLoop_append _ (arg :: rest) s
  obtain ⟨rest, s, hs⟩ := h.accepts_first ho
  rw [hskip] at hs
  match arg with
  | [] => simp [optionLoop, optionChar] at hs
  | [_] => simp [optionLoop, optionChar] at hs
  | c :: d :: cs =>
    cases hd : Switch.ofChar d with
    | none => simp [optionLoop, optionChar, hd] at hs
    | some sw =>
      refine ⟨c, d, cs, sw, harg, hd, ?_⟩
      by_contra hplain
      have htakes : sw.takesArgument = true := eq_true_of_ne_false hplain
      obtain ⟨others, hothers, s', hs'⟩ := h.accepts_last ho
      have hread : ∀ o' ∈ others, o'.Accepted := fun o' ho' =>
        { known := h.known (hothers o' ho').1
          root := h.root (hothers o' ho').1
          thread := fun ht' => absurd (ht'.trans ht.symm) (hothers o' ho').2 }
      have hlast := hskip [] ((others.flatMap UsageOption.reads).foldl SwitchCase.change {})
      rw [List.append_nil] at hlast
      rw [(readAs_flatMap hread).optionLoop_append, hlast] at hs'
      simp [optionLoop, optionChar, hd, htakes] at hs'

theorem usage_accepted_iff (line : UsageLine) :
    line.OrderFree ↔ ∀ o ∈ line.options, o.Accepted := by
  constructor
  · intro h o ho
    exact ⟨h.known ho, h.root ho, h.thread ho⟩
  · exact orderFree_of_accepted

/-- `/r c:\test /l m /t 5`. -/
theorem not_orderFree :
    ¬ OrderFree
      { options :=
          [ ⟨wchar 'r', some (wide "c:\\test".toList), by decide⟩,
            ⟨wchar 'l', some (wide ['m']), by decide⟩,
            ⟨wchar 't', some (wide ['5']), by decide⟩ ]
        once := by decide } := by
  rintro ⟨s, hs⟩
  have h := hs (fun _ => none) _ (.refl _)
  cases h

end UsageLine

end SeamlessSmb
