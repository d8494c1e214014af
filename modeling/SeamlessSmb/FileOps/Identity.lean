/-
# `FileOps.Identity` — two names of one file

The backing file of a name is found by `GetFilePath`, which takes the UNC name off, and
by the file system, which may not tell letter case apart.  The node of a name is found
by the name as it was passed.  So a file with two spellings can have two nodes, or a
node under one spelling and none under the other.

What letter case is, the file system knows; here it is a function `CaseFolding.fold`, of
which only that a dot has no other case is used.

**Proved here:** which names have one spelling only (`alone_iff`), and that along every
session spellings of one file find one node exactly while no node is stored under a
name with another spelling (`identity_iff`).
-/
import SeamlessSmb.FileOps.Session

namespace SeamlessSmb

open Calls

/-! ## Spellings of a file -/

/-- Letter case, as the file system ignores it. -/
structure CaseFolding where
  fold : WCHAR → WCHAR
  fold_dot : ∀ {c : WCHAR}, fold c = fold dot → c = dot

/-- The letter case of the "C" locale. -/
def CaseFolding.ascii : CaseFolding := ⟨towlower, towlower_eq_dot.mp⟩

/-- The paths lead to one file. -/
def SamePath (g : Globals) (cf : CaseFolding) (p q : WString) : Prop :=
  p = q ∨ (g.caseSensitive = false ∧ p.map cf.fold = q.map cf.fold)

/-- The names are spellings of one file. -/
def SameBacking (g : Globals) (cf : CaseFolding) (f f' : WString) : Prop :=
  ∃ p p', getFilePath g DOKAN_MAX_PATH f = some p ∧ getFilePath g DOKAN_MAX_PATH f' = some p' ∧
    SamePath g cf p p'

/-- The name has no other spelling. -/
def Alone (g : Globals) (cf : CaseFolding) (f : WString) : Prop :=
  ∀ f', SameBacking g cf f f' → f' = f

/-- No other string differs from this one in letter case only. -/
def Caseless (fold : WCHAR → WCHAR) (s : WString) : Prop := ∀ s', s'.map fold = s.map fold → s' = s

/-- A name that has no other spelling, told from the settings and its letters.  With a
UNC name in front, the rest must be no name of its own, for it would be mapped to
itself; without one, there must be none to put in front. -/
def OneSpelling (g : Globals) (cf : CaseFolding) (f : WString) : Prop :=
  if HasUNC g.uncName f then
    let rest := f.drop g.uncName.length
    HasUNC g.uncName rest ∧ rest.head? ≠ some dot ∧ Caseless towlower (f.take g.uncName.length) ∧
      (g.caseSensitive = true ∨ Caseless cf.fold rest)
  else
    (g.uncName = [] ∨ f.head? = some dot) ∧
      (g.caseSensitive = true ∨
        ∀ f', f'.map cf.fold = f.map cf.fold → ¬ HasUNC g.uncName f' → f' = f)

section

variable {g : Globals} {cf : CaseFolding} {f f' p q rest : WString}

theorem SamePath.symm (h : SamePath g cf p q) : SamePath g cf q p :=
  h.imp Eq.symm fun h => ⟨h.1, h.2.symm⟩

theorem SamePath.length_eq (h : SamePath g cf p q) : p.length = q.length := by
  rcases h with rfl | ⟨-, h⟩
  · rfl
  · simpa using congrArg List.length h

theorem SamePath.head_dot (h : SamePath g cf p q) (hq : q.head? = some dot) : p.head? = some dot := by
  rcases h with rfl | ⟨-, h⟩
  · exact hq
  · cases q with
    | nil => cases hq
    | cons d q =>
        obtain rfl : d = dot := by simpa using hq
        cases p with
        | nil => cases h
        | cons c p => rw [cf.fold_dot (List.cons.inj h).1, List.head?_cons]

theorem samePath_nil (h : SamePath g cf p []) : p = [] := List.length_eq_zero_iff.mp h.length_eq

theorem samePath_append (root : WString) :
    SamePath g cf (root ++ p) (root ++ q) ↔ SamePath g cf p q := by
  unfold SamePath
  simp

theorem SameBacking.symm (h : SameBacking g cf f f') : SameBacking g cf f' f := by
  obtain ⟨p, p', hp, hp', hsame⟩ := h
  exact ⟨p', p, hp', hp, hsame.symm⟩

/-- The spellings of a name that fits are those whose relative paths are one. -/
theorem sameBacking_iff (hfits : (getFilePath g DOKAN_MAX_PATH f).isSome) :
    SameBacking g cf f f' ↔ SamePath g cf (relativePath g.uncName f) (relativePath g.uncName f') := by
  obtain ⟨path, hpath⟩ := Option.isSome_iff_exists.mp hfits
  obtain ⟨rfl, hlen⟩ := getFilePath_eq_some.mp hpath
  constructor
  · rintro ⟨p, p', hp, hp', hsame⟩
    rw [(getFilePath_eq_some.mp hp).1, (getFilePath_eq_some.mp hp').1] at hsame
    exact (samePath_append _).mp hsame
  · intro hsame
    have hsame' := (samePath_append g.rootDirectory).mpr hsame
    refine ⟨_, _, hpath, getFilePath_eq_some.mpr ⟨rfl, ?_⟩, hsame'⟩
    rw [← hsame'.length_eq]
    exact hlen

theorem SamePath.eq_of_caseless (h : SamePath g cf p q)
    (hp : g.caseSensitive = true ∨ Caseless cf.fold p) : q = p := by
  rcases h with rfl | ⟨hoff, h⟩
  · rfl
  · rcases hp with hon | hp
    · rw [hoff] at hon
      cases hon
    · exact hp q h.symm

/-! ## Names with and without the UNC name -/

theorem relativePath_of_not (h : ¬ HasUNC g.uncName f) : relativePath g.uncName f = f := if_neg h

theorem HasUNC.ne_nil {unc : WString} (h : HasUNC unc f) : f ≠ [] := by
  rintro rfl
  exact h.1 (by simpa using h.2.symm)

/-- A name with the UNC name is a spelling of the UNC name and a rest. -/
theorem HasUNC.split {unc : WString} (h : HasUNC unc f) :
    f = f.take unc.length ++ f.drop unc.length ∧
      (f.take unc.length).map towlower = unc.map towlower :=
  ⟨(List.take_append_drop ..).symm, h.2⟩

theorem relativePath_append (rest : WString) {unc front : WString} (hne : unc ≠ [])
    (hfront : front.map towlower = unc.map towlower) :
    HasUNC unc (front ++ rest) ∧
      relativePath unc (front ++ rest) = if rest.head? = some dot then [] else rest := by
  have hlen : unc.length = front.length := by simpa using (congrArg List.length hfront).symm
  have hunc : HasUNC unc (front ++ rest) := by
    refine ⟨hne, ?_⟩
    rw [hlen, List.take_left, hfront]
  refine ⟨hunc, ?_⟩
  unfold relativePath
  rw [if_pos hunc, hlen, List.drop_left]

theorem alone_iff_of_not (hfits : (getFilePath g DOKAN_MAX_PATH f).isSome)
    (hunc : ¬ HasUNC g.uncName f) : Alone g cf f ↔
      (g.uncName = [] ∨ f.head? = some dot) ∧
        (g.caseSensitive = true ∨
          ∀ f', f'.map cf.fold = f.map cf.fold → ¬ HasUNC g.uncName f' → f' = f) := by
  have hsame : ∀ {f'}, SameBacking g cf f f' ↔ SamePath g cf f (relativePath g.uncName f') := by
    intro f'
    rw [sameBacking_iff hfits, relativePath_of_not hunc]
  constructor
  · intro h
    refine ⟨?_, ?_⟩
    · -- the UNC name can be put in front, unless the name would then be cut off
      by_cases hnil : g.uncName = []
      · exact Or.inl hnil
      · refine Or.inr (Classical.byContradiction fun hdot => hnil ?_)
        have hpath := (relativePath_append f hnil rfl).2
        rw [if_neg hdot] at hpath
        refine List.append_left_eq_self.mp (h (g.uncName ++ f) (hsame.mpr (Or.inl ?_)))
        exact hpath.symm
    · cases hcase : g.caseSensitive with
      | true => exact Or.inl rfl
      | false =>
          refine Or.inr fun f' hfold hunc' => h f' (hsame.mpr (Or.inr ⟨hcase, ?_⟩))
          rw [relativePath_of_not hunc', hfold]
  · rintro ⟨hfront, hcase⟩ f' hf'
    have hpath := hsame.mp hf'
    by_cases hunc' : HasUNC g.uncName f'
    · have hdot := hfront.resolve_left hunc'.1
      obtain ⟨hsplit, htake⟩ := hunc'.split
      rw [hsplit, (relativePath_append _ hunc'.1 htake).2] at hpath
      split at hpath
      · rw [samePath_nil hpath] at hdot
        cases hdot
      · next hrest => exact absurd (hpath.symm.head_dot hdot) hrest
    · rw [relativePath_of_not hunc'] at hpath
      rcases hpath with heq | ⟨hoff, hfold⟩
      · exact heq.symm
      · rcases hcase with hon | hcase
        · rw [hoff] at hon
          cases hon
        · exact hcase f' hfold.symm hunc'

theorem alone_iff_of_unc (hfits : (getFilePath g DOKAN_MAX_PATH f).isSome)
    (hunc : HasUNC g.uncName f) : Alone g cf f ↔
      HasUNC g.uncName (f.drop g.uncName.length) ∧ (f.drop g.uncName.length).head? ≠ some dot ∧
        Caseless towlower (f.take g.uncName.length) ∧
        (g.caseSensitive = true ∨ Caseless cf.fold (f.drop g.uncName.length)) := by
  obtain ⟨hsplit, hfront⟩ := hunc.split
  have hrel := (relativePath_append (f.drop g.uncName.length) hunc.1 hfront).2
  rw [← hsplit] at hrel
  generalize f.take g.uncName.length = front, f.drop g.uncName.length = rest at hsplit hfront hrel
  have hsame : ∀ {f'}, SameBacking g cf f f' ↔
      SamePath g cf (relativePath g.uncName f) (relativePath g.uncName f') := sameBacking_iff hfits
  have hnil : ¬ HasUNC g.uncName [] := fun h => h.ne_nil rfl
  constructor
  · intro h
    have hdot : rest.head? ≠ some dot := by
      intro hdot
      rw [if_pos hdot] at hrel
      refine hunc.ne_nil (h [] (hsame.mpr (Or.inl ?_))).symm
      rw [hrel, relativePath_of_not hnil]
    rw [if_neg hdot] at hrel
    refine ⟨?_, hdot, fun front' hfold => ?_, ?_⟩
    · -- else the rest is a spelling of its own
      refine Classical.byContradiction fun hrest => ?_
      have heq : rest = f := h rest (hsame.mpr (Or.inl (by rw [hrel, relativePath_of_not hrest])))
      rw [hsplit] at heq
      have hfrontnil := List.append_left_eq_self.mp heq.symm
      rw [hfrontnil] at hfront
      exact hunc.1 (List.map_eq_nil_iff.mp hfront.symm)
    · have hpath := (relativePath_append rest hunc.1 (hfold.trans hfront)).2
      rw [if_neg hdot] at hpath
      have heq := h (front' ++ rest) (hsame.mpr (Or.inl (by rw [hrel, hpath])))
      rw [hsplit] at heq
      exact List.append_cancel_right heq
    · cases hcase : g.caseSensitive with
      | true => exact Or.inl rfl
      | false =>
          refine Or.inr fun rest' hfold => ?_
          have hrest : SamePath g cf rest rest' := Or.inr ⟨hcase, hfold.symm⟩
          have hpath := (relativePath_append rest' hunc.1 hfront).2
          rw [if_neg fun hdot' => hdot (hrest.head_dot hdot')] at hpath
          have heq := h (front ++ rest') (hsame.mpr (by rw [hrel, hpath]; exact hrest))
          rw [hsplit] at heq
          exact List.append_cancel_left heq
  · rintro ⟨hrest, hdot, hfrontc, hrestc⟩ f' hf'
    have hpath := hsame.mp hf'
    rw [hrel, if_neg hdot] at hpath
    by_cases hunc' : HasUNC g.uncName f'
    · obtain ⟨hsplit', hfront'⟩ := hunc'.split
      rw [hsplit', (relativePath_append _ hunc'.1 hfront').2] at hpath
      split at hpath
      · exact absurd (samePath_nil hpath) hrest.ne_nil
      · rw [hsplit', hsplit, hpath.eq_of_caseless hrestc, hfrontc _ (hfront'.trans hfront.symm)]
    · rw [relativePath_of_not hunc'] at hpath
      rw [hpath.eq_of_caseless hrestc] at hunc'
      exact absurd hrest hunc'

/-- **Names with one spelling.** -/
theorem alone_iff : Alone g cf f ↔
    ((getFilePath g DOKAN_MAX_PATH f).isSome → OneSpelling g cf f) := by
  by_cases hfits : (getFilePath g DOKAN_MAX_PATH f).isSome
  · rw [forall_prop_of_true hfits, OneSpelling]
    split
    · next hunc => exact alone_iff_of_unc hfits hunc
    · next hunc => exact alone_iff_of_not hfits hunc
  · refine iff_of_true ?_ fun h => absurd h hfits
    rintro f' ⟨p, p', hp, -⟩
    rw [hp] at hfits
    exact absurd rfl hfits

/-- Without a UNC name, letter case is all. -/
theorem oneSpelling_iff_of_no_unc (h : g.uncName = []) :
    OneSpelling g cf f ↔ g.caseSensitive = true ∨ Caseless cf.fold f := by
  have hunc : ∀ {s}, ¬ HasUNC g.uncName s := fun hs => hs.1 h
  rw [OneSpelling, if_neg hunc]
  constructor
  · rintro ⟨-, hcase⟩
    exact hcase.imp_right fun hcase s hs => hcase s hs hunc
  · intro hcase
    exact ⟨Or.inl h, hcase.imp_right fun hcase s hs _ => hcase s hs⟩

end

/-! ## One node for one file -/

namespace Nodes

/-- The name has a node. -/
def Stored (n : Nodes) (k : WString) : Prop := ∃ p ∈ n.filenodes, n.name p = k

/-- The name a change stores a node under. -/
def Change.NewName (n : Nodes) (k : WString) : Change → Prop
  | .put f => n.findFileNode f.fileName = .none ∧ k = f.fileName
  | .rename fname newfname => (n.findFileNode fname).isSome ∧ k = newfname
  | _ => False

variable {n n' : Nodes} {c : Change} {k : WString}

theorem Same.stored (h : Same n n') : n'.Stored k ↔ n.Stored k := by
  constructor
  · rintro ⟨p, hp, hname⟩
    rw [h.filenodes] at hp
    exact ⟨p, hp, (h.name hp).symm.trans hname⟩
  · rintro ⟨p, hp, hname⟩
    exact ⟨p, h.filenodes.symm ▸ hp, (h.name hp).trans hname⟩

theorem stored_enter {f : Filenode} (h : n.findFileNode f.fileName = .none) :
    (n.enter f).Stored k ↔ n.Stored k ∨ k = f.fileName := by
  have hname : ∀ p, (n.enter f).name p = (n.makeShared f).name p := fun p =>
    congrArg Filenode.fileName (congrFun enter_heap p)
  unfold Stored
  rw [enter_of_none h]
  constructor
  · rintro ⟨p, hp, rfl⟩
    rw [hname]
    rcases List.mem_append.mp hp with hp | hp
    · exact Or.inl ⟨p, hp, (makeShared_same.name hp).symm⟩
    · rw [List.mem_singleton.mp hp, makeShared_name_next]
      exact Or.inr rfl
  · rintro (⟨p, hp, rfl⟩ | rfl)
    · exact ⟨p, List.mem_append_left _ hp, (hname p).trans (makeShared_same.name hp)⟩
    · exact ⟨n.next, List.mem_append_right _ List.mem_cons_self,
        (hname n.next).trans makeShared_name_next⟩

/-- A change stores the names it says, and no other that was not stored before. -/
theorem Change.Between.stored (h : c.Between n n') :
    (n'.Stored k → n.Stored k ∨ c.NewName n k) ∧ (c.NewName n k → n'.Stored k) := by
  cases c with
  | keep => exact ⟨fun hk => Or.inl ((Same.stored h).mp hk), False.elim⟩
  | put f =>
      have hsame : Same (n.enter f) n' := h
      cases hf : n.findFileNode f.fileName with
      | none =>
          rw [hsame.stored, stored_enter hf]
          exact ⟨fun hk => hk.imp_right fun hk => ⟨hf, hk⟩, fun hk => Or.inr hk.2⟩
      | some p =>
          have hin : Same n (n.enter f) := enter_of_some (hf ▸ rfl)
          rw [hsame.stored, hin.stored]
          refine ⟨Or.inl, fun hk => ?_⟩
          rw [hk.1] at hf
          cases hf
  | secure fname s =>
      obtain ⟨p, -, hsame⟩ := h
      rw [hsame.stored]
      refine ⟨fun hk => Or.inl ?_, False.elim⟩
      unfold Stored at hk
      rw [secure_name] at hk
      exact hk
  | drop fname =>
      have hsame : Same (n.deleteFileNode fname).2 n' := h
      rw [hsame.stored]
      refine ⟨fun hk => Or.inl ?_, False.elim⟩
      cases hf : n.findFileNode fname with
      | none =>
          rw [deleteFileNode_none hf] at hk
          exact hk
      | some p =>
          rw [deleteFileNode_some hf] at hk
          obtain ⟨q, hq, hname⟩ := hk
          exact ⟨q, (Keyed.mem_remove.mp hq).1, hname⟩
  | rename fname newfname =>
      have hsame : Same (n.rename fname newfname).2 n' := h
      rw [hsame.stored]
      cases hf : n.findFileNode fname with
      | none =>
          rw [rename_none hf]
          refine ⟨Or.inl, fun hk => ?_⟩
          have hsome := hk.1
          rw [hf] at hsome
          cases hsome
      | some p =>
          rw [rename_some hf]
          have hp : p ∈ n.filenodes := findFileNode_mem hf
          unfold Stored
          rw [name_write_fileName]
          refine ⟨?_, fun hk => ⟨p, hp, Keyed.rekey_self.trans hk.2.symm⟩⟩
          rintro ⟨q, hq, hname⟩
          by_cases hqp : q = p
          · rw [hqp, Keyed.rekey_self] at hname
            exact Or.inr ⟨hf ▸ rfl, hname.symm⟩
          · rw [Keyed.rekey_of_ne hqp] at hname
            exact Or.inl ⟨q, hq, hname⟩

end Nodes

/-- Spellings of one file find one node, and so read one descriptor. -/
structure Agree (env : Env) (cf : CaseFolding) (n : Nodes) : Prop where
  node : ∀ f f', SameBacking env.globals cf f f' → n.findFileNode f = n.findFileNode f'
  security : ∀ f f', SameBacking env.globals cf f f' → env.readSD n f = env.readSD n f'

section

variable {O : Type} {env : Env} {os : O → (c : Win32Call) → Outcome c.Value → O → Prop}
  {cf : CaseFolding} {n n' : Nodes} {c : Nodes.Change}

theorem agree_iff : Agree env cf n ↔ ∀ k, n.Stored k → Alone env.globals cf k := by
  have hnode : (∀ f f', SameBacking env.globals cf f f' → n.findFileNode f = n.findFileNode f') ↔
      ∀ k, n.Stored k → Alone env.globals cf k := by
    simp only [Nodes.findFileNode_eq]
    rw [Keyed.first_respects_iff SameBacking.symm]
    constructor
    · rintro h k ⟨p, hp, rfl⟩
      exact h p hp
    · exact fun h p hp => h (n.name p) ⟨p, hp, rfl⟩
  rw [← hnode]
  refine ⟨Agree.node, fun h => ⟨h, fun f f' hf => ?_⟩⟩
  rw [Env.readSD, Env.readSD, Nodes.node, Nodes.node, h f f' hf]

/-- A change leaves the spellings agreeing exactly if the name it stores a node under
has no other spelling. -/
theorem agree_change_iff (h : c.Between n n') (hn : Agree env cf n) :
    Agree env cf n' ↔ ∀ k, c.NewName n k → Alone env.globals cf k := by
  rw [agree_iff] at hn ⊢
  constructor
  · exact fun hall k hk => hall k (h.stored.2 hk)
  · intro hnew k hk
    rcases h.stored.1 hk with hk | hk
    · exact hn k hk
    · exact hnew k hk

/-- The action stores a node only under a name with one spelling. -/
def StoresOneSpelling (env : Env) (cf : CaseFolding) (w : World O) (l : Action × Trace)
    (_ : World O) : Prop :=
  ∀ k, (l.1.change env w.nodes (asked l.2)).NewName w.nodes k →
    (getFilePath env.globals DOKAN_MAX_PATH k).isSome → OneSpelling env.globals cf k

/-- **Identity.**  Along a session the spellings of a file find one node exactly while no
node is stored under a name with another spelling. -/
theorem identity_iff {w : World O} {history : List ((Action × Trace) × World O)}
    (hw : Agree env cf w.nodes) (h : History.Path (Acts env os) w history) :
    History.Along (fun _ _ w' => Agree env cf w'.nodes) w history ↔
      History.Along (StoresOneSpelling env cf) w history := by
  refine h.along_iff (I := fun w => Agree env cf w.nodes) ?_ ?_ hw
  · intro w l w' hw hstep
    rw [agree_change_iff (action_change hstep) hw]
    exact forall_congr' fun k => imp_congr_right fun _ => alone_iff
  · exact fun w l w' _ _ hagree => hagree

end

/-! ## Two mounts -/

/-- Setting the security of a file that has no node, where every merge succeeds, gives it
one. -/
theorem exists_session_set {env : Env} {fileName : WString} {w : World Unit}
    (hoff : env.debugMode = false)
    (hfits : (getFilePath env.globals DOKAN_MAX_PATH fileName).isSome)
    (hnew : w.nodes.findFileNode fileName = none) :
    ∃ history, History.Path (Acts env (mergesAs none)) w history ∧
      ∃ l w', history = [(l, w')] ∧ (w'.nodes.findFileNode fileName).isSome := by
  let r : SetCall := .plain DACL_SECURITY_INFORMATION (.tag 1)
  obtain ⟨tr, status, w', hrun⟩ := exists_run_set (r := r) (w := w) hfits SetCall.plain_open
    (.of_off hoff)
  have hset := setsSecurity_of_new hnew SetCall.plain_open hrun
  refine ⟨[((.setSecurity fileName r, tr), w')], .cons (run_ignore.mpr ⟨_, hrun⟩) .nil, _, _, rfl, ?_⟩
  have hstored := hset.2.1
  rw [← Nodes.node_isSome]
  cases hnode : w'.nodes.node fileName with
  | some f => rfl
  | none =>
      rw [hnode] at hstored
      cases hstored

/-- The sample mount, with a case-sensitive file system. -/
def Env.sensitive : Env :=
  { Env.plain false with globals := { (Env.plain false).globals with caseSensitive := true } }

theorem agree_empty {env : Env} {cf : CaseFolding} : Agree env cf Nodes.none := by
  rw [agree_iff]
  rintro k ⟨p, hp, -⟩
  exact absurd hp List.not_mem_nil

/-- Where letter case counts and there is no UNC name, a node stored is found by every
spelling there is. -/
theorem identity_sensitive :
    ∃ history, History.Path (Acts Env.sensitive (mergesAs none)) (World.start .none) history ∧
      (∃ l w', history = [(l, w')] ∧ (w'.nodes.findFileNode (wide ['\\', 'a'])).isSome) ∧
      History.Along (fun _ _ w' => Agree Env.sensitive .ascii w'.nodes) (World.start .none) history := by
  have hsession : ∃ history, History.Path (Acts Env.sensitive (mergesAs none)) (World.start .none)
      history ∧ ∃ l w', history = [(l, w')] ∧
        (w'.nodes.findFileNode (wide ['\\', 'a'])).isSome :=
    exists_session_set rfl (by decide) rfl
  obtain ⟨history, hpath, l, w', rfl, hstored⟩ := hsession
  refine ⟨_, hpath, ⟨l, w', rfl, hstored⟩, (identity_iff agree_empty hpath).mpr ⟨?_, trivial⟩⟩
  exact fun k _ _ => (oneSpelling_iff_of_no_unc rfl).mpr (Or.inl rfl)

/-- Where letter case does not count, the node stored for `\a` is not found by `\A`. -/
theorem not_identity :
    ¬ ∀ (env : Env) (cf : CaseFolding) (os : Unit → (c : Win32Call) → Outcome c.Value → Unit → Prop)
      (w : World Unit) (history : List ((Action × Trace) × World Unit)),
      Agree env cf w.nodes → History.Path (Acts env os) w history →
      History.Along (fun _ _ w' => Agree env cf w'.nodes) w history := by
  intro hclaim
  have hsession : ∃ history, History.Path (Acts (.plain false) (mergesAs none)) (World.start .none)
      history ∧ ∃ l w', history = [(l, w')] ∧
        (w'.nodes.findFileNode (wide ['\\', 'a'])).isSome :=
    exists_session_set rfl (by decide) rfl
  obtain ⟨history, hpath, l, w', rfl, hstored⟩ := hsession
  have hagree := (hclaim _ .ascii _ _ _ agree_empty hpath).1
  have hsame : SameBacking (Env.plain false).globals .ascii (wide ['\\', 'a']) (wide ['\\', 'A']) :=
    ⟨wide ['D', ':', '\\', 'a'], wide ['D', ':', '\\', 'A'], by decide, by decide,
      Or.inr ⟨rfl, by decide⟩⟩
  obtain ⟨p, hp⟩ := Option.isSome_iff_exists.mp hstored
  have hother := Nodes.findFileNode_name ((hagree.node _ _ hsame).symm.trans hp)
  exact absurd ((Nodes.findFileNode_name hp).symm.trans hother) (by decide)

end SeamlessSmb
