/-
# `Lines` — reading a buffered stream line by line

A stream arrives in chunks and is buffered.  `readLine` takes off the buffer what is up to
and including the first break, or everything if there is none: a reader that is too early
gets a part of a line, and one that is too late gets a line that was never ended together
with what follows it.

| | |
| :-- | :-- |
| `readLine brk b` | the line taken off, and what stays in the buffer |
| `readEach brk b chunks` | one line read each time a chunk has arrived |
| `Item brk l` | something to send: a break at the end or none |
| `Paced brk items b chunks` | the chunks keep pace with a reader of one line each |

**Proved here:** reading one line a chunk gives the items sent, one by one, exactly if the
chunks keep pace (`readEach_iff`).
-/
import Mathlib.Data.List.Basic

namespace Lines

variable {α : Type} {brk : α} {b l rest more : List α} {chunks items : List (List α)}

/-- Something sent in one piece: a break is at its end only. -/
structure Item (brk : α) (l : List α) : Prop where
  nonempty : l ≠ []
  atEnd : brk ∉ l.dropLast

theorem item_line (h : brk ∉ l) : Item brk (l ++ [brk]) := by
  refine ⟨by simp, ?_⟩
  rw [List.dropLast_concat]
  exact h

theorem item_open (hne : l ≠ []) (h : brk ∉ l) : Item brk l :=
  ⟨hne, fun hm => h (List.dropLast_subset l hm)⟩

variable [DecidableEq α]

/-- Everything up to the first break, and what is behind it. -/
def readLine (brk : α) : List α → List α × List α
  | [] => ([], [])
  | a :: b => if a = brk then ([a], b) else (a :: (readLine brk b).1, (readLine brk b).2)

theorem readLine_append : (readLine brk b).1 ++ (readLine brk b).2 = b := by
  induction b with
  | nil => rfl
  | cons a b ih =>
      simp only [readLine]
      split
      · rfl
      · simp [ih]

/-- The buffer is empty after a part of a line. -/
theorem readLine_ended : brk ∈ (readLine brk b).1 ∨ (readLine brk b).2 = [] := by
  induction b with
  | nil => exact .inr rfl
  | cons a b ih =>
      simp only [readLine]
      split
      · next h => exact .inl (by simp [h])
      · exact ih.imp_left (List.mem_cons_of_mem a)

/-- An item at the head of the buffer is what is read, if it is ended or alone. -/
theorem readLine_item (hl : Item brk l) (h : brk ∈ l ∨ rest = []) :
    readLine brk (l ++ rest) = (l, rest) := by
  induction l with
  | nil => exact absurd rfl hl.nonempty
  | cons a l ih =>
      cases l with
      | nil =>
          by_cases ha : a = brk
          · simp [readLine, ha]
          · rcases h with h | rfl
            · exact absurd (List.mem_singleton.mp h).symm ha
            · simp [readLine, ha]
      | cons a' l =>
          have hout := hl.atEnd
          rw [List.dropLast_cons_cons, List.mem_cons, not_or] at hout
          have ha : a ≠ brk := fun he => hout.1 he.symm
          have hl' : Item brk (a' :: l) := ⟨List.cons_ne_nil a' l, hout.2⟩
          have h' : brk ∈ a' :: l ∨ rest = [] := by
            refine h.imp_left fun hm => ?_
            exact (List.mem_cons.mp hm).resolve_left fun he => ha he.symm
          rw [List.cons_append, readLine, if_neg ha, ih hl' h']

theorem readLine_ne_nil (h : b ≠ []) : (readLine brk b).1 ≠ [] := by
  cases b with
  | nil => exact absurd rfl h
  | cons a b =>
      simp only [readLine]
      split
      · exact List.cons_ne_nil _ _
      · exact List.cons_ne_nil _ _

theorem readLine_snd : (readLine brk b).2 = b.drop (readLine brk b).1.length := by
  have happ : (readLine brk b).1 ++ (readLine brk b).2 = b := readLine_append
  exact List.drop_left.symm.trans (congrArg _ happ)

/-- And only then. -/
theorem readLine_eq_iff (hl : Item brk l) : (readLine brk b).1 = l ↔ l <+: b ∧ (brk ∈ l ∨ b = l) := by
  constructor
  · rintro rfl
    have happ : (readLine brk b).1 ++ (readLine brk b).2 = b := readLine_append
    refine ⟨⟨_, happ⟩, readLine_ended.imp_right fun h => ?_⟩
    rw [h, List.append_nil] at happ
    exact happ.symm
  · rintro ⟨⟨rest, rfl⟩, h⟩
    have hended : brk ∈ l ∨ rest = [] := h.imp_right List.append_right_eq_self.mp
    rw [readLine_item hl hended]

/-- The same when the rest of the stream has not arrived: a break in the buffer is the end
of its first line. -/
theorem readLine_prefix (hl : Item brk l) (hbrk : brk ∈ l) (hb : brk ∈ b)
    (h : b ++ more = l ++ rest) : ∃ b', readLine brk b = (l, b') ∧ b' ++ more = rest := by
  rcases List.append_eq_append_iff.mp h with ⟨b', hb', hrest⟩ | ⟨l', hl', hmore⟩
  · -- the line is longer than the buffer, whose break is then in front of its end
    cases b' with
    | nil =>
        rw [List.append_nil] at hb'
        subst hb'
        have hread : readLine brk (l ++ []) = (l, []) := readLine_item hl (.inr rfl)
        rw [List.append_nil] at hread
        exact ⟨[], hread, hrest⟩
    | cons a b' =>
        refine absurd ?_ hl.atEnd
        rw [hb', List.dropLast_append_of_ne_nil (List.cons_ne_nil a b')]
        exact List.mem_append_left _ hb
  · refine ⟨l', ?_, hmore.symm⟩
    rw [hl', readLine_item hl (.inl hbrk)]

/-! ## One line for each chunk -/

/-- The lines read, one after each chunk, and what is left in the buffer. -/
def readEach (brk : α) : List α → List (List α) → List (List α) × List α
  | b, [] => ([], b)
  | b, c :: chunks =>
      ((readLine brk (b ++ c)).1 :: (readEach brk (readLine brk (b ++ c)).2 chunks).1,
        (readEach brk (readLine brk (b ++ c)).2 chunks).2)

/-- After each chunk the buffer is empty or has a whole item at its head, and nothing behind
it if the item is not ended. -/
def Paced (brk : α) : List (List α) → List α → List (List α) → Prop
  | items, _, [] => items = []
  | [], b, c :: chunks => b ++ c = [] ∧ Paced brk [] [] chunks
  | item :: items, b, c :: chunks =>
      if b ++ c = [] then Paced brk (item :: items) [] chunks
      else item <+: b ++ c ∧ (brk ∈ item ∨ b ++ c = item) ∧
        Paced brk items ((b ++ c).drop item.length) chunks

instance Paced.decidable : (items : List (List α)) → (b : List α) → (chunks : List (List α)) →
    Decidable (Paced brk items b chunks)
  | items, _, [] => inferInstanceAs (Decidable (items = []))
  | [], b, c :: chunks =>
      have := Paced.decidable [] [] chunks
      inferInstanceAs (Decidable (b ++ c = [] ∧ Paced brk [] [] chunks))
  | item :: items, b, c :: chunks =>
      have := Paced.decidable (item :: items) [] chunks
      have := Paced.decidable items ((b ++ c).drop item.length) chunks
      inferInstanceAs (Decidable (if b ++ c = [] then Paced brk (item :: items) [] chunks
        else item <+: b ++ c ∧ (brk ∈ item ∨ b ++ c = item) ∧
          Paced brk items ((b ++ c).drop item.length) chunks))

/-- **Keeping pace.**  Of a stream of items, a reader that takes one line after each chunk
gets the items as they are, exactly if the chunks keep pace. -/
theorem readEach_iff (hitems : ∀ l ∈ items, Item brk l) (hsent : b ++ chunks.flatten = items.flatten) :
    ((readEach brk b chunks).1.filter (fun l => l ≠ []) = items ∧ (readEach brk b chunks).2 = []) ↔
      Paced brk items b chunks := by
  induction chunks generalizing items b with
  | nil =>
      simp only [readEach, Paced, List.filter_nil]
      constructor
      · exact fun h => h.1.symm
      · rintro rfl
        exact ⟨rfl, by simpa using hsent⟩
  | cons c chunks ih =>
      rw [List.flatten_cons, ← List.append_assoc] at hsent
      by_cases hempty : b ++ c = []
      · -- nothing is buffered and nothing is read
        rw [hempty, List.nil_append] at hsent
        have hskip := ih (b := []) hitems hsent
        cases items with
        | nil => simpa [readEach, Paced, hempty, readLine] using hskip
        | cons item items => simpa [readEach, Paced, hempty, readLine] using hskip
      · simp only [readEach, List.filter_cons, decide_eq_true (readLine_ne_nil hempty), if_true]
        cases items with
        | nil =>
            refine iff_of_false (fun h => List.cons_ne_nil _ _ h.1) ?_
            exact fun h => hempty h.1
        | cons item items =>
            have hitem := hitems item List.mem_cons_self
            have hrest : ∀ l ∈ items, Item brk l := fun l hl => hitems l (List.mem_cons_of_mem item hl)
            simp only [Paced, if_neg hempty, List.cons.injEq]
            rw [← and_assoc, ← readLine_eq_iff hitem, and_assoc]
            refine and_congr_right fun hread => ?_
            -- the line is the first item, and the others are behind it
            have happ : (readLine brk (b ++ c)).1 ++ (readLine brk (b ++ c)).2 = b ++ c := readLine_append
            rw [hread] at happ
            rw [← happ, List.flatten_cons, List.append_assoc] at hsent
            rw [← hread, ← readLine_snd]
            exact ih hrest (List.append_cancel_left hsent)

end Lines
