/-
# `StatusMessages` — what the controller makes of the statuses it is sent

The service reports the state of a mount in a line `STATUS <uuid> <0|1>`.  The client reads
line by line while it can, and throws away what has no end of line yet: the rest of a message
cut so arrives later and is read as a line of its own.

| source | here |
| :-- | :-- |
| `Server::sendStatusSlot` | `StatusMessage.text` |
| `Client::onReadyRead`, up to its next look at the socket | a `Point`, and `run` |
| bytes come in | `Action.arrive` |
| `QString::toInt` | `toInt`, a parameter that reads past the end of the line |

**Proved here:** whenever bytes come in, the statuses emitted are among those sent, in order, and
`st[1]` and `st[2]` are there (`emitted_sublist`): no end of a message can be taken for one.  All that
were sent are emitted in the end exactly if `readAll` never had anything to throw away
(`emitted_all_iff`).
-/
import SeamlessSmb.Lib.History
import SeamlessSmb.Lib.Lines
import SeamlessSmb.Platform.Qt

namespace SeamlessSmb

/-! ## The messages -/

structure StatusMessage where
  uuid : BitVec 128
  running : Bool
  deriving DecidableEq

def statusWord : List Char := ['S', 'T', 'A', 'T', 'U', 'S']

/-- `QString("STATUS %1 %2\n").arg(id.toString()).arg(running)`. -/
def StatusMessage.text (q : UuidText) (m : StatusMessage) : List Char :=
  statusWord ++ ' ' :: (q.toString m.uuid ++ ' ' :: [if m.running then '1' else '0', '\n'])

/-! ## The client -/

/-- Where `onReadyRead` is: not running, before `canReadLine` of the loop, before `readLine`,
before `bytesAvailable`, before the second `canReadLine`, or before `readAll`. -/
inductive Point
  | outside | loop | reading | counting | testing | draining
  deriving DecidableEq

/-- The client and the stream it reads.  `fault` says that `st[1]` or `st[2]` was out of
range. -/
structure StatusReader where
  future : List Char
  buffer : List Char := []
  point : Point := .outside
  emitted : List StatusMessage := []
  fault : Bool := false

namespace StatusReader

variable (q : UuidText) (toInt : List Char → Int)

/-- The body of the loop for the line read. -/
def onLine (s : StatusReader) (command : List Char) : StatusReader :=
  if statusWord.isPrefixOf command then
    let st := command.splitOn ' '
    match st[1]?, st[2]? with
    | some id, some running =>
        { s with emitted := s.emitted ++ [{ uuid := q.ofString id, running := toInt running ≠ 0 }] }
    | _, _ => { s with fault := true }
  else s

/-- The statement at the point. -/
def run (s : StatusReader) : StatusReader :=
  match s.point with
  | .outside => s
  | .loop => { s with point := if '\n' ∈ s.buffer then .reading else .outside }
  | .reading =>
      let (command, buffer) := Lines.readLine '\n' s.buffer
      { s with buffer := buffer, point := .counting }.onLine q toInt command
  | .counting => { s with point := if s.buffer = [] then .loop else .testing }
  | .testing => { s with point := if '\n' ∈ s.buffer then .loop else .draining }
  | .draining => { s with buffer := [], point := .loop }

inductive Action
  | arrive (count : Nat)
  | readyRead
  | run

def act (s : StatusReader) : Action → StatusReader
  | .arrive count =>
      { s with buffer := s.buffer ++ s.future.take count, future := s.future.drop count }
  | .readyRead => if s.point = .outside then { s with point := .loop } else s
  | .run => s.run q toInt

end StatusReader

/-! ## Ends of messages -/

namespace StatusMessage

section

variable {q : UuidText} {m : StatusMessage} {t b f : List Char} {rest : List StatusMessage}

/-- A message without the end of its line. -/
def body (q : UuidText) (m : StatusMessage) : List Char :=
  statusWord ++ ' ' :: (q.toString m.uuid ++ ' ' :: [if m.running then '1' else '0'])

theorem text_eq : m.text q = m.body q ++ ['\n'] := by
  simp [text, body]

/-- What a message has besides its word. -/
theorem not_mem_after {c : Char} (hc : c ∉ ' ' :: '0' :: '1' :: uuidChars) :
    c ∉ ' ' :: (q.toString m.uuid ++ ' ' :: [if m.running then '1' else '0']) := by
  simp only [List.mem_cons, not_or] at hc
  have huuid : c ∉ q.toString m.uuid := q.not_mem m.uuid hc.2.2.2
  cases m.running with
  | false => simp [hc, huuid]
  | true => simp [hc, huuid]

theorem not_mem_body : '\n' ∉ m.body q := by
  intro h
  rcases List.mem_append.mp h with h | h
  · exact absurd h (by decide)
  · exact not_mem_after (by decide) h

theorem text_item : Lines.Item '\n' (m.text q) := by
  rw [text_eq]
  exact Lines.item_line not_mem_body

/-- What is left of a message of which something is gone. -/
def Tail (q : UuidText) (t : List Char) : Prop :=
  ∃ (m : StatusMessage) (p : List Char), p ≠ [] ∧ m.text q = p ++ t

theorem Tail.nil : Tail q [] := by
  refine ⟨⟨0, false⟩, text q ⟨0, false⟩, ?_, by simp⟩
  simp [text, statusWord]

theorem Tail.suffix (h : Tail q (b ++ t)) : Tail q t := by
  obtain ⟨m, p, hp, htext⟩ := h
  exact ⟨m, p ++ b, by simp [hp], by rw [htext, List.append_assoc]⟩

/-- Such an end is a line. -/
theorem Tail.line (h : Tail q t) (ht : t ≠ []) : Lines.Item '\n' t ∧ '\n' ∈ t := by
  obtain ⟨m, p, -, htext⟩ := h
  obtain ⟨t, c, rfl⟩ := (List.eq_nil_or_concat t).resolve_left ht
  rw [text_eq, List.concat_eq_append, ← List.append_assoc] at htext
  obtain ⟨hbody, hc⟩ := List.append_inj' htext rfl
  cases hc
  rw [List.concat_eq_append]
  refine ⟨Lines.item_line fun hm => not_mem_body (q := q) (m := m) ?_, by simp⟩
  rw [hbody]
  exact List.mem_append_right p hm

/-- **No end of a message starts like one**: the word has its `A` in the third place, and there
is no other. -/
theorem Tail.not_status (h : Tail q t) : statusWord.isPrefixOf t = false := by
  obtain ⟨m, p, hp, htext⟩ := h
  refine Bool.eq_false_iff.mpr fun hstatus => ?_
  obtain ⟨more, rfl⟩ := List.isPrefixOf_iff_prefix.mp hstatus
  have hA : 'A' ∉ ['T', 'U', 'S'] ++
      ' ' :: (q.toString m.uuid ++ ' ' :: [if m.running then '1' else '0']) ++ ['\n'] := by
    intro hm
    rcases List.mem_append.mp hm with hm | hm
    · rcases List.mem_append.mp hm with hm | hm
      · exact absurd hm (by decide)
      · exact not_mem_after (by decide) hm
    · exact absurd hm (by decide)
  match p, hp with
  | [c], _ => simp [text, statusWord] at htext
  | [c, d], _ => simp [text, statusWord] at htext
  | c :: d :: e :: p, _ =>
      have hrest : ['T', 'U', 'S'] ++
          ' ' :: (q.toString m.uuid ++ ' ' :: [if m.running then '1' else '0']) ++ ['\n'] =
          p ++ (statusWord ++ more) := by
        simpa [text, statusWord] using (List.cons.inj (List.cons.inj (List.cons.inj htext).2).2).2
      rw [hrest] at hA
      exact hA (List.mem_append_right p (by simp [statusWord]))

/-- What is thrown away of a stream leaves an end of a message, and more messages. -/
theorem Tail.drop (ht : Tail q t) (h : b ++ f = t ++ rest.flatMap (text q)) :
    ∃ t' n, Tail q t' ∧ f = t' ++ (rest.drop n).flatMap (text q) := by
  induction rest generalizing t b with
  | nil =>
      rw [List.flatMap_nil, List.append_nil] at h
      exact ⟨f, 0, Tail.suffix (b := b) (h ▸ ht), by simp⟩
  | cons m rest ih =>
      rcases List.append_eq_append_iff.mp h with ⟨t', rfl, hf⟩ | ⟨b', rfl, hf⟩
      · exact ⟨t', 0, ht.suffix, hf⟩
      · cases b' with
        | nil => exact ⟨[], 0, Tail.nil, hf.symm⟩
        | cons c b' =>
            rw [List.flatMap_cons] at hf
            rcases List.append_eq_append_iff.mp hf with ⟨t', htext, hrest⟩ | ⟨t', htext, hrest⟩
            · obtain ⟨t'', n, ht'', hn⟩ := ih (b := t') (t := []) Tail.nil hrest.symm
              exact ⟨t'', n + 1, ht'', hn⟩
            · exact ⟨t', 1, ⟨m, c :: b', List.cons_ne_nil _ _, htext⟩, by simpa using hrest⟩

end

end StatusMessage

/-! ## Reading -/

namespace StatusReader

open StatusMessage

variable {q : UuidText} {toInt : List Char → Int} {sent : List StatusMessage} {s : StatusReader}

/-- Messages were sent and nothing has come in. -/
def init (q : UuidText) (sent : List StatusMessage) : StatusReader :=
  { future := sent.flatMap (StatusMessage.text q) }

/-- Of the first `n` messages sent some were emitted, and what was not read yet is an end of
one of them and the others. -/
structure Stands (q : UuidText) (sent : List StatusMessage) (n : Nat) (t : List Char)
    (s : StatusReader) : Prop where
  tail : Tail q t
  stream : s.buffer ++ s.future = t ++ (sent.drop n).flatMap (StatusMessage.text q)
  emitted : s.emitted.Sublist (sent.take n)

/-- The invariant. -/
structure Inv (q : UuidText) (sent : List StatusMessage) (s : StatusReader) : Prop where
  stands : ∃ n t, Stands q sent n t s
  line : s.point = .reading → '\n' ∈ s.buffer
  ok : s.fault = false

theorem Inv.some_emitted (hi : Inv q sent s) : s.emitted.Sublist sent := by
  obtain ⟨n, t, h⟩ := hi.stands
  exact h.emitted.trans (List.take_sublist n sent)

theorem init_inv : Inv q sent (init q sent) :=
  ⟨⟨0, [], Tail.nil, rfl, List.nil_sublist _⟩, nofun, rfl⟩

theorem Inv.arrive (hi : Inv q sent s) (count : Nat) : Inv q sent (s.act q toInt (.arrive count)) := by
  obtain ⟨n, t, h⟩ := hi.stands
  refine ⟨⟨n, t, h.tail, ?_, h.emitted⟩, fun hp => List.mem_append_left _ (hi.line hp), hi.ok⟩
  show s.buffer ++ s.future.take count ++ s.future.drop count = _
  rw [List.append_assoc, List.take_append_drop]
  exact h.stream

/-- To another point, and to no line that is not there. -/
theorem Inv.goto (hi : Inv q sent s) {p : Point} (hp : p = .reading → '\n' ∈ s.buffer) :
    Inv q sent { s with point := p } :=
  ⟨hi.stands.imp fun _ h => h.imp fun _ h => ⟨h.tail, h.stream, h.emitted⟩, hp, hi.ok⟩

/-- A line that does not start with the word is passed over. -/
theorem onLine_other {command : List Char} (h : statusWord.isPrefixOf command = false) :
    s.onLine q toInt command = s := by
  simp [onLine, h]

/-- A message that is read whole is emitted as it was sent. -/
theorem onLine_text (h0 : toInt ['0', '\n'] = 0) (h1 : toInt ['1', '\n'] = 1) (m : StatusMessage) :
    s.onLine q toInt (m.text q) = { s with emitted := s.emitted ++ [m] } := by
  have huuid : ' ' ∉ q.toString m.uuid := q.not_mem m.uuid (by decide)
  have hflag : ' ' ∉ [if m.running then '1' else '0', '\n'] := by
    cases m.running <;> decide
  have hsplit : (m.text q).splitOn ' ' =
      [statusWord, q.toString m.uuid, [if m.running then '1' else '0', '\n']] := by
    rw [text, List.splitOn_append_cons_self_of_not_mem (by decide),
      List.splitOn_append_cons_self_of_not_mem huuid, List.splitOn_eq_singleton hflag]
  have hword : statusWord.isPrefixOf (m.text q) = true :=
    List.isPrefixOf_iff_prefix.mpr (List.prefix_append _ _)
  obtain ⟨uuid, running⟩ := m
  cases running with
  | false => simp [onLine, hword, hsplit, q.read, h0]
  | true => simp [onLine, hword, hsplit, q.read, h1]

/-- **A line read** is the end of a message, passed over, or a message, emitted. -/
theorem Inv.read (h0 : toInt ['0', '\n'] = 0) (h1 : toInt ['1', '\n'] = 1) (hi : Inv q sent s)
    (hline : '\n' ∈ s.buffer) {command buffer : List Char}
    (hread : Lines.readLine '\n' s.buffer = (command, buffer)) :
    Inv q sent ({ s with buffer := buffer, point := .counting }.onLine q toInt command) := by
  obtain ⟨n, t, h⟩ := hi.stands
  by_cases ht : t = []
  · subst ht
    cases hrest : sent.drop n with
    | nil =>
        have hnil := h.stream
        rw [hrest] at hnil
        rw [(List.append_eq_nil_iff.mp hnil).1] at hline
        cases hline
    | cons m rest =>
        have hstream := h.stream
        rw [hrest, List.nil_append, List.flatMap_cons] at hstream
        have hbreak : '\n' ∈ m.text q := by simp [text]
        obtain ⟨b, hb, hmore⟩ := Lines.readLine_prefix text_item hbreak hline hstream
        rw [hread] at hb
        cases hb
        rw [onLine_text h0 h1]
        have hdrop : sent.drop (n + 1) = rest := by
          rw [← List.drop_drop, hrest]
          rfl
        have htake : sent.take (n + 1) = sent.take n ++ [m] := by
          have hm : sent[n]? = some m := by
            rw [← List.head?_drop, hrest]
            rfl
          rw [List.take_add_one, hm]
          rfl
        refine ⟨⟨n + 1, [], Tail.nil, ?_, ?_⟩, nofun, hi.ok⟩
        · rw [hdrop]
          exact hmore
        · rw [htake]
          exact h.emitted.append (List.Sublist.refl _)
  · have ⟨hitem, hbreak⟩ := h.tail.line ht
    obtain ⟨b, hb, hmore⟩ := Lines.readLine_prefix hitem hbreak hline h.stream
    rw [hread] at hb
    cases hb
    rw [onLine_other h.tail.not_status]
    exact ⟨⟨n, [], Tail.nil, hmore, h.emitted⟩, nofun, hi.ok⟩

/-- What is thrown away takes messages away, and an end of one more. -/
theorem Inv.drain (hi : Inv q sent s) : Inv q sent { s with buffer := [], point := .loop } := by
  obtain ⟨n, t, h⟩ := hi.stands
  obtain ⟨t', k, ht', hf⟩ := h.tail.drop h.stream
  rw [List.drop_drop] at hf
  refine ⟨⟨n + k, t', ht', hf, ?_⟩, nofun, hi.ok⟩
  exact h.emitted.trans (List.take_sublist_take_left (Nat.le_add_right n k))

theorem Inv.run (h0 : toInt ['0', '\n'] = 0) (h1 : toInt ['1', '\n'] = 1) (hi : Inv q sent s) :
    Inv q sent (s.run q toInt) := by
  unfold StatusReader.run
  cases hp : s.point with
  | outside => exact hi
  | loop =>
      refine hi.goto fun h => ?_
      by_contra hline
      rw [if_neg hline] at h
      cases h
  | reading => exact hi.read h0 h1 (hi.line hp) rfl
  | counting =>
      refine hi.goto fun h => ?_
      split at h <;> cases h
  | testing =>
      refine hi.goto fun h => ?_
      split at h <;> cases h
  | draining => exact hi.drain

/-- **One action** keeps it. -/
theorem Inv.act (h0 : toInt ['0', '\n'] = 0) (h1 : toInt ['1', '\n'] = 1) (hi : Inv q sent s)
    (a : Action) : Inv q sent (s.act q toInt a) := by
  cases a with
  | arrive count => exact hi.arrive count
  | readyRead =>
      simp only [StatusReader.act]
      split
      · exact hi.goto nofun
      · exact hi
  | run => exact hi.run h0 h1

/-- **Statuses.**  However the stream comes in, between any two looks at it, the statuses emitted
are some of those sent, in order, each with its uuid and flag, and no field is missed. -/
theorem emitted_sublist (q : UuidText) (toInt : List Char → Int) (h0 : toInt ['0', '\n'] = 0)
    (h1 : toInt ['1', '\n'] = 1) (sent : List StatusMessage) (actions : List Action) :
    (actions.foldl (act q toInt) (init q sent)).emitted.Sublist sent ∧
      (actions.foldl (act q toInt) (init q sent)).fault = false := by
  have hi : Inv q sent (actions.foldl (act q toInt) (init q sent)) := by
    suffices h : ∀ s, Inv q sent s → Inv q sent (actions.foldl (act q toInt) s) from h _ init_inv
    induction actions with
    | nil => exact fun s hs => hs
    | cons a actions ih => exact fun s hs => ih _ (hs.act h0 h1 a)
  exact ⟨hi.some_emitted, hi.ok⟩

/-- Two statuses come in together but for the end of the second, which is thrown away, and a
third is sent. -/
theorem emitted_sublist_cut :
    let sent : List StatusMessage := [⟨1, true⟩, ⟨2, false⟩, ⟨3, true⟩]
    let actions : List Action :=
      [.arrive 60, .readyRead, .run, .run, .run, .run, .run, .arrive 100, .run, .run, .run, .run]
    (actions.foldl (act .braced stringToInt) (init .braced sent)).emitted.Sublist sent ∧
      (actions.foldl (act .braced stringToInt) (init .braced sent)).fault = false :=
  emitted_sublist .braced stringToInt (by decide) (by decide) _ _

/-! ## All of them -/

/-- `readAll` has something to throw away. -/
def ThrowsAway (s : StatusReader) (a : Action) : Prop :=
  a = .run ∧ s.point = .draining ∧ s.buffer ≠ []

/-- The messages that were read were emitted, and the others are on the way. -/
def Whole (q : UuidText) (sent : List StatusMessage) (s : StatusReader) : Prop :=
  ∃ n ≤ sent.length, s.buffer ++ s.future = (sent.drop n).flatMap (StatusMessage.text q) ∧
    s.emitted = sent.take n

/-- Fewer messages than were sent are all that can be emitted. -/
def Lossy (q : UuidText) (sent : List StatusMessage) (s : StatusReader) : Prop :=
  ∃ fewer : List StatusMessage, fewer.length < sent.length ∧ Inv q fewer s

theorem Whole.read (h0 : toInt ['0', '\n'] = 0) (h1 : toInt ['1', '\n'] = 1) (h : Whole q sent s)
    (hline : '\n' ∈ s.buffer) {command buffer : List Char}
    (hread : Lines.readLine '\n' s.buffer = (command, buffer)) :
    Whole q sent ({ s with buffer := buffer, point := .counting }.onLine q toInt command) := by
  obtain ⟨n, -, hstream, hemitted⟩ := h
  cases hrest : sent.drop n with
  | nil =>
      rw [hrest] at hstream
      rw [(List.append_eq_nil_iff.mp hstream).1] at hline
      cases hline
  | cons m rest =>
      rw [hrest, List.flatMap_cons] at hstream
      have hbreak : '\n' ∈ m.text q := by simp [text]
      obtain ⟨b, hb, hmore⟩ := Lines.readLine_prefix text_item hbreak hline hstream
      rw [hread] at hb
      cases hb
      have hlt : n < sent.length := by
        by_contra hle
        rw [List.drop_eq_nil_of_le (Nat.le_of_not_lt hle)] at hrest
        cases hrest
      have hdrop := List.drop_eq_getElem_cons hlt
      rw [hrest] at hdrop
      obtain ⟨hm, hdrop⟩ := List.cons.inj hdrop
      rw [onLine_text h0 h1]
      refine ⟨n + 1, hlt, ?_, ?_⟩
      · rw [← hdrop]
        exact hmore
      · show s.emitted ++ [m] = sent.take (n + 1)
        rw [hemitted, hm, List.take_append_getElem hlt]

/-- **One action** that throws nothing away. -/
theorem Whole.act (h0 : toInt ['0', '\n'] = 0) (h1 : toInt ['1', '\n'] = 1) (hi : Inv q sent s)
    (h : Whole q sent s) {a : Action} (ha : ¬ s.ThrowsAway a) : Whole q sent (s.act q toInt a) := by
  cases a with
  | arrive count =>
      obtain ⟨n, hn, hstream, hemitted⟩ := h
      refine ⟨n, hn, ?_, hemitted⟩
      show s.buffer ++ s.future.take count ++ s.future.drop count = _
      rw [List.append_assoc, List.take_append_drop]
      exact hstream
  | readyRead =>
      simp only [StatusReader.act]
      split
      · exact h
      · exact h
  | run =>
      simp only [StatusReader.act, StatusReader.run]
      split
      · exact h
      · exact h
      · next hp => exact h.read h0 h1 (hi.line hp) rfl
      · exact h
      · exact h
      · next hp =>
          have hempty : s.buffer = [] := by
            by_contra hne
            exact ha ⟨rfl, hp, hne⟩
          obtain ⟨n, hn, hstream, hemitted⟩ := h
          rw [hempty] at hstream
          exact ⟨n, hn, hstream, hemitted⟩

/-- **One action** that does: a message is gone for good. -/
theorem Whole.throw (h : Whole q sent s) (hok : s.fault = false) {a : Action} (ha : s.ThrowsAway a) :
    Lossy q sent (s.act q toInt a) := by
  obtain ⟨rfl, hpoint, hne⟩ := ha
  obtain ⟨n, -, hstream, hemitted⟩ := h
  obtain ⟨t, k, ht, hf⟩ := Tail.nil.drop hstream
  have hlt : n < sent.length := by
    by_contra hle
    rw [List.drop_eq_nil_of_le (Nat.le_of_not_lt hle)] at hstream
    exact hne (List.append_eq_nil_iff.mp hstream).1
  have hk : k ≠ 0 := by
    rintro rfl
    have hlength := congrArg List.length hstream
    have hlength' := congrArg List.length hf
    rw [List.drop_zero, List.length_append] at hlength'
    rw [List.length_append] at hlength
    have hpos := List.length_pos_of_ne_nil hne
    omega
  have htake : (sent.take n).length = n := List.length_take_of_le (Nat.le_of_lt hlt)
  have hact : s.act q toInt .run = { s with buffer := [], point := .loop } := by
    simp [StatusReader.act, StatusReader.run, hpoint]
  rw [hact]
  refine ⟨sent.take n ++ sent.drop (n + k), ?_, ⟨n, t, ht, ?_, ?_⟩, ?_, hok⟩
  · rw [List.length_append, htake, List.length_drop]
    omega
  · show s.future = _
    rw [List.drop_left' htake, hf, List.drop_drop]
  · show s.emitted.Sublist _
    rw [List.take_left' htake, hemitted]
  · intro h
    cases h

theorem Lossy.act (h0 : toInt ['0', '\n'] = 0) (h1 : toInt ['1', '\n'] = 1) (h : Lossy q sent s)
    (a : Action) : Lossy q sent (s.act q toInt a) := by
  obtain ⟨fewer, hlt, hi⟩ := h
  exact ⟨fewer, hlt, hi.act h0 h1 a⟩

/-- A whole run: what is thrown away once is gone. -/
theorem Whole.run (h0 : toInt ['0', '\n'] = 0) (h1 : toInt ['1', '\n'] = 1) (hi : Inv q sent s)
    (h : Whole q sent s) (actions : List Action) :
    (History.Along (fun s a _ => ¬ s.ThrowsAway a) s (History.trace (StatusReader.act q toInt) s actions) ∧
        Whole q sent (actions.foldl (StatusReader.act q toInt) s)) ∨
      (¬ History.Along (fun s a _ => ¬ s.ThrowsAway a) s (History.trace (StatusReader.act q toInt) s actions) ∧
        Lossy q sent (actions.foldl (StatusReader.act q toInt) s)) := by
  induction actions generalizing s with
  | nil => exact .inl ⟨trivial, h⟩
  | cons a actions ih =>
      by_cases ha : s.ThrowsAway a
      · refine .inr ⟨fun hall => hall.1 ha, ?_⟩
        have hlossy : Lossy q sent (s.act q toInt a) := h.throw hi.ok ha
        have hrest : ∀ (l : List Action) (t : StatusReader), Lossy q sent t →
            Lossy q sent (l.foldl (StatusReader.act q toInt) t) := by
          intro l
          induction l with
          | nil => exact fun t ht => ht
          | cons b l ihl => exact fun t ht => ihl _ (ht.act h0 h1 b)
        exact hrest actions _ hlossy
      · refine (ih (hi.act h0 h1 a) (h.act h0 h1 hi ha)).imp ?_ ?_
        · exact fun hrest => ⟨⟨ha, hrest.1⟩, hrest.2⟩
        · exact fun hrest => ⟨fun hall => hrest.1 hall.2, hrest.2⟩

/-- **All of them.**  When everything has come in and was read, the statuses emitted are those sent,
all of them, exactly if the client never threw anything away. -/
theorem emitted_all_iff (q : UuidText) (toInt : List Char → Int) (h0 : toInt ['0', '\n'] = 0)
    (h1 : toInt ['1', '\n'] = 1) (sent : List StatusMessage) (actions : List Action)
    (hbuffer : (actions.foldl (act q toInt) (init q sent)).buffer = [])
    (hfuture : (actions.foldl (act q toInt) (init q sent)).future = []) :
    (actions.foldl (act q toInt) (init q sent)).emitted = sent ↔
      History.Along (fun s a _ => ¬ s.ThrowsAway a) (init q sent)
        (History.trace (act q toInt) (init q sent) actions) := by
  have hstart : Whole q sent (init q sent) := ⟨0, Nat.zero_le _, rfl, rfl⟩
  rcases hstart.run h0 h1 init_inv actions with ⟨hall, n, hn, hstream, hemitted⟩ | ⟨hnot, fewer, hlt, hi⟩
  · refine iff_of_true ?_ hall
    rw [hbuffer, hfuture] at hstream
    have hnil : sent.drop n = [] := by
      cases hrest : sent.drop n with
      | nil => rfl
      | cons m rest =>
          rw [hrest, List.flatMap_cons] at hstream
          have htext := (List.append_eq_nil_iff.mp hstream.symm).1
          simp [text, statusWord] at htext
    rw [hemitted, List.take_of_length_le (List.drop_eq_nil_iff.mp hnil)]
  · refine iff_of_false ?_ hnot
    intro hall
    have hle := hi.some_emitted.length_le
    rw [hall] at hle
    exact Nat.not_lt_of_le hle hlt

/-- Two statuses come in together but for the end of the second. -/
theorem emitted_all_iff_cut :
    let sent : List StatusMessage := [⟨1, true⟩, ⟨2, false⟩]
    let actions : List Action :=
      [.arrive 60, .readyRead, .run, .run, .run, .run, .run, .arrive 100, .run, .run, .run, .run]
    (actions.foldl (act .braced stringToInt) (init .braced sent)).emitted = sent ↔
      History.Along (fun s a _ => ¬ s.ThrowsAway a) (init .braced sent)
        (History.trace (act .braced stringToInt) (init .braced sent) actions) :=
  emitted_all_iff .braced stringToInt (by decide) (by decide) _ _ (by decide) (by decide)

end StatusReader

end SeamlessSmb
