/-
# `Commands` — what the service makes of the commands it is sent

A peer of the service writes commands on its connection.  `Server::onReadyRead` reads one line
for each notification, and most commands become a signal, which reaches the daemon if
`Daemon::start` connected it to a slot.

| source | here |
| :-- | :-- |
| the texts `Client` writes | `Command.text` |
| `Server::onReadyRead`, one line | `onReadyRead` |
| `connect(sock, &Server::…, this, &Daemon::…)` | `Signal.slot` |
| the notifications of one connection | `serve` |

`CONTROLLER` comes without an end of line, and no slot is connected to `unmount`.

**Proved here:** the commands are carried out one by one exactly if there is no `stop/` among
them and the notifications keep pace with them (`carriedOut_iff`).
-/
import SeamlessSmb.Lib.Lines
import SeamlessSmb.Platform.Qt

namespace SeamlessSmb

/-! ## Commands and signals -/

inductive Command
  | controller
  | reload
  | start (uuid : BitVec 128)
  | stop (uuid : BitVec 128)

def controllerText : List Char := ['C', 'O', 'N', 'T', 'R', 'O', 'L', 'L', 'E', 'R']
def reloadText : List Char := ['r', 'e', 'l', 'o', 'a', 'd', '\n']
def startText : List Char := ['s', 't', 'a', 'r', 't', '/']
def stopText : List Char := ['s', 't', 'o', 'p', '/']
def mountokText : List Char := ['m', 'o', 'u', 'n', 't', 'o', 'k', '/']
def mounterrText : List Char := ['m', 'o', 'u', 'n', 't', 'e', 'r', 'r', '/']

/-- What is written for a command. -/
def Command.text (q : UuidText) : Command → List Char
  | .controller => controllerText
  | .reload => reloadText
  | .start uuid => startText ++ (q.toString uuid ++ ['\n'])
  | .stop uuid => stopText ++ (q.toString uuid ++ ['\n'])

/-- The signals of `Server` that `onReadyRead` emits. -/
inductive Signal
  | reloadMounts
  | mount (uuid : BitVec 128)
  | unmount (uuid : BitVec 128)
  | mountok (uuid : BitVec 128)
  | mounterr (uuid : BitVec 128)

/-- What comes of a command: the connection is kept in `controller`, or a slot of the daemon
is called. -/
inductive Effect
  | registered
  | reloadMounts
  | mount (uuid : BitVec 128)
  | unmount (uuid : BitVec 128)

/-- The connections made in `Daemon::start`. -/
def Signal.slot : Signal → Option Effect
  | .reloadMounts => some .reloadMounts
  | .mount uuid => some (.mount uuid)
  | .unmount _ => none
  | .mountok _ => none
  | .mounterr _ => none

/-- What a command asks for. -/
def Command.effect : Command → Effect
  | .controller => .registered
  | .reload => .reloadMounts
  | .start uuid => .mount uuid
  | .stop uuid => .unmount uuid

/-! ## Reading -/

/-- The branches of `Server::onReadyRead` for the line read. -/
def onReadyRead (q : UuidText) (command : List Char) : Option Effect :=
  if command = reloadText then Signal.slot .reloadMounts
  else if stopText.isPrefixOf command then
    Signal.slot (.unmount (q.ofString (removeAll stopText 0 command)))
  else if startText.isPrefixOf command then
    Signal.slot (.mount (q.ofString (removeAll startText 0 command)))
  else if command = controllerText then some .registered
  else if mountokText.isPrefixOf command then
    Signal.slot (.mountok (q.ofString (removeAll mountokText 0 command)))
  else if mounterrText.isPrefixOf command then
    Signal.slot (.mounterr (q.ofString (removeAll mounterrText 0 command)))
  else none

/-- A connection after its notifications: the lines that were read, what they came to, and
what was not read. -/
structure Connection where
  lines : List (List Char)
  effects : List Effect
  buffer : List Char

/-- The notifications of one connection, each with the bytes that came since the last one. -/
def serve (q : UuidText) (chunks : List (List Char)) : Connection :=
  let (lines, buffer) := Lines.readEach '\n' [] chunks
  { lines := lines.filter fun line => line ≠ []
    effects := lines.filterMap (onReadyRead q)
    buffer := buffer }

/-- Each command was read by itself and carried out, in order, and none is left. -/
structure CarriedOut (q : UuidText) (commands : List Command) (c : Connection) : Prop where
  lines : c.lines = commands.map (Command.text q)
  effects : c.effects = commands.map Command.effect
  read : c.buffer = []

section

variable {q : UuidText} {commands : List Command} {chunks : List (List Char)}

theorem Command.text_item (c : Command) : Lines.Item '\n' (c.text q) := by
  have hline : ∀ uuid (p : List Char), '\n' ∉ p →
      Lines.Item '\n' (p ++ (q.toString uuid ++ ['\n'])) := by
    intro uuid p hp
    rw [← List.append_assoc]
    refine Lines.item_line fun hm => ?_
    exact (List.mem_append.mp hm).elim hp (q.not_mem uuid (by decide))
  cases c with
  | controller => exact Lines.item_open (List.cons_ne_nil _ _) (show '\n' ∉ controllerText by decide)
  | reload => exact Lines.item_line (l := ['r', 'e', 'l', 'o', 'a', 'd']) (by decide)
  | start uuid => exact hline uuid startText (by decide)
  | stop uuid => exact hline uuid stopText (by decide)

/-- What comes of a command that is read as it was written. -/
theorem onReadyRead_text (c : Command) :
    onReadyRead q (c.text q) = match c with
      | .stop _ => none
      | c => some c.effect := by
  cases c with
  | controller => rfl
  | reload => rfl
  | start uuid =>
      have huuid : removeAll startText 0 (startText ++ (q.toString uuid ++ ['\n'])) =
          q.toString uuid ++ ['\n'] := by
        refine removeAll_prefix fun hm => ?_
        exact (List.mem_append.mp hm).elim (q.not_mem uuid (by decide)) (by decide)
      simp only [onReadyRead, Command.text, huuid, q.readEol]
      simp [reloadText, stopText, startText, Signal.slot, Command.effect]
  | stop uuid =>
      simp only [onReadyRead, Command.text]
      simp [reloadText, stopText, Signal.slot]

/-- Of commands read one by one only a `stop/` comes to nothing. -/
theorem effects_iff :
    (commands.map (Command.text q)).filterMap (onReadyRead q) = commands.map Command.effect ↔
      ∀ uuid, Command.stop uuid ∉ commands := by
  induction commands with
  | nil => simp
  | cons c commands ih =>
      rw [List.map_cons, List.filterMap_cons, onReadyRead_text]
      cases c with
      | stop uuid =>
          refine iff_of_false (fun h => ?_) fun h => h uuid List.mem_cons_self
          -- one effect too few
          have hle := List.length_filterMap_le (onReadyRead q) (commands.map (Command.text q))
          have hlen := congrArg List.length h
          simp only [List.length_map, List.length_cons] at hle hlen
          omega
      | controller => simpa using ih
      | reload => simpa using ih
      | start uuid => simpa using ih

/-- Lines that are empty come to nothing. -/
theorem serve_effects :
    (serve q chunks).effects = (serve q chunks).lines.filterMap (onReadyRead q) := by
  simp only [serve, List.filterMap_filter]
  refine List.filterMap_congr fun line _ => ?_
  cases line with
  | nil => rfl
  | cons c line => rfl

/-- **Commands.**  However the stream is cut into notifications, each command is read by itself
and carried out, in order, exactly if none is a `stop/` and each notification finds in the buffer
nothing or first one whole command, `CONTROLLER` alone, until there is none left. -/
theorem carriedOut_iff (q : UuidText) (commands : List Command) (chunks : List (List Char))
    (hsent : chunks.flatten = (commands.map (Command.text q)).flatten) :
    CarriedOut q commands (serve q chunks) ↔
      (∀ uuid, Command.stop uuid ∉ commands) ∧
        Lines.Paced '\n' (commands.map (Command.text q)) [] chunks := by
  have hitems : ∀ l ∈ commands.map (Command.text q), Lines.Item '\n' l := by
    intro l hl
    obtain ⟨c, -, rfl⟩ := List.mem_map.mp hl
    exact c.text_item
  have hpaced : (serve q chunks).lines = commands.map (Command.text q) ∧ (serve q chunks).buffer = [] ↔ _ :=
    Lines.readEach_iff (b := []) hitems hsent
  constructor
  · intro h
    refine ⟨?_, hpaced.mp ⟨h.lines, h.read⟩⟩
    have heffects := h.effects
    rw [serve_effects, h.lines] at heffects
    exact effects_iff.mp heffects
  · rintro ⟨hstop, h⟩
    obtain ⟨hlines, hread⟩ := hpaced.mpr h
    refine ⟨hlines, ?_, hread⟩
    rw [serve_effects, hlines]
    exact effects_iff.mpr hstop

end

/-- The controller connects, and two commands arrive together with a third notification after
them. -/
theorem carriedOut_apart :
    CarriedOut .braced [.controller, .reload, .start 1]
      (serve .braced [controllerText, reloadText ++ Command.text .braced (.start 1), []]) :=
  (carriedOut_iff .braced [.controller, .reload, .start 1] _ (by decide)).mpr
    ⟨by simp, by decide⟩

/-- The controller connects and an edit follows before the service reads. -/
theorem not_carriedOut :
    ¬ ∀ (q : UuidText) (commands : List Command) (chunks : List (List Char)),
      chunks.flatten = (commands.map (Command.text q)).flatten →
        CarriedOut q commands (serve q chunks) := by
  intro h
  have hlines := (h .braced [.controller, .reload] [controllerText ++ reloadText] rfl).lines
  exact absurd (congrArg List.length hlines) (by decide)

end SeamlessSmb
