import GuessClient.Panel.Home
import GuessClient.Panel.Log

/-!
The screen of a session.
-/

namespace GuessClient.Panel

open GuessClient.Terminal

structure SessionLayout where
  header : Area
  log : Area
  notice : Area
  tabs : Area
  input : Area
  help : Area
  deriving DecidableEq, Repr

/-- The log takes the rows that the other areas leave. When rows are scarce its first three are served
before the header, then a row for each of the other areas, which they share alike until it is there, and
last the frame of the input box. -/
def SessionLayout.ofScreen (screen : Area) : SessionLayout :=
  let area := screen.within sideMargin 0
  let log := remainder 3 area.height 9
  let header := min 3 (area.height - log)
  let top := header + log
  let shared := min 4 (area.height - top)
  let frame := area.height - top - shared
  let edge := fun k => top + sharedEdge 4 shared k
  { header := area.rows 0 header
    log := area.rows header log
    notice := area.rows top (edge 1 - top)
    tabs := area.rows (edge 1) (edge 2 - edge 1)
    input := area.rows (edge 2) (edge 3 + frame - edge 2)
    help := area.rows (edge 3 + frame) 1 }

/-- Red and blinking in the last minute, and green when the session ended before its time. -/
def timerStyle (s : GuessClient.Session) (remaining : UInt64) : Style :=
  if s.ended && 0 < remaining then { foreground := some .green, bold := true }
  else if remaining < 60 then { foreground := some .red, bold := true, slowBlink := true }
  else { bold := true }

def placeholder (s : GuessClient.Session) : String :=
  if s.ended then "Game over"
  else
    match s.mode with
    | .chat => "Ask the AI about the function's features"
    | .answer => "Enter a formula (e.g. x^2 + sin(x))"
    | .substitute => "Enter a value for x (e.g. 1.5)"

def logLines : Option GuessClient.Session → List Line
  | some s => messageLines s.messages
  | none => [[span "Connecting to session..." { foreground := some .gray, italic := true }]]

def scrollLimit (s : Option GuessClient.Session) (screen : Area) : Nat :=
  match s with
  | none => 0
  | some s =>
    let log := (SessionLayout.ofScreen screen).log.inner
    wrappedHeight (messageLines s.messages) log.width - log.height

def logOffset (lines : List Line) (log : Area) (scroll : Nat) : Nat :=
  wrappedHeight lines log.width - log.height - scroll

/-- The place of the cursor after a text in the input box; it stays in the last column. -/
def inputCursor (box : Area) (text : String) : Nat × Nat :=
  let after := saturate (saturate (box.x + 1) + saturate (GuessClient.Text.columns text.toList))
  (min after (saturate (box.x + (box.width - 2))), saturate (box.y + 1))

structure SessionPage where
  id : String
  session : Option GuessClient.Session
  input : String
  scroll : Nat
  notice : Option String

def drawHeader (p : SessionPage) (area : Area) (c : Canvas) : Canvas :=
  let inner := area.inner
  let idWidth := remainder 1 inner.width 9
  let c := c.frame area [span "FunGuessr" { bold := true }]
  let c := { lines := [[span s!"ID: {p.id}" { dim := true }]] : Paragraph }.draw
    (inner.columns 0 idWidth) c
  let timer := match p.session.bind fun s => s.remaining.map (s, ·) with
    | some (s, remaining) => span (timeText remaining) (timerStyle s remaining)
    | none => span "--:--" { foreground := some .gray, bold := true }
  { lines := [[timer]], alignment := .right : Paragraph }.draw (inner.columns idWidth 9) c

def drawLog (p : SessionPage) (area : Area) (c : Canvas) : Canvas :=
  let lines := logLines p.session
  { lines, flow := .wrap false, scroll := logOffset lines area.inner p.scroll : Paragraph }.draw
    area.inner (c.frame area [span "Log"])

def tabLine (mode : Mode) : Line :=
  let active : Style := { foreground := some .black, background := some .white, bold := true }
  let inactive : Style := { foreground := some .gray }
  let (command, chat) := match mode with
    | .chat => (inactive, { active with background := some .magenta })
    | _ => (active, inactive)
  [span " ⚙️ Command " command, span " ", span " 🗣️ Chat " chat]
    ++ match mode with
      | .chat => []
      | mode => [span "   ", span s!"[{mode.word}]" { foreground := some .cyan, bold := true }]

def drawInput (s : GuessClient.Session) (input : String) (area : Area) (c : Canvas) : Canvas :=
  let content :=
    if input.isEmpty then span (placeholder s) { foreground := some .darkGray, italic := true }
    else span input
  { lines := [[content]]
    style := if s.locked then { foreground := some .gray } else {} : Paragraph }.drawFramed
    [span (if s.loading then "..." else "SEND")] area c

def session (p : SessionPage) (screen : Area) (c : Canvas) : Canvas :=
  let layout := SessionLayout.ofScreen screen
  let c := drawLog p layout.log (drawHeader p layout.header c)
  let c := match p.notice with
    | some notice =>
      { lines := [[span notice { foreground := some .yellow }]] : Paragraph }.draw layout.notice c
    | none => c
  match p.session with
  | none => c
  | some s =>
    let c := { lines := [tabLine s.mode] : Paragraph }.draw layout.tabs c
    let c := drawInput s p.input layout.input c
    (helpLine "(enter) send  (tab) command/chat  (shift+tab) ANS/INPUT  (ctrl+o) hint  (↑/↓) scroll  (esc) quit").draw
      layout.help c

end GuessClient.Panel
