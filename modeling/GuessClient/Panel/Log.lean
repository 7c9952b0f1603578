import GuessClient.Session
import GuessClient.Terminal.Area
import GuessClient.Terminal.Text

/-!
The messages of a session as lines, and the rows that these take.
-/

namespace GuessClient.Panel

open GuessClient.Terminal

def attachedText : String := "[hint graph attached: press ctrl+o to open]"

def roleIcon : Role → String
  | .player => "👤"
  | .system => "💻"
  | .analyst => "🤖"

def roleLine (role : Role) : Line :=
  [span s!"{roleIcon role} {role.label}" { bold := true, dim := true }]

def messageStyle (m : Message) : Style :=
  match m.role, m.kind with
  | .player, _ => { foreground := some .blue }
  | .analyst, _ => { foreground := some .magenta }
  | .system, .error => { foreground := some .red }
  | .system, .success => { foreground := some .green, bold := true }
  | .system, .image => { foreground := some .yellow }
  | .system, .text => {}

def linesOf (m : Message) : List Line :=
  roleLine m.role
    :: (GuessClient.Text.lines m.body.toList).map (fun l => [⟨l, messageStyle m⟩])
    ++ (if m.kind = .image && m.picture.isSome then [[span attachedText { italic := true }]] else [])
    ++ [[]]

def messageLines (ms : List Message) : List Line := ms.flatMap linesOf

def lineHeight (width : Nat) (l : Line) : Nat := max 1 ((l.columns + width - 1) / width)

def wrappedHeight (lines : List Line) (width : Nat) : Nat :=
  if width = 0 then 0 else saturate (lines.foldr (fun l n => lineHeight width l + n) 0)

end GuessClient.Panel
