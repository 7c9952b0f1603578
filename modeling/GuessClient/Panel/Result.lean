import GuessClient.Panel.Home

/-!
The screen with the result of a game.
-/

namespace GuessClient.Panel

open GuessClient.Terminal

def verdictLines : Option Bool → List Line
  | some true => [[span "🎉 Cleared!" { foreground := some .green, bold := true }]]
  | some false => [[span "Not cleared" { foreground := some .red, bold := true }]]
  | none => []

def resultLines (r : GameResult) : List Line :=
  verdictLines r.succeeded
    ++ (r.clearTime.map fun t => flatLine s!"Clear time: {Decimal.onePlace t}s").toList
    ++ (r.formula.map fun f => flatLine s!"Correct formula: {f}").toList
    ++ [[]]
    ++ (GuessClient.Text.lines (r.whole.prettyChars 0)).map fun l => [⟨l, { dim := true }⟩]

def result (page : Option ResultPage) (screen : Area) (c : Canvas) : Canvas :=
  let area := screen.within sideMargin 1
  let body := remainder 1 area.height 4
  let heading := remainder 1 (area.height - body) 1
  let id := (page.map ResultPage.session).getD ""
  let title := flatLine s!"ID: {id}"
  let lines := match page.bind ResultPage.result with
    | none => [[span "Loading result..." { foreground := some .gray, italic := true }]]
    | some r => resultLines r
  let c := (centered "Result" { foreground := some .cyan, bold := true }).drawFramed title
    (area.rows 0 heading) c
  let c := { lines, flow := .wrap false : Paragraph }.drawFramed [] (area.rows heading body) c
  (helpLine "(n) new game   (h) home   (esc) quit").draw (area.rows (heading + body) 1) c

end GuessClient.Panel
