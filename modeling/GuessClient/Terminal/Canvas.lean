import GuessClient.Terminal.Area
import GuessClient.Terminal.Text

/-!
A screen as rows of cells. A cell shows what was last put there; a wide symbol hides the cells to its
right.
-/

namespace GuessClient.Terminal

structure Cell where
  symbol : List Char := [' ']
  style : Style := {}
  deriving DecidableEq, Repr

structure Canvas where
  rows : Array (Array Cell)

namespace Canvas

def blank (width height : Nat) : Canvas := ⟨.replicate height (.replicate width {})⟩

def update (c : Canvas) (x y : Nat) (f : Cell → Cell) : Canvas :=
  ⟨c.rows.modify y (·.modify x f)⟩

def mapArea (c : Canvas) (a : Area) (f : Nat → Nat → Cell → Cell) : Canvas :=
  ⟨c.rows.mapIdx fun y row => row.mapIdx fun x cell =>
    if a.contains x y then f x y cell else cell⟩

def paint (c : Canvas) (a : Area) (s : Style) : Canvas :=
  c.mapArea a fun _ _ cell => { cell with style := s.over cell.style }

def put (c : Canvas) (x y : Nat) (g : Glyph) : Canvas :=
  c.update x y fun cell => ⟨g.symbol, g.style.over cell.style⟩

def append (c : Canvas) (x y : Nat) (g : Glyph) : Canvas :=
  c.update x y fun cell => ⟨cell.symbol ++ g.symbol, g.style.over cell.style⟩

/-- Puts a row of glyphs from a place on. Those without columns are not drawn. -/
def putGlyphs (c : Canvas) (x y : Nat) : List Glyph → Canvas
  | [] => c
  | g :: rest =>
    if g.columns = 0 then c.putGlyphs x y rest
    else (c.put x y g).putGlyphs (x + g.columns) y rest

def hide (c : Canvas) (x y : Nat) : Nat → Canvas
  | 0 => c
  | n + 1 => (c.update x y fun _ => {}).hide (x + 1) y n

/-- Puts the glyphs of a span from a place on, as far as they end by `stop`. Glyphs without columns are
added to the cell before them, and everything is added to the first cell while it is all that has been
reached. -/
def spanGlyphs (c : Canvas) (start stop y : Nat) (first : Bool) (x : Nat) : List Glyph → Canvas
  | [] => c
  | g :: rest =>
    let next := x + g.columns
    if stop < next then c
    else
      let c :=
        if first then c.put x y g
        else if x = start then c.append x y g
        else if g.columns = 0 then c.append (x - 1) y g
        else c.put x y g
      (c.hide (x + 1) y (next - (x + 1))).spanGlyphs start stop y false next rest

def putSpans (c : Canvas) (x stop y : Nat) : Line → Canvas
  | [] => c
  | s :: rest =>
    if s.columns = 0 then c.putSpans x stop y rest
    else if stop ≤ x then c
    else (c.spanGlyphs x stop y true x s.glyphs).putSpans (x + s.columns) stop y rest

def frameSymbol (a : Area) (x y : Nat) : Option Char :=
  let left : Bool := x = a.x
  let top : Bool := y = a.y
  let right : Bool := x + 1 = a.right
  let bottom : Bool := y + 1 = a.bottom
  if left && top then some '┌'
  else if left && bottom then some '└'
  else if right && top then some '┐'
  else if right && bottom then some '┘'
  else if top || bottom then some '─'
  else if left || right then some '│'
  else none

def frame (c : Canvas) (a : Area) (title : Line) : Canvas :=
  if a.isEmpty then c
  else
    let c := c.mapArea a fun x y cell =>
      match frameSymbol a x y with
      | some symbol => { cell with symbol := [symbol] }
      | none => cell
    let width := min title.columns (a.width - 1 - 1)
    c.putSpans (a.x + 1) (a.x + 1 + width) a.y title

def seen (hidden : Nat) : List Cell → List Cell
  | [] => []
  | cell :: rest =>
    match hidden with
    | n + 1 => seen n rest
    | 0 => cell :: seen (GuessClient.Text.columns cell.symbol - 1) rest

def joined : List Cell → List (List Char × Style)
  | [] => []
  | cell :: rest =>
    match joined rest with
    | (text, style) :: pieces =>
      if style = cell.style then (cell.symbol ++ text, style) :: pieces
      else (cell.symbol, cell.style) :: (text, style) :: pieces
    | [] => [(cell.symbol, cell.style)]

def trimmed : List (List Char × Style) → List (List Char × Style)
  | [] => []
  | [(text, style)] =>
    if style = {} then
      let text := (text.reverse.dropWhile (· = ' ')).reverse
      if text.isEmpty then [] else [(text, style)]
    else [(text, style)]
  | piece :: rest => piece :: trimmed rest

def pieces (c : Canvas) : List (List (List Char × Style)) :=
  c.rows.toList.map fun row => trimmed (joined (seen 0 row.toList))

end Canvas

end GuessClient.Terminal
