import GuessClient.Terminal.Canvas
import GuessClient.Terminal.Wrap

/-!
Lines drawn into an area.
-/

namespace GuessClient.Terminal

inductive Alignment where
  | left
  | center
  | right
  deriving DecidableEq, Repr

inductive Flow where
  | cut
  | wrap (trim : Bool)
  deriving DecidableEq, Repr

structure Paragraph where
  lines : List Line
  style : Style := {}
  alignment : Alignment := .left
  flow : Flow := .cut
  scroll : Nat := 0

def Alignment.offset (alignment : Alignment) (width columns : Nat) : Nat :=
  match alignment with
  | .left => 0
  | .center => width / 2 - columns / 2
  | .right => width - columns

namespace Paragraph

def rows (p : Paragraph) (width : Nat) : List (List Glyph) :=
  if width = 0 then []
  else
    match p.flow with
    | .cut => p.lines.map fun l => cutOff width l.glyphs
    | .wrap trim => p.lines.flatMap fun l => wrap trim width l.glyphs

def drawRows (p : Paragraph) (c : Canvas) (x y width : Nat) : List (List Glyph) → Canvas
  | [] => c
  | row :: rest =>
    let offset := p.alignment.offset width (glyphColumns row)
    p.drawRows (c.putGlyphs (x + offset) y row) x (y + 1) width rest

def draw (p : Paragraph) (a : Area) (c : Canvas) : Canvas :=
  if a.isEmpty then c
  else
    p.drawRows (c.paint a p.style) a.x a.y a.width (((p.rows a.width).drop p.scroll).take a.height)

def drawFramed (p : Paragraph) (title : Line) (a : Area) (c : Canvas) : Canvas :=
  p.draw a.inner ((c.paint a p.style).frame a title)

end Paragraph

end GuessClient.Terminal
