import GuessClient.Text.Grapheme
import GuessClient.Text.White
import GuessClient.Text.Width

/-!
Styles of cells, and styled text. What is drawn of a text are its grapheme clusters, without line
feeds.
-/

namespace GuessClient.Terminal

inductive Color where
  | black
  | red
  | green
  | yellow
  | blue
  | magenta
  | cyan
  | gray
  | darkGray
  | white
  deriving DecidableEq, Repr

/-- A color that is not given stays what it was. -/
structure Style where
  foreground : Option Color := none
  background : Option Color := none
  bold : Bool := false
  dim : Bool := false
  italic : Bool := false
  slowBlink : Bool := false
  deriving DecidableEq, Repr

def Style.over (top bottom : Style) : Style where
  foreground := top.foreground <|> bottom.foreground
  background := top.background <|> bottom.background
  bold := top.bold || bottom.bold
  dim := top.dim || bottom.dim
  italic := top.italic || bottom.italic
  slowBlink := top.slowBlink || bottom.slowBlink

structure Span where
  text : List Char
  style : Style := {}
  deriving DecidableEq, Repr

abbrev Line := List Span

def Span.columns (s : Span) : Nat := GuessClient.Text.columns s.text

def Line.columns (l : Line) : Nat := l.foldr (fun s n => s.columns + n) 0

structure Glyph where
  symbol : List Char
  style : Style
  deriving DecidableEq, Repr

def Glyph.columns (g : Glyph) : Nat := GuessClient.Text.columns g.symbol

/-- Whether a line can be broken at a glyph: white space, but for the no-break space, and the
zero-width space. -/
def Glyph.isBreak (g : Glyph) : Bool :=
  g.symbol = ['\u200b'] || (g.symbol.all GuessClient.Text.isWhite && g.symbol ≠ ['\u00a0'])

def Span.glyphs (s : Span) : List Glyph :=
  ((GuessClient.Text.clusters s.text).filter (· ≠ ['\n'])).map (⟨·, s.style⟩)

def Line.glyphs (l : Line) : List Glyph := l.flatMap Span.glyphs

def span (text : String) (style : Style := {}) : Span := ⟨text.toList, style⟩

/-- A line of one style. The line feeds in its text do not count. -/
def flatLine (text : String) : Line := (GuessClient.Text.lines text.toList).map (⟨·, {}⟩)

end GuessClient.Terminal
