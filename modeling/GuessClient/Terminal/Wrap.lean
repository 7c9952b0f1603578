import GuessClient.Terminal.Text

/-!
Lines that are too wide for their area: cut off, or wrapped between words. A word that is too wide for a
row is broken.
-/

namespace GuessClient.Terminal

def glyphColumns (gs : List Glyph) : Nat := gs.foldr (fun g n => g.columns + n) 0

/-- The glyphs that fit, after some that take `used` columns. Glyphs that never fit are passed over. -/
def fitting (width used : Nat) : List Glyph → List Glyph
  | [] => []
  | g :: rest =>
    if width < g.columns then fitting width used rest
    else if width < used + g.columns then []
    else g :: fitting width (used + g.columns) rest

def cutOff (width : Nat) (glyphs : List Glyph) : List Glyph := fitting width 0 glyphs

structure Wrapping where
  rows : List (List Glyph) := []
  row : List Glyph := []
  rowColumns : Nat := 0
  /-- The white space after the row, and after it the word that is being read. -/
  space : List Glyph := []
  spaceColumns : Nat := 0
  word : List Glyph := []
  wordColumns : Nat := 0
  inWord : Bool := false

namespace Wrapping

/-- Whether the word must go into the row before a glyph is read: the word is over, or the row is still
empty and the word does not fit with the glyph. -/
def flushes (w : Wrapping) (trim : Bool) (width : Nat) (g : Glyph) : Bool :=
  (w.inWord && g.isBreak)
    || (w.row.isEmpty &&
      if trim then width < w.wordColumns + g.columns || width < w.spaceColumns + g.columns
      else width < w.wordColumns + w.spaceColumns + g.columns)

/-- Puts the word into the row. The white space before it goes along, but not to the start of a row
that is to be trimmed. -/
def flush (w : Wrapping) (trim : Bool) : Wrapping :=
  let keeps := !w.row.isEmpty || !trim
  { w with
    row := w.row ++ (if keeps then w.space else []) ++ w.word
    rowColumns := w.rowColumns + (if keeps then w.spaceColumns else 0) + w.wordColumns
    space := []
    spaceColumns := 0
    word := []
    wordColumns := 0 }

def dropSpace (columns : Nat) : List Glyph → List Glyph
  | [] => []
  | g :: rest => if columns < g.columns then g :: rest else dropSpace (columns - g.columns) rest

def isFull (w : Wrapping) (width : Nat) (g : Glyph) : Bool :=
  width ≤ w.rowColumns
    || (0 < g.columns && width ≤ w.rowColumns + w.spaceColumns + w.wordColumns)

/-- Ends the row. White space that would have fitted into it is gone. -/
def breakRow (w : Wrapping) (width : Nat) : Wrapping :=
  let space := dropSpace (width - w.rowColumns) w.space
  { w with
    rows := w.rows ++ [w.row]
    row := []
    rowColumns := 0
    space := space
    spaceColumns := glyphColumns space }

def take (w : Wrapping) (g : Glyph) : Wrapping :=
  if g.isBreak then
    { w with
      space := w.space ++ [g]
      spaceColumns := w.spaceColumns + g.columns
      inWord := false }
  else
    { w with
      word := w.word ++ [g]
      wordColumns := w.wordColumns + g.columns
      inWord := true }

/-- Reads a glyph; one that never fits is passed over. The first white space after a row that was full
is dropped. -/
def step (trim : Bool) (width : Nat) (w : Wrapping) (g : Glyph) : Wrapping :=
  if width < g.columns then w
  else
    let w := if w.flushes trim width g then w.flush trim else w
    if w.isFull width g then
      let w := w.breakRow width
      if g.isBreak && w.space.isEmpty then w else w.take g
    else w.take g

/-- The rows once the line is over. White space alone makes an empty row, besides the row that it fills
when it is not trimmed. -/
def finish (w : Wrapping) (trim : Bool) : List (List Glyph) :=
  let blank := w.row.isEmpty && w.word.isEmpty && !w.space.isEmpty
  let rows := if blank then w.rows ++ [[]] else w.rows
  let row := w.row ++ (if !w.row.isEmpty || !trim then w.space else []) ++ w.word
  let rows := if row.isEmpty then rows else rows ++ [row]
  if rows.isEmpty then [[]] else rows

end Wrapping

def wrap (trim : Bool) (width : Nat) (glyphs : List Glyph) : List (List Glyph) :=
  (glyphs.foldl (Wrapping.step trim width) {}).finish trim

end GuessClient.Terminal
