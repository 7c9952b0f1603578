import Mathlib.Data.List.Induction
import GuessClient.Terminal.Wrap

/-!
Lines for which the rows of wrapping can be told in advance. A line that fits into one row stays
whole, if there is more in it than white space. A line of glyphs that all take the same columns, and
that cannot be broken anywhere, fills one row after the other.
-/

namespace GuessClient.Terminal

theorem glyphColumns_append (earlier later : List Glyph) :
    glyphColumns (earlier ++ later) = glyphColumns earlier + glyphColumns later := by
  induction earlier with
  | nil => simp [glyphColumns]
  | cons g rest ih =>
    simp only [glyphColumns, List.cons_append, List.foldr_cons] at ih ⊢
    omega

theorem glyphColumns_singleton (g : Glyph) : glyphColumns [g] = g.columns := by
  simp [glyphColumns]

/-- The line fits into one row, it can only be broken at white space that is seen, and there is more in
it than that. -/
structure Fits (width : Nat) (glyphs : List Glyph) : Prop where
  columns : glyphColumns glyphs ≤ width
  seen : ∀ g ∈ glyphs, g.isBreak = true → 0 < g.columns
  word : glyphs = [] ∨ ∃ g ∈ glyphs, g.isBreak = false

/-- The line cannot be broken between its glyphs, of which so many fill a row. -/
structure Solid (width each : Nat) (glyphs : List Glyph) : Prop where
  positive : 0 < each
  divides : each ∣ width
  unbroken : ∀ g ∈ glyphs, g.isBreak = false
  columns : ∀ g ∈ glyphs, g.columns = each

instance (width : Nat) (glyphs : List Glyph) : Decidable (Fits width glyphs) :=
  decidable_of_iff
    (glyphColumns glyphs ≤ width ∧ (∀ g ∈ glyphs, g.isBreak = true → 0 < g.columns) ∧
      (glyphs = [] ∨ ∃ g ∈ glyphs, g.isBreak = false))
    ⟨fun ⟨columns, seen, word⟩ => ⟨columns, seen, word⟩,
      fun ⟨columns, seen, word⟩ => ⟨columns, seen, word⟩⟩

instance (width each : Nat) (glyphs : List Glyph) : Decidable (Solid width each glyphs) :=
  decidable_of_iff
    (0 < each ∧ each ∣ width ∧ (∀ g ∈ glyphs, g.isBreak = false) ∧
      ∀ g ∈ glyphs, g.columns = each)
    ⟨fun ⟨positive, divides, unbroken, columns⟩ => ⟨positive, divides, unbroken, columns⟩,
      fun ⟨positive, divides, unbroken, columns⟩ => ⟨positive, divides, unbroken, columns⟩⟩

theorem fits_wider {width wider : Nat} (wide : width ≤ wider) {glyphs : List Glyph}
    (fits : Fits width glyphs) : Fits wider glyphs :=
  ⟨Nat.le_trans fits.columns wide, fits.seen, fits.word⟩

namespace Wrapping

section

variable {trim : Bool} {width : Nat} {w : Wrapping} {g : Glyph}

theorem step_taken (narrow : g.columns ≤ width) (stays : w.flushes trim width g = false)
    (room : w.isFull width g = false) : w.step trim width g = w.take g := by
  simp [step, Nat.not_lt.mpr narrow, stays, room]

theorem step_flushed (narrow : g.columns ≤ width) (flushes : w.flushes trim width g = true)
    (room : (w.flush trim).isFull width g = false) :
    w.step trim width g = (w.flush trim).take g := by
  simp [step, Nat.not_lt.mpr narrow, flushes, room]

theorem step_filled (narrow : g.columns ≤ width) (flushes : w.flushes trim width g = true)
    (full : (w.flush trim).isFull width g = true) (unbroken : g.isBreak = false) :
    w.step trim width g = ((w.flush trim).breakRow width).take g := by
  simp [step, Nat.not_lt.mpr narrow, flushes, full, unbroken]

end

/-- A line that has fitted into its row so far. -/
structure Filling (width : Nat) (read : List Glyph) (w : Wrapping) : Prop where
  rows : w.rows = []
  glyphs : w.row ++ w.space ++ w.word = read
  columns : w.rowColumns + w.spaceColumns + w.wordColumns = glyphColumns read
  room : w.rowColumns < width
  space : ∀ g ∈ w.space, g.isBreak = true
  inWord : w.word = [] ∨ w.inWord = true

theorem filling_flush {width : Nat} {read : List Glyph} {w : Wrapping}
    (filling : Filling width read w) (room : glyphColumns read < width) :
    Filling width read (w.flush false) := by
  obtain ⟨rows, glyphs, columns, _, _, _⟩ := filling
  refine ⟨rows, ?_, ?_, ?_, List.forall_mem_nil _, .inl rfl⟩
  · simpa [flush] using glyphs
  · simpa [flush, Nat.add_assoc] using columns
  · simpa [flush, Nat.add_assoc, ← columns] using room

theorem filling_room {width : Nat} {read : List Glyph} {w : Wrapping}
    (filling : Filling width read w) {g : Glyph} (fits : glyphColumns read + g.columns ≤ width) :
    w.isFull width g = false := by
  have room := filling.room
  have columns := filling.columns
  simp only [isFull, Bool.or_eq_false_iff, Bool.and_eq_false_iff, decide_eq_false_iff_not]
  omega

theorem filling_take {width : Nat} {read : List Glyph} {w : Wrapping}
    (filling : Filling width read w) {g : Glyph} (finished : g.isBreak = true → w.word = []) :
    Filling width (read ++ [g]) (w.take g) := by
  obtain ⟨rows, glyphs, columns, room, space, _⟩ := filling
  rw [take]
  cases break' : g.isBreak with
  | true =>
    have word := finished break'
    rw [if_pos rfl]
    refine ⟨rows, ?_, ?_, room, ?_, .inl word⟩
    · simp [← glyphs, word]
    · simp only [glyphColumns_append, glyphColumns_singleton, ← columns]
      omega
    · intro other there
      rcases List.mem_append.mp there with old | new
      · exact space other old
      · rwa [List.mem_singleton.mp new]
  | false =>
    rw [if_neg Bool.false_ne_true]
    refine ⟨rows, ?_, ?_, room, space, .inr rfl⟩
    · simp [← glyphs]
    · simp only [glyphColumns_append, glyphColumns_singleton, ← columns]
      omega

theorem filling_step {width : Nat} {read : List Glyph} {w : Wrapping}
    (filling : Filling width read w) {g : Glyph} (fits : glyphColumns read + g.columns ≤ width)
    (seen : g.isBreak = true → 0 < g.columns) :
    Filling width (read ++ [g]) (w.step false width g) := by
  have columns := filling.columns
  have narrow : g.columns ≤ width := by omega
  have small : ¬ width < w.wordColumns + w.spaceColumns + g.columns := by omega
  have flushes : w.flushes false width g = (w.inWord && g.isBreak) := by
    simp [Wrapping.flushes, small]
  cases finished : w.inWord && g.isBreak with
  | true =>
    obtain ⟨_, break'⟩ := (Bool.and_eq_true ..).mp finished
    have room : glyphColumns read < width := by
      have := seen break'
      omega
    have flushed := filling_flush filling room
    rw [step_flushed narrow (flushes.trans finished) (filling_room flushed fits)]
    exact filling_take flushed fun _ => rfl
  | false =>
    rw [step_taken narrow (flushes.trans finished) (filling_room filling fits)]
    apply filling_take filling
    intro break'
    rcases filling.inWord with none | inWord
    · exact none
    · simp [inWord, break'] at finished

theorem filling_read {width : Nat} {read rest : List Glyph} {w : Wrapping}
    (filling : Filling width read w) (fits : glyphColumns (read ++ rest) ≤ width)
    (seen : ∀ g ∈ rest, g.isBreak = true → 0 < g.columns) :
    Filling width (read ++ rest) (rest.foldl (step false width) w) := by
  induction rest generalizing read w with
  | nil => simpa using filling
  | cons g rest ih =>
    have split : read ++ g :: rest = read ++ [g] ++ rest := by simp
    rw [split] at fits ⊢
    have first : glyphColumns read + g.columns ≤ width := by
      rw [glyphColumns_append, glyphColumns_append, glyphColumns_singleton] at fits
      omega
    have next := filling_step filling first (seen g List.mem_cons_self)
    exact ih next fits fun other there => seen other (List.mem_cons_of_mem _ there)

theorem filling_finish {width : Nat} {read : List Glyph} {w : Wrapping}
    (filling : Filling width read w) (word : read = [] ∨ ∃ g ∈ read, g.isBreak = false) :
    w.finish false = [read] := by
  obtain ⟨rows, glyphs, _, _, space, _⟩ := filling
  have blank : (w.row.isEmpty && w.word.isEmpty && !w.space.isEmpty) = false := by
    rw [← Bool.not_eq_true]
    intro blank
    simp only [Bool.and_eq_true, List.isEmpty_iff, Bool.not_eq_true', List.isEmpty_eq_false_iff,
      ne_eq] at blank
    obtain ⟨⟨row, noWord⟩, white⟩ := blank
    rw [row, noWord, List.nil_append, List.append_nil] at glyphs
    rcases word with nothing | ⟨g, there, unbroken⟩
    · exact white (glyphs.trans nothing)
    · cases (space g (glyphs ▸ there)).symm.trans unbroken
  have row : w.row ++ (if !w.row.isEmpty || !false then w.space else []) ++ w.word = read := by
    simpa using glyphs
  rw [finish, blank, row, rows]
  cases read <;> rfl

end Wrapping

theorem wrap_fitting {width : Nat} (positive : 0 < width) {glyphs : List Glyph}
    (fits : Fits width glyphs) : wrap false width glyphs = [glyphs] := by
  have nothing : Wrapping.Filling width [] {} :=
    ⟨rfl, rfl, rfl, positive, List.forall_mem_nil _, .inl rfl⟩
  have all := Wrapping.filling_read nothing fits.columns fits.seen
  exact Wrapping.filling_finish all fits.word

theorem rows_of_columns {width columns full : Nat} (above : full * width < columns)
    (below : columns ≤ (full + 1) * width) : (columns + width - 1) / width = full + 1 := by
  have next : (full + 1) * width = full * width + width := Nat.succ_mul full width
  have after : (full + 1 + 1) * width = (full + 1) * width + width := Nat.succ_mul (full + 1) width
  apply Nat.div_eq_of_lt_le <;> omega

namespace Wrapping

/-- A line that has filled its rows with as many glyphs as they take, and has begun the next one. -/
structure Stacking (each fill : Nat) (read : List Glyph) (w : Wrapping) : Prop where
  row : w.row = []
  rowColumns : w.rowColumns = 0
  space : w.space = []
  spaceColumns : w.spaceColumns = 0
  wordColumns : w.wordColumns = each * w.word.length
  count : w.rows.length * fill + w.word.length = read.length
  bound : w.word.length ≤ fill

section

variable {each fill : Nat} {read : List Glyph} {w : Wrapping} {g : Glyph}

theorem stacking_take (stacking : Stacking each fill read w) (room : w.word.length < fill)
    (unbroken : g.isBreak = false) (columns : g.columns = each) :
    Stacking each fill (read ++ [g]) (w.take g) := by
  obtain ⟨row, rowColumns, space, spaceColumns, wordColumns, count, _⟩ := stacking
  rw [take, unbroken, if_neg Bool.false_ne_true]
  refine ⟨row, rowColumns, space, spaceColumns, ?_, ?_, ?_⟩
  · simp [wordColumns, columns, Nat.mul_succ]
  · simp only [List.length_append, List.length_singleton]
    omega
  · rw [List.length_append, List.length_singleton]
    exact room

theorem stacking_break (stacking : Stacking each fill read w) (full : w.word.length = fill) :
    Stacking each fill read ((w.flush false).breakRow (each * fill)) := by
  obtain ⟨row, rowColumns, space, spaceColumns, wordColumns, count, _⟩ := stacking
  refine ⟨rfl, rfl, rfl, rfl, rfl, ?_, Nat.zero_le fill⟩
  simp only [flush, breakRow, List.length_append, List.length_singleton, List.length_nil,
    Nat.succ_mul]
  omega

theorem stacking_step (positive : 0 < each) (fills : 0 < fill)
    (stacking : Stacking each fill read w) (unbroken : g.isBreak = false)
    (columns : g.columns = each) :
    Stacking each fill (read ++ [g]) (w.step false (each * fill) g) ∧
      (w.step false (each * fill) g).word ≠ [] := by
  have ⟨row, rowColumns, _, spaceColumns, wordColumns, _, bound⟩ := stacking
  have narrow : g.columns ≤ each * fill := columns ▸ Nat.le_mul_of_pos_right each fills
  have flushes : w.flushes false (each * fill) g =
      decide (each * fill < each * w.word.length + each) := by
    simp [Wrapping.flushes, unbroken, row, wordColumns, spaceColumns, columns]
  rcases Nat.eq_or_lt_of_le bound with full | room
  · have makesWay : w.flushes false (each * fill) g = true := by
      rw [flushes, full]
      exact decide_eq_true (Nat.lt_add_of_pos_right positive)
    have isFull : (w.flush false).isFull (each * fill) g = true := by
      simp [Wrapping.isFull, flush, rowColumns, spaceColumns, wordColumns, full]
    rw [step_filled narrow makesWay isFull unbroken]
    refine ⟨stacking_take (stacking_break stacking full) fills unbroken columns, ?_⟩
    simp [take, unbroken]
  · have next : each * (w.word.length + 1) ≤ each * fill := Nat.mul_le_mul_left each room
    rw [Nat.mul_succ] at next
    have stays : w.flushes false (each * fill) g = false := by
      rw [flushes]
      exact decide_eq_false (Nat.not_lt.mpr next)
    have notFull : w.isFull (each * fill) g = false := by
      simp only [isFull, rowColumns, spaceColumns, wordColumns, Bool.or_eq_false_iff,
        Bool.and_eq_false_iff, decide_eq_false_iff_not]
      omega
    rw [step_taken narrow stays notFull]
    refine ⟨stacking_take stacking room unbroken columns, ?_⟩
    simp [take, unbroken]

theorem stacking_read (positive : 0 < each) (fills : 0 < fill) {rest : List Glyph}
    (stacking : Stacking each fill read w) (unbroken : ∀ g ∈ rest, g.isBreak = false)
    (columns : ∀ g ∈ rest, g.columns = each) :
    Stacking each fill (read ++ rest) (rest.foldl (step false (each * fill)) w) ∧
      (rest = [] ∨ (rest.foldl (step false (each * fill)) w).word ≠ []) := by
  induction rest using List.reverseRecOn with
  | nil => simpa using stacking
  | append_singleton before g ih =>
    obtain ⟨earlier, last⟩ := List.forall_mem_append.mp unbroken
    obtain ⟨earlier', last'⟩ := List.forall_mem_append.mp columns
    obtain ⟨stacked, _⟩ := ih earlier earlier'
    rw [List.foldl_append, ← List.append_assoc]
    obtain ⟨next, word⟩ := stacking_step positive fills stacked (last g (List.mem_singleton.mpr rfl))
      (last' g (List.mem_singleton.mpr rfl))
    exact ⟨next, .inr word⟩

theorem stacking_finish (positive : 0 < each) (fills : 0 < fill)
    (stacking : Stacking each fill read w) (word : read = [] ∨ w.word ≠ []) :
    (w.finish false).length =
      max 1 ((each * read.length + each * fill - 1) / (each * fill)) := by
  obtain ⟨row, _, space, _, _, count, bound⟩ := stacking
  have width : 0 < each * fill := Nat.mul_pos positive fills
  rcases word with rfl | word
  · have none : w.word = [] ∧ w.rows = [] := by
      rw [List.length_nil, Nat.add_eq_zero_iff, Nat.mul_eq_zero, List.length_eq_zero_iff,
        List.length_eq_zero_iff] at count
      exact ⟨count.2, count.1.resolve_right (by omega)⟩
    have one : (each * ([] : List Glyph).length + each * fill - 1) / (each * fill) = 0 := by
      rw [List.length_nil, Nat.div_eq_zero_iff]
      omega
    rw [one]
    simp [finish, row, space, none.1, none.2]
  · have rows : (w.finish false).length = w.rows.length + 1 := by
      simp [finish, row, space, word]
    have begun : 0 < w.word.length := List.length_pos_iff.mpr word
    have columns : each * read.length = w.rows.length * (each * fill) + each * w.word.length := by
      rw [← count, Nat.mul_add, Nat.mul_left_comm]
    have some' : 0 < each * w.word.length := Nat.mul_pos positive begun
    have most : each * w.word.length ≤ each * fill := Nat.mul_le_mul_left each bound
    have counted : (each * read.length + each * fill - 1) / (each * fill) = w.rows.length + 1 := by
      apply rows_of_columns
      · omega
      · rw [Nat.succ_mul]
        omega
    rw [rows, counted]
    omega

end

end Wrapping

theorem wrap_solid {width each : Nat} (positive : 0 < width) {glyphs : List Glyph}
    (solid : Solid width each glyphs) :
    (wrap false width glyphs).length = max 1 ((each * glyphs.length + width - 1) / width) := by
  obtain ⟨some', ⟨fill, rfl⟩, unbroken, columns⟩ := solid
  have fills : 0 < fill := Nat.pos_of_mul_pos_left positive
  have nothing : Wrapping.Stacking each fill [] {} :=
    ⟨rfl, rfl, rfl, rfl, rfl, by simp, Nat.zero_le fill⟩
  obtain ⟨all, word⟩ := Wrapping.stacking_read some' fills nothing unbroken columns
  exact Wrapping.stacking_finish some' fills all word

end GuessClient.Terminal
