import GuessClient.Panel.Draw

/-!
The cursor in the input box. It stands after the text as long as there is room, and else in the last
column within the border. In a box that has no room within its border it still does not pass that column.
-/

namespace GuessClient.Panel

open GuessClient.Terminal

structure Roomy (box : Area) : Prop where
  wide : 3 ≤ box.width
  tall : 3 ≤ box.height
  right_le : box.right ≤ largest
  bottom_le : box.bottom ≤ largest

def columnAfter (box : Area) (text : String) : Nat := box.x + 1 + Text.columns text.toList

def lastColumn (box : Area) : Nat := box.x + (box.width - 2)

variable {box : Area}

/-- No sum along the way turns over: it comes to the same to stop only the final coordinates. -/
theorem inputCursor_exact (box : Area) (text : String) :
    inputCursor box text =
      (saturate (min (columnAfter box text) (lastColumn box)), saturate (box.y + 1)) := by
  rw [inputCursor, ← saturate_add, ← saturate_min, columnAfter, lastColumn]

theorem inputCursor_roomy (roomy : Roomy box) (text : String) :
    inputCursor box text = (min (columnAfter box text) (lastColumn box), box.y + 1) := by
  obtain ⟨wide, tall, right_le, bottom_le⟩ := roomy
  simp only [Area.right, Area.bottom] at right_le bottom_le
  have column : min (columnAfter box text) (lastColumn box) ≤ largest := by
    simp only [columnAfter, lastColumn]
    omega
  rw [inputCursor_exact, saturate_of_le column, saturate_of_le (by omega)]

theorem inner_contains (roomy : Roomy box) {x y : Nat} :
    box.inner.contains x y = true ↔
      (box.x + 1 ≤ x ∧ x ≤ lastColumn box) ∧ box.y + 1 ≤ y ∧ y + 2 ≤ box.bottom := by
  obtain ⟨wide, tall, -, -⟩ := roomy
  simp only [Area.contains, Area.inner, Area.right, Area.bottom, lastColumn]
  grind

theorem inputCursor_inner (roomy : Roomy box) (text : String) :
    box.inner.contains (inputCursor box text).1 (inputCursor box text).2 = true := by
  rw [inputCursor_roomy roomy, inner_contains roomy]
  obtain ⟨wide, tall, -, -⟩ := roomy
  simp only [columnAfter, lastColumn, Area.bottom]
  omega

/-- The cursor stays within the border, directly after the text or in the last column; in boxes too
small for that it does not pass the last column either. -/
theorem cursor_inside (box : Area) (text : String) :
    (Roomy box →
      (box.x + 1 ≤ (inputCursor box text).1 ∧
        (inputCursor box text).1 ≤ box.x + box.width - 2 ∧
        (inputCursor box text).2 = box.y + 1) ∧
      box.inner.contains (inputCursor box text).1 (inputCursor box text).2 = true ∧
      (inputCursor box text).1 =
        if columnAfter box text ≤ box.x + box.width - 2 then columnAfter box text
        else box.x + box.width - 2) ∧
    inputCursor box text =
      (saturate (min (columnAfter box text) (lastColumn box)), saturate (box.y + 1)) ∧
    (inputCursor box text).1 ≤ box.x + (box.width - 2) := by
  refine ⟨fun roomy => ?_, inputCursor_exact box text, ?_⟩
  · have last : box.x + box.width - 2 = lastColumn box :=
      Nat.add_sub_assoc (Nat.le_of_succ_le roomy.wide) _
    have inside := (inner_contains roomy).mp (inputCursor_inner roomy text)
    rw [last]
    refine ⟨⟨inside.1.1, inside.1.2, ?_⟩, inputCursor_inner roomy text, ?_⟩
    · rw [inputCursor_roomy roomy]
    · rw [inputCursor_roomy roomy]
      exact Nat.min_def
  · rw [inputCursor_exact]
    exact Nat.le_trans (Nat.min_le_left _ _) (Nat.min_le_right _ _)

theorem cursor_inside_edge :
    Roomy ⟨65525, 0, 10, 3⟩ ∧ (inputCursor ⟨65525, 0, 10, 3⟩ "sin(x) + cos(x)").1 = 65533 := by
  have roomy : Roomy ⟨65525, 0, 10, 3⟩ := ⟨by decide, by decide, by decide, by decide⟩
  exact ⟨roomy, ((cursor_inside _ _).1 roomy).2.2.trans (by decide)⟩

theorem roomy_input {width height : Nat} (wide : 7 ≤ width) (tall : 12 ≤ height)
    (width_le : width ≤ largest) (height_le : height ≤ largest) :
    Roomy (SessionLayout.ofScreen ⟨0, 0, width, height⟩).input := by
  have sides : 4 ≤ width := Nat.le_trans (by decide) wide
  have area : (⟨0, 0, width, height⟩ : Area).within sideMargin 0 = ⟨2, 0, width - 4, height⟩ :=
    Area.within_of_le sides (Nat.zero_le _)
  constructor <;>
    simp only [SessionLayout.ofScreen, area, Area.rows, Area.right, Area.bottom, remainder,
      sharedEdge] <;>
    omega

theorem cursor_shown {a : App} {width height : Nat} {place : Nat × Nat} (wide : 7 ≤ width)
    (tall : 12 ≤ height) (width_le : width ≤ largest) (height_le : height ≤ largest)
    (shown : cursor a width height = some place) :
    (SessionLayout.ofScreen ⟨0, 0, width, height⟩).input.inner.contains place.1 place.2 = true := by
  simp only [cursor] at shown
  split at shown
  · split at shown
    · cases shown
    · cases shown
      exact inputCursor_inner (roomy_input wide tall width_le height_le) a.input
  · cases shown

end GuessClient.Panel
