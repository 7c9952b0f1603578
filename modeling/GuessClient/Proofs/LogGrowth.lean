import GuessClient.Proofs.Dialogue
import GuessClient.Proofs.LogBox

/-!
The log only grows, on the screen too. The lines of more messages come after the lines of those before,
the rows of lines add up until they reach the largest number there is, and so there are never fewer rows
to scroll up.
-/

namespace GuessClient.Panel

open GuessClient.Terminal

def rowCount (width : Nat) (lines : List Terminal.Line) : Nat :=
  lines.foldr (fun l n => lineHeight width l + n) 0

theorem rowCount_append (width : Nat) (lines more : List Terminal.Line) :
    rowCount width (lines ++ more) = rowCount width lines + rowCount width more := by
  induction lines with
  | nil => exact (Nat.zero_add _).symm
  | cons l rest ih =>
    have first (ls : List Terminal.Line) :
        rowCount width (l :: ls) = lineHeight width l + rowCount width ls := rfl
    rw [List.cons_append, first, first, ih, Nat.add_assoc]

theorem wrappedHeight_counted {width : Nat} (positive : width ≠ 0) (lines : List Terminal.Line) :
    wrappedHeight lines width = saturate (rowCount width lines) :=
  if_neg positive

theorem wrappedHeight_append (lines more : List Terminal.Line) (width : Nat) :
    wrappedHeight (lines ++ more) width =
      min largest (wrappedHeight lines width + wrappedHeight more width) := by
  by_cases positive : width = 0
  · simp [wrappedHeight, positive]
  · calc
      wrappedHeight (lines ++ more) width
          = saturate (rowCount width lines + rowCount width more) := by
            rw [wrappedHeight_counted positive, rowCount_append]
      _ = saturate (wrappedHeight lines width + wrappedHeight more width) := by
            rw [saturate_add, wrappedHeight_counted positive, wrappedHeight_counted positive]
      _ = min largest (wrappedHeight lines width + wrappedHeight more width) := Nat.min_comm _ _

theorem messageLines_append (ms ns : List Message) :
    messageLines (ms ++ ns) = messageLines ms ++ messageLines ns :=
  List.flatMap_append

theorem scrollLimit_extended {s t : Session} (extended : s.messages <+: t.messages) (screen : Area) :
    scrollLimit (some s) screen ≤ scrollLimit (some t) screen := by
  obtain ⟨more, same⟩ := extended
  apply Nat.sub_le_sub_right
  rw [← same, messageLines_append, wrappedHeight_append]
  exact Nat.le_min.mpr ⟨wrappedHeight_le _ _, Nat.le_add_right _ _⟩

/-- What is in the log stays there, and the rows that it can be scrolled up never become fewer. -/
theorem log_grows :
    (∀ (id : String) (delay : Nat) (before : List Session.Operation) (operation : Session.Operation),
      let s := (Session.run before { id, delay }).1
      s.messages <+: (Session.apply operation s).1.messages) ∧
    (∀ ms ns : List Message, messageLines (ms ++ ns) = messageLines ms ++ messageLines ns) ∧
    (∀ (lines more : List Terminal.Line) (width : Nat),
      wrappedHeight (lines ++ more) width =
        min largest (wrappedHeight lines width + wrappedHeight more width)) ∧
    ∀ (id : String) (delay : Nat) (before after : List Session.Operation) (screen : Area),
      scrollLimit (some (Session.run before { id, delay }).1) screen ≤
        scrollLimit (some (Session.run (before ++ after) { id, delay }).1) screen := by
  refine ⟨?_, messageLines_append, wrappedHeight_append, ?_⟩
  · intro id delay before operation s
    have sound : s.status.Sound := Session.run_sound before _ (Session.new_sound id delay)
    obtain ⟨new, log⟩ := Session.course_log (Session.apply_course sound operation)
    exact ⟨new, log.symm⟩
  · intro id delay before after screen
    have sound := Session.run_sound before _ (Session.new_sound id delay)
    apply scrollLimit_extended
    rw [Session.run_append, Session.chronicle_log sound]
    exact List.prefix_append _ _

end GuessClient.Panel
