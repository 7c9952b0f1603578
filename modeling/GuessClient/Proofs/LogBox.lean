import Mathlib.Data.List.DropRight
import GuessClient.Panel.Session
import GuessClient.Proofs.Wrapping

/-!
The box of the log: all rows that the log has at the width of the box, and those of them that are drawn.
The rows are counted by the columns of the lines alone. The count is right when each line fits into one
row or fills all its rows but the last. A line that is broken between words can take more rows than are
counted, and then the newest rows of the log are out of reach.
-/

namespace GuessClient.Panel

open GuessClient.Terminal

def logBox (screen : Area) : Area := (SessionLayout.ofScreen screen).log.inner

def logCount (s : Session) (screen : Area) : Nat :=
  wrappedHeight (messageLines s.messages) (logBox screen).width

def logRows (s : Session) (screen : Area) : List (List Glyph) :=
  (messageLines s.messages).flatMap fun l => wrap false (logBox screen).width l.glyphs

def shownRows (s : Session) (screen : Area) (scroll : Nat) : List (List Glyph) :=
  ((logRows s screen).drop (scrollLimit (some s) screen - scroll)).take (logBox screen).height

def putRows (x y : Nat) (rows : List (List Glyph)) (c : Canvas) : Canvas :=
  (rows.zipIdx y).foldl (fun c row => c.putGlyphs x row.2 row.1) c

theorem drawRows_left {p : Paragraph} (left : p.alignment = .left) (c : Canvas) (x y width : Nat)
    (rows : List (List Glyph)) : p.drawRows c x y width rows = putRows x y rows c := by
  induction rows generalizing c y with
  | nil => rfl
  | cons row rest ih =>
    rw [Paragraph.drawRows, left, ih]
    rfl

theorem width_pos {a : Area} (open' : a.isEmpty = false) : 0 < a.width := by
  rw [Area.isEmpty, Bool.or_eq_false_iff, decide_eq_false_iff_not] at open'
  exact Nat.pos_of_ne_zero open'.1

theorem log_height (screen : Area) :
    (SessionLayout.ofScreen screen).log.height =
      remainder 3 (screen.within sideMargin 0).height 9 := by
  simp only [SessionLayout.ofScreen, Area.rows, remainder]
  omega

/-- There is room for the log from three rows on, since no other part is served before it. -/
theorem logBox_open_iff (screen : Area) :
    (logBox screen).isEmpty = false ↔ 7 ≤ screen.width ∧ 3 ≤ screen.height := by
  have width : (SessionLayout.ofScreen screen).log.width =
      (screen.within sideMargin 0).width := rfl
  rw [Area.isEmpty, Bool.or_eq_false_iff, decide_eq_false_iff_not, decide_eq_false_iff_not]
  simp only [logBox, Area.inner, log_height, width, remainder]
  by_cases narrow : screen.width < 2 * sideMargin
  · rw [Area.within_of_lt narrow]
    simp only [sideMargin] at narrow
    simp only [Area.nowhere]
    omega
  · rw [Area.within_of_le (Nat.not_lt.mp narrow) (Nat.zero_le _)]
    simp only [sideMargin] at narrow ⊢
    omega

example : logBox ⟨0, 0, 20, 5⟩ = ⟨3, 3, 14, 1⟩ := by decide

theorem wrappedHeight_le (lines : List Line) (width : Nat) : wrappedHeight lines width ≤ largest := by
  unfold wrappedHeight
  split
  · exact Nat.zero_le _
  · exact Nat.min_le_right _ _

section

variable (s : Session) (screen : Area)

theorem scrollLimit_counted :
    scrollLimit (some s) screen = logCount s screen - (logBox screen).height := rfl

theorem scrollLimit_le : scrollLimit (some s) screen ≤ largest :=
  (Nat.sub_le _ _).trans (wrappedHeight_le _ _)

theorem log_drawn {p : SessionPage} (session : p.session = some s)
    (open' : (logBox screen).isEmpty = false) (c : Canvas) :
    drawLog p (SessionLayout.ofScreen screen).log c =
      putRows (logBox screen).x (logBox screen).y (shownRows s screen p.scroll)
        ((c.frame (SessionLayout.ofScreen screen).log [span "Log"]).paint (logBox screen) {}) := by
  have wide : (logBox screen).width ≠ 0 := (width_pos open').ne'
  unfold drawLog Paragraph.draw
  rw [session, ← logBox, open', if_neg Bool.false_ne_true, drawRows_left rfl]
  simp only [Paragraph.rows, wide, ↓reduceIte]
  rfl

end

/-- The columns of a line tell how many rows it takes: it fits into one row, or it cannot be broken and
so fills all of its rows but the last. -/
inductive Regular (width : Nat) (l : Line) : Prop where
  | fitting (columns : l.columns ≤ width) (fits : Fits width l.glyphs)
  | unbroken (each : Nat) (solid : Solid width each l.glyphs)
      (columns : l.columns = each * l.glyphs.length)

theorem regular_wider {width wider : Nat} (wide : width ≤ wider) {l : Line}
    (columns : l.columns ≤ width) (fits : Fits width l.glyphs) : Regular wider l :=
  .fitting (columns.trans wide) (fits_wider wide fits)

theorem message_regular {width : Nat} (wide : 43 ≤ width) {m : Message}
    (texts : ∀ text ∈ Text.lines m.body.toList, Regular width [⟨text, messageStyle m⟩]) :
    ∀ l ∈ linesOf m, Regular width l := by
  have role : Regular width (roleLine m.role) := by
    cases m.role <;> exact regular_wider wide (by decide +kernel) (by decide +kernel)
  have attached : Regular width [span attachedText { italic := true }] :=
    regular_wider wide (by decide +kernel) (by decide +kernel)
  have blank : Regular width [] := regular_wider (Nat.zero_le width) (by decide) (by decide)
  intro l there
  rw [linesOf, List.mem_append, List.mem_append, List.mem_cons, List.mem_map,
    List.mem_singleton] at there
  -- whose message it is, its texts, the word about a picture, and the line after it
  rcases there with ((rfl | ⟨text, here, rfl⟩) | there) | rfl
  · exact role
  · exact texts text here
  · split at there
    · rwa [List.mem_singleton.mp there]
    · cases there
  · exact blank

theorem regular_height {width : Nat} (positive : 0 < width) {l : Line} (regular : Regular width l) :
    (wrap false width l.glyphs).length = lineHeight width l := by
  cases regular with
  | fitting columns fits =>
    have one : (l.columns + width - 1) / width ≤ 1 := by
      rw [← Nat.lt_succ_iff, Nat.div_lt_iff_lt_mul positive]
      omega
    rw [wrap_fitting positive fits, lineHeight, Nat.max_eq_left one]
    rfl
  | unbroken each solid columns => rw [wrap_solid positive solid, lineHeight, columns]

theorem regular_heights {width : Nat} (positive : 0 < width) {lines : List Line}
    (regular : ∀ l ∈ lines, Regular width l) :
    lines.foldr (fun l n => lineHeight width l + n) 0 =
      (lines.flatMap fun l => wrap false width l.glyphs).length := by
  induction lines with
  | nil => rfl
  | cons l rest ih =>
    obtain ⟨first, others⟩ := List.forall_mem_cons.mp regular
    rw [List.foldr_cons, ih others, List.flatMap_cons, List.length_append,
      regular_height positive first]

structure InView (s : Session) (screen : Area) : Prop where
  hidden : scrollLimit (some s) screen = (logRows s screen).length - (logBox screen).height
  newest : shownRows s screen 0 = (logRows s screen).rtake (logBox screen).height
  oldest : shownRows s screen (scrollLimit (some s) screen) =
    (logRows s screen).take (logBox screen).height

section

variable {s : Session} {screen : Area}

theorem regular_counted (open' : (logBox screen).isEmpty = false)
    (short : (logRows s screen).length < largest)
    (regular : ∀ l ∈ messageLines s.messages, Regular (logBox screen).width l) :
    logCount s screen = (logRows s screen).length := by
  have wide : 0 < (logBox screen).width := width_pos open'
  rw [logCount, wrappedHeight, if_neg wide.ne', regular_heights wide regular]
  exact Nat.min_eq_left short.le

theorem shown_oldest :
    shownRows s screen (scrollLimit (some s) screen) =
      (logRows s screen).take (logBox screen).height := by
  rw [shownRows, Nat.sub_self, List.drop_zero]

theorem shown_newest
    (hidden : scrollLimit (some s) screen = (logRows s screen).length - (logBox screen).height) :
    shownRows s screen 0 = (logRows s screen).rtake (logBox screen).height := by
  rw [shownRows, Nat.sub_zero, hidden, List.rtake]
  apply List.take_of_length_le
  rw [List.length_drop]
  omega

theorem in_view_iff :
    InView s screen ↔
      max (logCount s screen) (logBox screen).height =
        max (logRows s screen).length (logBox screen).height := by
  constructor
  · rintro ⟨hidden, _, _⟩
    rw [scrollLimit_counted] at hidden
    omega
  · intro same
    have hidden : scrollLimit (some s) screen =
        (logRows s screen).length - (logBox screen).height := by
      rw [scrollLimit_counted]
      omega
    exact ⟨hidden, shown_newest hidden, shown_oldest⟩

theorem shown_counted (scroll : Nat) :
    shownRows s screen scroll =
      (((logRows s screen).take (max (logCount s screen) (logBox screen).height)).drop
        (scrollLimit (some s) screen - scroll)).take (logBox screen).height := by
  rw [List.drop_take, List.take_take, shownRows]
  congr 1
  rw [scrollLimit_counted]
  omega

end

/-- The newest rows and the oldest can be reached exactly if the count is right, as far as it goes beyond
the box; rows beyond the count are never shown. The count is right for regular lines. -/
theorem log_in_view (s : Session) (screen : Area) (open' : (logBox screen).isEmpty = false)
    (short : (logRows s screen).length < largest) :
    ((∀ l ∈ messageLines s.messages, Regular (logBox screen).width l) →
      logCount s screen = (logRows s screen).length) ∧
    (InView s screen ↔
      max (logCount s screen) (logBox screen).height =
        max (logRows s screen).length (logBox screen).height) ∧
    (∀ scroll, shownRows s screen scroll =
      (((logRows s screen).take (max (logCount s screen) (logBox screen).height)).drop
        (scrollLimit (some s) screen - scroll)).take (logBox screen).height) ∧
    ∀ p c, p.session = some s →
      drawLog p (SessionLayout.ofScreen screen).log c =
        putRows (logBox screen).x (logBox screen).y (shownRows s screen p.scroll)
          ((c.frame (SessionLayout.ofScreen screen).log [span "Log"]).paint (logBox screen) {}) :=
  ⟨regular_counted open' short, in_view_iff, shown_counted,
    fun _ c session => log_drawn s screen session open' c⟩

def chat (question remark : String) : Session :=
  (Session.run [.setMode .chat, .submit question,
    .reply ⟨0, .chat question⟩ (.ok (.remark ⟨remark⟩))] { id := "a" }).1

theorem log_in_view_unbroken :
    let long := "x+x+x+x+x+x+x+x+x+x+x+x+x+x+x+x+x+x+x+x+x+x+x+x+x=0?"
    let s := chat long "Yes, twice."
    let screen : Area := ⟨0, 0, 50, 14⟩
    (logBox screen).isEmpty = false ∧ (logRows s screen).length < largest ∧
      logCount s screen = 7 ∧ (logRows s screen).length = 7 ∧ InView s screen := by
  intro long s screen
  have open' : (logBox screen).isEmpty = false := (logBox_open_iff screen).mpr (by decide)
  have short : (logRows s screen).length < largest := by decide +kernel
  obtain ⟨counted, inView, -, -⟩ := log_in_view s screen open' short
  have lines : ∀ l ∈ messageLines s.messages, Regular (logBox screen).width l := by
    intro l there
    obtain ⟨m, sent, there⟩ := List.mem_flatMap.mp there
    apply message_regular (by decide) ?_ l there
    have those : s.messages = [.player long, .analyst "Yes, twice."] := by decide +kernel
    rw [those, List.mem_pair] at sent
    rcases sent with rfl | rfl
    · have one : Text.lines (Message.player long).body.toList = [long.toList] := by
        decide +kernel
      rw [one, List.forall_mem_singleton]
      exact .unbroken 1 (by decide +kernel) (by decide +kernel)
    · have one : Text.lines (Message.analyst "Yes, twice.").body.toList =
          ["Yes, twice.".toList] := by decide +kernel
      rw [one, List.forall_mem_singleton]
      exact .fitting (by decide +kernel) (by decide +kernel)
  have count : logCount s screen = 7 := by decide +kernel
  have rows := (counted lines).symm.trans count
  exact ⟨open', short, count, rows, inView.mpr (by rw [count, rows])⟩

/-- The number of rows is too small for two texts that are broken between words: the newest words are
below the box, and scrolling does not bring them up. -/
theorem log_out_of_view :
    let s := chat "Does the function oscillate indefinitely near the discontinuity?"
      "Yes, the function oscillates indefinitely near the discontinuity."
    let screen : Area := ⟨0, 0, 40, 14⟩
    let newest := Span.glyphs ⟨"discontinuity.".toList, { foreground := some .magenta }⟩
    (logBox screen).isEmpty = false ∧ (logRows s screen).length = 10 ∧ logCount s screen = 8 ∧
      (logBox screen).height = 3 ∧ scrollLimit (some s) screen = 5 ∧
      (logRows s screen)[8]? = some newest ∧ (∀ scroll, newest ∉ shownRows s screen scroll) ∧
      ¬ InView s screen := by
  intro s screen newest
  have count : logCount s screen = 8 := by decide +kernel
  have height : (logBox screen).height = 3 := by decide
  obtain ⟨rows, there, uncounted⟩ : (logRows s screen).length = 10 ∧
      (logRows s screen)[8]? = some newest ∧ newest ∉ (logRows s screen).take 8 := by
    decide +kernel
  refine ⟨by decide, rows, count, height, by rw [scrollLimit_counted, count, height], there,
    fun scroll shown => uncounted ?_, ?_⟩
  · rw [shown_counted, count, height] at shown
    exact List.mem_of_mem_drop (List.mem_of_mem_take shown)
  · rw [in_view_iff, count, rows, height]
    decide

end GuessClient.Panel
