/-!
Rectangles on a screen. Coordinates stop at the largest one there is.
-/

namespace GuessClient.Terminal

def largest : Nat := 65535

def saturate (n : Nat) : Nat := min n largest

/-- It makes no difference whether the sum alone stops at the largest number or its parts do, too. -/
theorem saturate_add (m n : Nat) : saturate (m + n) = saturate (saturate m + saturate n) := by
  simp only [saturate]
  omega

theorem saturate_min (m n : Nat) : saturate (min m n) = min (saturate m) (saturate n) := by
  simp only [saturate]
  omega

theorem saturate_of_le {n : Nat} (small : n ≤ largest) : saturate n = n := Nat.min_eq_left small

structure Area where
  x : Nat
  y : Nat
  width : Nat
  height : Nat
  deriving DecidableEq, Repr

namespace Area

def nowhere : Area := ⟨0, 0, 0, 0⟩

def right (a : Area) : Nat := a.x + a.width
def bottom (a : Area) : Nat := a.y + a.height

def isEmpty (a : Area) : Bool := a.width = 0 || a.height = 0

def contains (a : Area) (x y : Nat) : Bool :=
  a.x ≤ x && x < a.right && a.y ≤ y && y < a.bottom

/-- What is left within margins; nothing if they do not fit. -/
def within (a : Area) (horizontal vertical : Nat) : Area :=
  if a.width < 2 * horizontal || a.height < 2 * vertical then nowhere
  else ⟨a.x + horizontal, a.y + vertical, a.width - 2 * horizontal, a.height - 2 * vertical⟩

theorem within_of_le {a : Area} {horizontal vertical : Nat} (wide : 2 * horizontal ≤ a.width)
    (tall : 2 * vertical ≤ a.height) :
    a.within horizontal vertical =
      ⟨a.x + horizontal, a.y + vertical, a.width - 2 * horizontal, a.height - 2 * vertical⟩ := by
  simp [within, Nat.not_lt.mpr wide, Nat.not_lt.mpr tall]

theorem within_of_lt {a : Area} {horizontal vertical : Nat} (narrow : a.width < 2 * horizontal) :
    a.within horizontal vertical = nowhere := by
  simp [within, narrow]

def inner (a : Area) : Area :=
  ⟨min (a.x + 1) a.right, min (a.y + 1) a.bottom, a.width - 1 - 1, a.height - 1 - 1⟩

def rows (a : Area) (offset height : Nat) : Area :=
  let offset := min offset a.height
  ⟨a.x, a.y + offset, a.width, min height (a.height - offset)⟩

def columns (a : Area) (offset width : Nat) : Area :=
  let offset := min offset a.width
  ⟨a.x + offset, a.y, min width (a.width - offset), a.height⟩

end Area

/-- The row at which the first `k` of some parts end that share rows alike; a half goes up. -/
def sharedEdge (parts rows k : Nat) : Nat := (2 * k * rows + parts) / (2 * parts)

/-- The length of a part that takes what parts of fixed lengths leave of a total, but has a least
length, as far as the total allows. -/
def remainder (least total fixed : Nat) : Nat := max (min least total) (total - fixed)

end GuessClient.Terminal
