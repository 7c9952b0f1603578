import GuessClient.Text.WidthTable

/-!
The number of terminal columns that a text takes. Most characters count for themselves; some
sequences share their columns: an emoji with its selector, skin tone or joined companions, a line end
of two characters, and the ligatures of a few scripts. A text is measured from its end, so that each
character sees what follows it.
-/

namespace GuessClient.Text

/-- The columns of a character on its own; a control character counts as one. -/
def charColumns (c : Char) : Nat :=
  let n := c.toNat
  if n < 0xA1 then 1
  else if hiddenMarks.contains n then 0
  else if wideCharacters.contains n then 2
  else if n = 0x2E3A then 2
  else if n = 0x2E3B then 3
  else 1

inductive Following where
  | plain
  | lineFeed
  | picture
  | skinTone
  | flagLetters (several : Bool)
  | joined (keycap : Bool)
  | joinedFlag (letters : Nat)
  /-- The end of a flag's tags before a joiner with a picture. Letters are counted up to the first digit. -/
  | joinedTags (letters digits : Nat)
  | alef
  /-- The rest of a ligature, from this letter on; `joined` after a joiner. -/
  | ligature (letter : Nat) (joined : Bool)
  | kiratRai (double : Bool)
  | colour (behind : Following)
  | text (behind : Following)
  deriving DecidableEq, Repr

def isFlagLetter (n : Nat) : Bool := 0x1F1E6 ≤ n && n ≤ 0x1F1FF

def isTifinaghConsonant (n : Nat) : Bool := (0x2D31 ≤ n && n ≤ 0x2D65) || n = 0x2D6F

def khmerSubscripts : Ranges :=
  [(0x1780, 0x1782), (0x1784, 0x1787), (0x1789, 0x178C), (0x178E, 0x1793), (0x1795, 0x1798),
   (0x179B, 0x179D), (0x17A0, 0x17A0), (0x17A2, 0x17A2), (0x17A7, 0x17A7), (0x17AB, 0x17AC),
   (0x17AF, 0x17AF)]

def arabicLam : Ranges :=
  [(0x644, 0x644), (0x6B5, 0x6B8), (0x76A, 0x76A), (0x8A6, 0x8A6), (0x8C7, 0x8C7)]

def arabicAlef : Ranges :=
  [(0x622, 0x623), (0x625, 0x625), (0x627, 0x627), (0x671, 0x673), (0x675, 0x675), (0x773, 0x774),
   (0x870, 0x882)]

/-- Ignorable marks, which stand inside a ligature without breaking it. -/
def ligatureMarks : Ranges :=
  [(0x34F, 0x34F), (0x17B4, 0x17B5), (0x180B, 0x180D), (0x180F, 0x180F), (0xFE00, 0xFE0F),
   (0xE0100, 0xE01EF)]

def Following.ofChar (c : Char) : Following :=
  let n := c.toNat
  if n = 0xA then .lineFeed
  else if n < 0xA1 then .plain
  else if n = 0xFE0F then .colour .plain
  else if n = 0xFE0E then .text .plain
  else if isFlagLetter n then .flagLetters false
  else if 0x1F3FB ≤ n && n ≤ 0x1F3FF then .skinTone
  else if emojiByDefault.contains n then .picture
  else if arabicAlef.contains n then .alef
  else if n = 0x16D67 || n = 0x16D68 then .kiratRai (n = 0x16D68)
  else if n = 0x5DC || n = 0x1A10 || n = 0x10C03 || isTifinaghConsonant n
      || khmerSubscripts.contains n || n = 0xA4FC || n = 0xA4FD then .ligature n false
  else .plain

/-- What a selector leaves of what follows it. It may stand inside of a ligature, and ends anything else. -/
def Following.lasting : Following → Following
  | .alef => .alef
  | .ligature letter after => .ligature letter after
  | .text .plain => .plain
  | .text behind => .text behind
  | _ => .plain

/-- A selector for coloured pictures; before a joiner its picture is a part of a longer one. -/
def Following.coloured : Following → Following
  | .joined keycap => .colour (.joined keycap)
  | following => .colour following.lasting

def Following.worded (following : Following) : Following :=
  match following.lasting with
  | .text behind => .text behind
  | behind => .text behind

def startsPicture (n : Nat) : Bool :=
  emojiOnRequest.contains n || textOnRequest.contains n

def isRegion (letters digits : Nat) : Bool := if digits = 0 then 3 ≤ letters else digits = 3

def measureJoined (c : Char) (following : Following) : Int × Following :=
  let n := c.toNat
  let alone := ((charColumns c : Int), Following.ofChar c)
  match following with
  | .picture => if n = 0x200D then (0, .joined false) else alone
  | .skinTone =>
    if skinToneBases.contains n then (0, .picture)
    else if n = 0x200D then (0, .joined false)
    else alone
  | .flagLetters several =>
    if isFlagLetter n then (1, .flagLetters true)
    else if n = 0x200D && several then (0, .joined false)
    else alone
  | .joined false =>
    if n = 0x20E3 then (0, .joined true)
    else if n = 0xE007F then (0, .joinedTags 0 0)
    else match Following.ofChar c with
      | .flagLetters _ => (1, .joinedFlag 1)
      | .skinTone => (0, .skinTone)
      | .picture => (0, .picture)
      | _ => alone
  | .joinedFlag letters =>
    -- An even number of them is read as whole flags, so one more letter stands apart again.
    if isFlagLetter n then (if letters % 2 = 0 then 3 else -1, .joinedFlag (letters + 1))
    else if n = 0x200D && 2 ≤ letters then (0, .joined false)
    else alone
  | .joinedTags letters digits =>
    if n = 0x1F3F4 && isRegion letters digits then (0, .picture)
    else if 0xE0061 ≤ n && n ≤ 0xE007A && digits = 0 && letters < 6 then
      (0, .joinedTags (letters + 1) 0)
    else if 0xE0030 ≤ n && n ≤ 0xE0039 && letters ≤ 4 && digits < 3 then
      (0, .joinedTags letters (digits + 1))
    else alone
  | .alef =>
    if arabicLam.contains n then (0, .plain)
    else if arabicTransparent.contains n then (0, .alef)
    else alone
  | .kiratRai double =>
    if n = 0x16D63 then (0, .plain)
    else if double then alone
    else if n = 0x16D67 then (0, .kiratRai true)
    else if n = 0x16D68 then (1, .kiratRai false)
    else if n = 0x16D69 then (0, .plain)
    else alone
  | .ligature letter joined =>
    if n = 0x200D then (0, .ligature letter true)
    else if ligatureMarks.contains n then (0, following)
    else if n = 0x17D2 && khmerSubscripts.contains letter then (-1, .plain)
    else if 0xA4F8 ≤ n && n ≤ 0xA4FB && (letter = 0xA4FC || letter = 0xA4FD) then (0, .plain)
    else if n = 0x2D7F && isTifinaghConsonant letter then (1, .ligature n true)
    else if letter = 0x2D7F && isTifinaghConsonant n then (-1, .plain)
    else if !joined then alone
    else if n = 0x5D0 && letter = 0x5DC then (0, .plain)
    else if n = 0x1A17 && letter = 0x1A10 then (0, .ligature n true)
    else if n = 0x1A15 && letter = 0x1A17 then (0, .plain)
    else if n = 0x10C32 && letter = 0x10C03 then (0, .plain)
    else if isTifinaghConsonant n && isTifinaghConsonant letter then (0, .plain)
    else alone
  | _ => alone

def measureUncoloured (c : Char) (following : Following) : Int × Following :=
  let n := c.toNat
  if n < 0xA1 then
    if n = 0xD && following = .lineFeed then (0, .plain)
    else ((charColumns c : Int), Following.ofChar c)
  else if n = 0xFE0F then (0, following.coloured)
  else if n = 0xFE0E then (0, following.worded)
  else match following with
    | .text behind =>
      if textOnRequest.contains n then (1, .plain) else measureJoined c behind.lasting
    | _ => measureJoined c following

/-- The columns that a character adds before what follows it, and what it is to the one before it.
A ligature may take a column back. -/
def measure (c : Char) (following : Following) : Int × Following :=
  match following with
  | .colour behind =>
    if startsPicture c.toNat then
      (match behind with | .joined _ => 0 | _ => 2, .picture)
    else measureUncoloured c behind.lasting
  | _ => measureUncoloured c following

def measureText (text : List Char) : Int × Following :=
  text.foldr (fun c right => let (n, f) := measure c right.2; (n + right.1, f)) (0, .plain)

def columns (text : List Char) : Nat := (measureText text).1.toNat

end GuessClient.Text
