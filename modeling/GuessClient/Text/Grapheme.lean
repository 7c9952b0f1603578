import GuessClient.Text.BreakTable

/-!
User-perceived characters: a text is cut into extended grapheme clusters by the rules of Unicode's
text segmentation. The rules look at the next character and at how the cluster before it ends, so a
cluster is read from left to right with a small memory of its end.
-/

namespace GuessClient.Text

inductive BreakClass where
  | lineFeed
  | carriageReturn
  | control
  | extending
  | joiner
  | flagLetter
  | prepended
  | spacing
  | hangulLead
  | hangulVowel
  | hangulTail
  | hangulOpen
  | hangulClosed
  | other
  deriving DecidableEq, Repr

def BreakClass.ofLow (n : Nat) : BreakClass :=
  if n = 0xA then .lineFeed
  else if n = 0xD then .carriageReturn
  else if n < 0x20 || (0x7F ≤ n && n < 0xA0) || n = 0xAD then .control
  else .other

/-- A precomposed Hangul syllable ends in a vowel when its number is a multiple of 28. -/
def BreakClass.ofSyllable (n : Nat) : BreakClass :=
  if (n - 0xAC00) % 28 = 0 then .hangulOpen else .hangulClosed

def BreakClass.ofChar (c : Char) : BreakClass :=
  let n := c.toNat
  if n < 0x300 then .ofLow n
  else if n = 0x200D then .joiner
  else if 0x1F1E6 ≤ n && n ≤ 0x1F1FF then .flagLetter
  else if 0xAC00 ≤ n && n ≤ 0xD7A3 then .ofSyllable n
  else if (0x1100 ≤ n && n ≤ 0x115F) || (0xA960 ≤ n && n ≤ 0xA97C) then .hangulLead
  else if (0x1160 ≤ n && n ≤ 0x11A7) || (0xD7B0 ≤ n && n ≤ 0xD7C6) then .hangulVowel
  else if (0x11A8 ≤ n && n ≤ 0x11FF) || (0xD7CB ≤ n && n ≤ 0xD7FB) then .hangulTail
  else if extendingMarks.contains n then .extending
  else if spacingMarks.contains n then .spacing
  else if controlMarks.contains n then .control
  else if prependedMarks.contains n then .prepended
  else .other

def conjunctConsonants : Ranges :=
  [(0x915, 0x939), (0x958, 0x95F), (0x978, 0x97F), (0x995, 0x9A8), (0x9AA, 0x9B0), (0x9B2, 0x9B2),
   (0x9B6, 0x9B9), (0x9DC, 0x9DD), (0x9DF, 0x9DF), (0x9F0, 0x9F1), (0xA95, 0xAA8), (0xAAA, 0xAB0),
   (0xAB2, 0xAB3), (0xAB5, 0xAB9), (0xAF9, 0xAF9), (0xB15, 0xB28), (0xB2A, 0xB30), (0xB32, 0xB33),
   (0xB35, 0xB39), (0xB5C, 0xB5D), (0xB5F, 0xB5F), (0xB71, 0xB71), (0xC15, 0xC28), (0xC2A, 0xC39),
   (0xC58, 0xC5A), (0xD15, 0xD3A)]

def conjunctLinkers : List Nat := [0x94D, 0x9CD, 0xACD, 0xB4D, 0xC4D, 0xD4D]

/-- How far a pair that spans several characters has been read. -/
inductive Pending where
  | none
  | opened
  | linked
  deriving DecidableEq, Repr

structure ClusterEnd where
  last : BreakClass
  /-- A pictograph and then a joiner ask for another pictograph. -/
  picture : Pending
  conjunct : Pending
  oddFlag : Bool
  deriving DecidableEq, Repr

def ClusterEnd.start (c : Char) : ClusterEnd where
  last := .ofChar c
  picture := if pictographs.contains c.toNat then .opened else .none
  conjunct := if conjunctConsonants.contains c.toNat then .opened else .none
  oddFlag := BreakClass.ofChar c = .flagLetter

def ClusterEnd.extend (e : ClusterEnd) (c : Char) : ClusterEnd where
  last := .ofChar c
  picture :=
    if pictographs.contains c.toNat then .opened
    else match e.picture, BreakClass.ofChar c with
      | .opened, .extending => .opened
      | .opened, .joiner => .linked
      | _, _ => .none
  conjunct :=
    if conjunctConsonants.contains c.toNat then .opened
    else if e.conjunct = .none then .none
    else if conjunctLinkers.contains c.toNat then .linked
    else match BreakClass.ofChar c with
      | .extending | .joiner => e.conjunct
      | _ => .none
  oddFlag := BreakClass.ofChar c = .flagLetter && !(e.last = .flagLetter && e.oddFlag)

def ClusterEnd.takes (e : ClusterEnd) (c : Char) : Bool :=
  match e.last, BreakClass.ofChar c with
  | .carriageReturn, .lineFeed => true
  | .carriageReturn, _ | .lineFeed, _ | .control, _ => false
  | _, .carriageReturn | _, .lineFeed | _, .control => false
  | .hangulLead, .hangulLead | .hangulLead, .hangulVowel => true
  | .hangulLead, .hangulOpen | .hangulLead, .hangulClosed => true
  | .hangulOpen, .hangulVowel | .hangulOpen, .hangulTail => true
  | .hangulVowel, .hangulVowel | .hangulVowel, .hangulTail => true
  | .hangulClosed, .hangulTail | .hangulTail, .hangulTail => true
  | _, .extending | _, .joiner | _, .spacing => true
  | .prepended, _ => true
  | .flagLetter, .flagLetter => e.oddFlag
  | _, _ =>
    (e.picture = .linked && pictographs.contains c.toNat)
      || (e.conjunct = .linked && conjunctConsonants.contains c.toNat)

/-- The clusters of a text of which `cluster`, backwards, has been read already. -/
def clustersFrom (cluster : List Char) (e : ClusterEnd) : List Char → List (List Char)
  | [] => [cluster.reverse]
  | c :: rest =>
    if e.takes c then clustersFrom (c :: cluster) (e.extend c) rest
    else cluster.reverse :: clustersFrom [c] (.start c) rest

def clusters : List Char → List (List Char)
  | [] => []
  | c :: rest => clustersFrom [c] (.start c) rest

theorem flatten_clustersFrom (cluster : List Char) (e : ClusterEnd) (text : List Char) :
    (clustersFrom cluster e text).flatten = cluster.reverse ++ text := by
  induction text generalizing cluster e with
  | nil => simp [clustersFrom]
  | cons c rest ih =>
    rw [clustersFrom]
    split <;> simp [ih]

theorem flatten_clusters (text : List Char) : (clusters text).flatten = text := by
  cases text with
  | nil => rfl
  | cons c rest => simp [clusters, flatten_clustersFrom]

end GuessClient.Text
