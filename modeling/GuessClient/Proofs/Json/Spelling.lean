import Mathlib.Data.List.TakeWhile
import GuessClient.Json.Token

/-!
How tokens are spelled. A grammar says which texts a token can be written with, and the tokens that
are read from a text are exactly those that it spells, one after the other, with blanks between
them as it likes.
-/

namespace GuessClient.Json

def Blank (text : Source) : Prop := ∀ c ∈ text, isBlank c = true

inductive Piece.Spelled : Piece → Source → Prop where
  | plain {c : Char} (printed : 0x20 ≤ c.toNat) (unquoted : c ≠ '"') (unescaped : c ≠ '\\') :
      Spelled (.char c) [some c]
  | short {e c : Char} (escape : shortEscape? e = some c) : Spelled (.char c) [some '\\', some e]
  | long {a b c d : Option Char} {n : Nat} (digits : unitValue? a b c d = some n) :
      Spelled (.unit n) [some '\\', some 'u', a, b, c, d]
  | stray : Spelled .stray [none]

inductive Pieces : List Piece → Source → Prop where
  | nil : Pieces [] []
  | cons {piece : Piece} {pieces : List Piece} {text rest : Source} (first : piece.Spelled text)
      (later : Pieces pieces rest) : Pieces (piece :: pieces) (text ++ rest)

/-- The characters that pieces stand for. A surrogate stands for something only in a pair. -/
inductive Reads : List Piece → List Char → Prop where
  | nil : Reads [] []
  | char (c : Char) {pieces : List Piece} {cs : List Char} (later : Reads pieces cs) :
      Reads (.char c :: pieces) (c :: cs)
  | unit {n : Nat} {pieces : List Piece} {cs : List Char} (high : isHighSurrogate n = false)
      (low : isLowSurrogate n = false) (later : Reads pieces cs) :
      Reads (.unit n :: pieces) (Char.ofNat n :: cs)
  | pair {n m : Nat} {pieces : List Piece} {cs : List Char} (high : isHighSurrogate n = true)
      (low : isLowSurrogate m = true) (later : Reads pieces cs) :
      Reads (.unit n :: .unit m :: pieces) (pairedChar n m :: cs)

def Digits (ds : List Char) : Prop := ds ≠ [] ∧ ∀ c ∈ ds, c.isDigit = true

def Whole (ds : List Char) : Prop := ds = ['0'] ∨ Digits ds ∧ ds.head? ≠ some '0'

inductive Fraction : Option (List Char) → Source → Prop where
  | absent : Fraction none []
  | present {ds : List Char} (digits : Digits ds) : Fraction (some ds) (some '.' :: ds.map some)

inductive Sign : Bool → Source → Prop where
  | bare : Sign false []
  | plus : Sign false [some '+']
  | minus : Sign true [some '-']

inductive Exponent : Option (Bool × List Char) → Source → Prop where
  | absent : Exponent none []
  | present {mark : Char} {negative : Bool} {sign : Source} {ds : List Char}
      (marks : mark = 'e' ∨ mark = 'E') (signed : Sign negative sign) (digits : Digits ds) :
      Exponent (some (negative, ds)) (some mark :: (sign ++ ds.map some))

inductive Unsigned (n : NumberText) : Source → Prop where
  | parts {fraction exponent : Source} (whole : Whole n.whole)
      (fractional : Fraction n.fraction fraction) (raised : Exponent n.exponent exponent) :
      Unsigned n (n.whole.map some ++ (fraction ++ exponent))

inductive Token.Spelled : Token → Source → Prop where
  | leftBrace : Spelled .leftBrace [some '{']
  | rightBrace : Spelled .rightBrace [some '}']
  | leftBracket : Spelled .leftBracket [some '[']
  | rightBracket : Spelled .rightBracket [some ']']
  | comma : Spelled .comma [some ',']
  | colon : Spelled .colon [some ':']
  | null : Spelled .null (['n', 'u', 'l', 'l'].map some)
  | yes : Spelled (.bool true) (['t', 'r', 'u', 'e'].map some)
  | no : Spelled (.bool false) (['f', 'a', 'l', 's', 'e'].map some)
  | string {pieces : List Piece} {text : Source} {s : Option String} (written : Pieces pieces text)
      (read : ∀ t, s = some t ↔ Reads pieces t.toList) :
      Spelled (.string s) (some '"' :: (text ++ [some '"']))
  | positive {n : NumberText} {text : Source} (written : Unsigned n text)
      (sign : n.negative = false) : Spelled (.number n.value?) text
  | negative {n : NumberText} {text : Source} (written : Unsigned n text)
      (sign : n.negative = true) : Spelled (.number n.value?) (some '-' :: text)

def Token.isNumber : Token → Bool
  | .number _ => true
  | _ => false

def Token.closes : Token → Bool
  | .comma => true
  | .rightBracket => true
  | .rightBrace => true
  | _ => false

/-- After a number something closes, if anything follows it. -/
def Separated : List Token → Prop
  | [] => True
  | token :: rest =>
    (token.isNumber = true → ∀ next ∈ rest.head?, next.closes = true) ∧ Separated rest

inductive Spells : List Token → Source → Prop where
  | nil {blanks : Source} (blank : Blank blanks) : Spells [] blanks
  | cons {blanks text rest : Source} {token : Token} {tokens : List Token} (blank : Blank blanks)
      (written : token.Spelled text) (later : Spells tokens rest) :
      Spells (token :: tokens) (blanks ++ (text ++ rest))

/-! ### Strings -/

theorem pieceChars_eq_some_iff {pieces : List Piece} {cs : List Char} :
    pieceChars? pieces = some cs ↔ Reads pieces cs := by
  constructor
  · intro read
    fun_induction pieceChars? pieces generalizing cs with
    | case1 =>
      obtain rfl : [] = cs := Option.some.inj read
      exact .nil
    | case2 c rest ih =>
      obtain ⟨later, there, rfl⟩ := Option.map_eq_some_iff.mp read
      exact .char c (ih there)
    | case3 => cases read
    | case4 n m rest high low ih =>
      obtain ⟨later, there, rfl⟩ := Option.map_eq_some_iff.mp read
      exact .pair high low (ih there)
    | case5 => cases read
    | case6 => cases read
    | case7 n m rest high low ih =>
      obtain ⟨later, there, rfl⟩ := Option.map_eq_some_iff.mp read
      exact .unit (by simpa using high) (by simpa using low) (ih there)
    | case8 => cases read
    | case9 n rest _ lone ih =>
      obtain ⟨later, there, rfl⟩ := Option.map_eq_some_iff.mp read
      simp only [Bool.or_eq_true, not_or, Bool.not_eq_true] at lone
      exact .unit lone.1 lone.2 (ih there)
  · intro reads
    induction reads with
    | nil => rfl
    | char c _ ih => simp [pieceChars?, ih]
    | @unit n pieces cs high low _ ih =>
      -- what follows decides whether the unit is looked at as the first of a pair
      cases pieces with
      | nil => simp_all [pieceChars?]
      | cons piece rest => cases piece <;> simp_all [pieceChars?]
    | pair high low _ ih => simp [pieceChars?, high, low, ih]

theorem stringPieces_spelled {done pieces : List Piece} {text rest : Source}
    (read : stringPieces? done text = some (pieces, rest)) :
    ∃ more body, pieces = done.reverse ++ more ∧ text = body ++ some '"' :: rest ∧
      Pieces more body := by
  fun_induction stringPieces? done text with
  | case1 => cases read
  | case2 done later ih =>
    obtain ⟨more, body, rfl, rfl, spelled⟩ := ih read
    exact ⟨.stray :: more, none :: body, by simp, rfl, .cons .stray spelled⟩
  | case3 done later =>
    obtain ⟨rfl, rfl⟩ := Prod.mk.inj (Option.some.inj read)
    exact ⟨[], [], by simp, rfl, .nil⟩
  | case4 done a b c d later n digits ih =>
    obtain ⟨more, body, rfl, rfl, spelled⟩ := ih read
    exact ⟨.unit n :: more, _, by simp, rfl, .cons (.long digits) spelled⟩
  | case5 => cases read
  | case6 done e later _ c escape ih =>
    obtain ⟨more, body, rfl, rfl, spelled⟩ := ih read
    exact ⟨.char c :: more, _, by simp, rfl, .cons (.short escape) spelled⟩
  | case7 => cases read
  | case8 => cases read
  | case9 done c later unquoted _ _ printed ih =>
    obtain ⟨more, body, rfl, rfl, spelled⟩ := ih read
    simp only [Bool.or_eq_true, decide_eq_true_eq, not_or, Nat.not_lt] at printed
    exact ⟨.char c :: more, _, by simp, rfl, .cons (.plain printed.1 unquoted printed.2) spelled⟩

theorem stringPieces_append {pieces : List Piece} {body : Source} (spelled : Pieces pieces body)
    (done : List Piece) (rest : Source) :
    stringPieces? done (body ++ some '"' :: rest) = some (done.reverse ++ pieces, rest) := by
  induction spelled generalizing done with
  | nil => simp [stringPieces?]
  | @cons piece pieces text body first _ ih =>
    cases first with
    | @plain c printed unquoted unescaped =>
      have seen : ¬ c.toNat < 0x20 := Nat.not_lt.mpr printed
      rw [List.append_assoc, List.singleton_append, stringPieces?]
      · simp [seen, unescaped, ih]
      · exact unquoted
      · exact fun _ _ _ _ _ _ => unescaped
      · exact fun _ _ _ => unescaped
    | @short e c escape =>
      have other : e ≠ 'u' := by
        rintro rfl
        cases escape
      rw [List.append_assoc, List.cons_append, List.singleton_append, stringPieces?]
      · simp [escape, ih]
      · exact fun _ _ _ _ _ _ => other
    | long digits => simp [stringPieces?, digits, ih]
    | stray => simp [stringPieces?, ih]

/-! ### Numbers -/

def Undigited (text : Source) : Prop := ∀ c, text.head? = some (some c) → c.isDigit = false

/-- What stands at the front is no part of a number. -/
def Ends (text : Source) : Prop :=
  ∀ c, text.head? = some (some c) → c.isDigit = false ∧ c ≠ '.' ∧ c ≠ 'e' ∧ c ≠ 'E'

theorem ends_undigited {text : Source} (ends : Ends text) : Undigited text :=
  fun c front => (ends c front).1

theorem undigited_cons {c : Char} (other : c.isDigit = false) (text : Source) :
    Undigited (some c :: text) := by
  intro d front
  obtain rfl : c = d := by simpa using front
  exact other

theorem digits_cons {ds : List Char} (digits : Digits ds) :
    ∃ c more, ds = c :: more ∧ c.isDigit = true := by
  obtain ⟨c, more, rfl⟩ := List.exists_cons_of_ne_nil digits.1
  exact ⟨c, more, rfl, digits.2 c List.mem_cons_self⟩

theorem takeDigits_spelled {text rest : Source} {ds : List Char}
    (taken : takeDigits text = (ds, rest)) :
    text = ds.map some ++ rest ∧ ∀ c ∈ ds, c.isDigit = true := by
  fun_induction takeDigits text generalizing ds with
  | case1 c later digit ds' rest' there ih =>
    obtain ⟨rfl, rfl⟩ := Prod.mk.inj taken
    obtain ⟨rfl, digits⟩ := ih there
    exact ⟨rfl, List.forall_mem_cons.mpr ⟨digit, digits⟩⟩
  | case2 =>
    obtain ⟨rfl, rfl⟩ := Prod.mk.inj taken
    exact ⟨rfl, by simp⟩
  | case3 =>
    obtain ⟨rfl, rfl⟩ := Prod.mk.inj taken
    exact ⟨rfl, by simp⟩

theorem takeDigits_append {ds : List Char} (digits : ∀ c ∈ ds, c.isDigit = true) {rest : Source}
    (stops : Undigited rest) : takeDigits (ds.map some ++ rest) = (ds, rest) := by
  induction ds with
  | nil =>
    match rest with
    | [] | none :: _ => rfl
    | some c :: later => simp [takeDigits, stops c rfl]
  | cons c ds ih =>
    obtain ⟨digit, digits⟩ := List.forall_mem_cons.mp digits
    simp [takeDigits, digit, ih digits]

theorem takeSomeDigits_spelled {text rest : Source} {ds : List Char}
    (taken : takeSomeDigits? text = some (ds, rest)) : text = ds.map some ++ rest ∧ Digits ds := by
  unfold takeSomeDigits? at taken
  split at taken
  · cases taken
  · rename_i other
    obtain ⟨rfl, digits⟩ := takeDigits_spelled (Option.some.inj taken)
    refine ⟨rfl, ?_, digits⟩
    rintro rfl
    exact other rest (Option.some.inj taken)

theorem takeSomeDigits_append {ds : List Char} (digits : Digits ds) {rest : Source}
    (stops : Undigited rest) : takeSomeDigits? (ds.map some ++ rest) = some (ds, rest) := by
  unfold takeSomeDigits?
  rw [takeDigits_append digits.2 stops]
  split
  · rename_i none
    exact absurd (Prod.mk.inj none).1 digits.1
  · rfl

theorem wholePart_spelled {text rest : Source} {ds : List Char}
    (read : wholePart? text = some (ds, rest)) : text = ds.map some ++ rest ∧ Whole ds := by
  unfold wholePart? at read
  split at read
  · obtain ⟨rfl, rfl⟩ := Prod.mk.inj (Option.some.inj read)
    exact ⟨rfl, .inl rfl⟩
  · rename_i other
    obtain ⟨rfl, digits⟩ := takeSomeDigits_spelled read
    refine ⟨rfl, .inr ⟨digits, ?_⟩⟩
    intro zero
    obtain ⟨more, rfl⟩ := List.head?_eq_some_iff.mp zero
    exact other _ rfl

theorem wholePart_append {ds : List Char} (whole : Whole ds) {rest : Source}
    (stops : Undigited rest) : wholePart? (ds.map some ++ rest) = some (ds, rest) := by
  rcases whole with rfl | ⟨digits, other⟩
  · rfl
  · rw [← takeSomeDigits_append digits stops]
    obtain ⟨c, more, rfl, _⟩ := digits_cons digits
    unfold wholePart?
    split
    · rename_i zero
      simp_all
    · rfl

theorem fractionPart_spelled {text rest : Source} {ds : Option (List Char)}
    (read : fractionPart? text = some (ds, rest)) :
    ∃ part, text = part ++ rest ∧ Fraction ds part := by
  unfold fractionPart? at read
  split at read
  · obtain ⟨⟨digits, later⟩, there, same⟩ := Option.map_eq_some_iff.mp read
    obtain ⟨rfl, rfl⟩ := Prod.mk.inj same
    obtain ⟨rfl, digits⟩ := takeSomeDigits_spelled there
    exact ⟨_, rfl, .present digits⟩
  · obtain ⟨rfl, rfl⟩ := Prod.mk.inj (Option.some.inj read)
    exact ⟨[], rfl, .absent⟩

theorem fractionPart_append {ds : Option (List Char)} {part : Source} (fraction : Fraction ds part)
    {rest : Source} (stops : Undigited rest) (other : rest.head? ≠ some (some '.')) :
    fractionPart? (part ++ rest) = some (ds, rest) := by
  cases fraction with
  | absent =>
    unfold fractionPart?
    split
    · rename_i point
      subst point
      contradiction
    · rfl
  | present digits => simp [fractionPart?, takeSomeDigits_append digits stops]

theorem signedDigits_spelled {text rest : Source} {e : Bool × List Char}
    (read : signedDigits? text = some (e, rest)) :
    ∃ sign, text = sign ++ (e.2.map some ++ rest) ∧ Sign e.1 sign ∧ Digits e.2 := by
  unfold signedDigits? at read
  split at read
  all_goals
    obtain ⟨⟨ds, later⟩, there, same⟩ := Option.map_eq_some_iff.mp read
    obtain ⟨rfl, rfl⟩ := Prod.mk.inj same
    obtain ⟨rfl, digits⟩ := takeSomeDigits_spelled there
  · exact ⟨_, rfl, .minus, digits⟩
  · exact ⟨_, rfl, .plus, digits⟩
  · exact ⟨[], rfl, .bare, digits⟩

theorem signedDigits_append {negative : Bool} {sign : Source} {ds : List Char}
    (signed : Sign negative sign) (digits : Digits ds) {rest : Source} (stops : Undigited rest) :
    signedDigits? (sign ++ (ds.map some ++ rest)) = some ((negative, ds), rest) := by
  have taken := takeSomeDigits_append digits stops
  cases signed with
  | bare =>
    obtain ⟨c, more, rfl, digit⟩ := digits_cons digits
    change signedDigits? (some c :: (more.map some ++ rest)) = _
    rw [signedDigits?]
    · simp_all
    · rintro _ ⟨⟩
      cases digit
    · rintro _ ⟨⟩
      cases digit
  | plus => simp [signedDigits?, taken]
  | minus => simp [signedDigits?, taken]

theorem exponentPart_spelled {text rest : Source} {e : Option (Bool × List Char)}
    (read : exponentPart? text = some (e, rest)) :
    ∃ part, text = part ++ rest ∧ Exponent e part := by
  unfold exponentPart? at read
  split at read
  · obtain ⟨e, there, same⟩ := Option.map_eq_some_iff.mp read
    obtain ⟨rfl, rfl⟩ := Prod.mk.inj same
    obtain ⟨sign, rfl, signed, digits⟩ := signedDigits_spelled there
    exact ⟨_, by simp, .present (.inl rfl) signed digits⟩
  · obtain ⟨e, there, same⟩ := Option.map_eq_some_iff.mp read
    obtain ⟨rfl, rfl⟩ := Prod.mk.inj same
    obtain ⟨sign, rfl, signed, digits⟩ := signedDigits_spelled there
    exact ⟨_, by simp, .present (.inr rfl) signed digits⟩
  · obtain ⟨rfl, rfl⟩ := Prod.mk.inj (Option.some.inj read)
    exact ⟨[], rfl, .absent⟩

theorem exponentPart_append {e : Option (Bool × List Char)} {part : Source}
    (exponent : Exponent e part) {rest : Source} (ends : Ends rest) :
    exponentPart? (part ++ rest) = some (e, rest) := by
  cases exponent with
  | absent =>
    rw [List.nil_append, exponentPart?]
    · rintro _ rfl
      exact (ends 'e' rfl).2.2.1 rfl
    · rintro _ rfl
      exact (ends 'E' rfl).2.2.2 rfl
  | present marks signed digits =>
    have taken := signedDigits_append signed digits (ends_undigited ends)
    rcases marks with rfl | rfl <;> simp [exponentPart?, taken]

theorem exponent_undigited {e : Option (Bool × List Char)} {part : Source}
    (exponent : Exponent e part) {rest : Source} (ends : Ends rest) :
    Undigited (part ++ rest) ∧ (part ++ rest).head? ≠ some (some '.') := by
  cases exponent with
  | absent => exact ⟨ends_undigited ends, fun point => (ends '.' point).2.1 rfl⟩
  | present marks =>
    rcases marks with rfl | rfl
    · exact ⟨undigited_cons rfl _, by simp⟩
    · exact ⟨undigited_cons rfl _, by simp⟩

theorem fraction_undigited {ds : Option (List Char)} {part : Source} (fraction : Fraction ds part)
    {rest : Source} (stops : Undigited rest) : Undigited (part ++ rest) := by
  cases fraction with
  | absent => exact stops
  | present => exact undigited_cons rfl _

theorem number_spelled {negative : Bool} {text rest : Source} {n : NumberText}
    (read : number? negative text = some (n, rest)) :
    ∃ part, text = part ++ rest ∧ Unsigned n part ∧ n.negative = negative := by
  simp only [number?, Option.bind_eq_bind, Option.bind_eq_some_iff, Prod.exists] at read
  obtain ⟨whole, first, wholly, fraction, second, fractional, exponent, third, raised, same⟩ := read
  obtain ⟨rfl, rfl⟩ := Prod.mk.inj (Option.some.inj same)
  obtain ⟨rfl, front⟩ := wholePart_spelled wholly
  obtain ⟨middle, rfl, between⟩ := fractionPart_spelled fractional
  obtain ⟨back, rfl, behind⟩ := exponentPart_spelled raised
  refine ⟨whole.map some ++ (middle ++ back), ?_, .parts front between behind, rfl⟩
  simp only [List.append_assoc]

theorem number_append {n : NumberText} {part : Source} (written : Unsigned n part) {rest : Source}
    (ends : Ends rest) : number? n.negative (part ++ rest) = some (n, rest) := by
  obtain ⟨wholly, fractional, raised⟩ := written
  obtain ⟨stops, other⟩ := exponent_undigited raised ends
  have front := wholePart_append wholly (fraction_undigited fractional stops)
  have between := fractionPart_append fractional stops other
  have behind := exponentPart_append raised ends
  simp only [number?, List.append_assoc, front, between, behind, Option.bind_eq_bind,
    Option.bind_some]
  rfl

/-! ### Tokens -/

theorem unsigned_cons {n : NumberText} {text : Source} (written : Unsigned n text) :
    ∃ c more, text = some c :: more ∧ c.isDigit = true := by
  obtain ⟨zero | ⟨digits, _⟩, _, _⟩ := written
  · exact ⟨'0', _, by rw [zero]; rfl, rfl⟩
  · obtain ⟨c, more, same, digit⟩ := digits_cons digits
    exact ⟨c, _, by rw [same]; rfl, digit⟩

theorem digit_unblank {c : Char} (digit : c.isDigit = true) : isBlank (some c) = false := by
  rw [← Bool.not_eq_true]
  intro blank
  simp only [isBlank, Option.some.injEq, Bool.or_eq_true, decide_eq_true_eq] at blank
  rcases blank with ((rfl | rfl) | rfl) | rfl <;> cases digit

theorem spelled_cons {token : Token} {text : Source} (written : token.Spelled text) :
    ∃ c more, text = c :: more ∧ isBlank c = false := by
  cases written with
  | positive written =>
    obtain ⟨c, more, rfl, digit⟩ := unsigned_cons written
    exact ⟨some c, more, rfl, digit_unblank digit⟩
  | _ => exact ⟨_, _, rfl, rfl⟩

theorem text_read_iff (pieces : List Piece) (t : String) :
    (pieceChars? pieces).map String.ofList = some t ↔ Reads pieces t.toList := by
  rw [← pieceChars_eq_some_iff, Option.map_eq_some_iff]
  constructor
  · rintro ⟨cs, read, rfl⟩
    rw [read, String.toList_ofList]
  · intro read
    exact ⟨t.toList, read, String.ofList_toList⟩

theorem fixed_spelled {token first : Token} {part later rest : Source}
    (read : some (first, later) = some (token, rest)) (written : first.Spelled part) :
    ∃ part', part ++ later = part' ++ rest ∧ token.Spelled part' := by
  obtain ⟨rfl, rfl⟩ := Prod.mk.inj (Option.some.inj read)
  exact ⟨part, rfl, written⟩

theorem nextToken_spelled {text rest : Source} {token : Token}
    (read : nextToken? text = some (token, rest)) :
    ∃ part, text = part ++ rest ∧ token.Spelled part := by
  unfold nextToken? at read
  split at read
  · exact fixed_spelled read .leftBrace
  · exact fixed_spelled read .rightBrace
  · exact fixed_spelled read .leftBracket
  · exact fixed_spelled read .rightBracket
  · exact fixed_spelled read .comma
  · exact fixed_spelled read .colon
  · exact fixed_spelled read .null
  · exact fixed_spelled read .yes
  · exact fixed_spelled read .no
  · obtain ⟨⟨pieces, later⟩, there, same⟩ := Option.map_eq_some_iff.mp read
    obtain ⟨rfl, rfl⟩ := Prod.mk.inj same
    obtain ⟨pieces, body, rfl, rfl, spelled⟩ := stringPieces_spelled there
    exact ⟨some '"' :: (body ++ [some '"']), by simp, .string spelled (text_read_iff pieces)⟩
  · obtain ⟨⟨n, later⟩, there, same⟩ := Option.map_eq_some_iff.mp read
    obtain ⟨rfl, rfl⟩ := Prod.mk.inj same
    obtain ⟨part, rfl, written, sign⟩ := number_spelled there
    exact ⟨some '-' :: part, rfl, .negative written sign⟩
  · obtain ⟨⟨n, later⟩, there, same⟩ := Option.map_eq_some_iff.mp read
    obtain ⟨rfl, rfl⟩ := Prod.mk.inj same
    obtain ⟨part, rfl, written, sign⟩ := number_spelled there
    exact ⟨part, rfl, .positive written sign⟩

theorem nextToken_digit {c : Char} (digit : c.isDigit = true) (rest : Source) :
    nextToken? (some c :: rest) =
      (number? false (some c :: rest)).map fun (n, rest) => (.number n.value?, rest) := by
  rw [nextToken?]
  all_goals
    intros
    simp_all

theorem nextToken_append {token : Token} {part : Source} (written : token.Spelled part)
    {rest : Source} (ends : token.isNumber = true → Ends rest) :
    nextToken? (part ++ rest) = some (token, rest) := by
  cases written with
  | @string pieces text s written read =>
    have same : (pieceChars? pieces).map String.ofList = s :=
      Option.ext fun t => (text_read_iff pieces t).trans (read t).symm
    have taken := stringPieces_append written [] rest
    simp only [List.cons_append, List.append_assoc, List.nil_append, nextToken?, taken]
    simp [same]
  | @positive n text written sign =>
    obtain ⟨c, more, rfl, digit⟩ := unsigned_cons written
    have taken := number_append written (ends rfl)
    rw [sign] at taken
    rw [List.cons_append, nextToken_digit digit, ← List.cons_append, taken]
    rfl
  | @negative n text written sign =>
    have taken := number_append written (ends rfl)
    rw [sign] at taken
    simp [nextToken?, taken]
  | _ => rfl

/-! ### Texts -/

theorem blank_dropped {blanks : Source} (blank : Blank blanks) (text : Source) :
    (blanks ++ text).dropWhile isBlank = text.dropWhile isBlank :=
  List.dropWhile_append_of_pos blank

theorem blank_taken (text : Source) : Blank (text.takeWhile isBlank) :=
  fun _ there => List.mem_takeWhile_imp there

theorem blank_ends {blanks text : Source} (blank : Blank blanks) (ends : Ends text) :
    Ends (blanks ++ text) := by
  cases blanks with
  | nil => exact ends
  | cons first more =>
    intro c front
    obtain rfl : first = some c := by simpa using front
    have white := blank _ List.mem_cons_self
    simp only [isBlank, Option.some.injEq, Bool.or_eq_true, decide_eq_true_eq] at white
    rcases white with ((rfl | rfl) | rfl) | rfl <;> decide

theorem closing_ends {token : Token} {text : Source} (written : token.Spelled text)
    (closes : token.closes = true) (rest : Source) : Ends (text ++ rest) := by
  cases written with
  | comma | rightBracket | rightBrace =>
    rintro c ⟨⟩
    decide
  | _ => cases closes

theorem spells_ends {tokens : List Token} {text : Source} (spells : Spells tokens text)
    (closes : ∀ next ∈ tokens.head?, next.closes = true) : Ends text := by
  cases spells with
  | nil blank =>
    rw [← List.append_nil text]
    exact blank_ends blank nofun
  | cons blank written later => exact blank_ends blank (closing_ends written (closes _ rfl) _)

theorem tokensWith_spells {done all : List Token} {fuel : Nat} {text : Source}
    (enough : text.length < fuel) (read : tokensWith? done fuel text = some all) :
    ∃ tokens, all = done.reverse ++ tokens ∧ Spells tokens text := by
  induction fuel generalizing done text with
  | zero => contradiction
  | succ fuel ih =>
    have parts : text.takeWhile isBlank ++ text.dropWhile isBlank = text :=
      List.takeWhile_append_dropWhile
    have blank := blank_taken text
    unfold tokensWith? at read
    split at read
    · rename_i nothing
      rw [nothing, List.append_nil] at parts
      exact ⟨[], by simpa using read.symm, .nil (parts ▸ blank)⟩
    · split at read
      · rename_i token rest there
        obtain ⟨part, same, written⟩ := nextToken_spelled there
        obtain ⟨c, more, rfl, _⟩ := spelled_cons written
        rw [same] at parts
        have shorter := congrArg List.length parts
        simp only [List.length_append, List.length_cons] at shorter
        obtain ⟨tokens, rfl, spells⟩ := ih (by omega) read
        exact ⟨token :: tokens, by simp, parts ▸ .cons blank written spells⟩
      · cases read

theorem spells_tokensWith {tokens : List Token} {text : Source} (spells : Spells tokens text)
    (separated : Separated tokens) {fuel : Nat} (enough : text.length < fuel)
    (done : List Token) : tokensWith? done fuel text = some (done.reverse ++ tokens) := by
  induction spells generalizing fuel done with
  | @nil blanks blank =>
    obtain ⟨fuel, rfl⟩ := Nat.exists_eq_succ_of_ne_zero (Nat.ne_zero_of_lt enough)
    have nothing := blank_dropped blank []
    simp only [List.append_nil, List.dropWhile_nil] at nothing
    simp [tokensWith?, nothing]
  | @cons blanks part rest token tokens blank written later ih =>
    obtain ⟨fuel, rfl⟩ := Nat.exists_eq_succ_of_ne_zero (Nat.ne_zero_of_lt enough)
    have next : nextToken? (part ++ rest) = some (token, rest) :=
      nextToken_append written fun number => spells_ends later (separated.1 number)
    obtain ⟨c, more, rfl, unblank⟩ := spelled_cons written
    have dropped : (blanks ++ (c :: more ++ rest)).dropWhile isBlank = c :: (more ++ rest) := by
      rw [blank_dropped blank, List.cons_append, List.dropWhile_cons_of_neg (by simp [unblank])]
    simp only [List.length_append, List.length_cons] at enough
    have last : tokensWith? (token :: done) fuel rest = some ((token :: done).reverse ++ tokens) :=
      ih separated.2 (by omega) (token :: done)
    rw [List.cons_append] at next
    simp only [tokensWith?, dropped, next, last, List.reverse_cons, List.append_assoc,
      List.singleton_append]

theorem tokens_spells {text : Source} {tokens : List Token} (read : tokens? text = some tokens) :
    Spells tokens text := by
  obtain ⟨all, rfl, spells⟩ := tokensWith_spells (Nat.lt_succ_self _) read
  exact spells

theorem spells_tokens {text : Source} {tokens : List Token} (spells : Spells tokens text)
    (separated : Separated tokens) : tokens? text = some tokens :=
  spells_tokensWith spells separated (Nat.lt_succ_self _) []

end GuessClient.Json
