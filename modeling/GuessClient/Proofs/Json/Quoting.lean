import GuessClient.Json.Writer
import GuessClient.Proofs.Json.Spelling

/-!
What is written can be read: a string in quotes spells the string, whatever its characters are, and
no digit is dropped of a number below the largest significand. Texts are put together from such
parts, with blanks between them.
-/

namespace GuessClient.Json

open GuessClient.Decimal

/-! ### Strings -/

theorem escapeChar_cases (c : Char) :
    (∃ e, shortEscape? e = some c ∧ escapeChar c = ['\\', e]) ∨
    (c.toNat < 0x20 ∧
      escapeChar c = ['\\', 'u', '0', '0', hexDigit (c.toNat / 16), hexDigit c.toNat]) ∨
    (0x20 ≤ c.toNat ∧ c ≠ '"' ∧ c ≠ '\\' ∧ escapeChar c = [c]) := by
  by_cases quote : c = '"'
  · subst quote
    exact .inl ⟨'"', rfl, rfl⟩
  by_cases backslash : c = '\\'
  · subst backslash
    exact .inl ⟨'\\', rfl, rfl⟩
  by_cases back : c = '\x08'
  · subst back
    exact .inl ⟨'b', rfl, rfl⟩
  by_cases feed : c = '\x0c'
  · subst feed
    exact .inl ⟨'f', rfl, rfl⟩
  by_cases line : c = '\n'
  · subst line
    exact .inl ⟨'n', rfl, rfl⟩
  by_cases carriage : c = '\r'
  · subst carriage
    exact .inl ⟨'r', rfl, rfl⟩
  by_cases tab : c = '\t'
  · subst tab
    exact .inl ⟨'t', rfl, rfl⟩
  have long : escapeChar c = if c.toNat < 0x20 then
      ['\\', 'u', '0', '0', hexDigit (c.toNat / 16), hexDigit c.toNat] else [c] := by
    rw [escapeChar, if_neg quote, if_neg backslash, if_neg back, if_neg feed, if_neg line,
      if_neg carriage, if_neg tab]
  by_cases control : c.toNat < 0x20
  · exact .inr (.inl ⟨control, by rw [long, if_pos control]⟩)
  · exact .inr (.inr ⟨Nat.not_lt.mp control, quote, backslash, by rw [long, if_neg control]⟩)

theorem control_unit (n : Nat) (control : n < 0x20) :
    unitValue? (some '0') (some '0') (some (hexDigit (n / 16))) (some (hexDigit n)) = some n ∧
      isHighSurrogate n = false ∧ isLowSurrogate n = false := by
  revert n
  decide

theorem escapeChar_spelled (c : Char) :
    ∃ piece : Piece, piece.Spelled ((escapeChar c).map some) ∧
      ∀ pieces cs, Reads pieces cs → Reads (piece :: pieces) (c :: cs) := by
  rcases escapeChar_cases c with ⟨e, escape, same⟩ | ⟨control, same⟩ | ⟨printed, quote, back, same⟩
  · rw [same]
    exact ⟨.char c, .short escape, fun _ _ => .char c⟩
  · obtain ⟨digits, high, low⟩ := control_unit c.toNat control
    rw [same]
    refine ⟨.unit c.toNat, .long digits, fun pieces cs later => ?_⟩
    have unit := Reads.unit high low later
    rwa [Char.ofNat_toNat] at unit
  · rw [same]
    exact ⟨.char c, .plain printed quote back, fun _ _ => .char c⟩

theorem escaped_spelled (cs : List Char) :
    ∃ pieces, Pieces pieces ((cs.flatMap escapeChar).map some) ∧ Reads pieces cs := by
  induction cs with
  | nil => exact ⟨[], .nil, .nil⟩
  | cons c cs ih =>
    obtain ⟨pieces, spelled, reads⟩ := ih
    obtain ⟨piece, first, reading⟩ := escapeChar_spelled c
    refine ⟨piece :: pieces, ?_, reading pieces cs reads⟩
    rw [List.flatMap_cons, List.map_append]
    exact .cons first spelled

theorem quoted_spelled (s : String) : Token.Spelled (.string (some s)) ((quoted s).map some) := by
  obtain ⟨pieces, spelled, reads⟩ := escaped_spelled s.toList
  rw [quoted, List.map_cons, List.map_append]
  refine .string spelled fun t => ?_
  rw [← (text_read_iff pieces s).mpr reads, text_read_iff]

/-! ### Numbers -/

theorem digitsValue_mono (s : Nat) (ds : List Char) : s ≤ digitsValue s ds := by
  unfold digitsValue
  induction ds generalizing s with
  | nil => exact Nat.le_refl s
  | cons c ds ih =>
    have more := ih (10 * s + digitValue c)
    rw [List.foldl_cons]
    omega

theorem absorb_digits (s : Nat) (ds : List Char) (fits : digitsValue s ds < significandBound) :
    absorb s ds = (digitsValue s ds, 0) := by
  induction ds generalizing s with
  | nil => rfl
  | cons c ds ih =>
    have first := digitsValue_mono (10 * s + digitValue c) ds
    have room : 10 * s + digitValue c < significandBound := Nat.lt_of_le_of_lt first fits
    rw [absorb, if_pos room, ih _ fits]
    rfl

theorem toDigits_head (n : Nat) (positive : 0 < n) : (Nat.toDigits 10 n).head? ≠ some '0' := by
  induction n using Nat.base_induction 10 (by decide) with
  | single m small =>
    rw [Nat.toDigits_of_lt_base small]
    revert m
    decide
  | digit m k small before ih =>
    rw [← Nat.toDigits_append_toDigits (by decide) before small,
      List.head?_append, Option.or_of_isSome (List.isSome_head?.mpr Nat.toDigits_ne_nil)]
    exact ih before

theorem toDigits_whole (n : Nat) : Whole (Nat.toDigits 10 n) := by
  obtain rfl | positive := Nat.eq_zero_or_pos n
  · exact .inl rfl
  · have digit : ∀ c ∈ Nat.toDigits 10 n, c.isDigit = true :=
      fun _ there => Nat.isDigit_of_mem_toDigits (by decide) (by decide) there
    exact .inr ⟨⟨Nat.toDigits_ne_nil, digit⟩, toDigits_head n positive⟩

theorem toDigits_value (n : Nat) : digitsValue 0 (Nat.toDigits 10 n) = n :=
  Nat.ofDigitChars_eq_foldl.symm.trans Nat.ofDigitChars_ten_toDigits

/-! ### Texts -/

theorem newLine_blank (depth : Nat) : Blank ((newLine depth).map some) := by
  simp [Blank, newLine, isBlank]

theorem spells_behind {blanks text : Source} {tokens : List Token} (blank : Blank blanks)
    (later : Spells tokens text) : Spells tokens (blanks ++ text) := by
  have both : ∀ {more}, Blank more → Blank (blanks ++ more) := by
    intro more white c there
    exact (List.mem_append.mp there).elim (blank c) (white c)
  cases later with
  | nil white => exact .nil (both white)
  | cons white first later =>
    rw [← List.append_assoc]
    exact .cons (both white) first later

theorem spells_append {tokens others : List Token} {text rest : Source}
    (first : Spells tokens text) (later : Spells others rest) :
    Spells (tokens ++ others) (text ++ rest) := by
  induction first with
  | nil blank => exact spells_behind blank later
  | cons blank written _ ih =>
    rw [List.append_assoc, List.append_assoc]
    exact .cons blank written ih

section

variable {token : Token} {tokens : List Token} {part rest : List Char}

theorem token_spells (first : token.Spelled (part.map some))
    (later : Spells tokens (rest.map some)) :
    Spells (token :: tokens) ((part ++ rest).map some) := by
  rw [List.map_append]
  exact @Spells.cons [] _ _ _ _ nofun first later

theorem blank_spells (blank : Blank (part.map some)) (later : Spells tokens (rest.map some)) :
    Spells tokens ((part ++ rest).map some) := by
  rw [List.map_append]
  exact spells_behind blank later

end

end GuessClient.Json
