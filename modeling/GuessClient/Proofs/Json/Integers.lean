import Mathlib.Data.List.Induction
import GuessClient.Proofs.Json.Quoting

/-!
The integers. Those that fit 64 bits, with a sign or without one, are read from their decimal notation
and from no other text, and they are written in it again, so that no digit of them is lost.
-/

namespace GuessClient.Json

open GuessClient.Decimal

/-- The decimal notation of an integer. No zero stands before other digits, and no sign before a zero
alone. -/
inductive Denotes : List Char → Int → Prop where
  | positive {ds : List Char} (whole : Whole ds) : Denotes ds (digitsValue 0 ds)
  | negative {ds : List Char} (whole : Whole ds) (other : ds ≠ ['0']) :
      Denotes ('-' :: ds) (-digitsValue 0 ds)

def Fits64 (n : Int) : Prop := -(Nat.pow 2 63 : Nat) ≤ n ∧ n < (Nat.pow 2 64 : Nat)

/-! ### Digits -/

theorem digit_char {c : Char} (digit : c.isDigit = true) :
    digitValue c < 10 ∧ Nat.digitChar (digitValue c) = c := by
  have known : ∀ n < 10, Nat.digitChar n = Char.ofNat (n + 48) := by decide
  have value : digitValue c = c.toNat - 48 := rfl
  simp only [Char.isDigit, Bool.and_eq_true, decide_eq_true_eq] at digit
  have low : 48 ≤ c.toNat := digit.1
  have high : c.toNat ≤ 57 := digit.2
  have bound : digitValue c < 10 := by omega
  have back : digitValue c + 48 = c.toNat := by omega
  exact ⟨bound, by rw [known _ bound, back, Char.ofNat_toNat]⟩

theorem digitsValue_snoc (ds : List Char) (c : Char) :
    digitsValue 0 (ds ++ [c]) = 10 * digitsValue 0 ds + digitValue c := by
  simp [digitsValue]

theorem toDigits_digitsValue {ds : List Char} (digits : Digits ds) (other : ds.head? ≠ some '0') :
    Nat.toDigits 10 (digitsValue 0 ds) = ds := by
  induction ds using List.reverseRecOn with
  | nil => exact absurd rfl digits.1
  | append_singleton before c ih =>
    obtain ⟨bound, same⟩ := digit_char (digits.2 c (by simp))
    rw [digitsValue_snoc]
    cases before with
    | nil =>
      have alone : 10 * digitsValue 0 [] + digitValue c = digitValue c := Nat.zero_add _
      rw [alone, Nat.toDigits_of_lt_base bound, same]
      rfl
    | cons d more =>
      have front := ih ⟨nofun, fun e there => digits.2 e (List.mem_append_left _ there)⟩ other
      have positive : 0 < digitsValue 0 (d :: more) := by
        rw [Nat.pos_iff_ne_zero]
        intro zero
        rw [zero] at front
        obtain ⟨rfl, rfl⟩ := List.cons.inj front
        exact other rfl
      rw [← Nat.toDigits_append_toDigits (by decide) positive bound, front,
        Nat.toDigits_of_lt_base bound, same]

theorem whole_toDigits {ds : List Char} (whole : Whole ds) :
    Nat.toDigits 10 (digitsValue 0 ds) = ds := by
  rcases whole with rfl | ⟨digits, other⟩
  · rfl
  · exact toDigits_digitsValue digits other

theorem whole_positive {ds : List Char} (whole : Whole ds) (other : ds ≠ ['0']) :
    0 < digitsValue 0 ds := by
  rw [Nat.pos_iff_ne_zero]
  intro zero
  have same := whole_toDigits whole
  rw [zero] at same
  exact other same.symm

/-! ### Writing -/

theorem write_positive (k : Nat) : (Number.integer k).write = Nat.toDigits 10 k :=
  String.toList_ofList

theorem write_negative (k : Nat) :
    (Number.integer (.negSucc k)).write = '-' :: Nat.toDigits 10 (k + 1) := by
  have text : toString (Int.negSucc k) = "-" ++ String.ofList (Nat.toDigits 10 (k + 1)) := rfl
  simp [Number.write, text]

theorem denotes_write {ds : List Char} {n : Int} (denotes : Denotes ds n) :
    (Number.integer n).write = ds := by
  cases denotes with
  | positive whole => rw [write_positive, whole_toDigits whole]
  | negative whole other =>
    obtain ⟨k, value⟩ := Nat.exists_eq_add_one.mpr (whole_positive whole other)
    have same := whole_toDigits whole
    rw [value] at same ⊢
    rw [← same]
    exact write_negative k

theorem write_denotes (n : Int) : Denotes (Number.integer n).write n := by
  cases n with
  | ofNat k =>
    have denotes := Denotes.positive (toDigits_whole k)
    rwa [toDigits_value, ← write_positive] at denotes
  | negSucc k =>
    have other : Nat.toDigits 10 (k + 1) ≠ ['0'] := by
      intro zero
      exact toDigits_head (k + 1) k.succ_pos (by rw [zero]; rfl)
    have denotes := Denotes.negative (toDigits_whole (k + 1)) other
    rwa [toDigits_value, ← write_negative] at denotes

/-! ### Reading -/

theorem absorb_bounded {s n : Nat} {ds : List Char} (bound : s < significandBound)
    (taken : absorb s ds = (n, 0)) : n = digitsValue s ds ∧ n < significandBound := by
  induction ds generalizing s with
  | nil =>
    obtain rfl : s = n := (Prod.mk.inj taken).1
    exact ⟨rfl, bound⟩
  | cons c rest ih =>
    unfold absorb at taken
    split at taken
    · rename_i fits
      exact ih fits taken
    · cases (Prod.mk.inj taken).2

theorem integerValue_eq_iff {negative : Bool} {s : Nat} {n : Int} :
    integerValue negative s = .integer n ↔
      negative = false ∧ n = s ∨ negative = true ∧ n = -s ∧ 0 < s ∧ s ≤ Nat.pow 2 63 := by
  unfold integerValue
  cases negative with
  | false => simp [eq_comm]
  | true =>
    rw [Bool.not_true, if_neg Bool.false_ne_true]
    split
    · rename_i outside
      rw [Bool.or_eq_true, decide_eq_true_eq, decide_eq_true_eq] at outside
      constructor
      · rintro ⟨⟩
      · rintro (⟨⟨⟩, _⟩ | ⟨_, _, some', most⟩)
        omega
    · rename_i inside
      rw [Bool.or_eq_true, decide_eq_true_eq, decide_eq_true_eq] at inside
      constructor
      · intro same
        have negated : -(s : Int) = n := Number.integer.inj same
        exact .inr ⟨rfl, negated.symm, by omega, by omega⟩
      · rintro (⟨⟨⟩, _⟩ | ⟨_, rfl, _, _⟩)
        rfl

theorem value_integer {m : NumberText} {n : Int} (value : m.value? = some (.integer n)) :
    m.fraction = none ∧ m.exponent = none ∧
      ∃ s, absorb 0 m.whole = (s, 0) ∧ integerValue m.negative s = .integer n := by
  cases taken : absorb 0 m.whole with | mk s dropped
  simp only [NumberText.value?, taken] at value
  split at value
  · rename_i fraction exponent
    exact ⟨fraction, exponent, s, rfl, Option.some.inj value⟩
  · obtain ⟨x, _, real⟩ := Option.map_eq_some_iff.mp value
    cases real

theorem unsigned_integer {m : NumberText} {n : Int} {text : Source} (written : Unsigned m text)
    (value : m.value? = some (.integer n)) :
    text = m.whole.map some ∧ Whole m.whole ∧ digitsValue 0 m.whole < significandBound ∧
      integerValue m.negative (digitsValue 0 m.whole) = .integer n := by
  obtain ⟨fraction, exponent, s, taken, value⟩ := value_integer value
  obtain ⟨whole, fractional, raised⟩ := written
  rw [fraction] at fractional
  rw [exponent] at raised
  cases fractional
  cases raised
  obtain ⟨rfl, bound⟩ := absorb_bounded (by decide) taken
  exact ⟨by simp, whole, bound, value⟩

theorem whole_unsigned {ds : List Char} (whole : Whole ds)
    (bound : digitsValue 0 ds < significandBound) (negative : Bool) :
    Unsigned ⟨negative, ds, none, none⟩ (ds.map some) ∧
      NumberText.value? ⟨negative, ds, none, none⟩ =
        some (integerValue negative (digitsValue 0 ds)) := by
  have unsigned : Unsigned ⟨negative, ds, none, none⟩ (ds.map some ++ ([] ++ [])) :=
    .parts whole .absent .absent
  rw [List.append_nil, List.append_nil] at unsigned
  exact ⟨unsigned, by simp [NumberText.value?, absorb_digits 0 ds bound]⟩

theorem integer_spelled_iff (n : Int) (text : Source) :
    (Token.number (some (.integer n))).Spelled text ↔
      Fits64 n ∧ ∃ ds, text = ds.map some ∧ Denotes ds n := by
  constructor
  · intro written
    generalize same : Token.number (some (.integer n)) = token at written
    cases written with
    | @positive m _ written sign =>
      obtain ⟨rfl, whole, bound, value⟩ := unsigned_integer written (Token.number.inj same).symm
      rw [sign, integerValue_eq_iff] at value
      rcases value with ⟨_, rfl⟩ | ⟨⟨⟩, _⟩
      have bound : digitsValue 0 m.whole < Nat.pow 2 64 := bound
      exact ⟨⟨by omega, by omega⟩, _, rfl, .positive whole⟩
    | @negative m _ written sign =>
      obtain ⟨rfl, whole, _, value⟩ := unsigned_integer written (Token.number.inj same).symm
      rw [sign, integerValue_eq_iff] at value
      rcases value with ⟨⟨⟩, _⟩ | ⟨_, rfl, some', most⟩
      have other : m.whole ≠ ['0'] := by
        intro zero
        rw [zero] at some'
        cases some'
      exact ⟨⟨by omega, by omega⟩, '-' :: m.whole, rfl, .negative whole other⟩
    | _ => cases same
  · rintro ⟨fits, ds, rfl, denotes⟩
    cases denotes with
    | positive whole =>
      have bound : digitsValue 0 ds < significandBound := Int.ofNat_lt.mp fits.2
      obtain ⟨unsigned, value⟩ := whole_unsigned whole bound false
      rw [integerValue_eq_iff.mpr (.inl ⟨rfl, rfl⟩)] at value
      rw [← value]
      exact .positive unsigned rfl
    | @negative ds whole other =>
      have some' := whole_positive whole other
      have most : digitsValue 0 ds ≤ Nat.pow 2 63 := by have := fits.1; omega
      have bound : digitsValue 0 ds < significandBound := most.trans_lt (by decide)
      obtain ⟨unsigned, value⟩ := whole_unsigned whole bound true
      rw [integerValue_eq_iff.mpr (.inr ⟨rfl, rfl, some', most⟩)] at value
      rw [← value]
      exact .negative unsigned rfl

theorem write_spelled {n : Int} (fits : Fits64 n) :
    (Token.number (some (.integer n))).Spelled ((Number.integer n).write.map some) :=
  (integer_spelled_iff n _).mpr ⟨fits, _, rfl, write_denotes n⟩

theorem natural_spelled_iff (n : Nat) (text : Source) :
    (Token.number (some (.integer n))).Spelled text ↔
      n < Nat.pow 2 64 ∧ text = (Nat.toDigits 10 n).map some := by
  rw [integer_spelled_iff]
  constructor
  · rintro ⟨fits, ds, rfl, denotes⟩
    exact ⟨by have := fits.2; omega, by rw [← denotes_write denotes, write_positive]⟩
  · rintro ⟨bound, rfl⟩
    exact ⟨⟨by omega, by omega⟩, _, by rw [← write_positive], write_denotes n⟩

end GuessClient.Json
