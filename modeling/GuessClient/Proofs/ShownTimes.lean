import Mathlib.Data.List.Basic
import GuessClient.Display
import GuessClient.Proofs.Json.Integers

/-!
How the player sees the time. The minutes are written with as many digits as they need, but with two
of them at least, and the seconds beyond them with just two. So a text of this form is the text of one
time only, and of that time there is no other text.
-/

namespace GuessClient

open GuessClient.Decimal
open GuessClient.Json (Digits Whole)

/-- The decimal notation of a number. Zeros fill it up to two digits, and none is added beyond that. -/
def Padded (ds : List Char) (n : Nat) : Prop :=
  ∃ whole, Whole whole ∧ digitsValue 0 whole = n ∧ ds = zeros (2 - whole.length) ++ whole

structure TellsTime (minutes rest : List Char) (seconds : Nat) : Prop where
  padded : Padded minutes (seconds / 60)
  digits : Digits rest
  two : rest.length = 2
  below : digitsValue 0 rest < 60
  total : 60 * digitsValue 0 minutes + digitsValue 0 rest = seconds

/-! ### Two digits -/

theorem digitsValue_zeros (k : Nat) (ds : List Char) :
    digitsValue 0 (zeros k ++ ds) = digitsValue 0 ds := by
  induction k with
  | zero => rfl
  | succ k ih => exact ih

theorem twoDigits_filled (n : Nat) :
    twoDigits n = zeros (2 - (Nat.toDigits 10 n).length) ++ Nat.toDigits 10 n := by
  have some' : 0 < (Nat.toDigits 10 n).length := Nat.length_toDigits_pos
  rw [twoDigits, Decimal.digits]
  by_cases short : (Nat.toDigits 10 n).length < 2
  · have one : 2 - (Nat.toDigits 10 n).length = 1 := by omega
    rw [if_pos short, one]
    rfl
  · have enough : 2 - (Nat.toDigits 10 n).length = 0 := by omega
    rw [if_neg short, enough]
    rfl

theorem padded_iff {ds : List Char} {n : Nat} : Padded ds n ↔ ds = twoDigits n := by
  rw [twoDigits_filled]
  constructor
  · rintro ⟨whole, form, rfl, rfl⟩
    rw [Json.whole_toDigits form]
  · rintro rfl
    exact ⟨_, Json.toDigits_whole n, Json.toDigits_value n, rfl⟩

theorem padded_value {ds : List Char} {n : Nat} (padded : Padded ds n) : digitsValue 0 ds = n := by
  obtain ⟨whole, _, value, rfl⟩ := padded
  rw [digitsValue_zeros, value]

theorem twoDigits_value (n : Nat) : digitsValue 0 (twoDigits n) = n :=
  padded_value (padded_iff.mpr rfl)

theorem twoDigits_digits (n : Nat) : Digits (twoDigits n) := by
  rw [twoDigits_filled]
  refine ⟨List.append_ne_nil_of_right_ne_nil _ Nat.toDigits_ne_nil, fun c there => ?_⟩
  rcases List.mem_append.mp there with filled | own
  · rw [List.eq_of_mem_replicate filled]
    rfl
  · exact Nat.isDigit_of_mem_toDigits (by decide) (by decide) own

theorem twoDigits_length {n : Nat} (small : n < 100) : (twoDigits n).length = 2 := by
  have most : (Nat.toDigits 10 n).length ≤ 2 :=
    (Nat.length_toDigits_le_iff (by decide) (by decide)).mpr small
  rw [twoDigits_filled, List.length_append, zeros, List.length_replicate]
  omega

theorem digit_whole {d : Char} (digit : d.isDigit = true) : Whole [d] := by
  by_cases zero : d = '0'
  · exact .inl (by rw [zero])
  · have other : [d].head? ≠ some '0' := by simpa using zero
    exact .inr ⟨⟨nofun, List.forall_mem_singleton.mpr digit⟩, other⟩

theorem two_padded {ds : List Char} (digits : Digits ds) (two : ds.length = 2) :
    Padded ds (digitsValue 0 ds) := by
  obtain ⟨c, d, rfl⟩ := List.length_eq_two.mp two
  by_cases filled : c = '0'
  · subst filled
    have digit : d.isDigit = true := digits.2 d (.tail _ (.head _))
    exact ⟨[d], digit_whole digit, (digitsValue_zeros 1 [d]).symm, rfl⟩
  · have other : [c, d].head? ≠ some '0' := by simpa using filled
    exact ⟨[c, d], .inr ⟨digits, other⟩, rfl, rfl⟩

/-! ### Minutes and seconds -/

theorem timeText_tells (seconds : UInt64) :
    TellsTime (twoDigits (seconds.toNat / 60)) (twoDigits (seconds.toNat % 60)) seconds.toNat := by
  have below : seconds.toNat % 60 < 60 := Nat.mod_lt _ (by decide)
  constructor
  case padded => exact padded_iff.mpr rfl
  case digits => exact twoDigits_digits _
  case two => exact twoDigits_length (by omega)
  case below => rw [twoDigits_value]; exact below
  case total => rw [twoDigits_value, twoDigits_value, Nat.div_add_mod]

theorem tells_parts {minutes rest : List Char} {n : Nat} (tells : TellsTime minutes rest n) :
    minutes = twoDigits (n / 60) ∧ rest = twoDigits (n % 60) := by
  have whole := padded_value tells.padded
  have beyond : digitsValue 0 rest = n % 60 := by
    have total := tells.total
    omega
  have padded := two_padded tells.digits tells.two
  rw [beyond] at padded
  exact ⟨padded_iff.mp tells.padded, padded_iff.mp padded⟩

theorem timeText_eq_iff (seconds : UInt64) (text : String) :
    timeText seconds = text ↔
      ∃ minutes rest, text = String.ofList (minutes ++ ':' :: rest) ∧
        TellsTime minutes rest seconds.toNat := by
  constructor
  · rintro rfl
    exact ⟨_, _, rfl, timeText_tells seconds⟩
  · rintro ⟨minutes, rest, rfl, tells⟩
    obtain ⟨rfl, rfl⟩ := tells_parts tells
    rfl

/-- Both texts end in two digits, so they have their colons in the same place. -/
theorem tells_same {minutes rest others more : List Char} {n m : Nat}
    (one : TellsTime minutes rest n) (other : TellsTime others more m)
    (same : minutes ++ ':' :: rest = others ++ ':' :: more) : n = m := by
  have long : (':' :: rest).length = (':' :: more).length := by
    rw [List.length_cons, List.length_cons, one.two, other.two]
  obtain ⟨rfl, tails⟩ := List.append_inj' same long
  obtain rfl := List.tail_eq_of_cons_eq tails
  exact one.total.symm.trans other.total

/-- A time is written in one way, and no two times are written alike. -/
theorem times_told :
    (∀ (seconds : UInt64) (text : String), timeText seconds = text ↔
      ∃ minutes rest, text = String.ofList (minutes ++ ':' :: rest) ∧
        TellsTime minutes rest seconds.toNat) ∧
    Function.Injective timeText := by
  refine ⟨timeText_eq_iff, fun seconds other same => ?_⟩
  have lists := String.ofList_injective same
  have counts := tells_same (timeText_tells seconds) (timeText_tells other) lists
  exact UInt64.toNat_inj.mp counts

/-- The most seconds that can be left. -/
example : timeText (UInt64.ofNat (Nat.pow 2 64 - 1)) = "307445734561825860:15" := by decide

end GuessClient
