import GuessClient.Base64

/-!
Base64 in both directions. What is encoded decodes to what it was, and a text that decodes at all is
the encoding of what it decodes to. In between stand the values of the symbols: bytes are values
whose last group leaves no bits over, and a text spells values and fills up the last group.
-/

namespace GuessClient.Base64

def symbolByte (n : Nat) : UInt8 := UInt8.ofNat (symbol n).toNat

/-- The values have symbols, and those of the last group stand for whole bytes. -/
def Whole : List Nat → Prop
  | a :: b :: c :: d :: rest => (a < 64 ∧ b < 64 ∧ c < 64 ∧ d < 64) ∧ Whole rest
  | [a, b, c] => a < 64 ∧ b < 64 ∧ c < 64 ∧ c % 4 = 0
  | [a, b] => a < 64 ∧ b < 64 ∧ b % 16 = 0
  | [_] => False
  | [] => True

def filling (symbols : Nat) : Nat := (4 - symbols % 4) % 4

def spelled (values : List Nat) : List UInt8 :=
  values.map symbolByte ++ List.replicate (filling values.length) padByte

theorem sextets_whole (bytes : List UInt8) : Whole (sextets bytes) := by
  induction bytes using sextets.induct with
  | case1 a b c rest ih =>
    have := a.toNat_lt; have := b.toNat_lt; have := c.toNat_lt
    exact ⟨by omega, ih⟩
  | case2 a b =>
    have := a.toNat_lt; have := b.toNat_lt
    simp only [sextets, Whole]
    omega
  | case3 a =>
    have := a.toNat_lt
    simp only [sextets, Whole]
    omega
  | case4 => trivial

theorem ofNat_eq {n : Nat} {byte : UInt8} (same : n = byte.toNat) : UInt8.ofNat n = byte := by
  rw [same, UInt8.ofNat_toNat]

theorem valueBytes_sextets (bytes : List UInt8) : valueBytes (sextets bytes) = bytes := by
  induction bytes using sextets.induct with
  | case1 a b c rest ih =>
    have := a.toNat_lt; have := b.toNat_lt; have := c.toNat_lt
    rw [sextets, valueBytes, ih]
    congr
    all_goals exact ofNat_eq (by omega)
  | case2 a b =>
    have := a.toNat_lt; have := b.toNat_lt
    rw [sextets, valueBytes]
    congr
    all_goals exact ofNat_eq (by omega)
  | case3 a =>
    have := a.toNat_lt
    rw [sextets, valueBytes]
    congr
    all_goals exact ofNat_eq (by omega)
  | case4 => rfl

theorem sextets_valueBytes {values : List Nat} (whole : Whole values) :
    sextets (valueBytes values) = values := by
  induction values using Whole.induct with
  | case1 a b c d rest ih =>
    obtain ⟨_, rest⟩ := whole
    rw [valueBytes, sextets, ih rest]
    simp only [UInt8.toNat_ofNat']
    congr
    all_goals omega
  | case2 a b c =>
    obtain ⟨_, _, _, _⟩ := whole
    rw [valueBytes, sextets]
    simp only [UInt8.toNat_ofNat']
    congr
    all_goals omega
  | case3 a b =>
    obtain ⟨_, _, _⟩ := whole
    rw [valueBytes, sextets]
    simp only [UInt8.toNat_ofNat']
    congr
    all_goals omega
  | case4 a => exact whole.elim
  | case5 => rfl

theorem whole_bound {values : List Nat} (whole : Whole values) : ∀ v ∈ values, v < 64 := by
  induction values using Whole.induct with
  | case1 a b c d rest ih =>
    obtain ⟨first, rest⟩ := whole
    simpa [first] using ih rest
  | case2 a b c => simp [whole.1, whole.2.1, whole.2.2.1]
  | case3 a b => simp [whole.1, whole.2.1]
  | case4 a => exact whole.elim
  | case5 => nofun

theorem sextets_filling (bytes : List UInt8) :
    filling (sextets bytes).length = (3 - bytes.length % 3) % 3 := by
  induction bytes using sextets.induct with
  | case1 a b c rest ih =>
    simp only [sextets, filling, List.length_cons] at ih ⊢
    omega
  | _ => rfl

theorem symbolValue?_eq_some_iff (byte : UInt8) (n : Nat) :
    symbolValue? byte = some n ↔ n < 64 ∧ byte = symbolByte n := by
  constructor
  · intro value
    have known : ∀ m < 256, ∀ n ∈ symbolValue? (UInt8.ofNat m),
        n < 64 ∧ UInt8.ofNat m = symbolByte n := by decide +kernel
    simpa using known byte.toNat byte.toNat_lt n (by simpa using value)
  · rintro ⟨bound, rfl⟩
    exact symbolValue?_symbol n bound

theorem symbolByte_not_pad {n : Nat} (bound : n < 64) : symbolByte n ≠ padByte := by
  intro same
  have value := (symbolValue?_eq_some_iff padByte n).mpr ⟨bound, same.symm⟩
  cases value

theorem symbolValues_map {values : List Nat} (bounds : ∀ v ∈ values, v < 64) (offset : Nat) :
    symbolValues offset (values.map symbolByte) = .ok values := by
  induction values generalizing offset with
  | nil => rfl
  | cons v rest ih =>
    obtain ⟨bound, bounds⟩ := List.forall_mem_cons.mp bounds
    have value : symbolValue? (symbolByte v) = some v := symbolValue?_symbol v bound
    simp only [List.map_cons, symbolValues, value, ih bounds, Except.map]

theorem symbolValues_ok {offset : Nat} {bytes : List UInt8} {values : List Nat}
    (read : symbolValues offset bytes = .ok values) :
    (∀ v ∈ values, v < 64) ∧ bytes = values.map symbolByte := by
  induction bytes generalizing offset values with
  | nil =>
    obtain rfl := Except.ok.inj read
    exact ⟨nofun, rfl⟩
  | cons byte rest ih =>
    simp only [symbolValues] at read
    cases value : symbolValue? byte with
    | none => simp [value] at read
    | some v =>
      obtain ⟨bound, rfl⟩ := (symbolValue?_eq_some_iff byte v).mp value
      cases tail : symbolValues (offset + 1) rest with
      | error fault => simp [value, tail, Except.map] at read
      | ok others =>
        obtain rfl : v :: others = values := by simpa [value, tail, Except.map] using read
        obtain ⟨bounds, rfl⟩ := ih tail
        exact ⟨List.forall_mem_cons.mpr ⟨bound, bounds⟩, rfl⟩

theorem unless_eq_ok_iff {p : Prop} [Decidable p] {ε α : Type} {e : ε} {x : Except ε α} {a : α} :
    (if p then .error e else x) = .ok a ↔ ¬ p ∧ x = .ok a := by
  by_cases refused : p <;> simp [refused]

theorem decodeLast_eq_ok {offset : Nat} {group symbols padding bytes : List UInt8}
    (first : group.takeWhile (· != padByte) = symbols)
    (second : group.dropWhile (· != padByte) = padding) :
    decodeLast offset group = .ok bytes ↔
      ∃ values, symbolValues offset symbols = .ok values ∧
        (padding = [] ∨ 2 ≤ symbols.length ∧ ∀ byte ∈ padding, byte = padByte) ∧
        symbols.length ≠ 1 ∧ group.length % 4 = 0 ∧ spareBits values = 0 ∧
        valueBytes values = bytes := by
  have padded : (!padding.isEmpty && (symbols.length < 2 || padding.any (· != padByte))) = true ↔
      ¬ (padding = [] ∨ 2 ≤ symbols.length ∧ ∀ byte ∈ padding, byte = padByte) := by
    simp only [Bool.and_eq_true, Bool.not_eq_true', List.isEmpty_eq_false_iff, Bool.or_eq_true,
      decide_eq_true_eq, List.any_eq_true, bne_iff_ne]
    grind
  simp only [decodeLast, first, second]
  cases read : symbolValues offset symbols with
  | error fault => simp [bind, Except.bind]
  | ok values =>
    simp only [bind, Except.bind, throw, throwThe, MonadExceptOf.throw, pure, Except.pure,
      unless_eq_ok_iff, Except.ok.injEq, ne_eq, Classical.not_not, exists_eq_left', padded]

theorem whole_group_iff {values : List Nat} (short : values.length ≤ 4) :
    Whole values ↔ (∀ v ∈ values, v < 64) ∧ values.length ≠ 1 ∧ spareBits values = 0 := by
  match values with
  | [] => simp [Whole, spareBits]
  | [a] => simp [Whole]
  | [a, b] => simp [Whole, spareBits, and_assoc]
  | [a, b, c] => simp [Whole, spareBits, and_assoc]
  | [a, b, c, d] => simp [Whole, spareBits]
  | a :: b :: c :: d :: e :: rest =>
    simp only [List.length_cons] at short
    omega

theorem symbols_unpadded {values : List Nat} (bounds : ∀ v ∈ values, v < 64) :
    ∀ byte ∈ values.map symbolByte, (byte != padByte) = true := by
  intro byte there
  obtain ⟨v, known, rfl⟩ := List.mem_map.mp there
  simpa using symbolByte_not_pad (bounds v known)

theorem takeWhile_spelled {values : List Nat} (bounds : ∀ v ∈ values, v < 64) (n : Nat) :
    (values.map symbolByte ++ List.replicate n padByte).takeWhile (· != padByte) =
      values.map symbolByte := by
  rw [List.takeWhile_append_of_pos (symbols_unpadded bounds)]
  cases n <;> simp [List.replicate_succ]

theorem dropWhile_spelled {values : List Nat} (bounds : ∀ v ∈ values, v < 64) (n : Nat) :
    (values.map symbolByte ++ List.replicate n padByte).dropWhile (· != padByte) =
      List.replicate n padByte := by
  rw [List.dropWhile_append_of_pos (symbols_unpadded bounds)]
  cases n <;> simp [List.replicate_succ]

theorem decodeLast_eq_ok_iff {offset : Nat} {group bytes : List UInt8} (short : group.length ≤ 4) :
    decodeLast offset group = .ok bytes ↔
      ∃ values, Whole values ∧ group = spelled values ∧ valueBytes values = bytes := by
  constructor
  · intro decoded
    generalize first : group.takeWhile (· != padByte) = symbols
    generalize second : group.dropWhile (· != padByte) = padding
    obtain ⟨values, read, padded, single, multiple, spare, rfl⟩ :=
      (decodeLast_eq_ok first second).mp decoded
    obtain ⟨bounds, rfl⟩ := symbolValues_ok read
    have split : values.map symbolByte ++ padding = group := by
      rw [← first, ← second, List.takeWhile_append_dropWhile]
    have lengths := congrArg List.length split
    rw [List.length_append, List.length_map] at lengths
    rw [List.length_map] at padded single
    -- a group is never all padding, so its length leaves one number of padding characters
    have filled : padding.length = filling values.length := by
      unfold filling
      rcases padded with rfl | ⟨two, _⟩
      · simp only [List.length_nil] at lengths ⊢
        omega
      · omega
    have pads : ∀ byte ∈ padding, byte = padByte := by
      rcases padded with rfl | ⟨_, pads⟩
      · nofun
      · exact pads
    refine ⟨values, ?_, ?_, rfl⟩
    · exact (whole_group_iff (by omega)).mpr ⟨bounds, single, spare⟩
    · rw [spelled, ← filled, ← List.eq_replicate_of_mem pads, split]
  · rintro ⟨values, whole, rfl, rfl⟩
    have count : values.length ≤ 4 := by
      simp only [spelled, List.length_append, List.length_map] at short
      omega
    obtain ⟨bounds, single, spare⟩ := (whole_group_iff count).mp whole
    refine (decodeLast_eq_ok (takeWhile_spelled bounds _) (dropWhile_spelled bounds _)).mpr
      ⟨values, symbolValues_map bounds _, ?_, ?_, ?_, spare, rfl⟩
    · simp only [List.replicate_eq_nil_iff, filling, List.length_map, List.mem_replicate]
      grind
    · simpa using single
    · simp [filling]
      omega

theorem whole_append {values rest : List Nat} (groups : values.length % 4 = 0) :
    Whole (values ++ rest) ↔ (∀ v ∈ values, v < 64) ∧ Whole rest := by
  match values with
  | [] => simp
  | a :: b :: c :: d :: more =>
    have fewer : more.length % 4 = 0 := by simp only [List.length_cons] at groups; omega
    simp only [List.cons_append, Whole, whole_append fewer, List.forall_mem_cons, and_assoc]

theorem valueBytes_append {values rest : List Nat} (groups : values.length % 4 = 0) :
    valueBytes (values ++ rest) = valueBytes values ++ valueBytes rest := by
  match values with
  | [] => rfl
  | a :: b :: c :: d :: more =>
    have fewer : more.length % 4 = 0 := by simp only [List.length_cons] at groups; omega
    simp only [List.cons_append, valueBytes, valueBytes_append fewer]

theorem spelled_append {values rest : List Nat} (groups : values.length % 4 = 0) :
    spelled (values ++ rest) = values.map symbolByte ++ spelled rest := by
  have same : filling (values ++ rest).length = filling rest.length := by
    simp only [filling, List.length_append]
    omega
  rw [spelled, same, List.map_append, List.append_assoc]
  rfl

theorem spelled_length (values : List Nat) :
    (spelled values).length = values.length + filling values.length := by
  simp [spelled]

theorem decodeBytes_eq_ok {text bytes : List UInt8} {start : Nat}
    (groups : (text.length - 1) / 4 * 4 = start) :
    decodeBytes text = .ok bytes ↔ strayByte? text = none ∧
      ∃ values last, symbolValues 0 (text.take start) = .ok values ∧
        decodeLast start (text.drop start) = .ok last ∧ valueBytes values ++ last = bytes := by
  simp only [decodeBytes, groups, bind, Except.bind, pure, Except.pure, throw, throwThe,
    MonadExceptOf.throw]
  cases strayByte? text with
  | some fault => simp
  | none =>
    cases symbolValues 0 (text.take start) with
    | error fault => simp
    | ok values => cases decodeLast start (text.drop start) <;> simp

theorem decodeBytes_eq_ok_iff (text bytes : List UInt8) :
    decodeBytes text = .ok bytes ↔
      ∃ values, Whole values ∧ text = spelled values ∧ valueBytes values = bytes := by
  generalize groups : (text.length - 1) / 4 * 4 = start
  have short : (text.drop start).length ≤ 4 := by
    rw [List.length_drop]
    omega
  rw [decodeBytes_eq_ok groups]
  constructor
  · rintro ⟨_, values, last, read, decoded, rfl⟩
    obtain ⟨bounds, symbols⟩ := symbolValues_ok read
    obtain ⟨rest, whole, final, rfl⟩ := (decodeLast_eq_ok_iff short).mp decoded
    have full : values.length % 4 = 0 := by
      have count := congrArg List.length symbols
      rw [List.length_take, List.length_map] at count
      omega
    refine ⟨values ++ rest, (whole_append full).mpr ⟨bounds, whole⟩, ?_,
      valueBytes_append full⟩
    rw [spelled_append full, ← symbols, ← final, List.take_append_drop]
  · rintro ⟨values, whole, rfl, rfl⟩
    have length := spelled_length values
    unfold filling at length
    -- the last group starts before the padding
    have early : (values.take start).length = start := by
      rw [List.length_take]
      omega
    have full : (values.take start).length % 4 = 0 := by omega
    have split : values.take start ++ values.drop start = values := List.take_append_drop ..
    rw [← split] at whole
    obtain ⟨bounds, rest⟩ := (whole_append full).mp whole
    have text : spelled values =
        (values.take start).map symbolByte ++ spelled (values.drop start) := by
      rw [← spelled_append full, split]
    have before : (spelled values).take start = (values.take start).map symbolByte := by
      rw [text, List.take_left' (by rw [List.length_map, early])]
    have after : (spelled values).drop start = spelled (values.drop start) := by
      rw [text, List.drop_left' (by rw [List.length_map, early])]
    refine ⟨?_, values.take start, valueBytes (values.drop start), ?_, ?_, ?_⟩
    · have multiple : (spelled values).length % 4 = 0 := by omega
      unfold strayByte?
      cases (spelled values).getLast? <;> simp [multiple]
    · rw [before]
      exact symbolValues_map bounds _
    · exact (decodeLast_eq_ok_iff short).mpr ⟨_, rest, after, rfl⟩
    · rw [← valueBytes_append full, split]

def textBytes (text : String) : List UInt8 := text.toList.flatMap String.utf8EncodeChar

theorem textBytes_toByteArray (text : String) :
    (textBytes text).toByteArray = text.toByteArray := by
  have bytes := String.toByteArray_ofList (l := text.toList)
  rw [String.ofList_toList] at bytes
  exact bytes.symm

theorem textBytes_injective {s t : String} (same : textBytes s = textBytes t) : s = t := by
  rw [← String.toByteArray_inj, ← textBytes_toByteArray, ← textBytes_toByteArray, same]

theorem symbol_bytes : ∀ n < 64, String.utf8EncodeChar (symbol n) = [symbolByte n] := by decide

theorem symbols_bytes {values : List Nat} (bounds : ∀ v ∈ values, v < 64) :
    (values.map symbol).flatMap String.utf8EncodeChar = values.map symbolByte := by
  induction values with
  | nil => rfl
  | cons v rest ih =>
    obtain ⟨bound, bounds⟩ := List.forall_mem_cons.mp bounds
    rw [List.map_cons, List.flatMap_cons, symbol_bytes v bound, ih bounds]
    rfl

theorem pads_bytes (n : Nat) :
    (List.replicate n pad).flatMap String.utf8EncodeChar = List.replicate n padByte := by
  rw [List.flatMap_replicate]
  exact List.flatten_replicate_singleton

theorem textBytes_encode (bytes : List UInt8) :
    textBytes (encode bytes) = spelled (sextets bytes) := by
  rw [textBytes, encode, String.toList_ofList, List.flatMap_append,
    symbols_bytes (whole_bound (sextets_whole bytes)), pads_bytes, ← sextets_filling]
  rfl

theorem decode_eq_ok_iff (text : String) (bytes : List UInt8) :
    decode text = .ok bytes ↔ text = encode bytes := by
  refine (decodeBytes_eq_ok_iff (textBytes text) bytes).trans ?_
  constructor
  · rintro ⟨values, whole, spelt, rfl⟩
    apply textBytes_injective
    rw [textBytes_encode, sextets_valueBytes whole, spelt]
  · rintro rfl
    exact ⟨sextets bytes, sextets_whole bytes, textBytes_encode bytes, valueBytes_sextets bytes⟩

end GuessClient.Base64
