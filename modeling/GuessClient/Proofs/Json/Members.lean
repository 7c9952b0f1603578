import Mathlib.Data.List.Forall2
import GuessClient.Json.Record

/-!
What a record is read from. Each declared field of an object is decided by what stands under its
name, so that neither the other members nor the order of all of them make a difference. Beside it
stands which trees have a value: those whose texts and numbers can all be kept, as long as they are
not nested too deep.
-/

namespace GuessClient.Json

variable {members others : List (Option String × Tree)} {name : String} {names : List String}

def Absent (name : String) (members : List (Option String × Tree)) : Prop :=
  ∀ m ∈ members, m.1 ≠ some name

def Sole (name : String) (t : Tree) (members : List (Option String × Tree)) : Prop :=
  ∃ before after, members = before ++ (some name, t) :: after ∧
    Absent name before ∧ Absent name after

/-- What an object gives for a declared field: its tree, or none if it is left out. -/
def Given (members : List (Option String × Tree)) (name : String) : Option Tree → Prop
  | none => Absent name members
  | some t => Sole name t members

def declared (names : List String) (members : List (Option String × Tree)) :
    List (Option String × Tree) :=
  members.filter fun m => names.any (m.1 == some ·)

mutual
inductive Tree.Means : Tree → Value → Prop where
  | null : Tree.Means .null .null
  | bool (b : Bool) : Tree.Means (.bool b) (.bool b)
  | number (n : Number) : Tree.Means (.number (some n)) (.number n)
  | string (s : String) : Tree.Means (.string (some s)) (.string s)
  | array {items : List Tree} {vs : List Value} (each : ItemsMean items vs) :
      Tree.Means (.array items) (.array vs)
  | object {members : List (Option String × Tree)} {kept : List (String × Value)}
      (each : MembersMean [] members kept) : Tree.Means (.object members) (.object kept)

inductive ItemsMean : List Tree → List Value → Prop where
  | nil : ItemsMean [] []
  | cons {t : Tree} {v : Value} {rest : List Tree} {vs : List Value} (first : t.Means v)
      (later : ItemsMean rest vs) : ItemsMean (t :: rest) (v :: vs)

/-- The members that are kept once some more are set, one after the other. -/
inductive MembersMean :
    List (String × Value) → List (Option String × Tree) → List (String × Value) → Prop where
  | nil (done : List (String × Value)) : MembersMean done [] done
  | cons {done kept : List (String × Value)} {name : String} {t : Tree} {v : Value}
      {rest : List (Option String × Tree)} (first : t.Means v)
      (later : MembersMean (setMember name v done) rest kept) :
      MembersMean done ((some name, t) :: rest) kept
end

mutual
def Tree.Kept : Tree → Prop
  | .null => True
  | .bool _ => True
  | .number n => n.isSome
  | .string s => s.isSome
  | .array items => ItemsKept items
  | .object members => MembersKept members

def ItemsKept : List Tree → Prop
  | [] => True
  | t :: rest => t.Kept ∧ ItemsKept rest

def MembersKept : List (Option String × Tree) → Prop
  | [] => True
  | (name, t) :: rest => name.isSome ∧ t.Kept ∧ MembersKept rest
end

mutual
def Tree.nesting : Tree → Nat
  | .array items => itemsNesting items + 1
  | .object members => membersNesting members + 1
  | _ => 0

def itemsNesting : List Tree → Nat
  | [] => 0
  | t :: rest => max t.nesting (itemsNesting rest)

def membersNesting : List (Option String × Tree) → Nat
  | [] => 0
  | (_, t) :: rest => max t.nesting (membersNesting rest)
end

/-! ### Fields -/

theorem absent_iff : Absent name members ↔ members.filter (·.1 == some name) = [] := by
  simp [Absent, List.filter_eq_nil_iff]

theorem sole_iff {t : Tree} :
    Sole name t members ↔ members.filter (·.1 == some name) = [(some name, t)] := by
  simp only [Sole, absent_iff, List.filter_eq_cons_iff, beq_self_eq_true, true_and,
    List.filter_eq_nil_iff]

theorem namedField_eq_some_iff {field : Option Tree} :
    namedField? members name = some field ↔ Given members name field := by
  have named : ∀ m ∈ members.filter (·.1 == some name), m.1 = some name :=
    fun m there => by simpa using (List.mem_filter.mp there).2
  cases field with
  | none =>
    rw [Given, absent_iff, namedField?]
    generalize members.filter (·.1 == some name) = found
    match found with
    | [] | [_] | _ :: _ :: _ => simp
  | some t =>
    rw [Given, sole_iff, namedField?]
    generalize members.filter (·.1 == some name) = found at named ⊢
    match found with
    | [] | _ :: _ :: _ => simp
    | [(n, u)] =>
      obtain rfl : n = some name := named (n, u) List.mem_cons_self
      simp

theorem mapM_eq_some_iff {α β : Type} {f : α → Option β} {xs : List α} {ys : List β} :
    xs.mapM f = some ys ↔ List.Forall₂ (fun x y => f x = some y) xs ys := by
  induction xs generalizing ys with
  | nil => simp [eq_comm]
  | cons x xs ih =>
    simp only [List.mapM_cons, Option.bind_eq_bind, Option.bind_eq_some_iff, Option.pure_def,
      Option.some.injEq, List.forall₂_cons_left_iff, ih]
    simp [eq_comm]

theorem fields_eq_some_iff {found : List (Option Tree)} :
    fields? names (.object members) = some found ↔
      (∀ m ∈ members, m.1.isSome = true) ∧ List.Forall₂ (Given members) names found := by
  simp only [fields?, Option.ite_none_right_eq_some, List.all_eq_true, mapM_eq_some_iff,
    namedField_eq_some_iff]

theorem namedField_declared (declares : name ∈ names) :
    namedField? (declared names members) name = namedField? members name := by
  have same : (declared names members).filter (·.1 == some name) =
      members.filter (·.1 == some name) := by
    rw [declared, List.filter_filter]
    refine List.filter_congr fun m _ => ?_
    cases named : m.1 == some name with
    | false => rfl
    | true => exact List.any_eq_true.mpr ⟨name, declares, named⟩
  rw [namedField?, namedField?, same]

theorem namedField_perm (perm : members.Perm others) :
    namedField? members name = namedField? others name := by
  have filtered := perm.filter (·.1 == some name)
  rw [namedField?, namedField?]
  generalize members.filter (·.1 == some name) = found at filtered ⊢
  generalize others.filter (·.1 == some name) = found' at filtered ⊢
  match found with
  | [] => rw [filtered.nil_eq]
  | [m] => rw [filtered.singleton_eq]
  | _ :: _ :: _ =>
    match found' with
    | [] | [_] => simpa using filtered.length_eq
    | _ :: _ :: _ => rfl

theorem fields_unordered (named : ∀ m ∈ members, m.1.isSome = true)
    (named' : ∀ m ∈ others, m.1.isSome = true)
    (perm : (declared names members).Perm (declared names others)) :
    fields? names (.object members) = fields? names (.object others) := by
  refine Option.ext fun found => ?_
  have alike : ∀ name ∈ names, ∀ field, Given members name field ↔ Given others name field := by
    intro name declares field
    rw [← namedField_eq_some_iff, ← namedField_eq_some_iff, ← namedField_declared declares,
      namedField_perm perm, namedField_declared declares]
  rw [fields_eq_some_iff, fields_eq_some_iff, and_iff_right named, and_iff_right named',
    List.forall₂_iff_zip, List.forall₂_iff_zip]
  refine and_congr_right fun _ => forall₂_congr fun name field => ?_
  exact ⟨fun given there => (alike name (List.of_mem_zip there).1 field).mp (given there),
    fun given there => (alike name (List.of_mem_zip there).1 field).mpr (given there)⟩

/-! ### Types of fields -/

theorem string_eq_some_iff {t : Tree} {s : String} :
    t.string? = some s ↔ t = .string (some s) := by
  cases t <;> simp [Tree.string?]

theorem bool_eq_some_iff {t : Tree} {b : Bool} : t.bool? = some b ↔ t = .bool b := by
  cases t <;> simp [Tree.bool?]

theorem float_eq_some_iff {t : Tree} {x : Float} :
    t.float? = some x ↔ ∃ n : Number, t = .number (some n) ∧ n.toFloat = x := by
  cases t <;> simp [Tree.float?]

/-! ### Values -/

mutual
theorem value_eq_some_iff (t : Tree) (depth : Nat) (v : Value) :
    t.value? depth = some v ↔ t.Means v ∧ t.nesting ≤ depth := by
  match t with
  | .null =>
    constructor
    · rintro ⟨⟩
      exact ⟨.null, Nat.zero_le depth⟩
    · rintro ⟨⟨⟩, _⟩
      rfl
  | .bool b =>
    constructor
    · rintro ⟨⟩
      exact ⟨.bool b, Nat.zero_le depth⟩
    · rintro ⟨⟨⟩, _⟩
      rfl
  | .number n =>
    constructor
    · intro read
      obtain ⟨n, rfl, rfl⟩ := Option.map_eq_some_iff.mp read
      exact ⟨.number n, Nat.zero_le depth⟩
    · rintro ⟨⟨⟩, _⟩
      rfl
  | .string s =>
    constructor
    · intro read
      obtain ⟨s, rfl, rfl⟩ := Option.map_eq_some_iff.mp read
      exact ⟨.string s, Nat.zero_le depth⟩
    · rintro ⟨⟨⟩, _⟩
      rfl
  | .array items =>
    have each := fun vs => items_eq_some_iff items (depth - 1) vs
    constructor
    · intro read
      obtain ⟨room, vs, there, rfl⟩ : depth ≠ 0 ∧ ∃ vs, itemValues? (depth - 1) items = some vs ∧
          Value.array vs = v := by simpa [Tree.value?] using read
      obtain ⟨mean, fits⟩ := (each vs).mp there
      exact ⟨.array mean, by rw [Tree.nesting]; omega⟩
    · rintro ⟨means, fits⟩
      cases means with
      | array mean =>
        rw [Tree.nesting] at fits
        have there := (each _).mpr ⟨mean, by omega⟩
        rw [Tree.value?, if_neg (by omega), there]
        rfl
  | .object members =>
    have each := fun kept => members_eq_some_iff members (depth - 1) [] kept
    constructor
    · intro read
      obtain ⟨room, kept, there, rfl⟩ : depth ≠ 0 ∧ ∃ kept,
          memberValues? (depth - 1) [] members = some kept ∧ Value.object kept = v := by
        simpa [Tree.value?] using read
      obtain ⟨mean, fits⟩ := (each kept).mp there
      exact ⟨.object mean, by rw [Tree.nesting]; omega⟩
    · rintro ⟨means, fits⟩
      cases means with
      | object mean =>
        rw [Tree.nesting] at fits
        have there := (each _).mpr ⟨mean, by omega⟩
        rw [Tree.value?, if_neg (by omega), there]
        rfl

theorem items_eq_some_iff (items : List Tree) (depth : Nat) (vs : List Value) :
    itemValues? depth items = some vs ↔ ItemsMean items vs ∧ itemsNesting items ≤ depth := by
  match items with
  | [] =>
    constructor
    · rintro ⟨⟩
      exact ⟨.nil, Nat.zero_le depth⟩
    · rintro ⟨⟨⟩, _⟩
      rfl
  | t :: rest =>
    have one := fun v => value_eq_some_iff t depth v
    have more := fun vs => items_eq_some_iff rest depth vs
    simp only [itemValues?, Option.bind_eq_bind, Option.bind_eq_some_iff, Option.pure_def,
      Option.some.injEq, one, more, itemsNesting, Nat.max_le]
    constructor
    · rintro ⟨v, ⟨first, fits⟩, vs, ⟨later, fit⟩, rfl⟩
      exact ⟨.cons first later, fits, fit⟩
    · rintro ⟨mean, fits, fit⟩
      cases mean with
      | cons first later => exact ⟨_, ⟨first, fits⟩, _, ⟨later, fit⟩, rfl⟩

theorem members_eq_some_iff (members : List (Option String × Tree)) (depth : Nat)
    (done kept : List (String × Value)) :
    memberValues? depth done members = some kept ↔
      MembersMean done members kept ∧ membersNesting members ≤ depth := by
  match members with
  | [] =>
    constructor
    · rintro ⟨⟩
      exact ⟨.nil _, Nat.zero_le depth⟩
    · rintro ⟨⟨⟩, _⟩
      rfl
  | (name, t) :: rest =>
    have one := fun v => value_eq_some_iff t depth v
    have more := fun done => members_eq_some_iff rest depth done kept
    simp only [memberValues?, Option.bind_eq_bind, Option.bind_eq_some_iff, one, more,
      membersNesting, Nat.max_le]
    constructor
    · rintro ⟨name, rfl, v, ⟨first, fits⟩, later, fit⟩
      exact ⟨.cons first later, fits, fit⟩
    · rintro ⟨mean, fits, fit⟩
      cases mean with
      | cons first later => exact ⟨_, rfl, _, ⟨first, fits⟩, later, fit⟩
end

mutual
theorem kept_iff (t : Tree) : t.Kept ↔ ∃ v, t.Means v := by
  match t with
  | .null => exact ⟨fun _ => ⟨.null, .null⟩, fun _ => trivial⟩
  | .bool b => exact ⟨fun _ => ⟨.bool b, .bool b⟩, fun _ => trivial⟩
  | .number n =>
    constructor
    · intro kept
      obtain ⟨n, rfl⟩ := Option.isSome_iff_exists.mp kept
      exact ⟨.number n, .number n⟩
    · rintro ⟨_, ⟨⟩⟩
      rfl
  | .string s =>
    constructor
    · intro kept
      obtain ⟨s, rfl⟩ := Option.isSome_iff_exists.mp kept
      exact ⟨.string s, .string s⟩
    · rintro ⟨_, ⟨⟩⟩
      rfl
  | .array items =>
    have each := items_kept_iff items
    constructor
    · intro kept
      obtain ⟨vs, mean⟩ := each.mp kept
      exact ⟨.array vs, .array mean⟩
    · rintro ⟨v, means⟩
      cases means with
      | array mean => exact each.mpr ⟨_, mean⟩
  | .object members =>
    have each := members_kept_iff members []
    constructor
    · intro kept
      obtain ⟨kept, mean⟩ := each.mp kept
      exact ⟨.object kept, .object mean⟩
    · rintro ⟨v, means⟩
      cases means with
      | object mean => exact each.mpr ⟨_, mean⟩

theorem items_kept_iff (items : List Tree) : ItemsKept items ↔ ∃ vs, ItemsMean items vs := by
  match items with
  | [] => exact ⟨fun _ => ⟨[], .nil⟩, fun _ => trivial⟩
  | t :: rest =>
    rw [ItemsKept, kept_iff t, items_kept_iff rest]
    constructor
    · rintro ⟨⟨v, first⟩, vs, later⟩
      exact ⟨v :: vs, .cons first later⟩
    · rintro ⟨vs, mean⟩
      cases mean with
      | cons first later => exact ⟨⟨_, first⟩, _, later⟩

theorem members_kept_iff (members : List (Option String × Tree)) (done : List (String × Value)) :
    MembersKept members ↔ ∃ kept, MembersMean done members kept := by
  match members with
  | [] => exact ⟨fun _ => ⟨done, .nil done⟩, fun _ => trivial⟩
  | (name, t) :: rest =>
    rw [MembersKept, kept_iff t]
    constructor
    · rintro ⟨text, ⟨v, first⟩, later⟩
      obtain ⟨name, rfl⟩ := Option.isSome_iff_exists.mp text
      obtain ⟨kept, later⟩ := (members_kept_iff rest (setMember name v done)).mp later
      exact ⟨kept, .cons first later⟩
    · rintro ⟨kept, mean⟩
      cases mean with
      | cons first later => exact ⟨rfl, ⟨_, first⟩, (members_kept_iff rest _).mpr ⟨kept, later⟩⟩
end

end GuessClient.Json
