import GuessClient.Proofs.Json.Integers
import GuessClient.Proofs.Json.Members
import GuessClient.Proofs.Json.Syntax

/-!
Values in one line. The text of a value whose numbers are integers has no blanks between its tokens, and
it is read as the same value again.
-/

namespace GuessClient.Json

mutual
def Value.tree : Value → Tree
  | .null => .null
  | .bool b => .bool b
  | .number n => .number (some n)
  | .string s => .string (some s)
  | .array items => .array (itemTrees items)
  | .object members => .object (memberTrees members)

def itemTrees : List Value → List Tree
  | [] => []
  | v :: rest => v.tree :: itemTrees rest

def memberTrees : List (String × Value) → List (Option String × Tree)
  | [] => []
  | (name, v) :: rest => (some name, v.tree) :: memberTrees rest
end

mutual
def Tree.numbers : Tree → List (Option Number)
  | .number n => [n]
  | .array items => itemNumbers items
  | .object members => memberNumbers members
  | _ => []

def itemNumbers : List Tree → List (Option Number)
  | [] => []
  | t :: rest => t.numbers ++ itemNumbers rest

def memberNumbers : List (Option String × Tree) → List (Option Number)
  | [] => []
  | (_, t) :: rest => t.numbers ++ memberNumbers rest
end

def Integral (n : Option Number) : Prop := ∃ k, n = some (.integer k) ∧ Fits64 k

inductive Tight : List Token → List Char → Prop where
  | nil : Tight [] []
  | cons {token : Token} {tokens : List Token} {part rest : List Char}
      (written : token.Spelled (part.map some)) (later : Tight tokens rest) :
      Tight (token :: tokens) (part ++ rest)

def Ascending (members : List (String × Value)) : Prop := members.Pairwise (·.1 < ·.1)

theorem tight_spells {tokens : List Token} {text : List Char} (tight : Tight tokens text) :
    Spells tokens (text.map some) := by
  induction tight with
  | nil => exact .nil nofun
  | cons written _ ih => exact token_spells written ih

/-! ### Writing -/

theorem tight_symbol {token : Token} {tokens : List Token} {c : Char} {rest : List Char}
    (written : token.Spelled [some c]) (later : Tight tokens rest) :
    Tight (token :: tokens) (c :: rest) :=
  @Tight.cons token tokens [c] rest written later

mutual
theorem compact_tight (v : Value) (integral : ∀ n ∈ v.tree.numbers, Integral n)
    {tokens : List Token} {rest : List Char} (later : Tight tokens rest) :
    Tight (v.tree.tokens ++ tokens) (v.compactChars ++ rest) := by
  match v with
  | .null => exact @Tight.cons .null tokens ['n', 'u', 'l', 'l'] rest .null later
  | .bool true => exact @Tight.cons (.bool true) tokens ['t', 'r', 'u', 'e'] rest .yes later
  | .bool false => exact @Tight.cons (.bool false) tokens ['f', 'a', 'l', 's', 'e'] rest .no later
  | .number n =>
    obtain ⟨k, same, fits⟩ := integral (some n) (List.mem_singleton.mpr rfl)
    obtain rfl := Option.some.inj same
    exact .cons (write_spelled fits) later
  | .string s => exact .cons (quoted_spelled s) later
  | .array [] => exact tight_symbol .leftBracket (tight_symbol .rightBracket later)
  | .array (v :: items) =>
    obtain ⟨first, others⟩ := List.forall_mem_append.mp integral
    have each := compact_tight v first (items_tight items others later)
    rw [← List.append_assoc, ← List.append_assoc] at each
    exact tight_symbol .leftBracket each
  | .object [] => exact tight_symbol .leftBrace (tight_symbol .rightBrace later)
  | .object ((name, v) :: members) =>
    obtain ⟨first, others⟩ := List.forall_mem_append.mp integral
    have each := compact_tight v first (members_tight members others later)
    have named := Tight.cons (quoted_spelled name) (tight_symbol .colon each)
    have all := tight_symbol .leftBrace named
    simpa [Value.compactChars, Value.tree, memberTrees, Tree.tokens] using all

theorem items_tight (items : List Value) (integral : ∀ n ∈ itemNumbers (itemTrees items), Integral n)
    {tokens : List Token} {rest : List Char} (later : Tight tokens rest) :
    Tight (itemTokens (itemTrees items) ++ tokens) (compactItems items ++ rest) := by
  match items with
  | [] => exact tight_symbol .rightBracket later
  | v :: items =>
    obtain ⟨first, others⟩ := List.forall_mem_append.mp integral
    have each := compact_tight v first (items_tight items others later)
    rw [← List.append_assoc, ← List.append_assoc] at each
    exact tight_symbol .comma each

theorem members_tight (members : List (String × Value))
    (integral : ∀ n ∈ memberNumbers (memberTrees members), Integral n)
    {tokens : List Token} {rest : List Char} (later : Tight tokens rest) :
    Tight (memberTokens (memberTrees members) ++ tokens) (compactMembers members ++ rest) := by
  match members with
  | [] => exact tight_symbol .rightBrace later
  | (name, v) :: members =>
    obtain ⟨first, others⟩ := List.forall_mem_append.mp integral
    have each := compact_tight v first (members_tight members others later)
    have named := Tight.cons (quoted_spelled name) (tight_symbol .colon each)
    have all := tight_symbol .comma named
    simpa [compactMembers, memberTrees, memberTokens] using all
end

/-! ### Members in ascending order -/

theorem setMember_mem {name : String} {v : Value} {members : List (String × Value)}
    {m : String × Value} (there : m ∈ setMember name v members) : m = (name, v) ∨ m ∈ members := by
  induction members with
  | nil => exact .inl (List.mem_singleton.mp there)
  | cons first rest ih =>
    unfold setMember at there
    split at there
    · rcases List.mem_cons.mp there with new | old
      · exact .inl new
      · exact .inr (List.mem_cons_of_mem _ old)
    · split at there
      · exact List.mem_cons.mp there
      · rcases List.mem_cons.mp there with rfl | later
        · exact .inr List.mem_cons_self
        · exact (ih later).imp_right (List.mem_cons_of_mem _)

theorem setMember_ascending {members : List (String × Value)} (ascending : Ascending members)
    (name : String) (v : Value) : Ascending (setMember name v members) := by
  induction members with
  | nil => exact List.pairwise_singleton _ _
  | cons first rest ih =>
    obtain ⟨n, w⟩ := first
    obtain ⟨least, later⟩ := List.pairwise_cons.mp ascending
    unfold setMember
    split
    · rename_i same
      subst same
      exact List.pairwise_cons.mpr ⟨least, later⟩
    · rename_i other
      split
      · rename_i before
        refine List.pairwise_cons.mpr ⟨List.forall_mem_cons.mpr ⟨before, ?_⟩, ascending⟩
        exact fun m there => String.lt_trans before (least m there)
      · rename_i behind
        refine List.pairwise_cons.mpr ⟨fun m there => ?_, ih later⟩
        rcases setMember_mem there with rfl | old
        · exact Std.lt_of_le_of_ne (String.not_lt.mp behind) (Ne.symm other)
        · exact least m old

theorem setMember_last {members : List (String × Value)} {name : String}
    (last : ∀ m ∈ members, m.1 < name) (v : Value) :
    setMember name v members = members ++ [(name, v)] := by
  induction members with
  | nil => rfl
  | cons first rest ih =>
    obtain ⟨before, others⟩ := List.forall_mem_cons.mp last
    have other : name ≠ first.1 := by
      rintro rfl
      exact String.lt_irrefl _ before
    rw [setMember, if_neg other, if_neg (Std.not_gt_of_lt before), ih others]
    rfl

theorem ascending_mean {done members : List (String × Value)}
    (ascending : Ascending (done ++ members)) (each : ∀ m ∈ members, m.2.tree.Means m.2) :
    MembersMean done (memberTrees members) (done ++ members) := by
  induction members generalizing done with
  | nil =>
    rw [List.append_nil]
    exact .nil done
  | cons first rest ih =>
    obtain ⟨name, v⟩ := first
    obtain ⟨means, others⟩ := List.forall_mem_cons.mp each
    have last : ∀ m ∈ done, m.1 < name := fun m there =>
      (List.pairwise_append.mp ascending).2.2 m there _ List.mem_cons_self
    rw [← List.singleton_append, ← List.append_assoc] at ascending ⊢
    refine .cons means ?_
    rw [setMember_last last]
    exact ih ascending others

/-! ### Reading back -/

/-- The value is read from what it is written as, which is nested at most so deep and has at most these
numbers in it. -/
structure Value.Restored (depth : Nat) (numbers : List (Option Number)) (v : Value) : Prop where
  means : v.tree.Means v
  nesting : v.tree.nesting ≤ depth
  numbers : ∀ n ∈ v.tree.numbers, n ∈ numbers

section

variable {depth : Nat} {numbers : List (Option Number)}

theorem restored_among {v : Value} (restored : v.Restored depth numbers) {deeper : Nat}
    (fits : depth ≤ deeper) {others : List (Option Number)} (among : ∀ n ∈ numbers, n ∈ others) :
    v.Restored deeper others :=
  ⟨restored.means, restored.nesting.trans fits, fun n there => among n (restored.numbers n there)⟩

theorem array_restored {items : List Value} (each : ∀ v ∈ items, v.Restored depth numbers) :
    (Value.array items).Restored (depth + 1) numbers := by
  have all : ItemsMean (itemTrees items) items ∧ itemsNesting (itemTrees items) ≤ depth ∧
      ∀ n ∈ itemNumbers (itemTrees items), n ∈ numbers := by
    induction items with
    | nil => exact ⟨.nil, Nat.zero_le depth, List.forall_mem_nil _⟩
    | cons v rest ih =>
      obtain ⟨first, others⟩ := List.forall_mem_cons.mp each
      obtain ⟨mean, fits, among⟩ := ih others
      exact ⟨.cons first.means mean, Nat.max_le.mpr ⟨first.nesting, fits⟩,
        List.forall_mem_append.mpr ⟨first.numbers, among⟩⟩
  exact ⟨.array all.1, Nat.succ_le_succ all.2.1, all.2.2⟩

theorem object_restored {members : List (String × Value)} (ascending : Ascending members)
    (each : ∀ m ∈ members, m.2.Restored depth numbers) :
    (Value.object members).Restored (depth + 1) numbers := by
  have mean : MembersMean [] (memberTrees members) members :=
    ascending_mean ascending fun m there => (each m there).means
  have all : membersNesting (memberTrees members) ≤ depth ∧
      ∀ n ∈ memberNumbers (memberTrees members), n ∈ numbers := by
    clear ascending mean
    induction members with
    | nil => exact ⟨Nat.zero_le depth, List.forall_mem_nil _⟩
    | cons first rest ih =>
      obtain ⟨restored, others⟩ := List.forall_mem_cons.mp each
      obtain ⟨fits, among⟩ := ih others
      exact ⟨Nat.max_le.mpr ⟨restored.nesting, fits⟩,
        List.forall_mem_append.mpr ⟨restored.numbers, among⟩⟩
  exact ⟨.object mean, Nat.succ_le_succ all.1, all.2⟩

end

mutual
theorem means_restored (t : Tree) {v : Value} (means : t.Means v) :
    v.Restored t.nesting t.numbers := by
  match t with
  | .null => cases means; exact ⟨.null, Nat.le_refl 0, List.forall_mem_nil _⟩
  | .bool b => cases means; exact ⟨.bool b, Nat.le_refl 0, List.forall_mem_nil _⟩
  | .number n =>
    cases means
    exact ⟨.number _, Nat.le_refl 0, fun _ there => there⟩
  | .string s => cases means; exact ⟨.string _, Nat.le_refl 0, List.forall_mem_nil _⟩
  | .array items =>
    cases means with
    | array each =>
      exact array_restored (items_restored items each (Nat.le_refl _) fun _ there => there)
  | .object members =>
    cases means with
    | object each =>
      obtain ⟨ascending, restored⟩ := members_restored members each (Nat.le_refl _)
        (fun _ there => there) .nil (List.forall_mem_nil _)
      exact object_restored ascending restored

theorem items_restored (items : List Tree) {vs : List Value} (mean : ItemsMean items vs)
    {depth : Nat} (fits : itemsNesting items ≤ depth) {numbers : List (Option Number)}
    (among : ∀ n ∈ itemNumbers items, n ∈ numbers) : ∀ v ∈ vs, v.Restored depth numbers := by
  match items with
  | [] =>
    cases mean
    exact List.forall_mem_nil _
  | t :: rest =>
    cases mean with
    | cons first later =>
      obtain ⟨fit, fits⟩ := Nat.max_le.mp fits
      obtain ⟨within, among⟩ := List.forall_mem_append.mp among
      exact List.forall_mem_cons.mpr
        ⟨restored_among (means_restored t first) fit within, items_restored rest later fits among⟩

theorem members_restored (members : List (Option String × Tree))
    {done kept : List (String × Value)} (mean : MembersMean done members kept) {depth : Nat}
    (fits : membersNesting members ≤ depth) {numbers : List (Option Number)}
    (among : ∀ n ∈ memberNumbers members, n ∈ numbers) (ascending : Ascending done)
    (before : ∀ m ∈ done, m.2.Restored depth numbers) :
    Ascending kept ∧ ∀ m ∈ kept, m.2.Restored depth numbers := by
  match members with
  | [] =>
    cases mean
    exact ⟨ascending, before⟩
  | (_, t) :: rest =>
    cases mean with
    | @cons _ _ name _ v _ first later =>
      obtain ⟨fit, fits⟩ := Nat.max_le.mp fits
      obtain ⟨within, among⟩ := List.forall_mem_append.mp among
      refine members_restored rest later fits among (setMember_ascending ascending name v) ?_
      intro m there
      rcases setMember_mem there with rfl | old
      · exact restored_among (means_restored t first) fit within
      · exact before m old
end

theorem compact_read {t : Tree} {v : Value} (means : t.Means v) (shallow : t.nesting ≤ deepest)
    (integral : ∀ n ∈ t.numbers, Integral n) :
    Tight v.tree.tokens v.compact.toList ∧ value? v.compact = some v := by
  obtain ⟨again, nesting, numbers⟩ := means_restored t means
  have tight := compact_tight v (fun n there => integral n (numbers n there)) .nil
  rw [List.append_nil, List.append_nil] at tight
  have text : v.compact.toList = v.compactChars := String.toList_ofList
  have written : tree? (.ofText v.compact) = some v.tree := by
    rw [tree_eq_some_iff, Source.ofText, text]
    exact tight_spells tight
  have kept := (value_eq_some_iff v.tree deepest v).mpr ⟨again, nesting.trans shallow⟩
  rw [text, value?, written]
  exact ⟨tight, kept⟩

end GuessClient.Json
