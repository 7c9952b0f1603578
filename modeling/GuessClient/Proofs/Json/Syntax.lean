import GuessClient.Json.Reader
import GuessClient.Proofs.Json.Spelling

/-!
The syntax of whole texts. The machine that reads trees accepts the tokens of a tree and nothing
else, so that a text has a tree exactly when it is written with the tokens of that tree.
-/

namespace GuessClient.Json

def Tree.Written (t : Tree) (text : Source) : Prop := Spells t.tokens text

def itemRow (items : List Tree) : List Token := items.flatMap fun t => t.tokens ++ [.comma]

def memberRow (members : List (Option String × Tree)) : List Token :=
  members.flatMap fun m => .string m.1 :: .colon :: (m.2.tokens ++ [.comma])

/-- The tokens of an open container, up to the place where its next part begins. -/
def Container.tokens : Container → List Token
  | .array items => .leftBracket :: itemRow items.reverse
  | .object members => .leftBrace :: memberRow members.reverse
  | .member members name => .leftBrace :: (memberRow members.reverse ++ [.string name, .colon])

def openTokens (stack : List Container) : List Token := stack.reverse.flatMap Container.tokens

def Machine.HasRead (m : Machine) (tokens : List Token) : Prop :=
  match m.due with
  | .value | .name => tokens = openTokens m.stack
  | .firstItem => tokens = openTokens m.stack ∧ ∃ rest, m.stack = .array [] :: rest
  | .firstName => tokens = openTokens m.stack ∧ ∃ rest, m.stack = .object [] :: rest
  | .colon => tokens ++ [.colon] = openTokens m.stack
  | .separator => tokens ++ [.comma] = openTokens m.stack
  | .nothing t => tokens = t.tokens

/-! ### What is read is written -/

theorem openTokens_cons (c : Container) (stack : List Container) :
    openTokens (c :: stack) = openTokens stack ++ c.tokens := by
  simp [openTokens]

theorem last_of_append {before first later : List Token} {token : Token} (some' : later ≠ [])
    (same : before ++ [token] = first ++ later) :
    ∃ most, later = most ++ [token] ∧ before = first ++ most := by
  obtain rfl | ⟨most, last, rfl⟩ := List.eq_nil_or_concat later
  · contradiction
  · rw [List.concat_eq_append, ← List.append_assoc] at same
    obtain ⟨rfl, one⟩ := List.append_inj' same rfl
    obtain rfl := List.singleton_inj.mp one
    exact ⟨most, List.concat_eq_append, rfl⟩

section

variable {α : Type} (piece : α → List Token)

theorem commas_around (xs : List α) :
    .comma :: xs.flatMap (fun x => piece x ++ [.comma]) =
      xs.flatMap (fun x => .comma :: piece x) ++ [.comma] := by
  induction xs with
  | nil => rfl
  | cons x xs ih => simp [← ih]

theorem row_filled {opening : Token} (other : opening ≠ .comma) {xs : List α} {tokens : List Token}
    (same : tokens ++ [.comma] = opening :: xs.flatMap (fun x => piece x ++ [.comma])) :
    ∃ x rest, xs = x :: rest ∧
      tokens = opening :: (piece x ++ rest.flatMap fun x => .comma :: piece x) := by
  cases xs with
  | nil => cases tokens <;> simp_all
  | cons x rest =>
    have row : opening :: (x :: rest).flatMap (fun x => piece x ++ [.comma]) =
        (opening :: (piece x ++ rest.flatMap fun x => .comma :: piece x)) ++ [.comma] := by
      simp [← commas_around]
    exact ⟨x, rest, rfl, List.append_cancel_right (same.trans row)⟩

end

theorem itemTokens_eq (items : List Tree) :
    itemTokens items = items.flatMap (fun t => .comma :: t.tokens) ++ [.rightBracket] := by
  induction items with
  | nil => rfl
  | cons t rest ih => simp [itemTokens, ih]

theorem memberTokens_eq (members : List (Option String × Tree)) :
    memberTokens members =
      members.flatMap (fun m => .comma :: .string m.1 :: .colon :: m.2.tokens) ++
        [.rightBrace] := by
  induction members with
  | nil => rfl
  | cons m rest ih => simp [memberTokens, ih]

theorem array_closed {items : List Tree} {tokens : List Token}
    (same : tokens ++ [.comma] = (Container.array items).tokens) :
    (Tree.array items.reverse).tokens = tokens ++ [.rightBracket] := by
  have other : Token.leftBracket ≠ .comma := nofun
  obtain ⟨t, rest, row, rfl⟩ := row_filled Tree.tokens other same
  simp [row, Tree.tokens, itemTokens_eq]

theorem object_closed {members : List (Option String × Tree)} {tokens : List Token}
    (same : tokens ++ [.comma] = (Container.object members).tokens) :
    (Tree.object members.reverse).tokens = tokens ++ [.rightBrace] := by
  have other : Token.leftBrace ≠ .comma := nofun
  obtain ⟨m, rest, row, rfl⟩ :=
    row_filled (fun m : Option String × Tree => .string m.1 :: .colon :: m.2.tokens) other same
  simp [row, Tree.tokens, memberTokens_eq]

theorem complete_read {t : Tree} {stack : List Container} {m : Machine}
    (next : Machine.complete t stack = some m) : m.HasRead (openTokens stack ++ t.tokens) := by
  unfold Machine.complete at next
  split at next
  · obtain rfl := Option.some.inj next
    rfl
  · obtain rfl := Option.some.inj next
    simp [Machine.HasRead, openTokens_cons, Container.tokens, itemRow]
  · obtain rfl := Option.some.inj next
    simp [Machine.HasRead, openTokens_cons, Container.tokens, memberRow]
  · cases next

theorem openValue_read {stack : List Container} {token : Token} {m : Machine}
    (next : Machine.openValue stack token = some m) : m.HasRead (openTokens stack ++ [token]) := by
  unfold Machine.openValue at next
  split at next
  · exact complete_read next
  · exact complete_read next
  · exact complete_read next
  · exact complete_read next
  · obtain rfl := Option.some.inj next
    exact ⟨by simp [openTokens_cons, Container.tokens, itemRow], stack, rfl⟩
  · obtain rfl := Option.some.inj next
    exact ⟨by simp [openTokens_cons, Container.tokens, memberRow], stack, rfl⟩
  · cases next

theorem openMember_read {stack : List Container} {token : Token} {m : Machine}
    (next : Machine.openMember token stack = some m) :
    m.HasRead (openTokens stack ++ [token]) := by
  unfold Machine.openMember at next
  split at next
  · obtain rfl := Option.some.inj next
    simp [Machine.HasRead, openTokens_cons, Container.tokens]
  · cases next

theorem close_read {stack : List Container} {token : Token} {tokens : List Token} {m : Machine}
    (before : tokens ++ [.comma] = openTokens stack) (next : Machine.close token stack = some m) :
    m.HasRead (tokens ++ [token]) := by
  unfold Machine.close at next
  split at next
  · rename_i items rest
    rw [openTokens_cons] at before
    obtain ⟨most, last, rfl⟩ := last_of_append (by simp [Container.tokens]) before
    rw [List.append_assoc, ← array_closed last.symm]
    exact complete_read next
  · rename_i members rest
    rw [openTokens_cons] at before
    obtain ⟨most, last, rfl⟩ := last_of_append (by simp [Container.tokens]) before
    rw [List.append_assoc, ← object_closed last.symm]
    exact complete_read next
  · cases next

theorem step_read {m next : Machine} {token : Token} {tokens : List Token}
    (before : m.HasRead tokens) (step : m.step token = some next) :
    next.HasRead (tokens ++ [token]) := by
  obtain ⟨due, stack⟩ := m
  unfold Machine.step at step
  cases due with
  | value =>
    obtain rfl : tokens = openTokens stack := before
    exact openValue_read step
  | firstItem =>
    obtain ⟨rfl, rest, rfl⟩ : tokens = openTokens stack ∧ ∃ rest, stack = .array [] :: rest :=
      before
    cases token with
    | rightBracket =>
      rw [openTokens_cons, List.append_assoc]
      exact @complete_read (.array []) rest next step
    | _ => exact openValue_read step
  | name =>
    obtain rfl : tokens = openTokens stack := before
    exact openMember_read step
  | firstName =>
    obtain ⟨rfl, rest, rfl⟩ : tokens = openTokens stack ∧ ∃ rest, stack = .object [] :: rest :=
      before
    cases token with
    | rightBrace =>
      rw [openTokens_cons, List.append_assoc]
      exact @complete_read (.object []) rest next step
    | _ => exact openMember_read step
  | colon =>
    cases token with
    | colon =>
      obtain rfl := Option.some.inj step
      exact before
    | _ => cases step
  | separator =>
    cases token with
    | comma =>
      match stack with
      | .array _ :: _ | .object _ :: _ =>
        obtain rfl := Option.some.inj step
        exact before
      | [] | .member .. :: _ => cases step
    | _ => exact close_read before step
  | nothing t => cases step

theorem run_read {m last : Machine} {tokens before : List Token} (read : m.HasRead before)
    (run : tokens.foldlM Machine.step m = some last) : last.HasRead (before ++ tokens) := by
  induction tokens generalizing m before with
  | nil =>
    obtain rfl := Option.some.inj run
    rwa [List.append_nil]
  | cons token rest ih =>
    rw [List.foldlM_cons, Option.bind_eq_bind, Option.bind_eq_some_iff] at run
    obtain ⟨next, step, later⟩ := run
    rw [← List.singleton_append, ← List.append_assoc]
    exact ih (step_read read step) later

theorem treeOfTokens_tokens {tokens : List Token} {t : Tree}
    (read : treeOfTokens? tokens = some t) : tokens = t.tokens := by
  obtain ⟨last, run, complete⟩ := Option.bind_eq_some_iff.mp read
  have nothing : Machine.start.HasRead [] := rfl
  have all : last.HasRead tokens := run_read nothing run
  unfold Machine.tree? at complete
  split at complete
  · rename_i there
    obtain rfl := Option.some.inj complete
    simpa [Machine.HasRead, there] using all
  · cases complete

/-! ### What is written is read -/

theorem tokens_first (t : Tree) :
    ∃ token rest, t.tokens = token :: rest ∧
      ∀ stack, Machine.step ⟨.firstItem, stack⟩ token = Machine.step ⟨.value, stack⟩ token := by
  cases t with
  | array items => cases items <;> exact ⟨_, _, rfl, fun _ => rfl⟩
  | object members => cases members <;> exact ⟨_, _, rfl, fun _ => rfl⟩
  | _ => exact ⟨_, _, rfl, fun _ => rfl⟩

theorem firstItem_run (t : Tree) (stack : List Container) :
    t.tokens.foldlM Machine.step ⟨.firstItem, stack⟩ =
      t.tokens.foldlM Machine.step ⟨.value, stack⟩ := by
  obtain ⟨token, rest, same, first⟩ := tokens_first t
  rw [same, List.foldlM_cons, List.foldlM_cons, first]

mutual
theorem value_run (t : Tree) (stack : List Container) :
    t.tokens.foldlM Machine.step ⟨.value, stack⟩ = Machine.complete t stack := by
  match t with
  | .null | .bool _ | .number _ | .string _ | .array [] | .object [] =>
    simp [Tree.tokens, Machine.step, Machine.openValue, Machine.close]
  | .array (t :: rest) =>
    have first := value_run t (.array [] :: stack)
    have later := items_run rest [t] stack
    simp only [Tree.tokens, List.foldlM_cons, Machine.step, Machine.openValue, Option.bind_eq_bind,
      Option.bind_some, List.foldlM_append, firstItem_run, first, Machine.complete, later]
    rfl
  | .object ((name, t) :: rest) =>
    have first := value_run t (.member [] name :: stack)
    have later := members_run rest [(name, t)] stack
    simp only [Tree.tokens, List.foldlM_cons, Machine.step, Machine.openValue, Machine.openMember,
      Option.bind_eq_bind, Option.bind_some, List.foldlM_append, first, Machine.complete, later]
    rfl

theorem items_run (items done : List Tree) (stack : List Container) :
    (itemTokens items).foldlM Machine.step ⟨.separator, .array done :: stack⟩ =
      Machine.complete (.array (done.reverse ++ items)) stack := by
  match items with
  | [] => simp [itemTokens, Machine.step, Machine.close]
  | t :: rest =>
    have first := value_run t (.array done :: stack)
    have later := items_run rest (t :: done) stack
    simp only [itemTokens, List.foldlM_cons, Machine.step, Option.bind_eq_bind, Option.bind_some,
      List.foldlM_append, first, Machine.complete, later]
    simp

theorem members_run (members done : List (Option String × Tree)) (stack : List Container) :
    (memberTokens members).foldlM Machine.step ⟨.separator, .object done :: stack⟩ =
      Machine.complete (.object (done.reverse ++ members)) stack := by
  match members with
  | [] => simp [memberTokens, Machine.step, Machine.close]
  | (name, t) :: rest =>
    have first := value_run t (.member done name :: stack)
    have later := members_run rest ((name, t) :: done) stack
    simp only [memberTokens, List.foldlM_cons, Machine.step, Machine.openMember,
      Option.bind_eq_bind, Option.bind_some, List.foldlM_append, first, Machine.complete, later]
    simp
end

theorem tokens_treeOfTokens (t : Tree) : treeOfTokens? t.tokens = some t := by
  rw [treeOfTokens?, Machine.start, value_run]
  rfl

mutual
theorem tokens_separated (t : Tree) {rest : List Token} (separated : Separated rest)
    (closes : ∀ next ∈ rest.head?, next.closes = true) : Separated (t.tokens ++ rest) := by
  match t with
  | .number _ => exact ⟨fun _ => closes, separated⟩
  | .null | .bool _ | .string _ => exact ⟨nofun, separated⟩
  | .array [] | .object [] => exact ⟨nofun, nofun, separated⟩
  | .array (t :: items) =>
    obtain ⟨later, closes⟩ := items_separated items separated
    rw [Tree.tokens, List.cons_append, List.append_assoc]
    exact ⟨nofun, tokens_separated t later closes⟩
  | .object ((name, t) :: members) =>
    obtain ⟨later, closes⟩ := members_separated members separated
    rw [Tree.tokens, List.cons_append, List.cons_append, List.cons_append, List.append_assoc]
    exact ⟨nofun, nofun, nofun, tokens_separated t later closes⟩

theorem items_separated (items : List Tree) {rest : List Token} (separated : Separated rest) :
    Separated (itemTokens items ++ rest) ∧
      ∀ next ∈ (itemTokens items ++ rest).head?, next.closes = true := by
  match items with
  | [] => exact ⟨⟨nofun, separated⟩, by rintro _ ⟨⟩; rfl⟩
  | t :: items =>
    obtain ⟨later, closes⟩ := items_separated items separated
    rw [itemTokens, List.cons_append, List.append_assoc]
    exact ⟨⟨nofun, tokens_separated t later closes⟩, by rintro _ ⟨⟩; rfl⟩

theorem members_separated (members : List (Option String × Tree)) {rest : List Token}
    (separated : Separated rest) :
    Separated (memberTokens members ++ rest) ∧
      ∀ next ∈ (memberTokens members ++ rest).head?, next.closes = true := by
  match members with
  | [] => exact ⟨⟨nofun, separated⟩, by rintro _ ⟨⟩; rfl⟩
  | (name, t) :: members =>
    obtain ⟨later, closes⟩ := members_separated members separated
    rw [memberTokens, List.cons_append, List.cons_append, List.cons_append, List.append_assoc]
    exact ⟨⟨nofun, nofun, nofun, tokens_separated t later closes⟩, by rintro _ ⟨⟩; rfl⟩
end

theorem tree_eq_some_iff {text : Source} {t : Tree} : tree? text = some t ↔ t.Written text := by
  constructor
  · intro read
    obtain ⟨tokens, lexed, parsed⟩ := Option.bind_eq_some_iff.mp read
    obtain rfl := treeOfTokens_tokens parsed
    exact tokens_spells lexed
  · intro written
    have separated : Separated (t.tokens ++ []) := tokens_separated t trivial nofun
    rw [List.append_nil] at separated
    rw [tree?, spells_tokens written separated]
    exact tokens_treeOfTokens t

end GuessClient.Json
