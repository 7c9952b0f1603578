import GuessClient.Proofs.Json.Syntax

/-!
No more and no less than a whole text is read. A text with anything but blanks after a complete
object has no tree, and neither has the text of an object that is cut off before its end.
-/

namespace GuessClient.Json

theorem spelled_front {blanks part : Source} {token : Token} (blank : Blank blanks)
    (written : token.Spelled part) (rest : Source) :
    (blanks ++ (part ++ rest)).dropWhile isBlank = part ++ rest := by
  obtain ⟨c, more, rfl, unblank⟩ := spelled_cons written
  rw [blank_dropped blank, List.cons_append, List.dropWhile_cons_of_neg (by simp [unblank])]

theorem spells_first {tokens : List Token} {blanks part rest : Source} {token : Token}
    (blank : Blank blanks) (written : token.Spelled part) (ends : token.isNumber = true → Ends rest)
    (spells : Spells tokens (blanks ++ (part ++ rest))) (separated : Separated tokens) :
    ∃ others, tokens = token :: others ∧ Separated others ∧ Spells others rest := by
  have front := spelled_front blank written rest
  generalize blanks ++ (part ++ rest) = text at spells front
  cases spells with
  | nil white =>
    have nothing := blank_dropped white []
    rw [List.append_nil, front] at nothing
    obtain ⟨c, more, rfl, _⟩ := spelled_cons written
    cases nothing
  | cons white written' later =>
    -- what is read next is one token, so the two first tokens are the same
    rw [spelled_front white written'] at front
    have next := nextToken_append written ends
    have next' := nextToken_append written' fun number => spells_ends later (separated.1 number)
    rw [front, next] at next'
    obtain ⟨rfl, rfl⟩ := Prod.mk.inj (Option.some.inj next')
    exact ⟨_, rfl, separated.2, later⟩

theorem spells_ends_extended {tokens : List Token} {text : Source} (spells : Spells tokens text)
    (closes : ∃ next ∈ tokens.head?, next.closes = true) (extra : Source) :
    Ends (text ++ extra) := by
  obtain ⟨next, head, closes⟩ := closes
  cases spells with
  | nil => cases head
  | cons blank written later =>
    obtain rfl : _ = next := Option.some.inj head
    rw [List.append_assoc, List.append_assoc]
    exact blank_ends blank (closing_ends written closes _)

theorem spells_extended {tokens all : List Token} {text extra : Source}
    (spells : Spells tokens text) (separated : Separated tokens)
    (last : ∀ token ∈ tokens.getLast?, token.isNumber = false)
    (spells' : Spells all (text ++ extra)) (separated' : Separated all) :
    ∃ more blanks, all = tokens ++ more ∧ Blank blanks ∧ Spells more (blanks ++ extra) := by
  induction spells generalizing all with
  | @nil blanks blank => exact ⟨all, blanks, rfl, blank, spells'⟩
  | @cons blanks part rest token tokens blank written later ih =>
    -- a number cannot grow into the extra text, because a token that closes it comes first
    have ends : token.isNumber = true → Ends (rest ++ extra) := by
      intro number
      refine spells_ends_extended later ?_ extra
      cases tokens with
      | nil => simp [number] at last
      | cons next others => exact ⟨next, rfl, separated.1 number next rfl⟩
    rw [List.append_assoc, List.append_assoc] at spells'
    obtain ⟨others, rfl, separated', spells'⟩ := spells_first blank written ends spells' separated'
    have last' : ∀ token ∈ tokens.getLast?, token.isNumber = false := by
      intro final there
      cases tokens with
      | nil => cases there
      | cons next more => exact last final (by rwa [List.getLast?_cons_cons])
    obtain ⟨more, white, rfl, blank', spells'⟩ := ih separated.2 last' spells' separated'
    exact ⟨more, white, rfl, blank', spells'⟩

theorem object_last (members : List (Option String × Tree)) :
    (Tree.object members).tokens.getLast? = some .rightBrace := by
  cases members with
  | nil => rfl
  | cons first rest => simp [Tree.tokens, memberTokens_eq, List.getLast?_cons]

theorem tree_separated (t : Tree) : Separated t.tokens := by
  have separated : Separated (t.tokens ++ []) := tokens_separated t trivial nofun
  rwa [List.append_nil] at separated

theorem treeOfTokens_extended (t : Tree) (token : Token) (more : List Token) :
    treeOfTokens? (t.tokens ++ token :: more) = none := by
  rw [treeOfTokens?, Machine.start, List.foldlM_append, value_run]
  rfl

theorem spells_nothing {text : Source} (spells : Spells [] text) : Blank text := by
  cases spells with
  | nil blank => exact blank

theorem trailing_unwritten {members : List (Option String × Tree)} {text extra : Source}
    (written : (Tree.object members).Written text) (further : ¬ Blank extra) (t : Tree) :
    ¬ t.Written (text ++ extra) := by
  intro written'
  have last : ∀ token ∈ (Tree.object members).tokens.getLast?, token.isNumber = false := by
    rw [object_last]
    rintro _ ⟨⟩
    rfl
  obtain ⟨more, blanks, tokens, _, rest⟩ :=
    spells_extended written (tree_separated _) last written' (tree_separated t)
  cases more with
  | nil =>
    have blank := spells_nothing rest
    exact further fun c there => blank c (List.mem_append_right blanks there)
  | cons token more =>
    have read := tokens_treeOfTokens t
    rw [tokens, treeOfTokens_extended] at read
    cases read

theorem spelled_brace {token : Token} {part : Source} (written : token.Spelled part)
    (brace : part.head? = some (some '{')) : token = .leftBrace := by
  cases written with
  | leftBrace => rfl
  | positive written =>
    obtain ⟨c, more, rfl, digit⟩ := unsigned_cons written
    obtain rfl : c = '{' := by simpa using brace
    cases digit
  | _ => simp at brace

theorem written_first {t : Tree} {text : Source} (written : t.Written text) :
    ∃ blanks token part rest others, Blank blanks ∧ token.Spelled part ∧
      text = blanks ++ (part ++ rest) ∧ t.tokens = token :: others := by
  obtain ⟨token, others, same, _⟩ := tokens_first t
  unfold Tree.Written at written
  rw [same] at written
  cases written with
  | cons blank first later => exact ⟨_, token, _, _, others, blank, first, rfl, same⟩

theorem written_brace {t : Tree} {text : Source} (written : t.Written text)
    (brace : (text.dropWhile isBlank).head? = some (some '{')) :
    ∃ members, t = .object members := by
  obtain ⟨blanks, token, part, rest, others, blank, first, rfl, same⟩ := written_first written
  rw [spelled_front blank first] at brace
  obtain ⟨c, more, rfl, _⟩ := spelled_cons first
  obtain rfl := spelled_brace first brace
  cases t with
  | object members => exact ⟨members, rfl⟩
  | array items => cases items <;> cases same
  | _ => cases same

theorem object_brace {members : List (Option String × Tree)} {text : Source}
    (written : (Tree.object members).Written text) :
    (text.dropWhile isBlank).head? = some (some '{') := by
  obtain ⟨blanks, token, part, rest, others, blank, first, rfl, same⟩ := written_first written
  obtain rfl : .leftBrace = token := by
    cases members <;> exact (List.cons.inj same).1
  rw [spelled_front blank first]
  cases first
  rfl

theorem written_front {t : Tree} {text : Source} (written : t.Written text) (extra : Source) :
    ((text ++ extra).dropWhile isBlank).head? = (text.dropWhile isBlank).head? := by
  obtain ⟨blanks, token, part, rest, others, blank, first, rfl, _⟩ := written_first written
  rw [List.append_assoc, List.append_assoc, spelled_front blank first, spelled_front blank first]
  obtain ⟨c, more, rfl, _⟩ := spelled_cons first
  rfl

theorem truncated_unwritten {members : List (Option String × Tree)} {front back : Source}
    (written : (Tree.object members).Written (front ++ back)) (cut : ¬ Blank back) (t : Tree) :
    ¬ t.Written front := by
  intro there
  have brace := object_brace written
  have kept : (front.dropWhile isBlank).head? = some (some '{') := by
    rwa [written_front there back] at brace
  obtain ⟨others, rfl⟩ := written_brace there kept
  exact trailing_unwritten there cut _ written

end GuessClient.Json
