import CloudCredentials.Proofs.Json.Documents
import CloudCredentials.Proofs.Json.Lexemes

/-!
# Which texts are which documents

`Tree.tokens` is a document as a sequence of tokens, and `Spaced` says that bytes spell a sequence
of tokens with blanks around them. The reader takes tokens with a stack of what is open, and
`read_eq_some_iff` says that it accepts exactly the texts of this grammar, as the document that they
spell.
-/

namespace CloudCredentials.Json

/-! ## Documents as tokens -/

mutual

/-- The tokens of a document. -/
def Tree.tokens : Tree → List Token
  | .null => [.null]
  | .boolean value => [.boolean value]
  | .number numeral => [.number numeral]
  | .string pieces => [.string pieces]
  | .array items => .openArray :: (itemTokens items ++ [.closeArray])
  | .object members => .openObject :: (memberTokens members ++ [.closeObject])

/-- The tokens of items, with commas between them. -/
def itemTokens : List Tree → List Token
  | [] => []
  | [item] => item.tokens
  | item :: rest => item.tokens ++ .comma :: itemTokens rest

/-- The tokens of members, with commas between them. -/
def memberTokens : List (List Piece × Tree) → List Token
  | [] => []
  | [(name, value)] => .string name :: .colon :: value.tokens
  | (name, value) :: rest =>
      .string name :: .colon :: (value.tokens ++ .comma :: memberTokens rest)

end

/-- The tokens of items that are followed by more. -/
def itemsBefore (items : List Tree) : List Token :=
  items.flatMap fun item => item.tokens ++ [.comma]

/-- The tokens of members that are followed by more. -/
def membersBefore (members : List (List Piece × Tree)) : List Token :=
  members.flatMap fun member => .string member.1 :: .colon :: (member.2.tokens ++ [.comma])

/-- A comma stands behind an item that is not the last. -/
theorem itemTokens_cons_cons (item second : Tree) (rest : List Tree) :
    itemTokens (item :: second :: rest) = item.tokens ++ .comma :: itemTokens (second :: rest) :=
  rfl

/-- A comma stands behind a member that is not the last. -/
theorem memberTokens_cons_cons (name : List Piece) (value : Tree) (second : List Piece × Tree)
    (rest : List (List Piece × Tree)) :
    memberTokens ((name, value) :: second :: rest) =
      .string name :: .colon :: (value.tokens ++ .comma :: memberTokens (second :: rest)) :=
  rfl

/-- Items end with the last one. -/
theorem itemTokens_append (items : List Tree) (last : Tree) :
    itemTokens (items ++ [last]) = itemsBefore items ++ last.tokens := by
  induction items with
  | nil => simp [itemTokens, itemsBefore]
  | cons item items ih =>
      have hcons : itemTokens (item :: (items ++ [last])) =
          item.tokens ++ .comma :: itemTokens (items ++ [last]) := by
        cases items <;> rfl
      rw [List.cons_append, hcons, ih]
      simp [itemsBefore]

/-- Members end with the last one. -/
theorem memberTokens_append (members : List (List Piece × Tree)) (name : List Piece)
    (value : Tree) :
    memberTokens (members ++ [(name, value)]) =
      membersBefore members ++ .string name :: .colon :: value.tokens := by
  induction members with
  | nil => simp [memberTokens, membersBefore]
  | cons member members ih =>
      obtain ⟨first, held⟩ := member
      have hcons : memberTokens ((first, held) :: (members ++ [(name, value)])) =
          .string first :: .colon ::
            (held.tokens ++ .comma :: memberTokens (members ++ [(name, value)])) := by
        cases members <;> rfl
      rw [List.cons_append, hcons, ih]
      simp [membersBefore]

/-! ## What has been taken -/

/-- The tokens of what is open. -/
def Frame.tokens : Frame → List Token
  | .items done => .openArray :: itemsBefore done.reverse
  | .members done name => .openObject :: (membersBefore done.reverse ++ [.string name, .colon])

/-- The tokens of all that is open, from the outside in. -/
def stackTokens (stack : List Frame) : List Token :=
  stack.reverse.flatMap Frame.tokens

/-- The tokens that have been taken when something is expected. -/
def Expectation.taken : Expectation → List Token
  | .beforeValue stack => stackTokens stack
  | .afterOpenArray stack => stackTokens stack ++ [.openArray]
  | .afterOpenObject stack => stackTokens stack ++ [.openObject]
  | .beforeName stack done => stackTokens stack ++ .openObject :: membersBefore done.reverse
  | .afterName stack done name =>
      stackTokens stack ++ .openObject :: (membersBefore done.reverse ++ [.string name])
  | .afterValue stack value => stackTokens stack ++ value.tokens

/-- The innermost of what is open comes last. -/
theorem stackTokens_cons (frame : Frame) (stack : List Frame) :
    stackTokens (frame :: stack) = stackTokens stack ++ frame.tokens := by
  simp [stackTokens]

namespace Expectation

/-- A token that begins a value is taken. -/
theorem taken_takeValue {stack : List Frame} {token : Token} {after : Expectation}
    (h : takeValue stack token = some after) : after.taken = stackTokens stack ++ [token] := by
  cases token <;> cases h <;> rfl

/-- A token after a value is taken. -/
theorem taken_takeMore {value : Tree} {stack : List Frame} {token : Token} {after : Expectation}
    (h : takeMore value stack token = some after) :
    after.taken = stackTokens stack ++ value.tokens ++ [token] := by
  cases stack with
  | nil => cases h
  | cons frame stack =>
      rw [stackTokens_cons]
      cases frame with
      | items done =>
          cases token with
          | comma =>
              cases h
              simp [taken, stackTokens_cons, Frame.tokens, itemsBefore]
          | closeArray =>
              cases h
              simp [taken, Frame.tokens, Tree.tokens, itemTokens_append]
          | _ => cases h
      | members done name =>
          cases token with
          | comma =>
              cases h
              simp [taken, Frame.tokens, membersBefore]
          | closeObject =>
              cases h
              simp [taken, Frame.tokens, Tree.tokens, memberTokens_append]
          | _ => cases h

/-- A token that is expected is taken. -/
theorem taken_next {before after : Expectation} {token : Token}
    (h : before.next token = some after) : after.taken = before.taken ++ [token] := by
  cases before with
  | beforeValue stack => exact taken_takeValue h
  | afterOpenArray stack =>
      by_cases hclose : token = .closeArray
      · subst hclose
        cases h
        simp [taken, Tree.tokens, itemTokens]
      · have hvalue : takeValue (.items [] :: stack) token = some after := by
          cases token <;> first | exact h | exact absurd rfl hclose
        rw [taken_takeValue hvalue, stackTokens_cons]
        simp [taken, Frame.tokens, itemsBefore]
  | afterOpenObject stack =>
      cases token with
      | closeObject =>
          cases h
          simp [taken, Tree.tokens, memberTokens]
      | string name =>
          cases h
          simp [taken, membersBefore]
      | _ => cases h
  | beforeName stack done =>
      cases token with
      | string name =>
          cases h
          simp [taken]
      | _ => cases h
  | afterName stack done name =>
      cases token with
      | colon =>
          cases h
          simp [taken, stackTokens_cons, Frame.tokens]
      | _ => cases h
  | afterValue stack value => exact taken_takeMore h

/-- Tokens that are expected are taken, one after the other. -/
theorem taken_run {before after : Expectation} {tokens : List Token}
    (h : before.run tokens = some after) : after.taken = before.taken ++ tokens := by
  induction tokens generalizing before with
  | nil =>
      cases h
      exact (List.append_nil _).symm
  | cons token tokens ih =>
      rw [run, List.foldlM_cons] at h
      obtain ⟨between, hnext, hrest⟩ := Option.bind_eq_some_iff.1 h
      rw [ih hrest, taken_next hnext, List.append_assoc]
      rfl

/-- Tokens are taken one after the other. -/
theorem run_cons (before : Expectation) (token : Token) (tokens : List Token) :
    before.run (token :: tokens) = (before.next token).bind (·.run tokens) := rfl

end Expectation

/-! ## The tokens of a document are expected -/

/-- A document does not begin with the end of an array, so it may be the first item of one. -/
theorem run_afterOpenArray (tree : Tree) (stack : List Frame) (rest : List Token) :
    Expectation.run (.afterOpenArray stack) (tree.tokens ++ rest) =
      Expectation.run (.beforeValue (.items [] :: stack)) (tree.tokens ++ rest) := by
  cases tree <;> simp only [Tree.tokens, List.cons_append, Expectation.run_cons] <;> rfl

mutual

/-- The tokens of a document are taken as that document. -/
theorem run_tokens (tree : Tree) (stack : List Frame) (rest : List Token) :
    Expectation.run (.beforeValue stack) (tree.tokens ++ rest) =
      Expectation.run (.afterValue stack tree) rest := by
  cases tree with
  | null => rfl
  | boolean value => rfl
  | number numeral => rfl
  | string pieces => rfl
  | array items =>
      rw [Tree.tokens, List.cons_append, List.append_assoc, Expectation.run_cons]
      exact run_items items stack rest
  | object members =>
      rw [Tree.tokens, List.cons_append, List.append_assoc, Expectation.run_cons]
      cases members with
      | nil => rfl
      | cons member members =>
          have hawaits : AwaitsName (.afterOpenObject stack) stack [] := fun _ => rfl
          exact run_members (member :: members) (List.cons_ne_nil _ _) hawaits rest

/-- The tokens of items are taken as an array that has been opened. -/
theorem run_items (items : List Tree) (stack : List Frame) (rest : List Token) :
    Expectation.run (.afterOpenArray stack) (itemTokens items ++ .closeArray :: rest) =
      Expectation.run (.afterValue stack (.array items)) rest := by
  cases items with
  | nil => rfl
  | cons item items =>
      cases items with
      | nil =>
          rw [itemTokens, run_afterOpenArray, run_tokens item]
          rfl
      | cons second items =>
          rw [itemTokens_cons_cons, List.append_assoc, run_afterOpenArray, run_tokens item]
          exact run_moreItems (second :: items) (List.cons_ne_nil _ _) stack [item] rest

/-- The tokens of items are taken as the items of an array, after those before them. -/
theorem run_moreItems (items : List Tree) (hne : items ≠ []) (stack : List Frame)
    (done : List Tree) (rest : List Token) :
    Expectation.run (.beforeValue (.items done :: stack))
        (itemTokens items ++ .closeArray :: rest) =
      Expectation.run (.afterValue stack (.array (done.reverse ++ items))) rest := by
  cases items with
  | nil => exact absurd rfl hne
  | cons item items =>
      cases items with
      | nil =>
          rw [itemTokens, run_tokens item, ← List.reverse_cons]
          rfl
      | cons second items =>
          have hmore := run_moreItems (second :: items) (List.cons_ne_nil _ _) stack
            (item :: done) rest
          rw [List.reverse_cons, List.append_assoc] at hmore
          rw [itemTokens_cons_cons, List.append_assoc, run_tokens item]
          exact hmore

/-- The tokens of members are taken as the members of an object, after those before them. -/
theorem run_members (members : List (List Piece × Tree)) (hne : members ≠ [])
    {before : Expectation} {stack : List Frame} {done : List (List Piece × Tree)}
    (h : AwaitsName before stack done) (rest : List Token) :
    before.run (memberTokens members ++ .closeObject :: rest) =
      Expectation.run (.afterValue stack (.object (done.reverse ++ members))) rest := by
  cases members with
  | nil => exact absurd rfl hne
  | cons member members =>
      obtain ⟨name, value⟩ := member
      cases members with
      | nil =>
          rw [memberTokens, List.cons_append, Expectation.run_cons, h name]
          show Expectation.run (.beforeValue (.members done name :: stack))
            (value.tokens ++ .closeObject :: rest) = _
          rw [run_tokens value, ← List.reverse_cons]
          rfl
      | cons second members =>
          have hawaits : AwaitsName (.beforeName stack ((name, value) :: done)) stack
              ((name, value) :: done) := fun _ => rfl
          have hmore := run_members (second :: members) (List.cons_ne_nil _ _) hawaits rest
          rw [List.reverse_cons, List.append_assoc] at hmore
          rw [memberTokens_cons_cons, List.cons_append, Expectation.run_cons, h name]
          show Expectation.run (.beforeValue (.members done name :: stack))
            ((value.tokens ++ .comma :: memberTokens (second :: members)) ++
              .closeObject :: rest) = _
          rw [List.append_assoc, run_tokens value]
          exact hmore

end

/-- What is read is the document whose tokens are there. -/
theorem run_eq_some_iff (tokens : List Token) (tree : Tree) :
    Expectation.run (.beforeValue []) tokens = some (.afterValue [] tree) ↔
      tokens = tree.tokens := by
  constructor
  · intro h
    exact (Expectation.taken_run h).symm
  · rintro rfl
    have hall := run_tokens tree [] []
    rwa [List.append_nil] at hall

/-! ## Texts as tokens -/

/-- The bytes spell the tokens, one after the other, with any blanks around them. -/
inductive Spaced : List Token → Bytes → Prop where
  | nil : Spaced [] []
  | blank (byte : UInt8) (hblank : isBlankByte byte = true) (tokens : List Token) (input : Bytes)
      (hmore : Spaced tokens input) : Spaced tokens (byte :: input)
  | token (token : Token) (written : Bytes) (hspelled : token.Spelled written)
      (tokens : List Token) (input : Bytes) (hmore : Spaced tokens input) :
      Spaced (token :: tokens) (written ++ input)

/-- Tokens that are read are there. -/
theorem spaced_of_tokensWithin {fuel : Nat} {input : Bytes} {tokens : List Token}
    (h : tokensWithin fuel input = some tokens) : Spaced tokens input := by
  induction fuel generalizing input tokens with
  | zero =>
      cases input with
      | nil =>
          cases h
          exact .nil
      | cons byte input => cases h
  | succ fuel ih =>
      cases input with
      | nil =>
          cases h
          exact .nil
      | cons byte input =>
          rw [tokensWithin] at h
          split at h
          · next hblank => exact .blank byte hblank _ _ (ih h)
          · obtain ⟨⟨token, rest⟩, htoken, hmore⟩ := Option.bind_eq_some_iff.1 h
            obtain ⟨more, htokens, heq⟩ := Option.bind_eq_some_iff.1 hmore
            cases heq
            obtain ⟨written, hspelled, hinput⟩ := spelled_of_takeToken htoken
            rw [hinput]
            exact .token token written hspelled more rest (ih htokens)

/-- A blank ends a numeral. -/
theorem endsNumeral_of_blank {byte : UInt8} (h : isBlankByte byte = true) (rest : Bytes) :
    EndsNumeral (byte :: rest) := by
  refine endsNumeral_cons byte ?_ rest
  simp only [isBlankByte, Bool.or_eq_true, beq_iff_eq] at h
  rcases h with ((rfl | rfl) | rfl) | rfl <;> decide

/-- A numeral ends where the input does, and where a blank or the end of a value follows. -/
theorem Spaced.endsNumeral {tokens : List Token} {input : Bytes} (h : Spaced tokens input)
    (hnext : ∀ token ∈ tokens.head?, token.EndsValue) : EndsNumeral input := by
  cases h with
  | nil => exact endsNumeral_nil
  | blank byte hblank => exact endsNumeral_of_blank hblank _
  | token token written hspelled tokens input _ =>
      cases hspelled with
      | fixed token written h =>
          rcases hnext token rfl with rfl | rfl | rfl <;> cases h <;>
            exact endsNumeral_cons _ (by decide) _
      | number => rcases hnext _ rfl with h | h | h <;> cases h
      | string => rcases hnext _ rfl with h | h | h <;> cases h

/-- What may follow a value ends it. -/
theorem endsValue_of_takeMore {value : Tree} {stack : List Frame} {token : Token}
    {after : Expectation} (h : Expectation.takeMore value stack token = some after) :
    token.EndsValue := by
  cases stack with
  | nil => cases h
  | cons frame stack =>
      cases frame with
      | items done =>
          cases token with
          | comma => exact .inl rfl
          | closeArray => exact .inr (.inl rfl)
          | _ => cases h
      | members done name =>
          cases token with
          | comma => exact .inl rfl
          | closeObject => exact .inr (.inr rfl)
          | _ => cases h

/-- What is expected behind a numeral ends a value. -/
theorem endsValue_of_run {before between after : Expectation} {numeral : Numeral}
    {tokens : List Token} (hnext : before.next (.number numeral) = some between)
    (hrun : between.run tokens = some after) : ∀ token ∈ tokens.head?, token.EndsValue := by
  have hvalue : ∃ stack, between = .afterValue stack (.number numeral) := by
    cases before with
    | beforeValue stack => exact ⟨stack, (Option.some.inj hnext).symm⟩
    | afterOpenArray stack => exact ⟨.items [] :: stack, (Option.some.inj hnext).symm⟩
    | afterOpenObject stack => cases hnext
    | beforeName stack done => cases hnext
    | afterName stack done name => cases hnext
    | afterValue stack value =>
        cases stack with
        | nil => cases hnext
        | cons frame stack => cases frame <;> cases hnext
  obtain ⟨stack, rfl⟩ := hvalue
  cases tokens with
  | nil => simp
  | cons token tokens =>
      rintro _ ⟨⟩
      rw [Expectation.run_cons] at hrun
      obtain ⟨_, htaken, _⟩ := Option.bind_eq_some_iff.1 hrun
      exact endsValue_of_takeMore htaken

/-- Tokens that are there are read, if they are expected one after the other. -/
theorem Spaced.tokensWithin {tokens : List Token} {input : Bytes} (h : Spaced tokens input)
    {before after : Expectation} (hrun : before.run tokens = some after) {fuel : Nat}
    (hfuel : input.length ≤ fuel) : Json.tokensWithin fuel input = some tokens := by
  induction h generalizing before fuel with
  | nil => cases fuel <;> rfl
  | blank byte hblank tokens input _ ih =>
      obtain ⟨fuel, rfl⟩ : ∃ less, fuel = less + 1 := by
        rw [List.length_cons] at hfuel
        exact ⟨fuel - 1, by omega⟩
      rw [Json.tokensWithin, if_pos hblank]
      exact ih hrun (Nat.le_of_succ_le_succ hfuel)
  | token token written hspelled tokens input hmore ih =>
      rw [Expectation.run_cons] at hrun
      obtain ⟨between, hnext, hrest⟩ := Option.bind_eq_some_iff.1 hrun
      have hends : ∀ numeral, token = .number numeral → EndsNumeral input := by
        rintro numeral rfl
        exact hmore.endsNumeral (endsValue_of_run hnext hrest)
      obtain ⟨byte, more, rfl, hblank, htoken⟩ := takeToken_of_spelled hspelled hends
      rw [List.cons_append, List.length_cons, List.length_append] at hfuel
      obtain ⟨fuel, rfl⟩ : ∃ less, fuel = less + 1 := ⟨fuel - 1, by omega⟩
      have hread : Json.tokensWithin fuel input = some tokens := ih hrest (by omega)
      rw [List.cons_append, Json.tokensWithin, hblank, if_neg Bool.false_ne_true, htoken]
      simp only [Option.bind_eq_bind, Option.bind_some, hread, Option.pure_def]

/-- The bytes are a text of the document. -/
def Tree.WrittenAs (tree : Tree) (input : Bytes) : Prop :=
  Spaced tree.tokens input

/-- A text is read as a document exactly if it is a text of that document. -/
theorem read_eq_some_iff (input : Bytes) (tree : Tree) :
    Tree.read input = some tree ↔ tree.WrittenAs input := by
  constructor
  · intro h
    obtain ⟨tokens, htokens, hrest⟩ := Option.bind_eq_some_iff.1 h
    obtain ⟨last, hrun, hlast⟩ := Option.bind_eq_some_iff.1 hrest
    have hdone : last = .afterValue [] tree := by
      split at hlast
      · cases hlast
        rfl
      · cases hlast
    rw [hdone, run_eq_some_iff] at hrun
    rw [Tree.WrittenAs, ← hrun]
    exact spaced_of_tokensWithin htokens
  · intro h
    have hrun := (run_eq_some_iff tree.tokens tree).2 rfl
    rw [Tree.read, Json.tokens, h.tokensWithin hrun (Nat.le_refl _)]
    simp [hrun]

/-- A text is that of one document at most. -/
theorem Tree.WrittenAs.unique {tree other : Tree} {input : Bytes} (h : tree.WrittenAs input)
    (hother : other.WrittenAs input) : tree = other := by
  rw [← read_eq_some_iff] at h hother
  exact Option.some.inj (h.symm.trans hother)

end CloudCredentials.Json
