import CloudCredentials.Proofs.Json.Integers
import CloudCredentials.Proofs.Json.Strings

/-!
# Written documents read back

`Value.ReadsAs` says that the text of a value is read as a tree wherever a value may stand. It holds
of strings and integers, and of objects if it holds of their members. `read_of_readsAs` says that
the text of such a value, as a document of its own, is read as that tree.
-/

namespace CloudCredentials.Json

/-- Reading the input while one thing is expected comes to reading the rest of it while another is
expected. -/
def Leads (before : Expectation) (input : Bytes) (after : Expectation) (rest : Bytes) : Prop :=
  ∀ fuel, input.length ≤ fuel → ∃ left, rest.length ≤ left ∧
    (tokensWithin fuel input).bind before.run = (tokensWithin left rest).bind after.run

/-- Reading goes on where it got to. -/
theorem Leads.trans {before between after : Expectation} {input middle rest : Bytes}
    (h : Leads before input between middle) (hmore : Leads between middle after rest) :
    Leads before input after rest := by
  intro fuel hfuel
  obtain ⟨left, hleft, hfirst⟩ := h fuel hfuel
  obtain ⟨last, hlast, hsecond⟩ := hmore left hleft
  exact ⟨last, hlast, hfirst.trans hsecond⟩

/-- A token that is expected is read. -/
theorem leads_of_token {before after : Expectation} {byte : UInt8} {written rest : Bytes}
    {token : Token} (hblank : isBlankByte byte = false)
    (htoken : takeToken byte (written ++ rest) = some (token, rest))
    (hnext : before.next token = some after) :
    Leads before (byte :: written ++ rest) after rest := by
  intro fuel hfuel
  -- A token takes one byte at least, so one step less is enough for the rest.
  rw [List.cons_append, List.length_cons, List.length_append] at hfuel
  obtain ⟨fuel, rfl⟩ : ∃ less, fuel = less + 1 := ⟨fuel - 1, by omega⟩
  refine ⟨fuel, by omega, ?_⟩
  rw [List.cons_append, tokensWithin, hblank, if_neg Bool.false_ne_true, htoken]
  cases htokens : tokensWithin fuel rest with
  | none => simp [htokens]
  | some tokens => simp [htokens, Expectation.run, hnext]

/-- A token of one byte that is expected is read. -/
theorem leads_of_mark {before after : Expectation} {byte : UInt8} (token : Token)
    (hblank : isBlankByte byte = false)
    (htoken : ∀ rest, takeToken byte rest = some (token, rest))
    (hnext : before.next token = some after) (rest : Bytes) :
    Leads before (byte :: rest) after rest :=
  leads_of_token hblank (htoken ([] ++ rest)) hnext

/-- The text of a value in bytes. -/
def Value.bytes (value : Value) : Bytes :=
  value.write.flatMap Bytes.ofChar

/-- The text of the value is read as the tree wherever a value may stand. -/
def Value.ReadsAs (value : Value) (tree : Tree) : Prop :=
  ∀ stack rest, EndsNumeral rest →
    Leads (.beforeValue stack) (value.bytes ++ rest) (.afterValue stack tree) rest

/-- A string is read as its pieces. -/
theorem Value.string_readsAs (text : String) :
    (Value.string text).ReadsAs (.string (textPieces text)) := by
  intro stack rest _
  obtain ⟨written, hwritten, htoken⟩ := takeToken_writeString text
  rw [bytes, write, hwritten]
  exact leads_of_token rfl (htoken rest) rfl

/-- An integer is read as its digits. -/
theorem Value.integer_readsAs (value : Int) :
    (Value.number (.integer value)).ReadsAs (.number (writtenNumeral value)) := by
  intro stack rest hrest
  obtain ⟨byte, written, hwritten, hblank, htoken⟩ := takeToken_writeInteger value
  rw [bytes, write, Number.write, hwritten]
  exact leads_of_token hblank (htoken rest hrest) rfl

/-- A member of an object, with the tree as which its value is read. -/
structure ReadMember where
  name : String
  value : Value
  tree : Tree
  readsAs : value.ReadsAs tree

namespace ReadMember

/-- The member as it is written. -/
def written (member : ReadMember) : String × Value := (member.name, member.value)

/-- The member as it is read. -/
def read (member : ReadMember) : List Piece × Tree := (textPieces member.name, member.tree)

end ReadMember

/-- A name of an object is expected next, after these members. -/
def AwaitsName (before : Expectation) (stack : List Frame) (done : List (List Piece × Tree)) :
    Prop :=
  ∀ name, before.next (.string name) = some (.afterName stack done name)

/-- Nothing goes on a numeral at the end of the input. -/
theorem endsNumeral_nil : EndsNumeral [] := by
  rintro _ _ ⟨⟩

/-- A byte that is no part of a numeral ends one. -/
theorem endsNumeral_cons (byte : UInt8)
    (h : digit? byte = none ∧ byte ≠ 0x2E ∧ byte ≠ 0x65 ∧ byte ≠ 0x45) (rest : Bytes) :
    EndsNumeral (byte :: rest) := by
  rintro _ _ ⟨⟩
  exact h

/-- A name, its colon and its value are read as a member. -/
theorem ReadMember.leads (member : ReadMember) {before : Expectation} {stack : List Frame}
    {done : List (List Piece × Tree)} (h : AwaitsName before stack done) {rest : Bytes}
    (hrest : EndsNumeral rest) :
    Leads before
      ((writeString member.name ++ ':' :: member.value.write).flatMap Bytes.ofChar ++ rest)
      (.afterValue (.members done (textPieces member.name) :: stack) member.tree) rest := by
  obtain ⟨written, hwritten, htoken⟩ := takeToken_writeString member.name
  have hname := leads_of_token rfl
    (htoken (0x3A :: (member.value.bytes ++ rest))) (h (textPieces member.name))
  have hcolon : Leads (.afterName stack done (textPieces member.name))
      (0x3A :: (member.value.bytes ++ rest))
      (.beforeValue (.members done (textPieces member.name) :: stack))
      (member.value.bytes ++ rest) :=
    leads_of_mark .colon rfl (fun _ => rfl) rfl _
  have hvalue := member.readsAs (.members done (textPieces member.name) :: stack) rest hrest
  have hall := (hname.trans hcolon).trans hvalue
  have hmark : Bytes.ofChar ':' = [0x3A] := rfl
  rw [List.flatMap_append, hwritten, List.flatMap_cons, hmark]
  simpa [Value.bytes] using hall

/-- Members up to the end of their object are read as an object, after those before them. -/
theorem leads_members (member : ReadMember) (members : List ReadMember) {before : Expectation}
    {stack : List Frame} {done : List (List Piece × Tree)} (h : AwaitsName before stack done)
    (rest : Bytes) :
    Leads before
      ((writeMembers ((member :: members).map ReadMember.written)).flatMap Bytes.ofChar ++
        0x7D :: rest)
      (.afterValue stack (.object (done.reverse ++ (member :: members).map ReadMember.read)))
      rest := by
  -- The members that are done grow on the stack, so the induction is on those that are to come.
  induction members generalizing member before done with
  | nil =>
      have hmember := member.leads h (endsNumeral_cons 0x7D (by decide) rest)
      have hclose : Leads (.afterValue (.members done (textPieces member.name) :: stack)
          member.tree) (0x7D :: rest)
          (.afterValue stack (.object (done.reverse ++ [member.read]))) rest :=
        leads_of_mark .closeObject rfl (fun _ => rfl)
          (by simp [Expectation.next, Expectation.takeMore, ReadMember.read]) rest
      exact hmember.trans hclose
  | cons second members ih =>
      have hmember := member.leads h (endsNumeral_cons 0x2C (by decide)
        ((writeMembers ((second :: members).map ReadMember.written)).flatMap Bytes.ofChar ++
          0x7D :: rest))
      have hcomma : Leads (.afterValue (.members done (textPieces member.name) :: stack)
          member.tree)
          (0x2C :: ((writeMembers ((second :: members).map ReadMember.written)).flatMap
            Bytes.ofChar ++ 0x7D :: rest))
          (.beforeName stack (member.read :: done)) _ :=
        leads_of_mark .comma rfl (fun _ => rfl) rfl _
      have hawaits : AwaitsName (.beforeName stack (member.read :: done)) stack
          (member.read :: done) := fun name => rfl
      have hmore := ih second hawaits
      have hall := (hmember.trans hcomma).trans hmore
      have hmark : Bytes.ofChar ',' = [0x2C] := rfl
      have hwritten : writeMembers ((member :: second :: members).map ReadMember.written) =
          (writeString member.name ++ ':' :: member.value.write) ++
            ',' :: writeMembers ((second :: members).map ReadMember.written) := by
        simp [writeMembers, ReadMember.written]
      rw [hwritten, List.flatMap_append, List.append_assoc, List.flatMap_cons, hmark]
      simpa using hall

/-- An object is read as the object of what its members are read as. -/
theorem Value.object_readsAs (members : List ReadMember) :
    (Value.object (members.map ReadMember.written)).ReadsAs
      (.object (members.map ReadMember.read)) := by
  intro stack rest _
  have hopen : ∀ input, Leads (.beforeValue stack) (0x7B :: input) (.afterOpenObject stack) input :=
    leads_of_mark .openObject rfl (fun _ => rfl) rfl
  have hwritten : (Value.object (members.map ReadMember.written)).bytes ++ rest =
      0x7B :: ((writeMembers (members.map ReadMember.written)).flatMap Bytes.ofChar ++
        0x7D :: rest) := by
    have hmarks : Bytes.ofChar (Char.ofNat 123) = [0x7B] ∧ Bytes.ofChar (Char.ofNat 125) = [0x7D] :=
      ⟨rfl, rfl⟩
    simp [bytes, write, hmarks]
  rw [hwritten]
  cases members with
  | nil =>
      have hclose : Leads (.afterOpenObject stack) (0x7D :: rest) (.afterValue stack (.object []))
          rest := leads_of_mark .closeObject rfl (fun _ => rfl) rfl rest
      exact (hopen _).trans hclose
  | cons member members =>
      have hawaits : AwaitsName (.afterOpenObject stack) stack [] := fun name => rfl
      exact (hopen _).trans (leads_members member members hawaits rest)

/-- The text of a value is a document that is read as its tree. -/
theorem read_of_readsAs {value : Value} {tree : Tree} (h : value.ReadsAs tree) :
    Tree.read (Bytes.ofText value.text) = some tree := by
  have hbytes : Bytes.ofText value.text = value.bytes ++ [] := by
    rw [Bytes.ofText, Value.text, String.toList_ofList, Value.bytes, List.append_nil]
  obtain ⟨left, _, hleads⟩ := h [] [] endsNumeral_nil _ (Nat.le_refl _)
  have hnothing : tokensWithin left [] = some [] := by
    cases left <;> rfl
  rw [hnothing] at hleads
  -- Reading in steps ends where reading all tokens at once ends.
  rw [Tree.read, tokens, hbytes]
  cases htokens : tokensWithin (value.bytes ++ []).length (value.bytes ++ []) with
  | none =>
      rw [htokens] at hleads
      cases hleads
  | some tokens =>
      rw [htokens] at hleads
      have hrun : Expectation.run (.beforeValue []) tokens = some (.afterValue [] tree) := hleads
      simp [hrun]

/-- The name and the value of a member of a document. -/
def evaluated (member : List Piece × Tree) : Option (String × Value) := do
  return (← pieceText member.1, ← member.2.value? (greatestDepth - 1))

/-- The members of a document that is an object, as they are written: in their order and with those
that are there more than once. -/
def readMembers (input : Bytes) : Option Members :=
  match Tree.read input with
  | some (.object members) => members.mapM evaluated
  | _ => none

/-- The tree of the member has the value of the member. -/
def ReadMember.HasValue (member : ReadMember) : Prop :=
  ∀ depth, member.tree.value? depth = some member.value

/-- An object is read with the members with which it is written. -/
theorem readMembers_text {members : List ReadMember}
    (h : ∀ member ∈ members, member.HasValue) :
    readMembers (Bytes.ofText (Value.object (members.map ReadMember.written)).text) =
      some (members.map ReadMember.written) := by
  rw [readMembers, read_of_readsAs (Value.object_readsAs members)]
  show (members.map ReadMember.read).mapM evaluated = some (members.map ReadMember.written)
  induction members with
  | nil => rfl
  | cons member members ih =>
      have hmember : evaluated member.read = some member.written := by
        have hvalue := h member List.mem_cons_self (greatestDepth - 1)
        simp [evaluated, ReadMember.read, ReadMember.written, hvalue]
      rw [List.map_cons, List.mapM_cons, hmember,
        ih fun other hother => h other (List.mem_cons_of_mem _ hother)]
      rfl

/-- Members that are read have their values, sorted by name among those before. -/
theorem members?_read {depth : Nat} {members : List ReadMember}
    (h : ∀ member ∈ members, member.tree.value? depth = some member.value) (sorted : Members) :
    Tree.members? depth sorted (members.map ReadMember.read) =
      some (members.foldl (fun sorted member => putMember member.name member.value sorted)
        sorted) := by
  induction members generalizing sorted with
  | nil => rfl
  | cons member members ih =>
      show (Tree.members? _ _ (member.read :: _)) = _
      rw [ReadMember.read, Tree.members?, pieceText_textPieces, h member List.mem_cons_self]
      exact ih (fun other hother => h other (List.mem_cons_of_mem _ hother)) _

/-- An object is read as the object of its members, sorted by name. -/
theorem read_text {members : List ReadMember} (h : ∀ member ∈ members, member.HasValue) :
    read (Bytes.ofText (Value.object (members.map ReadMember.written)).text) =
      .ok (.object (members.foldl (fun sorted member => putMember member.name member.value sorted)
        [])) := by
  have hmembers := members?_read (fun member hmember => h member hmember (greatestDepth - 1)) []
  have hvalue : Tree.value? greatestDepth (.object (members.map ReadMember.read)) =
      some (.object (members.foldl (fun sorted member => putMember member.name member.value sorted)
        [])) := by
    show Tree.value? (greatestDepth - 1 + 1) _ = _
    rw [Tree.value?, hmembers]
    rfl
  rw [read, read_of_readsAs (Value.object_readsAs members), Option.bind_some, hvalue]

/-- The names of members that are read are those that were written. -/
theorem mapM_pieceText_read (members : List ReadMember) :
    (members.map ReadMember.read).mapM (fun (name, tree) => (pieceText name).map (·, tree)) =
      some (members.map fun member => (member.name, member.tree)) := by
  induction members with
  | nil => rfl
  | cons member members ih =>
      rw [List.map_cons, List.mapM_cons, ih]
      simp only [ReadMember.read, pieceText_textPieces]
      rfl

/-- An object with one member is read as the record with that field. -/
theorem readRecord_text (member : ReadMember) :
    readRecord [member.name] (Bytes.ofText (Value.object [member.written]).text) =
      .ok [some member.tree] := by
  have htree : Tree.read (Bytes.ofText (Value.object [member.written]).text) = _ :=
    read_of_readsAs (Value.object_readsAs [member])
  rw [readRecord, htree]
  simp only [Tree.record?, mapM_pieceText_read]
  simp

end CloudCredentials.Json
