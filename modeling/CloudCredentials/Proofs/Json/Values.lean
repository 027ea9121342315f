import CloudCredentials.Proofs.Json.Documents
import CloudCredentials.Proofs.Json.Numerals

/-!
# Written values read back

A value that has been read is `Proper`: its members are sorted, its integers fit 64 bits, and it is
not nested deeper than the reader goes. `readText_text` says that the compact text of such a value
is read as the value again. The binary numbers in it have to be ones that read back by themselves,
which is all that is asked of the shortest decimals.
-/

namespace CloudCredentials.Json

/-! ## Written texts -/

/-- A decimal that is written is not empty. -/
theorem layout_write_ne_nil (layout : Decimal.Layout) (decimal : Decimal.Scaled) :
    layout.write decimal ≠ [] := by
  simp only [Decimal.Layout.write]
  split
  · simp
  · split <;> simp

/-- A number that is written is not empty. -/
theorem Number.write_ne_nil (number : Number) : number.write ≠ [] := by
  cases number with
  | integer value => simp [write, writeInteger]
  | binary value =>
      rw [write, Decimal.Layout.writeNumber]
      refine List.append_ne_nil_of_right_ne_nil _ ?_
      split
      · simp
      · exact layout_write_ne_nil _ _

/-- A value that is written is not empty. -/
theorem Value.text_ne_empty (value : Value) : value.text ≠ "" := by
  have hwrite : value.write ≠ [] := by
    cases value with
    | null => simp [write]
    | boolean value => cases value <;> simp [write]
    | number number => exact number.write_ne_nil
    | string text => simp [write, writeString]
    | array items => simp [write]
    | object members => simp [write]
  rw [text, ne_eq, ← String.toList_inj, String.toList_ofList]
  simpa using hwrite

/-! ## Sorted members -/

/-- The members are in the order of their names, with each name once. -/
def IsSorted (members : Members) : Prop :=
  members.Pairwise fun entry other => entry.1 < other.1

/-- A member that is put is there, beside those that were there. -/
theorem mem_of_mem_putMember {name : String} {value : Value} {members : Members}
    {entry : String × Value} (h : entry ∈ putMember name value members) :
    entry = (name, value) ∨ entry ∈ members := by
  induction members with
  | nil => exact .inl (List.mem_singleton.1 h)
  | cons first members ih =>
      obtain ⟨other, present⟩ := first
      rw [putMember] at h
      split at h
      · exact (List.mem_cons.1 h).imp_right (List.mem_cons_of_mem _)
      · split at h
        · exact List.mem_cons.1 h
        · rcases List.mem_cons.1 h with rfl | h
          · exact .inr List.mem_cons_self
          · exact (ih h).imp_right (List.mem_cons_of_mem _)

/-- Putting a member keeps the members sorted. -/
theorem isSorted_putMember (name : String) (value : Value) {members : Members}
    (h : IsSorted members) : IsSorted (putMember name value members) := by
  induction members with
  | nil => exact List.pairwise_singleton _ _
  | cons first members ih =>
      obtain ⟨other, present⟩ := first
      obtain ⟨hfirst, hrest⟩ := List.pairwise_cons.1 h
      rw [putMember]
      split
      · next heq =>
          subst heq
          exact List.pairwise_cons.2 ⟨hfirst, hrest⟩
      · next hne =>
          split
          · next hlt =>
              refine List.pairwise_cons.2 ⟨fun entry hentry => ?_, h⟩
              rcases List.mem_cons.1 hentry with rfl | hentry
              · exact hlt
              · exact String.lt_trans hlt (hfirst entry hentry)
          · next hle =>
              have hlt : other < name :=
                Std.lt_of_le_of_ne (String.not_lt.1 hle) (Ne.symm hne)
              refine List.pairwise_cons.2 ⟨fun entry hentry => ?_, ih hrest⟩
              rcases mem_of_mem_putMember hentry with rfl | hentry
              · exact hlt
              · exact hfirst entry hentry

/-- Putting the same member again changes nothing. -/
theorem putMember_putMember (name : String) (value : Value) (members : Members) :
    putMember name value (putMember name value members) = putMember name value members := by
  induction members with
  | nil => simp [putMember]
  | cons entry rest ih =>
      obtain ⟨other, present⟩ := entry
      by_cases heq : name = other
      · simp [putMember, heq]
      · by_cases hlt : name < other
        · simp [putMember, heq, hlt]
        · simp [putMember, heq, hlt, ih]

/-- A member that comes after all others is put at the end. -/
theorem putMember_of_lt {name : String} (value : Value) {members : Members}
    (h : ∀ entry ∈ members, entry.1 < name) :
    putMember name value members = members ++ [(name, value)] := by
  induction members with
  | nil => rfl
  | cons first members ih =>
      obtain ⟨other, present⟩ := first
      have hlt : other < name := h _ List.mem_cons_self
      have hne : name ≠ other := by
        rintro rfl
        exact String.lt_irrefl name hlt
      rw [putMember, if_neg hne, if_neg (String.lt_asymm hlt),
        ih fun entry hentry => h entry (List.mem_cons_of_mem _ hentry)]
      rfl

/-- Sorted members that are put one after the other stay as they are. -/
theorem foldl_putMember {before members : Members} (h : IsSorted (before ++ members)) :
    members.foldl (fun sorted entry => putMember entry.1 entry.2 sorted) before =
      before ++ members := by
  induction members generalizing before with
  | nil => exact (List.append_nil before).symm
  | cons entry members ih =>
      obtain ⟨name, value⟩ := entry
      have hless : ∀ other ∈ before, other.1 < name := fun other hother =>
        (List.pairwise_append.1 h).2.2 other hother _ List.mem_cons_self
      have hnext : before ++ (name, value) :: members = before ++ [(name, value)] ++ members := by
        simp
      rw [hnext] at h ⊢
      rw [List.foldl_cons, putMember_of_lt value hless]
      exact ih h

/-! ## Proper values -/

/-- The number is read back when it is written as a text of its own. -/
def Number.ReadsBack (number : Number) : Prop :=
  readText (Value.number number).text = .ok (.number number)

/-- The number that the value is. -/
def Value.number? : Value → Option Number
  | .number present => some present
  | _ => none

/-- Whether a number reads back is seen by reading its text. -/
theorem Number.readsBack_iff (number : Number) :
    number.ReadsBack ↔
      (readText (Value.number number).text).toOption.bind Value.number? = some number := by
  rw [ReadsBack]
  generalize readText (Value.number number).text = outcome
  cases outcome with
  | error fault => simp [Except.toOption]
  | ok value => cases value <;> simp [Except.toOption, Value.number?]

instance (number : Number) : Decidable number.ReadsBack :=
  decidable_of_iff _ number.readsBack_iff.symm

/-- A value that can have been read, as far as its binary numbers read back. -/
inductive Value.Proper : Value → Prop where
  | null : Proper .null
  | boolean (value : Bool) : Proper (.boolean value)
  | integer (value : Int) (hfits : FitsWord value) : Proper (.number (.integer value))
  | binary (value : Decimal.Binary64) (hreads : (Number.binary value).ReadsBack) :
      Proper (.number (.binary value))
  | string (text : String) : Proper (.string text)
  | array (items : List Value) (hitems : ∀ item ∈ items, Proper item) : Proper (.array items)
  | object (members : Members) (hsorted : IsSorted members)
      (hmembers : ∀ entry ∈ members, Proper entry.2) : Proper (.object members)

mutual

/-- The greatest number of arrays and objects inside each other. -/
def Value.nesting : Value → Nat
  | .array items => itemNesting items + 1
  | .object members => memberNesting members + 1
  | _ => 0

/-- The greatest nesting of items. -/
def itemNesting : List Value → Nat
  | [] => 0
  | item :: rest => max item.nesting (itemNesting rest)

/-- The greatest nesting of members. -/
def memberNesting : List (String × Value) → Nat
  | [] => 0
  | (_, value) :: rest => max value.nesting (memberNesting rest)

end

/-- Items are nested up to a depth if each of them is. -/
theorem itemNesting_le_iff (items : List Value) (depth : Nat) :
    itemNesting items ≤ depth ↔ ∀ item ∈ items, item.nesting ≤ depth := by
  induction items with
  | nil => simp [itemNesting]
  | cons item items ih => rw [itemNesting, Nat.max_le, ih, List.forall_mem_cons]

/-- Members are nested up to a depth if each of them is. -/
theorem memberNesting_le_iff (members : Members) (depth : Nat) :
    memberNesting members ≤ depth ↔ ∀ entry ∈ members, entry.2.nesting ≤ depth := by
  induction members with
  | nil => simp [memberNesting]
  | cons entry members ih => rw [memberNesting, Nat.max_le, ih, List.forall_mem_cons]

/-! ## What has been read is proper -/

/-- `value.Holds number` says that the number is the value or is somewhere in it. -/
inductive Value.Holds : Value → Number → Prop where
  | itself (number : Number) : Holds (.number number) number
  | item {items : List Value} {item : Value} {number : Number} (hmem : item ∈ items)
      (hholds : Holds item number) : Holds (.array items) number
  | member {members : Members} {entry : String × Value} {number : Number}
      (hmem : entry ∈ members) (hholds : Holds entry.2 number) : Holds (.object members) number

/-- The binary numbers in the value read back. -/
def Value.NumbersReadBack (value : Value) : Prop :=
  ∀ number, value.Holds (.binary number) → (Number.binary number).ReadsBack

/-- Collected digits fit a word. -/
theorem collectDigits_le {start : Nat} (h : start ≤ greatestWord) (digits : List Nat) :
    (collectDigits start digits).1 ≤ greatestWord := by
  induction digits generalizing start with
  | nil => exact h
  | cons digit digits ih =>
      rw [collectDigits]
      split
      · exact h
      · next hfits => exact ih (Nat.le_of_not_lt hfits)

/-- A number that is scaled is a binary one. -/
theorem scaled_ne_integer (negative : Bool) (significand : Nat) (exponent value : Int) :
    Numeral.scaled negative significand exponent ≠ some (.integer value) := by
  intro h
  simp [Numeral.scaled, Option.bind_eq_some_iff] at h

/-- A number with an exponent part is a binary one. -/
theorem applyExponent_ne_integer (negative : Bool) (significand : Nat) (exponent value : Int)
    (part : ExponentPart) :
    Numeral.applyExponent negative significand exponent part ≠ some (.integer value) := by
  intro h
  rw [Numeral.applyExponent] at h
  split at h
  · split at h <;> cases h
  · exact scaled_ne_integer _ _ _ _ h

/-- A numeral denotes no integer beyond 64 bits. -/
theorem fitsWord_of_number? {numeral : Numeral} {value : Int}
    (h : numeral.number? = some (.integer value)) : FitsWord value := by
  have hwhole := collectDigits_le (Nat.zero_le greatestWord) numeral.whole
  rw [Numeral.number?] at h
  generalize collectDigits 0 numeral.whole = collected at h hwhole
  obtain ⟨whole, unread⟩ := collected
  dsimp only at h hwhole
  have hgreatest : greatestWord = 0xFFFFFFFFFFFFFFFF := rfl
  have hpower : Nat.pow 2 63 = 0x8000000000000000 := rfl
  -- Only a numeral without fraction and exponent part denotes an integer.
  split at h
  · generalize collectDigits whole _ = fraction at h
    obtain ⟨significand, unreadFraction⟩ := fraction
    dsimp only at h
    split at h
    · exact absurd h (applyExponent_ne_integer _ _ _ _ _)
    · exact absurd h (scaled_ne_integer _ _ _ _)
  · split at h
    · exact absurd h (applyExponent_ne_integer _ _ _ _ _)
    · split at h
      · exact absurd h (scaled_ne_integer _ _ _ _)
      · split at h
        · cases h
          exact ⟨by omega, by omega⟩
        · split at h
          · cases h
            exact ⟨by omega, by omega⟩
          · exact absurd h (scaled_ne_integer _ _ _ _)

/-- The values of items are those of their trees. -/
theorem mem_of_values? {depth : Nat} {trees : List Tree} {values : List Value}
    (h : Tree.values? depth trees = some values) :
    ∀ value ∈ values, ∃ tree ∈ trees, tree.value? depth = some value := by
  induction trees generalizing values with
  | nil =>
      cases h
      exact fun value hmem => by cases hmem
  | cons tree trees ih =>
      simp only [Tree.values?, Option.bind_eq_bind, Option.bind_eq_some_iff, Option.pure_def,
        Option.some.injEq] at h
      obtain ⟨first, hfirst, rest, hrest, rfl⟩ := h
      rw [List.forall_mem_cons]
      refine ⟨⟨tree, List.mem_cons_self, hfirst⟩, fun value hmem => ?_⟩
      obtain ⟨other, hother, hvalue⟩ := ih hrest value hmem
      exact ⟨other, List.mem_cons_of_mem _ hother, hvalue⟩

/-- The members of an object are sorted, and each is from before or has the value of a tree. -/
theorem sorted_of_members? {depth : Nat} {trees : List (List Piece × Tree)}
    {before members : Members} (h : Tree.members? depth before trees = some members)
    (hbefore : IsSorted before) :
    IsSorted members ∧ ∀ entry ∈ members,
      entry ∈ before ∨ ∃ read ∈ trees, read.2.value? depth = some entry.2 := by
  induction trees generalizing before with
  | nil =>
      cases h
      exact ⟨hbefore, fun entry hmem => .inl hmem⟩
  | cons read trees ih =>
      obtain ⟨pieces, tree⟩ := read
      simp only [Tree.members?, Option.bind_eq_bind, Option.bind_eq_some_iff] at h
      obtain ⟨name, _, value, hvalue, hrest⟩ := h
      obtain ⟨hsorted, hmembers⟩ := ih hrest (isSorted_putMember name value hbefore)
      refine ⟨hsorted, fun entry hmem => ?_⟩
      rcases hmembers entry hmem with hput | ⟨other, hother, hread⟩
      · rcases mem_of_mem_putMember hput with rfl | hold
        · exact .inr ⟨_, List.mem_cons_self, hvalue⟩
        · exact .inl hold
      · exact .inr ⟨other, List.mem_cons_of_mem _ hother, hread⟩

/-- What a tree is read as is proper if its binary numbers read back, and is not nested deeper than
the reader goes. -/
theorem proper_of_value? {depth : Nat} {tree : Tree} {value : Value}
    (h : tree.value? depth = some value) (hnumbers : value.NumbersReadBack) :
    value.Proper ∧ value.nesting ≤ depth := by
  -- The recursion is on the depth: what is inside an array or an object is one less deep.
  cases tree with
  | null =>
      cases h
      exact ⟨.null, Nat.zero_le depth⟩
  | boolean truth =>
      cases h
      exact ⟨.boolean truth, Nat.zero_le depth⟩
  | number numeral =>
      obtain ⟨number, hnumber, rfl⟩ := Option.map_eq_some_iff.1 h
      refine ⟨?_, Nat.zero_le depth⟩
      cases number with
      | integer integer => exact .integer integer (fitsWord_of_number? hnumber)
      | binary binary => exact .binary binary (hnumbers binary (.itself _))
  | string pieces =>
      obtain ⟨text, _, rfl⟩ := Option.map_eq_some_iff.1 h
      exact ⟨.string text, Nat.zero_le depth⟩
  | array trees =>
      cases depth with
      | zero => cases h
      | succ depth =>
          obtain ⟨items, hitems, rfl⟩ := Option.map_eq_some_iff.1 h
          have hall : ∀ item ∈ items, item.Proper ∧ item.nesting ≤ depth := by
            intro item hmem
            obtain ⟨tree, _, hvalue⟩ := mem_of_values? hitems item hmem
            exact proper_of_value? hvalue fun number hholds => hnumbers number (.item hmem hholds)
          refine ⟨.array items fun item hmem => (hall item hmem).1, ?_⟩
          rw [Value.nesting]
          exact Nat.succ_le_succ ((itemNesting_le_iff _ _).2 fun item hmem => (hall item hmem).2)
  | object trees =>
      cases depth with
      | zero => cases h
      | succ depth =>
          obtain ⟨members, hmembers, rfl⟩ := Option.map_eq_some_iff.1 h
          obtain ⟨hsorted, hread⟩ := sorted_of_members? hmembers List.Pairwise.nil
          have hall : ∀ entry ∈ members, entry.2.Proper ∧ entry.2.nesting ≤ depth := by
            intro entry hmem
            rcases hread entry hmem with hbefore | ⟨_, _, hvalue⟩
            · cases hbefore
            · exact proper_of_value? hvalue fun number hholds =>
                hnumbers number (.member hmem hholds)
          refine ⟨.object members hsorted fun entry hmem => (hall entry hmem).1, ?_⟩
          rw [Value.nesting]
          exact Nat.succ_le_succ
            ((memberNesting_le_iff _ _).2 fun entry hmem => (hall entry hmem).2)
termination_by depth

/-! ## Proper values read back -/

/-- The text of the value begins with what is no blank and does not close an array. -/
def Value.BeginsOpen (value : Value) : Prop :=
  ∃ byte rest, value.bytes = byte :: rest ∧ isBlankByte byte = false ∧ byte ≠ 0x5D

/-- The text of the value is read as the value inside so many arrays and objects. -/
def Value.ReadsBack (value : Value) (depth : Nat) : Prop :=
  value.BeginsOpen ∧ ∃ tree, value.ReadsAs tree ∧ tree.value? depth = some value

/-- A choice between two results that are not wanted is not wanted. -/
theorem ite_ne_of_ne {α : Type} {condition : Prop} [Decidable condition] {first second wanted : α}
    (hfirst : first ≠ wanted) (hsecond : second ≠ wanted) :
    (if condition then first else second) ≠ wanted := by
  split
  · exact hfirst
  · exact hsecond

/-- What is taken as the end of an array is its mark. -/
theorem eq_of_takeToken_closeArray {byte : UInt8} {input rest : Bytes}
    (h : takeToken byte input = some (.closeArray, rest)) : byte = 0x5D := by
  have hnumeral : ∀ negative input, takeNumeral negative input ≠ some (.closeArray, rest) := by
    intro negative input htaken
    obtain ⟨_, _, _, _, _, _, _, _, htoken⟩ := (takeNumeral_eq_some_iff _ _ _ _).1 htaken
    cases htoken
  by_cases hclose : byte = 0x5D
  · exact hclose
  · refine absurd h ?_
    rw [takeToken, if_neg (mt beq_iff_eq.1 hclose)]
    -- Every other mark is a token of its own, and every other beginning leads to its kind of token.
    repeat' apply ite_ne_of_ne
    all_goals first
      | exact hnumeral _ _
      | simp

/-- A value that does not begin with the end of an array is the first item of an array that has been
opened. -/
theorem leads_of_open {stack : List Frame} {input rest : Bytes} {after : Expectation} {byte : UInt8}
    (hblank : isBlankByte byte = false) (hclose : byte ≠ 0x5D)
    (h : Leads (.beforeValue (.items [] :: stack)) (byte :: input) after rest) :
    Leads (.afterOpenArray stack) (byte :: input) after rest := by
  intro fuel hfuel
  obtain ⟨left, hleft, heq⟩ := h fuel hfuel
  refine ⟨left, hleft, Eq.trans ?_ heq⟩
  obtain ⟨fuel, rfl⟩ : ∃ less, fuel = less + 1 := by
    rw [List.length_cons] at hfuel
    exact ⟨fuel - 1, by omega⟩
  rw [tokensWithin, hblank, if_neg Bool.false_ne_true]
  cases htoken : takeToken byte input with
  | none => rfl
  | some taken =>
      obtain ⟨token, more⟩ := taken
      have hne : token ≠ .closeArray := by
        rintro rfl
        exact hclose (eq_of_takeToken_closeArray htoken)
      cases htokens : tokensWithin fuel more with
      | none => simp [htokens]
      | some tokens =>
          simp [htokens, Expectation.run, Expectation.next]

/-- A word of the language is read as its value. -/
theorem Value.readsBack_of_word {value : Value} {tree : Tree} {byte : UInt8} {written : Bytes}
    {token : Token} (hbytes : value.bytes = byte :: written) (hblank : isBlankByte byte = false)
    (hclose : byte ≠ 0x5D) (htoken : ∀ rest, takeToken byte (written ++ rest) = some (token, rest))
    (hnext : ∀ stack, Expectation.takeValue stack token = some (.afterValue stack tree))
    (hvalue : ∀ depth, tree.value? depth = some value) (depth : Nat) : value.ReadsBack depth := by
  refine ⟨⟨byte, written, hbytes, hblank, hclose⟩, tree, fun stack rest _ => ?_, hvalue depth⟩
  rw [hbytes]
  exact leads_of_token hblank (htoken rest) (hnext stack)

/-- A string reads back. -/
theorem Value.string_readsBack (text : String) (depth : Nat) :
    (Value.string text).ReadsBack depth := by
  obtain ⟨written, hwritten, _⟩ := takeToken_writeString text
  refine ⟨⟨0x22, written, ?_, rfl, by decide⟩, _, string_readsAs text, ?_⟩
  · rw [bytes, write, hwritten]
  · rw [Tree.value?, pieceText_textPieces]
    rfl

/-- A number that reads back as a text of its own reads back anywhere. -/
theorem Value.number_readsBack {number : Number} (h : number.ReadsBack) (depth : Nat) :
    (Value.number number).ReadsBack depth := by
  obtain ⟨byte, written, numeral, hwritten, hblank, hclose, hnumber, htoken⟩ :=
    takeToken_of_readText h
  have hbytes : (Value.number number).bytes = byte :: written := by rw [bytes, write, hwritten]
  refine ⟨⟨byte, written, hbytes, hblank, hclose⟩, .number numeral, fun stack rest hrest => ?_, ?_⟩
  · rw [hbytes]
    exact leads_of_token hblank (htoken rest hrest) rfl
  · rw [Tree.value?, hnumber]
    rfl

/-- An integer of 64 bits reads back as a text of its own. -/
theorem Number.integer_readsBack {value : Int} (h : FitsWord value) :
    (Number.integer value).ReadsBack := by
  have hread : Tree.value? greatestDepth (.number (writtenNumeral value)) =
      some (.number (.integer value)) := by
    rw [Tree.value?, number?_writtenNumeral h]
    rfl
  rw [Number.ReadsBack, readText, read, read_of_readsAs (Value.integer_readsAs value),
    Option.bind_some, hread]

/-- An item of an array, with the tree as which it is read. -/
structure ReadItem where
  value : Value
  tree : Tree
  readsAs : value.ReadsAs tree

/-- Items up to the end of their array are read as an array, after those before them. -/
theorem leads_items (item : ReadItem) (items : List ReadItem) {stack : List Frame}
    {done : List Tree} (rest : Bytes) :
    Leads (.beforeValue (.items done :: stack))
      ((writeItems ((item :: items).map ReadItem.value)).flatMap Bytes.ofChar ++ 0x5D :: rest)
      (.afterValue stack (.array (done.reverse ++ (item :: items).map ReadItem.tree))) rest := by
  -- As with members, the items that are done grow on the stack.
  induction items generalizing item done with
  | nil =>
      have hitem := item.readsAs (.items done :: stack) (0x5D :: rest)
        (endsNumeral_cons 0x5D (by decide) rest)
      have hclose : Leads (.afterValue (.items done :: stack) item.tree) (0x5D :: rest)
          (.afterValue stack (.array (done.reverse ++ [item.tree]))) rest :=
        leads_of_mark .closeArray rfl (fun _ => rfl)
          (by simp [Expectation.next, Expectation.takeMore]) rest
      exact hitem.trans hclose
  | cons second items ih =>
      have hitem := item.readsAs (.items done :: stack)
        (0x2C :: ((writeItems ((second :: items).map ReadItem.value)).flatMap Bytes.ofChar ++
          0x5D :: rest)) (endsNumeral_cons 0x2C (by decide) _)
      have hcomma : Leads (.afterValue (.items done :: stack) item.tree)
          (0x2C :: ((writeItems ((second :: items).map ReadItem.value)).flatMap Bytes.ofChar ++
            0x5D :: rest))
          (.beforeValue (.items (item.tree :: done) :: stack)) _ :=
        leads_of_mark .comma rfl (fun _ => rfl) rfl _
      have hmark : Bytes.ofChar ',' = [0x2C] := rfl
      have hwritten : writeItems ((item :: second :: items).map ReadItem.value) =
          item.value.write ++ ',' :: writeItems ((second :: items).map ReadItem.value) := by
        simp [writeItems]
      rw [hwritten, List.flatMap_append, List.append_assoc, List.flatMap_cons, hmark]
      simpa [Value.bytes] using (hitem.trans hcomma).trans (ih second)

/-- Items that read back are read as items of an array. -/
theorem exists_readItems {items : List Value} {depth : Nat}
    (h : ∀ item ∈ items, item.ReadsBack depth) :
    ∃ read : List ReadItem, read.map ReadItem.value = items ∧
      Tree.values? depth (read.map ReadItem.tree) = some items := by
  induction items with
  | nil => exact ⟨[], rfl, rfl⟩
  | cons item items ih =>
      obtain ⟨⟨_, tree, hreads, hvalue⟩, hrest⟩ := List.forall_mem_cons.1 h
      obtain ⟨read, rfl, hvalues⟩ := ih hrest
      refine ⟨⟨item, tree, hreads⟩ :: read, rfl, ?_⟩
      rw [List.map_cons, Tree.values?, hvalue, hvalues]
      rfl

/-- The text of items begins like the first of them. -/
theorem writeItems_begins {items : List Value} (hne : items ≠ [])
    (h : ∀ item ∈ items, item.BeginsOpen) :
    ∃ byte rest, (writeItems items).flatMap Bytes.ofChar = byte :: rest ∧
      isBlankByte byte = false ∧ byte ≠ 0x5D := by
  cases items with
  | nil => exact absurd rfl hne
  | cons item items =>
      obtain ⟨byte, rest, hbytes, hblank, hclose⟩ := h item List.mem_cons_self
      have hwritten : ∃ more, writeItems (item :: items) = item.write ++ more := by
        cases items with
        | nil => exact ⟨[], (List.append_nil _).symm⟩
        | cons second items => exact ⟨_, rfl⟩
      obtain ⟨more, hmore⟩ := hwritten
      rw [Value.bytes] at hbytes
      refine ⟨byte, rest ++ more.flatMap Bytes.ofChar, ?_, hblank, hclose⟩
      rw [hmore, List.flatMap_append, hbytes, List.cons_append]

/-- An array reads back if its items do. -/
theorem Value.array_readsBack {items : List Value} {depth : Nat}
    (h : ∀ item ∈ items, item.ReadsBack depth) : (Value.array items).ReadsBack (depth + 1) := by
  have hmarks : Bytes.ofChar '[' = [0x5B] ∧ Bytes.ofChar ']' = [0x5D] := ⟨rfl, rfl⟩
  have hbytes : (Value.array items).bytes =
      0x5B :: ((writeItems items).flatMap Bytes.ofChar ++ [0x5D]) := by
    simp [bytes, write, hmarks]
  obtain ⟨read, hread, hvalues⟩ := exists_readItems h
  refine ⟨⟨0x5B, _, hbytes, rfl, by decide⟩, .array (read.map ReadItem.tree),
    fun stack rest _ => ?_, ?_⟩
  · have hopen : ∀ input, Leads (.beforeValue stack) (0x5B :: input) (.afterOpenArray stack) input :=
      leads_of_mark .openArray rfl (fun _ => rfl) rfl
    rw [hbytes, List.cons_append, List.append_assoc, List.singleton_append]
    refine (hopen _).trans ?_
    cases read with
    | nil =>
        cases hread
        exact leads_of_mark .closeArray rfl (fun _ => rfl) rfl rest
    | cons item read =>
        have hitems : Leads (.beforeValue (.items [] :: stack))
            ((writeItems items).flatMap Bytes.ofChar ++ 0x5D :: rest)
            (.afterValue stack (.array ((item :: read).map ReadItem.tree))) rest := by
          rw [← hread]
          exact leads_items item read rest
        have hne : items ≠ [] := by
          rw [← hread]
          exact List.cons_ne_nil _ _
        obtain ⟨byte, more, hbegins, hblank, hclose⟩ :=
          writeItems_begins hne fun item hmem => (h item hmem).1
        rw [hbegins, List.cons_append] at hitems ⊢
        exact leads_of_open hblank hclose hitems
  · rw [Tree.value?, hvalues]
    rfl

/-- Members that read back are read as members of an object. -/
theorem exists_readMembers {members : Members} {depth : Nat}
    (h : ∀ entry ∈ members, entry.2.ReadsBack depth) :
    ∃ read : List ReadMember, read.map ReadMember.written = members ∧
      ∀ member ∈ read, member.tree.value? depth = some member.value := by
  induction members with
  | nil => exact ⟨[], rfl, fun _ hmem => by cases hmem⟩
  | cons entry members ih =>
      obtain ⟨⟨_, tree, hreads, hvalue⟩, hrest⟩ := List.forall_mem_cons.1 h
      obtain ⟨read, rfl, hvalues⟩ := ih hrest
      exact ⟨⟨entry.1, entry.2, tree, hreads⟩ :: read, rfl, List.forall_mem_cons.2 ⟨hvalue, hvalues⟩⟩

/-- An object reads back if its members are sorted and do. -/
theorem Value.object_readsBack {members : Members} {depth : Nat} (hsorted : IsSorted members)
    (h : ∀ entry ∈ members, entry.2.ReadsBack depth) :
    (Value.object members).ReadsBack (depth + 1) := by
  have hmark : Bytes.ofChar '\x7b' = [0x7B] := rfl
  have hbytes : ∀ members : Members, (Value.object members).bytes =
      0x7B :: (writeMembers members ++ ['\x7d']).flatMap Bytes.ofChar := by
    intro members
    rw [bytes, write, List.cons_append, List.flatMap_cons, hmark, List.singleton_append]
  obtain ⟨read, rfl, hvalues⟩ := exists_readMembers h
  have hput : read.foldl (fun sorted member => putMember member.name member.value sorted) [] =
      read.map ReadMember.written := by
    rw [← List.nil_append (read.map ReadMember.written)] at hsorted ⊢
    rw [← foldl_putMember hsorted, List.foldl_map]
    rfl
  refine ⟨⟨0x7B, _, hbytes _, rfl, by decide⟩, _, object_readsAs read, ?_⟩
  rw [Tree.value?, members?_read hvalues, hput]
  rfl

/-- A proper value reads back wherever it is not nested too deep. -/
theorem Value.Proper.readsBack {value : Value} (h : value.Proper) {depth : Nat}
    (hdepth : value.nesting ≤ depth) : value.ReadsBack depth := by
  induction h generalizing depth with
  | null =>
      exact readsBack_of_word rfl rfl (by decide) (fun _ => rfl) (fun _ => rfl) (fun _ => rfl) depth
  | boolean truth =>
      cases truth with
      | true =>
          exact readsBack_of_word rfl rfl (by decide) (fun _ => rfl) (fun _ => rfl) (fun _ => rfl)
            depth
      | false =>
          exact readsBack_of_word rfl rfl (by decide) (fun _ => rfl) (fun _ => rfl) (fun _ => rfl)
            depth
  | integer integer hfits => exact number_readsBack (Number.integer_readsBack hfits) depth
  | binary binary hreads => exact number_readsBack hreads depth
  | string text => exact string_readsBack text depth
  | array items _ ih =>
      rw [nesting] at hdepth
      cases depth with
      | zero => cases hdepth
      | succ depth =>
          have hitems := (itemNesting_le_iff items depth).1 (Nat.le_of_succ_le_succ hdepth)
          exact array_readsBack fun item hmem => ih item hmem (hitems item hmem)
  | object members hsorted _ ih =>
      rw [nesting] at hdepth
      cases depth with
      | zero => cases hdepth
      | succ depth =>
          have hmembers := (memberNesting_le_iff members depth).1 (Nat.le_of_succ_le_succ hdepth)
          exact object_readsBack hsorted fun entry hmem => ih entry hmem (hmembers entry hmem)

/-- The text of a value that reads back is read as the value. -/
theorem Value.ReadsBack.readText_text {value : Value} (h : value.ReadsBack greatestDepth) :
    readText value.text = .ok value := by
  obtain ⟨_, tree, hreads, hvalue⟩ := h
  rw [readText, read, read_of_readsAs hreads, Option.bind_some, hvalue]

/-- What a text is read as is proper if its binary numbers read back, and is within the limit of
nesting. -/
theorem proper_of_readText {text : String} {value : Value} (h : readText text = .ok value)
    (hnumbers : value.NumbersReadBack) : value.Proper ∧ value.nesting ≤ greatestDepth := by
  unfold readText read at h
  split at h
  · next found hfound =>
      cases h
      obtain ⟨tree, _, hvalue⟩ := Option.bind_eq_some_iff.1 hfound
      exact proper_of_value? hvalue hnumbers
  · cases h

/-- A value that a text is read as is read again from its own compact text, as far as its binary
numbers read back. -/
theorem readText_text {text : String} {value : Value} (h : readText text = .ok value)
    (hnumbers : value.NumbersReadBack) : readText value.text = .ok value :=
  have hproper := proper_of_readText h hnumbers
  (hproper.1.readsBack hproper.2).readText_text

end CloudCredentials.Json
