import CloudCredentials.Proofs.Json.Grammar
import CloudCredentials.Proofs.Json.Values
import Mathlib.Data.List.Forall2
import Mathlib.Data.List.Induction

/-!
# What a text holds

A text that is read holds the value of the one document that it is the text of. `HoldsObject` and
`HoldsArray` say what this document is, down to its members or items as they are written. Of members
with one name an object keeps the last one, and it keeps them in the order of their names:
`member?_keptMembers` and `isSorted_keptMembers`.
-/

namespace CloudCredentials.Json

/-- The text is exactly that of one document, and the document has the value within the limits. -/
def HoldsValue (text : String) (value : Value) : Prop :=
  ∃ tree : Tree, tree.WrittenAs (Bytes.ofText text) ∧ tree.value? greatestDepth = some value

/-- A text has the value of the document that it is the text of. -/
theorem readText_eq_ok_iff (text : String) (value : Value) :
    readText text = .ok value ↔
      ∃ tree : Tree, tree.WrittenAs (Bytes.ofText text) ∧
        tree.value? greatestDepth = some value := by
  rw [readText, read]
  constructor
  · intro h
    split at h
    · next found hfound =>
        cases h
        obtain ⟨tree, hread, hvalue⟩ := Option.bind_eq_some_iff.1 hfound
        exact ⟨tree, (read_eq_some_iff _ _).1 hread, hvalue⟩
    · cases h
  · rintro ⟨tree, hwritten, hvalue⟩
    rw [(read_eq_some_iff _ _).2 hwritten, Option.bind_some, hvalue]

/-- A text that is not read is malformed, and holds nothing. -/
theorem readText_eq_error_iff (text : String) (fault : Fault) :
    readText text = .error fault ↔ fault = .malformed ∧ ∀ value, ¬ HoldsValue text value := by
  have hholds : ∀ value, HoldsValue text value ↔ readText text = .ok value := fun value =>
    (readText_eq_ok_iff text value).symm
  simp only [hholds, readText, read]
  cases (Tree.read (Bytes.ofText text)).bind (Tree.value? greatestDepth) with
  | none => simp [eq_comm]
  | some value => simp

/-! ## Documents without parts -/

/-- A document has the value null exactly if it is null. -/
theorem value?_eq_null_iff (depth : Nat) (tree : Tree) :
    tree.value? depth = some .null ↔ tree = .null := by
  cases tree with
  | null => simp [Tree.value?]
  | boolean value => simp [Tree.value?]
  | number numeral => simp [Tree.value?]
  | string pieces => simp [Tree.value?]
  | array items => cases depth <;> simp [Tree.value?]
  | object members => cases depth <;> simp [Tree.value?]

/-- A document has a string as its value exactly if it is written as that string. -/
theorem value?_eq_string_iff (depth : Nat) (tree : Tree) (text : String) :
    tree.value? depth = some (.string text) ↔
      ∃ pieces, tree = .string pieces ∧ pieceText pieces = some text := by
  cases tree with
  | null => simp [Tree.value?]
  | boolean value => simp [Tree.value?]
  | number numeral => simp [Tree.value?]
  | string pieces => simp [Tree.value?]
  | array items => cases depth <;> simp [Tree.value?]
  | object members => cases depth <;> simp [Tree.value?]

/-! ## Arrays -/

/-- The items of an array are the values of what is written. -/
theorem values?_eq_some_iff (depth : Nat) (trees : List Tree) (items : List Value) :
    Tree.values? depth trees = some items ↔
      List.Forall₂ (fun tree item => Tree.value? depth tree = some item) trees items := by
  induction trees generalizing items with
  | nil => simp [Tree.values?, eq_comm]
  | cons tree trees ih =>
      simp only [Tree.values?, Option.bind_eq_bind, Option.bind_eq_some_iff, Option.pure_def,
        Option.some.injEq, List.forall₂_cons_left_iff, ih]
      constructor
      · rintro ⟨item, hitem, rest, hrest, rfl⟩
        exact ⟨item, rest, hitem, hrest, rfl⟩
      · rintro ⟨item, rest, hitem, hrest, rfl⟩
        exact ⟨item, hitem, rest, hrest, rfl⟩

/-- A document has an array as its value exactly if it is written as one with these items. -/
theorem value?_eq_array_iff (depth : Nat) (tree : Tree) (items : List Value) :
    tree.value? (depth + 1) = some (.array items) ↔
      ∃ trees, tree = .array trees ∧
        List.Forall₂ (fun tree item => Tree.value? depth tree = some item) trees items := by
  cases tree with
  | array trees => simp [Tree.value?, values?_eq_some_iff]
  | null => simp [Tree.value?]
  | boolean value => simp [Tree.value?]
  | number numeral => simp [Tree.value?]
  | string pieces => simp [Tree.value?]
  | object members => simp [Tree.value?]

/-- The text is exactly that of an array with these items, which are within the limits. -/
def HoldsArray (text : String) (items : List Value) : Prop :=
  ∃ trees, (Tree.array trees).WrittenAs (Bytes.ofText text) ∧
    List.Forall₂ (fun tree item => tree.value? (greatestDepth - 1) = some item) trees items

/-- A text is read as an array exactly if it is the text of one. -/
theorem readText_eq_array_iff (text : String) (items : List Value) :
    readText text = .ok (.array items) ↔ HoldsArray text items := by
  rw [readText_eq_ok_iff]
  constructor
  · rintro ⟨tree, hwritten, hvalue⟩
    obtain ⟨trees, rfl, hitems⟩ := (value?_eq_array_iff (greatestDepth - 1) tree items).1 hvalue
    exact ⟨trees, hwritten, hitems⟩
  · rintro ⟨trees, hwritten, hitems⟩
    exact ⟨_, hwritten, (value?_eq_array_iff (greatestDepth - 1) _ items).2 ⟨trees, rfl, hitems⟩⟩

/-- A text is that of one array only. -/
theorem HoldsArray.unique {text : String} {items others : List Value} (h : HoldsArray text items)
    (hother : HoldsArray text others) : items = others := by
  rw [← readText_eq_array_iff] at h hother
  cases h.symm.trans hother
  rfl

/-! ## Objects -/

/-- The last value that members have under a name. -/
def lastMember? (name : String) (members : Members) : Option Value :=
  member? name members.reverse

/-- The members that an object keeps when members are added to it one after the other. -/
def keptMembers (members : Members) : Members :=
  members.foldl (fun kept entry => putMember entry.1 entry.2 kept) []

/-- An object has under a name the last value that is written under it. -/
theorem member?_keptMembers (name : String) (members : Members) :
    member? name (keptMembers members) = lastMember? name members := by
  induction members using List.reverseRecOn with
  | nil => rfl
  | append_singleton members last ih =>
      rw [lastMember?, List.reverse_append, List.reverse_singleton, List.singleton_append,
        keptMembers, List.foldl_append, List.foldl_cons, List.foldl_nil]
      obtain ⟨other, value⟩ := last
      by_cases h : name = other
      · subst h
        rw [member?_putMember_self]
        simp [member?]
      · rw [member?_putMember_of_ne _ _ _ _ h, ← keptMembers, ih]
        simp [lastMember?, member?, List.lookup_cons, beq_eq_false_iff_ne.2 h]

/-- An object has its members in the order of their names. -/
theorem isSorted_keptMembers (members : Members) : IsSorted (keptMembers members) := by
  induction members using List.reverseRecOn with
  | nil => exact List.Pairwise.nil
  | append_singleton members last ih =>
      rw [keptMembers, List.foldl_append]
      exact isSorted_putMember last.1 last.2 ih

/-- A member is written with a name and a value. -/
def WritesMember (depth : Nat) (written : List Piece × Tree) (entry : String × Value) : Prop :=
  pieceText written.1 = some entry.1 ∧ written.2.value? depth = some entry.2

/-- The members of an object are those that are written, added to the ones before them. -/
theorem members?_eq_some_iff (depth : Nat) (before : Members) (trees : List (List Piece × Tree))
    (members : Members) :
    Tree.members? depth before trees = some members ↔
      ∃ written, List.Forall₂ (WritesMember depth) trees written ∧
        members = written.foldl (fun kept entry => putMember entry.1 entry.2 kept) before := by
  induction trees generalizing before with
  | nil => simp [Tree.members?, eq_comm]
  | cons tree trees ih =>
      simp only [Tree.members?, Option.bind_eq_bind, Option.bind_eq_some_iff, ih,
        List.forall₂_cons_left_iff]
      constructor
      · rintro ⟨name, hname, value, hvalue, written, hwritten, rfl⟩
        exact ⟨(name, value) :: written, ⟨_, _, ⟨hname, hvalue⟩, hwritten, rfl⟩, rfl⟩
      · rintro ⟨_, ⟨entry, written, hentry, hwritten, rfl⟩, rfl⟩
        exact ⟨entry.1, hentry.1, entry.2, hentry.2, written, hwritten, rfl⟩

/-- A document has an object as its value exactly if it is written as one that keeps these
members. -/
theorem value?_eq_object_iff (depth : Nat) (tree : Tree) (members : Members) :
    tree.value? (depth + 1) = some (.object members) ↔
      ∃ trees, tree = .object trees ∧
        ∃ written, List.Forall₂ (WritesMember depth) trees written ∧
          members = keptMembers written := by
  cases tree with
  | object trees => simp [Tree.value?, members?_eq_some_iff, keptMembers]
  | null => simp [Tree.value?]
  | boolean value => simp [Tree.value?]
  | number numeral => simp [Tree.value?]
  | string pieces => simp [Tree.value?]
  | array items => simp [Tree.value?]

/-- The text is exactly that of an object in which these members are written in this order, with
names that are text and values within the limits. -/
def HoldsObject (text : String) (written : Members) : Prop :=
  ∃ trees, (Tree.object trees).WrittenAs (Bytes.ofText text) ∧
    List.Forall₂ (WritesMember (greatestDepth - 1)) trees written

/-- The compact text of an object, whatever the order of its members, is that of an object with
these members. -/
theorem holdsObject_text {written : Members}
    (h : ∀ entry ∈ written, entry.2.ReadsBack (greatestDepth - 1)) :
    HoldsObject (Value.object written).text written := by
  obtain ⟨read, rfl, hvalues⟩ := exists_readMembers h
  refine ⟨_, (read_eq_some_iff _ _).1 (read_of_readsAs (Value.object_readsAs read)), ?_⟩
  rw [List.forall₂_map_left_iff, List.forall₂_map_right_iff, List.forall₂_same]
  exact fun member hmem => ⟨pieceText_textPieces member.name, hvalues member hmem⟩

/-- A text is read as an object exactly if it is the text of one that keeps these members. -/
theorem readText_eq_object_iff (text : String) (members : Members) :
    readText text = .ok (.object members) ↔
      ∃ written, HoldsObject text written ∧ members = keptMembers written := by
  rw [readText_eq_ok_iff]
  constructor
  · rintro ⟨tree, hwritten, hvalue⟩
    obtain ⟨trees, rfl, written, hmembers, rfl⟩ :=
      (value?_eq_object_iff (greatestDepth - 1) tree members).1 hvalue
    exact ⟨written, ⟨trees, hwritten, hmembers⟩, rfl⟩
  · rintro ⟨written, ⟨trees, hwritten, hmembers⟩, rfl⟩
    exact ⟨_, hwritten, (value?_eq_object_iff (greatestDepth - 1) _ _).2
      ⟨trees, rfl, written, hmembers, rfl⟩⟩

/-- The text of an object is not that of an array. -/
theorem HoldsObject.not_holdsArray {text : String} {written : Members}
    (h : HoldsObject text written) {items : List Value} : ¬ HoldsArray text items := by
  intro hitems
  have hread := (readText_eq_object_iff text _).2 ⟨written, h, rfl⟩
  rw [(readText_eq_array_iff text items).2 hitems] at hread
  cases hread

end CloudCredentials.Json
