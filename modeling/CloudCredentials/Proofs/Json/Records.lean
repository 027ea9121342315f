import CloudCredentials.Proofs.Json.Grammar

/-!
# Documents read as records of one field

A record with one field is an object that has the field once or not at all among any other members,
or an array of one item or none. `Tree.Holds` says what such a document holds in the field, and
`readRecord_eq_ok_iff` that exactly the texts of such documents are read as records.
-/

namespace CloudCredentials.Json

/-- The member has a name that is text, and another one than the field. -/
def IsOther (field : String) (member : List Piece × Tree) : Prop :=
  ∃ name, pieceText member.1 = some name ∧ name ≠ field

/-- `Tree.Holds field tree found` says what a document holds in the only field of a record. The
values of other members may be anything. -/
inductive Tree.Holds (field : String) : Tree → Option Tree → Prop where
  | member (before after : List (List Piece × Tree)) (name : List Piece) (value : Tree)
      (hname : pieceText name = some field) (hbefore : ∀ other ∈ before, IsOther field other)
      (hafter : ∀ other ∈ after, IsOther field other) :
      Holds field (.object (before ++ (name, value) :: after)) (some value)
  | noMember (members : List (List Piece × Tree)) (h : ∀ other ∈ members, IsOther field other) :
      Holds field (.object members) none
  | item (value : Tree) : Holds field (.array [value]) (some value)
  | noItem : Holds field (.array []) none

/-- The member under its name as a text. -/
def named? (member : List Piece × Tree) : Option (String × Tree) :=
  (pieceText member.1).map (·, member.2)

/-- Members are named if the name of each of them is text. -/
theorem mapM_named?_eq_some_iff (members : List (List Piece × Tree))
    (named : List (String × Tree)) :
    members.mapM named? = some named ↔
      members.map (fun member => (pieceText member.1, member.2)) =
        named.map fun member => (some member.1, member.2) := by
  induction members generalizing named with
  | nil => cases named <;> simp
  | cons member members ih =>
      simp only [List.mapM_cons, Option.bind_eq_bind, Option.bind_eq_some_iff, Option.pure_def,
        Option.some.injEq, named?, Option.map_eq_some_iff, List.map_cons]
      constructor
      · rintro ⟨_, ⟨name, hname, rfl⟩, more, hmore, rfl⟩
        rw [List.map_cons, ← (ih more).1 hmore, hname]
      · intro h
        obtain ⟨first, more, rfl, hfirst, hmore⟩ := List.map_eq_cons_iff.1 h.symm
        obtain ⟨hname, hvalue⟩ := Prod.mk.inj hfirst
        exact ⟨first, ⟨first.1, hname.symm, Prod.ext rfl hvalue.symm⟩, more,
          (ih more).2 hmore.symm, rfl⟩

/-- Members are others if none of their names is that of the field. -/
theorem isOther_of_named {field : String} {members : List (List Piece × Tree)}
    {named : List (String × Tree)}
    (h : members.map (fun member => (pieceText member.1, member.2)) =
      named.map fun member => (some member.1, member.2))
    (hothers : ∀ other ∈ named, other.1 ≠ field) : ∀ other ∈ members, IsOther field other := by
  intro other hother
  have hmem : (pieceText other.1, other.2) ∈
      named.map fun member => (some member.1, member.2) := h ▸ List.mem_map_of_mem hother
  obtain ⟨found, hfound, heq⟩ := List.mem_map.1 hmem
  exact ⟨found.1, (Prod.mk.inj heq).1.symm, hothers found hfound⟩

/-- Other members are named, and none of them is named like the field. -/
theorem exists_named_of_isOther {field : String} {members : List (List Piece × Tree)}
    (h : ∀ other ∈ members, IsOther field other) :
    ∃ named : List (String × Tree),
      members.map (fun member => (pieceText member.1, member.2)) =
        named.map (fun member => (some member.1, member.2)) ∧
      named.filter (·.1 == field) = [] := by
  induction members with
  | nil => exact ⟨[], rfl, rfl⟩
  | cons member members ih =>
      obtain ⟨hmember, hmembers⟩ := List.forall_mem_cons.1 h
      obtain ⟨name, hname, hne⟩ := hmember
      obtain ⟨named, hnamed, hfilter⟩ := ih hmembers
      refine ⟨(name, member.2) :: named, ?_, ?_⟩
      · rw [List.map_cons, List.map_cons, hname, hnamed]
      · rw [List.filter_cons_of_neg (by simpa using hne), hfilter]

/-- An object holds in a field the value of the only member that is named like the field. -/
theorem holds_of_filter_eq {field name : String} {value : Tree}
    {members : List (List Piece × Tree)} {named : List (String × Tree)}
    (h : members.map (fun member => (pieceText member.1, member.2)) =
      named.map fun member => (some member.1, member.2))
    (hone : named.filter (·.1 == field) = [(name, value)]) :
    (Tree.object members).Holds field (some value) := by
  obtain ⟨first, last, rfl, hfirst, hname, hlast⟩ := List.filter_eq_cons_iff.1 hone
  rw [List.filter_eq_nil_iff] at hlast
  simp only [beq_iff_eq] at hfirst hname hlast
  subst hname
  -- The members fall into the same three parts as their named forms.
  rw [List.map_append, List.map_cons, List.map_eq_append_iff] at h
  obtain ⟨before, rest, rfl, hbefore, hrest⟩ := h
  obtain ⟨⟨pieces, found⟩, after, rfl, hfound, hafter⟩ := List.map_eq_cons_iff.1 hrest
  obtain ⟨hname, rfl⟩ := Prod.mk.inj hfound
  exact .member before after pieces found hname (isOther_of_named hbefore hfirst)
    (isOther_of_named hafter hlast)

/-- An array is read as a record of one field if it has one item at most. -/
theorem holds_of_record?_array {field : String} {items : List Tree} {trees : List (Option Tree)}
    (h : (Tree.array items).record? [field] = some trees) :
    ∃ found, trees = [found] ∧ (Tree.array items).Holds field found := by
  rw [Tree.record?] at h
  split at h
  · cases h
  · next hlength =>
      cases items with
      | nil =>
          cases h
          exact ⟨none, rfl, .noItem⟩
      | cons item items =>
          obtain rfl : items = [] := by
            rw [List.length_cons, List.length_cons, List.length_nil] at hlength
            exact List.eq_nil_of_length_eq_zero (by omega)
          cases h
          exact ⟨some item, rfl, .item item⟩

/-- An object is read as a record of one field if it has one member with that name at most. -/
theorem holds_of_record?_object {field : String} {members : List (List Piece × Tree)}
    {trees : List (Option Tree)} (h : (Tree.object members).record? [field] = some trees) :
    ∃ found, trees = [found] ∧ (Tree.object members).Holds field found := by
  obtain ⟨named, hnamed, hfields⟩ := Option.bind_eq_some_iff.1 h
  have hmap := (mapM_named?_eq_some_iff members named).1 hnamed
  simp only [List.mapM_cons, List.mapM_nil, Option.bind_eq_bind, Option.bind_eq_some_iff,
    Option.pure_def, Option.some.injEq] at hfields
  obtain ⟨found, hfound, _, rfl, rfl⟩ := hfields
  refine ⟨found, rfl, ?_⟩
  split at hfound
  · next hnone =>
      cases hfound
      rw [List.filter_eq_nil_iff] at hnone
      exact .noMember members
        (isOther_of_named hmap fun other hother => by simpa using hnone other hother)
  · next hone =>
      cases hfound
      exact holds_of_filter_eq hmap hone
  · cases hfound

/-- A document that holds something in a field, or may lack it, is read as a record. -/
theorem Tree.Holds.record? {field : String} {tree : Tree} {found : Option Tree}
    (h : tree.Holds field found) : tree.record? [field] = some [found] := by
  cases h with
  | member before after name value hname hbefore hafter =>
      obtain ⟨first, hfirst, hnoneBefore⟩ := exists_named_of_isOther hbefore
      obtain ⟨last, hlast, hnoneAfter⟩ := exists_named_of_isOther hafter
      have hnamed : (before ++ (name, value) :: after).mapM named? =
          some (first ++ (field, value) :: last) := by
        rw [mapM_named?_eq_some_iff, List.map_append, List.map_append, List.map_cons,
          List.map_cons, hfirst, hlast, hname]
      have hfilter : (first ++ (field, value) :: last).filter (·.1 == field) =
          [(field, value)] := by
        rw [List.filter_append, hnoneBefore, List.nil_append,
          List.filter_cons_of_pos (by simp), hnoneAfter]
      show Option.bind (List.mapM named? _) _ = _
      rw [hnamed]
      simp [hfilter]
  | noMember members h =>
      obtain ⟨named, hmap, hnone⟩ := exists_named_of_isOther h
      show Option.bind (List.mapM named? _) _ = _
      rw [(mapM_named?_eq_some_iff members named).2 hmap]
      simp [hnone]
  | item value => rfl
  | noItem => rfl

/-- A document is read as a record of one field exactly if it holds something in the field, or may
lack it. -/
theorem record?_eq_some_iff (field : String) (tree : Tree) (trees : List (Option Tree)) :
    tree.record? [field] = some trees ↔ ∃ found, trees = [found] ∧ tree.Holds field found := by
  constructor
  · intro h
    cases tree with
    | object members => exact holds_of_record?_object h
    | array items => exact holds_of_record?_array h
    | null => cases h
    | boolean value => cases h
    | number numeral => cases h
    | string pieces => cases h
  · rintro ⟨found, rfl, h⟩
    exact h.record?

/-- A text is read as a record of one field exactly if it is that of a document that holds something
in the field, or may lack it. -/
theorem readRecord_eq_ok_iff (field : String) (input : Bytes) (trees : List (Option Tree)) :
    readRecord [field] input = .ok trees ↔
      ∃ (tree : Tree) (found : Option Tree),
        tree.WrittenAs input ∧ tree.Holds field found ∧ trees = [found] := by
  rw [readRecord]
  cases hread : Tree.read input with
  | none =>
      simp only [reduceCtorEq, false_iff, not_exists, not_and]
      intro tree _ hwritten
      rw [← read_eq_some_iff, hread] at hwritten
      cases hwritten
  | some tree =>
      have hwritten := (read_eq_some_iff input tree).1 hread
      constructor
      · intro h
        cases hrecord : tree.record? [field] with
        | none => simp [hrecord] at h
        | some read =>
            obtain ⟨found, rfl, hholds⟩ := (record?_eq_some_iff field tree read).1 hrecord
            simp only [hrecord, Except.ok.injEq] at h
            exact ⟨tree, found, hwritten, hholds, h.symm⟩
      · rintro ⟨other, found, hother, hholds, rfl⟩
        obtain rfl := hwritten.unique hother
        simp only [(record?_eq_some_iff field tree _).2 ⟨found, rfl, hholds⟩]

end CloudCredentials.Json
