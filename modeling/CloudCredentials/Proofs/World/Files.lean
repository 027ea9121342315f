import CloudCredentials.World.FileSystem

/-!
# What making and removing a file changes

`contents?` is what a path shows of the files. A file that is made is shown at its path,
`contents?_create_self`, and where one has been removed nothing is shown, `contents?_removeFile_self`.
What a path to another place shows stays the same. The place of a temporary file bears its number,
`madeTemporary_of_makeTemporary`, so that two temporary files never have one place.
-/

namespace CloudCredentials.FileSystem

/-- The contents of the file at a path, if there is a file. -/
def contents? (files : FileSystem) (path : String) : Option Bytes :=
  (files.read path).toOption

/-- The character that no path and no value of a variable may hold is looked for by its number. -/
theorem any_nul_iff (text : String) :
    text.toList.any (·.toNat == 0) = true ↔ '\x00' ∈ text.toList := by
  rw [List.any_eq_true]
  constructor
  · rintro ⟨character, hmem, hzero⟩
    have hnul : character = '\x00' := Char.toNat_inj.1 (beq_iff_eq.1 hzero)
    exact hnul ▸ hmem
  · exact fun hmem => ⟨'\x00', hmem, rfl⟩

/-- A path that leads anywhere does not hold the character that none may hold. -/
theorem nul_not_mem_of_pathFault {path : String} (h : pathFault? path = none) :
    '\x00' ∉ path.toList := by
  rw [← any_nul_iff]
  intro hany
  rw [pathFault?, if_pos hany] at h
  cases h

/-! ## Nodes -/

/-- Nothing stands where something has been erased. -/
@[simp] theorem node?_erase_self (files : FileSystem) (place : Place) :
    (files.erase place).node? place = none := by
  simp only [erase, node?, List.lookup_eq_none_iff, List.mem_filter, bne_iff_ne]
  rintro ⟨present, node⟩ ⟨_, hne⟩
  exact hne.symm

/-- Erasing leaves the other places alone. -/
theorem node?_erase_of_ne (files : FileSystem) {place other : Place} (h : other ≠ place) :
    (files.erase place).node? other = files.node? other := by
  obtain ⟨nodes, workingDirectory, temporaryCount⟩ := files
  simp only [erase, node?]
  induction nodes with
  | nil => rfl
  | cons entry nodes ih =>
      obtain ⟨present, node⟩ := entry
      by_cases hpresent : present = place
      · have hother : (other == present) = false := beq_eq_false_iff_ne.2 fun heq =>
          h (heq.trans hpresent)
        simpa [hpresent, List.lookup_cons, hpresent ▸ hother] using ih
      · by_cases hother : other = present
        · simp [hpresent, hother]
        · simpa [hpresent, List.lookup_cons, beq_eq_false_iff_ne.2 hother] using ih

/-- Putting a node at a place leaves the other places alone. -/
theorem node?_put_of_ne (files : FileSystem) {place other : Place} (node : Node)
    (h : other ≠ place) : (files.put place node).node? other = files.node? other := by
  have hcons : (files.put place node).node? other = (files.erase place).node? other := by
    simp [put, node?, List.lookup_cons, beq_eq_false_iff_ne.2 h]
  rw [hcons, node?_erase_of_ne files h]

/-! ## Following a path -/

/-- A name can be entered at a place: it stays there, goes up, or names what stands below. -/
def Enters (files : FileSystem) (place : Place) (name : String) : Prop :=
  name = "" ∨ name = "." ∨ name = ".." ∨
    (name.utf8ByteSize ≤ greatestNameLength ∧ files.node? (place ++ [name]) ≠ none)

/-- A path is followed from directory to directory. -/
theorem walk_cons_eq_ok_iff (files : FileSystem) (place found : Place) (name : String)
    (names : List String) :
    files.walk place (name :: names) = .ok found ↔
      files.node? place = some .directory ∧ files.Enters place name ∧
        files.walk (follow place name) names = .ok found := by
  rw [walk, Enters, follow]
  cases hnode : files.node? place with
  | none => simp
  | some node =>
      cases node with
      | file contents => simp
      | directory =>
          by_cases hhere : name = "" ∨ name = "."
          · rcases hhere with rfl | rfl <;> simp
          · by_cases hup : name = ".."
            · simp [hup]
            · simp only [not_or] at hhere
              by_cases hlong : greatestNameLength < name.utf8ByteSize
              · simp [hhere, hup, hlong, Nat.not_le_of_lt hlong]
              · cases files.node? (place ++ [name]) <;>
                  simp [hhere, hup, hlong, Nat.le_of_not_lt hlong]

/-- A path in two parts is followed part by part. -/
theorem walk_append (files : FileSystem) (place found : Place) (first second : List String) :
    files.walk place (first ++ second) = .ok found ↔
      ∃ between, files.walk place first = .ok between ∧ files.walk between second = .ok found := by
  induction first generalizing place with
  | nil => simp [walk]
  | cons name first ih =>
      simp only [List.cons_append, walk_cons_eq_ok_iff, ih]
      constructor
      · rintro ⟨hnode, henters, between, hfirst, hsecond⟩
        exact ⟨between, ⟨hnode, henters, hfirst⟩, hsecond⟩
      · rintro ⟨between, ⟨hnode, henters, hfirst⟩, hsecond⟩
        exact ⟨hnode, henters, between, hfirst, hsecond⟩

/-- A path that can be followed leads to the place that its parts tell. -/
theorem foldl_follow_of_walk {files : FileSystem} {place found : Place} {names : List String}
    (h : files.walk place names = .ok found) : names.foldl follow place = found := by
  induction names generalizing place with
  | nil =>
      cases h
      rfl
  | cons name names ih =>
      rw [walk_cons_eq_ok_iff] at h
      exact ih h.2.2

/-- A new file is in nobody's way: paths to other places can be followed as before. -/
theorem walk_put_file_iff {files : FileSystem} {new : Place} (contents : Bytes)
    (hfree : files.node? new = none) {place : Place} {names : List String}
    (hother : names.foldl follow place ≠ new) (found : Place) :
    (files.put new (.file contents)).walk place names = .ok found ↔
      files.walk place names = .ok found := by
  induction names generalizing place with
  | nil => rfl
  | cons name names ih =>
      have hnode : ∀ other, (files.put new (.file contents)).node? other = some .directory ↔
          files.node? other = some .directory := by
        intro other
        by_cases h : other = new
        · simp [h, hfree]
        · rw [node?_put_of_ne files _ h]
      rw [walk_cons_eq_ok_iff, walk_cons_eq_ok_iff, ih hother, hnode]
      -- What is entered was there before, unless it is the new file, which nothing is below.
      have henters : files.walk (follow place name) names = .ok found →
          ((files.put new (.file contents)).Enters place name ↔ files.Enters place name) := by
        intro hrest
        by_cases hnew : place ++ [name] = new
        · by_cases hplain : name = "" ∨ name = "." ∨ name = ".."
          · rcases hplain with h | h | h <;> simp [Enters, h]
          · simp only [not_or] at hplain
            have hfollow : follow place name = new := by simp [follow, hplain, hnew]
            cases names with
            | nil => exact absurd hfollow hother
            | cons second names =>
                rw [hfollow, walk_cons_eq_ok_iff, hfree] at hrest
                cases hrest.1
        · simp only [Enters, node?_put_of_ne files _ hnew]
      constructor
      · rintro ⟨hplace, hput, hrest⟩
        exact ⟨hplace, (henters hrest).1 hput, hrest⟩
      · rintro ⟨hplace, hput, hrest⟩
        exact ⟨hplace, (henters hrest).2 hput, hrest⟩

/-- Following a path depends on the nodes alone. -/
theorem walk_congr {files others : FileSystem} (h : files.node? = others.node?) (place : Place)
    (names : List String) : files.walk place names = others.walk place names := by
  induction names generalizing place with
  | nil => rfl
  | cons name names ih => simp only [walk, h, ih]

/-! ## Contents -/

/-- A path shows the contents of a file if it leads to the file. -/
theorem contents?_eq_some_iff (files : FileSystem) (path : String) (contents : Bytes) :
    files.contents? path = some contents ↔
      pathFault? path = none ∧
        files.walk (files.start path) (parts path) = .ok (files.placeOf path) ∧
        files.node? (files.placeOf path) = some (.file contents) := by
  rw [contents?, read, locate]
  cases pathFault? path with
  | some fault => simp [Except.toOption]
  | none =>
      cases hwalk : files.walk (files.start path) (parts path) with
      | error fault => simp [Except.toOption]
      | ok place =>
          have hplace : files.placeOf path = place := foldl_follow_of_walk hwalk
          rw [hplace]
          simp only [true_and]
          cases files.node? place with
          | none => simp [Except.toOption]
          | some node => cases node <;> simp [Except.toOption]

/-- What a path shows depends on the nodes and on where relative paths start. -/
theorem contents?_congr {files others : FileSystem} (h : files.node? = others.node?)
    (hstart : files.workingDirectory = others.workingDirectory) (path : String) :
    files.contents? path = others.contents? path := by
  have hstart' : files.start path = others.start path := by simp [start, hstart]
  have hplace : files.placeOf path = others.placeOf path := by simp [placeOf, hstart']
  ext contents
  rw [contents?_eq_some_iff, contents?_eq_some_iff, walk_congr h, h, hstart', hplace]

/-- A new file changes nothing that a path to another place shows. -/
theorem contents?_put_file {files : FileSystem} {new : Place} (contents : Bytes)
    (hfree : files.node? new = none) {path : String} (hother : files.placeOf path ≠ new) :
    (files.put new (.file contents)).contents? path = files.contents? path := by
  ext shown
  rw [contents?_eq_some_iff, contents?_eq_some_iff]
  show _ ∧ (files.put new (.file contents)).walk (files.start path) _ = .ok (files.placeOf path) ∧
    (files.put new (.file contents)).node? (files.placeOf path) = _ ↔ _
  rw [walk_put_file_iff contents hfree hother, node?_put_of_ne files _ hother]

/-! ## Making a file -/

/-- The parts of a path are those before its last part, and that part. -/
theorem parts_eq (path : String) :
    parts path = (parts path).dropLast ++ [(parts path).getLastD ""] := by
  have hne : parts path ≠ [] := by simp [parts, Text.separate_ne_nil]
  rw [List.getLastD_eq_getLast?, List.getLast?_eq_some_getLast hne]
  exact (List.dropLast_concat_getLast hne).symm

/-- The last part of a path. -/
def lastPart (path : String) : String :=
  (parts path).getLastD ""

/-- A path leads where its last part leads from the directory before. -/
theorem placeOf_eq_follow {files : FileSystem} {path : String} {directory : Place}
    (h : files.walk (files.start path) (parts path).dropLast = .ok directory) :
    files.placeOf path = follow directory (lastPart path) := by
  rw [placeOf, parts_eq path, List.foldl_append, foldl_follow_of_walk h]
  rfl

/-- `Makes files path contents directory` says that there is a directory for the file at a path and
no file yet, and that the file may have its name. -/
structure Makes (files : FileSystem) (path : String) (directory : Place) : Prop where
  fault_eq : pathFault? path = none
  walk_eq : files.walk (files.start path) (parts path).dropLast = .ok directory
  directory_eq : files.node? directory = some .directory
  free : files.node? (files.placeOf path) = none
  length_le : (lastPart path).utf8ByteSize ≤ greatestNameLength

/-- A file is made where there is a directory for it. -/
theorem makes_of_create {files made : FileSystem} {path : String} {contents : Bytes}
    (h : files.create path contents = .ok made) :
    (∃ directory, files.Makes path directory) ∧
      made = files.put (files.placeOf path) (.file contents) := by
  unfold create at h
  cases hfault : pathFault? path with
  | some fault => simp [hfault] at h
  | none =>
      cases hwalk : files.walk (files.start path) (parts path).dropLast with
      | error fault => simp [hfault, hwalk] at h
      | ok directory =>
          simp only [hfault, hwalk] at h
          rw [← lastPart, ← placeOf_eq_follow hwalk] at h
          split at h
          · cases h
          · cases h
          · next hdirectory =>
              split at h
              · cases h
              · next hfree =>
                  split at h
                  · cases h
                  · next hlength =>
                      cases h
                      exact ⟨⟨directory, hfault, hwalk, hdirectory, by simpa using hfree,
                        Nat.le_of_not_lt hlength⟩, rfl⟩

/-- A path leads to the file that is put where there was a directory for it. -/
theorem Makes.walk_put {files : FileSystem} {path : String} {directory : Place}
    (h : files.Makes path directory) (contents : Bytes) :
    (files.put (files.placeOf path) (.file contents)).walk (files.start path) (parts path) =
      .ok (files.placeOf path) := by
  have hplace := placeOf_eq_follow h.walk_eq
  have hne : directory ≠ files.placeOf path := by
    intro heq
    have hfree := h.free
    rw [← heq, h.directory_eq] at hfree
    cases hfree
  have hother : (parts path).dropLast.foldl follow (files.start path) ≠ files.placeOf path := by
    rwa [foldl_follow_of_walk h.walk_eq]
  rw [parts_eq path, ← lastPart, walk_append]
  refine ⟨directory, (walk_put_file_iff contents h.free hother directory).2 h.walk_eq, ?_⟩
  rw [walk_cons_eq_ok_iff, node?_put_of_ne files _ hne]
  refine ⟨h.directory_eq, ?_, by rw [← hplace]; rfl⟩
  by_cases hplain : lastPart path = "" ∨ lastPart path = "." ∨ lastPart path = ".."
  · rcases hplain with h | h | h <;> simp [Enters, h]
  · simp only [not_or] at hplain
    have hbelow : files.placeOf path = directory ++ [lastPart path] := by
      rw [hplace]
      simp [follow, hplain]
    refine .inr (.inr (.inr ⟨h.length_le, ?_⟩))
    rw [← hbelow, node?_put_self]
    simp

/-- A file that has been made is shown at its path. -/
theorem contents?_create_self {files made : FileSystem} {path : String} {contents : Bytes}
    (h : files.create path contents = .ok made) : made.contents? path = some contents := by
  obtain ⟨⟨directory, hmakes⟩, rfl⟩ := makes_of_create h
  rw [contents?_eq_some_iff]
  exact ⟨hmakes.fault_eq, hmakes.walk_put contents, node?_put_self files _ _⟩

/-- Making a file changes nothing that a path to another place shows. -/
theorem contents?_create_of_ne {files made : FileSystem} {path other : String} {contents : Bytes}
    (h : files.create path contents = .ok made) (hne : files.placeOf other ≠ files.placeOf path) :
    made.contents? other = files.contents? other := by
  obtain ⟨⟨directory, hmakes⟩, rfl⟩ := makes_of_create h
  exact contents?_put_file contents hmakes.free hne

/-! ## Removing a file -/

/-- Where a path shows a file, that file is removed; where it shows none, nothing is. -/
theorem removeFile_eq (files : FileSystem) (path : String) :
    files.removeFile path =
      if (files.contents? path).isSome then files.erase (files.placeOf path) else files := by
  rw [removeFile, contents?, read]
  cases hlocate : files.locate path with
  | error fault => simp [Except.toOption]
  | ok place =>
      have hplace : files.placeOf path = place := by
        rw [locate] at hlocate
        split at hlocate
        · cases hlocate
        · exact foldl_follow_of_walk hlocate
      simp only [hplace]
      cases files.node? place with
      | none => simp [Except.toOption]
      | some node => cases node <;> simp [Except.toOption]

/-- A path to a place where something has been erased shows nothing. -/
theorem contents?_erase_self {files : FileSystem} {place : Place} {path : String}
    (h : files.placeOf path = place) : (files.erase place).contents? path = none := by
  rw [Option.eq_none_iff_forall_ne_some]
  intro contents hcontents
  have hnode := ((contents?_eq_some_iff _ _ _).1 hcontents).2.2
  change (files.erase place).node? (files.placeOf path) = _ at hnode
  rw [h, node?_erase_self] at hnode
  cases hnode

/-- No file is shown where one has been removed. -/
@[simp] theorem contents?_removeFile_self (files : FileSystem) (path : String) :
    (files.removeFile path).contents? path = none := by
  rw [removeFile_eq]
  split
  · exact contents?_erase_self rfl
  · next hnone => simpa using hnone

/-- Removing a file changes nothing that a path to another place shows. -/
theorem contents?_removeFile_of_ne (files : FileSystem) {path other : String}
    (hne : files.placeOf other ≠ files.placeOf path) :
    (files.removeFile path).contents? other = files.contents? other := by
  rw [removeFile_eq]
  split
  · next hsome =>
      -- With the file put back, the files are those from before.
      obtain ⟨contents, hcontents⟩ := Option.isSome_iff_exists.1 hsome
      have hnode := ((contents?_eq_some_iff _ _ _).1 hcontents).2.2
      generalize files.placeOf path = place at hne hnode ⊢
      have hback : ((files.erase place).put place (.file contents)).node? = files.node? := by
        funext here
        by_cases h : here = place
        · rw [h, node?_put_self, hnode]
        · rw [node?_put_of_ne _ _ h, node?_erase_of_ne files h]
      rw [← contents?_put_file contents (node?_erase_self files place) hne]
      exact contents?_congr hback rfl other
  · rfl

/-- Where nothing is shown, removing a file shows nothing. -/
theorem contents?_removeFile_eq_none {files : FileSystem} {other : String}
    (h : files.contents? other = none) (path : String) :
    (files.removeFile path).contents? other = none := by
  by_cases hplace : files.placeOf other = files.placeOf path
  · rw [removeFile_eq]
    split
    · exact contents?_erase_self hplace
    · exact h
  · rw [contents?_removeFile_of_ne files hplace, h]

/-- Removing a file leaves the numbers of temporary files alone. -/
@[simp] theorem temporaryCount_removeFile (files : FileSystem) (path : String) :
    (files.removeFile path).temporaryCount = files.temporaryCount := by
  rw [removeFile_eq]
  split <;> rfl

/-! ## Temporary files -/

/-- The digits in the name of a temporary file. -/
def nameDigits (number : Nat) : List Char :=
  let digits := Nat.toDigits 10 number
  List.replicate (temporaryDigits - digits.length) '0' ++ digits

/-- The digits in a name denote the number. -/
theorem ofDigitChars_nameDigits (number : Nat) :
    Nat.ofDigitChars 10 (nameDigits number) 0 = number := by
  have hzeros : ∀ (count : Nat) (digits : List Char),
      Nat.ofDigitChars 10 (List.replicate count '0' ++ digits) 0 =
        Nat.ofDigitChars 10 digits 0 := by
    intro count digits
    induction count with
    | zero => rfl
    | succ count ih =>
        rw [List.replicate_succ, List.cons_append, Nat.ofDigitChars_cons]
        exact ih
  rw [nameDigits, hzeros, Nat.ofDigitChars_ten_toDigits]

/-- No two temporary files have one name. -/
theorem temporaryName_injective : Function.Injective temporaryName := by
  intro number other h
  have hdigits : nameDigits number = nameDigits other := by
    have hlists := congrArg String.toList h
    simpa [temporaryName, nameDigits] using hlists
  rw [← ofDigitChars_nameDigits number, hdigits, ofDigitChars_nameDigits]

/-- The name of a temporary file is one part of a path. -/
theorem not_mem_temporaryName (number : Nat) : '/' ∉ (temporaryName number).toList := by
  have hdigit : ∀ digit ∈ nameDigits number, digit.isDigit = true := by
    intro digit hmem
    rcases List.mem_append.1 hmem with hzero | hdigits
    · rw [(List.mem_replicate.1 hzero).2]
      rfl
    · exact Nat.isDigit_of_mem_toDigits (by decide) (by decide) hdigits
  intro hmem
  have hname : (temporaryName number).toList = temporaryMark.toList ++ nameDigits number := by
    simp [temporaryName, nameDigits]
  rw [hname, List.mem_append] at hmem
  rcases hmem with hmark | hdigits
  · exact absurd hmark (by decide)
  · cases hdigit _ hdigits

/-- The name of a temporary file names what stands below a directory. -/
theorem follow_temporaryName (place : Place) (number : Nat) :
    follow place (temporaryName number) = place ++ [temporaryName number] := by
  have hlist : (temporaryName number).toList = '.' :: 't' :: 'm' :: 'p' :: nameDigits number := by
    simp [temporaryName, nameDigits, temporaryMark]
  have hne : ∀ name : String, name.toList.length < 4 → temporaryName number ≠ name := by
    intro name hlength heq
    rw [← heq, hlist] at hlength
    simp only [List.length_cons] at hlength
    omega
  rw [follow, if_neg, if_neg (hne ".." (by decide))]
  rintro (h | h)
  · exact hne "" (by decide) h
  · exact hne "." (by decide) h

/-- A name without slashes is the last part of a path that ends with it. -/
theorem parts_append (directory name : String) (h : '/' ∉ name.toList) :
    parts (directory ++ "/" ++ name) = parts directory ++ [name] := by
  have hname : Text.separate (· == '/') (name.toList ++ []) = [name.toList ++ []] := by
    refine Text.separate_append (· == '/') name.toList [] (fun item hitem => ?_) [] [] rfl
    exact beq_eq_false_iff_ne.2 fun heq => h (heq ▸ hitem)
  have hlist : (directory ++ "/" ++ name).toList = directory.toList ++ '/' :: name.toList := by
    simp
  rw [List.append_nil] at hname
  rw [parts, parts, hlist, Text.separate_append_separator _ _ _ (by decide), hname]
  simp

/-- `IsTemporaryPath path number` says that the path leads to the temporary file with the number,
in whatever files. -/
def IsTemporaryPath (path : String) (number : Nat) : Prop :=
  ∃ directory : Place, ∀ files : FileSystem,
    files.placeOf path = directory ++ [temporaryName number]

/-- Paths of temporary files with different numbers lead to different places. -/
theorem placeOf_ne_of_number_ne {path other : String} {number otherNumber : Nat}
    (h : IsTemporaryPath path number) (hother : IsTemporaryPath other otherNumber)
    (hne : number ≠ otherNumber) (files : FileSystem) : files.placeOf path ≠ files.placeOf other := by
  obtain ⟨directory, hplace⟩ := h
  obtain ⟨otherDirectory, hotherPlace⟩ := hother
  rw [hplace, hotherPlace]
  intro heq
  have hname := (List.append_inj' heq rfl).2
  exact hne (temporaryName_injective (List.singleton_inj.1 hname))

/-- The path begins with a slash. -/
def IsAbsolute (path : String) : Prop :=
  (Text.after? ['/'] path.toList).isSome = true

/-- A path begins with a slash if its first character is one. -/
theorem isAbsolute_iff (path : String) : IsAbsolute path ↔ ∃ rest, path.toList = '/' :: rest := by
  simp [IsAbsolute, Option.isSome_iff_exists, Text.after?_eq_some_iff]

/-- More behind a path that begins with a slash leaves it beginning with one. -/
theorem IsAbsolute.append {path : String} (h : IsAbsolute path) (more : String) :
    IsAbsolute (path ++ more) := by
  obtain ⟨rest, hrest⟩ := (isAbsolute_iff path).1 h
  exact (isAbsolute_iff _).2 ⟨rest ++ more.toList, by rw [String.toList_append, hrest]; rfl⟩

/-- The path from the root is empty, for the root itself, or begins with a slash. -/
theorem absolutePath_eq_or (files : FileSystem) (path : String) :
    files.absolutePath path = "" ∨ IsAbsolute (files.absolutePath path) := by
  have hslash : ∀ name : String, IsAbsolute ("/" ++ name) := fun name =>
    (isAbsolute_iff _).2 ⟨name.toList, String.toList_append⟩
  rw [absolutePath]
  split
  · next habsolute => exact .inr habsolute
  · cases files.workingDirectory with
    | nil =>
        by_cases hempty : path = ""
        · exact .inl (by simp [hempty])
        · refine .inr ?_
          simpa [hempty] using hslash path
    | cons name names =>
        refine .inr ?_
        rw [List.map_cons, String.join_cons]
        exact ((hslash name).append _).append _

/-- The path of what is inside a directory goes through a slash, and begins with one if the
directory is empty or begins with one. -/
theorem pathInside_eq {directory : String} (h : directory = "" ∨ IsAbsolute directory)
    (name : String) :
    ∃ stem, pathInside directory name = stem ++ "/" ++ name ∧
      IsAbsolute (pathInside directory name) := by
  rw [pathInside]
  cases hends : Text.endsWith directory "/" with
  | true =>
      obtain ⟨stem, rfl⟩ := (Text.endsWith_iff directory "/").1 hends
      have hne : stem ++ "/" ≠ "" := fun hempty => by simpa using congrArg String.toList hempty
      exact ⟨stem, rfl, (h.resolve_left hne).append name⟩
  | false =>
      refine ⟨directory, rfl, ?_⟩
      rcases h with rfl | habsolute
      · exact (isAbsolute_iff _).2 ⟨name.toList, String.toList_append⟩
      · exact (habsolute.append "/").append name

/-- The path of the next temporary file leads to the file with the next number. -/
theorem isTemporaryPath_temporaryPath (files : FileSystem) (directory : String) :
    IsTemporaryPath (files.temporaryPath directory) files.temporaryCount := by
  obtain ⟨stem, hpath, habsolute⟩ := pathInside_eq (files.absolutePath_eq_or directory)
    (temporaryName files.temporaryCount)
  refine ⟨(parts stem).foldl follow [], fun others => ?_⟩
  have hstart : others.start (files.temporaryPath directory) = [] := if_pos habsolute
  rw [placeOf, hstart, temporaryPath, hpath, parts_append _ _ (not_mem_temporaryName _),
    List.foldl_append]
  exact follow_temporaryName _ _

/-- `MadeTemporary files contents path made` says that a temporary file with the contents has been
made at the path, with a number that no temporary file had. -/
def MadeTemporary (files : FileSystem) (contents : Bytes) (path : String) (made : FileSystem) :
    Prop :=
  ∃ number, files.temporaryCount ≤ number ∧ IsTemporaryPath path number ∧
    { files with temporaryCount := number + 1 }.create path contents = .ok made

/-- A temporary file that has been made is shown at its path. -/
theorem MadeTemporary.contents?_self {files made : FileSystem} {contents : Bytes} {path : String}
    (h : files.MadeTemporary contents path made) : made.contents? path = some contents := by
  obtain ⟨number, _, _, hcreate⟩ := h
  exact contents?_create_self hcreate

/-- The path of a temporary file does not hold the character that none may hold. -/
theorem MadeTemporary.nul_not_mem {files made : FileSystem} {contents : Bytes} {path : String}
    (h : files.MadeTemporary contents path made) : '\x00' ∉ path.toList := by
  obtain ⟨number, _, _, hcreate⟩ := h
  obtain ⟨⟨directory, hmakes⟩, _⟩ := makes_of_create hcreate
  exact nul_not_mem_of_pathFault hmakes.fault_eq

/-- The number of a temporary file is used up when the file has been made. -/
theorem MadeTemporary.exists_number {files made : FileSystem} {contents : Bytes} {path : String}
    (h : files.MadeTemporary contents path made) :
    ∃ number, files.temporaryCount ≤ number ∧ IsTemporaryPath path number ∧
      made.temporaryCount = number + 1 := by
  obtain ⟨number, hle, hpath, hcreate⟩ := h
  obtain ⟨_, rfl⟩ := makes_of_create hcreate
  exact ⟨number, hle, hpath, rfl⟩

/-- Making a temporary file changes nothing that the path of an earlier one shows. -/
theorem MadeTemporary.contents?_of_lt {files made : FileSystem} {contents : Bytes}
    {path other : String} {number : Nat} (h : files.MadeTemporary contents path made)
    (hother : IsTemporaryPath other number) (hlt : number < files.temporaryCount) :
    made.contents? other = files.contents? other := by
  obtain ⟨new, hle, hpath, hcreate⟩ := h
  have hne := placeOf_ne_of_number_ne hother hpath (by omega)
  rw [contents?_create_of_ne hcreate (hne _)]
  exact contents?_congr (by rfl) (by rfl) other

/-- Names that are taken are passed over until a file is made. -/
theorem madeTemporary_of_makeTemporaryWithin {tries : Nat} {files made : FileSystem}
    {directory path : String} {contents : Bytes}
    (h : files.makeTemporaryWithin tries directory contents = .ok (path, made)) :
    files.MadeTemporary contents path made := by
  induction tries generalizing files with
  | zero =>
      rw [makeTemporaryWithin] at h
      cases h
  | succ tries ih =>
      rw [makeTemporaryWithin] at h
      generalize hcreate :
        files.passName.create (files.temporaryPath directory) contents = outcome at h
      unfold afterTry at h
      split at h
      · cases h
        exact ⟨files.temporaryCount, Nat.le_refl _, isTemporaryPath_temporaryPath _ _, hcreate⟩
      · obtain ⟨number, hle, hpath, hmade⟩ := ih h
        exact ⟨number, Nat.le_of_succ_le hle, hpath, hmade⟩
      · cases h

/-- A temporary file that is made has a number of its own. -/
theorem madeTemporary_of_makeTemporary {files made : FileSystem} {directory path : String}
    {contents : Bytes} (h : files.makeTemporary directory contents = .ok (path, made)) :
    files.MadeTemporary contents path made :=
  madeTemporary_of_makeTemporaryWithin h

end CloudCredentials.FileSystem
