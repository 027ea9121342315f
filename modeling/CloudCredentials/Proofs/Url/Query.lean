import CloudCredentials.Proofs.Http.Recording
import CloudCredentials.Proofs.Url.Form

/-!
# The query of an address

Reading an address encodes every question mark that does not begin its query. So the query of a
request is what stands behind the first question mark of the address that the network sees, and
`query_of_seen` says that it holds the field that was added and nothing else if the address had no
query of its own.
-/

namespace CloudCredentials.Url

/-- An escaped byte holds no question mark. -/
theorem question_not_mem_percentByte : ∀ byte, '?' ∉ percentByte byte := by
  apply Bytes.forall_of_forall_lt
  decide +kernel

/-- Where question marks are encoded, or there are none, none is left. -/
theorem question_not_mem_percentEncode {isEncoded : Char → Bool} {text : List Char}
    (h : isEncoded '?' = true ∨ '?' ∉ text) : '?' ∉ percentEncode isEncoded text := by
  intro hmem
  obtain ⟨character, hcharacter, hwritten⟩ := List.mem_flatMap.1 hmem
  split at hwritten
  · next hplain =>
      rw [List.mem_singleton] at hwritten
      subst hwritten
      rcases h with hencoded | hfree
      · rw [hencoded] at hplain
        cases hplain
      · exact hfree hcharacter
  · obtain ⟨byte, _, hbyte⟩ := List.mem_flatMap.1 hwritten
    exact question_not_mem_percentByte byte hbyte

/-- The segments of a path hold no question marks. -/
theorem question_not_mem_resolveSegments {done : List (List Char)}
    (h : ∀ segment ∈ done, '?' ∉ segment) (segments : List (List Char)) :
    ∀ segment ∈ resolveSegments done segments, '?' ∉ segment := by
  induction segments generalizing done with
  | nil =>
      intro segment hsegment
      exact h segment (List.mem_reverse.1 hsegment)
  | cons first segments ih =>
      -- A path that ends on a dot segment gets an empty segment in its place.
      have hending : ∀ kept : List (List Char), (∀ segment ∈ kept, '?' ∉ segment) →
          ∀ segment ∈ (if segments.isEmpty then [] :: kept else kept), '?' ∉ segment := by
        intro kept hkept
        split
        · exact List.forall_mem_cons.2 ⟨List.not_mem_nil, hkept⟩
        · exact hkept
      rw [resolveSegments]
      split
      · exact ih (hending _ fun segment hsegment => h segment (List.mem_of_mem_drop hsegment))
      · split
        · exact ih (hending _ h)
        · exact ih (List.forall_mem_cons.2 ⟨question_not_mem_percentEncode (.inl rfl), h⟩)

/-- A path holds no question marks. -/
theorem question_not_mem_absolutePath (isSlash : Char → Bool) (text : List Char) :
    '?' ∉ absolutePath isSlash text := by
  rw [absolutePath, List.mem_cons]
  rintro (hslash | hmem)
  · cases hslash
  · rcases Text.mem_join hmem with hseparator | ⟨segment, hsegment, hcharacter⟩
    · cases List.mem_singleton.1 hseparator
    · have hnone : ∀ segment ∈ ([] : List (List Char)), '?' ∉ segment := by simp
      exact question_not_mem_resolveSegments hnone _ segment hsegment hcharacter

/-- The user and the password of an authority hold no question marks. -/
theorem question_not_mem_takeUserinfo (authority : List Char) :
    '?' ∉ (takeUserinfo authority).1 ∧ '?' ∉ (takeUserinfo authority).2.1 := by
  rw [takeUserinfo]
  extract_lets backwards
  split
  · exact ⟨question_not_mem_percentEncode (.inl rfl), question_not_mem_percentEncode (.inl rfl)⟩
  · exact ⟨List.not_mem_nil, List.not_mem_nil⟩

namespace Address

/-- The address has no query, and no question mark in its user, its password and its path. -/
structure Unqueried (address : Address) : Prop where
  user : '?' ∉ address.user
  password : '?' ∉ address.password
  path : '?' ∉ address.path
  query : address.query = none

/-- The path of an address with an authority holds no question marks: it is written behind a slash,
or it is the one that stands for none. -/
theorem question_not_mem_path {empty : List Char} (h : '?' ∉ empty) (isSlash : Char → Bool)
    (rest : List Char) :
    '?' ∉ match rest with
      | [] => empty
      | _ :: rest => absolutePath isSlash rest := by
  cases rest with
  | nil => exact h
  | cons slash rest => exact question_not_mem_absolutePath isSlash rest

/-- An address with an authority and without a query is unqueried. -/
theorem unqueried_of_withAuthority {scheme : String} {text : List Char}
    {fragment : Option (List Char)} {address : Address}
    (h : withAuthority scheme text none fragment = some address) : address.Unqueried := by
  simp only [withAuthority, Option.bind_eq_bind] at h
  obtain ⟨⟨hostText, port⟩, _, h⟩ := Option.bind_eq_some_iff.1 h
  split at h
  · cases h
  · split at h
    · obtain ⟨host, _, h⟩ := Option.bind_eq_some_iff.1 h
      cases h
      exact ⟨(question_not_mem_takeUserinfo _).1, (question_not_mem_takeUserinfo _).2,
        question_not_mem_path (by decide) _ _, rfl⟩
    · obtain ⟨host, _, h⟩ := Option.bind_eq_some_iff.1 h
      cases h
      exact ⟨(question_not_mem_takeUserinfo _).1, (question_not_mem_takeUserinfo _).2,
        question_not_mem_path List.not_mem_nil _ _, rfl⟩

/-- What is cleaned of a text stands in the text. -/
theorem mem_of_mem_cleaned {text : List Char} {character : Char} (h : character ∈ cleaned text) :
    character ∈ text := by
  rw [cleaned] at h
  have hinner := List.mem_reverse.1 (List.mem_filter.1 h).1
  have hend := (List.dropWhile_sublist _).subset hinner
  exact (List.dropWhile_sublist _).subset (List.mem_reverse.1 hend)

/-- What stands behind a scheme stands in the text. -/
theorem mem_of_mem_takeScheme {text rest : List Char} {scheme : String}
    (h : takeScheme text = some (scheme, rest)) {character : Char} (hmem : character ∈ rest) :
    character ∈ text := by
  rw [takeScheme] at h
  split at h
  · next first more behind htaken hbehind =>
      split at h
      · cases h
        have hdropped := List.mem_cons_of_mem ':' hmem
        rw [← hbehind] at hdropped
        exact (List.dropWhile_sublist _).subset hdropped
      · cases h
  · cases h

/-- A text without marks has neither query nor fragment. -/
theorem takeTail_of_not_mem (special : Bool) {text : List Char} (hquestion : '?' ∉ text)
    (hfragment : '#' ∉ text) : takeTail special text = (text, none, none) := by
  simp only [takeTail, Text.breakAt?_of_not_mem hfragment, Text.breakAt?_of_not_mem hquestion]

/-- The address of a local file without a query is unqueried. -/
theorem unqueried_of_ofFile {text : List Char} {fragment : Option (List Char)}
    {address : Address} (h : ofFile text none fragment = some address) : address.Unqueried := by
  have hpath : ∀ isSlash rest, '?' ∉ absolutePath isSlash rest := question_not_mem_absolutePath
  simp only [ofFile, Option.bind_eq_bind] at h
  split at h
  · split at h
    · split at h
      · cases h
        exact ⟨List.not_mem_nil, List.not_mem_nil, hpath _ _, rfl⟩
      · obtain ⟨host, _, h⟩ := Option.bind_eq_some_iff.1 h
        cases h
        exact ⟨List.not_mem_nil, List.not_mem_nil, hpath _ _, rfl⟩
    · cases h
      exact ⟨List.not_mem_nil, List.not_mem_nil, hpath _ _, rfl⟩
  · cases h
    exact ⟨List.not_mem_nil, List.not_mem_nil, hpath _ _, rfl⟩

/-- An address that is read from a text without a question mark and a number sign is unqueried. -/
theorem unqueried_of_read {text : String} {address : Address} (h : read text = some address)
    (hquestion : '?' ∉ text.toList) (hfragment : '#' ∉ text.toList) : address.Unqueried := by
  rw [read] at h
  obtain ⟨⟨scheme, rest⟩, htaken, h⟩ := Option.bind_eq_some_iff.1 h
  have hrest : ∀ character ∈ rest, character ∈ text.toList := by
    intro character hmem
    exact mem_of_mem_cleaned (mem_of_mem_takeScheme htaken hmem)
  have hfree : '?' ∉ rest := fun hmem => hquestion (hrest _ hmem)
  have htail := takeTail_of_not_mem (isSpecial scheme) hfree
    (fun hmem => hfragment (hrest _ hmem))
  simp only [htail] at h
  -- The cases are those of the reader: files, the other special schemes, and the rest with an
  -- authority, with a slash, and with neither.
  split at h
  · exact unqueried_of_ofFile h
  · split at h
    · exact unqueried_of_withAuthority h
    · split at h
      · exact unqueried_of_withAuthority h
      · cases h
        exact ⟨List.not_mem_nil, List.not_mem_nil, question_not_mem_absolutePath _ _, rfl⟩
      · cases h
        exact ⟨List.not_mem_nil, List.not_mem_nil, question_not_mem_percentEncode (.inr hfree), rfl⟩

/-- The user and the password of an unqueried address hold no question marks with their signs. -/
theorem Unqueried.userinfoText {address : Address} (h : address.Unqueried) :
    '?' ∉ address.userinfoText := by
  rw [Address.userinfoText]
  split
  · exact List.not_mem_nil
  · split
    · simp [h.user]
    · simp [h.user, h.password]

/-- The address up to what stands before its query. -/
def bareChars (address : Address) : List Char :=
  address.scheme.toList ++ ':' ::
    (match address.host with
    | some _ => '/' :: '/' :: address.userinfoText ++ address.hostAndPort
    | none => if (Text.after? ['/', '/'] address.path).isSome then ['/', '.'] else []) ++
    address.path

/-- The query stands behind the rest of the address. -/
theorem chars_eq (address : Address) : address.chars = address.bareChars ++ address.queryText :=
  rfl

/-- The scheme of an address to which requests can be sent holds no question mark. -/
theorem question_not_mem_scheme {address : Address} (h : address.isRequestable = true) :
    '?' ∉ address.scheme.toList := by
  simp only [isRequestable, Bool.and_eq_true, Bool.or_eq_true, beq_iff_eq] at h
  rcases h.1.1 with hscheme | hscheme
  · rw [hscheme]
    decide
  · rw [hscheme]
    decide

/-- Nothing before the query of an unqueried address to which requests can be sent is a question
mark. -/
theorem Unqueried.bareChars {address : Address} (h : address.Unqueried)
    (hscheme : '?' ∉ address.scheme.toList) (hhost : '?' ∉ address.hostAndPort) :
    '?' ∉ address.bareChars := by
  have huserinfo := h.userinfoText
  rw [Address.bareChars]
  cases address.host with
  | some host => simp [hscheme, huserinfo, hhost, h.path]
  | none =>
      by_cases hpath : (Text.after? ['/', '/'] address.path).isSome = true
      · simp [hscheme, hpath, h.path]
      · simp [hscheme, hpath, h.path]

/-- The host part of an address to which requests can be sent holds no question mark. -/
theorem question_not_mem_hostAndPort {address : Address} (h : address.isRequestable = true) :
    '?' ∉ address.hostAndPort := by
  simp only [isRequestable, Bool.and_eq_true] at h
  intro hmem
  have hhost := List.all_eq_true.1 h.1.2 '?' hmem
  revert hhost
  decide

/-- A field that is added to an unqueried address is its query. -/
theorem Unqueried.queryText_withField {address : Address} (h : address.Unqueried)
    (name value : String) :
    (address.withField name value).queryText = '?' :: formFields [(name, value)] := by
  rw [queryText, withField, h.query]

/-- An address stays unqueried when its user and password are moved into the headers. -/
theorem Unqueried.bareAddress {address : Address} (h : address.Unqueried) :
    (Http.bareAddress address).Unqueried := by
  rw [Http.bareAddress]
  split
  · exact ⟨List.not_mem_nil, List.not_mem_nil, h.path, h.query⟩
  · exact h

end Address

/-- A field that is added to a request whose address has no query and no fragment is all that the
network sees behind the first question mark. -/
theorem query_of_seen {request : Http.Request} {seen : Http.SeenRequest} {name value : String}
    (h : request.seen? = some seen) (hquery : request.query = [(name, value)])
    (hquestion : '?' ∉ request.address.toList) (hfragment : '#' ∉ request.address.toList) :
    ∃ before, Text.breakAt? ['?'] seen.address.toList =
      some (before, formFields [(name, value)]) := by
  obtain ⟨address, headers, hprepare, rfl⟩ := Http.Request.seen?_eq_some h
  obtain ⟨read, hread, haddress, _, hrequestable⟩ := Http.Request.prepare_eq_ok hprepare
  have hbare := (Address.unqueried_of_read hread hquestion hfragment).bareAddress
  generalize Http.bareAddress read = bare at haddress hbare
  have hfield : address = bare.withField name value := by
    rw [haddress, hquery]
    rfl
  have hscheme : '?' ∉ address.scheme.toList := Address.question_not_mem_scheme hrequestable
  have hhost : '?' ∉ address.hostAndPort := Address.question_not_mem_hostAndPort hrequestable
  have hfree : '?' ∉ bare.bareChars := by
    rw [hfield] at hscheme hhost
    exact hbare.bareChars hscheme hhost
  refine ⟨bare.bareChars, ?_⟩
  show Text.breakAt? ['?'] address.requestText.toList = _
  rw [Address.requestText, String.toList_ofList, Address.chars_eq, hfield,
    hbare.queryText_withField]
  exact Text.breakAt?_append hfree _

end CloudCredentials.Url
