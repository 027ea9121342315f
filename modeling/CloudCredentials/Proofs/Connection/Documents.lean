import CloudCredentials.Connection.Document
import CloudCredentials.Proofs.Credentials.Decision
import CloudCredentials.Proofs.Json.Values

/-!
# Documents that describe one connection

An inline key can be given as an object or as a text, under either name of its setting, in extra
fields that are an object or a text. `Describes` says that a document gives a key in one of these
ways, and `Spelling` is a way to write such a document. `spelling_irrelevant` says that documents
which differ in nothing else lead to the same credentials or the same error.
-/

namespace CloudCredentials

open Json (Value Members member? putMember)

/-! ## The same key in another text -/

namespace Connection

/-- A connection with an inline key takes its credentials from that key, unless it has a key
file. -/
theorem source_withKeyData (connection : Connection) {text : String} (hne : text ≠ "") :
    { connection with storedKeyData := some text }.source =
      if connection.keyPath.isSome then connection.source else .ok (.keyData text) := by
  rcases connection.sets_or_unset .keyPath with ⟨path, hpath⟩ | hunset
  · have hsome : connection.keyPath.isSome := by
      rw [keyPath, (get_eq_some_iff _ _ _).2 hpath, Option.isSome_some]
    have hsame : { connection with storedKeyData := some text }.Sets .keyPath path := hpath
    rw [if_pos hsome, source_of_keyPath hpath, source_of_keyPath hsame]
  · have hnone : connection.keyPath = none := (get_eq_none_iff _ _).2 hunset
    rw [hnone, if_neg (by simp)]
    exact source_of_keyData hunset ⟨rfl, hne⟩

end Connection

namespace Resolver

/-- An inline key does not matter to what is made from a source. -/
theorem fromSource_withKeyData (resolver : Resolver) (keyData : Option String)
    (source : CredentialSource) :
    (resolver.withKeyData keyData).fromSource source = resolver.fromSource source := by
  cases source <;> rfl

/-- Which text an inline key has does not matter to whether there is a key file beside it. -/
theorem ambiguity_withKeyData (resolver : Resolver) {text other : String} (hne : text ≠ "")
    (hneOther : other ≠ "") :
    (resolver.withKeyData (some text)).ambiguity =
      (resolver.withKeyData (some other)).ambiguity := by
  have hset : ∀ {keyData : String}, keyData ≠ "" →
      (resolver.withKeyData (some keyData)).connection.keyData = some keyData := fun hne =>
    (Connection.get_eq_some_iff _ _ _).2 ⟨rfl, hne⟩
  rw [ambiguity, ambiguity, hset hne, hset hneOther]
  rfl

/-- Two texts that hold the same key, or fail alike, make the same credentials. -/
theorem runIn_credentials_withKeyData (resolver : Resolver) {text other : String}
    (hne : text ≠ "") (hneOther : other ≠ "")
    (h : ServiceAccountKey.ofFormText text = ServiceAccountKey.ofFormText other)
    (world : World) :
    (resolver.withKeyData (some text)).credentials.runIn world =
      (resolver.withKeyData (some other)).credentials.runIn world := by
  have hsource : resolver.fromSource (.keyData text) = resolver.fromSource (.keyData other) := by
    simp only [fromSource, h]
  have hfirst : (resolver.withKeyData (some text)).connection.source = _ :=
    resolver.connection.source_withKeyData hne
  have hsecond : (resolver.withKeyData (some other)).connection.source = _ :=
    resolver.connection.source_withKeyData hneOther
  rw [runIn_credentials, runIn_credentials, resolver.ambiguity_withKeyData hne hneOther, hfirst,
    hsecond]
  simp only [fromSource_withKeyData]
  -- Only where the inline key is the source do the two resolvers ask for different things.
  cases resolver.connection.keyPath with
  | some path => rfl
  | none =>
      simp only [Option.isSome_none, Bool.false_eq_true, if_false, hsource]
      rfl

end Resolver

namespace Connection

/-! ## What a document describes -/

/-- `GivesExtras document extras` says that a document has these extra fields, as an object or as a
text that is read as one. -/
inductive GivesExtras (document : String) (extras : Members) : Prop where
  | object (hextra : readExtra document = .ok (some (.object extras)))
  | encoded (text : String) (hextra : readExtra document = .ok (some (.string text)))
      (hread : Json.readText text = .ok (.object extras))

/-- `GivesKey text members others extras` says that extra fields give an inline key as the object
with the members or as the text, under one of the two names of the setting, and what they hold under
other names. -/
structure GivesKey (text : String) (members : Members) (others : String → Option Value)
    (extras : Members) : Prop where
  /-- The key is there under one name, and nothing is there under the other. -/
  key : ∃ value, (value = .object members ∨ value = .string text) ∧
    (member? Setting.keyData.formName extras = some value ∧
        member? Setting.keyData.name extras = none ∨
      member? Setting.keyData.formName extras = none ∧
        member? Setting.keyData.name extras = some value)
  /-- What is there under other names. -/
  others_eq : ∀ name, name ≠ Setting.keyData.formName → name ≠ Setting.keyData.name →
    member? name extras = others name

/-- `Describes text members others document` says that a document gives an inline key in its extra
fields, and what these hold besides. -/
def Describes (text : String) (members : Members) (others : String → Option Value)
    (document : String) : Prop :=
  ∃ extras, GivesExtras document extras ∧ GivesKey text members others extras

/-- The `extra` member of a compact document is read back. -/
theorem readExtra_text {extra : Value} (h : extra.ReadsBack (Json.greatestDepth - 1)) :
    readExtra (Value.object [("extra", extra)]).text = .ok (some extra) := by
  obtain ⟨_, tree, hreads, hvalue⟩ := h
  have hrecord : Json.readRecord ["extra"]
      (Bytes.ofText (Value.object [("extra", extra)]).text) = .ok [some tree] :=
    Json.readRecord_text ⟨"extra", extra, tree, hreads⟩
  rw [readExtra, hrecord]
  simp only [hvalue]

/-- No text that is read is empty. -/
theorem ne_empty_of_readText {text : String} {value : Value}
    (h : Json.readText text = .ok value) : text ≠ "" := by
  rintro rfl
  cases h

/-- A document with extra fields describes the connection that these describe. -/
theorem ofDocument_of_givesExtras {document : String} {extras : Members}
    (h : GivesExtras document extras) (identifier : String) :
    ofDocument identifier document = .ok (ofExtras extras) := by
  cases h with
  | object hextra =>
      rw [ofDocument, hextra]
      rfl
  | encoded text hextra hread =>
      rw [ofDocument, hextra]
      simp [extrasOf, ne_empty_of_readText hread, hread]

/-- The text of a setting in fields that hold these values. -/
def textIn (fields : String → Option Value) (setting : Setting) : Option String :=
  (nonEmpty ((fields setting.formName).bind storedText)).or ((fields setting.name).bind storedText)

/-- The text of a setting depends on what the extra fields hold under its two names. -/
theorem extraText_eq_textIn {extras : Members} {others : String → Option Value}
    {setting : Setting} (hform : member? setting.formName extras = others setting.formName)
    (hname : member? setting.name extras = others setting.name) :
    extraText extras setting = textIn others setting := by
  rw [extraText, textIn, hform, hname]

/-- Extra fields with an inline key describe a connection whose inline key is a text that is read as
the same object. -/
theorem ofExtras_of_givesKey {text : String} {members : Members}
    {others : String → Option Value} {extras : Members} (h : GivesKey text members others extras)
    (hread : Json.readText text = .ok (.object members))
    (hnumbers : (Value.object members).NumbersReadBack) :
    ∃ stored, Json.readText stored = .ok (.object members) ∧
      ofExtras extras = { ofStored (textIn others) with storedKeyData := some stored } := by
  obtain ⟨value, hvalue, hplace⟩ := h.key
  have hstored : ∃ stored, storedText value = some stored ∧
      Json.readText stored = .ok (.object members) := by
    rcases hvalue with rfl | rfl
    · exact ⟨_, rfl, Json.readText_text hread hnumbers⟩
    · exact ⟨_, rfl, hread⟩
  obtain ⟨stored, htext, hreads⟩ := hstored
  have hkey : extraText extras .keyData = some stored := by
    rcases hplace with ⟨hform, hname⟩ | ⟨hform, hname⟩
    · simp [extraText, hform, hname, htext, nonEmpty, ne_empty_of_readText hreads]
    · simp [extraText, hform, hname, htext, nonEmpty]
  have hother : ∀ setting : Setting, setting ≠ .keyData →
      extraText extras setting = textIn others setting := by
    intro setting hne
    apply extraText_eq_textIn
    all_goals
      apply h.others_eq
      all_goals
        revert hne
        cases setting <;> decide
  refine ⟨stored, hreads, ?_⟩
  rw [ofExtras, ofStored, hkey, hother .keyPath (by decide), hother .scope (by decide),
    hother .project (by decide)]
  rfl

/-- A document that gives an inline key describes a connection with a text of that key. -/
theorem ofDocument_of_describes {text : String} {members : Members}
    {others : String → Option Value} {document : String}
    (h : Describes text members others document)
    (hread : Json.readText text = .ok (.object members))
    (hnumbers : (Value.object members).NumbersReadBack) (identifier : String) :
    ∃ stored, Json.readText stored = .ok (.object members) ∧
      ofDocument identifier document =
        .ok { ofStored (textIn others) with storedKeyData := some stored } := by
  obtain ⟨extras, hextras, hkey⟩ := h
  obtain ⟨stored, hreads, heq⟩ := ofExtras_of_givesKey hkey hread hnumbers
  exact ⟨stored, hreads, by rw [ofDocument_of_givesExtras hextras, heq]⟩

/-- `ResolveAlike document other` says that two documents are read as connections from which every
resolver makes the same credentials in every world, or fails with the same error, and leaves the
same world behind. -/
def ResolveAlike (document other : String) : Prop :=
  ∀ identifier, ∃ connection otherConnection,
    ofDocument identifier document = .ok connection ∧
      ofDocument identifier other = .ok otherConnection ∧
      ∀ (options : ResolverOptions) (world : World),
        (Resolver.ofConnection options connection).credentials.runIn world =
          (Resolver.ofConnection options otherConnection).credentials.runIn world

/-- Documents that describe one connection resolve alike. -/
theorem Describes.resolveAlike {text : String} {members : Members}
    {others : String → Option Value} {document other : String}
    (h : Describes text members others document) (hother : Describes text members others other)
    (hread : Json.readText text = .ok (.object members))
    (hnumbers : (Value.object members).NumbersReadBack) : ResolveAlike document other := by
  intro identifier
  obtain ⟨stored, hreads, hdocument⟩ := ofDocument_of_describes h hread hnumbers identifier
  obtain ⟨storedOther, hreadsOther, hdocumentOther⟩ :=
    ofDocument_of_describes hother hread hnumbers identifier
  refine ⟨_, _, hdocument, hdocumentOther, fun options world => ?_⟩
  have hkey : ServiceAccountKey.ofFormText stored = ServiceAccountKey.ofFormText storedOther := by
    simp only [ServiceAccountKey.ofFormText, ServiceAccountKey.readWith, hreads, hreadsOther]
  exact (Resolver.ofConnection options (ofStored (textIn others))).runIn_credentials_withKeyData
    (ne_empty_of_readText hreads) (ne_empty_of_readText hreadsOther) hkey world

/-! ## Documents as they are written -/

/-- A way to write a document with an inline key. -/
structure Spelling where
  /-- The key is written as an object and not as a text. -/
  keyAsObject : Bool
  /-- The key is written under the name that a connection form has for it. -/
  keyFromForm : Bool
  /-- The extra fields are written as a text and not as an object. -/
  extrasAsText : Bool
deriving DecidableEq, Repr

namespace Spelling

/-- The inline key. -/
def key (spelling : Spelling) (text : String) (members : Members) : Value :=
  if spelling.keyAsObject then .object members else .string text

/-- The name of the inline key. -/
def keyName (spelling : Spelling) : String :=
  if spelling.keyFromForm then Setting.keyData.formName else Setting.keyData.name

/-- The extra fields, with the inline key among the others. -/
def extras (spelling : Spelling) (text : String) (members rest : Members) : Members :=
  putMember spelling.keyName (spelling.key text members) rest

/-- The `extra` member. -/
def extra (spelling : Spelling) (text : String) (members rest : Members) : Value :=
  let extras := Value.object (spelling.extras text members rest)
  if spelling.extrasAsText then .string extras.text else extras

/-- The document. -/
def document (spelling : Spelling) (text : String) (members rest : Members) : Value :=
  .object [("extra", spelling.extra text members rest)]

/-- The document is within the limit of nesting, and its extra fields are. -/
def Fits (spelling : Spelling) (text : String) (members rest : Members) : Prop :=
  (Value.object (spelling.extras text members rest)).nesting ≤ Json.greatestDepth ∧
    (spelling.document text members rest).nesting ≤ Json.greatestDepth

/-- The inline key is proper, whichever way it is written. -/
theorem proper_key (spelling : Spelling) (text : String) {members : Members}
    (h : (Value.object members).Proper) : (spelling.key text members).Proper := by
  rw [key]
  split
  · exact h
  · exact .string text

/-- The extra fields are proper if the others among them are. -/
theorem proper_extras (spelling : Spelling) (text : String) {members rest : Members}
    (h : (Value.object members).Proper) (hrest : (Value.object rest).Proper) :
    (Value.object (spelling.extras text members rest)).Proper := by
  cases hrest with
  | object _ hsorted hproper =>
      refine .object _ (Json.isSorted_putMember _ _ hsorted) fun entry hentry => ?_
      rcases Json.mem_of_mem_putMember hentry with rfl | hold
      · exact spelling.proper_key text h
      · exact hproper entry hold

/-- The extra fields are those of the document. -/
theorem givesExtras (spelling : Spelling) {text : String} {members rest : Members}
    (hproper : (Value.object (spelling.extras text members rest)).Proper)
    (hfits : spelling.Fits text members rest) :
    GivesExtras (spelling.document text members rest).text
      (spelling.extras text members rest) := by
  obtain ⟨hextras, hdocument⟩ := hfits
  by_cases htext : spelling.extrasAsText
  · rw [document, extra, if_pos htext]
    exact .encoded _ (readExtra_text (Value.string_readsBack _ _))
      (hproper.readsBack hextras).readText_text
  · rw [document, extra, if_neg htext] at hdocument ⊢
    have hinner : (Value.object (spelling.extras text members rest)).nesting ≤
        Json.greatestDepth - 1 :=
      (Json.memberNesting_le_iff _ _).1 (Nat.le_pred_of_lt hdocument) _ List.mem_cons_self
    exact .object (readExtra_text (hproper.readsBack hinner))

/-- The extra fields give the key, and besides it what they give without it. -/
theorem givesKey (spelling : Spelling) (text : String) (members : Members) {rest : Members}
    (hform : member? Setting.keyData.formName rest = none)
    (hname : member? Setting.keyData.name rest = none) :
    GivesKey text members (member? · rest) (spelling.extras text members rest) := by
  have hother : ∀ name, name ≠ spelling.keyName →
      member? name (spelling.extras text members rest) = member? name rest :=
    fun name hne => Json.member?_putMember_of_ne _ _ _ _ hne
  have hself : member? spelling.keyName (spelling.extras text members rest) =
      some (spelling.key text members) := Json.member?_putMember_self _ _ _
  constructor
  case key =>
    refine ⟨spelling.key text members, ?_, ?_⟩
    · rw [key]
      split
      · exact .inl rfl
      · exact .inr rfl
    · by_cases hkey : spelling.keyFromForm
      · have hkeyName : spelling.keyName = Setting.keyData.formName := if_pos hkey
        rw [hkeyName] at hself hother
        exact .inl ⟨hself, (hother _ (by decide)).trans hname⟩
      · have hkeyName : spelling.keyName = Setting.keyData.name := if_neg hkey
        rw [hkeyName] at hself hother
        exact .inr ⟨(hother _ (by decide)).trans hform, hself⟩
  case others_eq =>
    intro name hneForm hneName
    apply hother
    rw [keyName]
    split
    · exact hneForm
    · exact hneName

end Spelling

/-- The way in which a document gives an inline key does not matter. Documents that give the same
key and the same other fields resolve alike, and every spelling is such a document. -/
theorem spelling_irrelevant {text : String} {members : Members}
    (hread : Json.readText text = .ok (.object members))
    (hnumbers : (Value.object members).NumbersReadBack) :
    (∀ others document other, Describes text members others document →
      Describes text members others other → ResolveAlike document other) ∧
    ∀ (spelling : Spelling) (rest : Members), (Value.object rest).Proper →
      member? Setting.keyData.formName rest = none → member? Setting.keyData.name rest = none →
      spelling.Fits text members rest →
      Describes text members (member? · rest) (spelling.document text members rest).text := by
  refine ⟨fun _ _ _ h hother => h.resolveAlike hother hread hnumbers, ?_⟩
  intro spelling rest hrest hform hname hfits
  have hmembers := (Json.proper_of_readText hread hnumbers).1
  exact ⟨_, spelling.givesExtras (spelling.proper_extras text hmembers hrest) hfits,
    spelling.givesKey text members hform hname⟩

/-- A key with a fraction among its members can be given as an object under its bare name, and as a
text under its form name in encoded extra fields. -/
theorem resolveAlike_of_fraction :
    let half : Decimal.Binary64 := ⟨false, Decimal.leastNormal, -53⟩
    let members : Members := [("client_email", .string "a"), ("private_key", .string "b"),
      ("version", .number (.binary half))]
    let text := (Value.object members).text
    let rest : Members := [("scope", .string "c,d")]
    Json.readText text = .ok (.object members) ∧ (Value.object members).NumbersReadBack ∧
      ResolveAlike
        (Spelling.document ⟨true, false, false⟩ text members rest).text
        (Spelling.document ⟨false, true, true⟩ text members rest).text := by
  intro half members text rest
  have hhalf : (Json.Number.binary half).ReadsBack := by decide +kernel
  have hproper : (Value.object members).Proper := by
    have hsorted : Json.IsSorted members := by
      simp only [members, Json.IsSorted, List.pairwise_cons, List.forall_mem_cons,
        List.not_mem_nil, false_implies, implies_true, List.Pairwise.nil]
      decide
    refine .object members hsorted ?_
    simp only [members, List.forall_mem_cons]
    exact ⟨.string _, .string _, .binary _ hhalf, List.forall_mem_nil _⟩
  have hread : Json.readText text = .ok (.object members) :=
    (hproper.readsBack (by decide)).readText_text
  have hnumbers : (Value.object members).NumbersReadBack := by
    rintro number (_ | _ | @⟨_, _, _, hmem, hholds⟩)
    simp only [members, List.mem_cons, List.not_mem_nil, or_false] at hmem
    rcases hmem with rfl | rfl | rfl
    · cases hholds
    · cases hholds
    · cases hholds
      exact hhalf
  obtain ⟨halike, hdescribes⟩ := spelling_irrelevant hread hnumbers
  have hrest : (Value.object rest).Proper := by
    refine .object rest (List.pairwise_singleton _ _) ?_
    simp only [rest, List.forall_mem_singleton]
    exact .string _
  refine ⟨hread, hnumbers, halike _ _ _ (hdescribes _ rest hrest rfl rfl ?_)
    (hdescribes _ rest hrest rfl rfl ?_)⟩
  · exact ⟨by decide +kernel, by decide +kernel⟩
  · exact ⟨by decide +kernel, by decide +kernel⟩

end Connection

end CloudCredentials
