import CloudCredentials.Proofs.Guard.Acquisition
import CloudCredentials.Proofs.ServiceAccount.Keys

/-!
# What other programs find

A connection with a key resolves to that key directly, and hands it over to other programs through
the environment. `handsOver` says that both ways lead to one key: to the very same with a key file,
and with an inline key to the same up to the line breaks that only the direct way puts back.
-/

namespace CloudCredentials

/-- A path shows a text if the contents of its file are that text. -/
theorem FileSystem.readText_eq_ok_iff (files : FileSystem) (path text : String) :
    files.readText path = .ok text ↔
      ∃ contents, files.contents? path = some contents ∧ Bytes.text? contents = some text := by
  rw [readText, contents?]
  cases files.read path with
  | error fault => simp [Except.toOption]
  | ok contents =>
      cases htext : Bytes.text? contents with
      | none => simp [Except.toOption, htext]
      | some found => simp [Except.toOption, htext]

/-- A path that shows a file is not empty. -/
theorem FileSystem.ne_empty_of_contents? {files : FileSystem} {path : String} {contents : Bytes}
    (h : files.contents? path = some contents) : path ≠ "" := by
  rintro rfl
  cases ((contents?_eq_some_iff files "" contents).1 h).1

/-- A path that shows a file does not hold the character that none may hold. -/
theorem FileSystem.nul_not_mem_of_contents? {files : FileSystem} {path : String}
    {contents : Bytes} (h : files.contents? path = some contents) : '\x00' ∉ path.toList :=
  nul_not_mem_of_pathFault ((contents?_eq_some_iff files path contents).1 h).1

/-- A file gives a key if its path shows a text with the key. -/
theorem ServiceAccountKey.inFile_eq_ok_iff (files : FileSystem) (path : String)
    (key : ServiceAccountKey) :
    inFile files path = .ok key ↔
      ∃ contents text, files.contents? path = some contents ∧
        Bytes.text? contents = some text ∧ ofJson text = .ok key := by
  have htext := files.readText_eq_ok_iff path
  rw [inFile]
  cases hread : files.readText path with
  | error fault =>
      simp only [hread, reduceCtorEq, false_iff, not_exists, not_and] at htext ⊢
      exact fun contents text hcontents hbytes => absurd hbytes (htext text contents hcontents)
  | ok found =>
      constructor
      · intro h
        obtain ⟨contents, hcontents, hbytes⟩ := (htext found).1 hread
        exact ⟨contents, found, hcontents, hbytes, h⟩
      · rintro ⟨contents, text, hcontents, hbytes, h⟩
        have heq := (htext text).2 ⟨contents, hcontents, hbytes⟩
        rw [hread] at heq
        cases heq
        exact h

namespace Ambient

/-- The surroundings offer the key in the file that the variable names, and send no request. -/
theorem runIn_discover_of_key {world : World} {path : String} {key : ServiceAccountKey}
    (hvariable : world.environment.get? "GOOGLE_APPLICATION_CREDENTIALS" =
      some (Bytes.ofText path))
    (hpath : path ≠ "") (hkey : ServiceAccountKey.inFile world.files path = .ok key)
    (given : Option String) (scopes : List String) :
    ∃ offered log, (discover given scopes).runIn world = (.ok offered, { world with log }) ∧
      offered.Holds key scopes := by
  have hnamed : NamesKeyFile world.environment path :=
    ⟨by rw [Environment.text?, hvariable]; exact Bytes.text?_ofText path, hpath⟩
  obtain ⟨events, hrun⟩ := runIn_fromKeyFile_of_named scopes hnamed
  rw [hkey] at hrun
  exact ⟨_, _, Action.runIn_bind_of_ok hrun _, (Credentials.holds_iff _ key scopes).2 rfl⟩

end Ambient

/-- A connection refuses the legacy format exactly if the path of its key file has that ending. -/
theorem Connection.source_unsupported_iff (connection : Connection) :
    connection.source = .error .unsupportedKeyFormat ↔
      ∃ path, connection.Sets .keyPath path ∧ ∃ stem, path = stem ++ ".p12" := by
  rcases connection.sets_or_unset .keyPath with ⟨path, hpath⟩ | hpath
  · rw [source_of_keyPath hpath]
    constructor
    · intro h
      split at h
      · cases h
      · split at h
        · next hlegacy => exact ⟨path, hpath, (Text.endsWith_iff path ".p12").1 hlegacy⟩
        · cases h
    · rintro ⟨other, hother, stem, hstem⟩
      have hlegacy : path = stem ++ ".p12" := (hpath.unique hother).trans hstem
      have hjson : ¬ Text.endsWith path ".json" = true := by
        rw [Text.endsWith_iff, hlegacy]
        rintro ⟨otherStem, heq⟩
        have hlast := congrArg (fun text => text.toList.getLast?) heq
        simp at hlast
      rw [if_neg hjson, if_pos ((Text.endsWith_iff path ".p12").2 ⟨stem, hlegacy⟩)]
  · refine iff_of_false ?_ fun ⟨path, hsets, _⟩ => hpath path hsets
    rcases connection.sets_or_unset .keyData with ⟨text, htext⟩ | htext
    · rw [source_of_keyData hpath htext]
      simp
    · rw [source_of_unset hpath htext]
      simp

/-- Where a connection has a key file and resolves, the file holds the key. -/
theorem Chosen.of_keyPath_ok {connection : Connection} {world : World} {credentials : Credentials}
    {path : String} (h : Chosen connection world (.ok credentials))
    (hpath : connection.Sets .keyPath path) :
    connection.source ≠ .error .unsupportedKeyFormat ∧
      ∃ key, ServiceAccountKey.inFile world.files path = .ok key ∧
        credentials.Holds key connection.scopes := by
  rw [chosen_iff, Connection.source_of_keyPath hpath] at h
  rw [Connection.source_of_keyPath hpath]
  by_cases hjson : Text.endsWith path ".json" = true
  · rw [if_pos hjson] at h ⊢
    obtain ⟨key, hkey, hcredentials⟩ := (map_eq_ok_iff _ _ _).1 h
    exact ⟨by simp, key, hkey, (Credentials.holds_iff _ _ _).2 hcredentials.symm⟩
  · rw [if_neg hjson] at h
    split at h
    · next heq =>
        split at heq
        · cases heq
        · cases heq
    · cases h

/-- Where a connection has an inline key alone and resolves, the form gives the key. -/
theorem Chosen.of_keyData_ok {connection : Connection} {world : World} {credentials : Credentials}
    {text : String} (h : Chosen connection world (.ok credentials))
    (hpath : ∀ path, ¬ connection.Sets .keyPath path) (htext : connection.Sets .keyData text) :
    ∃ key, ServiceAccountKey.ofFormText text = .ok key ∧
      credentials.Holds key connection.scopes := by
  rw [chosen_iff, Connection.source_of_keyData hpath htext] at h
  obtain ⟨key, hkey, hcredentials⟩ := (map_eq_ok_iff _ _ _).1 h
  exact ⟨key, hkey, (Credentials.holds_iff _ _ _).2 hcredentials.symm⟩

/-- Credentials that a resolver without a delegate makes of a key are what its connection chooses. -/
theorem Resolver.chosen_of_credentials {resolver : Resolver} {world : World}
    {credentials : Credentials} (hkey : resolver.connection.HasKey)
    (hdelegate : resolver.delegate = none)
    (h : (resolver.credentials.runIn world).1 = .ok credentials) :
    Chosen resolver.connection world (.ok credentials) := by
  obtain ⟨given, events, hchosen, hrun⟩ :=
    resolver.runIn_credentials_chosen world (.inr hkey.source_ne)
  rw [hrun, hdelegate] at h
  cases given with
  | error error => cases h
  | ok found =>
      cases h
      exact hchosen

namespace Guard

/-- Acquiring refuses the legacy format exactly if the path of the key file has that ending. -/
theorem Acquired.unsupported_iff {connection : Connection} {world after : World}
    {outcome : Except Error Guard} (h : Acquired connection world outcome after) :
    outcome = .error .unsupportedKeyFormat ↔
      ∃ path, connection.Sets .keyPath path ∧ ∃ stem, path = stem ++ ".p12" := by
  cases h with
  | nothing hpath => exact iff_of_false (by simp) fun ⟨path, hsets, _⟩ => hpath path hsets
  | keyFile path hpath hlegacy =>
      refine iff_of_false (by simp) fun ⟨other, hother, hending⟩ => hlegacy ?_
      rwa [hpath.unique hother]
  | legacy path hpath hlegacy => exact iff_of_true rfl ⟨path, hpath, hlegacy⟩
  | rejected path hpath hlegacy =>
      refine iff_of_false (by simp) fun ⟨other, hother, hending⟩ => hlegacy ?_
      rwa [hpath.unique hother]
  | keyData text path files hpath =>
      exact iff_of_false (by simp) fun ⟨other, hother, _⟩ => hpath other hother
  | unmade text path fault hpath =>
      exact iff_of_false (by simp) fun ⟨other, hother, _⟩ => hpath other hother

/-- There is room for the temporary file that the connection needs, if it needs one. -/
def HasRoom (connection : Connection) (world : World) : Prop :=
  ∀ text, (∀ path, ¬ connection.Sets .keyPath path) → connection.Sets .keyData text →
    ∃ made, world.files.makeTemporary (temporaryDirectory world.environment)
      (Bytes.ofText text) = .ok made

/-- `Stays path opened later` says that the variable and what the path shows are in the later world
as a guard has left them. -/
def Stays (path : String) (opened later : World) : Prop :=
  later.environment.get? "GOOGLE_APPLICATION_CREDENTIALS" =
      opened.environment.get? "GOOGLE_APPLICATION_CREDENTIALS" ∧
    later.files.contents? path = opened.files.contents? path

/-- `Agrees connection key found` says how the key that other programs find agrees with the key that
the connection resolves to. -/
structure Agrees (connection : Connection) (key found : ServiceAccountKey) : Prop where
  /-- The key of a key file is found as it is. -/
  keyFile : ∀ path, connection.Sets .keyPath path → found = key
  /-- But for the private key all is found as it is. -/
  others : found = { key with privateKey := found.privateKey }
  /-- The private key of an inline key is found as it is unless line breaks are put back in it. -/
  privateKey_iff : ∀ text, (∀ path, ¬ connection.Sets .keyPath path) →
    connection.Sets .keyData text →
      (found.privateKey = key.privateKey ↔
        ¬ ∃ written, ServiceAccountKey.WritesPrivateKey text written ∧
          ['\\', 'n'] <:+: written.toList)
  /-- The private key of an inline key is found as it is written. -/
  privateKey_eq : ∀ text written, (∀ path, ¬ connection.Sets .keyPath path) →
    connection.Sets .keyData text → ServiceAccountKey.WritesPrivateKey text written →
      found.privateKey = written

/-- `HandsOver connection world` says what other programs find in place of the connection when a
guard for it is acquired in the world. -/
structure HandsOver (connection : Connection) (world : World) : Prop where
  /-- The legacy format is refused where the connection refuses it. -/
  unsupported_iff : ((acquire connection).runIn world).1 = .error .unsupportedKeyFormat ↔
    connection.source = .error .unsupportedKeyFormat
  /-- Where the connection resolves to a key, the surroundings offer a key that agrees with it, with
  the scopes of the connection and without a request, as long as the guard is held. -/
  handed : ∀ (resolver : Resolver) (credentials : Credentials), resolver.connection = connection →
    resolver.delegate = none → connection.HasKey →
      (resolver.credentials.runIn world).1 = .ok credentials → HasRoom connection world →
        ∃ key found guard path opened, credentials.Holds key connection.scopes ∧
          (acquire connection).runIn world = (.ok guard, opened) ∧ guard.exported = some path ∧
          Agrees connection key found ∧
          ∀ later, Stays path opened later → ∀ given, ∃ offered log,
            (Ambient.discover given connection.scopes).runIn later =
              (.ok offered, { later with log }) ∧ offered.Holds found connection.scopes

/-- The key file of a connection is handed over as it is. -/
theorem handed_keyFile {connection : Connection} {world opened : World} {guard : Guard}
    {path : String} {key : ServiceAccountKey}
    (hacquired : Acquired connection world (.ok guard) opened)
    (hpath : connection.Sets .keyPath path)
    (hkey : ServiceAccountKey.inFile world.files path = .ok key) :
    guard.exported = some path ∧ Agrees connection key key ∧
      ∀ later, Stays path opened later → ∀ given, ∃ offered log,
        (Ambient.discover given connection.scopes).runIn later =
          (.ok offered, { later with log }) ∧ offered.Holds key connection.scopes := by
  obtain ⟨hexported, hfiles⟩ := hacquired.of_keyPath hpath
  refine ⟨hexported, ?_, fun later hstays given => ?_⟩
  · exact ⟨fun _ _ => rfl, rfl, fun _ hnone => absurd hpath (hnone path),
      fun _ _ hnone => absurd hpath (hnone path)⟩
  · have hvariable := hstays.1.trans (hacquired.get?_of_exported hexported)
    obtain ⟨contents, text, hcontents, hread⟩ :=
      (ServiceAccountKey.inFile_eq_ok_iff _ _ _).1 hkey
    rw [← hfiles, ← hstays.2] at hcontents
    have hlater := (ServiceAccountKey.inFile_eq_ok_iff later.files path key).2
      ⟨contents, text, hcontents, hread⟩
    exact Ambient.runIn_discover_of_key hvariable hpath.2 hlater given connection.scopes

/-- The text of an inline key holds a key that agrees with the one that the form gives. -/
theorem agrees_of_ofFormText {connection : Connection} {text : String} {key : ServiceAccountKey}
    (hpath : ∀ path, ¬ connection.Sets .keyPath path) (htext : connection.Sets .keyData text)
    (hkey : ServiceAccountKey.ofFormText text = .ok key) :
    ∃ found, ServiceAccountKey.ofJson text = .ok found ∧ Agrees connection key found := by
  rcases ServiceAccountKey.ofJson_of_ofFormText hkey with
    ⟨written, hwrites, hprivate, hjson⟩ | ⟨hnone, hjson⟩
  · refine ⟨_, hjson, fun path hsets => absurd hsets (hpath path), rfl, ?_, ?_⟩
    · intro other _ hother
      rw [← htext.unique hother]
      -- The private keys are the same where putting line breaks back leaves the written one alone.
      have hsame : written = key.privateKey ↔ ¬ ['\\', 'n'] <:+: written.toList := by
        rw [← breakLines_eq_self_iff, hprivate, ← String.toList_inj, String.toList_ofList, eq_comm]
      refine hsame.trans (not_congr ⟨fun hoccurs => ⟨written, hwrites, hoccurs⟩, ?_⟩)
      rintro ⟨present, hpresent, hoccurs⟩
      rwa [hwrites.unique hpresent]
    · intro other present _ hother hpresent
      rw [← htext.unique hother] at hpresent
      exact hwrites.unique hpresent
  · refine ⟨key, hjson, fun _ _ => rfl, rfl, ?_, ?_⟩
    · intro other _ hother
      rw [← htext.unique hother]
      exact iff_of_true rfl fun ⟨written, hwrites, _⟩ => hnone written hwrites
    · intro other written _ hother hwrites
      rw [← htext.unique hother] at hwrites
      exact absurd hwrites (hnone written)

/-- An inline key is handed over as it is written. -/
theorem handed_keyData {connection : Connection} {world opened : World} {guard : Guard}
    {text : String} {key : ServiceAccountKey}
    (hacquired : Acquired connection world (.ok guard) opened)
    (hpath : ∀ path, ¬ connection.Sets .keyPath path) (htext : connection.Sets .keyData text)
    (hkey : ServiceAccountKey.ofFormText text = .ok key) :
    ∃ found path, guard.exported = some path ∧ Agrees connection key found ∧
      ∀ later, Stays path opened later → ∀ given, ∃ offered log,
        (Ambient.discover given connection.scopes).runIn later =
          (.ok offered, { later with log }) ∧ offered.Holds found connection.scopes := by
  obtain ⟨path, rfl, hmade⟩ := hacquired.of_keyData hpath htext
  obtain ⟨found, hjson, hagrees⟩ := agrees_of_ofFormText hpath htext hkey
  refine ⟨found, path, rfl, hagrees, fun later hstays given => ?_⟩
  have hvariable := hstays.1.trans (hacquired.get?_of_exported rfl)
  have hcontents := hstays.2.trans hmade.contents?_self
  have hlater := (ServiceAccountKey.inFile_eq_ok_iff later.files path found).2
    ⟨_, text, hcontents, Bytes.text?_ofText text, hjson⟩
  exact Ambient.runIn_discover_of_key hvariable (FileSystem.ne_empty_of_contents? hcontents)
    hlater given connection.scopes

/-- A guard is acquired for a JSON file with a key. -/
theorem acquired_of_keyFile {connection : Connection} {world after : World}
    {outcome : Except Error Guard} {path : String} {key : ServiceAccountKey}
    (h : Acquired connection world outcome after) (hpath : connection.Sets .keyPath path)
    (hsource : connection.source ≠ .error .unsupportedKeyFormat)
    (hkey : ServiceAccountKey.inFile world.files path = .ok key) :
    ∃ guard, outcome = .ok guard := by
  cases outcome with
  | ok guard => exact ⟨guard, rfl⟩
  | error error =>
      rcases h.error_iff.1 ⟨error, rfl⟩ with ⟨other, hother, hlegacy | hnul⟩ | ⟨hnone, _⟩
      · exact absurd (connection.source_unsupported_iff.2 ⟨other, hother, hlegacy⟩) hsource
      · obtain ⟨contents, _, hcontents, _⟩ := (ServiceAccountKey.inFile_eq_ok_iff _ _ _).1 hkey
        rw [hother.unique hpath] at hnul
        exact absurd hnul (FileSystem.nul_not_mem_of_contents? hcontents)
      · exact absurd hpath (hnone path)

/-- A guard is acquired for an inline key where there is room for its file. -/
theorem acquired_of_hasRoom {connection : Connection} {world after : World}
    {outcome : Except Error Guard} (h : Acquired connection world outcome after)
    (hpath : ∀ path, ¬ connection.Sets .keyPath path) (hroom : HasRoom connection world) :
    ∃ guard, outcome = .ok guard := by
  cases outcome with
  | ok guard => exact ⟨guard, rfl⟩
  | error error =>
      rcases h.error_iff.1 ⟨error, rfl⟩ with ⟨other, hother, _⟩ | ⟨_, text, failure, htext, hfailed⟩
      · exact absurd hother (hpath other)
      · obtain ⟨made, hmade⟩ := hroom text hpath htext
        rw [hmade] at hfailed
        cases hfailed

/-- What a connection resolves to and what other programs find agree, in every world. -/
theorem handsOver (connection : Connection) (world : World) : HandsOver connection world := by
  have hacquired := acquired_acquire connection world
  constructor
  case unsupported_iff => rw [hacquired.unsupported_iff, connection.source_unsupported_iff]
  case handed =>
    rintro resolver credentials rfl hdelegate hkey hresolved hroom
    have hchosen := Resolver.chosen_of_credentials hkey hdelegate hresolved
    rcases hrun : (acquire resolver.connection).runIn world with ⟨outcome, opened⟩
    rw [hrun] at hacquired
    rcases resolver.connection.sets_or_unset .keyPath with ⟨path, hpath⟩ | hpath
    · obtain ⟨hsource, key, hfile, hholds⟩ := hchosen.of_keyPath_ok hpath
      obtain ⟨guard, rfl⟩ := acquired_of_keyFile hacquired hpath hsource hfile
      obtain ⟨hexported, hagrees, hlater⟩ := handed_keyFile hacquired hpath hfile
      exact ⟨key, key, guard, path, opened, hholds, rfl, hexported, hagrees, hlater⟩
    · obtain ⟨text, htext⟩ : ∃ text, resolver.connection.Sets .keyData text :=
        hkey.imp fun text hsets => hsets.resolve_left (hpath text)
      obtain ⟨key, hform, hholds⟩ := hchosen.of_keyData_ok hpath htext
      obtain ⟨guard, rfl⟩ := acquired_of_hasRoom hacquired hpath hroom
      obtain ⟨found, path, hexported, hagrees, hlater⟩ := handed_keyData hacquired hpath htext hform
      exact ⟨key, found, guard, path, opened, hholds, rfl, hexported, hagrees, hlater⟩

/-- An inline key whose private key is written with a backslash and the letter n is handed over. -/
theorem handsOver_of_writtenBreak :
    let text := "\x7b\"client_email\":\"a\",\"private_key\":\"x\\\\ny\"\x7d"
    let connection : Connection := ⟨none, some text, none, none⟩
    let world : World := ⟨[], .initial, 0, ⟨true, [], [], .ignored⟩, []⟩
    let key : ServiceAccountKey := ⟨none, none, none, "a", none, none, "x\ny"⟩
    connection.HasKey ∧ HasRoom connection world ∧
      ∃ found guard path opened, (acquire connection).runIn world = (.ok guard, opened) ∧
        guard.exported = some path ∧ Agrees connection key found := by
  intro text connection world key
  have htext : connection.Sets .keyData text := ⟨rfl, by decide⟩
  have hkey : connection.HasKey := ⟨text, .inr htext⟩
  have hroom : HasRoom connection world := by
    intro other _ hother
    rw [← htext.unique hother]
    have hmade : (world.files.makeTemporary (temporaryDirectory world.environment)
        (Bytes.ofText text)).isOk = true := by decide +kernel
    cases h : world.files.makeTemporary (temporaryDirectory world.environment)
        (Bytes.ofText text) with
    | ok made => exact ⟨made, rfl⟩
    | error failure =>
        rw [h] at hmade
        cases hmade
  let resolver := Resolver.ofConnection ⟨none, none, none, none⟩ connection
  have hresolved : (resolver.credentials.runIn world).1.toOption =
      some (.ofKey key connection.scopes) := by decide +kernel
  cases houtcome : (resolver.credentials.runIn world).1 with
  | error error =>
      rw [houtcome] at hresolved
      cases hresolved
  | ok credentials =>
      rw [houtcome] at hresolved
      cases hresolved
      obtain ⟨_, found, guard, path, opened, hholds, hrun, hexported, hagrees, _⟩ :=
        (handsOver connection world).handed resolver _ rfl rfl hkey houtcome hroom
      obtain rfl := Option.some.inj hholds.key_eq
      exact ⟨hkey, hroom, found, guard, path, opened, hrun, hexported, hagrees⟩

end Guard

end CloudCredentials
