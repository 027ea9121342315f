import CloudCredentials.Proofs.Json.Values
import CloudCredentials.Session.Step
import Mathlib.Data.List.Induction

/-!
# Two forms of one fallback

An operation on a project is called with parameters of its own type or with keyword arguments.
`Preferred` is the rule by which both forms find the project. `FallbacksAgree` says that both run
their operation once, on the same project and with everything else as it was, or neither runs it,
and which arguments are refused. `fallbacks_agree` says so of all parameters and of every list of
arguments.
-/

namespace CloudCredentials

/-- `Preferred explicit default project` says which project an operation is run on: the one that the
caller asks for, or the default where the caller asks for none. An empty text asks for none. -/
inductive Preferred (explicit default : Option String) (project : String) : Prop where
  | asked (h : explicit = some project) (hne : project ≠ "")
  | fallback (hunasked : ∀ text, explicit = some text → text = "") (h : default = some project)
      (hne : project ≠ "")

variable {explicit default : Option String}

/-- The project that is preferred is not empty. -/
theorem Preferred.ne_empty {project : String} (h : Preferred explicit default project) :
    project ≠ "" := by
  cases h with
  | asked _ hne => exact hne
  | fallback _ _ hne => exact hne

/-- A project is chosen exactly if it is the one that is preferred. -/
theorem chooseProject_eq_ok_iff (project : String) :
    chooseProject explicit default = .ok project ↔ Preferred explicit default project := by
  have hfilter : ∀ text : Option String,
      text.filter (· ≠ "") = none ↔ ∀ word, text = some word → word = "" := by
    intro text
    cases text <;> simp
  unfold chooseProject
  cases hexplicit : explicit.filter (· ≠ "") with
  | some asked =>
      obtain ⟨hasked, hne⟩ := Option.filter_eq_some_iff.1 hexplicit
      have hne : asked ≠ "" := by simpa using hne
      rw [Option.some_or]
      constructor
      · rintro ⟨⟩
        exact .asked hasked hne
      · rintro (⟨h, _⟩ | ⟨hunasked, _, _⟩)
        · rw [Option.some.inj (hasked.symm.trans h)]
        · exact absurd (hunasked asked hasked) hne
  | none =>
      have hunasked := (hfilter explicit).1 hexplicit
      rw [Option.none_or]
      cases hdefault : default.filter (· ≠ "") with
      | some offered =>
          obtain ⟨hoffered, hne⟩ := Option.filter_eq_some_iff.1 hdefault
          have hne : offered ≠ "" := by simpa using hne
          constructor
          · rintro ⟨⟩
            exact .fallback hunasked hoffered hne
          · rintro (⟨h, hne⟩ | ⟨_, h, _⟩)
            · exact absurd (hunasked project h) hne
            · rw [Option.some.inj (hoffered.symm.trans h)]
      | none =>
          refine iff_of_false (by simp) ?_
          rintro (⟨h, hne⟩ | ⟨_, h, hne⟩)
          · exact hne (hunasked project h)
          · exact hne ((hfilter default).1 hdefault project h)

/-- Where no project is preferred, the failure says that the project is missing. -/
theorem chooseProject_eq_error (h : ∀ project, ¬ Preferred explicit default project) :
    chooseProject explicit default = .error .missingProjectId := by
  unfold chooseProject
  split
  · next project hproject =>
      refine absurd ((chooseProject_eq_ok_iff project).1 ?_) (h project)
      rw [chooseProject, hproject]
  · rfl

/-! ## Parameters -/

/-- Parameters whose project is a place of its own: what has been put there is read there, and
putting something there changes nothing else. -/
class LawfulProjectScoped (Parameters : Type) [ProjectScoped Parameters] : Prop where
  project_withProject (parameters : Parameters) (project : String) :
    ProjectScoped.project (ProjectScoped.withProject parameters project) = some project
  withProject_withProject (parameters : Parameters) (first second : String) :
    ProjectScoped.withProject (ProjectScoped.withProject parameters first) second =
      ProjectScoped.withProject parameters second

instance : LawfulProjectScoped Session.DatasetParameters where
  project_withProject _ _ := rfl
  withProject_withProject _ _ _ := rfl

/-- The parameters differ in the project alone: with the same project in both they are equal. -/
def SameButProject {Parameters : Type} [ProjectScoped Parameters]
    (left right : Parameters) : Prop :=
  ∀ project, ProjectScoped.withProject left project = ProjectScoped.withProject right project

section Operations

variable {n : Type → Type} [Monad n] [LawfulMonad n] {Parameters α β : Type}
  [ProjectScoped Parameters]

/-- An operation is run with the project that is preferred, and nothing is done besides. -/
theorem withChosenProject_of_preferred {parameters : Parameters} {project : String}
    (h : Preferred (ProjectScoped.project parameters) default project)
    (operation : Parameters → ExceptT Error n α) :
    withChosenProject default parameters operation =
      operation (ProjectScoped.withProject parameters project) := by
  rw [withChosenProject, (chooseProject_eq_ok_iff project).2 h]
  exact pure_bind project _

/-- An operation without a project is not run. -/
theorem withChosenProject_of_missing {parameters : Parameters}
    (h : ∀ project, ¬ Preferred (ProjectScoped.project parameters) default project)
    (operation : Parameters → ExceptT Error n α) :
    withChosenProject default parameters operation = throw .missingProjectId := by
  rw [withChosenProject, chooseProject_eq_error h]
  apply ExceptT.ext
  rw [ExceptT.run_bind]
  exact pure_bind _ _

end Operations

/-! ## Arguments -/

namespace Json

/-- Putting a member leaves all members of other names as they are, in their order. -/
theorem filter_putMember (name : String) (value : Value) (members : Members) :
    (putMember name value members).filter (·.1 ≠ name) = members.filter (·.1 ≠ name) := by
  induction members with
  | nil => simp [putMember]
  | cons entry rest ih =>
      obtain ⟨other, present⟩ := entry
      rw [putMember]
      split
      · next heq => simp [heq]
      · split
        · simp
        · rw [List.filter_cons, List.filter_cons, ih]

end Json

namespace CallArguments

/-- An argument that a caller adds. -/
inductive Argument where
  | positional (value : Json.Value)
  | keyword (name : String) (value : Json.Value)

namespace Argument

/-- The value of a positional argument. -/
def positional? : Argument → Option Json.Value
  | .positional value => some value
  | .keyword _ _ => none

/-- The value that an argument writes under a name. -/
def written? (name : String) : Argument → Option Json.Value
  | .positional _ => none
  | .keyword other value => if other = name then some value else none

end Argument

/-- The call with one more argument. -/
def add (call : CallArguments) : Argument → CallArguments
  | .positional value => call.argument value
  | .keyword name value => call.keyword name value

/-- The call with these arguments, added one after the other. -/
def ofArguments (arguments : List Argument) : CallArguments :=
  arguments.foldl add empty

/-- The value that is written last under a name. -/
def lastWritten (arguments : List Argument) (name : String) : Option Json.Value :=
  (arguments.filterMap (·.written? name)).getLast?

/-- `Asks arguments explicit` says which project the arguments ask for. Without the keyword, and
with null, they ask for none. -/
inductive Asks (arguments : List Argument) : Option String → Prop where
  | absent (h : lastWritten arguments projectKeyword = none) : Asks arguments none
  | null (h : lastWritten arguments projectKeyword = some .null) : Asks arguments none
  | text (project : String) (h : lastWritten arguments projectKeyword = some (.string project)) :
      Asks arguments (some project)

/-- The keyword arguments other than the project. -/
def others (call : CallArguments) : Json.Members :=
  call.keywords.filter (·.1 ≠ projectKeyword)

/-- The positional arguments of a call are those that were added, in their order. -/
theorem positional_ofArguments (arguments : List Argument) :
    (ofArguments arguments).positional = arguments.filterMap Argument.positional? := by
  induction arguments using List.reverseRecOn with
  | nil => rfl
  | append_singleton arguments last ih =>
      rw [ofArguments, List.foldl_append, List.filterMap_append, ← ih]
      cases last with
      | positional value => rfl
      | keyword name value => exact (List.append_nil _).symm

/-- A last argument is what is written last under its name. -/
theorem lastWritten_append_singleton (arguments : List Argument) (last : Argument)
    (name : String) :
    lastWritten (arguments ++ [last]) name =
      (last.written? name).or (lastWritten arguments name) := by
  rw [lastWritten, List.filterMap_append]
  cases h : last.written? name with
  | none => simp [h, lastWritten]
  | some value => simp [h]

/-- One more argument is found under its name, and under other names what was there before. -/
theorem get?_add (call : CallArguments) (argument : Argument) (name : String) :
    (call.add argument).get? name = (argument.written? name).or (call.get? name) := by
  cases argument with
  | positional value => rfl
  | keyword other value =>
      by_cases heq : other = name
      · subst heq
        rw [Argument.written?, if_pos rfl]
        exact Json.member?_putMember_self other value call.keywords
      · rw [Argument.written?, if_neg heq]
        exact Json.member?_putMember_of_ne other name value call.keywords (Ne.symm heq)

/-- The keyword argument of a name is the one that was written last. -/
theorem get?_ofArguments (arguments : List Argument) (name : String) :
    (ofArguments arguments).get? name = lastWritten arguments name := by
  induction arguments using List.reverseRecOn with
  | nil => rfl
  | append_singleton arguments last ih =>
      rw [lastWritten_append_singleton, ← ih, ← get?_add, ofArguments, List.foldl_append]
      rfl

variable {arguments : List Argument}

/-- A call has no positional arguments if none were added. -/
theorem positional_isEmpty_iff :
    (ofArguments arguments).positional.isEmpty = true ↔
      ∀ value, Argument.positional value ∉ arguments := by
  rw [positional_ofArguments, List.isEmpty_iff, List.filterMap_eq_nil_iff]
  constructor
  · intro h value hmem
    cases h _ hmem
  · intro h argument hmem
    cases argument with
    | positional value => exact absurd hmem (h value)
    | keyword name value => rfl

/-- The project that a call asks for is the one that its arguments ask for. -/
theorem explicitProject_of_asks (h : Asks arguments explicit) :
    (ofArguments arguments).explicitProject = .ok explicit := by
  unfold explicitProject
  rw [get?_ofArguments]
  cases h with
  | absent h => rw [h]
  | null h => rw [h]
  | text project h => rw [h]

/-- A project that is neither null nor a string is refused, with its text. -/
theorem explicitProject_of_unsuitable {value : Json.Value}
    (h : lastWritten arguments projectKeyword = some value) (hnull : value ≠ .null)
    (htext : ∀ text, value ≠ .string text) :
    (ofArguments arguments).explicitProject =
      .error (.invalidArgument ("project_id must be a string, got " ++ value.text)) := by
  unfold explicitProject
  rw [get?_ofArguments, h]
  cases value with
  | null => exact absurd rfl hnull
  | string text => exact absurd rfl (htext text)
  | boolean _ => rfl
  | number _ => rfl
  | array _ => rfl
  | object _ => rfl

/-- A call with a project asks for it. -/
theorem explicitProject_keyword (call : CallArguments) (project : String) :
    (call.keyword projectKeyword (.string project)).explicitProject = .ok (some project) := by
  rw [explicitProject, get?, keyword, Json.member?_putMember_self]

/-- A call with a project has it as its project. -/
theorem project_keyword (call : CallArguments) (project : String) :
    (call.keyword projectKeyword (.string project)).project = some project := by
  rw [CallArguments.project, get?, keyword, Json.member?_putMember_self]
  rfl

/-- A call is given a project if it has no positional arguments, asks for a project or none in a
suitable way, and there is one that is preferred. -/
theorem withProject_eq_ok_iff {call given : CallArguments} :
    call.withProject default = .ok given ↔
      call.positional.isEmpty = true ∧ ∃ explicit project,
        call.explicitProject = .ok explicit ∧ Preferred explicit default project ∧
          given = call.keyword projectKeyword (.string project) := by
  unfold withProject
  cases hpositional : call.positional.isEmpty with
  | false => simp
  | true =>
      rw [if_pos rfl]
      cases hexplicit : call.explicitProject with
      | error error => exact iff_of_false (by rintro ⟨⟩) (by simp)
      | ok explicit =>
          simp only [bind, Except.bind, ← chooseProject_eq_ok_iff]
          cases hchosen : chooseProject explicit default with
          | error error => exact iff_of_false (by rintro ⟨⟩) (by simp [hchosen])
          | ok project =>
              constructor
              · rintro ⟨⟩
                exact ⟨trivial, explicit, project, rfl, hchosen, rfl⟩
              · rintro ⟨-, _, _, ⟨⟩, hproject, rfl⟩
                cases hchosen.symm.trans hproject
                rfl

/-- Arguments that have been given a project keep it, whatever the default. -/
theorem withProject_of_eq_ok {call given : CallArguments} (h : call.withProject default = .ok given)
    (other : Option String) : given.withProject other = .ok given := by
  obtain ⟨hpositional, explicit, project, -, hpreferred, rfl⟩ := withProject_eq_ok_iff.1 h
  refine withProject_eq_ok_iff.2 ⟨hpositional, some project, project,
    explicitProject_keyword call project, .asked rfl hpreferred.ne_empty, ?_⟩
  rw [keyword, keyword, Json.putMember_putMember]

/-- Without a project that is preferred, none is given. -/
theorem withProject_of_missing (hpositional : ∀ value, Argument.positional value ∉ arguments)
    (hasks : Asks arguments explicit) (h : ∀ project, ¬ Preferred explicit default project) :
    (ofArguments arguments).withProject default = .error .missingProjectId := by
  rw [withProject, if_pos (positional_isEmpty_iff.2 hpositional), explicitProject_of_asks hasks]
  simp only [bind, Except.bind, chooseProject_eq_error h]

/-- A positional argument is refused. -/
theorem withProject_of_positional {value : Json.Value}
    (h : Argument.positional value ∈ arguments) :
    (ofArguments arguments).withProject default = .error .positionalArgumentRejected := by
  have hsome : (ofArguments arguments).positional.isEmpty = false := by
    rw [Bool.eq_false_iff]
    exact fun hnone => positional_isEmpty_iff.1 hnone value h
  rw [withProject, hsome]
  rfl

/-- A project that is neither null nor a string is refused. -/
theorem withProject_of_unsuitable (hpositional : ∀ value, Argument.positional value ∉ arguments)
    {value : Json.Value} (h : lastWritten arguments projectKeyword = some value)
    (hnull : value ≠ .null) (htext : ∀ text, value ≠ .string text) :
    (ofArguments arguments).withProject default =
      .error (.invalidArgument ("project_id must be a string, got " ++ value.text)) := by
  rw [withProject, if_pos (positional_isEmpty_iff.2 hpositional),
    explicitProject_of_unsuitable h hnull htext]
  rfl

end CallArguments

section Operations

open CallArguments

variable {n : Type → Type} [Monad n] {β : Type} {arguments : List Argument}

/-- An operation on keyword arguments is run with the project that is preferred, and nothing is done
besides. -/
theorem withChosenProjectArguments_of_preferred {project : String}
    (hpositional : ∀ value, Argument.positional value ∉ arguments) (hasks : Asks arguments explicit)
    (h : Preferred explicit default project) (operation : CallArguments → ExceptT Error n β) :
    withChosenProjectArguments default (ofArguments arguments) operation =
      operation ((ofArguments arguments).keyword projectKeyword (.string project)) := by
  have hwith : (ofArguments arguments).withProject default =
      .ok ((ofArguments arguments).keyword projectKeyword (.string project)) :=
    withProject_eq_ok_iff.2 ⟨positional_isEmpty_iff.2 hpositional, explicit, project,
      explicitProject_of_asks hasks, h, rfl⟩
  rw [withChosenProjectArguments, hwith]

end Operations

/-! ## Both forms -/

/-- A way to run operations on parameters of a type. The operations may have any effects, and may
fail. -/
abbrev Form (Parameters : Type) : Type 1 :=
  ∀ (n : Type → Type) [Monad n] [LawfulMonad n] (α : Type),
    (Parameters → ExceptT Error n α) → ExceptT Error n α

/-- Run an operation with the project that its parameters or the default name. -/
def typedForm {Parameters : Type} [ProjectScoped Parameters] (default : Option String)
    (parameters : Parameters) : Form Parameters :=
  fun _ _ _ _ operation => withChosenProject default parameters operation

/-- Run an operation with the project that its keyword arguments or the default name. -/
def keywordForm (default : Option String) (call : CallArguments) : Form CallArguments :=
  fun _ _ _ _ operation => withChosenProjectArguments default call operation

namespace Form

variable {Parameters : Type}

/-- Every operation is run once, on these parameters, and what it does and what comes of it is all
that is done and all that comes of it. -/
def RunsOnce (form : Form Parameters) (seen : Parameters) : Prop :=
  ∀ (n : Type → Type) [Monad n] [LawfulMonad n] (α : Type)
    (operation : Parameters → ExceptT Error n α),
    form n α operation = operation seen

/-- No operation is run, and the error is this one. -/
def Refuses (form : Form Parameters) (error : Error) : Prop :=
  ∀ (n : Type → Type) [Monad n] [LawfulMonad n] (α : Type)
    (operation : Parameters → ExceptT Error n α),
    form n α operation = throw error

/-- Every operation is run as it would be without the form inside. -/
def Absorbs (form : Form Parameters) (inner : Parameters → Form Parameters) : Prop :=
  ∀ (n : Type → Type) [Monad n] [LawfulMonad n] (α : Type)
    (operation : Parameters → ExceptT Error n α),
    form n α (fun seen => inner seen n α operation) = form n α operation

end Form

open CallArguments

/-- `FallbacksAgree default parameters arguments` says how operations are run on parameters and on
arguments that may leave the project to a default. -/
structure FallbacksAgree {Parameters : Type} [ProjectScoped Parameters] (default : Option String)
    (parameters : Parameters) (arguments : List Argument) : Prop where
  /-- Where both ask for the same, both run the operation on the project that is preferred, with all
  other parameters and arguments as they were, or neither runs it and the project is missing. -/
  alike (hpositional : ∀ value, Argument.positional value ∉ arguments)
    (hasks : Asks arguments (ProjectScoped.project parameters)) :
    (∃ project seen call, Preferred (ProjectScoped.project parameters) default project ∧
      (typedForm default parameters).RunsOnce seen ∧
        ProjectScoped.project seen = some project ∧ SameButProject seen parameters ∧
      (keywordForm default (ofArguments arguments)).RunsOnce call ∧
        call.project = some project ∧ call.positional = [] ∧
        call.others = (ofArguments arguments).others) ∨
    (∀ project, ¬ Preferred (ProjectScoped.project parameters) default project) ∧
      (typedForm default parameters).Refuses .missingProjectId ∧
      (keywordForm default (ofArguments arguments)).Refuses .missingProjectId
  /-- A positional argument is refused, whatever the keywords and the default. -/
  positional_refused (value : Json.Value) (h : Argument.positional value ∈ arguments) :
    (keywordForm default (ofArguments arguments)).Refuses .positionalArgumentRejected
  /-- After that a project is refused that is neither null nor a string, whatever the default. -/
  unsuitable_refused (hpositional : ∀ value, Argument.positional value ∉ arguments)
    (value : Json.Value) (h : lastWritten arguments projectKeyword = some value)
    (hnull : value ≠ .null) (htext : ∀ text, value ≠ .string text) :
    (keywordForm default (ofArguments arguments)).Refuses
      (.invalidArgument ("project_id must be a string, got " ++ value.text))
  /-- Inside a form that has found the project, another default does not count. -/
  nested (other : Option String) :
    (typedForm default parameters).Absorbs (typedForm other) ∧
      (keywordForm default (ofArguments arguments)).Absorbs (keywordForm other)
  /-- The default of a resolver is the project of its connection, in both forms. -/
  of_resolver (resolver : Resolver) (h : resolver.connection.project = default)
    (n : Type → Type) [Monad n] [LawfulMonad n] (α β : Type)
    (typed : Parameters → ExceptT Error n α) (dynamic : CallArguments → ExceptT Error n β) :
    resolver.withProject parameters typed = typedForm default parameters n α typed ∧
      resolver.withProjectArguments (ofArguments arguments) dynamic =
        keywordForm default (ofArguments arguments) n β dynamic

section Agreement

variable {Parameters : Type} [ProjectScoped Parameters] [LawfulProjectScoped Parameters]

/-- Parameters that have been given a project differ from what they were in the project alone. -/
theorem sameButProject_withProject (parameters : Parameters) (project : String) :
    SameButProject (ProjectScoped.withProject parameters project) parameters :=
  fun _ => LawfulProjectScoped.withProject_withProject parameters project _

/-- Inside a form that has found the project, another default does not count. -/
theorem typedForm_absorbs (parameters : Parameters) (other : Option String) :
    (typedForm default parameters).Absorbs (typedForm other) := by
  intro n _ _ α operation
  show withChosenProject default parameters
    (fun seen => withChosenProject other seen operation) = withChosenProject default parameters _
  by_cases h : ∃ project, Preferred (ProjectScoped.project parameters) default project
  · obtain ⟨project, hpreferred⟩ := h
    have hagain : Preferred
        (ProjectScoped.project (ProjectScoped.withProject parameters project)) other project :=
      .asked (LawfulProjectScoped.project_withProject parameters project) hpreferred.ne_empty
    rw [withChosenProject_of_preferred hpreferred, withChosenProject_of_preferred hagain,
      withChosenProject_of_preferred hpreferred,
      LawfulProjectScoped.withProject_withProject parameters project project]
  · have hmissing := not_exists.1 h
    rw [withChosenProject_of_missing hmissing, withChosenProject_of_missing hmissing]

/-- Inside a form that has found the project, another default does not count. -/
theorem keywordForm_absorbs (call : CallArguments) (other : Option String) :
    (keywordForm default call).Absorbs (keywordForm other) := by
  intro n _ _ α operation
  show withChosenProjectArguments default call
    (fun seen => withChosenProjectArguments other seen operation) =
      withChosenProjectArguments default call operation
  unfold withChosenProjectArguments
  cases hgiven : call.withProject default with
  | error error => rfl
  | ok given => simp only [withProject_of_eq_ok hgiven other]

/-- No operation is run on arguments that are refused. -/
theorem keywordForm_refuses {call : CallArguments} {error : Error}
    (h : call.withProject default = .error error) : (keywordForm default call).Refuses error := by
  intro n _ _ α operation
  show withChosenProjectArguments default call operation = _
  rw [withChosenProjectArguments, h]

/-- The two forms of the fallback agree, for all parameters with a project of their own and for
every list of arguments. -/
theorem fallbacks_agree (default : Option String) (parameters : Parameters)
    (arguments : List Argument) : FallbacksAgree default parameters arguments := by
  constructor
  case alike =>
    intro hpositional hasks
    by_cases h : ∃ project, Preferred (ProjectScoped.project parameters) default project
    · obtain ⟨project, hpreferred⟩ := h
      refine .inl ⟨project, ProjectScoped.withProject parameters project,
        (ofArguments arguments).keyword projectKeyword (.string project), hpreferred, ?_, ?_, ?_,
        ?_, ?_, ?_, ?_⟩
      · intro n _ _ α operation
        exact withChosenProject_of_preferred hpreferred operation
      · exact LawfulProjectScoped.project_withProject parameters project
      · exact sameButProject_withProject parameters project
      · intro n _ _ α operation
        exact withChosenProjectArguments_of_preferred hpositional hasks hpreferred operation
      · exact project_keyword _ project
      · exact List.isEmpty_iff.1 (positional_isEmpty_iff.2 hpositional)
      · exact Json.filter_putMember projectKeyword _ _
    · have hmissing := not_exists.1 h
      refine .inr ⟨hmissing, ?_, ?_⟩
      · intro n _ _ α operation
        exact withChosenProject_of_missing hmissing operation
      · exact keywordForm_refuses (withProject_of_missing hpositional hasks hmissing)
  case positional_refused =>
    intro value hmem
    exact keywordForm_refuses (withProject_of_positional hmem)
  case unsuitable_refused =>
    intro hpositional value hvalue hnull htext
    exact keywordForm_refuses (withProject_of_unsuitable hpositional hvalue hnull htext)
  case nested =>
    intro other
    exact ⟨typedForm_absorbs parameters other, keywordForm_absorbs _ other⟩
  case of_resolver =>
    intro resolver hproject n _ _ α β typed dynamic
    rw [Resolver.withProject, Resolver.withProjectArguments, resolver.project_eq, hproject]
    exact ⟨rfl, rfl⟩

/-- A data set and arguments without a project fall back alike, and a bucket among the arguments
stays. -/
theorem fallbacks_agree_of_bucket :
    FallbacksAgree (some "shared") (⟨none, some "logs"⟩ : Session.DatasetParameters)
        [.keyword "bucket" (.string "b"), .keyword "project_id" .null] ∧
      Asks [.keyword "bucket" (.string "b"), .keyword "project_id" .null] none :=
  ⟨fallbacks_agree _ _ _, .null rfl⟩

end Agreement

end CloudCredentials
