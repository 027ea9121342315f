import CloudCredentials.Http.Exchange
import CloudCredentials.World.Environment
import CloudCredentials.World.Event
import CloudCredentials.World.FileSystem

/-!
# The world and the actions on it

The world holds all that credentials depend on and act on: the environment, the files, the clock,
the network and the log. An action changes the world and ends in a result or an error; what it did
before an error stays done. The lemmas say what each basic action leads to; `runIn_bind` says that
the second of two actions starts in the world that the first leaves, unless the first fails.
-/

namespace CloudCredentials

/-- The surroundings of the program. -/
structure World where
  environment : Environment
  files : FileSystem
  /-- The seconds since the start of 1970. -/
  clock : Int
  network : Http.Network
  /-- The events so far, earliest first. -/
  log : List Event

/-- A computation that may change the world and may fail. -/
abbrev Action (α : Type) := ExceptT Error (StateM World) α

namespace Action

/-- Run an action in a world. -/
def runIn {α : Type} (action : Action α) (world : World) : Except Error α × World :=
  action.run.run world

/-- The value of an expression on the world. -/
def ask {α : Type} (view : World → α) : Action α := do
  return view (← get)

/-- A result or an error that does not depend on the world. -/
def ofExcept {α : Type} : Except Error α → Action α
  | .ok value => pure value
  | .error error => throw error

/-- Add an event to the log. -/
def report (level : Level) (speaker : Speaker) (message : String) (fields : List LogField) :
    Action Unit :=
  modify fun world => { world with log := world.log ++ [⟨level, speaker, message, fields⟩] }

/-- The text that a variable is set to. -/
def readVariable (name : String) : Action (Option String) :=
  ask (·.environment.text? name)

/-- The text that a variable is set to, unless it is empty. -/
def readNonEmptyVariable (name : String) : Action (Option String) := do
  return (← readVariable name).filter (· ≠ "")

/-- Send a request. -/
def send (request : Http.Request) : Action (Except Http.TransportFault Http.Response) := do
  let world ← get
  let (outcome, network) := world.network.send request
  set { world with network }
  return outcome

variable {α β : Type}

/-- A result alone leaves the world as it is. -/
@[simp] theorem runIn_pure (value : α) (world : World) :
    runIn (pure value) world = (.ok value, world) := rfl

/-- An action and what follows it. -/
theorem runIn_bind (action : Action α) (next : α → Action β) (world : World) :
    runIn (action >>= next) world =
      match runIn action world with
      | (.ok value, between) => runIn (next value) between
      | (.error error, between) => (.error error, between) := by
  simp only [runIn, ExceptT.run_bind, StateT.run_bind]
  rcases action.run.run world with ⟨outcome, between⟩
  cases outcome with
  | ok value => rfl
  | error error => rfl

/-- What follows an action that gives a result starts from the world that the action leaves. -/
theorem runIn_bind_of_ok {action : Action α} {world between : World} {value : α}
    (h : runIn action world = (.ok value, between)) (next : α → Action β) :
    runIn (action >>= next) world = runIn (next value) between := by
  rw [runIn_bind, h]

/-- Nothing follows an action that fails. -/
theorem runIn_bind_of_error {action : Action α} {world between : World} {error : Error}
    (h : runIn action world = (.error error, between)) (next : α → Action β) :
    runIn (action >>= next) world = (.error error, between) := by
  rw [runIn_bind, h]

/-- What is done finally is done in the world that an action leaves, and the outcome stays. -/
theorem runIn_finally (action : Action α) (last : World → World) (world : World) :
    runIn (try action finally modify last) world =
      ((runIn action world).1, last (runIn action world).2) := by
  rcases hrun : runIn action world with ⟨outcome, after⟩
  have hstate : action world = (outcome, after) := hrun
  unfold runIn
  show (tryFinally action (modify last) : Action α) world = _
  simp only [tryFinally, tryFinally', Functor.map, ExceptT.map, StateT.bind, bind, ExceptT.mk,
    pure, hstate]
  cases outcome with
  | ok value => rfl
  | error error => rfl

/-- The world itself can be asked for. -/
@[simp] theorem runIn_get (world : World) :
    runIn (get : Action World) world = (.ok world, world) := rfl

/-- Looking at the world leaves it as it is. -/
@[simp] theorem runIn_ask (view : World → α) (world : World) :
    runIn (ask view) world = (.ok (view world), world) := rfl

/-- An outcome that does not depend on the world leaves it as it is. -/
@[simp] theorem runIn_ofExcept (outcome : Except Error α) (world : World) :
    runIn (ofExcept outcome) world = (outcome, world) := by
  cases outcome with
  | ok value => rfl
  | error error => rfl

/-- An event goes to the end of the log, and nothing else changes. -/
@[simp] theorem runIn_report (level : Level) (speaker : Speaker) (message : String)
    (fields : List LogField) (world : World) :
    runIn (report level speaker message fields) world =
      (.ok (), { world with log := world.log ++ [⟨level, speaker, message, fields⟩] }) := rfl

/-- A request changes the network alone. -/
@[simp] theorem runIn_send (request : Http.Request) (world : World) :
    runIn (send request) world =
      (.ok (world.network.send request).1,
        { world with network := (world.network.send request).2 }) := rfl

end Action

end CloudCredentials
