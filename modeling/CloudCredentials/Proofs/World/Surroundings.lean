import CloudCredentials.Proofs.Credentials.Decision
import CloudCredentials.Proofs.World.Building

/-!
# Actions that leave the surroundings as they are

Whatever is asked of a registry, a resolver, credentials or a client changes the network and the log
alone. An action that changes neither a variable of the environment nor a file `LeavesSurroundings`.
There is one lemma for each way to build an action, and from these one for each action of the
library.
-/

namespace CloudCredentials

/-- The environment and the files of a world. -/
def World.surroundings (world : World) : Environment × FileSystem :=
  (world.environment, world.files)

namespace Action

variable {α β : Type}

/-- The action changes neither the environment nor a file, in any world. -/
def LeavesSurroundings (action : Action α) : Prop :=
  ∀ world, (action.runIn world).2.surroundings = world.surroundings

/-- A result leaves the surroundings. -/
theorem leaves_pure (value : α) : LeavesSurroundings (pure value) :=
  fun _ => rfl

/-- An error leaves the surroundings. -/
theorem leaves_throw (error : Error) : LeavesSurroundings (throw error : Action α) :=
  fun _ => rfl

/-- An outcome leaves the surroundings. -/
theorem leaves_ofExcept (outcome : Except Error α) : LeavesSurroundings (ofExcept outcome) := by
  intro world
  rw [runIn_ofExcept]

/-- Looking at the world leaves the surroundings. -/
theorem leaves_ask (view : World → α) : LeavesSurroundings (ask view) :=
  fun _ => rfl

/-- An event leaves the surroundings. -/
theorem leaves_report (level : Level) (speaker : Speaker) (message : String)
    (fields : List LogField) : LeavesSurroundings (report level speaker message fields) :=
  fun _ => rfl

/-- A request leaves the surroundings. -/
theorem leaves_send (request : Http.Request) : LeavesSurroundings (send request) :=
  fun _ => rfl

/-- Actions one after the other leave the surroundings if each does. -/
theorem LeavesSurroundings.bind {action : Action α} {next : α → Action β}
    (h : LeavesSurroundings action) (hnext : ∀ value, LeavesSurroundings (next value)) :
    LeavesSurroundings (action >>= next) := by
  intro world
  have hbetween := h world
  rw [runIn_bind]
  rcases hrun : action.runIn world with ⟨outcome, between⟩
  rw [hrun] at hbetween
  cases outcome with
  | error error => exact hbetween
  | ok value => exact (hnext value between).trans hbetween

/-- Actions are built in ways that leave the surroundings, whatever is logged. -/
theorem closed_leavesSurroundings : Closed (fun _ => LeavesSurroundings) fun _ => True where
  of_pure := leaves_pure
  of_throw := leaves_throw
  of_ofExcept := leaves_ofExcept
  of_ask := leaves_ask
  of_send := leaves_send
  of_report := fun _ level speaker => leaves_report level speaker _
  of_bind := LeavesSurroundings.bind

end Action

open CloudCredentials.Action (LeavesSurroundings closed_leavesSurroundings leaves_pure leaves_throw
  leaves_ofExcept leaves_ask leaves_report leaves_send)

/-! ## Credentials and clients -/

/-- Fetching a token leaves the surroundings. -/
theorem leaves_token (credentials : Credentials) : LeavesSurroundings credentials.token := by
  obtain ⟨identity, scopes⟩ := credentials
  cases identity with
  | serviceAccount key subject =>
      exact (leaves_ask id).bind fun _ => (leaves_ofExcept _).bind fun _ =>
        (leaves_report _ _ _ _).bind fun _ => (leaves_send _).bind fun _ => leaves_ofExcept _
  | machine root => exact (leaves_send _).bind fun _ => leaves_ofExcept _
  | accessToken token => exact leaves_pure token

/-- Decorating headers leaves the surroundings. -/
theorem leaves_apply (headers : Http.Headers) (decoration : Decoration) :
    LeavesSurroundings (decoration.apply headers) := by
  cases decoration with
  | userAgent product => exact leaves_ofExcept _
  | bearer provider =>
      refine LeavesSurroundings.bind ?_ fun _ => leaves_ofExcept _
      cases provider with
      | fixed token => exact leaves_pure token
      | failing error => exact leaves_throw error
      | credentials held => exact leaves_token held

/-- Preparing headers leaves the surroundings. -/
theorem leaves_prepareHeaders (client : Client) (headers : Http.Headers) :
    LeavesSurroundings (client.prepareHeaders headers) := by
  obtain ⟨decorations⟩ := client
  induction decorations generalizing headers with
  | nil => exact leaves_pure headers
  | cons decoration decorations ih => exact (leaves_apply headers decoration).bind ih

/-- Sending a request leaves the surroundings. -/
theorem leaves_request (client : Client) (method address : String) (headers : Http.Headers)
    (body : Option Bytes) : LeavesSurroundings (client.request method address headers body) := by
  refine (leaves_prepareHeaders client headers).bind fun _ => ?_
  refine (leaves_report _ _ _ _).bind fun _ => (leaves_send _).bind fun outcome => ?_
  cases outcome with
  | error fault => exact (leaves_report _ _ _ _).bind fun _ => leaves_throw _
  | ok response => exact (leaves_report _ _ _ _).bind fun _ => leaves_pure _

namespace Resolver

/-- Asking a source leaves the surroundings. -/
theorem leaves_fromSource (resolver : Resolver) (source : CredentialSource) :
    LeavesSurroundings (resolver.fromSource source) := by
  cases source with
  | ambient =>
      exact (leaves_report _ _ _ _).bind fun _ =>
        closed_leavesSurroundings.ambient (fun _ _ => trivial) resolver.ambient _
  | keyFile path =>
      exact (leaves_report _ _ _ _).bind fun _ =>
        (closed_leavesSurroundings.ofFile path).bind fun _ => leaves_pure _
  | keyData text =>
      exact (leaves_report _ _ _ _).bind fun _ => (leaves_ofExcept _).bind fun _ => leaves_pure _

/-- Making credentials leaves the surroundings. -/
theorem leaves_credentials (resolver : Resolver) : LeavesSurroundings resolver.credentials := by
  intro world
  rw [runIn_credentials]
  cases resolver.connection.source with
  | error error => rfl
  | ok source => exact resolver.leaves_fromSource source _

end Resolver

end CloudCredentials
