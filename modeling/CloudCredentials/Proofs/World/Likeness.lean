import CloudCredentials.Proofs.Http.Recording
import CloudCredentials.World.Action
import Mathlib.Data.List.Forall2

/-!
# Actions that cannot be told apart

Two runs of the library are compared step by step. A `Likeness` says which environments, which files
and which requests count as the same; everything else of two worlds that are alike is equal, the log
included.
Actions are alike if they take worlds that are alike to like outcomes and to worlds that are alike.
There is one lemma for each way to build an action, so that a comparison follows its text.
-/

namespace CloudCredentials

/-- `Http.Congruent requests` says that requests can be taken for the same: each is the same as itself,
and two stay the same where both are redirected alike. -/
structure Http.Congruent (requests : SeenRequest → SeenRequest → Prop) : Prop where
  refl (seen : SeenRequest) : requests seen seen
  redirected (redirect : Redirect) {left right : SeenRequest} (h : requests left right) :
    requests (redirect.apply left) (redirect.apply right)

/-- Equal requests can be taken for the same. -/
theorem Http.congruent_eq : Congruent Eq where
  refl := fun _ => rfl
  redirected := fun redirect _ _ h => congrArg redirect.apply h

/-- Which environments, files and requests count as the same in a comparison of two runs. -/
structure Likeness where
  environments : Environment → Environment → Prop
  files : FileSystem → FileSystem → Prop
  requests : Http.SeenRequest → Http.SeenRequest → Prop

/-- Two worlds are alike: the environments, the files and the requests that have been seen count as
the same, and everything else is equal. -/
structure World.Alike (likeness : Likeness) (left right : World) : Prop where
  environment : likeness.environments left.environment right.environment
  files : likeness.files left.files right.files
  clock : left.clock = right.clock
  hasRoute : left.network.hasRoute = right.network.hasRoute
  replies : left.network.replies = right.network.replies
  redirection : left.network.redirection = right.network.redirection
  seen : List.Forall₂ likeness.requests left.network.seen right.network.seen
  log : left.log = right.log

/-- A world stays alike when its surroundings are replaced by others that count as the same. -/
theorem World.Alike.of_surroundings {likeness : Likeness} {world : World}
    {environment : Environment} {files : FileSystem}
    (henvironment : likeness.environments world.environment environment)
    (hfiles : likeness.files world.files files) (h : Http.Congruent likeness.requests) :
    World.Alike likeness world { world with environment, files } :=
  ⟨henvironment, hfiles, rfl, rfl, rfl, rfl, List.forall₂_same.2 fun seen _ => h.refl seen, rfl⟩

/-- Worlds that are alike have one network if only equal requests count as the same. -/
theorem World.Alike.network_eq {environments : Environment → Environment → Prop}
    {files : FileSystem → FileSystem → Prop} {left right : World}
    (h : World.Alike ⟨environments, files, Eq⟩ left right) : left.network = right.network := by
  have hseen := h.seen
  rw [List.forall₂_eq_eq_eq] at hseen
  rw [Http.Network.mk.injEq]
  exact ⟨h.hasRoute, h.replies, hseen, h.redirection⟩

/-- Two outcomes are alike: results that agree, or the same error. -/
inductive AlikeOutcome {α β : Type} (agree : α → β → Prop) : Except Error α → Except Error β → Prop
  where
  | ok {left : α} {right : β} (h : agree left right) : AlikeOutcome agree (.ok left) (.ok right)
  | error (error : Error) : AlikeOutcome agree (.error error) (.error error)

/-- Outcomes are alike up to equality exactly if they are equal. -/
theorem alikeOutcome_eq_iff {α : Type} {left right : Except Error α} :
    AlikeOutcome Eq left right ↔ left = right := by
  constructor
  · rintro (⟨⟨⟩⟩ | _)
    · rfl
    · rfl
  · rintro rfl
    cases left with
    | ok value => exact .ok rfl
    | error error => exact .error error

namespace Likeness

variable {likeness : Likeness} {α β γ δ : Type} {agree : α → β → Prop} {follow : γ → δ → Prop}

/-- Two actions are alike: worlds that are alike lead to outcomes and worlds that are alike. -/
def Alike (likeness : Likeness) {α β : Type} (agree : α → β → Prop) (left : Action α)
    (right : Action β) : Prop :=
  ∀ ⦃first second : World⦄, World.Alike likeness first second →
    AlikeOutcome agree (left.runIn first).1 (right.runIn second).1 ∧
      World.Alike likeness (left.runIn first).2 (right.runIn second).2

/-- Two requests are alike: they are sent to the same address in the same way, and count as the same
where they are seen. -/
structure SendsAlike (likeness : Likeness) (left right : Http.Request) : Prop where
  method_eq : left.method = right.method
  prepare_eq : left.prepare.map Prod.fst = right.prepare.map Prod.fst
  seen : Option.Rel likeness.requests left.seen? right.seen?
  congruent : Http.Congruent likeness.requests

/-- A request is alike to itself. -/
theorem SendsAlike.refl (h : Http.Congruent likeness.requests) (request : Http.Request) :
    likeness.SendsAlike request request := by
  refine ⟨rfl, rfl, ?_, h⟩
  cases request.seen? with
  | none => exact .none
  | some seen => exact .some (h.refl seen)

/-- Requests to one address are alike if they count as the same wherever they are seen. -/
theorem SendsAlike.of_same_address {left right : Http.Request}
    (hcongruent : Http.Congruent likeness.requests)
    (hmethod : left.method = right.method) (haddress : left.address = right.address)
    (hquery : left.query = right.query)
    (h : ∀ (read : Url.Address) (address : String), likeness.requests
      ⟨left.method, address, Http.headersFor read left.headers, left.body.getD [], false⟩
      ⟨right.method, address, Http.headersFor read right.headers, right.body.getD [], false⟩) :
    likeness.SendsAlike left right := by
  refine ⟨hmethod, ?_, ?_, hcongruent⟩
  · obtain ⟨fault, hleft, hright⟩ | ⟨address, read, hleft, hright⟩ :=
      Http.Request.prepare_congr haddress hquery
    · rw [hleft, hright]
    · rw [hleft, hright]
      rfl
  · unfold Http.Request.seen?
    obtain ⟨fault, hleft, hright⟩ | ⟨address, read, hleft, hright⟩ :=
      Http.Request.prepare_congr haddress hquery
    · rw [hleft, hright]
      exact .none
    · rw [hleft, hright]
      exact .some (h read address.requestText)

/-- Requests that count as the same lead to trails that do so: both are redirected alike. -/
theorem forall₂_seen_exchange {requests : Http.SeenRequest → Http.SeenRequest → Prop}
    (hcongruent : Http.Congruent requests) (redirection : Http.Redirection)
    (replies : List Http.Reply) (hops : Nat) {left right : Http.SeenRequest}
    (hmethod : left.method = right.method) (h : requests left right) (address : String) :
    List.Forall₂ requests (Http.exchange redirection replies hops left address).seen
      (Http.exchange redirection replies hops right address).seen := by
  induction replies generalizing hops left right address with
  | nil => exact .cons h .nil
  | cons reply replies ih =>
      rw [Http.exchange, Http.exchange, hmethod]
      split
      · exact .cons h .nil
      · split
        · exact .cons h .nil
        · exact .cons h .nil
        · exact .cons h .nil
        · next redirect hops _ =>
            have hnext : (redirect.apply left).method = (redirect.apply right).method := rfl
            exact .cons h (ih hops hnext (hcongruent.redirected redirect h) redirect.address)

/-- Requests that are alike have trails that are alike on networks that treat them alike. -/
theorem SendsAlike.trail {left right : Http.Request} (h : likeness.SendsAlike left right)
    {network other : Http.Network} (hroute : network.hasRoute = other.hasRoute)
    (hreplies : network.replies = other.replies)
    (hredirection : network.redirection = other.redirection) :
    List.Forall₂ likeness.requests (network.trail left) (other.trail right) := by
  obtain ⟨hmethod, hprepare, hseen, hcongruent⟩ := h
  unfold Http.Network.trail
  unfold Http.Request.seen? at hseen
  rcases hleft : left.prepare with fault | ⟨address, headers⟩
  · rcases hright : right.prepare with cause | ⟨address', headers'⟩
    · exact .nil
    · simp [hleft, hright, Except.map] at hprepare
  · rcases hright : right.prepare with cause | ⟨address', headers'⟩
    · simp [hleft, hright, Except.map] at hprepare
    · rw [hleft, hright] at hprepare hseen
      obtain rfl : address = address' := Except.ok.inj hprepare
      have hsame := Option.rel_some_some.1 hseen
      simp only [hroute, hreplies, hredirection]
      split
      · exact forall₂_seen_exchange hcongruent _ _ _ hmethod hsame _
      · exact .nil

/-- Results that agree are alike. -/
theorem alike_pure {left : α} {right : β} (h : agree left right) :
    likeness.Alike agree (pure left) (pure right) :=
  fun _ _ halike => ⟨.ok h, halike⟩

/-- Outcomes that are alike are alike as actions. -/
theorem alike_ofExcept {left : Except Error α} {right : Except Error β}
    (h : AlikeOutcome agree left right) :
    likeness.Alike agree (Action.ofExcept left) (Action.ofExcept right) := by
  intro first second halike
  rw [Action.runIn_ofExcept, Action.runIn_ofExcept]
  exact ⟨h, halike⟩

/-- The same error is alike to itself. -/
theorem alike_throw (error : Error) :
    likeness.Alike agree (throw error : Action α) (throw error : Action β) :=
  fun _ _ halike => ⟨.error error, halike⟩

/-- What follows actions that are alike is alike if it is so for results that agree. -/
theorem Alike.bind {left : Action α} {right : Action β} {next : α → Action γ}
    {follows : β → Action δ} (h : likeness.Alike agree left right)
    (hnext : ∀ first second, agree first second →
      likeness.Alike follow (next first) (follows second)) :
    likeness.Alike follow (left >>= next) (right >>= follows) := by
  intro first second halike
  have hboth := h halike
  rw [Action.runIn_bind, Action.runIn_bind]
  rcases hleft : left.runIn first with ⟨outcome, between⟩
  rcases hright : right.runIn second with ⟨other, another⟩
  rw [hleft, hright] at hboth
  obtain ⟨houtcome, hafter⟩ := hboth
  cases houtcome with
  | ok hagree => exact hnext _ _ hagree hafter
  | error error => exact ⟨.error error, hafter⟩

/-- Worlds that are alike are so when they are asked for. -/
theorem alike_get : likeness.Alike (World.Alike likeness) (get : Action World) get :=
  fun _ _ halike => ⟨.ok halike, halike⟩

/-- A view that agrees on worlds that are alike agrees when it is asked for. -/
theorem alike_ask {view : World → α} {other : World → β}
    (h : ∀ first second, World.Alike likeness first second → agree (view first) (other second)) :
    likeness.Alike agree (Action.ask view) (Action.ask other) :=
  fun first second halike => ⟨.ok (h first second halike), halike⟩

/-- The same event may be reported on both sides. -/
theorem alike_report (level : Level) (speaker : Speaker) (message : String)
    (fields : List LogField) :
    likeness.Alike Eq (Action.report level speaker message fields)
      (Action.report level speaker message fields) := by
  intro first second halike
  refine ⟨.ok rfl, { halike with log := ?_ }⟩
  simp only [Action.runIn_report, halike.log]

/-- Requests that are alike come to the same. -/
theorem alike_send {left right : Http.Request} (h : likeness.SendsAlike left right) :
    likeness.Alike Eq (Action.send left) (Action.send right) := by
  intro first second halike
  have houtcome : (first.network.send left).1 = (second.network.send right).1 :=
    Http.Network.fst_send_congr halike.hasRoute halike.replies halike.redirection h.method_eq
      h.prepare_eq
  have htrail := h.trail halike.hasRoute halike.replies halike.redirection
  rw [Action.runIn_send, Action.runIn_send, houtcome]
  refine ⟨.ok rfl, ?_⟩
  rw [Http.Network.snd_send, Http.Network.snd_send, halike.replies, htrail.length_eq]
  exact ⟨halike.environment, halike.files, halike.clock, halike.hasRoute, rfl, halike.redirection,
    List.rel_append halike.seen htrail, halike.log⟩

end Likeness

end CloudCredentials
