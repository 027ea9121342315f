import CloudCredentials.Proofs.Client.Calls
import CloudCredentials.Proofs.World.Likeness

/-!
# Runs that cannot be told apart

A provider of tokens is asked again and again, on its own and by the clients that are built around
it, while the rest of the program changes the world. If the tokens of two providers are alike, and
no decoration tells them apart, then the two runs are alike: `alike_run`.
-/

namespace CloudCredentials

/-- What a client that is built around a provider adds to the headers of a request. -/
inductive Mark where
  /-- A product name. -/
  | product (name : String)
  /-- A token of the provider. -/
  | token

/-- The decoration that adds a mark. -/
def Mark.decoration (provider : TokenProvider) : Mark → Decoration
  | .product name => .userAgent name
  | .token => .bearer provider

/-- The client that adds marks, from left to right. -/
def Client.marking (provider : TokenProvider) (marks : List Mark) : Client :=
  ⟨marks.map (Mark.decoration provider)⟩

/-- The usual client adds a token, then the product name. -/
theorem Client.withCredentials_eq_marking (provider : TokenProvider) (userAgent : String) :
    Client.withCredentials provider userAgent =
      Client.marking provider [.token, .product userAgent] := rfl

namespace TokenProvider

/-- A use of a provider. -/
inductive Use where
  /-- Ask for a token. -/
  | token
  /-- Call a client that is built around the provider. -/
  | call (marks : List Mark) (call : Client.Call)

/-- A use, and what the rest of the program does before it. -/
structure Turn where
  meanwhile : World → World
  use : Use

/-- What the user is told. -/
inductive Told where
  | token (outcome : Except Error String)
  | response (outcome : Except Error Http.Response)

/-- The world in which a program goes on that cannot see which requests have been sent. -/
def resume (meanwhile : World → World) (world : World) : World :=
  Client.resume (fun world => meanwhile { world with network.seen := [] }) world

/-- Make a use of a provider. -/
def make (provider : TokenProvider) (world : World) : Use → Told × World
  | .token => ((provider.token.runIn world).map .token id)
  | .call marks call => ((call.perform (.marking provider marks)).runIn world).map .response id

/-- Make uses in turn. -/
def run (provider : TokenProvider) (world : World) : List Turn → List Told × World
  | [] => ([], world)
  | turn :: turns =>
      let (told, after) := provider.make (resume turn.meanwhile world) turn.use
      let (rest, last) := run provider after turns
      (told :: rest, last)

/-- What two users are told is alike: tokens that agree, or the same. -/
inductive Told.Alike (tokens : String → String → Prop) : Told → Told → Prop where
  | token {left right : Except Error String} (h : AlikeOutcome tokens left right) :
      Told.Alike tokens (.token left) (.token right)
  | response (outcome : Except Error Http.Response) :
      Told.Alike tokens (.response outcome) (.response outcome)

end TokenProvider

namespace Likeness

variable {likeness : Likeness} {tokens : String → String → Prop}
  {headers : Http.Headers → Http.Headers → Prop} {first second : TokenProvider}

/-- No decoration tells apart tokens and headers that count as the same, and neither does who
receives a request with such headers. -/
structure Decorates (likeness : Likeness) (tokens : String → String → Prop)
    (headers : Http.Headers → Http.Headers → Prop) : Prop where
  stated (given : Http.Headers) : headers given given
  product (name : String) {left right : Http.Headers} (h : headers left right) :
    AlikeOutcome headers (withUserAgent name left) (withUserAgent name right)
  bearer {token other : String} {left right : Http.Headers} (htoken : tokens token other)
    (h : headers left right) :
    AlikeOutcome headers (withBearer token left) (withBearer other right)
  sends (request : Http.Request) {left right : Http.Headers} (h : headers left right) :
    likeness.SendsAlike (request.withHeaders left) (request.withHeaders right)

/-- Tokens and headers that are the same are decorated to the same. -/
theorem decorates_eq (h : Http.Congruent likeness.requests) : likeness.Decorates Eq Eq := by
  constructor
  case stated =>
    intro given
    rfl
  case product =>
    rintro name headers _ rfl
    exact alikeOutcome_eq_iff.2 rfl
  case bearer =>
    rintro token _ headers _ rfl rfl
    exact alikeOutcome_eq_iff.2 rfl
  case sends =>
    rintro request headers _ rfl
    exact .refl h _

/-- Marks are added alike. -/
theorem alike_apply (h : likeness.Decorates tokens headers)
    (htokens : likeness.Alike tokens first.token second.token) (mark : Mark)
    {left right : Http.Headers} (hheaders : headers left right) :
    likeness.Alike headers ((mark.decoration first).apply left)
      ((mark.decoration second).apply right) := by
  cases mark with
  | product name => exact alike_ofExcept (h.product name hheaders)
  | token => exact htokens.bind fun _ _ htoken => alike_ofExcept (h.bearer htoken hheaders)

/-- Headers are prepared alike. -/
theorem alike_prepareHeaders (h : likeness.Decorates tokens headers)
    (htokens : likeness.Alike tokens first.token second.token) (marks : List Mark)
    {left right : Http.Headers} (hheaders : headers left right) :
    likeness.Alike headers ((Client.marking first marks).prepareHeaders left)
      ((Client.marking second marks).prepareHeaders right) := by
  induction marks generalizing left right with
  | nil => exact alike_pure hheaders
  | cons mark marks ih =>
      exact (alike_apply h htokens mark hheaders).bind fun _ _ hmarked => ih hmarked

/-- Calls on clients are alike, if the clients add the same marks and their tokens are alike. -/
theorem alike_perform (h : likeness.Decorates tokens headers)
    (htokens : likeness.Alike tokens first.token second.token) (marks : List Mark)
    (call : Client.Call) :
    likeness.Alike Eq (call.perform (.marking first marks))
      (call.perform (.marking second marks)) := by
  rw [Client.Call.perform_eq_request, Client.Call.perform_eq_request]
  refine (alike_prepareHeaders h htokens marks (h.stated _)).bind fun left right hheaders => ?_
  refine (alike_report _ _ _ _).bind fun _ _ _ => ?_
  refine (alike_send (h.sends ⟨_, _, [], [], _⟩ hheaders)).bind ?_
  rintro outcome _ rfl
  cases outcome with
  | error fault => exact (alike_report _ _ _ _).bind fun _ _ _ => alike_throw _
  | ok response => exact (alike_report _ _ _ _).bind fun _ _ _ => alike_pure rfl

/-- Credentials give tokens alike: these depend on nothing that may differ. -/
theorem alike_token (h : Http.Congruent likeness.requests) (credentials : Credentials) :
    likeness.Alike Eq credentials.token credentials.token := by
  have hanswer : ∀ (request : Http.Request)
      (read : Except Http.TransportFault Http.Response → Except Error String),
      likeness.Alike Eq (Action.send request >>= fun outcome => Action.ofExcept (read outcome))
        (Action.send request >>= fun outcome => Action.ofExcept (read outcome)) := by
    intro request read
    refine (alike_send (.refl h request)).bind ?_
    rintro outcome _ rfl
    exact alike_ofExcept (alikeOutcome_eq_iff.2 rfl)
  obtain ⟨identity, scopes⟩ := credentials
  cases identity with
  | serviceAccount key subject =>
      refine alike_get.bind fun first second hworlds => ?_
      rw [hworlds.clock]
      refine (alike_ofExcept (alikeOutcome_eq_iff.2 rfl)).bind ?_
      rintro assertion _ rfl
      exact (alike_report _ _ _ _).bind fun _ _ _ => hanswer (key.tokenRequest assertion) _
  | machine root => exact hanswer (Credentials.metadataTokenRequest root scopes) _
  | accessToken token => exact alike_pure rfl

end Likeness

namespace TokenProvider

variable {requests : Http.SeenRequest → Http.SeenRequest → Prop} {tokens : String → String → Prop}
  {headers : Http.Headers → Http.Headers → Prop} {left right : TokenProvider}

/-- A program that cannot see which requests have been sent keeps worlds alike. -/
theorem alike_resume (meanwhile : World → World) {first second : World}
    (h : World.Alike ⟨Eq, Eq, requests⟩ first second) :
    World.Alike ⟨Eq, Eq, requests⟩ (resume meanwhile first) (resume meanwhile second) := by
  have hunseen : { first with network.seen := [] } = { second with network.seen := [] } := by
    obtain ⟨_, _, _, ⟨_, _, _, _⟩, _⟩ := first
    obtain ⟨_, _, _, ⟨_, _, _, _⟩, _⟩ := second
    obtain ⟨rfl, rfl, rfl, rfl, rfl, rfl, -, rfl⟩ := h
    rfl
  have hchanged := congrArg meanwhile hunseen
  unfold resume Client.resume
  simp only [hchanged]
  exact ⟨rfl, rfl, rfl, rfl, rfl, rfl, h.seen, rfl⟩

/-- A use is told alike, and leads to worlds that are alike. -/
theorem alike_make (h : Likeness.Decorates ⟨Eq, Eq, requests⟩ tokens headers)
    (htokens : Likeness.Alike ⟨Eq, Eq, requests⟩ tokens left.token right.token) (use : Use)
    {first second : World} (hworlds : World.Alike ⟨Eq, Eq, requests⟩ first second) :
    Told.Alike tokens (left.make first use).1 (right.make second use).1 ∧
      World.Alike ⟨Eq, Eq, requests⟩ (left.make first use).2 (right.make second use).2 := by
  cases use with
  | token =>
      obtain ⟨houtcome, hafter⟩ := htokens hworlds
      exact ⟨.token houtcome, hafter⟩
  | call marks call =>
      obtain ⟨houtcome, hafter⟩ := Likeness.alike_perform h htokens marks call hworlds
      have htold : ∀ {outcome other : Except Error Http.Response}, outcome = other →
          Told.Alike tokens (.response outcome) (.response other) := by
        rintro outcome _ rfl
        exact .response outcome
      exact ⟨htold (alikeOutcome_eq_iff.1 houtcome), hafter⟩

/-- A run is told alike, and leads to worlds that are alike. -/
theorem alike_run (h : Likeness.Decorates ⟨Eq, Eq, requests⟩ tokens headers)
    (htokens : Likeness.Alike ⟨Eq, Eq, requests⟩ tokens left.token right.token) (turns : List Turn)
    {first second : World} (hworlds : World.Alike ⟨Eq, Eq, requests⟩ first second) :
    List.Forall₂ (Told.Alike tokens) (left.run first turns).1 (right.run second turns).1 ∧
      World.Alike ⟨Eq, Eq, requests⟩ (left.run first turns).2 (right.run second turns).2 := by
  induction turns generalizing first second with
  | nil => exact ⟨.nil, hworlds⟩
  | cons turn turns ih =>
      obtain ⟨htold, hafter⟩ := alike_make h htokens turn.use (alike_resume turn.meanwhile hworlds)
      obtain ⟨hrest, hlast⟩ := ih hafter
      exact ⟨.cons htold hrest, hlast⟩

end TokenProvider

end CloudCredentials
