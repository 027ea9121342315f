import CloudCredentials.Proofs.Client.Headers

/-!
# Chains of decorations

A link of a chain states a product or authorizes a request with a token, which may come from any
action. A client's decorations are such links. A chain works from left to right and stops at the
first link that fails, `Stops`, and the products that its links state stand in the reverse of their
order, in front of what the caller states, `States`. `chain_prepares` says this of all chains.
-/

namespace CloudCredentials

open Http (Headers)

/-- A link of a chain, with the action that its tokens come from. -/
inductive Link where
  | product (name : String)
  | bearer (source : Action String)

namespace Link

/-- What a link does to headers. -/
def apply (headers : Headers) : Link → Action Headers
  | .product name => Action.ofExcept (withUserAgent name headers)
  | .bearer source => do
      let token ← source
      Action.ofExcept (withBearer token headers)

/-- The product that a link states. -/
def product? : Link → Option String
  | .product name => some name
  | .bearer _ => none

/-- What a chain does to headers. -/
def along (links : List Link) (headers : Headers) : Action Headers :=
  links.foldlM apply headers

end Link

/-- A decoration as a link. -/
def Decoration.link : Decoration → Link
  | .userAgent product => .product product
  | .bearer provider => .bearer provider.token

/-- A decoration does what its link does. -/
theorem Decoration.apply_link (headers : Headers) (decoration : Decoration) :
    decoration.link.apply headers = decoration.apply headers := by
  cases decoration <;> rfl

/-- A client prepares headers along its decorations. -/
theorem Client.prepareHeaders_eq_along (client : Client) (headers : Headers) :
    client.prepareHeaders headers =
      Link.along (client.decorations.map Decoration.link) headers := by
  rw [Link.along, List.foldlM_map, prepareHeaders]
  simp only [Decoration.apply_link]

namespace Link

/-! ## One chain after another -/

/-- The rest of a chain works on what its first link makes. -/
theorem along_cons (link : Link) (links : List Link) (headers : Headers) :
    along (link :: links) headers = link.apply headers >>= along links :=
  List.foldlM_cons

/-- A chain after another works on what that one makes. -/
theorem along_append (first second : List Link) (headers : Headers) :
    along (first ++ second) headers = along first headers >>= along second :=
  List.foldlM_append

/-! ## The first failure -/

/-- `Stops links headers world error after` says that the links before one link have made headers,
and that this link fails on them with the error and leaves the world that comes after. -/
inductive Stops (links : List Link) (headers : Headers) (world : World) (error : Error)
    (after : World) : Prop where
  | at (before : List Link) (link : Link) (later : List Link) (between : Headers) (middle : World)
      (hlinks : links = before ++ link :: later)
      (hbefore : (along before headers).runIn world = (.ok between, middle))
      (hlink : (link.apply between).runIn middle = (.error error, after))

/-- A chain fails at the first link that does, with its error and in the world that it leaves. -/
theorem runIn_along_eq_error_iff (links : List Link) (headers : Headers) (world : World)
    (error : Error) (after : World) :
    (along links headers).runIn world = (.error error, after) ↔
      Stops links headers world error after := by
  constructor
  · intro h
    induction links generalizing headers world with
    | nil => cases h
    | cons link links ih =>
        rw [along_cons] at h
        rcases hrun : (link.apply headers).runIn world with ⟨outcome, middle⟩
        cases outcome with
        | error cause =>
            rw [Action.runIn_bind_of_error hrun] at h
            exact .at [] link links headers world rfl rfl (hrun.trans h)
        | ok made =>
            rw [Action.runIn_bind_of_ok hrun] at h
            obtain ⟨before, failing, later, between, last, hlinks, hbefore, hlink⟩ :=
              ih made middle h
            refine .at (link :: before) failing later between last (by rw [hlinks]; rfl) ?_ hlink
            rw [along_cons, Action.runIn_bind_of_ok hrun, hbefore]
  · rintro ⟨before, link, later, between, middle, rfl, hbefore, hlink⟩
    rw [along_append, Action.runIn_bind_of_ok hbefore, along_cons, Action.runIn_bind_of_error hlink]

/-! ## The products -/

/-- `States products caller headers` says that these products have been put in front of what the
caller states, one after the other: the latest of them comes first. -/
structure States (products : List String) (caller headers : Headers) : Prop where
  unstated : products = [] → headers.values "user-agent" = caller.values "user-agent"
  stated : products ≠ [] → headers.values "user-agent" =
    [Text.join [0x20]
      (products.reverse.map Bytes.ofText ++ (caller.values "user-agent").head?.toList)]

/-- The caller states what it states. -/
theorem states_self (caller : Headers) : States [] caller caller :=
  ⟨fun _ => rfl, fun hne => absurd rfl hne⟩

/-- A product and the first of those that are there have a space between them. -/
theorem productValue_eq_join (product : String) (present : List Bytes) :
    productValue product present =
      Text.join [0x20] (Bytes.ofText product :: present.head?.toList) := by
  cases present with
  | nil => exact (Text.join_singleton _ _).symm
  | cons first more =>
      rw [List.head?_cons, Option.toList_some, Text.join_cons_cons, Text.join_singleton]
      rfl

/-- One more product comes in front of those that are stated. -/
theorem States.withUserAgent {products : List String} {caller headers prepared : Headers}
    (h : States products caller headers) {product : String}
    (hprepared : withUserAgent product headers = .ok prepared) :
    States (products ++ [product]) caller prepared := by
  have hvalues : prepared.values "user-agent" =
      [productValue product (headers.values "user-agent")] := by
    rw [withUserAgent_eq] at hprepared
    split at hprepared
    · cases hprepared
      exact Headers.values_insert_self _ ⟨"user-agent", _, false⟩
    · cases hprepared
  refine ⟨fun hnone => absurd hnone (List.concat_ne_nil product products), fun _ => ?_⟩
  rw [hvalues, productValue_eq_join, List.reverse_concat, List.map_cons, List.cons_append]
  by_cases hne : products = []
  · rw [h.unstated hne, hne]
    rfl
  · -- What is stated so far is joined already, and the product comes before its first piece.
    obtain ⟨first, earlier, hpieces⟩ :=
      List.exists_cons_of_ne_nil (List.reverse_ne_nil_iff.2 hne)
    rw [h.stated hne, hpieces, List.head?_cons, Option.toList_some, List.map_cons,
      List.cons_append, Text.join_cons_cons, Text.join_cons_cons, Text.join_singleton]

/-- A bearer token leaves the products as they are. -/
theorem States.withBearer {products : List String} {caller headers prepared : Headers}
    (h : States products caller headers) {token : String}
    (hprepared : withBearer token headers = .ok prepared) : States products caller prepared := by
  have hname : "user-agent" ≠ "authorization" := by decide
  have hvalues : prepared.values "user-agent" = headers.values "user-agent" := by
    rw [Client.withBearer_eq_ok hprepared]
    exact Headers.values_insert_of_ne _ _ _ hname
  exact ⟨fun hnone => hvalues.trans (h.unstated hnone), fun hne => hvalues.trans (h.stated hne)⟩

/-- A link that succeeds puts its product in front, if it has one. -/
theorem States.apply {products : List String} {caller headers prepared : Headers}
    (h : States products caller headers) {link : Link} {world after : World}
    (hrun : (link.apply headers).runIn world = (.ok prepared, after)) :
    States (products ++ link.product?.toList) caller prepared := by
  cases link with
  | product name =>
      rw [Link.apply, Action.runIn_ofExcept, Prod.mk.injEq] at hrun
      exact h.withUserAgent hrun.1
  | bearer source =>
      rw [product?, Option.toList_none, List.append_nil]
      rcases htoken : source.runIn world with ⟨outcome, middle⟩
      cases outcome with
      | error error =>
          rw [Link.apply, Action.runIn_bind_of_error htoken] at hrun
          cases hrun
      | ok token =>
          rw [Link.apply, Action.runIn_bind_of_ok htoken, Action.runIn_ofExcept,
            Prod.mk.injEq] at hrun
          exact h.withBearer hrun.1

/-- A chain that succeeds puts the products of its links in front, one after the other. -/
theorem States.along {products : List String} {caller headers prepared : Headers}
    (h : States products caller headers) {links : List Link} {world after : World}
    (hrun : (along links headers).runIn world = (.ok prepared, after)) :
    States (products ++ links.filterMap product?) caller prepared := by
  induction links generalizing products headers world with
  | nil =>
      cases hrun
      rwa [List.filterMap_nil, List.append_nil]
  | cons link links ih =>
      rw [along_cons] at hrun
      rcases hfirst : (link.apply headers).runIn world with ⟨outcome, middle⟩
      cases outcome with
      | error error =>
          rw [Action.runIn_bind_of_error hfirst] at hrun
          cases hrun
      | ok made =>
          rw [Action.runIn_bind_of_ok hfirst] at hrun
          have hproducts : (link :: links).filterMap product? =
              link.product?.toList ++ links.filterMap product? := by cases link <;> rfl
          rw [hproducts, ← List.append_assoc]
          exact ih (h.apply hfirst) hrun

/-! ## Chains of every length -/

/-- A client prepares headers along its decorations, and of two lists of them the second works on
what the first makes. So it is for all chains of links. A chain fails exactly where a link fails on
what the links before it have made, with the error and in the world of that link, so no link after
it has any effect. A chain that succeeds leaves the products of its links in front of what the
caller states first, the last of them foremost. -/
theorem chain_prepares (headers : Headers) (world : World) :
    (∀ client : Client,
        client.prepareHeaders headers = along (client.decorations.map Decoration.link) headers) ∧
      (∀ first second : List Decoration, (Client.mk (first ++ second)).prepareHeaders headers =
        (Client.mk first).prepareHeaders headers >>= (Client.mk second).prepareHeaders) ∧
      (∀ first second : List Link,
        along (first ++ second) headers = along first headers >>= along second) ∧
      (∀ links error after, (along links headers).runIn world = (.error error, after) ↔
        Stops links headers world error after) ∧
      ∀ links prepared after, (along links headers).runIn world = (.ok prepared, after) →
        States (links.filterMap product?) headers prepared :=
  ⟨fun client => client.prepareHeaders_eq_along headers,
    fun _ _ => List.foldlM_append,
    fun first second => along_append first second headers,
    fun links => runIn_along_eq_error_iff links headers world,
    fun _ _ _ hrun => (states_self headers).along hrun⟩

/-- Two products around a token are stated in front of the first of two products of the caller. -/
theorem chain_prepares_of_two_products :
    let caller : Headers := [⟨"user-agent", Bytes.ofText "x", false⟩,
      ⟨"user-agent", Bytes.ofText "y", false⟩]
    let world : World := ⟨[], .initial, 0, ⟨false, [], [], .ignored⟩, []⟩
    let links : List Link := [.product "a", .bearer (pure "t"), .product "b"]
    ∃ prepared, (along links caller).runIn world = (.ok prepared, world) ∧
      prepared.values "user-agent" = [Bytes.ofText "b a x"] := by
  intro caller world links
  have hrun : (along links caller).runIn world =
      (.ok [⟨"authorization", Bytes.ofText "Bearer t", true⟩,
        ⟨"user-agent", Bytes.ofText "b a x", false⟩], world) := rfl
  have hstates := (chain_prepares caller world).2.2.2.2 links _ world hrun
  exact ⟨_, hrun, hstates.stated (List.cons_ne_nil _ _)⟩

/-- A product with a line feed ends the chain, and the token after it is not fetched. -/
example (world : World) (credentials : Credentials) :
    (along [.product "\n", .bearer credentials.token] []).runIn world =
      (.error (invalidHeader "user-agent"), world) :=
  rfl

end Link

end CloudCredentials
