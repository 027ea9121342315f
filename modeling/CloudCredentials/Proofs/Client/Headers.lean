import CloudCredentials.Proofs.Client.Calls

/-!
# The headers that the usual client prepares

A caller states headers, and the usual client puts a bearer token and a product name among them.
`DecoratedWith` says what has become of the headers of the caller. `prepareHeaders_of_token` says
when they are prepared, that they are decorated then, and which header is to blame otherwise.
-/

namespace CloudCredentials

namespace Http

/-- The byte is a control character, and not the tab. -/
def IsControl (byte : UInt8) : Prop :=
  byte < 0x20 ∧ byte ≠ 0x09 ∨ byte = 0x7F

/-- A byte may stand in the value of a header unless it is a control character. -/
theorem isValueByte_iff (byte : UInt8) : isValueByte byte = true ↔ ¬ IsControl byte := by
  simp only [isValueByte, IsControl, Bool.or_eq_true, Bool.and_eq_true, beq_iff_eq, bne_iff_ne,
    decide_eq_true_eq, ne_eq, not_or, not_and, Classical.not_not, ← UInt8.not_lt]
  have htab : (0x09 : UInt8) ≠ 0x7F := by decide
  have hlow : ¬ (0x7F : UInt8) < 0x20 := by decide
  constructor
  · rintro (rfl | ⟨hhigh, hdelete⟩)
    · exact ⟨fun _ => rfl, htab⟩
    · exact ⟨fun h => absurd h hhigh, hdelete⟩
  · rintro ⟨hcontrol, hdelete⟩
    by_cases h : byte < 0x20
    · exact .inl (hcontrol h)
    · exact .inr ⟨h, hdelete⟩

/-- Bytes may be the value of a header unless there is a control character among them. -/
theorem isValue_iff (value : Bytes) : isValue value = true ↔ ∀ byte ∈ value, ¬ IsControl byte := by
  simp only [isValue, List.all_eq_true, isValueByte_iff]

/-- A value is good after another exactly if both are good. -/
theorem isValue_append (first second : Bytes) :
    isValue (first ++ second) = (isValue first && isValue second) :=
  List.all_append

/-- The text holds a control character that no header may have. -/
def HasControl (text : String) : Prop :=
  ∃ byte ∈ Bytes.ofText text, IsControl byte

/-- A text is the value of a header unless it holds a control character. -/
theorem isValue_ofText_iff (text : String) :
    isValue (Bytes.ofText text) = true ↔ ¬ HasControl text := by
  rw [isValue_iff, HasControl]
  exact ⟨fun h ⟨byte, hmem, hcontrol⟩ => h byte hmem hcontrol,
    fun h byte hmem hcontrol => h ⟨byte, hmem, hcontrol⟩⟩

namespace Headers

/-- Headers as a message can carry them: names in the case in which they are compared, and good
values. -/
structure WellFormed (headers : Headers) : Prop where
  name_eq (header : Header) (h : header ∈ headers) : headerName header.name = header.name
  isValue (header : Header) (h : header ∈ headers) : isValue header.value = true

/-- A well-formed header may be inserted into well-formed ones. -/
theorem WellFormed.insert {headers : Headers} (h : headers.WellFormed) (header : Header)
    (hname : headerName header.name = header.name) (hvalue : Http.isValue header.value = true) :
    (headers.insert header).WellFormed := by
  have hmem : ∀ other ∈ headers.insert header, other ∈ headers ∨ other = header := by
    intro other hother
    rw [Headers.insert, List.mem_append, List.mem_filter, List.mem_singleton] at hother
    exact hother.imp_left And.left
  constructor
  case name_eq =>
    intro other hother
    obtain hold | rfl := hmem other hother
    · exact h.name_eq other hold
    · exact hname
  case isValue =>
    intro other hother
    obtain hold | rfl := hmem other hother
    · exact h.isValue other hold
    · exact hvalue

/-- Every value under a name of well-formed headers is good. -/
theorem WellFormed.isValue_of_mem_values {headers : Headers} (h : headers.WellFormed)
    {name : String} {value : Bytes} (hvalue : value ∈ headers.values name) :
    Http.isValue value = true := by
  obtain ⟨header, hheader, rfl⟩ := List.mem_map.1 hvalue
  exact h.isValue header (List.mem_filter.1 hheader).1

/-- `DecoratedWith product token caller prepared` says that the prepared headers are those of the
caller with the token as their only authorization and the product in front of the first product of
the caller. -/
structure DecoratedWith (product token : String) (caller prepared : Headers) : Prop where
  authorization : prepared.values "authorization" = [Bytes.ofText ("Bearer " ++ token)]
  product_alone (h : caller.values "user-agent" = []) :
    prepared.values "user-agent" = [Bytes.ofText product]
  product_before (first : Bytes) (more : List Bytes)
    (h : caller.values "user-agent" = first :: more) :
    prepared.values "user-agent" = [Bytes.ofText product ++ 0x20 :: first]
  /-- Other names, in whatever case, have the values that they had, in order. -/
  others (name : String) (hauthorization : headerName name ≠ "authorization")
    (hproduct : headerName name ≠ "user-agent") :
    prepared.values (headerName name) = caller.values (headerName name)
  wellFormed : prepared.WellFormed
  /-- No value goes on in another line. -/
  unbroken (header : Header) (h : header ∈ prepared) :
    0x0D ∉ header.value ∧ 0x0A ∉ header.value

/-- Well-formed headers have no line breaks in their values. -/
theorem WellFormed.unbroken {headers : Headers} (h : headers.WellFormed) {header : Header}
    (hheader : header ∈ headers) : 0x0D ∉ header.value ∧ 0x0A ∉ header.value := by
  have hgood := (isValue_iff _).1 (h.isValue header hheader)
  exact ⟨fun hreturn => hgood _ hreturn (by simp [IsControl]),
    fun hfeed => hgood _ hfeed (by simp [IsControl])⟩

end Headers

end Http

open Http (HasControl Headers)

/-! ## The two decorations -/

/-- A bearer token is as good a header value as the token. -/
theorem isValue_bearer (token : String) :
    Http.isValue (Bytes.ofText ("Bearer " ++ token)) = Http.isValue (Bytes.ofText token) := by
  have hscheme : Http.isValue (Bytes.ofText "Bearer ") = true := by decide
  have happend : Bytes.ofText ("Bearer " ++ token) =
      Bytes.ofText "Bearer " ++ Bytes.ofText token := by
    rw [Bytes.ofText, Bytes.ofText, Bytes.ofText, String.toList_append, List.flatMap_append]
  rw [happend, Http.isValue_append, hscheme, Bool.true_and]

/-- A bearer token makes a good header if it is a good value. -/
theorem withBearer_of_isValue {token : String} (h : Http.isValue (Bytes.ofText token) = true)
    (headers : Headers) :
    withBearer token headers =
      .ok (headers.insert ⟨"authorization", Bytes.ofText ("Bearer " ++ token), true⟩) := by
  rw [withBearer]
  exact if_pos ((isValue_bearer token).trans h)

/-- A token with a control character makes no header. -/
theorem withBearer_of_hasControl {token : String} (h : HasControl token) (headers : Headers) :
    withBearer token headers = .error (invalidHeader "authorization") := by
  rw [withBearer]
  refine if_neg fun hvalue => ?_
  rw [isValue_bearer, Http.isValue_ofText_iff] at hvalue
  exact hvalue h

/-- The product in front of the products that are there. -/
def productValue (product : String) : List Bytes → Bytes
  | [] => Bytes.ofText product
  | first :: _ => Bytes.ofText product ++ 0x20 :: first

/-- Among good values, a product is as good in front of them as on its own. -/
theorem isValue_productValue (product : String) {present : List Bytes}
    (h : ∀ value ∈ present, Http.isValue value = true) :
    Http.isValue (productValue product present) = Http.isValue (Bytes.ofText product) := by
  cases present with
  | nil => rfl
  | cons first more =>
      have hspace : Http.isValue (0x20 :: first) = true := h first List.mem_cons_self
      rw [productValue, Http.isValue_append, hspace, Bool.and_true]

/-- A product is put in front of those that the headers have, if that makes a good value. -/
theorem withUserAgent_eq (product : String) (headers : Headers) :
    withUserAgent product headers =
      if Http.isValue (productValue product (headers.values "user-agent")) then
        .ok (headers.insert
          ⟨"user-agent", productValue product (headers.values "user-agent"), false⟩)
      else .error (invalidHeader "user-agent") := by
  rw [withUserAgent, Headers.first?]
  cases headers.values "user-agent" <;> rfl

namespace Client

/-! ## Both decorations -/

/-- The headers of the caller with a token and a product. -/
def decoratedHeaders (product token : String) (caller : Headers) : Headers :=
  (caller.insert ⟨"authorization", Bytes.ofText ("Bearer " ++ token), true⟩).insert
    ⟨"user-agent", productValue product (caller.values "user-agent"), false⟩

/-- With a good token, it is the product that decides whether headers are decorated. -/
theorem decorated_of_isValue {token : String} (htoken : ¬ HasControl token) (product : String)
    {caller : Headers} (hcaller : caller.WellFormed) :
    decorated product caller token =
      if Http.isValue (Bytes.ofText product) then .ok (decoratedHeaders product token caller)
      else .error (invalidHeader "user-agent") := by
  have hagent : "user-agent" ≠ "authorization" := by decide
  rw [decorated, withBearer_of_isValue ((Http.isValue_ofText_iff token).2 htoken)]
  show withUserAgent product _ = _
  rw [withUserAgent_eq, Headers.values_insert_of_ne _ _ _ hagent,
    isValue_productValue product fun value hvalue => hcaller.isValue_of_mem_values hvalue]
  rfl

/-- Headers with a token and a product are decorated with them. -/
theorem decoratedWith_decoratedHeaders {product token : String} (hproduct : ¬ HasControl product)
    (htoken : ¬ HasControl token) {caller : Headers} (hcaller : caller.WellFormed) :
    Headers.DecoratedWith product token caller (decoratedHeaders product token caller) := by
  have hnames : Http.headerName "authorization" = "authorization" ∧
      Http.headerName "user-agent" = "user-agent" := by decide
  have hbearer : Http.isValue (Bytes.ofText ("Bearer " ++ token)) = true :=
    (isValue_bearer token).trans ((Http.isValue_ofText_iff token).2 htoken)
  have hstated : Http.isValue (productValue product (caller.values "user-agent")) = true := by
    rw [isValue_productValue product fun value hvalue => hcaller.isValue_of_mem_values hvalue]
    exact (Http.isValue_ofText_iff product).2 hproduct
  have hwellFormed : (decoratedHeaders product token caller).WellFormed :=
    (hcaller.insert ⟨"authorization", _, true⟩ hnames.1 hbearer).insert
      ⟨"user-agent", _, false⟩ hnames.2 hstated
  have hagent : (decoratedHeaders product token caller).values "user-agent" =
      [productValue product (caller.values "user-agent")] :=
    Headers.values_insert_self _ ⟨"user-agent", _, false⟩
  constructor
  case authorization =>
    have hne : "authorization" ≠ "user-agent" := by decide
    rw [decoratedHeaders, Headers.values_insert_of_ne _ _ _ hne]
    exact Headers.values_insert_self caller ⟨"authorization", _, true⟩
  case product_alone =>
    intro hnone
    rw [hagent, hnone]
    rfl
  case product_before =>
    intro first more hpresent
    rw [hagent, hpresent]
    rfl
  case others =>
    intro name hauthorization hproduct
    rw [decoratedHeaders, Headers.values_insert_of_ne _ _ _ hproduct,
      Headers.values_insert_of_ne _ _ _ hauthorization]
  case wellFormed => exact hwellFormed
  case unbroken => exact fun header hheader => hwellFormed.unbroken hheader

/-- Once there is a token, the usual client prepares well-formed headers unless the token or the
product holds a control character. It names the token's header if the token does, and the product's
header if only the product does. -/
theorem prepareHeaders_of_token (provider : TokenProvider) (product token : String)
    (caller : Headers) (world after : World) (hcaller : caller.WellFormed)
    (htoken : provider.token.runIn world = (.ok token, after)) :
    let prepared := ((withCredentials provider product).prepareHeaders caller).runIn world
    prepared.2 = after ∧
      ((∃ headers, prepared.1 = .ok headers) ↔ ¬ HasControl product ∧ ¬ HasControl token) ∧
      (HasControl token →
        prepared.1 = .error (.invalidHeader "authorization: failed to parse header value")) ∧
      (¬ HasControl token → HasControl product →
        prepared.1 = .error (.invalidHeader "user-agent: failed to parse header value")) ∧
      ∀ headers, prepared.1 = .ok headers →
        Headers.DecoratedWith product token caller headers := by
  intro prepared
  have hprepared : prepared = (decorated product caller token, after) := by
    show ((withCredentials provider product).prepareHeaders caller).runIn world = _
    rw [runIn_prepareHeaders, htoken]
    rfl
  rw [hprepared]
  by_cases hbad : HasControl token
  · have hfailed : decorated product caller token = .error (invalidHeader "authorization") := by
      rw [decorated, withBearer_of_hasControl hbad]
      rfl
    rw [hfailed]
    exact ⟨rfl, by simp [hbad], fun _ => rfl, fun hgood => absurd hbad hgood, by simp⟩
  · rw [decorated_of_isValue hbad product hcaller]
    by_cases hproduct : HasControl product
    · rw [if_neg (mt (Http.isValue_ofText_iff product).1 (not_not_intro hproduct))]
      exact ⟨rfl, by simp [hproduct], fun hno => absurd hno hbad, fun _ _ => rfl, by simp⟩
    · rw [if_pos ((Http.isValue_ofText_iff product).2 hproduct)]
      refine ⟨rfl, by simp [hbad, hproduct], fun hno => absurd hno hbad,
        fun _ hno => absurd hno hproduct, ?_⟩
      rintro _ ⟨⟩
      exact decoratedWith_decoratedHeaders hproduct hbad hcaller

/-- A caller with two products, one of them not text, and with a former authorization. -/
theorem prepareHeaders_of_token_of_twice :
    let provider : TokenProvider := .fixed "token"
    let caller : Headers :=
      [⟨"user-agent", [0x63, 0xE9], false⟩, ⟨"authorization", Bytes.ofText "old", false⟩,
        ⟨"x-trace", [0x31], false⟩, ⟨"user-agent", [0x64], false⟩, ⟨"x-trace", [0x32], false⟩]
    let world : World := ⟨[], .initial, 0, ⟨false, [], [], .ignored⟩, []⟩
    let prepared := ((withCredentials provider "agent").prepareHeaders caller).runIn world
    caller.WellFormed ∧ provider.token.runIn world = (.ok "token", world) ∧
      (∃ headers, prepared.1 = .ok headers) ∧
      ∀ headers, prepared.1 = .ok headers →
        Headers.DecoratedWith "agent" "token" caller headers := by
  intro provider caller world prepared
  have hcaller : caller.WellFormed := ⟨by decide, by decide⟩
  have hgood : ∀ text ∈ ["agent", "token"], ¬ HasControl text := by
    intro text htext
    rw [← Http.isValue_ofText_iff]
    revert text
    decide
  have hprepared := prepareHeaders_of_token provider "agent" "token" caller world world hcaller rfl
  exact ⟨hcaller, rfl, hprepared.2.1.2 ⟨hgood _ (by simp), hgood _ (by simp)⟩,
    hprepared.2.2.2.2⟩

end Client

end CloudCredentials
