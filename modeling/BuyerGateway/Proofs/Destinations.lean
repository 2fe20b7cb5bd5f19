import BuyerGateway.Proofs.Orders
import BuyerGateway.Proofs.Transcript
/-!
Where calls go. Over a directory a call is posted to the first subscriber, in the order of the
list, that the one lookup of its visit describes; and a request that orders something carries
the submitted items, in full and in order, all of them of that subscriber and of the provider
that the request names.
-/
namespace BuyerGateway

/-! ### What a lookup finds -/

namespace Lookup

theorem placeMatches_some_iff {wanted : String} {actual : Option String} :
    placeMatches (some wanted) actual = true ↔ ∀ a, actual = some a → a = wanted := by
  cases actual with
  | none => exact ⟨nofun, fun _ => rfl⟩
  | some a =>
    rw [placeMatches, beq_iff_eq]
    constructor
    · rintro rfl b hb
      exact (Option.some.inj hb).symm
    · intro h
      exact (h a rfl).symm

theorem accepts_bpp_iff {id : String} {s : Subscriber} :
    (bpp id).accepts s = true ↔ s.role = .bpp ∧ s.id = id := by
  have hopen (actual : Option String) : placeMatches none actual = true := rfl
  simp only [accepts, bpp, hopen, Option.all_some, Bool.and_true, Bool.and_eq_true,
    beq_iff_eq]
  constructor
  · rintro ⟨hid, hrole⟩
    exact ⟨hrole.symm, hid.symm⟩
  · rintro ⟨hrole, hid⟩
    exact ⟨hid.symm, hrole.symm⟩

theorem accepts_gateways_iff {domain country city : String} {s : Subscriber} :
    (gateways domain country city).accepts s = true ↔
      s.role = .bg ∧ (∀ d, s.domain = some d → d = domain) ∧
        (∀ c, s.country = some c → c = country) ∧ ∀ c, s.city = some c → c = city := by
  simp only [accepts, gateways, Option.all_none, Option.all_some, Bool.true_and,
    Bool.and_eq_true, placeMatches_some_iff, beq_iff_eq, and_assoc]
  rw [eq_comm]

end Lookup

/-- The first element with a property, in the order of a list. -/
def FirstIn {α : Type} (l : List α) (p : α → Prop) (a : α) : Prop :=
  ∃ earlier later, l = earlier ++ a :: later ∧ p a ∧ ∀ b ∈ earlier, ¬ p b

theorem FirstIn.congr {α : Type} {l : List α} {p q : α → Prop} {a : α} (h : FirstIn l p a)
    (hpq : ∀ b, p b ↔ q b) : FirstIn l q a := by
  obtain ⟨earlier, later, hl, ha, hno⟩ := h
  refine ⟨earlier, later, hl, (hpq a).1 ha, ?_⟩
  intro b hb hq
  exact hno b hb ((hpq b).2 hq)

/-- What is taken of the kept subscribers is the first of the list that is kept. -/
theorem Found.first_filter_eq_ok_iff {missing : RegistryFailure} {subscribers : List Subscriber}
    {keep : Subscriber → Bool} {s : Subscriber} :
    first missing (.ok (subscribers.filter keep)) = .ok s ↔
      FirstIn subscribers (fun t => keep t = true) s := by
  have hhead : first missing (.ok (subscribers.filter keep)) = .ok s ↔
      (subscribers.filter keep).head? = some s := by
    cases subscribers.filter keep with
    | nil => exact ⟨nofun, nofun⟩
    | cons t rest => rw [first, List.head?_cons, Except.ok.injEq, Option.some.injEq]
  rw [hhead, List.head?_filter, List.find?_eq_some_iff_append]
  simp only [Bool.not_eq_true', ← Bool.not_eq_true]
  constructor
  · rintro ⟨hs, earlier, later, hl, hno⟩
    exact ⟨earlier, later, hl, hs, hno⟩
  · rintro ⟨earlier, later, hl, hs, hno⟩
    exact ⟨hs, earlier, later, hl, hno⟩

/-- What is taken of the finds of a lookup is the first subscriber that it accepts. -/
theorem Directory.firstIn_of_first {d : Directory} {l : Lookup} {missing : RegistryFailure}
    {s : Subscriber} (h : Found.first missing (d.found l) = .ok s) :
    FirstIn d.subscribers (fun t => l.accepts t = true) s := by
  rw [found] at h
  split at h
  · cases h
  · exact Found.first_filter_eq_ok_iff.1 h

/-! ### What a request orders -/

/-- The provider and the items of a request that orders something. -/
def Request.ordered? : Request → Option (Option String × List SelectedItem)
  | ⟨.select, envelope⟩ =>
    some (envelope.message.selected.provider.id, envelope.message.selected.items)
  | ⟨.init, envelope⟩ =>
    some (envelope.message.order.provider.bind (·.id), envelope.message.order.items)
  | ⟨.confirm, envelope⟩ =>
    some (envelope.message.order.provider.bind (·.id), envelope.message.order.items)
  | _ => none

/-- The provider of the first item, and the image of every item. -/
def CartItem.ordered (items : List CartItem) : Option String × List SelectedItem :=
  (items.head?.map (·.provider.id), items.map .ofCart)

theorem SelectedOrder.ordered_of_ofItems? {items : List CartItem} {o : SelectedOrder}
    (h : ofItems? items = .ok o) : (o.provider.id, o.items) = CartItem.ordered items := by
  obtain ⟨first, rest, hi, hitems, hid, -⟩ := exists_first_of_ofItems? h
  rw [hid, hitems, hi]
  rfl

theorem ClientOrder.ordered_of_initialized {order : ClientOrder} {o : Order}
    (h : order.initialized = .ok o) :
    (o.provider.bind (·.id), o.items) = CartItem.ordered order.items := by
  have hcarries : o.Carries order := (carries_of_initialized h).1
  obtain ⟨first, rest, location, others, hi, -, hprovider⟩ := hcarries.provider
  rw [hprovider, hcarries.items_eq, hi]
  rfl

/-- The payment is all that a confirmed order has beyond the initialized one. -/
theorem ClientOrder.ordered_of_confirmed {order : ClientOrder} {o : Order}
    (h : order.confirmed = .ok o) :
    (o.provider.bind (·.id), o.items) = CartItem.ordered order.items := by
  cases hp : order.payment with
  | none =>
    rw [confirmed_eq_missingPayment_iff.2 hp] at h
    cases h
  | some paid =>
    obtain ⟨initial, params, hinit, -, rfl⟩ := (confirmed_eq_ok_iff hp).1 h
    have hordered : (initial.provider.bind (·.id), initial.items) = CartItem.ordered order.items :=
      ordered_of_initialized hinit
    exact hordered

/-- A request orders what the cart of its payload holds. -/
theorem Payload.ordered?_of_request {p : Payload} {context : Context} {request : Request}
    (h : p.request context = .ok request) :
    request.ordered? = p.cart?.map CartItem.ordered := by
  obtain ⟨message, hq, rfl⟩ := exists_question_of_request h
  cases p with
  | search criteria => rfl
  | track orderId callbackUrl => rfl
  | support refId => rfl
  | select items =>
    obtain ⟨selected, hs, rfl⟩ := exists_of_map_eq_ok hq
    exact congrArg some (SelectedOrder.ordered_of_ofItems? hs)
  | init order =>
    obtain ⟨initial, hi, rfl⟩ := exists_of_map_eq_ok hq
    exact congrArg some (ClientOrder.ordered_of_initialized hi)
  | confirm order =>
    obtain ⟨paid, hp, rfl⟩ := exists_of_map_eq_ok hq
    exact congrArg some (ClientOrder.ordered_of_confirmed hp)

theorem Payload.exists_cart {p : Payload}
    (h : p.exchange = .select ∨ p.exchange = .init ∨ p.exchange = .confirm) :
    ∃ items, p.cart? = some items := by
  cases p with
  | select items => exact ⟨items, rfl⟩
  | init order => exact ⟨order.items, rfl⟩
  | confirm order => exact ⟨order.items, rfl⟩
  | _ => simp [exchange] at h

namespace Gateway

/-! ### Whom a payload may reach -/

section

variable (context : Context) (helper : Option String) (target : Subscriber)

/-- The subscribers that a payload is for: the counterparty of all items of a cart, the counterparty
that is named otherwise, and for a search that names none the gateways of the context's place. -/
inductive Eligible : Payload → Prop
  | cart {p : Payload} {items : List CartItem} (hp : p.cart? = some items) (hne : items ≠ [])
      (hrole : target.role = .bpp) (hid : ∀ i ∈ items, i.bppId = target.id) : Eligible p
  | named {criteria : SearchCriteria} (hrole : target.role = .bpp)
      (hid : criteria.bppId = some target.id) (hb : Text.isBlank target.id = false) :
      Eligible (.search criteria)
  | anyone {criteria : SearchCriteria}
      (h : ∀ id, criteria.bppId = some id → Text.isBlank id = true) (hrole : target.role = .bg)
      (hdomain : ∀ d, target.domain = some d → d = context.domain)
      (hcountry : ∀ c, target.country = some c → c = context.country)
      (hcity : ∀ c, target.city = some c → c = context.city) : Eligible (.search criteria)
  | track {orderId : String} {callbackUrl : Option String} (hrole : target.role = .bpp)
      (hid : context.bppId = some target.id) (hb : Text.isBlank target.id = false) :
      Eligible (.track orderId callbackUrl)
  | support {refId : String} (hrole : target.role = .bpp) (hid : helper = some target.id)
      (hb : Text.isBlank target.id = false) : Eligible (.support refId)

end

variable {context : Context} {helper : Option String} {payload : Payload}

/-- The lookup of a payload describes exactly the subscribers that the payload is for. -/
theorem Seeks.accepts_iff {lookup : Lookup} {missing : RegistryFailure}
    (h : Seeks context helper payload lookup missing) (target : Subscriber) :
    lookup.accepts target = true ↔ Eligible context helper target payload := by
  cases h with
  | @cart _ items bppId providerId hp hne hi =>
    rw [Lookup.accepts_bpp_iff]
    constructor
    · rintro ⟨hrole, rfl⟩
      exact .cart hp hne hrole fun i hmem => (hi i hmem).1
    · intro he
      -- The cart has an item, which has both the id of the lookup and that of the target.
      obtain ⟨first, hfirst⟩ := List.exists_mem_of_ne_nil items hne
      cases he with
      | cart hp' _ hrole hid =>
        have hsame := Option.some.inj (hp.symm.trans hp')
        subst hsame
        exact ⟨hrole, (hid first hfirst).symm.trans (hi first hfirst).1⟩
      | _ => cases hp
  | named hid hb =>
    rw [Lookup.accepts_bpp_iff]
    constructor
    · rintro ⟨hrole, rfl⟩
      exact .named hrole hid hb
    · intro he
      cases he with
      | cart hp => cases hp
      | named hrole hid' _ => exact ⟨hrole, Option.some.inj (hid'.symm.trans hid)⟩
      | anyone hblank =>
        rw [hblank _ hid] at hb
        cases hb
  | anyone hblank =>
    rw [Lookup.accepts_gateways_iff]
    constructor
    · rintro ⟨hrole, hdomain, hcountry, hcity⟩
      exact .anyone hblank hrole hdomain hcountry hcity
    · intro he
      cases he with
      | cart hp => cases hp
      | named _ hid hb =>
        rw [hblank _ hid] at hb
        cases hb
      | anyone _ hrole hdomain hcountry hcity => exact ⟨hrole, hdomain, hcountry, hcity⟩
  | track hid hb =>
    rw [Lookup.accepts_bpp_iff]
    constructor
    · rintro ⟨hrole, rfl⟩
      exact .track hrole hid hb
    · intro he
      cases he with
      | cart hp => cases hp
      | track hrole hid' _ => exact ⟨hrole, Option.some.inj (hid'.symm.trans hid)⟩
  | support hid hb =>
    rw [Lookup.accepts_bpp_iff]
    constructor
    · rintro ⟨hrole, rfl⟩
      exact .support hrole hid hb
    · intro he
      cases he with
      | cart hp => cases hp
      | support hrole hid' _ => exact ⟨hrole, Option.some.inj (hid'.symm.trans hid)⟩

/-- The items of a cart that is looked up are of one counterparty, which every subscriber found is,
and of one provider. -/
theorem Seeks.exists_provider {lookup : Lookup} {missing : RegistryFailure} {items : List CartItem}
    (h : Seeks context helper payload lookup missing) (hc : payload.cart? = some items)
    {target : Subscriber} (ht : lookup.accepts target = true) :
    ∃ provider, items.head?.map (·.provider.id) = some provider ∧
      ∀ i ∈ items, i.bppId = target.id ∧ i.provider.id = provider := by
  cases h with
  | @cart _ items' bppId provider hp hne hi =>
    have hsame := Option.some.inj (hp.symm.trans hc)
    subst hsame
    obtain ⟨-, rfl⟩ := Lookup.accepts_bpp_iff.1 ht
    refine ⟨provider, ?_, hi⟩
    cases items' with
    | nil => exact absurd rfl hne
    | cons first rest => exact congrArg some (hi first List.mem_cons_self).2
  | _ => cases hc

/-- A submission that made a call made it alone, after one lookup, to the first subscriber found. -/
theorem Course.of_call {world : World} {ledger after : Ledger} {now : Timestamp}
    {effects : List Effect} {result : Except SubmitFailure (Option LedgerEntry)}
    (h : Course world ledger now context helper payload effects result after) {base : String}
    {request : Request} (hcall : (base, request) ∈ Session.callsOf effects) :
    ∃ lookup missing target, Seeks context helper payload lookup missing ∧
      Session.lookupsOf effects = [lookup] ∧
      Found.first missing (world.registry lookup) = .ok target ∧ base = target.url ∧
      payload.request context = .ok request ∧ Session.callsOf effects = [(base, request)] := by
  -- The rows that make a call all make the same one.
  have called {lookup : Lookup} {missing : RegistryFailure} {target : Subscriber}
      {sent : Request} (hs : Seeks context helper payload lookup missing)
      (hf : Found.first missing (world.registry lookup) = .ok target)
      (hb : payload.request context = .ok sent) (hl : Session.lookupsOf effects = [lookup])
      (hc : Session.callsOf effects = [(target.url, sent)]) :
      ∃ lookup missing target, Seeks context helper payload lookup missing ∧
        Session.lookupsOf effects = [lookup] ∧
        Found.first missing (world.registry lookup) = .ok target ∧ base = target.url ∧
        payload.request context = .ok request ∧
        Session.callsOf effects = [(base, request)] := by
    rw [hc, List.mem_singleton] at hcall
    cases hcall
    exact ⟨lookup, missing, target, hs, hl, hf, rfl, hb, hc⟩
  cases h with
  | refused hm => exact absurd hcall List.not_mem_nil
  | nobody hp => exact absurd hcall List.not_mem_nil
  | unregistered hs hf => exact absurd hcall List.not_mem_nil
  | unbuilt hs hf hb => exact absurd hcall List.not_mem_nil
  | unacknowledged hs hf hb ha => exact called hs hf hb rfl rfl
  | unrecorded hs hf hb ha ho => exact called hs hf hb rfl rfl
  | recorded hs hf hb ha ho => exact called hs hf hb rfl rfl

/-- Over a directory a visit that makes a call makes one, to the first subscriber that the payload
is for. A request that orders something has all the submitted items, each of them of this subscriber
and of the provider that the request names. -/
theorem calls_reach_their_addressee (defaults : ContextDefaults) (subscribers : List Subscriber)
    (s : Stores) (visits : List Visit)
    (hdirectory : ∀ v ∈ visits, ∃ d : Directory,
      d.subscribers = subscribers ∧ v.world.registry = d.found)
    (x : Visited) (hx : x ∈ transcript defaults s visits) (base : String) (request : Request)
    (hcall : (base, request) ∈ Session.callsOf x.outcome.effects) :
    ∃ e client lookup missing target,
      x.visit.route? = some (.submit e) ∧ x.visit.client? e = some client ∧
      Session.callsOf x.outcome.effects = [(base, request)] ∧
      Session.lookupsOf x.outcome.effects = [lookup] ∧
      Seeks (x.visit.context defaults e client) client.helper client.payload lookup missing ∧
      FirstIn subscribers (fun t => lookup.accepts t = true) target ∧
      FirstIn subscribers
        (fun t => Eligible (x.visit.context defaults e client) client.helper t client.payload)
        target ∧
      base = target.url ∧ request.exchange = e ∧
      (e = .select ∨ e = .init ∨ e = .confirm → ∃ cart provider items,
        client.payload.cart? = some cart ∧ request.ordered? = some (some provider, items) ∧
        items.map (fun i => (i.id, i.quantity)) =
          cart.map (fun i => (some i.id, some i.quantity)) ∧
        ∀ i ∈ cart, i.bppId = target.id ∧ i.provider.id = provider) := by
  obtain ⟨hmem, early, later, -, hout⟩ := exists_of_mem_transcript defaults hx
  rw [hout] at hcall ⊢
  -- Only a submission that was read makes calls at all.
  have hread : ∃ e client, x.visit.route? = some (.submit e) ∧ x.visit.client? e = some client := by
    by_contra hno
    have hkinds := Visit.kinds_of_no_client defaults (after defaults s early)
      (Visit.client?_eq_none hno)
    rw [callsOf_eq_nil fun effect he => (hkinds effect he).2] at hcall
    exact absurd hcall List.not_mem_nil
  obtain ⟨e, client, hroute, hclient⟩ := hread
  have course := course_submit x.visit.world (after defaults s early) x.visit.minted.now
    (x.visit.context defaults e client) client.helper client.payload
  rw [Visit.outcome_of_submit defaults _ hroute hclient] at hcall ⊢
  obtain ⟨lookup, missing, target, hseeks, hlookups, hfirst, hbase, hbuilt, hcalls⟩ :=
    course.of_call hcall
  obtain ⟨d, hd, hregistry⟩ := hdirectory x.visit hmem
  have hfound : FirstIn subscribers (fun t => lookup.accepts t = true) target := by
    rw [hregistry] at hfirst
    rw [← hd]
    exact Directory.firstIn_of_first hfirst
  have hexchange : client.payload.exchange = e := Visit.exchange_of_client hclient
  refine ⟨e, client, lookup, missing, target, hroute, hclient, hcalls, hlookups, hseeks, hfound,
    hfound.congr hseeks.accepts_iff, hbase, ?_, ?_⟩
  · rw [(Payload.request_eq_ok hbuilt).2, hexchange]
  · intro hordering
    rw [← hexchange] at hordering
    obtain ⟨cart, hcart⟩ := Payload.exists_cart hordering
    have haccepts : lookup.accepts target = true := by
      obtain ⟨-, -, -, haccepts, -⟩ := hfound
      exact haccepts
    obtain ⟨provider, hhead, hitems⟩ := hseeks.exists_provider hcart haccepts
    refine ⟨cart, provider, cart.map .ofCart, hcart, ?_, SelectedItem.map_ofCart cart, hitems⟩
    rw [Payload.ordered?_of_request hbuilt, hcart, ← hhead]
    rfl

namespace Sample

/-- Three subscribers of one id, the first of another role. -/
def directory : Directory where
  subscribers := [⟨"b", "https://buyer", .bap, none, none, none⟩,
    ⟨"b", "https://first", .bpp, none, none, none⟩,
    ⟨"b", "https://second", .bpp, none, none, none⟩]

/-- Asks the counterparty `b` for a quote for two items of the provider `p`. -/
def quote : Visit where
  request := ⟨"PUT", "/client/v1/get_quote", some "application/json",
    ("\x7b\"message\":\x7b\"cart\":[[[\"i\",\"b\",[\"p\"],[1]]," ++
      "[\"j\",\"b\",[\"p\"],[2]]]]\x7d\x7d").toUTF8.toList⟩
  minted := ⟨"t", "q", noon⟩
  world := { world with registry := directory.found }

end Sample

/-- The quote goes to the first of the two counterparties, with both items. -/
theorem quote_reaches_first :
    ∃ (request : Request) (target : Subscriber) (cart : List CartItem) (provider : String)
      (items : List SelectedItem),
      Session.callsOf (Sample.quote.outcome Sample.defaults .empty).effects =
        [("https://first", request)] ∧
      target ∈ Sample.directory.subscribers ∧ "https://first" = target.url ∧
      request.ordered? = some (some provider, items) ∧
      items.map (fun i => (i.id, i.quantity)) =
        [(some "i", some ⟨1, none⟩), (some "j", some ⟨2, none⟩)] ∧
      cart.length = 2 ∧ ∀ i ∈ cart, i.bppId = target.id ∧ i.provider.id = provider := by
  have hbases : (Session.callsOf (Sample.quote.outcome Sample.defaults .empty).effects).map
      Prod.fst = ["https://first"] := by
    decide +kernel
  obtain ⟨⟨base, request⟩, hcalls, hbase⟩ := List.map_eq_singleton_iff.1 hbases
  cases hbase
  have hmem : ("https://first", request) ∈
      Session.callsOf (Sample.quote.outcome Sample.defaults .empty).effects := by
    rw [hcalls]
    exact List.mem_singleton_self _
  obtain ⟨e, client, lookup, missing, target, hroute, hclient, -, -, -, hfirst, -, hurl, -,
      horders⟩ :=
    calls_reach_their_addressee Sample.defaults Sample.directory.subscribers .empty [Sample.quote]
      (fun v hv => ⟨Sample.directory, rfl, by rw [List.mem_singleton.1 hv]; rfl⟩)
      ⟨Sample.quote, Sample.quote.outcome Sample.defaults .empty⟩ List.mem_cons_self _ request hmem
  have hselect : Sample.quote.route? = some (.submit .select) :=
    Visit.route?_eq_submit_iff.2 ⟨by decide +kernel, rfl⟩
  cases hselect.symm.trans hroute
  obtain ⟨cart, provider, items, hcart, hordered, himage, hitems⟩ := horders (.inl rfl)
  have hread : ((Sample.quote.client? .select).bind (·.payload.cart?)).map
      (List.map fun i => (i.id, i.quantity)) =
        some [("i", ⟨1, none⟩), ("j", ⟨2, none⟩)] := by
    decide +kernel
  rw [hclient, Option.bind_some, hcart, Option.map_some, Option.some.injEq] at hread
  have hlength : cart.length = 2 := by
    rw [← List.length_map, hread]
    rfl
  have hcarried : cart.map (fun i => (some i.id, some i.quantity)) =
      [(some "i", some ⟨1, none⟩), (some "j", some ⟨2, none⟩)] := by
    calc
      cart.map (fun i => (some i.id, some i.quantity)) =
          (cart.map fun i => (i.id, i.quantity)).map (Prod.map some some) := by
        rw [List.map_map]
        rfl
      _ = [(some "i", some ⟨1, none⟩), (some "j", some ⟨2, none⟩)] := by
        rw [hread]
        rfl
  obtain ⟨earlier, later, hsplit, -, -⟩ := hfirst
  have htarget : target ∈ Sample.directory.subscribers := by
    rw [hsplit]
    exact List.mem_append_right _ List.mem_cons_self
  exact ⟨request, target, cart, provider, items, hcalls, htarget, hurl, hordered,
    himage.trans hcarried, hlength, hitems⟩

end Gateway

end BuyerGateway
