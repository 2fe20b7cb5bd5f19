import BuyerGateway.Proofs.RegistryReplies
/-!
Ids of counterparties that are blank. A search, a track and a request for support take a blank for
no id at all. A cart does not: the id that its items share is looked up as it stands.
-/
namespace BuyerGateway

/-- Asks for a counterparty whose id is blank. -/
def Lookup.AsksBlank (l : Lookup) : Prop :=
  l.role = some .bpp ∧ ∃ id, l.id = some id ∧ Text.isBlank id = true

theorem Lookup.asksBlank_bpp_iff {id : String} : (bpp id).AsksBlank ↔ Text.isBlank id = true := by
  constructor
  · rintro ⟨-, id', hid, hb⟩
    cases hid
    exact hb
  · intro hb
    exact ⟨rfl, id, rfl, hb⟩

/-- A cart of items of one provider that all have this blank for the id of their counterparty. -/
def Payload.SharesBlank (p : Payload) (id : String) : Prop :=
  Text.isBlank id = true ∧ ∃ items provider, p.cart? = some items ∧ items ≠ [] ∧
    ∀ i ∈ items, i.bppId = id ∧ i.provider.id = provider

namespace Gateway

/-! ### Lookups of a submission -/

section

variable {world : World} {now : Timestamp} {context : Context} {helper : Option String}
  {payload : Payload} {lookup : Lookup} {missing : RegistryFailure}

theorem Seeks.of_sharesBlank {id : String} (h : payload.SharesBlank id) :
    Seeks context helper payload (.bpp id) .noBppFound := by
  obtain ⟨-, items, provider, hp, hne, hi⟩ := h
  exact .cart hp hne hi

/-- Every path to a lookup but that of a cart has made sure that its id is not blank. -/
theorem Seeks.asksBlank_iff (h : Seeks context helper payload lookup missing) :
    lookup.AsksBlank ↔ ∃ id, payload.SharesBlank id := by
  constructor
  · intro hblank
    have absent {id : String} (hb : Text.isBlank id = false) (ha : (Lookup.bpp id).AsksBlank) :
        False := by
      rw [Lookup.asksBlank_bpp_iff, hb] at ha
      cases ha
    cases h with
    | @cart _ items id provider hp hne hi =>
      exact ⟨id, Lookup.asksBlank_bpp_iff.1 hblank, items, provider, hp, hne, hi⟩
    | named hid hb => exact (absent hb hblank).elim
    | anyone hb =>
      obtain ⟨hrole, -⟩ := hblank
      cases hrole
    | track hid hb => exact (absent hb hblank).elim
    | support hid hb => exact (absent hb hblank).elim
  · rintro ⟨id, hshares⟩
    obtain ⟨rfl, -⟩ := h.unique (.of_sharesBlank hshares)
    exact Lookup.asksBlank_bpp_iff.2 hshares.1

variable {ledger after : Ledger} {effects : List Effect}
  {result : Except SubmitFailure (Option LedgerEntry)}

theorem Course.exists_seeks
    (h : Course world ledger now context helper payload effects result after)
    (hl : lookup ∈ Session.lookupsOf effects) :
    ∃ missing, Seeks context helper payload lookup missing := by
  -- Whatever came behind it, the lookup of a course is the one at its head.
  have sought {l : Lookup} {cause : RegistryFailure} (hs : Seeks context helper payload l cause)
      (hsame : Session.lookupsOf effects = [l]) :
      ∃ missing, Seeks context helper payload lookup missing := by
    rw [hsame, List.mem_singleton] at hl
    subst hl
    exact ⟨cause, hs⟩
  cases h with
  | refused hm => cases hl
  | nobody hp => cases hl
  | unregistered hs hf => exact sought hs rfl
  | unbuilt hs hf hb => exact sought hs rfl
  | unacknowledged hs hf hb ha => exact sought hs rfl
  | unrecorded hs hf hb ha ho => exact sought hs rfl
  | recorded hs hf hb ha ho => exact sought hs rfl

theorem Course.lookupsOf_of_seeks
    (h : Course world ledger now context helper payload effects result after)
    (hs : Seeks context helper payload lookup missing) : Session.lookupsOf effects = [lookup] := by
  have same {l : Lookup} {cause : RegistryFailure} (hs' : Seeks context helper payload l cause) :
      [l] = [lookup] := congrArg (fun l => [l]) (hs'.unique hs).1
  obtain ⟨a, ha, hl⟩ := Addressee.ofPayload_of_seeks hs
  cases h with
  | refused hm => cases ha.symm.trans (Addressee.ofPayload_of_misaddressed hm)
  | nobody hp =>
    cases ha.symm.trans (Addressee.ofPayload_of_empty hp)
    cases hl
  | unregistered hs' hf => exact same hs'
  | unbuilt hs' hf hb => exact same hs'
  | unacknowledged hs' hf hb ha => exact same hs'
  | unrecorded hs' hf hb ha ho => exact same hs'
  | recorded hs' hf hb ha ho => exact same hs'

/-- A search for a blank is one for nobody in particular to its end: the id is not even sent. -/
theorem submit_of_blank_search {criteria : SearchCriteria}
    (h : ∀ id, criteria.bppId = some id → Text.isBlank id = true) :
    submit now context helper (.search criteria) =
      submit now context helper (.search { criteria with bppId := none }) := by
  have absent (id : String)
      (hid : ({ criteria with bppId := none } : SearchCriteria).bppId = some id) :
      Text.isBlank id = true := by
    cases hid
  rw [submit_of_seeks (.anyone h), submit_of_seeks (.anyone absent)]
  rfl

/-- What is refused for its own sake is misaddressed. -/
theorem Course.misaddressed_of_validation {cause : ValidationFailure}
    (h : Course world ledger now context helper payload effects (.error (.validation cause))
      after) :
    Misaddressed context helper payload cause := by
  cases h with
  | refused hm => exact hm

/-- Want of a counterparty is no cause to refuse a cart. -/
theorem Course.cart?_of_unnamed
    (h : Course world ledger now context helper payload effects
      (.error (.validation .bppIdNotPresent)) after) : payload.cart? = none := by
  cases h.misaddressed_of_validation with
  | track hb => rfl
  | support hb => rfl

end

namespace Visit

variable {v : Visit} {e : Exchange} {client : ClientRequest} (defaults : ContextDefaults)
  (s : Stores)

/-- Only a submission that is read looks anything up, and it looks up what it seeks. -/
theorem exists_seeks_of_lookup {l : Lookup}
    (hl : l ∈ Session.lookupsOf (v.outcome defaults s).effects) :
    ∃ e client missing, v.route? = some (.submit e) ∧ v.client? e = some client ∧
      Seeks (v.context defaults e client) client.helper client.payload l missing := by
  have hmem : Effect.lookup l ∈ (v.outcome defaults s).effects := by
    obtain ⟨effect, heffect, hsome⟩ := List.mem_filterMap.1 hl
    cases effect with
    | lookup request =>
      cases hsome
      exact heffect
    | _ => cases hsome
  obtain ⟨e, client, hroute, hclient⟩ := may_of_mem defaults v s hmem
  obtain ⟨effects, result, ledger, course, hout⟩ := exists_course defaults s hroute hclient
  rw [hout] at hl
  obtain ⟨missing, hs⟩ := course.exists_seeks hl
  exact ⟨e, client, missing, hroute, hclient, hs⟩

variable {defaults s}

theorem lookupsOf_of_seeks {lookup : Lookup} {missing : RegistryFailure}
    (h : v.route? = some (.submit e)) (hb : v.client? e = some client)
    (hs : Seeks (v.context defaults e client) client.helper client.payload lookup missing) :
    Session.lookupsOf (v.outcome defaults s).effects = [lookup] := by
  obtain ⟨effects, result, ledger, course, hout⟩ := exists_course defaults s h hb
  rw [hout]
  exact course.lookupsOf_of_seeks hs

theorem asksBlank_iff :
    (∃ l ∈ Session.lookupsOf (v.outcome defaults s).effects, l.AsksBlank) ↔
      ∃ e client id, v.route? = some (.submit e) ∧ v.client? e = some client ∧
        client.payload.SharesBlank id := by
  constructor
  · rintro ⟨l, hl, hblank⟩
    obtain ⟨e, client, missing, hroute, hclient, hs⟩ := exists_seeks_of_lookup defaults s hl
    obtain ⟨id, hshares⟩ := hs.asksBlank_iff.1 hblank
    exact ⟨e, client, id, hroute, hclient, hshares⟩
  · rintro ⟨e, client, id, hroute, hclient, hshares⟩
    have hlookups : Session.lookupsOf (v.outcome defaults s).effects = [.bpp id] :=
      lookupsOf_of_seeks hroute hclient (.of_sharesBlank hshares)
    refine ⟨.bpp id, ?_, Lookup.asksBlank_bpp_iff.2 hshares.1⟩
    rw [hlookups]
    exact List.mem_singleton_self _

/-- A submission that is misaddressed is refused and leaves nothing behind. -/
theorem outcome_of_misaddressed {cause : ValidationFailure} (h : v.route? = some (.submit e))
    (hb : v.client? e = some client)
    (hm : Misaddressed (v.context defaults e client) client.helper client.payload cause) :
    v.outcome defaults s =
      ⟨Setting.refusal (v.context defaults e client) cause.refusal, [], s⟩ := by
  have refused : Course v.world s.ledger v.minted.now (v.context defaults e client)
      client.helper client.payload _ _ _ := .refused hm
  exact outcome_of_course defaults s h hb refused

theorem row?_of_cart {items : List CartItem} (h : v.route? = some (.submit e))
    (hb : v.client? e = some client) (hc : client.payload.cart? = some items) :
    (v.outcome defaults s).result.row? ≠ some (400, "BAP_015") := by
  obtain ⟨effects, result, ledger, course, hout⟩ := exists_course defaults s h hb
  rw [hout]
  intro hrow
  have hresult : result = .error (.validation .bppIdNotPresent) :=
    (row?_submitAnswer_iff (.validation .bppIdNotPresent)).1 hrow
  subst hresult
  cases hc.symm.trans course.cart?_of_unnamed

theorem outcome_of_blank_search {w : Visit} {criteria : SearchCriteria}
    (h : v.route? = some (.submit e)) (hb : v.client? e = some client)
    (hp : client.payload = .search criteria)
    (hblank : ∀ id, criteria.bppId = some id → Text.isBlank id = true)
    (hminted : w.minted = v.minted) (hworld : w.world = v.world)
    (hroute : w.route? = some (.submit e))
    (hclient : w.client? e =
      some { client with payload := .search { criteria with bppId := none } }) :
    w.outcome defaults s = v.outcome defaults s := by
  obtain ⟨clientContext, payload, helper⟩ := client
  cases hp
  rw [outcome_of_submit defaults s hroute hclient, outcome_of_submit defaults s h hb]
  have hcontext : w.context defaults e
      ⟨clientContext, .search { criteria with bppId := none }, helper⟩ =
        v.context defaults e ⟨clientContext, .search criteria, helper⟩ := by
    rw [context, context, setting, setting, hminted]
    rfl
  simp only [hcontext, hminted, hworld, submit_of_blank_search hblank]

/-- Refused for want of a counterparty, under the context of the submission and without a trace. -/
def Unnamed (defaults : ContextDefaults) (s : Stores) (v : Visit) (e : Exchange)
    (client : ClientRequest) : Prop :=
  v.outcome defaults s = ⟨⟨400, some (Acknowledgement.shape.encode
    ⟨some (v.context defaults e client), .nack, some ⟨"BAP_015", "BPP Id is mandatory"⟩⟩)⟩, [], s⟩

/-- What comes of a submission whose counterparty is a blank. -/
structure Blanks (defaults : ContextDefaults) (s : Stores) (v : Visit) (e : Exchange)
    (client : ClientRequest) : Prop where
  search : ∀ criteria, client.payload = .search criteria →
    (∀ id, criteria.bppId = some id → Text.isBlank id = true) →
    Session.lookupsOf (v.outcome defaults s).effects =
      [.gateways defaults.domain defaults.country defaults.city] ∧
    ∀ w : Visit, w.minted = v.minted → w.world = v.world → w.route? = some (.submit e) →
      w.client? e = some { client with payload := .search { criteria with bppId := none } } →
      w.outcome defaults s = v.outcome defaults s
  track : ∀ orderId callbackUrl, client.payload = .track orderId callbackUrl →
    (∀ id, client.context.bppId = some id → Text.isBlank id = true) → Unnamed defaults s v e client
  support : ∀ refId, client.payload = .support refId →
    (∀ id, client.helper = some id → Text.isBlank id = true) → Unnamed defaults s v e client
  cart : ∀ id, client.payload.SharesBlank id →
    Session.lookupsOf (v.outcome defaults s).effects = [.bpp id] ∧
      (v.outcome defaults s).result.row? ≠ some (400, "BAP_015")

theorem blanks_of_submit (h : v.route? = some (.submit e)) (hb : v.client? e = some client) :
    Blanks defaults s v e client where
  search criteria hp hblank := by
    have he : client.payload.exchange = e := exchange_of_client hb
    refine ⟨?_, ?_⟩
    · rw [hp] at he
      subst he
      have hs : Seeks (v.context defaults .search client) client.helper client.payload
          (.gateways defaults.domain defaults.country defaults.city) .noGatewayFound := by
        rw [hp]
        exact .anyone hblank
      exact lookupsOf_of_seeks h hb hs
    · intro w hminted hworld hroute hclient
      exact outcome_of_blank_search h hb hp hblank hminted hworld hroute hclient
  track orderId callbackUrl hp hblank := by
    have he : client.payload.exchange = e := exchange_of_client hb
    rw [hp] at he
    subst he
    -- The context of a track is sent to the counterparty that the client names in its own.
    have hm : Misaddressed (v.context defaults .track client) client.helper client.payload
        .bppIdNotPresent := by
      rw [hp]
      exact .track hblank
    exact outcome_of_misaddressed h hb hm
  support refId hp hblank := by
    have hm : Misaddressed (v.context defaults e client) client.helper client.payload
        .bppIdNotPresent := by
      rw [hp]
      exact .support hblank
    exact outcome_of_misaddressed h hb hm
  cart id hshares := by
    obtain ⟨items, provider, hc, -, -⟩ := hshares.2
    exact ⟨lookupsOf_of_seeks h hb (.of_sharesBlank hshares), row?_of_cart h hb hc⟩

end Visit

/-- In every run the registry is asked for a counterparty with a blank id exactly by the carts of
one provider whose items share this blank. Everywhere else a blank counts as absent. -/
theorem blank_ids_are_looked_up_for_carts_alone (defaults : ContextDefaults) (s : Stores) :
    (∀ visits, ∀ x ∈ transcript defaults s visits,
      ((∃ l ∈ Session.lookupsOf x.outcome.effects, l.AsksBlank) ↔
        ∃ e client id, x.visit.route? = some (.submit e) ∧ x.visit.client? e = some client ∧
          client.payload.SharesBlank id)) ∧
    ∀ (v : Visit) (e : Exchange) (client : ClientRequest), v.route? = some (.submit e) →
      v.client? e = some client → Visit.Blanks defaults s v e client := by
  refine ⟨?_, ?_⟩
  · intro visits x hx
    obtain ⟨-, early, later, -, hout⟩ := exists_of_mem_transcript defaults hx
    rw [hout]
    exact Visit.asksBlank_iff
  · intro v e client hroute hclient
    exact Visit.blanks_of_submit hroute hclient

namespace Sample

/-- Tracks an order, and names a blank for its counterparty. -/
def blankTrack : Visit where
  request := ⟨"POST", "/client/v1/track", some "application/json",
    ("\x7b\"context\":\x7b\"bpp_id\":\"\\t\"\x7d," ++
      "\"message\":\x7b\"order_id\":\"o\"\x7d\x7d").toUTF8.toList⟩
  minted := ⟨"t", "m", noon⟩
  world := world

/-- Asks for a quote for an item whose counterparty is a blank. -/
def blankQuote : Visit where
  request := ⟨"PUT", "/client/v1/get_quote", some "application/json",
    "\x7b\"message\":\x7b\"cart\":[[[\"i\",\" \",[\"p\"],[1]]]]\x7d\x7d".toUTF8.toList⟩
  minted := ⟨"t", "q", noon⟩
  world := { world with registry := directory.found }

end Sample

/-- A track without a counterparty has no effect. -/
theorem blank_track_is_refused :
    (Sample.blankTrack.outcome Sample.defaults .empty).result.status = 400 ∧
      (Sample.blankTrack.outcome Sample.defaults .empty).effects = [] := by
  have hclient : Sample.blankTrack.client? .track =
      some ⟨⟨none, some "\t"⟩, .track "o" none, none⟩ := by decide +kernel
  obtain ⟨-, blanks⟩ := blank_ids_are_looked_up_for_carts_alone Sample.defaults .empty
  have htrack := blanks Sample.blankTrack .track _ (by decide +kernel) hclient
  have hunnamed := htrack.track "o" none rfl (by decide)
  rw [Visit.Unnamed] at hunnamed
  rw [hunnamed]
  exact ⟨rfl, rfl⟩

/-- A quote from a blank has the registry asked for one, which is not registered. -/
theorem blank_quote_is_looked_up :
    Session.lookupsOf (Sample.blankQuote.outcome Sample.defaults .empty).effects = [.bpp " "] ∧
      (Sample.blankQuote.outcome Sample.defaults .empty).result.row? = some (500, "BAP_004") ∧
      ¬ ∀ (defaults : ContextDefaults) (s : Stores) (visits : List Visit),
        ∀ x ∈ transcript defaults s visits, ∀ l ∈ Session.lookupsOf x.outcome.effects,
          ¬ l.AsksBlank := by
  have hlookups : Session.lookupsOf (Sample.blankQuote.outcome Sample.defaults .empty).effects =
      [.bpp " "] := by decide +kernel
  refine ⟨hlookups, by decide +kernel, ?_⟩
  intro h
  refine h Sample.defaults .empty [Sample.blankQuote] _ List.mem_cons_self (.bpp " ") ?_
    (Lookup.asksBlank_bpp_iff.2 (by decide))
  rw [hlookups]
  exact List.mem_singleton_self _

end Gateway

end BuyerGateway
