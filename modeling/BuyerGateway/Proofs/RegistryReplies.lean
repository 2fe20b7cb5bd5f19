import BuyerGateway.Proofs.RemoteRegistry
import BuyerGateway.Proofs.RequestBuilding
import BuyerGateway.Proofs.Shape.Faults
import Mathlib.Data.List.Forall2
/-!
Raw replies of a registry and what a lookup makes of them. A reply fails inside, or it is null, or
it is a list of subscribers, told from its status first and then from whether its bytes as a whole
read as such a list; an empty list is a list. A client whose submission fails there reads which of
these it was, and nobody was called.
-/
namespace BuyerGateway

namespace Shape

/-- A list is read exactly if each of its elements is, and then in their order. -/
theorem mapM_eq_some_iff {α β : Type} {read : α → Option β} {as : List α} {bs : List β} :
    as.mapM read = some bs ↔ List.Forall₂ (fun a b => read a = some b) as bs := by
  induction as generalizing bs with
  | nil =>
    rw [List.mapM_nil, List.forall₂_nil_left_iff]
    exact ⟨fun h => (Option.some.inj h).symm, fun h => congrArg some h.symm⟩
  | cons a as ih =>
    rw [List.mapM_cons, List.forall₂_cons_left_iff]
    constructor
    · intro h
      obtain ⟨b, hb, hrest⟩ := Option.bind_eq_some_iff.1 h
      obtain ⟨rest, hread, hbs⟩ := Option.bind_eq_some_iff.1 hrest
      cases hbs
      exact ⟨b, rest, hb, ih.1 hread, rfl⟩
    · rintro ⟨b, rest, hb, hread, rfl⟩
      rw [hb, ih.2 hread]
      rfl

/-- A tree is no list, or it is one with an element that is refused. -/
theorem decode_list_eq_none_iff {α : Type} {s : Shape α} {room : Nat} {u : Json} :
    (list s).decode room u = none ↔ (∀ items, u ≠ .array items) ∨
      ∃ before v later, u = .array (before ++ v :: later) ∧ s.decode (room - 1) v = none := by
  cases u with
  | array items =>
    rw [decode, mapM_eq_none_iff]
    constructor
    · rintro ⟨v, hv, hnone⟩
      obtain ⟨before, later, rfl⟩ := List.append_of_mem hv
      exact .inr ⟨before, v, later, rfl, hnone⟩
    · rintro (hno | ⟨before, v, later, heq, hnone⟩)
      · exact absurd rfl (hno items)
      · cases heq
        exact ⟨v, List.mem_append_right _ List.mem_cons_self, hnone⟩
  | _ =>
    refine iff_of_true rfl (.inl ?_)
    intro items h
    cases h

/-- What is there is a value, and null is none. -/
theorem ofBytes?_nullable_eq_some_iff {α : Type} {s : Shape α} {body : List UInt8} {a : α}
    (hnull : ∀ room, s.decode room .null = none) :
    (nullable s).ofBytes? body = some (some a) ↔ s.ofBytes? body = some a := by
  rw [ofBytes?, ofBytes?]
  cases Json.read? body with
  | none => exact ⟨nofun, nofun⟩
  | some u =>
    rw [Option.bind_some, Option.bind_some]
    by_cases hu : u = .null
    · subst hu
      rw [hnull]
      exact ⟨nofun, nofun⟩
    · rw [decode_nullable_of_ne_null hu, Option.map_eq_some_iff]
      constructor
      · rintro ⟨b, hb, hab⟩
        cases hab
        exact hb
      · intro ha
        exact ⟨a, ha, rfl⟩

end Shape

/-! ### First finds -/

namespace Found

variable {missing cause : RegistryFailure} {f : Found}

theorem first_eq_ok_iff {s : Subscriber} :
    f.first missing = .ok s ↔ ∃ rest, f = .ok (s :: rest) := by
  match f with
  | .error failure => exact ⟨nofun, nofun⟩
  | .ok [] => exact ⟨nofun, nofun⟩
  | .ok (t :: rest) =>
    constructor
    · intro h
      cases h
      exact ⟨rest, rfl⟩
    · rintro ⟨rest', h⟩
      cases h
      rfl

/-- A failure of the lookup is passed on, and beside it there is only that nothing was found. -/
theorem first_eq_error_iff :
    f.first missing = .error cause ↔ f = .error cause ∨ f = .ok [] ∧ cause = missing := by
  match f with
  | .error failure => simp [first]
  | .ok [] =>
    constructor
    · intro h
      cases h
      exact .inr ⟨rfl, rfl⟩
    · rintro (h | ⟨-, rfl⟩)
      · cases h
      · rfl
  | .ok (t :: rest) => simp [first]

theorem exists_error_of_first (missing : RegistryFailure) (h : ∀ s rest, f ≠ .ok (s :: rest)) :
    ∃ cause, f.first missing = .error cause := by
  match f with
  | .error failure => exact ⟨failure, rfl⟩
  | .ok [] => exact ⟨missing, rfl⟩
  | .ok (s :: rest) => exact absurd rfl (h s rest)

/-- What the first of the finds is, or why there is none. -/
structure TakenFirst (missing : RegistryFailure) (f : Found)
    (taken : Except RegistryFailure Subscriber) : Prop where
  internal : taken = .error .internal ↔ f = .error .internal
  null : taken = .error .nullResponse ↔ f = .error .nullResponse
  nobody : taken = .error missing ↔ f = .ok []
  somebody : ∀ s, taken = .ok s ↔ ∃ rest, f = .ok (s :: rest)

end Found

namespace Remote

/-! ### Bodies -/

/-- The format in which a registry lists subscribers. -/
def listing : Shape (List Subscriber) := .list Subscriber.shape

/-- How many containers an element of a listing may have inside each other. -/
def roomOfElement : Nat := Shape.roomOfText - 1

/-- Bodies that are no listing: no JSON, or none as a whole; no list, so that null is none; or a
list with an element anywhere in it that is no subscriber. -/
inductive Unlisted : List UInt8 → Prop
  | noJson {body : List UInt8} (h : Json.read? body = none) : Unlisted body
  | noList {body : List UInt8} {u : Json} (h : Json.read? body = some u)
      (hu : ∀ items, u ≠ .array items) : Unlisted body
  | element {body : List UInt8} {before later : List Json} {v : Json}
      (h : Json.read? body = some (.array (before ++ v :: later)))
      (hv : Subscriber.shape.Fault roomOfElement v) : Unlisted body

theorem ofBytes?_listing_eq_none_iff {body : List UInt8} :
    listing.ofBytes? body = none ↔ Unlisted body := by
  rw [Shape.ofBytes?]
  constructor
  · intro h
    cases hu : Json.read? body with
    | none => exact .noJson hu
    | some u =>
      rw [hu, Option.bind_some] at h
      rcases Shape.decode_list_eq_none_iff.1 h with hno | ⟨before, v, later, rfl, hv⟩
      · exact .noList hu hno
      · exact .element hu (Shape.fault_of_decode _ hv)
  · intro h
    cases h with
    | noJson hu => rw [hu]; rfl
    | noList hu hno =>
      rw [hu]
      exact Shape.decode_list_eq_none_iff.2 (.inl hno)
    | element hu hv =>
      rw [hu]
      exact Shape.decode_list_eq_none_iff.2 (.inr ⟨_, _, _, rfl, Shape.decode_of_fault hv⟩)

/-- A listing is read in full and in order. -/
theorem ofBytes?_listing_eq_some_iff {body : List UInt8} {subscribers : List Subscriber} :
    listing.ofBytes? body = some subscribers ↔ ∃ items, Json.read? body = some (.array items) ∧
      List.Forall₂ (fun v s => Subscriber.shape.decode roomOfElement v = some s) items
        subscribers := by
  rw [Shape.ofBytes?, Option.bind_eq_some_iff]
  constructor
  · rintro ⟨u, hu, hread⟩
    cases u with
    | array items => exact ⟨items, hu, Shape.mapM_eq_some_iff.1 hread⟩
    | _ => cases hread
  · rintro ⟨items, hu, hread⟩
    exact ⟨.array items, hu, Shape.mapM_eq_some_iff.2 hread⟩

/-! ### Replies -/

/-- What a lookup makes of a reply, one row for each outcome. -/
inductive Means : Reply → Found → Prop
  | unreachable {detail : String} : Means (.unreachable detail) (.error .internal)
  | timeout : Means .timeout (.error .internal)
  | status {status : Nat} {body : List UInt8} (h : ¬ (200 ≤ status ∧ status < 300)) :
      Means (.answer status body) (.error .internal)
  | unlisted {status : Nat} {body : List UInt8} (hs : 200 ≤ status ∧ status < 300)
      (hb : Unlisted body) : Means (.answer status body) (.error .nullResponse)
  | listed {status : Nat} {body : List UInt8} {subscribers : List Subscriber}
      (hs : 200 ≤ status ∧ status < 300) (hb : listing.ofBytes? body = some subscribers) :
      Means (.answer status body) (.ok subscribers)

/-- A body counts only under a status of success, and then it is a listing or nothing. -/
theorem found_answer_eq (status : Nat) (body : List UInt8) :
    found (.answer status body) =
      if isSuccess status then
        match listing.ofBytes? body with
        | some subscribers => .ok subscribers
        | none => .error .nullResponse
      else
        .error .internal := by
  have hread (subscribers : List Subscriber) :
      (Shape.nullable (.list Subscriber.shape)).ofBytes? body = some (some subscribers) ↔
        listing.ofBytes? body = some subscribers :=
    Shape.ofBytes?_nullable_eq_some_iff fun _ => rfl
  rw [found]
  cases hb : listing.ofBytes? body with
  | some subscribers => rw [(hread subscribers).2 hb]
  | none =>
    split
    · split
      · rename_i subscribers hsome
        cases hb.symm.trans ((hread subscribers).1 hsome)
      · rfl
    · rfl

/-- Every reply comes to exactly one thing. -/
theorem found_eq_iff {reply : Reply} {f : Found} : found reply = f ↔ Means reply f := by
  constructor
  · rintro rfl
    cases reply with
    | unreachable detail => exact .unreachable
    | timeout => exact .timeout
    | answer status body =>
      rw [found_answer_eq]
      split
      · rename_i hs
        have hs := Counterparty.isSuccess_iff.1 hs
        cases hb : listing.ofBytes? body with
        | none => exact .unlisted hs (ofBytes?_listing_eq_none_iff.1 hb)
        | some subscribers => exact .listed hs hb
      · rename_i hs
        exact .status fun h => hs (Counterparty.isSuccess_iff.2 h)
  · intro h
    cases h with
    | unreachable => rfl
    | timeout => rfl
    | status hs => rw [found_answer_eq, if_neg (mt Counterparty.isSuccess_iff.1 hs)]
    | unlisted hs hb =>
      rw [found_answer_eq, if_pos (Counterparty.isSuccess_iff.2 hs),
        ofBytes?_listing_eq_none_iff.2 hb]
    | listed hs hb => rw [found_answer_eq, if_pos (Counterparty.isSuccess_iff.2 hs), hb]

section

variable {reply : Reply}

theorem found_eq_internal_iff :
    found reply = .error .internal ↔ (∃ detail, reply = .unreachable detail) ∨ reply = .timeout ∨
      ∃ status body, reply = .answer status body ∧ ¬ (200 ≤ status ∧ status < 300) := by
  rw [found_eq_iff]
  constructor
  · intro h
    cases h with
    | unreachable => exact .inl ⟨_, rfl⟩
    | timeout => exact .inr (.inl rfl)
    | status hs => exact .inr (.inr ⟨_, _, rfl, hs⟩)
  · rintro (⟨detail, rfl⟩ | rfl | ⟨status, body, rfl, hs⟩)
    · exact .unreachable
    · exact .timeout
    · exact .status hs

theorem found_eq_nullResponse_iff :
    found reply = .error .nullResponse ↔
      ∃ status body, reply = .answer status body ∧ (200 ≤ status ∧ status < 300) ∧
        Unlisted body := by
  rw [found_eq_iff]
  constructor
  · intro h
    cases h with
    | unlisted hs hb => exact ⟨_, _, rfl, hs, hb⟩
  · rintro ⟨status, body, rfl, hs, hb⟩
    exact .unlisted hs hb

theorem found_eq_ok_iff {subscribers : List Subscriber} :
    found reply = .ok subscribers ↔
      ∃ status body items, reply = .answer status body ∧ (200 ≤ status ∧ status < 300) ∧
        Json.read? body = some (.array items) ∧
        List.Forall₂ (fun v s => Subscriber.shape.decode roomOfElement v = some s) items
          subscribers := by
  rw [found_eq_iff]
  constructor
  · intro h
    cases h with
    | listed hs hb =>
      obtain ⟨items, hu, hread⟩ := ofBytes?_listing_eq_some_iff.1 hb
      exact ⟨_, _, items, rfl, hs, hu, hread⟩
  · rintro ⟨status, body, items, rfl, hs, hu, hread⟩
    exact .listed hs (ofBytes?_listing_eq_some_iff.2 ⟨items, hu, hread⟩)

/-- No reply says that nobody was found; that is for those who look at the list. -/
theorem found_cases (reply : Reply) :
    found reply = .error .internal ∨ found reply = .error .nullResponse ∨
      ∃ subscribers, found reply = .ok subscribers := by
  have h : Means reply (found reply) := found_eq_iff.1 rfl
  generalize found reply = f at h ⊢
  cases h with
  | unreachable => exact .inl rfl
  | timeout => exact .inl rfl
  | status hs => exact .inl rfl
  | unlisted hs hb => exact .inr (.inl rfl)
  | listed hs hb => exact .inr (.inr ⟨_, rfl⟩)

/-- Nobody is missed but where the list is empty. -/
theorem first_found_eq_error_iff {missing cause : RegistryFailure} (hinternal : cause ≠ .internal)
    (hnull : cause ≠ .nullResponse) :
    (found reply).first missing = .error cause ↔ found reply = .ok [] ∧ cause = missing := by
  have hpassed : found reply ≠ .error cause := by
    intro h
    rcases found_cases reply with h' | h' | ⟨subscribers, h'⟩
    · exact hinternal (Except.error.inj (h.symm.trans h'))
    · exact hnull (Except.error.inj (h.symm.trans h'))
    · cases h.symm.trans h'
  rw [Found.first_eq_error_iff, or_iff_right hpassed]

theorem takenFirst_found {missing : RegistryFailure} (hinternal : missing ≠ .internal)
    (hnull : missing ≠ .nullResponse) :
    Found.TakenFirst missing (found reply) ((found reply).first missing) where
  internal := by simp [Found.first_eq_error_iff, hinternal.symm]
  null := by simp [Found.first_eq_error_iff, hnull.symm]
  nobody := by rw [first_found_eq_error_iff hinternal hnull, and_iff_left rfl]
  somebody _ := Found.first_eq_ok_iff

end

end Remote

namespace Gateway

/-! ### Submissions that end at the registry -/

section

variable {context : Context} {helper : Option String} {payload : Payload} {lookup : Lookup}
  {missing : RegistryFailure}

/-- A payload leads to one lookup alone. -/
theorem Seeks.unique {lookup' : Lookup} {missing' : RegistryFailure}
    (h : Seeks context helper payload lookup missing)
    (h' : Seeks context helper payload lookup' missing') :
    lookup = lookup' ∧ missing = missing' := by
  obtain ⟨a, ha, hl⟩ := Addressee.ofPayload_of_seeks h
  obtain ⟨a', ha', hl'⟩ := Addressee.ofPayload_of_seeks h'
  cases ha.symm.trans ha'
  cases hl.symm.trans hl'
  exact ⟨rfl, rfl⟩

/-- What is missed is a counterparty or a gateway, whichever was looked up. -/
theorem Seeks.missing_cases (h : Seeks context helper payload lookup missing) :
    (missing = .noBppFound ∧ lookup.role = some .bpp) ∨
      (missing = .noGatewayFound ∧ lookup.role = some .bg) := by
  cases h with
  | anyone hb => exact .inr ⟨rfl, rfl⟩
  | _ => exact .inl ⟨rfl, rfl⟩

theorem Seeks.noGatewayFound_iff (h : Seeks context helper payload lookup missing) :
    .noGatewayFound = missing ↔ lookup.role = some .bg := by
  rcases h.missing_cases with ⟨rfl, hrole⟩ | ⟨rfl, hrole⟩ <;> simp [hrole]

theorem Seeks.noBppFound_iff (h : Seeks context helper payload lookup missing) :
    .noBppFound = missing ↔ lookup.role = some .bpp := by
  rcases h.missing_cases with ⟨rfl, hrole⟩ | ⟨rfl, hrole⟩ <;> simp [hrole]

theorem Course.registry_iff {world : World} {ledger after : Ledger} {now : Timestamp}
    {effects : List Effect} {result : Except SubmitFailure (Option LedgerEntry)}
    {cause : RegistryFailure}
    (h : Course world ledger now context helper payload effects result after)
    (hs : Seeks context helper payload lookup missing) :
    result = .error (.registry cause) ↔
      Found.first missing (world.registry lookup) = .error cause := by
  constructor
  · intro hr
    cases h with
    | unregistered hs' hf =>
      cases hr
      obtain ⟨rfl, rfl⟩ := hs.unique hs'
      exact hf
    | _ => cases hr
  · intro hf
    have unregistered : Course world ledger now context helper payload _ _ _ := .unregistered hs hf
    exact (h.unique unregistered).2.1

end

namespace Visit

variable {v : Visit} {e : Exchange} {client : ClientRequest} {defaults : ContextDefaults}
  {lookup : Lookup} {missing cause : RegistryFailure}

/-- A submission for whom nobody is found ends there, with the cause and nothing else. -/
theorem outcome_of_unregistered (s : Stores) (h : v.route? = some (.submit e))
    (hb : v.client? e = some client)
    (hs : Seeks (v.context defaults e client) client.helper client.payload lookup missing)
    (hf : Found.first missing (v.world.registry lookup) = .error cause) :
    v.outcome defaults s =
      ⟨Setting.refusal (v.context defaults e client) cause.refusal, [.lookup lookup], s⟩ := by
  have unregistered : Course v.world s.ledger v.minted.now (v.context defaults e client)
      client.helper client.payload _ _ _ := .unregistered hs hf
  exact outcome_of_course defaults s h hb unregistered

theorem row?_registry_iff (s : Stores) (h : v.route? = some (.submit e))
    (hb : v.client? e = some client)
    (hs : Seeks (v.context defaults e client) client.helper client.payload lookup missing) :
    (v.outcome defaults s).result.row? = some (cause.refusal.status, cause.refusal.error.code) ↔
      Found.first missing (v.world.registry lookup) = .error cause := by
  obtain ⟨effects, result, ledger, course, hout⟩ := exists_course defaults s h hb
  rw [hout, ← course.registry_iff hs]
  exact row?_submitAnswer_iff (.registry cause)

end Visit

/-- What a client reads of a find, as the row of its answer. Where there is nobody to call, the
lookup is all that happens. -/
structure Reported (lookup : Lookup) (f : Found) (s : Stores) (o : Outcome Web.Response) :
    Prop where
  internal : o.result.row? = some (500, "BAP_001") ↔ f = .error .internal
  noGateway : o.result.row? = some (500, "BAP_002") ↔ f = .ok [] ∧ lookup.role = some .bg
  null : o.result.row? = some (500, "BAP_003") ↔ f = .error .nullResponse
  noBpp : o.result.row? = some (500, "BAP_004") ↔ f = .ok [] ∧ lookup.role = some .bpp
  nobody : (∀ t rest, f ≠ .ok (t :: rest)) → o.effects = [.lookup lookup] ∧ o.stores = s

theorem Visit.reported {server : Server} {base : String} {v : Visit} {e : Exchange}
    {client : ClientRequest} {defaults : ContextDefaults} {lookup : Lookup}
    {missing : RegistryFailure} (s : Stores)
    (hregistry : v.world.registry = Remote.lookup server base)
    (h : v.route? = some (.submit e)) (hb : v.client? e = some client)
    (hs : Seeks (v.context defaults e client) client.helper client.payload lookup missing) :
    Reported lookup (Remote.lookup server base lookup) s (v.outcome defaults s) := by
  have hrow (cause : RegistryFailure) :
      (v.outcome defaults s).result.row? =
          some (cause.refusal.status, cause.refusal.error.code) ↔
        (Remote.lookup server base lookup).first missing = .error cause := by
    rw [← hregistry]
    exact row?_registry_iff s h hb hs
  have htaken : Found.TakenFirst missing (Remote.lookup server base lookup)
      ((Remote.lookup server base lookup).first missing) := by
    rcases hs.missing_cases with ⟨rfl, -⟩ | ⟨rfl, -⟩ <;> exact Remote.takenFirst_found nofun nofun
  constructor
  · exact (hrow .internal).trans htaken.internal
  · rw [← hs.noGatewayFound_iff]
    exact (hrow .noGatewayFound).trans (Remote.first_found_eq_error_iff nofun nofun)
  · exact (hrow .nullResponse).trans htaken.null
  · rw [← hs.noBppFound_iff]
    exact (hrow .noBppFound).trans (Remote.first_found_eq_error_iff nofun nofun)
  · intro hnobody
    obtain ⟨cause, hcause⟩ := Found.exists_error_of_first missing hnobody
    rw [← hregistry] at hcause
    rw [outcome_of_unregistered s h hb hs hcause]
    exact ⟨rfl, rfl⟩

/-- Whatever comes back of a lookup that is posted to a registry, it is found to be exactly one of
three things: an internal failure, a null response, or the whole list in its order. A client whose
submission ends there reads which of these it was, and nobody was called for it. -/
theorem registry_replies_are_classified (server : Server) (base : String) :
    let find := Remote.lookup server base
    (∀ l, let reply := server (Remote.lookupUrl base) (Lookup.shape.toBytes l)
      (find l = .error .internal ∨ find l = .error .nullResponse ∨
        ∃ subscribers, find l = .ok subscribers) ∧
      (find l = .error .internal ↔ (∃ detail, reply = .unreachable detail) ∨ reply = .timeout ∨
        ∃ status body, reply = .answer status body ∧ ¬ (200 ≤ status ∧ status < 300)) ∧
      (find l = .error .nullResponse ↔ ∃ status body, reply = .answer status body ∧
        (200 ≤ status ∧ status < 300) ∧ Remote.Unlisted body) ∧
      ∀ subscribers, find l = .ok subscribers ↔ ∃ status body items, reply = .answer status body ∧
        (200 ≤ status ∧ status < 300) ∧ Json.read? body = some (.array items) ∧
        List.Forall₂ (fun v s => Subscriber.shape.decode Remote.roomOfElement v = some s) items
          subscribers) ∧
    (∀ id, Found.TakenFirst .noBppFound (find (.bpp id)) (find (.bpp id)).firstBpp) ∧
    (∀ domain country city, Found.TakenFirst .noGatewayFound (find (.gateways domain country city))
      (find (.gateways domain country city)).firstGateway) ∧
    ∀ (defaults : ContextDefaults) (s : Stores) (v : Visit) (e : Exchange) (client : ClientRequest)
      (l : Lookup) (missing : RegistryFailure), v.world.registry = find →
      v.route? = some (.submit e) → v.client? e = some client →
      Seeks (v.context defaults e client) client.helper client.payload l missing →
      Reported l (find l) s (v.outcome defaults s) := by
  intro find
  refine ⟨?_, ?_, ?_, ?_⟩
  · intro l reply
    exact ⟨Remote.found_cases reply, Remote.found_eq_internal_iff, Remote.found_eq_nullResponse_iff,
      fun subscribers => Remote.found_eq_ok_iff⟩
  · intro id
    exact Remote.takenFirst_found nofun nofun
  · intro domain country city
    exact Remote.takenFirst_found nofun nofun
  · intro defaults s v e client l missing hregistry hroute hclient hs
    exact Visit.reported s hregistry hroute hclient hs

namespace Sample

/-- A listing whose second element does not say where its subscriber is reached. -/
def halfListing : Server := fun _ _ =>
  .answer 200 (
    "[\x7b\"subscriber_id\":\"g\",\"subscriber_url\":\"https://g\",\"type\":\"BG\"\x7d," ++
    "\x7b\"subscriber_id\":\"h\",\"type\":\"BG\"\x7d]").toUTF8.toList

/-- The search of the sample, over that registry. -/
def strandedSearch : Visit :=
  { search with world := { world with registry := Remote.lookup halfListing "https://r/" } }

end Sample

/-- For one element that cannot be read the search has no gateway, though the
first of them is one. -/
theorem half_a_listing_is_none :
    Sample.strandedSearch.client? .search = some ⟨⟨none, none⟩, .search {}, none⟩ ∧
      (Sample.strandedSearch.outcome Sample.defaults .empty).result.row? = some (500, "BAP_003") ∧
      Session.callsOf (Sample.strandedSearch.outcome Sample.defaults .empty).effects = [] := by
  have hclient : Sample.strandedSearch.client? .search = some ⟨⟨none, none⟩, .search {}, none⟩ := by
    decide +kernel
  have hs : Seeks (Sample.strandedSearch.context Sample.defaults .search
      ⟨⟨none, none⟩, .search {}, none⟩) none (.search {}) (.gateways "d" "c" "y") .noGatewayFound :=
    .anyone nofun
  obtain ⟨hfinds, -, -, hreported⟩ :=
    registry_replies_are_classified Sample.halfListing "https://r/"
  have hnull : Remote.lookup Sample.halfListing "https://r/" (.gateways "d" "c" "y") =
      .error .nullResponse := by
    obtain ⟨-, -, hnull, -⟩ := hfinds (.gateways "d" "c" "y")
    exact hnull.2 ⟨200, _, rfl, by decide,
      Remote.ofBytes?_listing_eq_none_iff.1 (by decide +kernel)⟩
  have h := hreported Sample.defaults .empty Sample.strandedSearch .search _ _ _ rfl
    (by decide +kernel) hclient hs
  obtain ⟨heffects, -⟩ := h.nobody (by rw [hnull]; exact nofun)
  exact ⟨hclient, h.null.2 hnull, by rw [heffects]; rfl⟩

end Gateway

end BuyerGateway
