import BuyerGateway.Proofs.BlankIds
/-!
Whom a request for support is for. A client may name the counterparty in its message and in its
context, and the message comes first. A blank in the message counts as a name until it comes to the
lookup: it hides the id in the context, and the request is refused for want of a counterparty.
-/
namespace BuyerGateway

namespace Gateway

namespace SupportQuestion

/-- The counterparty that a client names: the first of its two ids that is not
blank, as it stands. -/
def named? (q : SupportQuestion) (c : ClientContext) : Option String :=
  [q.bppId, c.bppId].findSome? (·.bind Text.nonBlank?)

/-- The id in the message is a blank. -/
def NamesBlank (q : SupportQuestion) : Prop := ∃ id, q.bppId = some id ∧ Text.isBlank id = true

/-- A blank in the message stands before a usable id in the context. -/
def Masks (q : SupportQuestion) (c : ClientContext) : Prop :=
  q.NamesBlank ∧ ∃ id, c.bppId = some id ∧ Text.isBlank id = false

/-- The submission that a question makes. -/
def client (q : SupportQuestion) (c : ClientContext) : ClientRequest :=
  ⟨c, .support q.refId, q.bppId.or c.bppId⟩

/-- The question without the id in its message. -/
def unaddressed (q : SupportQuestion) : SupportQuestion := { q with bppId := none }

variable {q : SupportQuestion} {c : ClientContext}

theorem named?_eq_none_iff :
    q.named? c = none ↔ ∀ id, q.bppId = some id ∨ c.bppId = some id → Text.isBlank id = true := by
  simp only [named?, List.findSome?_eq_none_iff, List.forall_mem_cons, List.not_mem_nil,
    false_imp_iff, implies_true, and_true, Text.bind_nonBlank?_eq_none_iff, or_imp, forall_and]

theorem not_masks_unaddressed : ¬ q.unaddressed.Masks c := by
  rintro ⟨⟨id, hid, -⟩, -⟩
  cases hid

theorem NamesBlank.bind_nonBlank? (h : q.NamesBlank) : q.bppId.bind Text.nonBlank? = none := by
  obtain ⟨id, hid, hblank⟩ := h
  rw [Text.bind_nonBlank?_eq_none_iff]
  intro other hother
  cases hid.symm.trans hother
  exact hblank

/-- A blank in the message changes nothing about who is named. -/
theorem named?_unaddressed (h : q.NamesBlank) : q.unaddressed.named? c = q.named? c := by
  rw [named?, named?, List.findSome?_cons, List.findSome?_cons (a := q.bppId), h.bind_nonBlank?]
  rfl

/-- The blank is taken for the id of whom to ask, even so. -/
theorem helper_of_blank (h : q.NamesBlank) : (q.client c).helper.bind Text.nonBlank? = none := by
  have hhelper : (q.client c).helper = q.bppId := by
    obtain ⟨id, hid, -⟩ := h
    rw [client, hid, Option.some_or]
  rw [hhelper, h.bind_nonBlank?]

/-- A blank that hides nothing counts as absent. -/
theorem helper_of_not_masks (h : ¬ q.Masks c) :
    (q.client c).helper.bind Text.nonBlank? = q.named? c := by
  have hsecond : [c.bppId].findSome? (·.bind Text.nonBlank?) = c.bppId.bind Text.nonBlank? :=
    List.findSome?_singleton ..
  rw [named?, List.findSome?_cons, hsecond, client]
  cases hq : q.bppId with
  | none => rfl
  | some id =>
    rw [Option.some_or]
    cases hfirst : (some id).bind Text.nonBlank? with
    | some named => rfl
    | none =>
      -- The id in the message is a blank, so that the context has no name to hide.
      have hblank := Text.bind_nonBlank?_eq_none_iff.1 hfirst id rfl
      refine (Text.bind_nonBlank?_eq_none_iff.2 fun other hother => ?_).symm
      by_contra hb
      exact h ⟨⟨id, hq, hblank⟩, other, hother, by simpa using hb⟩

theorem exists_named_of_masks (h : q.Masks c) : ∃ id, q.named? c = some id := by
  obtain ⟨-, id, hid, hb⟩ := h
  rw [← Option.ne_none_iff_exists']
  intro hnone
  have hblank := named?_eq_none_iff.1 hnone id (.inr hid)
  rw [hb] at hblank
  cases hblank

end SupportQuestion

namespace Visit

/-- The question in a body and its context, as the route for support reads them. -/
def question? (v : Visit) : Option (ClientContext × SupportQuestion) :=
  let shape : Shape (ClientContext × SupportQuestion) :=
    .plain
      (.filled "context" ClientContext.shape {} <| .required "message" SupportQuestion.shape .done)
      (fun r => (r.1, r.2, ()))
      (fun (context, message, _) => (context, message))
  (Setting.jsonBody? v.request).bind shape.ofBytes?

theorem client?_support (v : Visit) :
    v.client? .support = v.question?.map fun r => r.2.client r.1 := by
  rw [client?, question?, Option.map_bind]
  rfl

structure Asks (v : Visit) (c : ClientContext) (q : SupportQuestion) : Prop where
  route : v.route? = some (.submit .support)
  read : v.question? = some (c, q)

variable {defaults : ContextDefaults} {s : Stores} {v : Visit} {c : ClientContext}
  {q : SupportQuestion}

theorem Asks.client (h : v.Asks c q) : v.client? .support = some (q.client c) := by
  rw [client?_support, h.read]
  rfl

theorem unnamed_of_support (h : v.Asks c q)
    (hnone : (q.client c).helper.bind Text.nonBlank? = none) :
    Unnamed defaults s v .support (q.client c) := by
  have hm : Misaddressed (v.context defaults .support (q.client c)) (q.client c).helper
      (q.client c).payload .bppIdNotPresent :=
    .support (Text.bind_nonBlank?_eq_none_iff.1 hnone)
  exact outcome_of_misaddressed h.route h.client hm

theorem Unnamed.lookups {e : Exchange} {client : ClientRequest}
    (h : Unnamed defaults s v e client) :
    Session.lookupsOf (v.outcome defaults s).effects = [] := by
  rw [Unnamed] at h
  rw [h]
  rfl

/-- The lookup of a request for support is of the id that is taken for it, unless this is blank. -/
theorem Asks.lookups (h : v.Asks c q) :
    Session.lookupsOf (v.outcome defaults s).effects =
      ((q.client c).helper.bind Text.nonBlank?).toList.map Lookup.bpp := by
  cases hid : (q.client c).helper.bind Text.nonBlank? with
  | none => exact (unnamed_of_support h hid).lookups
  | some id =>
    obtain ⟨hhelper, hb⟩ := Text.bind_nonBlank?_eq_some_iff.1 hid
    exact lookupsOf_of_seeks h.route h.client (.support hhelper hb)

theorem Asks.unnamed_iff (h : v.Asks c q) :
    Unnamed defaults s v .support (q.client c) ↔
      (q.client c).helper.bind Text.nonBlank? = none := by
  refine ⟨fun hunnamed => ?_, unnamed_of_support h⟩
  have hlookups := hunnamed.lookups
  rwa [h.lookups, List.map_eq_nil_iff, Option.toList_eq_nil_iff] at hlookups

/-- The row of a refusal for want of a counterparty tells all that happened. -/
theorem Asks.row?_iff (h : v.Asks c q) :
    (v.outcome defaults s).result.row? = some (400, "BAP_015") ↔
      Unnamed defaults s v .support (q.client c) := by
  constructor
  · intro hrow
    obtain ⟨effects, result, ledger, course, hout⟩ := exists_course defaults s h.route h.client
    rw [hout] at hrow
    have hresult : result = .error (.validation .bppIdNotPresent) :=
      (row?_submitAnswer_iff (.validation .bppIdNotPresent)).1 hrow
    subst hresult
    exact outcome_of_misaddressed h.route h.client course.misaddressed_of_validation
  · intro hunnamed
    rw [Unnamed] at hunnamed
    rw [hunnamed]
    exact row?_refusal _ ValidationFailure.bppIdNotPresent.refusal

/-- Where a call goes and what it asks, apart from the context that it is made in. -/
def sent (call : String × Request) : String × Σ e : Exchange, e.Question :=
  (call.1, ⟨call.2.exchange, call.2.envelope.message⟩)

/-- Two outcomes that are the same from outside, whatever was minted for them. -/
structure Agree (o o' : Outcome Web.Response) : Prop where
  status : o.result.status = o'.result.status
  error : o.result.row? = o'.result.row?
  lookups : Session.lookupsOf o.effects = Session.lookupsOf o'.effects
  calls : (Session.callsOf o.effects).map sent = (Session.callsOf o'.effects).map sent
  ledger : o.stores.ledger.size = o'.stores.ledger.size

theorem Asks.agree {w : Visit} {c' : ClientContext} {q' : SupportQuestion} (hv : v.Asks c q)
    (hw : w.Asks c' q') (hv' : Unnamed defaults s v .support (q.client c))
    (hw' : Unnamed defaults s w .support (q'.client c')) :
    Agree (v.outcome defaults s) (w.outcome defaults s) := by
  have herror := (hv.row?_iff.2 hv').trans (hw.row?_iff.2 hw').symm
  rw [Unnamed] at hv' hw'
  rw [hv', hw'] at herror ⊢
  exact ⟨rfl, herror, rfl, rfl, rfl⟩

/-- A request for support goes to whom the client names, and is refused where it names nobody; a
blank in its message is as good as nothing. -/
structure FallsBack (defaults : ContextDefaults) (s : Stores) (v : Visit) (c : ClientContext)
    (q : SupportQuestion) : Prop where
  lookups : Session.lookupsOf (v.outcome defaults s).effects =
    (q.named? c).toList.map Lookup.bpp
  unnamed : Unnamed defaults s v .support (q.client c) ↔
    ∀ id, q.bppId = some id ∨ c.bppId = some id → Text.isBlank id = true
  absent : q.NamesBlank → ∀ w : Visit, w.Asks c q.unaddressed →
    Agree (v.outcome defaults s) (w.outcome defaults s)

theorem Asks.fallsBack (h : v.Asks c q) (hmasks : ¬ q.Masks c) : FallsBack defaults s v c q where
  lookups := by rw [h.lookups, SupportQuestion.helper_of_not_masks hmasks]
  unnamed := by
    rw [h.unnamed_iff, SupportQuestion.helper_of_not_masks hmasks,
      SupportQuestion.named?_eq_none_iff]
  absent hblank w hw := by
    have hnone : (q.client c).helper.bind Text.nonBlank? = none :=
      SupportQuestion.helper_of_blank hblank
    have hunaddressed : (q.unaddressed.client c).helper.bind Text.nonBlank? = none := by
      rw [SupportQuestion.helper_of_not_masks SupportQuestion.not_masks_unaddressed,
        SupportQuestion.named?_unaddressed hblank,
        ← SupportQuestion.helper_of_not_masks hmasks, hnone]
    exact h.agree hw (h.unnamed_iff.2 hnone) (hw.unnamed_iff.2 hunaddressed)

/-- A blank in the message turns away a request that is looked up without it. -/
theorem Asks.unnamed_of_masks (h : v.Asks c q) (hmasks : q.Masks c) :
    Unnamed defaults s v .support (q.client c) ∧
      ∀ w : Visit, w.Asks c q.unaddressed → ∃ id, q.named? c = some id ∧
        Session.lookupsOf (w.outcome defaults s).effects = [.bpp id] := by
  refine ⟨h.unnamed_iff.2 (SupportQuestion.helper_of_blank hmasks.1), fun w hw => ?_⟩
  obtain ⟨id, hid⟩ := SupportQuestion.exists_named_of_masks hmasks
  refine ⟨id, hid, ?_⟩
  rw [hw.lookups, SupportQuestion.helper_of_not_masks SupportQuestion.not_masks_unaddressed,
    SupportQuestion.named?_unaddressed hmasks.1, hid]
  rfl

end Visit

/-- Whom a request for support is for is settled by the first of its two ids that is not blank,
unless a blank in the message stands before a usable id in the context. Such a request is refused,
although without the blank it would be looked up. -/
theorem support_falls_back_unless_masked (defaults : ContextDefaults) (s : Stores) {v : Visit}
    {c : ClientContext} {q : SupportQuestion} (h : v.Asks c q) :
    (v.FallsBack defaults s c q ↔ ¬ q.Masks c) ∧
    ((v.outcome defaults s).result.row? = some (400, "BAP_015") ↔
      v.Unnamed defaults s .support (q.client c)) ∧
    (q.Masks c → v.Unnamed defaults s .support (q.client c) ∧
      ∀ w : Visit, w.Asks c q.unaddressed → ∃ id, q.named? c = some id ∧
        Session.lookupsOf (w.outcome defaults s).effects = [.bpp id]) := by
  refine ⟨⟨?_, h.fallsBack⟩, h.row?_iff, h.unnamed_of_masks⟩
  intro hfalls hmasks
  obtain ⟨id, hid⟩ := SupportQuestion.exists_named_of_masks hmasks
  have hrefused : v.Unnamed defaults s .support (q.client c) := (h.unnamed_of_masks hmasks).1
  have hlookups := hrefused.lookups
  rw [hfalls.lookups, hid] at hlookups
  cases hlookups

namespace Sample

/-- A request for support that names one counterparty in its message and another in its context. -/
def support (message context : String) : Visit where
  request := ⟨"POST", "/client/v1/get_support", some "application/json",
    ("\x7b\"context\":\x7b\"bpp_id\":\"" ++ context ++
      "\"\x7d,\"message\":\x7b\"ref_id\":\"r\",\"bpp_id\":\"" ++ message ++
      "\"\x7d\x7d").toUTF8.toList⟩
  minted := ⟨"t", "m", noon⟩
  world := world

end Sample

/-- The id in the message is looked up with its spaces, and two blanks are none. -/
theorem padded_support_is_looked_up :
    Session.lookupsOf ((Sample.support " a " "b").outcome Sample.defaults .empty).effects =
        [.bpp " a "] ∧
      ((Sample.support " " "").outcome Sample.defaults .empty).result.row? =
        some (400, "BAP_015") := by
  have padded : (Sample.support " a " "b").Asks ⟨none, some "b"⟩ ⟨"r", some " a "⟩ :=
    ⟨by decide +kernel, by decide +kernel⟩
  have blank : (Sample.support " " "").Asks ⟨none, some ""⟩ ⟨"r", some " "⟩ :=
    ⟨by decide +kernel, by decide +kernel⟩
  obtain ⟨hpadded, -⟩ := support_falls_back_unless_masked Sample.defaults .empty padded
  obtain ⟨hblank, hrow, -⟩ := support_falls_back_unless_masked Sample.defaults .empty blank
  refine ⟨(hpadded.2 ?_).lookups, hrow.2 ((hblank.2 ?_).unnamed.2 ?_)⟩
  · rintro ⟨⟨id, hid, hb⟩, -⟩
    cases hid
    cases hb
  · rintro ⟨-, id, hid, hb⟩
    cases hid
    cases hb
  · rintro id (hid | hid)
    · cases hid
      rfl
    · cases hid
      rfl

/-- A blank in the message keeps the id in the context from being looked up. -/
theorem masked_support_is_refused :
    Session.lookupsOf ((Sample.support " " "b").outcome Sample.defaults .empty).effects = [] ∧
      ((Sample.support " " "b").outcome Sample.defaults .empty).result.row? =
        some (400, "BAP_015") ∧
      ¬ ∀ (defaults : ContextDefaults) (s : Stores) (v : Visit) (c : ClientContext)
        (q : SupportQuestion), v.Asks c q → v.FallsBack defaults s c q := by
  have hlookups : Session.lookupsOf
      ((Sample.support " " "b").outcome Sample.defaults .empty).effects = [] := by decide +kernel
  refine ⟨hlookups, by decide +kernel, ?_⟩
  intro h
  have masked : (Sample.support " " "b").Asks ⟨none, some "b"⟩ ⟨"r", some " "⟩ :=
    ⟨by decide +kernel, by decide +kernel⟩
  have hfalls := (h Sample.defaults .empty _ _ _ masked).lookups
  rw [hlookups] at hfalls
  cases hfalls

end Gateway

end BuyerGateway
