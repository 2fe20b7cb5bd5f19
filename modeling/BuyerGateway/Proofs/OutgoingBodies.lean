import BuyerGateway.Gateway.Session
import BuyerGateway.Proofs.Pool
import BuyerGateway.Proofs.Shape.Presence
import BuyerGateway.Proofs.Transcript
/-!
The bodies that leave the gateway: answers to its clients and counterparties, requests to
counterparties and lookups. Each of them is a value in one of four formats, none of which can write
a `null`, so it does not matter what was absent in anything that the gateway has read.
-/
namespace BuyerGateway.Gateway

/-- A type of record that the gateway writes, with its format. -/
inductive SentFormat : {α : Type} → Shape α → Prop
  | acknowledgement : SentFormat Acknowledgement.shape
  | pollAnswer (e : Exchange) : SentFormat (PollAnswer.shape e)
  | request (e : Exchange) : SentFormat (Envelope.shape e.questionShape)
  | lookup : SentFormat Lookup.shape

namespace SentFormat

variable {α : Type} {s : Shape α}

/-- What all formats have in common: their values are told apart from their absence, absent values
are left out, and the texts are not too deep to be read. -/
theorem checked (h : SentFormat s) :
    s.sound = true ∧ s.solid = true ∧ s.isNullable = false ∧ s.height ≤ Shape.roomOfText := by
  cases h with
  | acknowledgement => decide +kernel
  | pollAnswer e => cases e <;> decide +kernel
  | request e => cases e <;> decide +kernel
  | lookup => decide +kernel

theorem sound (h : SentFormat s) : s.sound = true := h.checked.1

theorem solid (h : SentFormat s) : s.solid = true := h.checked.2.1

theorem isNullable_eq_false (h : SentFormat s) : s.isNullable = false := h.checked.2.2.1

theorem height_le (h : SentFormat s) : s.height ≤ Shape.roomOfText := h.checked.2.2.2

theorem nullFree (h : SentFormat s) (a : α) : (s.encode a).NullFree :=
  s.nullFree_encode h.solid a (s.encode_ne_null h.isNullable_eq_false a)

end SentFormat

/-- The tree of a value in one of the formats that the gateway writes. -/
inductive Sent : Json → Prop
  | of {α : Type} {s : Shape α} (h : SentFormat s) (a : α) : Sent (s.encode a)

theorem Sent.nullFree {v : Json} (h : Sent v) : v.NullFree := by
  cases h with
  | of h a => exact h.nullFree a

/-! ### Effects -/

/-- The body that is posted for an effect. -/
def Effect.posted? : Effect → Option Json
  | .lookup l => some (Lookup.shape.encode l)
  | .call _ request => some request.toJson
  | _ => none

theorem Effect.sent_of_posted {effect : Effect} {v : Json} (h : effect.posted? = some v) :
    Sent v := by
  cases effect with
  | lookup l =>
    cases h
    exact .of .lookup l
  | call base request =>
    cases h
    exact .of (.request request.exchange) request.envelope
  | _ => cases h

/-! ### Answers -/

namespace Plan

variable {α β : Type} {p : α → Prop}

/-- Whatever its effects are answered, the plan comes to a result of this kind. -/
inductive Ends (p : α → Prop) : Plan α → Prop
  | done {a : α} (h : p a) : Ends p (.done a)
  | use {effect : Effect} {resume : effect.Answer → Plan α}
      (h : ∀ answer, Ends p (resume answer)) : Ends p (.use effect resume)

theorem ends_true (plan : Plan α) : plan.Ends fun _ => True := by
  induction plan with
  | done a => exact .done trivial
  | use effect resume ih => exact .use ih

theorem Ends.bind {plan : Plan α} (h : plan.Ends p) {q : β → Prop} {f : α → Plan β}
    (hf : ∀ a, p a → (f a).Ends q) : (plan >>= f).Ends q := by
  induction h with
  | done ha => exact hf _ ha
  | use _ ih => exact .use ih

theorem Ends.run {plan : Plan α} (h : Ends p plan) (world : World) (s : Stores) :
    p (plan.run world s).result := by
  induction h generalizing s with
  | done h => exact h
  | use h ih => exact ih _ _

end Plan

/-- The body of the response, if it has one, is in one of the formats. -/
def SentBody (response : Web.Response) : Prop := ∀ v, response.body = some v → Sent v

namespace SentBody

theorem of_none (status : Nat) : SentBody ⟨status, none⟩ := nofun

theorem of_format {α : Type} {s : Shape α} (h : SentFormat s) (status : Nat) (a : α) :
    SentBody ⟨status, some (s.encode a)⟩ := by
  intro v hv
  cases hv
  exact .of h a

theorem acceptance (context : Context) : SentBody (Setting.acceptance context) :=
  of_format .acknowledgement 200 _

theorem refusal (context : Context) (r : Refusal) : SentBody (Setting.refusal context r) :=
  of_format .acknowledgement r.status _

theorem pollRefusal (e : Exchange) (context : Context) (r : Refusal) :
    SentBody (Setting.pollRefusal e context r) := of_format (.pollAnswer e) r.status _

end SentBody

namespace Setting

variable (setting : Setting)

theorem ends_handleRoute (route : Route) (request : Web.Request) :
    (setting.handleRoute route request).Ends SentBody := by
  cases route with
  | submit e =>
    rw [handleRoute, handleSubmit]
    split
    · exact .done (.refusal _ _)
    · refine (Plan.ends_true _).bind fun result _ => ?_
      cases result with
      | ok entry => exact .done (.acceptance _)
      | error failure => exact .done (.refusal _ _)
  | callback e =>
    rw [handleRoute, handleCallback]
    split
    · exact .done (.refusal _ _)
    · refine (Plan.ends_true _).bind fun result _ => ?_
      cases result with
      | ok stored => exact .done (.acceptance _)
      | error failure => exact .done (.refusal _ _)
  | poll e =>
    rw [handleRoute, handlePoll]
    split
    · exact .done (.pollRefusal _ _ _)
    · refine (Plan.ends_true _).bind fun result _ => ?_
      cases result with
      | ok answer => exact .done (.of_format (.pollAnswer e) 200 answer)
      | error failure => exact .done (.pollRefusal _ _ _)

/-- Whatever the registry, the counterparties and the stores answer meanwhile, a request is answered
without a body or with one in the formats. -/
theorem ends_handle (request : Web.Request) : (setting.handle request).Ends SentBody := by
  rw [handle]
  split
  · exact .done (.of_none 404)
  · rename_i route hpath
    split
    · refine (setting.ends_handleRoute route request).bind fun response hsent => ?_
      -- The answer to `HEAD` is left without its body.
      split
      · exact .done (.of_none response.status)
      · exact .done hsent
    · exact .done (.of_none 405)

end Setting

/-! ### Runs -/

/-- The bodies that a visit caused to be written: that of its answer, and those that were posted. -/
def Visited.written (x : Visited) : List Json :=
  x.outcome.result.body.toList ++ x.outcome.effects.filterMap Effect.posted?

theorem Visited.sent_of_written {defaults : ContextDefaults} {s : Stores} {visits : List Visit}
    {x : Visited} (hx : x ∈ transcript defaults s visits) {v : Json} (hv : v ∈ x.written) :
    Sent v := by
  obtain ⟨-, early, -, -, hout⟩ := exists_of_mem_transcript defaults hx
  rcases List.mem_append.1 hv with hbody | hposted
  · -- Every end of the plan will do, so it does not matter which one the run came to.
    have hsent : SentBody x.outcome.result := by
      rw [hout]
      exact (Setting.ends_handle _ _).run _ _
    exact hsent v (Option.mem_toList.1 hbody)
  · obtain ⟨effect, -, heffect⟩ := List.mem_filterMap.1 hposted
    exact Effect.sent_of_posted heffect

namespace Pool

variable {ι : Type} [DecidableEq ι] {visits : ι → Visit} {p : Pool ι}

/-- A turn of one request leaves it with a plan that ends as it did before. -/
theorem ends_turn (h : ∀ i, (p.plans i).Ends SentBody) (j : ι) :
    ∀ i, ((p.turn visits j).plans i).Ends SentBody := by
  intro i
  cases hplan : p.plans j with
  | done a =>
    rw [turn_of_done hplan]
    exact h i
  | use effect resume =>
    have hj : (Plan.use effect resume).Ends SentBody := hplan ▸ h j
    by_cases hij : i = j
    · subst hij
      rw [turn_of_use hplan]
      simp only [Function.update_self]
      -- It goes on from the answer to its effect, whatever that was.
      cases hj with
      | use hrest => exact hrest _
    · rw [(turn_of_ne visits hij).1]
      exact h i

theorem ends_run (h : ∀ i, (p.plans i).Ends SentBody) (schedule : List ι) :
    ∀ i, ((p.run visits schedule).plans i).Ends SentBody := by
  induction schedule generalizing p with
  | nil => exact h
  | cons j schedule ih => exact ih (ends_turn h j)

end Pool

/-- No body that leaves the gateway has a `null` in it, at any depth, whatever is remembered and
answered meanwhile and in any order of the effects. An optional field whose value is absent is a
missing key. -/
theorem no_null_is_written :
    (∀ (defaults : ContextDefaults) (s : Stores) (visits : List Visit),
      ∀ x ∈ transcript defaults s visits, ∀ v ∈ x.written, v.NullFree ∧ Sent v) ∧
    (∀ {ι : Type} [DecidableEq ι] (defaults : ContextDefaults) (s : Stores) (visits : ι → Visit)
      (schedule : List ι),
      let p := (Pool.start visits defaults s).run visits schedule
      (∀ i a v, p.plans i = .done a → a.body = some v → v.NullFree ∧ Sent v) ∧
      ∀ effect ∈ p.effects, ∀ v, effect.posted? = some v → v.NullFree ∧ Sent v) ∧
    ∀ {α β δ ε : Type} {s : Shape α} {form : Form} {fields : Fields β} {parts : δ → β}
      {whole : β → δ} {whole_parts : ∀ a, whole (parts a) = a} {key : String} {u : Shape ε},
      SentFormat s → Shape.Within (.record form fields parts whole whole_parts) s →
      ∀ (slot : fields.Slot key (.nullable u)) (a : δ), slot.get (parts a) = none →
        Json.valuesAt key (fields.encode (parts a)) = [] := by
  refine ⟨?_, ?_, ?_⟩
  · intro defaults s visits x hx v hv
    have hsent := Visited.sent_of_written hx hv
    exact ⟨hsent.nullFree, hsent⟩
  · intro ι _ defaults s visits schedule p
    have hstart (i : ι) : ((Pool.start visits defaults s).plans i).Ends SentBody :=
      Setting.ends_handle _ _
    refine ⟨?_, ?_⟩
    · intro i a v hdone hbody
      have hends : (p.plans i).Ends SentBody := Pool.ends_run hstart schedule i
      rw [hdone] at hends
      cases hends with
      | done hsent => exact ⟨(hsent v hbody).nullFree, hsent v hbody⟩
    · intro effect _ v hv
      have hsent := Effect.sent_of_posted hv
      exact ⟨hsent.nullFree, hsent⟩
  · intro α β δ ε s form fields parts whole whole_parts key u hs inside slot a habsent
    exact inside.valuesAt_of_absent hs.sound hs.solid slot habsent

/-- A search makes a lookup, a request and an answer, none of which has a `null`; and a message that
asks where an order is has no key for the address that is not given. -/
theorem search_writes_no_null :
    (∃ x ∈ transcript Sample.defaults .empty [Sample.search], x.written.length = 3 ∧
      ∀ v ∈ x.written, v.NullFree) ∧
    TrackMessage.shape.encode ⟨"o", none⟩ = .object [("order_id", .text "o")] ∧
    Json.valuesAt "callback_url" [("order_id", .text "o")] = [] := by
  obtain ⟨hwritten, -, habsent⟩ := no_null_is_written
  refine ⟨⟨_, List.mem_cons_self, by decide +kernel, ?_⟩, rfl, ?_⟩
  · intro v hv
    exact (hwritten Sample.defaults .empty [Sample.search] _ List.mem_cons_self v hv).1
  · have hinside : Shape.Within TrackMessage.shape (Envelope.shape TrackMessage.shape) :=
      .field (.behindRequired .required) .here
    exact habsent (.request .track) hinside (.behindRequired .defaulted) ⟨"o", none⟩ rfl

end BuyerGateway.Gateway
