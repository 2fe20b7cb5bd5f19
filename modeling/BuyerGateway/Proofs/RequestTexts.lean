import BuyerGateway.Proofs.Destinations
import BuyerGateway.Proofs.OutgoingBodies
import BuyerGateway.Proofs.WireFormats
/-!
Requests as their counterparties read them. The text of a request does not say which exchange it
belongs to except by the action in its context; that is enough to read the whole request back, and
the same action stands at the end of the address that it is posted to.
-/
namespace BuyerGateway

/-! ### What depends on the text of a number or of a time -/

/-- The text of the amount is read back as the amount. -/
def Double.Readable (x : Double) : Prop := Json.parse? (Json.render (.real x)) = some (.real x)

instance (x : Double) : Decidable x.Readable :=
  inferInstanceAs (Decidable (Json.parse? (Json.render (.real x)) = some (.real x)))

/-- The measured amounts in the cart of a payload. -/
def Payload.amounts (p : Payload) : List Double :=
  (p.cart?.getD []).filterMap fun i => i.quantity.measure.map (·.value)

theorem Quantity.legible_of_measure {q : Quantity}
    (h : ∀ m, q.measure = some m → m.value.Readable) : shape.Legible q := by
  refine ⟨trivial, ?_, trivial⟩
  intro m hm
  exact ⟨trivial, h m hm, trivial⟩

theorem SelectedItem.legible_ofCart {i : CartItem}
    (h : ∀ m, i.quantity.measure = some m → m.value.Readable) : shape.Legible (.ofCart i) := by
  refine ⟨fun _ _ => trivial, ?_, trivial⟩
  intro q hq
  cases hq
  exact Quantity.legible_of_measure h

/-- All numbers of an order are in its items. -/
theorem Order.legible_of_items {o : Order} (h : ∀ i ∈ o.items, SelectedItem.shape.Legible i) :
    shape.Legible o := by
  refine ⟨?_, ?_, ?_, h, ?_, ?_, ?_, ?_, ?_, ?_, trivial⟩
  -- An amount that is paid travels as a text among the parameters of the payment.
  all_goals exact Shape.legible_of_verbatim _ (by decide +kernel) _

namespace Request

/-- Reads the action in the context of a text, and passes over everything else. -/
def actionOf? (text : String) : Option Action :=
  (Shape.wrapped "context" (.wrapped "action" Action.shape)).ofText? text

/-- Reads a request as a counterparty does, by the action in its context. -/
def ofText? (text : String) : Option Request :=
  match actionOf? text with
  | some (.request e) =>
    ((Envelope.shape e.questionShape).ofText? text).map fun envelope => ⟨e, envelope⟩
  | _ => none

theorem legible_of_items {r : Request} (hc : Context.shape.Legible r.context)
    (hi : ∀ ordered, r.ordered? = some ordered →
      ∀ i ∈ ordered.2, SelectedItem.shape.Legible i) :
    (Envelope.shape r.exchange.questionShape).Legible r.envelope := by
  refine ⟨hc, ?_, trivial⟩
  obtain ⟨e, envelope⟩ := r
  cases e with
  | search => exact SearchMessage.shape.legible_of_verbatim (by decide +kernel) _
  | select =>
    have hprovider : SelectedProvider.shape.Legible envelope.message.selected.provider :=
      Shape.legible_of_verbatim _ (by decide +kernel) _
    exact ⟨⟨hprovider, hi _ rfl, trivial⟩, trivial⟩
  | init => exact ⟨Order.legible_of_items (hi _ rfl), trivial⟩
  | confirm => exact ⟨Order.legible_of_items (hi _ rfl), trivial⟩
  | track => exact TrackMessage.shape.legible_of_verbatim (by decide +kernel) _
  | support => exact SupportMessage.shape.legible_of_verbatim (by decide +kernel) _

end Request

/-- A request has no amounts but those of its payload's cart, and no time but
that of its context. -/
theorem Payload.legible_of_request {p : Payload} {context : Context} {r : Request}
    (h : p.request context = .ok r) (hamounts : ∀ x ∈ p.amounts, x.Readable)
    (htime : Timestamp.ofText? context.timestamp.toText = some context.timestamp) :
    (Envelope.shape r.exchange.questionShape).Legible r.envelope := by
  apply Request.legible_of_items
  · rw [(Payload.request_eq_ok h).1]
    exact Context.legible_iff.2 htime
  · intro ordered ho i hi
    -- What is ordered are the items of the cart, each with its own quantity.
    rw [Payload.ordered?_of_request h] at ho
    obtain ⟨items, hitems, rfl⟩ := Option.map_eq_some_iff.1 ho
    obtain ⟨item, hitem, rfl⟩ := List.mem_map.1 hi
    apply SelectedItem.legible_ofCart
    intro m hm
    apply hamounts
    rw [amounts, hitems, Option.getD_some]
    exact List.mem_filterMap.2 ⟨item, hitem, by rw [hm]; rfl⟩

/-- A request is built under the action that its payload asks for. -/
theorem Payload.action_of_request {p : Payload} {context : Context} {r : Request}
    (h : p.request context = .ok r) : r.context.action = r.action ∧ r.action = p.action := by
  obtain ⟨hcontext, hexchange⟩ := Payload.request_eq_ok h
  have haction : r.action = p.action := by
    rw [Request.action, hexchange]
    rfl
  refine ⟨?_, haction⟩
  rw [hcontext, Payload.action_eq_of_request h, haction]

/-! ### Reading by the action -/

/-- The action of a context is written under its own key, by its name. -/
theorem Context.exists_header (c : Context) :
    ∃ header, shape.encode c = .object header ∧
      Json.valuesAt "action" header = [.text c.action.name] := by
  refine ⟨_, rfl, ?_⟩
  -- The domain, the country and the city stand in front of it, and nothing behind it has its key.
  exact Fields.Slot.valuesAt_encode_of_required (t := Action.shape)
    (.behindRequired (.behindRequired (.behindRequired .required))) (by decide +kernel) rfl _

namespace Request

/-- The text of a request is an object of two fields, the context and the message. -/
theorem exists_header {r : Request}
    (h : (Envelope.shape r.exchange.questionShape).Legible r.envelope) :
    ∃ header message, Json.parse? r.toJson.render =
        some (.object [("context", .object header), ("message", message)]) ∧
      Json.valuesAt "action" header = [.text r.context.action.name] := by
  obtain ⟨header, hheader, haction⟩ := r.context.exists_header
  have htree : r.toJson = .object [("context", Context.shape.encode r.context),
      ("message", r.exchange.questionShape.encode r.envelope.message)] := rfl
  have hlegible : Json.Legible r.toJson := Shape.legible_encode _ _ h
  refine ⟨header, r.exchange.questionShape.encode r.envelope.message, ?_, haction⟩
  rw [Json.parse?_render hlegible, htree, hheader]

theorem ofText?_envelope {r : Request}
    (h : (Envelope.shape r.exchange.questionShape).Legible r.envelope) :
    (Envelope.shape r.exchange.questionShape).ofText? r.toJson.render = some r.envelope :=
  Shape.ofText?_toText (Gateway.SentFormat.request r.exchange).sound
    (Gateway.SentFormat.request r.exchange).height_le h

theorem actionOf?_of_header {text : String} {header : List (String × Json)} {message : Json}
    {a : Action} (htext : Json.parse? text =
      some (.object [("context", .object header), ("message", message)]))
    (haction : Json.valuesAt "action" header = [.text a.name]) : actionOf? text = some a := by
  have hcontext : Json.valuesAt "context" [("context", .object header), ("message", message)] =
      [.object header] := by
    rw [Json.valuesAt_cons_self, Json.valuesAt_cons_ne (by decide)]
    rfl
  calc
    actionOf? text = (Shape.wrapped "context" (.wrapped "action" Action.shape)).decode
        Shape.roomOfText (.object [("context", .object header), ("message", message)]) := by
      rw [actionOf?, Shape.ofText?, htext, Option.bind_some]
    _ = (Shape.wrapped "action" Action.shape).decode (Shape.roomOfText - 1) (.object header) :=
      Shape.decode_wrapped hcontext
    _ = Action.shape.decode (Shape.roomOfText - 1 - 1) (.text a.name) :=
      Shape.decode_wrapped haction
    _ = some a := Action.shape.decode_encode rfl a (Nat.zero_le _) trivial

/-- The action in the context of a text is all it takes to read the text as the
request that it is. -/
theorem ofText?_of_envelope {r : Request} {text : String}
    (haction : actionOf? text = some r.action)
    (h : (Envelope.shape r.exchange.questionShape).ofText? text = some r.envelope) :
    ofText? text = some r := by
  have ha : actionOf? text = some (.request r.exchange) := haction
  rw [ofText?, ha]
  simp only [h]
  rfl

end Request

/-! ### Posting -/

namespace Counterparty

/-- The base, with a slash behind it if it ends in none. -/
def slashed (base : String) : String :=
  if base.toList.getLast? = some '/' then base else base ++ "/"

theorem getLast?_slashed (base : String) : (slashed base).toList.getLast? = some '/' := by
  rw [slashed]
  split
  · assumption
  · rw [String.toList_append]
    exact List.getLast?_append_of_ne_nil _ (List.cons_ne_nil _ _)

end Counterparty

/-- What is sent is what the counterparty reads: whoever knows the text alone, and goes by the
action in its context, reads the very request that was built. All this for amounts and a time whose
texts are read back. -/
theorem request_text_reads_back {p : Payload} {context : Context} {r : Request}
    (h : p.request context = .ok r) (hamounts : ∀ x ∈ p.amounts, x.Readable)
    (htime : Timestamp.ofText? context.timestamp.toText = some context.timestamp) :
    let text := r.toJson.render
    (∃ header message, Json.parse? text =
        some (.object [("context", .object header), ("message", message)]) ∧
      Json.valuesAt "action" header = [.text r.action.name]) ∧
    r.action = p.action ∧
    (∀ server base, (Counterparty.slashed base).toList.getLast? = some '/' ∧
      Counterparty.post server base r =
        server (Counterparty.slashed base ++ r.action.name) text.toUTF8.toList) ∧
    (Envelope.shape r.exchange.questionShape).ofText? text = some r.envelope ∧
    Request.ofText? text = some r := by
  intro text
  have hlegible := Payload.legible_of_request h hamounts htime
  have henvelope : (Envelope.shape r.exchange.questionShape).ofText? text = some r.envelope :=
    Request.ofText?_envelope hlegible
  obtain ⟨hcontext, hpayload⟩ := Payload.action_of_request h
  obtain ⟨header, message, htext, haction⟩ := Request.exists_header hlegible
  rw [hcontext] at haction
  refine ⟨⟨header, message, htext, haction⟩, hpayload, ?_, henvelope, ?_⟩
  · intro server base
    exact ⟨Counterparty.getLast?_slashed base, rfl⟩
  · exact Request.ofText?_of_envelope (Request.actionOf?_of_header htext haction) henvelope

namespace Gateway.Sample

theorem canonical_half : Nat.pow 2 52 < Nat.pow 2 53 ∧ 1021 ≤ 2045 ∧
    (1021 = 0 ∨ Nat.pow 2 52 ≤ Nat.pow 2 52) := by decide

/-- A paid order of two measures of half a kilogram, from a provider with one location. -/
def paidOrder : Payload :=
  let half : Double := ⟨false, Nat.pow 2 52, 1021, canonical_half⟩
  .confirm {
    items := [⟨"i", "b", ⟨"p", ["l"]⟩, ⟨2, some ⟨"kg", half⟩⟩⟩]
    payment := some ⟨half⟩ }

def confirmContext : Context := defaults.context (.request .confirm) "t" "m" noon

end Gateway.Sample

/-- The order is sent as a confirmation, and its text is read as the request that it was. -/
theorem paid_order_reads_back :
    ∃ r, Gateway.Sample.paidOrder.request Gateway.Sample.confirmContext = .ok r ∧
      Gateway.Sample.paidOrder.amounts.length = 1 ∧ r.action.name = "confirm" ∧
      Request.ofText? r.toJson.render = some r := by
  obtain ⟨r, hr⟩ : ∃ r, Gateway.Sample.paidOrder.request Gateway.Sample.confirmContext = .ok r :=
    ⟨_, rfl⟩
  obtain ⟨-, haction, -, -, hread⟩ :=
    request_text_reads_back hr (by decide +kernel) (by decide +kernel)
  refine ⟨r, hr, rfl, ?_, hread⟩
  rw [haction]
  rfl

end BuyerGateway
