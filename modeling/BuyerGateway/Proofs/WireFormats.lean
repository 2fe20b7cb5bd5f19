import BuyerGateway.Proofs.Correlation
import BuyerGateway.Proofs.Shape.RoundTrip
/-!
The formats in which callbacks, polls and what goes with them travel. Nothing is lost between two
ends of the wire: each end reads from the text of a value the value itself, and a client reads from
a poll what the bodies of the counterparties were read as.
-/
namespace BuyerGateway

/-- A type of record that travels, with its format. -/
inductive WireFormat : {α : Type} → Shape α → Prop
  | callback (e : Exchange) : WireFormat (Callback.shape e)
  | pollAnswer (e : Exchange) : WireFormat (PollAnswer.shape e)
  | clientCatalog : WireFormat ClientCatalog.shape
  | acknowledgement : WireFormat Acknowledgement.shape
  | ledgerEntry : WireFormat LedgerEntry.shape
  | subscriber : WireFormat Subscriber.shape
  | lookup : WireFormat Lookup.shape

namespace WireFormat

variable {α : Type} {s : Shape α}

theorem sound (h : WireFormat s) : s.sound = true := by
  cases h with
  | callback e => cases e <;> decide +kernel
  | pollAnswer e => cases e <;> decide +kernel
  | _ => decide +kernel

theorem height_le (h : WireFormat s) : s.height ≤ Shape.roomOfText := by
  cases h with
  | callback e => cases e <;> decide +kernel
  | pollAnswer e => cases e <;> decide +kernel
  | _ => decide +kernel

theorem ofText?_toText (h : WireFormat s) {a : α} (ha : s.Legible a) :
    s.ofText? (s.toText a) = some a := Shape.ofText?_toText h.sound h.height_le ha

end WireFormat

/-! ### Catalogs -/

namespace ClientCatalog

theorem legible_catalog {c : ClientCatalog} (h : shape.Legible c) :
    Catalog.shape.Legible c.catalog := h.2.2

/-- The keys in front of the catalog are none of the catalog's own. -/
theorem decode_encode_catalog {c : ClientCatalog} (h : shape.Legible c) :
    Catalog.shape.decode Shape.roomOfText (shape.encode c) = some c.catalog := by
  have hid : "bpp_id" ∉ Catalog.fields.keys := by decide +kernel
  have huri : "bpp_uri" ∉ Catalog.fields.keys := by decide +kernel
  have hread : Catalog.fields.decodeNamed (Shape.roomOfText - 1)
      (Catalog.fields.encode c.catalog.parts) = some c.catalog.parts :=
    Catalog.fields.decodeNamed_encode (by decide +kernel) (by decide +kernel) _ (by decide +kernel)
      (legible_catalog h)
  have hencode : shape.encode c = .object
      ((Fields.optional "bpp_id" .text <| .optional "bpp_uri" .text Catalog.fields).encode
        (c.bppId, c.bppUri, c.catalog.parts)) := rfl
  have hdecode (given : List (String × Json)) :
      Catalog.shape.decode Shape.roomOfText (.object given) =
        (Catalog.fields.decodeNamed (Shape.roomOfText - 1) given).map Catalog.ofParts := rfl
  rw [hencode, hdecode, Fields.optional, Fields.decodeNamed_encode_defaulted hid, Fields.optional,
    Fields.decodeNamed_encode_defaulted huri, hread]
  rfl

theorem ofText?_toText_catalog {c : ClientCatalog} (h : shape.Legible c) :
    Catalog.shape.ofText? (shape.toText c) = some c.catalog := by
  rw [Shape.ofText?, Shape.toText, Json.parse?_render (shape.legible_encode c h), Option.bind_some]
  exact decode_encode_catalog h

end ClientCatalog

/-! ### Polls -/

theorem Context.legible_iff {c : Context} :
    shape.Legible c ↔ Timestamp.ofText? c.timestamp.toText = some c.timestamp := by
  simp [shape, Action.shape, Shape.plain, Shape.Legible, Fields.Legible, Fields.optional]

/-- Errors are texts alone. -/
theorem ProtocolError.legible (x : ProtocolError) : shape.Legible x :=
  ⟨trivial, trivial, trivial⟩

theorem Callback.legible_iff {e : Exchange} {c : Callback e} :
    (shape e).Legible c ↔ Context.shape.Legible c.context ∧
      ∀ a, c.message = some a → e.answerShape.Legible a := by
  constructor
  · intro h
    exact ⟨h.1, h.2.1⟩
  · intro h
    exact ⟨h.1, h.2, fun x _ => ProtocolError.legible x, trivial⟩

namespace PollAnswer

theorem legible_of {e : Exchange} {answer : PollAnswer e}
    (hc : Context.shape.Legible answer.context)
    (hm : ∀ a, answer.message = some a → e.aggregateShape.Legible a) :
    (shape e).Legible answer :=
  ⟨hc, hm, fun x _ => ProtocolError.legible x, trivial⟩

theorem legible_contextOf {e : Exchange} {c : Callback e} (h : Context.shape.Legible c.context) :
    Context.shape.Legible (contextOf c) := by
  rw [Context.legible_iff] at h ⊢
  rw [contextOf]
  split <;> exact h

/-- What is folded of callbacks is legible where they are. -/
theorem legible_fold {e : Exchange} {cs : List (Callback e)}
    (h : ∀ c ∈ cs, (Callback.shape e).Legible c) :
    ∀ a, Callback.fold e cs = some a → e.aggregateShape.Legible a := by
  have hfirst : ∀ a, Callback.firstMessage? cs = some a → e.answerShape.Legible a := by
    intro a ha
    obtain ⟨c, hc, hm⟩ := Option.bind_eq_some_iff.1 ha
    exact (Callback.legible_iff.1 (h c (List.mem_of_head? hc))).2 a hm
  cases e with
  | search =>
    intro a ha
    cases ha
    refine ⟨?_, trivial⟩
    intro x hx
    obtain ⟨c, hc, hx⟩ := List.mem_filterMap.1 hx
    obtain ⟨answer, hm, rfl⟩ := Option.map_eq_some_iff.1 hx
    have hanswer := (Callback.legible_iff.1 (h c hc)).2 answer hm
    exact ⟨fun _ _ => trivial, fun _ _ => trivial, hanswer.1⟩
  | select => exact hfirst
  | init => exact hfirst
  | confirm => exact hfirst
  | track => exact hfirst
  | support => exact hfirst

theorem legible_ofCallbacks (defaults : ContextDefaults) (minted : Minted) {e : Exchange}
    (m : String) {cs : List (Callback e)} (hne : cs ≠ [])
    (h : ∀ c ∈ cs, (Callback.shape e).Legible c) :
    (shape e).Legible (ofCallbacks defaults minted e m cs) := by
  apply legible_of
  · cases cs with
    | nil => exact absurd rfl hne
    | cons c cs => exact legible_contextOf (Callback.legible_iff.1 (h c List.mem_cons_self)).1
  · exact legible_fold h

end PollAnswer

namespace Gateway

/-- A callback that was accepted is what the body was read as. -/
theorem Visited.ofBytes?_of_accepted {e : Exchange} {v : Visit} {outcome : Outcome Web.Response}
    {c : Callback e} (h : accepted? e ⟨v, outcome⟩ = some c) :
    (Callback.shape e).ofBytes? v.request.body = some c := by
  rw [accepted?] at h
  split at h
  · exact (Visit.callback?_eq_some_iff.1 h).2.2
  · cases h

/-- A client that polls for an id that is held reads from the text of the answer the fold of the
callbacks that have arrived for it. -/
theorem Visit.read_poll {defaults : ContextDefaults} {visits : List Visit} {p : Visit}
    {e : Exchange} {m : String} (hroute : p.route? = some (.poll e))
    (hmethod : p.request.method ≠ "HEAD") (hpolled : p.polled? = some m)
    (hheld : ∃ entry ∈ (after defaults .empty visits).ledger.entries, entry.messageId = m)
    (hne : arrived defaults visits e m ≠ [])
    (hlegible : ∀ c ∈ arrived defaults visits e m, (Callback.shape e).Legible c) :
    ∃ body, (p.outcome defaults (after defaults .empty visits)).result = ⟨200, some body⟩ ∧
      (PollAnswer.shape e).ofText? body.render =
        some (.ofCallbacks defaults p.minted e m (arrived defaults visits e m)) := by
  have honline := online_after defaults visits Stores.online_empty
  refine ⟨_, ?_, WireFormat.ofText?_toText (.pollAnswer e)
    (PollAnswer.legible_ofCallbacks defaults p.minted m hne hlegible)⟩
  rw [Visit.outcome_of_known_poll honline hroute hpolled (Ledger.isSome_held?_iff.2 hheld),
    recordsOf_after, Visit.withoutBody, if_neg hmethod]

/-- Decoding undoes encoding over the formats of callbacks and polls, for all values whose doubles
and timestamps have texts that are read back. So a poll that shows a callback gives its client a
text which is read as the very record that the counterparty's body was read as. -/
theorem wire_formats_read_back :
    (∀ {α : Type} {s : Shape α}, WireFormat s → ∀ a, s.Legible a →
      s.ofText? (s.toText a) = some a ∧
      ∀ body, s.ofBytes? body = some a →
        s.ofText? (s.toText a) = s.ofBytes? body ∧
        ∀ b, s.ofText? (s.toText a) = some b → s.toText b = s.toText a) ∧
    (∀ c : ClientCatalog, ClientCatalog.shape.Legible c →
      Catalog.shape.ofText? (ClientCatalog.shape.toText c) = some c.catalog) ∧
    ∀ (defaults : ContextDefaults) (early later : List Visit) (w p : Visit) (e : Exchange)
      (c : Callback e),
      let visits := early ++ w :: later
      Visited.accepted? e ⟨w, w.outcome defaults (after defaults .empty early)⟩ = some c →
      p.route? = some (.poll e) → p.request.method ≠ "HEAD" → p.polled? = some c.messageId →
      (∃ entry ∈ (after defaults .empty visits).ledger.entries, entry.messageId = c.messageId) →
      (e = .search ∨ arrived defaults early e c.messageId = []) →
      (∀ c' ∈ arrived defaults visits e c.messageId, (Callback.shape e).Legible c') →
      (Callback.shape e).ofBytes? w.request.body = some c ∧
      ∃ body answer,
        (p.outcome defaults (after defaults .empty visits)).result = ⟨200, some body⟩ ∧
        (PollAnswer.shape e).ofText? body.render = some answer ∧ answer.Contains c := by
  refine ⟨?_, fun c hc => ClientCatalog.ofText?_toText_catalog hc, ?_⟩
  · intro α s hs a ha
    have hread := hs.ofText?_toText ha
    refine ⟨hread, fun body hbody => ⟨hread.trans hbody.symm, ?_⟩⟩
    intro b hb
    rw [Option.some.inj (hb.symm.trans hread)]
  · intro defaults early later w p e c visits haccepted hroute hmethod hpolled hheld hfirst hlegible
    obtain ⟨rest, harrived⟩ := arrived_of_accepted later haccepted
    have hne : arrived defaults visits e c.messageId ≠ [] := by
      intro hnil
      rw [harrived] at hnil
      exact absurd hnil (List.append_ne_nil_of_right_ne_nil _ (List.cons_ne_nil _ _))
    obtain ⟨body, hbody, hread⟩ := Visit.read_poll hroute hmethod hpolled hheld hne hlegible
    refine ⟨Visited.ofBytes?_of_accepted haccepted, body, _, hbody, hread, ?_⟩
    rw [harrived]
    apply PollAnswer.contains_ofCallbacks
    rcases hfirst with he | hnone
    · exact .inl ⟨he, List.mem_append_right _ List.mem_cons_self⟩
    · rw [hnone]
      exact .inr rfl

namespace Sample

/-- A quote with amounts, and with objects that are present but empty. -/
def onSelect : Callback .select where
  context := ⟨"d", "c", "y", .callback .select, "v", "i", "u", some "b", none, "t", "m", noon⟩
  message := some ⟨{
    provider := some {}
    items := [{ quantity := some ⟨2, some ⟨"kg", ⟨false, Nat.pow 2 52, 1021, by decide⟩⟩⟩ }, {}]
    fulfillment := some { customer := some {} }
    quote := some { breakup := [{ price := some {} }] }
    payment := some { params := .singleton "amount" "1.5" } }⟩
  error := none

end Sample

/-- A quote is read back, and so is the catalog that a client polls for. -/
theorem quote_reads_back :
    (Callback.shape .select).ofText? ((Callback.shape .select).toText Sample.onSelect) =
        some Sample.onSelect ∧
      ∃ c, (Callback.shape .search).ofBytes? Sample.onSearch.request.body = some c ∧
        ∃ body answer, (Sample.poll.outcome Sample.defaults
            (after Sample.defaults .empty [Sample.search, Sample.onSearch])).result =
              ⟨200, some body⟩ ∧
          (PollAnswer.shape .search).ofText? body.render = some answer ∧ answer.Contains c := by
  obtain ⟨hread, -, hpolls⟩ := wire_formats_read_back
  refine ⟨(hread (.callback .select) Sample.onSelect (by decide +kernel)).1, ?_⟩
  have haccepted : (Visited.accepted? .search ⟨Sample.onSearch,
      Sample.onSearch.outcome Sample.defaults
        (after Sample.defaults .empty [Sample.search])⟩).map (·.messageId) = some "m" := by
    decide +kernel
  obtain ⟨c, haccepted, hid⟩ := Option.map_eq_some_iff.1 haccepted
  have h := hpolls Sample.defaults [Sample.search] [] Sample.onSearch Sample.poll .search c
    haccepted
  rw [hid] at h
  exact ⟨c, h (by decide +kernel) (by decide +kernel) (by decide +kernel) (by decide +kernel)
    (.inl rfl) (by decide +kernel)⟩

end Gateway

end BuyerGateway
