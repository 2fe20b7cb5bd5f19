import BuyerGateway.Proofs.Arrivals
import BuyerGateway.Proofs.Shape.Presence
/-!
Correlation from end to end. The message id that a client is given with the acceptance of its
submission is the one its request carried, and a poll for this id shows the callbacks that carry it.
-/
namespace BuyerGateway

/-! ### The id in an answer -/

/-- The message id of a context is written under its own key. -/
theorem Context.exists_messageId (c : Context) :
    ∃ header, shape.encode c = .object header ∧
      Json.valuesAt "message_id" header = [.text c.messageId] := by
  refine ⟨_, rfl, ?_⟩
  -- Ten fields stand in front of it, and those of the counterparty among them may be left out.
  exact Fields.Slot.valuesAt_encode_of_required (t := .text)
    (.behindRequired <| .behindRequired <| .behindRequired <| .behindRequired <|
      .behindRequired <| .behindRequired <| .behindRequired <| .behindDefaulted <|
      .behindDefaulted <| .behindRequired .required) (by decide +kernel) rfl _

namespace Web.Response

/-- The message id in the context of an answer, as a client reads it. -/
def messageId? (response : Response) : Option String :=
  response.body.bind
    ((Shape.wrapped "context" (.wrapped "message_id" .text)).decode Shape.roomOfText)

/-- An answer that acknowledges under a context tells the id of this context. -/
theorem messageId?_ack (status : Nat) (context : Context) :
    messageId? ⟨status, some (Acknowledgement.shape.encode ⟨some context, .ack, none⟩)⟩ =
      some context.messageId := by
  obtain ⟨header, hheader, hid⟩ := context.exists_messageId
  have hcontext : Json.valuesAt "context" [("context", Context.shape.encode context),
      ("message", AckStatus.messageShape.encode .ack)] = [.object header] := by
    rw [Json.valuesAt_cons_self, Json.valuesAt_cons_ne (by decide), hheader]
    rfl
  calc
    messageId? ⟨status, some (Acknowledgement.shape.encode ⟨some context, .ack, none⟩)⟩ =
        (Shape.wrapped "message_id" .text).decode (Shape.roomOfText - 1) (.object header) :=
      Shape.decode_wrapped hcontext
    _ = some context.messageId := Shape.decode_wrapped hid

end Web.Response

namespace PollAnswer

/-- An answer contains a callback: its catalog, named after its own counterparty, in a search, and
its message in every other exchange. -/
def Contains : {e : Exchange} → PollAnswer e → Callback e → Prop
  | .search, answer, c => ∀ message, c.message = some message →
    ∃ aggregate, answer.message = some aggregate ∧
      ⟨c.context.bppId, c.context.bppUri, message.catalog⟩ ∈ aggregate.catalogs
  | .select, answer, c => answer.message = c.message
  | .init, answer, c => answer.message = c.message
  | .confirm, answer, c => answer.message = c.message
  | .track, answer, c => answer.message = c.message
  | .support, answer, c => answer.message = c.message

/-- The fold of some callbacks contains the first of them, and in a search all of them. -/
theorem contains_ofCallbacks (defaults : ContextDefaults) (minted : Minted) {e : Exchange}
    (m : String) {cs : List (Callback e)} {c : Callback e}
    (h : e = .search ∧ c ∈ cs ∨ cs.head? = some c) :
    (ofCallbacks defaults minted e m cs).Contains c := by
  have hfirst (hc : cs.head? = some c) : Callback.firstMessage? cs = c.message := by
    rw [Callback.firstMessage?, hc]
    rfl
  cases e with
  | search =>
    intro message hm
    have hc : c ∈ cs := h.elim (·.2) List.mem_of_head?
    refine ⟨_, rfl, List.mem_filterMap.2 ⟨c, hc, ?_⟩⟩
    rw [ClientCatalog.ofCallback?, hm]
    rfl
  | select => exact hfirst (h.resolve_left (nomatch ·.1))
  | init => exact hfirst (h.resolve_left (nomatch ·.1))
  | confirm => exact hfirst (h.resolve_left (nomatch ·.1))
  | track => exact hfirst (h.resolve_left (nomatch ·.1))
  | support => exact hfirst (h.resolve_left (nomatch ·.1))

end PollAnswer

/-- No failure of a submission is answered by a status of success. -/
theorem SubmitFailure.status_ne (failure : SubmitFailure) : failure.refusal.status ≠ 200 := by
  cases failure with
  | validation cause => cases cause <;> decide
  | registry cause => cases cause <;> decide
  | counterparty cause => cases cause <;> decide
  | storage cause => cases cause <;> decide

namespace Gateway

/-- A context under the configured identity and the minted message id. Its transaction is the
client's own, exactly as given, unless that is blank or missing. -/
structure Configured (defaults : ContextDefaults) (v : Visit) (client : ClientRequest)
    (context : Context) : Prop where
  messageId : context.messageId = v.minted.messageId
  ownTransaction : ∀ t, client.context.transactionId = some t → Text.isBlank t = false →
    context.transactionId = t
  mintedTransaction : (∀ t, client.context.transactionId = some t → Text.isBlank t = true) →
    context.transactionId = v.minted.transactionId
  domain : context.domain = defaults.domain
  country : context.country = defaults.country
  city : context.city = defaults.city
  coreVersion : context.coreVersion = defaults.coreVersion
  bapId : context.bapId = defaults.bapId
  bapUri : context.bapUri = defaults.bapUri

theorem Configured.context (defaults : ContextDefaults) (v : Visit) (e : Exchange)
    (client : ClientRequest) : Configured defaults v client (v.context defaults e client) := by
  have htransaction : (v.context defaults e client).transactionId =
      (client.context.transactionId.bind Text.nonBlank?).getD v.minted.transactionId := by
    cases e <;> rfl
  refine ⟨Visit.messageId_context defaults, ?_, ?_, ?_, ?_, ?_, ?_, ?_, ?_⟩
  · intro t ht hblank
    rw [htransaction, Text.bind_nonBlank?_eq_some_iff.2 ⟨ht, hblank⟩]
    rfl
  · intro hblank
    rw [htransaction, Text.bind_nonBlank?_eq_none_iff.2 hblank]
    rfl
  all_goals cases e <;> rfl

namespace Course

variable {world : World} {ledger after : Ledger} {now : Timestamp} {context : Context}
  {helper : Option String} {payload : Payload} {effects : List Effect}
  {result : Except SubmitFailure (Option LedgerEntry)}

/-- A submission that made a call and was accepted made this call alone, under its context, and the
ledger holds its message id. -/
theorem of_called (h : Course world ledger now context helper payload effects result after)
    {recorded : Option LedgerEntry} (hok : result = .ok recorded)
    (hcalled : Session.callsOf effects ≠ []) :
    ∃ base request, Session.callsOf effects = [(base, request)] ∧ request.context = context ∧
      request.exchange = payload.exchange ∧ (after.held? context.messageId).isSome := by
  cases h with
  | nobody hp => exact absurd rfl hcalled
  | @recorded lookup missing target request hs hf hb ha ho =>
    obtain ⟨hcontext, hexchange⟩ := Payload.request_eq_ok hb
    refine ⟨target.url, request, rfl, hcontext, hexchange, ?_⟩
    rw [Ledger.held?_record ho, if_pos rfl]
    cases ledger.held? context.messageId <;> rfl
  | _ => cases hok

end Course

/-- A submission that was accepted after a call: the client was given the context of the call. -/
theorem Visit.outcome_of_accepted {defaults : ContextDefaults} {v : Visit} {e : Exchange}
    {s : Stores} (hroute : v.route? = some (.submit e))
    (h200 : (v.outcome defaults s).result.status = 200)
    (hcalled : Session.callsOf (v.outcome defaults s).effects ≠ []) :
    ∃ client base request, v.client? e = some client ∧
      Session.callsOf (v.outcome defaults s).effects = [(base, request)] ∧
      request.context = v.context defaults e client ∧ request.exchange = e ∧
      (v.outcome defaults s).result = Setting.acceptance request.context ∧
      ((v.outcome defaults s).stores.ledger.held? request.context.messageId).isSome := by
  cases hb : v.client? e with
  | none =>
    rw [outcome_of_unread_submit defaults s hroute hb] at hcalled
    exact absurd rfl hcalled
  | some client =>
    obtain ⟨effects, result, ledger, course, hout⟩ := exists_course defaults s hroute hb
    rw [hout] at h200 hcalled ⊢
    cases result with
    | error failure => exact absurd h200 (SubmitFailure.status_ne failure)
    | ok recorded =>
      -- An acceptance with a call has passed all stages, the write to the ledger included.
      obtain ⟨base, request, hcalls, hcontext, hexchange, hheld⟩ := course.of_called rfl hcalled
      refine ⟨client, base, request, rfl, hcalls, hcontext, ?_, ?_, ?_⟩
      · rw [hexchange, exchange_of_client hb]
      · rw [hcontext]
        rfl
      · rw [hcontext]
        exact hheld

/-- A poll for an id that the ledger held once shows a callback of this id that
was accepted since. -/
theorem Visit.poll_contains {defaults : ContextDefaults} {early later : List Visit} {w p : Visit}
    {e : Exchange} {c : Callback e}
    (hheld : ((after defaults .empty early).ledger.held? c.messageId).isSome)
    (haccepted : Visited.accepted? e ⟨w, w.outcome defaults (after defaults .empty early)⟩ = some c)
    (hroute : p.route? = some (.poll e)) (hpolled : p.polled? = some c.messageId) :
    ∃ answer : PollAnswer e,
      (p.outcome defaults (after defaults .empty (early ++ w :: later))).result =
        p.withoutBody ⟨200, some ((PollAnswer.shape e).encode answer)⟩ ∧
      (e = .search ∨ arrived defaults early e c.messageId = [] → answer.Contains c) := by
  have honline := online_after defaults (early ++ w :: later) Stores.online_empty
  have hstill :
      ((after defaults .empty (early ++ w :: later)).ledger.held? c.messageId).isSome := by
    rw [after_append]
    exact held_after defaults (w :: later) hheld
  obtain ⟨rest, harrived⟩ := arrived_of_accepted later haccepted
  refine ⟨_, outcome_of_known_poll honline hroute hpolled hstill, ?_⟩
  intro hfirst
  rw [recordsOf_after, harrived]
  apply PollAnswer.contains_ofCallbacks
  rcases hfirst with he | hnone
  · exact .inl ⟨he, List.mem_append_right _ List.mem_cons_self⟩
  · rw [hnone]
    exact .inr rfl

/-- A submission that is accepted after a call gives its client the context of the call. Whoever
polls with the message id in that answer is shown the callbacks that carry this id. -/
theorem submission_correlates (defaults : ContextDefaults) (before : List Visit) (v : Visit)
    (e : Exchange) (hroute : v.route? = some (.submit e))
    (h200 : (v.outcome defaults (after defaults .empty before)).result.status = 200)
    (hcalled : Session.callsOf (v.outcome defaults (after defaults .empty before)).effects ≠ []) :
    let o := v.outcome defaults (after defaults .empty before)
    ∃ client base request, v.client? e = some client ∧
      Session.callsOf o.effects = [(base, request)] ∧ request.exchange = e ∧
      o.result =
        ⟨200, some (Acknowledgement.shape.encode ⟨some request.context, .ack, none⟩)⟩ ∧
      o.result.messageId? = some request.context.messageId ∧
      Configured defaults v client request.context ∧
      (∃ entry ∈ o.stores.ledger.entries, entry.messageId = request.context.messageId) ∧
      ∀ (between later : List Visit) (w p : Visit) (c : Callback e),
        let early := before ++ v :: between
        Visited.accepted? e ⟨w, w.outcome defaults (after defaults .empty early)⟩ = some c →
        c.context.messageId = request.context.messageId →
        p.route? = some (.poll e) → p.polled? = o.result.messageId? →
        ∃ answer : PollAnswer e,
          (p.outcome defaults (after defaults .empty (early ++ w :: later))).result =
            p.withoutBody ⟨200, some ((PollAnswer.shape e).encode answer)⟩ ∧
          (e = .search ∨ arrived defaults early e request.context.messageId = [] →
            answer.Contains c) := by
  intro o
  obtain ⟨client, base, request, hclient, hcalls, hcontext, hexchange, hresult, hheld⟩ :=
    Visit.outcome_of_accepted hroute h200 hcalled
  have hconfigured : Configured defaults v client request.context :=
    hcontext ▸ Configured.context defaults v e client
  have hgiven : o.result.messageId? = some request.context.messageId :=
    (congrArg Web.Response.messageId? hresult).trans (Web.Response.messageId?_ack 200 _)
  refine ⟨client, base, request, hclient, hcalls, hexchange, hresult, hgiven, hconfigured,
    Ledger.isSome_held?_iff.1 hheld, ?_⟩
  intro between later w p c early haccepted hid hpoll hpolled
  have hearly : ((after defaults .empty early).ledger.held? c.messageId).isSome := by
    obtain ⟨entry, hentry, hkey⟩ := Ledger.isSome_held?_iff.1 hheld
    rw [Ledger.isSome_held?_iff, after_append, after_cons]
    exact ⟨entry, (entries_prefix_after defaults between _).subset hentry, hkey.trans hid.symm⟩
  have hm : request.context.messageId = c.messageId := hid.symm
  rw [hgiven, hm] at hpolled
  rw [hm]
  exact Visit.poll_contains hearly haccepted hpoll hpolled

/-- A search, a catalog for it, and the poll for the id in the answer to the search. -/
theorem search_correlates :
    let o := Sample.search.outcome Sample.defaults .empty
    (∃ context, o.result =
        ⟨200, some (Acknowledgement.shape.encode ⟨some context, .ack, none⟩)⟩) ∧
      o.result.messageId? = some "m" ∧ Sample.poll.polled? = o.result.messageId? ∧
      ∃ c, Visited.accepted? .search ⟨Sample.onSearch, Sample.onSearch.outcome Sample.defaults
          (after Sample.defaults .empty [Sample.search])⟩ = some c ∧
        ∃ answer : PollAnswer .search,
          (Sample.poll.outcome Sample.defaults
              (after Sample.defaults .empty [Sample.search, Sample.onSearch])).result =
            ⟨200, some ((PollAnswer.shape .search).encode answer)⟩ ∧ answer.Contains c := by
  obtain ⟨client, base, request, -, -, -, hresult, hgiven, hconfigured, -, hpolls⟩ :=
    submission_correlates Sample.defaults [] Sample.search .search (by decide +kernel)
      (by decide +kernel) (by decide +kernel)
  have hm : request.context.messageId = "m" := hconfigured.messageId
  rw [hm] at hgiven hpolls
  have hpolled : Sample.poll.polled? = some "m" := by decide +kernel
  have hread : (Visited.accepted? .search ⟨Sample.onSearch, Sample.onSearch.outcome Sample.defaults
      (after Sample.defaults .empty [Sample.search])⟩).map (·.context.messageId) = some "m" := by
    decide +kernel
  obtain ⟨c, haccepted, hid⟩ := Option.map_eq_some_iff.1 hread
  obtain ⟨answer, hanswer, hcontains⟩ := hpolls [] [] Sample.onSearch Sample.poll c haccepted hid
    (by decide +kernel) (hpolled.trans hgiven.symm)
  exact ⟨⟨request.context, hresult⟩, hgiven, hpolled.trans hgiven.symm, c, haccepted, answer,
    hanswer, hcontains (.inl rfl)⟩

end Gateway

end BuyerGateway
