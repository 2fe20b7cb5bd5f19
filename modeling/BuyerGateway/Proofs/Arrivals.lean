import BuyerGateway.Proofs.Transcript
/-!
What a poll shows. For a message id that the ledger holds it shows the callbacks accepted so far on
the route of its exchange, folded into one, and nothing else of the history has a part in it.
-/
namespace BuyerGateway

/-- The catalogs in the body of an answer, as a client reads them. -/
def Web.Response.catalogs? (response : Response) : Option (List ClientCatalog) :=
  (response.body.bind ((Shape.wrapped "message" SearchAggregate.shape).decode
    Shape.roomOfText)).map (·.catalogs)

namespace Gateway

/-- A poll for an id that is held reads all callbacks of this id in the store of its exchange. -/
theorem Visit.outcome_of_known_poll {defaults : ContextDefaults} {v : Visit} {e : Exchange}
    {m : String} {s : Stores} (h : s.Online) (hroute : v.route? = some (.poll e))
    (hpolled : v.polled? = some m) (hheld : (s.ledger.held? m).isSome) :
    (v.outcome defaults s).result =
      v.withoutBody ⟨200, some ((PollAnswer.shape e).encode
        (.ofCallbacks defaults v.minted e m ((s.callbacks e).recordsOf m)))⟩ := by
  rw [outcome_of_poll defaults s hroute hpolled, run_poll, Ledger.contains_of_online h.ledger,
    hheld,
    CallbackStore.find_of_online (h.callbacks e)]
  rfl

/-- A poll for an id that is not held is answered so, and reads no store of callbacks. -/
theorem Visit.outcome_of_unknown_poll {defaults : ContextDefaults} {v : Visit} {e : Exchange}
    {m : String} {s : Stores} (h : s.Online) (hroute : v.route? = some (.poll e))
    (hpolled : v.polled? = some m) (hheld : s.ledger.held? m = none) :
    v.outcome defaults s =
      ⟨v.withoutBody (v.pollAnswer defaults e m (.error (.notFound m))), [.known m], s⟩ := by
  rw [outcome_of_poll defaults s hroute hpolled, run_poll, Ledger.contains_of_online h.ledger,
    hheld]
  rfl

/-- The last effect of a poll is to read the callbacks of an id that is held, else
to ask for the id. -/
theorem Visit.getLast?_effects_of_poll (defaults : ContextDefaults) {v : Visit} {e : Exchange}
    {m : String} {s : Stores} (h : s.Online) (hroute : v.route? = some (.poll e))
    (hpolled : v.polled? = some m) :
    (v.outcome defaults s).effects.getLast? =
      some (if (s.ledger.held? m).isSome then .arrived e m else .known m) := by
  rw [outcome_of_poll defaults s hroute hpolled, run_poll, Ledger.contains_of_online h.ledger,
    CallbackStore.find_of_online (h.callbacks e)]
  cases s.ledger.held? m <;> rfl

/-- The callbacks of an id that were accepted in the course of some visits, in order and with
repetitions. -/
def arrived (defaults : ContextDefaults) (visits : List Visit) (e : Exchange) (m : String) :
    List (Callback e) :=
  (accepted e (transcript defaults .empty visits)).filter (·.messageId == m)

theorem recordsOf_after (defaults : ContextDefaults) (visits : List Visit) (e : Exchange)
    (m : String) :
    ((after defaults .empty visits).callbacks e).recordsOf m = arrived defaults visits e m := by
  rw [CallbackStore.recordsOf, records_after defaults visits Stores.online_empty e]
  rfl

/-- What arrives later stands behind what has arrived before. -/
theorem arrived_append (defaults : ContextDefaults) (early later : List Visit) (e : Exchange)
    (m : String) :
    arrived defaults (early ++ later) e m = arrived defaults early e m ++
      (accepted e (transcript defaults (after defaults .empty early) later)).filter
        (·.messageId == m) := by
  rw [arrived, transcript_append, accepted_append, List.filter_append]
  rfl

/-- A callback that is accepted stands behind those of its id that came before, and in front of
those that come after. -/
theorem arrived_of_accepted {defaults : ContextDefaults} {early : List Visit} (later : List Visit)
    {w : Visit} {e : Exchange} {c : Callback e}
    (h : Visited.accepted? e ⟨w, w.outcome defaults (after defaults .empty early)⟩ = some c) :
    ∃ rest, arrived defaults (early ++ w :: later) e c.messageId =
      arrived defaults early e c.messageId ++ c :: rest := by
  have hcons (xs : List Visited) :
      accepted e (⟨w, w.outcome defaults (after defaults .empty early)⟩ :: xs) =
        c :: accepted e xs := by
    rw [accepted, List.filterMap_cons, h]
    rfl
  have hself : (c.messageId == c.messageId) = true := beq_self_eq_true _
  rw [arrived_append, transcript_cons, hcons, List.filter_cons, if_pos hself]
  exact ⟨_, rfl⟩

/-- After any visits to a gateway that started with nothing, a poll for an id that the ledger holds
is answered by the fold of the callbacks of this id that were accepted on the route of the poll's
exchange, be it before or after the id was recorded. -/
theorem poll_shows_arrived (defaults : ContextDefaults) (visits : List Visit) (v : Visit)
    (e : Exchange) (m : String) (hroute : v.route? = some (.poll e))
    (hpolled : v.polled? = some m)
    (hheld : ∃ entry ∈ (after defaults .empty visits).ledger.entries, entry.messageId = m) :
    (v.outcome defaults (after defaults .empty visits)).result =
      v.withoutBody ⟨200, some ((PollAnswer.shape e).encode
        (.ofCallbacks defaults v.minted e m (arrived defaults visits e m)))⟩ := by
  have honline := online_after defaults visits Stores.online_empty
  rw [Visit.outcome_of_known_poll honline hroute hpolled (Ledger.isSome_held?_iff.2 hheld),
    recordsOf_after]

/-- A catalog that came before the search it answers was recorded. -/
theorem poll_shows_early_arrival :
    let o := Sample.poll.outcome Sample.defaults
      (after Sample.defaults .empty [Sample.onSearch, Sample.search])
    o.result.status = 200 ∧ o.result.catalogs? = some [⟨some "b", none, {}⟩] := by
  intro o
  have hanswer : o.result = _ := poll_shows_arrived Sample.defaults
    [Sample.onSearch, Sample.search] Sample.poll .search "m"
    (Visit.route?_eq_poll_iff.2 ⟨by decide +kernel, .inl rfl⟩) (by decide +kernel)
    (by decide +kernel)
  rw [hanswer]
  decide +kernel

end Gateway

end BuyerGateway
