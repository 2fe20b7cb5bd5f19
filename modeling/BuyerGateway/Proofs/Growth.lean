import BuyerGateway.Proofs.Arrivals
/-!
How the answers to polls for one message id change in the course of time. A later answer keeps what
an earlier one showed: the error, the catalogs in their places, and, once any callback has arrived,
the context and the message of an exchange with one answer.
-/
namespace BuyerGateway

namespace PollAnswer

/-- The catalogs in the answer to a search. -/
def catalogs? : {e : Exchange} → PollAnswer e → Option (List ClientCatalog)
  | .search, answer => answer.message.map (·.catalogs)
  | _, _ => none

/-- What a second answer keeps of a first one that was given when the callbacks had `started` to
arrive, or before. -/
structure Keeps {e : Exchange} (started : Prop) (first second : PollAnswer e) : Prop where
  error : ∀ error, first.error = some error → second.error = some error
  catalogs : e = .search →
    ∃ shown more, first.catalogs? = some shown ∧ second.catalogs? = some (shown ++ more)
  context : started → second.context = first.context
  /-- A first callback without a message stays authoritative too. -/
  message : started → e ≠ .search → second.message = first.message

variable (defaults : ContextDefaults) (minted minted' : Minted) (m : String)

/-- More callbacks behind the old ones take nothing from the answer. -/
theorem keeps_ofCallbacks {e : Exchange} (old new : List (Callback e)) :
    Keeps (old ≠ []) (ofCallbacks defaults minted e m old)
      (ofCallbacks defaults minted' e m (old ++ new)) := by
  -- Whatever looks at the first callback alone sees the same one.
  have hfirst (h : old ≠ []) :
      Callback.firstMessage? (old ++ new) = Callback.firstMessage? old := by
    rw [Callback.firstMessage?, Callback.firstMessage?, List.head?_append_of_ne_nil _ h]
  refine ⟨?_, ?_, ?_, ?_⟩
  · intro error herror
    have hfound : old.findSome? (·.error) = some error := herror
    have hsplit : (old ++ new).findSome? (·.error) =
        (old.findSome? (·.error)).or (new.findSome? (·.error)) := List.findSome?_append
    rw [hfound, Option.some_or] at hsplit
    exact hsplit
  · rintro rfl
    refine ⟨old.filterMap ClientCatalog.ofCallback?, new.filterMap ClientCatalog.ofCallback?,
      rfl, ?_⟩
    rw [← List.filterMap_append]
    rfl
  · intro h
    cases old with
    | nil => exact absurd rfl h
    | cons c old => rfl
  · intro h he
    cases e with
    | search => exact absurd rfl he
    | select => exact hfirst h
    | init => exact hfirst h
    | confirm => exact hfirst h
    | track => exact hfirst h
    | support => exact hfirst h

end PollAnswer

namespace Gateway

/-- Only an id that the ledger holds is answered with success. -/
theorem Visit.held_of_answered {defaults : ContextDefaults} {v : Visit} {e : Exchange} {m : String}
    {s : Stores} (h : s.Online) (hroute : v.route? = some (.poll e)) (hpolled : v.polled? = some m)
    (h200 : (v.outcome defaults s).result.status = 200) : (s.ledger.held? m).isSome := by
  cases hheld : s.ledger.held? m with
  | some entry => rfl
  | none =>
    rw [outcome_of_unknown_poll h hroute hpolled hheld] at h200
    simp only [status_withoutBody] at h200
    cases h200

/-- An id whose poll was answered with success is so answered ever after, and the later answer keeps
the error and the catalogs of the earlier one; its context and its message too, if a callback of the
id had been accepted before the earlier poll. -/
theorem poll_answers_grow (defaults : ContextDefaults) (early between : List Visit) (p q : Visit)
    (e : Exchange) (m : String) (hp : p.route? = some (.poll e)) (hpm : p.polled? = some m)
    (hq : q.route? = some (.poll e)) (hqm : q.polled? = some m)
    (h200 : (p.outcome defaults (after defaults .empty early)).result.status = 200) :
    let late := early ++ p :: between
    let first := PollAnswer.ofCallbacks defaults p.minted e m (arrived defaults early e m)
    let second := PollAnswer.ofCallbacks defaults q.minted e m (arrived defaults late e m)
    (p.outcome defaults (after defaults .empty early)).result =
      p.withoutBody ⟨200, some ((PollAnswer.shape e).encode first)⟩ ∧
    (q.outcome defaults (after defaults .empty late)).result =
      q.withoutBody ⟨200, some ((PollAnswer.shape e).encode second)⟩ ∧
    PollAnswer.Keeps (arrived defaults early e m ≠ []) first second := by
  intro late first second
  have hearly := online_after defaults early Stores.online_empty
  have hlate := online_after defaults late Stores.online_empty
  have hheld : ((after defaults .empty early).ledger.held? m).isSome :=
    Visit.held_of_answered hearly hp hpm h200
  -- The ledger gives no entry up, so the id is still known.
  have hstill : ((after defaults .empty late).ledger.held? m).isSome := by
    rw [after_append]
    exact held_after defaults (p :: between) hheld
  refine ⟨?_, ?_, ?_⟩
  · rw [Visit.outcome_of_known_poll hearly hp hpm hheld, recordsOf_after]
  · rw [Visit.outcome_of_known_poll hlate hq hqm hstill, recordsOf_after]
  · have hsecond : second = .ofCallbacks defaults q.minted e m (arrived defaults early e m ++ _) :=
      congrArg (PollAnswer.ofCallbacks defaults q.minted e m) (arrived_append defaults early _ e m)
    rw [hsecond]
    exact PollAnswer.keeps_ofCallbacks defaults p.minted q.minted m _ _

/-- The same catalog again, after a poll: the context stays, and the catalogs are one more. -/
theorem repeated_catalog_grows :
    let early := [Sample.search, Sample.onSearch]
    let late := early ++ [Sample.poll, Sample.onSearch]
    let shown := PollAnswer.ofCallbacks Sample.defaults Sample.poll.minted .search "m"
    let first := shown (arrived Sample.defaults early .search "m")
    let second := shown (arrived Sample.defaults late .search "m")
    first.catalogs?.map List.length = some 1 ∧ second.catalogs?.map List.length = some 2 ∧
      second.context = first.context := by
  obtain ⟨-, -, hkeeps⟩ := poll_answers_grow Sample.defaults [Sample.search, Sample.onSearch]
    [Sample.onSearch] Sample.poll Sample.poll .search "m" (by decide +kernel) (by decide +kernel)
    (by decide +kernel) (by decide +kernel) (by decide +kernel)
  exact ⟨by decide +kernel, by decide +kernel, hkeeps.context (by decide +kernel)⟩

end Gateway

end BuyerGateway
