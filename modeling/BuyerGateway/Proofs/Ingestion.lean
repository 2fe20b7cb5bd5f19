import BuyerGateway.Proofs.Transcript
/-!
What comes of a callback that is posted. The store of its exchange takes it at the end, whoever it
is from and whatever else is remembered, or an offline store refuses it; there is no other trace of
it. So each store holds, behind what it held before, what was posted on its own route.
-/
namespace BuyerGateway

theorem CallbackStore.appendAll_of_offline {e : Exchange} {s : CallbackStore e}
    (h : s.offline = true) (cs : List (Callback e)) : s.appendAll cs = s := by
  induction cs with
  | nil => rfl
  | cons c cs ih =>
    have hc : (s.append c).2 = s := congrArg Prod.snd (append_of_offline h c)
    calc
      s.appendAll (c :: cs) = (s.append c).2.appendAll cs := rfl
      _ = s.appendAll cs := by rw [hc]
      _ = s := ih

namespace Gateway

/-! ### Stores -/

namespace Visit

variable (defaults : ContextDefaults) (s : Stores)

theorem callbacks_outcome (v : Visit) (e : Exchange) :
    (v.outcome defaults s).stores.callbacks e = (s.callbacks e).appendAll (v.posted? e).toList := by
  rw [← callbacksOf_effects defaults s v e]
  exact Plan.run_callbacks _ _ s e

end Visit

theorem callbacks_after (defaults : ContextDefaults) (s : Stores) (visits : List Visit)
    (e : Exchange) :
    (after defaults s visits).callbacks e =
      (s.callbacks e).appendAll (visits.filterMap (·.posted? e)) := by
  induction visits generalizing s with
  | nil => rfl
  | cons v visits ih =>
    rw [after_cons, ih, Visit.callbacks_outcome, ← CallbackStore.appendAll_append,
      List.filterMap_cons]
    cases v.posted? e <;> rfl

/-- Whatever visits there are, a store that is online holds, behind what it held before, all that
was posted on its route, in this order and with repetitions. One that is offline stays as it is. -/
theorem stores_hold_what_is_posted (defaults : ContextDefaults) (s : Stores) (visits : List Visit)
    (e : Exchange) :
    (after defaults s visits).callbacks e =
      if (s.callbacks e).offline then s.callbacks e
      else { s.callbacks e with
        records := (s.callbacks e).records ++ visits.filterMap (·.posted? e) } := by
  rw [callbacks_after]
  split
  · rename_i hoffline
    exact CallbackStore.appendAll_of_offline hoffline _
  · rename_i honline
    exact CallbackStore.appendAll_of_online (Bool.eq_false_iff.2 honline) _

/-- The stores with one more callback at the end of the store of its exchange, and
else as they were. -/
structure Stores.Gains (s s' : Stores) {e : Exchange} (c : Callback e) : Prop where
  store : s'.callbacks e = { s.callbacks e with records := (s.callbacks e).records ++ [c] }
  others : ∀ e', e' ≠ e → s'.callbacks e' = s.callbacks e'
  ledger : s'.ledger = s.ledger

/-- What is gained shows. -/
theorem Stores.not_gains_self (s : Stores) {e : Exchange} (c : Callback e) : ¬ s.Gains s c := by
  intro h
  have hlength := congrArg (fun store : CallbackStore e => store.records.length) h.store
  simp at hlength

theorem Stores.setCallbacks_callbacks (s : Stores) (e : Exchange) :
    s.setCallbacks e (s.callbacks e) = s := by
  have hsame : (s.setCallbacks e (s.callbacks e)).callbacks = s.callbacks := by
    funext e'
    by_cases he : e' = e
    · subst he
      exact setCallbacks_self ..
    · exact setCallbacks_of_ne s he _
  exact congrArg (Stores.mk s.ledger) hsame

namespace Visit

variable {v : Visit} {e : Exchange} {c : Callback e} (defaults : ContextDefaults) {s : Stores}

theorem outcome_of_stored (h : v.route? = some (.callback e)) (hb : v.callback? e = some c)
    (honline : (s.callbacks e).offline = false) :
    (v.outcome defaults s).result = Setting.acceptance c.context ∧
      (v.outcome defaults s).effects = [.append e c] ∧ s.Gains (v.outcome defaults s).stores c := by
  have hposted := posted?_of_callback h hb
  have hgains : s.Gains (v.outcome defaults s).stores c := by
    constructor
    · rw [callbacks_outcome, hposted, dif_pos rfl, CallbackStore.appendAll_of_online honline]
      rfl
    · intro e' he
      rw [callbacks_outcome, hposted, dif_neg he.symm]
      rfl
    · rw [outcome_of_callback defaults s h hb]
      rfl
  refine ⟨?_, ?_, hgains⟩
  · rw [outcome_of_callback defaults s h hb, CallbackStore.append_of_online honline]
    rfl
  · rw [outcome_of_callback defaults s h hb]

theorem outcome_of_unstored (h : v.route? = some (.callback e)) (hb : v.callback? e = some c)
    (hoffline : (s.callbacks e).offline = true) :
    v.outcome defaults s =
      ⟨Setting.refusal c.context StorageFailure.onWrite.refusal, [.append e c], s⟩ := by
  rw [outcome_of_callback defaults s h hb, CallbackStore.append_of_offline hoffline]
  simp only [Stores.setCallbacks_callbacks]
  rfl

/-- The answer says no more of what is remembered than whether the store of the route is online. -/
theorem result_eq_of_offline_eq {t : Stores} (h : v.route? = some (.callback e))
    (hsame : (t.callbacks e).offline = (s.callbacks e).offline) :
    (v.outcome defaults t).result = (v.outcome defaults s).result := by
  cases hb : v.callback? e with
  | none =>
    rw [outcome_of_unread_callback defaults t h hb, outcome_of_unread_callback defaults s h hb]
  | some c =>
    cases honline : (s.callbacks e).offline with
    | true =>
      rw [outcome_of_unstored defaults h hb (hsame.trans honline),
        outcome_of_unstored defaults h hb honline]
    | false =>
      rw [(outcome_of_stored defaults h hb (hsame.trans honline)).1,
        (outcome_of_stored defaults h hb honline).1]

end Visit

/-- Whatever the gateway remembers, a callback that is posted on its route and can be read is
stored, if the store of the route is online; else it is refused and nothing is changed. So success
says that the callback is stored, and nothing but this store has a say in the answer. -/
theorem callbacks_are_ingested (defaults : ContextDefaults) (s : Stores) (v : Visit) (e : Exchange)
    (hpath : v.request.path = "/protocol/v1/" ++ (Action.callback e).name)
    (hmethod : v.request.method = "POST") :
    let o := v.outcome defaults s
    let body (context : Context) (status : AckStatus) (error : Option ProtocolError) :=
      some (Acknowledgement.shape.encode ⟨some context, status, error⟩)
    (∀ c : Callback e, v.Carries c → (s.callbacks e).offline = false →
      o.result = ⟨200, body c.context .ack none⟩ ∧ o.effects = [.append e c] ∧
        s.Gains o.stores c) ∧
    (∀ c : Callback e, v.Carries c → (s.callbacks e).offline = true →
      o.result = ⟨500, body c.context .nack (some ⟨"BAP_006", "Error when writing to DB"⟩)⟩ ∧
        o.effects = [.append e c] ∧ o.stores = s) ∧
    ((∀ c : Callback e, ¬ v.Carries c) →
      o.result = ⟨422, body
          (defaults.context (.callback e) v.minted.transactionId v.minted.messageId v.minted.now)
          .nack (some ⟨"BAP_017", "Request body could not be read"⟩)⟩ ∧
        o.effects = [] ∧ o.stores = s) ∧
    (o.result.status = 200 ↔ ∃ c : Callback e, v.Carries c ∧ s.Gains o.stores c) ∧
    ∀ t : Stores, (t.callbacks e).offline = (s.callbacks e).offline →
      (v.outcome defaults t).result = o.result := by
  intro o body
  have hroute : v.route? = some (.callback e) := Visit.route?_eq_callback_iff.2 ⟨hpath, hmethod⟩
  have hstored (c : Callback e) (hc : v.Carries c) (honline : (s.callbacks e).offline = false) :
      o.result = ⟨200, body c.context .ack none⟩ ∧ o.effects = [.append e c] ∧
        s.Gains o.stores c :=
    Visit.outcome_of_stored defaults hroute (Visit.callback?_eq_some_iff.2 hc) honline
  have hunstored (c : Callback e) (hc : v.Carries c) (hoffline : (s.callbacks e).offline = true) :
      o = ⟨Setting.refusal c.context StorageFailure.onWrite.refusal, [.append e c], s⟩ :=
    Visit.outcome_of_unstored defaults hroute (Visit.callback?_eq_some_iff.2 hc) hoffline
  have hunread (hno : ∀ c : Callback e, ¬ v.Carries c) :
      o = ⟨(v.setting defaults).rejection (.callback e), [], s⟩ :=
    Visit.outcome_of_unread_callback defaults s hroute (Visit.callback?_eq_none_iff.2 hno)
  refine ⟨hstored, ?_, ?_, ?_, ?_⟩
  · intro c hc hoffline
    rw [hunstored c hc hoffline]
    exact ⟨rfl, rfl, rfl⟩
  · intro hno
    rw [hunread hno]
    exact ⟨rfl, rfl, rfl⟩
  · constructor
    · intro h200
      by_cases hread : ∃ c : Callback e, v.Carries c
      · obtain ⟨c, hc⟩ := hread
        cases honline : (s.callbacks e).offline with
        | false => exact ⟨c, hc, (hstored c hc honline).2.2⟩
        | true =>
          rw [hunstored c hc honline] at h200
          cases h200
      · rw [hunread (not_exists.1 hread)] at h200
        cases h200
    · rintro ⟨c, hc, hgains⟩
      cases honline : (s.callbacks e).offline with
      | false => rw [(hstored c hc honline).1]
      | true =>
        rw [hunstored c hc honline] at hgains
        exact absurd hgains (s.not_gains_self c)
  · intro t hsame
    exact Visit.result_eq_of_offline_eq defaults hroute hsame

/-- A catalog that nobody asked for is stored, and stored again when it is posted again. -/
theorem repeated_catalog_is_stored_again :
    ∃ c : Callback .search, Sample.onSearch.Carries c ∧
      ((after Sample.defaults .empty
        [Sample.onSearch, Sample.onSearch]).callbacks .search).records = [c, c] ∧
      (after Sample.defaults .empty [Sample.onSearch, Sample.onSearch]).ledger = .empty := by
  have hsome : (Sample.onSearch.callback? .search).isSome := by decide +kernel
  obtain ⟨c, hread⟩ := Option.isSome_iff_exists.1 hsome
  have hc : Sample.onSearch.Carries c := Visit.callback?_eq_some_iff.1 hread
  have ingested (s : Stores) :=
    callbacks_are_ingested Sample.defaults s Sample.onSearch .search (by decide) rfl
  obtain ⟨-, -, first⟩ := (ingested .empty).1 c hc rfl
  have honline : ((Sample.onSearch.outcome Sample.defaults .empty).stores.callbacks
      .search).offline = false := by
    rw [first.store]
    rfl
  obtain ⟨-, -, second⟩ := (ingested _).1 c hc honline
  refine ⟨c, hc, ?_, second.ledger.trans first.ledger⟩
  have hrecords := congrArg CallbackStore.records second.store
  rw [first.store] at hrecords
  exact hrecords

end Gateway

end BuyerGateway
