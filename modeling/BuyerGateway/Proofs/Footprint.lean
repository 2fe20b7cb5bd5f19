import BuyerGateway.Proofs.Visit
/-!
What a visit may do, told from its route and its body alone. The plan of every visit is steady: it
goes on from an effect only when the answer will stand for ever and nothing was written, so all that
other visits can interfere with is its last effect.
-/
namespace BuyerGateway.Gateway

/-- An answer that stands from now on, of an effect that writes nothing. That an id is known stays
so; that it is unknown may change, and so may the callbacks that have arrived. -/
def Effect.Settled : (effect : Effect) → effect.Answer → Prop
  | .lookup _, _ => True
  | .call _ _, _ => True
  | .known _, answer => answer = .ok true
  | _, _ => False

namespace Plan

variable {α β : Type} {may : Effect → Prop}

/-- A plan of at most `n` effects, each of which it may have, that ends with the first one whose
answer is not settled. -/
inductive Steady (may : Effect → Prop) : Nat → Plan α → Prop
  | done {n : Nat} {a : α} : Steady may n (.done a)
  | use {n : Nat} {effect : Effect} {resume : effect.Answer → Plan α} (hmay : may effect)
      (hend : ∀ answer, ¬ effect.Settled answer → ∃ a, resume answer = .done a)
      (hrest : ∀ answer, Steady may n (resume answer)) : Steady may (n + 1) (.use effect resume)

/-- A steady plan whose result is only put into another form. -/
theorem Steady.bind_of_pure {n : Nat} {plan : Plan α} (h : Steady may n plan) {f : α → Plan β}
    (hf : ∀ a, ∃ b, f a = pure b) : Steady may n (plan >>= f) := by
  induction h with
  | @done n a =>
    obtain ⟨b, hb⟩ := hf a
    have hdone : (Plan.done a >>= f) = .done b := hb
    rw [hdone]
    exact .done
  | @use n effect resume hmay hend hrest ih =>
    refine .use hmay ?_ ih
    intro answer hopen
    obtain ⟨a, ha⟩ := hend answer hopen
    obtain ⟨b, hb⟩ := hf a
    refine ⟨b, ?_⟩
    rw [ha]
    exact hb

theorem Steady.mono {n k : Nat} {plan : Plan α} (h : Steady may n plan) (hnk : n ≤ k) :
    Steady may k plan := by
  induction h generalizing k with
  | done => exact .done
  | use hmay hend hrest ih =>
    cases k with
    | zero => exact absurd hnk (Nat.not_succ_le_zero _)
    | succ k => exact .use hmay hend fun answer => ih answer (Nat.le_of_succ_le_succ hnk)

theorem Steady.effects {n : Nat} {plan : Plan α} (h : Steady may n plan) (world : World)
    (s : Stores) : ∀ effect ∈ (plan.run world s).effects, may effect := by
  induction h generalizing s with
  | done => exact fun effect he => absurd he List.not_mem_nil
  | use hmay hend hrest ih =>
    intro effect he
    rcases List.mem_cons.1 he with rfl | he
    · exact hmay
    · exact ih _ _ effect he

end Plan

/-- An attempt that starts with an effect. -/
theorem Attempt.steady_perform_bind {ε α : Type} {may : Effect → Prop} {n : Nat} {effect : Effect}
    {f : effect.Answer → Attempt ε α} (hmay : may effect)
    (hend : ∀ answer, ¬ effect.Settled answer → ∃ result, (f answer).run = .done result)
    (hrest : ∀ answer, Plan.Steady may n (f answer).run) :
    Plan.Steady may (n + 1) (perform effect >>= f).run := .use hmay hend hrest

/-- An attempt within an attempt that starts with an effect. -/
theorem Attempt.lift_perform_bind {ε δ α β : Type} (effect : Effect)
    (g : effect.Answer → Attempt δ α) (f : Except δ α → Attempt ε β) :
    (ExceptT.lift (perform effect >>= g).run >>= f) =
      perform effect >>= fun answer => ExceptT.lift (g answer).run >>= f := rfl

/-! ### The parts of a visit's plan -/

section

variable {may : Effect → Prop} {now : Timestamp} {context : Context} {payload : Payload}

/-- Once its request is built, a submission goes on with the call. -/
theorem dispatchAndRecord_of_built {request : Request} (hb : payload.request context = .ok request)
    (target : Subscriber) :
    dispatchAndRecord now context payload target = (do
      let reply ← Attempt.perform (.call target.url request)
      let _ ← Attempt.require .counterparty (Counterparty.acknowledged reply)
      let recorded ← Attempt.perform (.record ⟨context.messageId, payload.exchange, now⟩)
      Attempt.require (fun _ => .storage .onWrite) recorded) := by
  rw [dispatchAndRecord, dispatch, hb, Attempt.require_ok_bind, Attempt.lift_perform_bind]
  refine congrArg (Attempt.perform (.call target.url request) >>= ·) (funext fun reply => ?_)
  cases Counterparty.acknowledged reply <;> rfl

theorem steady_dispatchAndRecord (hcall : ∀ base request, may (.call base request))
    (hrecord : may (.record ⟨context.messageId, payload.exchange, now⟩)) (target : Subscriber) :
    Plan.Steady may 2 (dispatchAndRecord now context payload target).run := by
  cases hb : payload.request context with
  | error failure =>
    rw [dispatchAndRecord, dispatch, hb]
    exact .done
  | ok request =>
    rw [dispatchAndRecord_of_built hb]
    refine Attempt.steady_perform_bind (hcall _ _) (fun reply hopen => absurd trivial hopen) ?_
    intro reply
    cases Counterparty.acknowledged reply with
    | error cause => exact .done
    | ok ack =>
      rw [Attempt.require_ok_bind]
      -- The write is the last effect, whatever its answer.
      refine Attempt.steady_perform_bind hrecord (fun recorded _ => ?_) fun recorded => ?_
      · cases recorded <;> exact ⟨_, rfl⟩
      · cases recorded <;> exact .done

theorem steady_pursue (hlookup : ∀ request, may (.lookup request))
    (hcall : ∀ base request, may (.call base request))
    (hrecord : may (.record ⟨context.messageId, payload.exchange, now⟩)) (lookup : Lookup)
    (missing : RegistryFailure) :
    Plan.Steady may 3 (pursue now context payload lookup missing).run := by
  rw [pursue, subscriber, bind_assoc]
  refine Attempt.steady_perform_bind (hlookup _) (fun found hopen => absurd trivial hopen) ?_
  intro found
  cases Found.first missing found with
  | error cause => exact .done
  | ok target =>
    rw [Attempt.require_ok_bind, ExceptT.run_bind]
    refine (steady_dispatchAndRecord hcall hrecord target).bind_of_pure fun recorded => ?_
    cases recorded <;> exact ⟨_, rfl⟩

theorem steady_submit (hlookup : ∀ request, may (.lookup request))
    (hcall : ∀ base request, may (.call base request))
    (hrecord : may (.record ⟨context.messageId, payload.exchange, now⟩)) (helper : Option String) :
    Plan.Steady may 3 (submit now context helper payload).run := by
  cases ha : Addressee.ofPayload context helper payload with
  | error cause =>
    rw [submit, ha]
    exact .done
  | ok a =>
    cases hl : a.lookup? with
    | none =>
      rw [submit, ha]
      cases a with
      | nobody => exact .done
      | _ => cases hl
    | some wanted =>
      rw [submit_of_lookup? now context helper payload ha hl]
      exact steady_pursue hlookup hcall hrecord wanted.1 wanted.2

theorem steady_receive {e : Exchange} {c : Callback e} (happend : may (.append e c)) :
    Plan.Steady may 1 (receive e c).run := by
  refine .use happend (fun stored _ => ?_) fun stored => ?_
  · cases stored <;> exact ⟨_, rfl⟩
  · cases stored <;> exact .done

/-- A poll goes on only when the id is known, and then it will be known for ever. -/
theorem steady_poll (defaults : ContextDefaults) (minted : Minted) {e : Exchange} {m : String}
    (hknown : may (.known m)) (harrived : may (.arrived e m)) :
    Plan.Steady may 2 (poll defaults minted e m).run := by
  refine .use hknown (fun known hopen => ?_) fun known => ?_
  · cases known with
    | error failure => exact ⟨_, rfl⟩
    | ok known =>
      cases known with
      | false => exact ⟨_, rfl⟩
      | true => exact absurd rfl hopen
  · cases known with
    | error failure => exact .done
    | ok known =>
      cases known with
      | false => exact .done
      | true =>
        refine .use harrived (fun arrived _ => ?_) fun arrived => ?_
        · cases arrived <;> exact ⟨_, rfl⟩
        · cases arrived <;> exact .done

end

/-! ### The plan of a visit -/

namespace Visit

/-- What a visit may do. Only a submission that can be read asks the registry, calls anyone, and
records the message id minted for it; a poll asks about its own id, in the store of its own
exchange; and a callback that can be read is stored with those of its exchange. -/
def May (v : Visit) : Effect → Prop
  | .lookup _ => ∃ e client, v.route? = some (.submit e) ∧ v.client? e = some client
  | .call _ _ => ∃ e client, v.route? = some (.submit e) ∧ v.client? e = some client
  | .record entry => entry.messageId = v.minted.messageId ∧
    ∃ e client, v.route? = some (.submit e) ∧ v.client? e = some client
  | .known m => v.polled? = some m ∧ ∃ e, v.route? = some (.poll e)
  | .append e c => v.route? = some (.callback e) ∧ v.callback? e = some c
  | .arrived e m => v.polled? = some m ∧ v.route? = some (.poll e)

def plan (defaults : ContextDefaults) (v : Visit) : Plan Web.Response :=
  (v.setting defaults).handle v.request

variable (defaults : ContextDefaults) (v : Visit)

theorem steady_handleRoute {r : Route} (h : v.route? = some r) :
    Plan.Steady v.May 3 ((v.setting defaults).handleRoute r v.request) := by
  cases r with
  | submit e =>
    rw [Setting.handleRoute, Setting.handleSubmit]
    cases hclient : v.client? e with
    | none =>
      rw [client?] at hclient
      simp only [hclient]
      exact .done
    | some client =>
      have hread : ∃ e client, v.route? = some (.submit e) ∧ v.client? e = some client :=
        ⟨e, client, h, hclient⟩
      have hid : (v.context defaults e client).messageId = v.minted.messageId :=
        messageId_context defaults
      have hsteady : Plan.Steady v.May 3 (submit v.minted.now (v.context defaults e client)
          client.helper client.payload).run :=
        steady_submit (fun _ => hread) (fun _ _ => hread) ⟨hid, hread⟩ client.helper
      rw [client?] at hclient
      simp only [hclient]
      refine hsteady.bind_of_pure fun result => ?_
      cases result <;> exact ⟨_, rfl⟩
  | poll e =>
    rw [Setting.handleRoute, Setting.handlePoll]
    cases hm : v.polled? with
    | none =>
      rw [polled?] at hm
      simp only [hm]
      exact .done
    | some m =>
      have hsteady : Plan.Steady v.May 2 (poll defaults v.minted e m).run :=
        steady_poll defaults v.minted ⟨hm, e, h⟩ ⟨hm, h⟩
      rw [polled?] at hm
      simp only [hm]
      refine (hsteady.mono (Nat.le_succ 2)).bind_of_pure fun result => ?_
      cases result <;> exact ⟨_, rfl⟩
  | callback e =>
    rw [Setting.handleRoute, Setting.handleCallback]
    cases hc : v.callback? e with
    | none =>
      rw [callback?] at hc
      simp only [hc]
      exact .done
    | some c =>
      have hsteady : Plan.Steady v.May 1 (receive e c).run := steady_receive ⟨h, hc⟩
      rw [callback?] at hc
      simp only [hc]
      refine (hsteady.mono (Nat.le_add_left 1 2)).bind_of_pure fun result => ?_
      cases result <;> exact ⟨_, rfl⟩

/-- The plan of every visit is steady, with three effects at most. -/
theorem steady_plan : Plan.Steady v.May 3 (v.plan defaults) := by
  rw [plan, Setting.handle]
  cases hpath : Route.ofPath? v.request.path with
  | none => exact .done
  | some r =>
    simp only
    split
    · rename_i hmethod
      have hroute : v.route? = some r := route?_eq_some_iff.2 ⟨hpath, hmethod⟩
      refine (steady_handleRoute defaults v hroute).bind_of_pure fun response => ?_
      split <;> exact ⟨_, rfl⟩
    · exact .done

/-- Whatever a visit does is among what it may do. -/
theorem may_of_mem (s : Stores) {effect : Effect} (h : effect ∈ (v.outcome defaults s).effects) :
    v.May effect :=
  (steady_plan defaults v).effects v.world s effect h

variable {v} {e : Exchange} {effect : Effect}

/-- What a visit may do goes with its route. -/
theorem May.by_route (h : v.May effect) :
    (∃ e, v.route? = some (.submit e) ∧ ((∃ request, effect = .lookup request) ∨
      (∃ base request, effect = .call base request) ∨
      ∃ entry, effect = .record entry ∧ entry.messageId = v.minted.messageId)) ∨
    (∃ e c, v.route? = some (.callback e) ∧ v.callback? e = some c ∧ effect = .append e c) ∨
    ∃ e m, v.route? = some (.poll e) ∧ v.polled? = some m ∧
      (effect = .known m ∨ effect = .arrived e m) := by
  cases effect with
  | lookup request =>
    obtain ⟨e, client, hroute, -⟩ := h
    exact .inl ⟨e, hroute, .inl ⟨request, rfl⟩⟩
  | call base request =>
    obtain ⟨e, client, hroute, -⟩ := h
    exact .inl ⟨e, hroute, .inr (.inl ⟨base, request, rfl⟩)⟩
  | record entry =>
    obtain ⟨hid, e, client, hroute, -⟩ := h
    exact .inl ⟨e, hroute, .inr (.inr ⟨entry, rfl, hid⟩)⟩
  | append e c =>
    obtain ⟨hroute, hc⟩ := h
    exact .inr (.inl ⟨e, c, hroute, hc, rfl⟩)
  | known m =>
    obtain ⟨hm, e, hroute⟩ := h
    exact .inr (.inr ⟨e, m, hroute, hm, .inl rfl⟩)
  | arrived e m =>
    obtain ⟨hm, hroute⟩ := h
    exact .inr (.inr ⟨e, m, hroute, hm, .inr rfl⟩)

theorem May.of_submit (h : v.May effect) (hroute : v.route? = some (.submit e)) :
    (∃ request, effect = .lookup request) ∨ (∃ base request, effect = .call base request) ∨
      ∃ entry, effect = .record entry ∧ entry.messageId = v.minted.messageId := by
  obtain ⟨e', -, heffect⟩ | ⟨e', c, hr, -⟩ | ⟨e', m, hr, -⟩ := h.by_route
  · exact heffect
  · cases hroute.symm.trans hr
  · cases hroute.symm.trans hr

theorem May.of_callback (h : v.May effect) (hroute : v.route? = some (.callback e)) :
    ∃ c, effect = .append e c ∧ v.callback? e = some c := by
  obtain ⟨e', hr, -⟩ | ⟨e', c, hr, hc, heffect⟩ | ⟨e', m, hr, -⟩ := h.by_route
  · cases hroute.symm.trans hr
  · cases hroute.symm.trans hr
    exact ⟨c, heffect, hc⟩
  · cases hroute.symm.trans hr

theorem May.of_poll (h : v.May effect) (hroute : v.route? = some (.poll e)) :
    ∃ m, v.polled? = some m ∧ (effect = .known m ∨ effect = .arrived e m) := by
  obtain ⟨e', hr, -⟩ | ⟨e', c, hr, -⟩ | ⟨e', m, hr, hm, heffect⟩ := h.by_route
  · cases hroute.symm.trans hr
  · cases hroute.symm.trans hr
  · cases hroute.symm.trans hr
    exact ⟨m, hm, heffect⟩

/-- Submissions that can be read are alone in calling counterparties and writing to the ledger. -/
theorem kinds_of_no_client (s : Stores)
    (h : ∀ e, v.route? = some (.submit e) → v.client? e = none) :
    ∀ effect ∈ (v.outcome defaults s).effects, effect.kind ≠ .record ∧ effect.kind ≠ .call := by
  have hunread : ¬ ∃ e client, v.route? = some (.submit e) ∧ v.client? e = some client := by
    rintro ⟨e, client, hroute, hclient⟩
    rw [h e hroute] at hclient
    cases hclient
  intro effect he
  have hmay := may_of_mem defaults v s he
  cases effect with
  | record entry => exact absurd hmay.2 hunread
  | call base request => exact absurd hmay hunread
  | _ => exact ⟨nofun, nofun⟩

/-- Callbacks that can be read are alone in being stored. -/
theorem kinds_of_no_callback (s : Stores)
    (h : ∀ e, v.route? = some (.callback e) → v.callback? e = none) :
    ∀ effect ∈ (v.outcome defaults s).effects, effect.kind ≠ .append := by
  intro effect he
  have hmay := may_of_mem defaults v s he
  cases effect with
  | append e c =>
    obtain ⟨hroute, hc⟩ := hmay
    rw [h e hroute] at hc
    cases hc
  | _ => exact nofun

end Visit

end BuyerGateway.Gateway
