import BuyerGateway.Proofs.Destinations
import BuyerGateway.Proofs.Growth
/-!
What of the callbacks goes into the answer to a poll. Three rules stand side by side: the first
error of any callback counts, the first callback alone gives the context and the message of an
exchange with one answer, and a search has a catalog for every callback with a message, under that
callback's own counterparty.
-/
namespace BuyerGateway

/-- The catalog of this callback, under the counterparty that the callback's context names. -/
structure ClientCatalog.From (c : Callback .search) (shown : ClientCatalog) : Prop where
  bppId : shown.bppId = c.context.bppId
  bppUri : shown.bppUri = c.context.bppUri
  catalog : c.message.map (·.catalog) = some shown.catalog

namespace Callback

theorem findSome?_error_iff {e : Exchange} {cs : List (Callback e)} {x : ProtocolError} :
    cs.findSome? (·.error) = some x ↔
      ∃ c, FirstIn cs (·.error.isSome = true) c ∧ c.error = some x := by
  rw [List.findSome?_eq_some_iff]
  constructor
  · intro h
    obtain ⟨earlier, c, later, hcs, hx, hnone⟩ := h
    -- The search passed over the callbacks in front, so these have no error.
    have hsome : c.error.isSome = true := Option.isSome_iff_exists.2 ⟨x, hx⟩
    refine ⟨c, ⟨earlier, later, hcs, hsome, ?_⟩, hx⟩
    intro b hb
    show ¬ b.error.isSome = true
    rw [hnone b hb]
    exact Bool.false_ne_true
  · intro h
    obtain ⟨c, ⟨earlier, later, hcs, -, hno⟩, hx⟩ := h
    refine ⟨earlier, c, later, hcs, hx, ?_⟩
    intro b hb
    exact Option.not_isSome_iff_eq_none.1 (hno b hb)

/-- The catalogs of a search stand for the callbacks that have a message, one for
one and in order. -/
theorem forall₂_filterMap_ofCallback? (cs : List (Callback .search)) :
    List.Forall₂ ClientCatalog.From (cs.filter (·.message.isSome))
      (cs.filterMap ClientCatalog.ofCallback?) := by
  induction cs with
  | nil => exact .nil
  | cons c cs ih =>
    -- Either both lists take the callback up, or both leave it out.
    cases hm : c.message with
    | none =>
      have hc : ClientCatalog.ofCallback? c = none := by rw [ClientCatalog.ofCallback?, hm]; rfl
      rw [List.filterMap_cons_none hc, List.filter_cons_of_neg (by simp [hm])]
      exact ih
    | some answer =>
      have hc : ClientCatalog.ofCallback? c =
          some ⟨c.context.bppId, c.context.bppUri, answer.catalog⟩ := by
        rw [ClientCatalog.ofCallback?, hm]; rfl
      rw [List.filterMap_cons_some hc, List.filter_cons_of_pos (by simp [hm])]
      exact .cons ⟨rfl, rfl, by rw [hm]; rfl⟩ ih

end Callback

namespace PollAnswer

/-- The message in the answer of an exchange with one answer. -/
def answer? : {e : Exchange} → PollAnswer e → Option e.Answer
  | .search, _ => none
  | .select, answer => answer.message
  | .init, answer => answer.message
  | .confirm, answer => answer.message
  | .track, answer => answer.message
  | .support, answer => answer.message

section

variable (defaults : ContextDefaults) (minted minted' : Minted) (m : String)

theorem answer?_ofCallbacks {e : Exchange} (he : e ≠ .search) (cs : List (Callback e)) :
    (ofCallbacks defaults minted e m cs).answer? = Callback.firstMessage? cs := by
  cases e with
  | search => exact absurd rfl he
  | select => rfl
  | init => rfl
  | confirm => rfl
  | track => rfl
  | support => rfl

theorem context_ofCallbacks_cons {e : Exchange} (c : Callback e) (cs : List (Callback e)) :
    (ofCallbacks defaults minted e m (c :: cs)).context =
      { c.context with
        action := .callback e
        bppId := if e = .search then none else c.context.bppId
        bppUri := if e = .search then none else c.context.bppUri } := by
  cases e <;> rfl

end

/-- The answer to a poll has the first error among the callbacks that have arrived, and the context
of the first. A search has one catalog for every callback with a message, in order; any other
exchange has the message of the first callback, and what arrives later changes nothing. -/
theorem poll_answer_folds (defaults : ContextDefaults) (minted minted' : Minted) (m : String) :
    (∀ (e : Exchange) (cs : List (Callback e)),
      let answer := ofCallbacks defaults minted e m cs
      (∀ x, answer.error = some x ↔
        ∃ c, FirstIn cs (·.error.isSome = true) c ∧ c.error = some x) ∧
      (answer.error = none ↔ ∀ c ∈ cs, c.error = none)) ∧
    (∀ e : Exchange,
      (ofCallbacks defaults minted e m []).context =
        ⟨defaults.domain, defaults.country, defaults.city, .callback e, defaults.coreVersion,
          defaults.bapId, defaults.bapUri, none, none, minted.transactionId, m, minted.now⟩ ∧
      ∀ (c : Callback e) (cs : List (Callback e)),
        (ofCallbacks defaults minted e m (c :: cs)).context =
          { c.context with
            action := .callback e
            bppId := if e = .search then none else c.context.bppId
            bppUri := if e = .search then none else c.context.bppUri }) ∧
    (∀ cs : List (Callback .search),
      ∃ shown, (ofCallbacks defaults minted .search m cs).message = some ⟨shown⟩ ∧
        List.Forall₂ ClientCatalog.From (cs.filter (·.message.isSome)) shown ∧
        ∀ cs₁ cs₂, cs = cs₁ ++ cs₂ → ∃ shown₁ shown₂, shown = shown₁ ++ shown₂ ∧
          (ofCallbacks defaults minted' .search m cs₁).message = some ⟨shown₁⟩ ∧
          (ofCallbacks defaults minted' .search m cs₂).message = some ⟨shown₂⟩) ∧
    ∀ e : Exchange, e ≠ .search →
      (ofCallbacks defaults minted e m []).answer? = none ∧
      (∀ (c : Callback e) (cs : List (Callback e)),
        (ofCallbacks defaults minted e m (c :: cs)).answer? = c.message) ∧
      ∀ cs₁ cs₂ : List (Callback e), cs₁ ≠ [] →
        (ofCallbacks defaults minted' e m (cs₁ ++ cs₂)).message =
          (ofCallbacks defaults minted e m cs₁).message ∧
        (ofCallbacks defaults minted' e m (cs₁ ++ cs₂)).context =
          (ofCallbacks defaults minted e m cs₁).context := by
  refine ⟨?_, ?_, ?_, ?_⟩
  · intro e cs answer
    exact ⟨fun x => Callback.findSome?_error_iff, List.findSome?_eq_none_iff⟩
  · intro e
    exact ⟨rfl, context_ofCallbacks_cons defaults minted m⟩
  · intro cs
    refine ⟨cs.filterMap ClientCatalog.ofCallback?, rfl,
      Callback.forall₂_filterMap_ofCallback? cs, ?_⟩
    intro cs₁ cs₂ hcs
    refine ⟨_, _, ?_, rfl, rfl⟩
    rw [hcs, List.filterMap_append]
  · intro e he
    refine ⟨answer?_ofCallbacks defaults minted m he [], ?_, ?_⟩
    · intro c cs
      exact answer?_ofCallbacks defaults minted m he (c :: cs)
    · intro cs₁ cs₂ hne
      -- What arrives later is behind the first callback, which alone is looked at.
      have hkeeps := keeps_ofCallbacks defaults minted minted' m cs₁ cs₂
      exact ⟨hkeeps.message hne he, hkeeps.context hne⟩

/-- A callback from this counterparty, with nothing else of its own but its
message and its error. -/
def sampleCallback {e : Exchange} (bppId : String) (message : Option e.Answer)
    (error : Option ProtocolError) : Callback e where
  context := ⟨"d", "c", "y", .callback e, "v", "i", "u", some bppId, none, "t", "m",
    Gateway.Sample.noon⟩
  message := message
  error := error

/-- A refusal first, then a catalog, then a catalog along with another refusal: the first refusal
counts, and the catalogs are those of the second and the third. And the message of a first callback
that has none is still missing when another has come. -/
theorem mixed_callbacks_fold :
    let poll := fun {e : Exchange} (cs : List (Callback e)) =>
      ofCallbacks Gateway.Sample.defaults Gateway.Sample.poll.minted e "m" cs
    let refusal : Callback .search := sampleCallback "a" none (some ⟨"1", "no"⟩)
    let late : List (Callback .search) := [sampleCallback "b" (some (⟨{}⟩ : SearchAnswer)) none,
      sampleCallback "c" (some (⟨{}⟩ : SearchAnswer)) (some ⟨"2", "gone"⟩)]
    let silent : Callback .support := sampleCallback "a" none none
    let told : Callback .support := sampleCallback "b" (some ({} : SupportAnswer)) none
    (poll (refusal :: late)).error = some ⟨"1", "no"⟩ ∧
      (∃ shown, (poll (refusal :: late)).message = some ⟨shown⟩ ∧
        List.Forall₂ ClientCatalog.From late shown) ∧
      (poll [silent, told]).answer? = none := by
  intro poll refusal late silent told
  obtain ⟨herror, -, hsearch, hfirst⟩ := poll_answer_folds Gateway.Sample.defaults
    Gateway.Sample.poll.minted Gateway.Sample.poll.minted "m"
  refine ⟨?_, ?_, ?_⟩
  · apply ((herror .search _).1 _).2
    have hnone : ∀ b ∈ ([] : List (Callback .search)), ¬ b.error.isSome = true :=
      fun b hb => absurd hb List.not_mem_nil
    exact ⟨refusal, ⟨[], late, rfl, rfl, hnone⟩, rfl⟩
  · obtain ⟨shown, hshown, hcatalogs, -⟩ := hsearch (refusal :: late)
    exact ⟨shown, hshown, hcatalogs⟩
  · exact (hfirst .support (by decide)).2.1 silent [told]

end PollAnswer

end BuyerGateway
