import BuyerGateway.Proofs.Footprint
/-!
Visits one after the other. A transcript has every visit with what came of it, and it accounts for
all that the gateway remembers: the ledger by the entries that its visits wrote, the callbacks of an
exchange by those it accepted on that exchange's route.
-/
namespace BuyerGateway.Gateway

namespace Visit

/-- The callback of an exchange that a visit posts on the route of this exchange. -/
def posted? (v : Visit) (e : Exchange) : Option (Callback e) :=
  if v.route? = some (.callback e) then v.callback? e else none

theorem posted?_of_callback {v : Visit} {e : Exchange} {c : Callback e}
    (h : v.route? = some (.callback e)) (hb : v.callback? e = some c) (e' : Exchange) :
    v.posted? e' = if he : e = e' then some (he ▸ c) else none := by
  rw [posted?, h]
  by_cases he : e = e'
  · subst he
    simp [hb]
  · simp [he]

/-- A visit brings to a store what it posts on its route, whether or not the store takes it. -/
theorem callbacksOf_effects (defaults : ContextDefaults) (s : Stores) (v : Visit) (e : Exchange) :
    callbacksOf e (v.outcome defaults s).effects = (v.posted? e).toList := by
  by_cases hr : ∃ e' c, v.route? = some (.callback e') ∧ v.callback? e' = some c
  · obtain ⟨e', c, hr, hb⟩ := hr
    rw [outcome_of_callback defaults s hr hb, posted?_of_callback hr hb]
    by_cases he : e' = e
    · subst he
      simp [callbacksOf]
    · -- The callback of another exchange is stored elsewhere.
      simp [callbacksOf, he]
  · have hnone := callback?_eq_none hr
    have hposted : v.posted? e = none := by
      rw [posted?]
      split
      · rename_i hroute
        exact hnone e hroute
      · rfl
    rw [callbacksOf_eq_nil (kinds_of_no_callback defaults s hnone), hposted]
    rfl

end Visit

/-- A visit and what came of it. -/
structure Visited where
  visit : Visit
  outcome : Outcome Web.Response

/-- The callback of an exchange that a visit brought, if it was accepted. -/
def Visited.accepted? (e : Exchange) (x : Visited) : Option (Callback e) :=
  if x.visit.route? = some (.callback e) ∧ x.outcome.result.status = 200 then x.visit.callback? e
  else none

def transcript (defaults : ContextDefaults) : Stores → List Visit → List Visited
  | _, [] => []
  | s, v :: vs => ⟨v, v.outcome defaults s⟩ :: transcript defaults (v.outcome defaults s).stores vs

/-- What is remembered after some visits. -/
def after (defaults : ContextDefaults) (s : Stores) (visits : List Visit) : Stores :=
  visits.foldl (fun s v => (v.outcome defaults s).stores) s

/-- The callbacks of an exchange that were accepted in the course of a transcript, in order. -/
def accepted (e : Exchange) (xs : List Visited) : List (Callback e) :=
  xs.filterMap (Visited.accepted? e)

section

variable (defaults : ContextDefaults) (s : Stores) (vs ws : List Visit) (v : Visit)

@[simp] theorem transcript_nil : transcript defaults s [] = [] := rfl

@[simp] theorem transcript_cons :
    transcript defaults s (v :: vs) =
      ⟨v, v.outcome defaults s⟩ :: transcript defaults (v.outcome defaults s).stores vs := rfl

@[simp] theorem after_nil : after defaults s [] = s := rfl

@[simp] theorem after_cons :
    after defaults s (v :: vs) = after defaults (v.outcome defaults s).stores vs := rfl

theorem after_append :
    after defaults s (vs ++ ws) = after defaults (after defaults s vs) ws := List.foldl_append ..

theorem transcript_append :
    transcript defaults s (vs ++ ws) =
      transcript defaults s vs ++ transcript defaults (after defaults s vs) ws := by
  induction vs generalizing s with
  | nil => rfl
  | cons v vs ih => rw [List.cons_append, transcript_cons, ih, transcript_cons, after_cons]; rfl

theorem accepted_append (e : Exchange) (xs ys : List Visited) :
    accepted e (xs ++ ys) = accepted e xs ++ accepted e ys := List.filterMap_append

/-- The visits of a transcript are those it was made of. -/
theorem map_visit_transcript : (transcript defaults s vs).map Visited.visit = vs := by
  induction vs generalizing s with
  | nil => rfl
  | cons v vs ih => rw [transcript_cons, List.map_cons, ih]

/-- Every visit of a transcript had its outcome with what was remembered when it came. -/
theorem exists_of_mem_transcript {s : Stores} {vs : List Visit} {x : Visited}
    (h : x ∈ transcript defaults s vs) :
    x.visit ∈ vs ∧ ∃ early later, vs = early ++ x.visit :: later ∧
      x.outcome = x.visit.outcome defaults (after defaults s early) := by
  induction vs generalizing s with
  | nil => exact absurd h List.not_mem_nil
  | cons v vs ih =>
    rw [transcript_cons, List.mem_cons] at h
    rcases h with rfl | h
    · exact ⟨List.mem_cons_self, [], vs, rfl, rfl⟩
    · obtain ⟨hmem, early, later, hvs, hout⟩ := ih h
      refine ⟨List.mem_cons_of_mem _ hmem, v :: early, later, ?_, hout⟩
      rw [List.cons_append, ← hvs]

/-! ### What a transcript accounts for -/

variable {s}

theorem online_outcome (h : s.Online) : (v.outcome defaults s).stores.Online :=
  Plan.run_online _ _ h

theorem online_after (h : s.Online) : (after defaults s vs).Online := by
  induction vs generalizing s with
  | nil => exact h
  | cons v vs ih => exact ih (online_outcome defaults v h)

/-- Stores that are online accept whatever is posted on its route. -/
theorem accepted?_eq_posted? (h : s.Online) (e : Exchange) :
    Visited.accepted? e ⟨v, v.outcome defaults s⟩ = v.posted? e := by
  rw [Visited.accepted?, Visit.posted?]
  by_cases hr : v.route? = some (.callback e)
  · cases hb : v.callback? e with
    | none => simp
    | some c =>
      have h200 : (v.outcome defaults s).result.status = 200 := by
        rw [Visit.outcome_of_callback defaults s hr hb,
          CallbackStore.append_of_online (h.callbacks e) c]
        rfl
      rw [if_pos ⟨hr, h200⟩, if_pos hr]
  · rw [if_neg fun hc => hr hc.1, if_neg hr]

/-- A visit stores a callback exactly when it brought one that was accepted. -/
theorem callbacksOf_outcome (h : s.Online) (e : Exchange) :
    callbacksOf e (v.outcome defaults s).effects =
      (Visited.accepted? e ⟨v, v.outcome defaults s⟩).toList := by
  rw [Visit.callbacksOf_effects, accepted?_eq_posted? defaults v h]

/-- The ledger after some visits has taken all their writes, one after the other. -/
theorem ledger_after (s : Stores) :
    (after defaults s vs).ledger =
      s.ledger.recordAll ((transcript defaults s vs).flatMap (entriesOf ·.outcome.effects)) := by
  induction vs generalizing s with
  | nil => rfl
  | cons v vs ih =>
    have hv : (v.outcome defaults s).stores.ledger =
        s.ledger.recordAll (entriesOf (v.outcome defaults s).effects) := Plan.run_ledger _ _ s
    rw [after_cons, ih, hv, transcript_cons, List.flatMap_cons, Ledger.recordAll_append]

theorem entries_prefix_after (s : Stores) :
    s.ledger.entries <+: (after defaults s vs).ledger.entries := by
  rw [ledger_after]
  exact Ledger.entries_prefix_recordAll ..

/-- An id that is held once is held ever after. -/
theorem held_after {s : Stores} {m : String} (h : (s.ledger.held? m).isSome) :
    ((after defaults s vs).ledger.held? m).isSome :=
  Ledger.held_of_prefix (entries_prefix_after defaults vs s) h

/-- The callbacks stored after some visits are those before them and those they accepted. -/
theorem records_after (h : s.Online) (e : Exchange) :
    ((after defaults s vs).callbacks e).records =
      (s.callbacks e).records ++ accepted e (transcript defaults s vs) := by
  induction vs generalizing s with
  | nil => exact (List.append_nil _).symm
  | cons v vs ih =>
    have hv : ((v.outcome defaults s).stores.callbacks e).records =
        (s.callbacks e).records ++ callbacksOf e (v.outcome defaults s).effects :=
      Plan.run_records _ _ h e
    rw [after_cons, ih (online_outcome defaults v h), hv, callbacksOf_outcome defaults v h,
      List.append_assoc, transcript_cons]
    congr 1
    rw [accepted, accepted, List.filterMap_cons]
    cases Visited.accepted? e ⟨v, v.outcome defaults s⟩ <;> rfl

end

/-! ### A short history -/

namespace Sample

/-- A search for anything, under the message id `m`. -/
def search : Visit where
  request := ⟨"POST", "/client/v1/search", some "application/json",
    "\x7b\"message\":\x7b\"criteria\":\x7b\x7d\x7d\x7d".toUTF8.toList⟩
  minted := ⟨"t", "m", noon⟩
  world := world

/-- An empty catalog for the search, from the counterparty `b`. -/
def onSearch : Visit where
  request := ⟨"POST", "/protocol/v1/on_search", some "application/json",
    ("[[\"d\",\"c\",\"y\",\"on_search\",\"v\",\"i\",\"u\",\"b\",null,\"t\",\"m\"," ++
      "\"2024-01-02T12:00:01Z\"],[[]]]").toUTF8.toList⟩
  minted := ⟨"t1", "m1", noon⟩
  world := world

def poll : Visit where
  request := ⟨"GET", "/client/v1/on_search?messageId=m", none, []⟩
  minted := ⟨"t2", "m2", noon⟩
  world := world

example : (transcript defaults .empty [poll, onSearch, search, poll]).map
    (·.outcome.result.status) = [404, 200, 200, 200] := by
  decide +kernel

end Sample

end BuyerGateway.Gateway
