import BuyerGateway.Proofs.RegistryReplies
import Mathlib.Algebra.Ring.Parity
/-!
A directory in use, with lookups and with switches between being online and offline in any order. It
keeps its subscribers and remembers every lookup, and what it answers depends on nothing else of its
history but on whether it is online.
-/
namespace BuyerGateway

namespace Lookup

/-! ### Whom a lookup describes -/

theorem placeMatches_iff {wanted actual : Option String} :
    placeMatches wanted actual = true ↔ ∀ w a, wanted = some w → actual = some a → a = w := by
  cases wanted with
  | none => exact ⟨fun _ => nofun, fun _ => rfl⟩
  | some w =>
    rw [placeMatches_some_iff]
    constructor
    · intro h w' a hw ha
      cases hw
      exact h a ha
    · intro h a ha
      exact h w a rfl ha

/-- The id and the role are open where the lookup leaves them out, and each part of the place also
where the subscriber does. -/
structure Describes (l : Lookup) (s : Subscriber) : Prop where
  id : ∀ wanted, l.id = some wanted → s.id = wanted
  role : ∀ wanted, l.role = some wanted → s.role = wanted
  domain : ∀ wanted actual, l.domain = some wanted → s.domain = some actual → actual = wanted
  country : ∀ wanted actual, l.country = some wanted → s.country = some actual → actual = wanted
  city : ∀ wanted actual, l.city = some wanted → s.city = some actual → actual = wanted

theorem accepts_iff {l : Lookup} {s : Subscriber} : l.accepts s = true ↔ l.Describes s := by
  have hnamed {α : Type} [DecidableEq α] (wanted : Option α) (actual : α) :
      wanted.all (· == actual) = true ↔ ∀ w, wanted = some w → actual = w := by
    cases wanted with
    | none =>
      refine iff_of_true rfl ?_
      intro w hw
      cases hw
    | some w =>
      rw [Option.all_some, beq_iff_eq]
      constructor
      · rintro rfl w' hw
        exact Option.some.inj hw
      · intro h
        exact (h w rfl).symm
  simp only [accepts, Bool.and_eq_true, hnamed, placeMatches_iff]
  constructor
  · rintro ⟨⟨⟨⟨hid, hrole⟩, hdomain⟩, hcountry⟩, hcity⟩
    exact ⟨hid, hrole, hdomain, hcountry, hcity⟩
  · rintro ⟨hid, hrole, hdomain, hcountry, hcity⟩
    exact ⟨⟨⟨⟨hid, hrole⟩, hdomain⟩, hcountry⟩, hcity⟩

instance (l : Lookup) : DecidablePred l.Describes := fun _ => decidable_of_iff _ accepts_iff

theorem filter_accepts (l : Lookup) (subscribers : List Subscriber) :
    subscribers.filter l.accepts = subscribers.filter fun s => l.Describes s :=
  List.filter_congr fun _ _ => Bool.eq_iff_iff.2 (accepts_iff.trans decide_eq_true_iff.symm)

/-- Some filters of a lookup are removed, and the others are as they were. -/
structure Relaxes (l' l : Lookup) : Prop where
  id : l'.id = none ∨ l'.id = l.id
  role : l'.role = none ∨ l'.role = l.role
  domain : l'.domain = none ∨ l'.domain = l.domain
  country : l'.country = none ∨ l'.country = l.country
  city : l'.city = none ∨ l'.city = l.city

theorem Describes.of_relaxes {l l' : Lookup} {s : Subscriber} (hs : l.Describes s)
    (h : l'.Relaxes l) : l'.Describes s := by
  -- A filter that is still set was set before.
  have was {α : Type} {o' o : Option α} {wanted : α} (hkept : o' = none ∨ o' = o)
      (hset : o' = some wanted) : o = some wanted := by
    rcases hkept with hnone | rfl
    · rw [hnone] at hset
      cases hset
    · exact hset
  constructor
  · intro wanted hset
    exact hs.id wanted (was h.id hset)
  · intro wanted hset
    exact hs.role wanted (was h.role hset)
  · intro wanted actual hset
    exact hs.domain wanted actual (was h.domain hset)
  · intro wanted actual hset
    exact hs.country wanted actual (was h.country hset)
  · intro wanted actual hset
    exact hs.city wanted actual (was h.city hset)

end Lookup

namespace Directory

/-! ### Answers -/

/-- The answers of a registry that has these subscribers. -/
structure Answers (subscribers : List Subscriber) (find : Lookup → Found) : Prop where
  finds : ∀ l, find l = .ok (subscribers.filter fun s => l.Describes s)
  widens : ∀ l l', l'.Relaxes l →
    ∃ few many, find l = .ok few ∧ find l' = .ok many ∧ few.Sublist many
  bpp : ∀ id s, (find (.bpp id)).firstBpp = .ok s ↔
    FirstIn subscribers (fun t => t.role = .bpp ∧ t.id = id) s
  noBpp : ∀ id cause, (find (.bpp id)).firstBpp = .error cause ↔
    cause = .noBppFound ∧ ∀ s ∈ subscribers, ¬ (s.role = .bpp ∧ s.id = id)
  gateway : ∀ domain country city s, (find (.gateways domain country city)).firstGateway = .ok s ↔
    FirstIn subscribers (fun t => t.role = .bg ∧ (∀ d, t.domain = some d → d = domain) ∧
      (∀ c, t.country = some c → c = country) ∧ ∀ c, t.city = some c → c = city) s
  noGateway : ∀ domain country city cause,
    (find (.gateways domain country city)).firstGateway = .error cause ↔
      cause = .noGatewayFound ∧ ∀ s ∈ subscribers,
        ¬ (s.role = .bg ∧ (∀ d, s.domain = some d → d = domain) ∧
          (∀ c, s.country = some c → c = country) ∧ ∀ c, s.city = some c → c = city)
  apart : ∀ id domain country city s,
    ((find (.bpp id)).firstBpp = .ok s → s.role ≠ .bg) ∧
      ((find (.gateways domain country city)).firstGateway = .ok s → s.role ≠ .bpp)

theorem answers_of_online {d : Directory} (h : d.offline = false) :
    Answers d.subscribers fun l => (d.lookup l).1 := by
  have hfound (l : Lookup) : (d.lookup l).1 = .ok (d.subscribers.filter l.accepts) := by
    rw [lookup, found, h]
    rfl
  have hfirst {l : Lookup} {missing : RegistryFailure} {p : Subscriber → Prop} {s : Subscriber}
      (hp : ∀ t, l.accepts t = true ↔ p t) :
      (d.lookup l).1.first missing = .ok s ↔ FirstIn d.subscribers p s := by
    rw [hfound, Found.first_filter_eq_ok_iff]
    exact ⟨fun hf => hf.congr hp, fun hf => hf.congr fun t => (hp t).symm⟩
  have hmissed {l : Lookup} {missing cause : RegistryFailure} {p : Subscriber → Prop}
      (hp : ∀ t, l.accepts t = true ↔ p t) :
      (d.lookup l).1.first missing = .error cause ↔
        cause = missing ∧ ∀ s ∈ d.subscribers, ¬ p s := by
    have hfine : (d.lookup l).1 ≠ .error cause := by
      rw [hfound]
      intro h
      cases h
    rw [Found.first_eq_error_iff, or_iff_right hfine, hfound, Except.ok.injEq,
      List.filter_eq_nil_iff, and_comm]
    simp only [hp]
  constructor
  · intro l
    exact (hfound l).trans (congrArg Except.ok (l.filter_accepts d.subscribers))
  · intro l l' hrelaxes
    refine ⟨_, _, hfound l, hfound l', ?_⟩
    apply List.monotone_filter_right
    intro s hs
    exact Lookup.accepts_iff.2 ((Lookup.accepts_iff.1 hs).of_relaxes hrelaxes)
  · intro id s
    exact hfirst fun t => Lookup.accepts_bpp_iff
  · intro id cause
    exact hmissed fun t => Lookup.accepts_bpp_iff
  · intro domain country city s
    exact hfirst fun t => Lookup.accepts_gateways_iff
  · intro domain country city cause
    exact hmissed fun t => Lookup.accepts_gateways_iff
  · intro id domain country city s
    constructor
    · intro hs
      obtain ⟨-, -, -, ⟨hrole, -⟩, -⟩ := (hfirst fun t => Lookup.accepts_bpp_iff).1 hs
      rw [hrole]
      decide
    · intro hs
      obtain ⟨-, -, -, ⟨hrole, -⟩, -⟩ := (hfirst fun t => Lookup.accepts_gateways_iff).1 hs
      rw [hrole]
      decide

theorem fails_of_offline {d : Directory} (h : d.offline = true) (l : Lookup) :
    (d.lookup l).1 = .error .internal := by
  rw [lookup, found, h]
  rfl

/-! ### Histories -/

/-- What is done with a directory: a lookup is made, be it as such or for the first of a kind, or it
goes offline or back online. -/
inductive Use where
  | find (l : Lookup)
  | bpp (id : String)
  | gateway (domain country city : String)
  | toggle
  deriving DecidableEq

def Use.lookup? : Use → Option Lookup
  | find l => some l
  | bpp id => some (.bpp id)
  | gateway domain country city => some (.gateways domain country city)
  | toggle => none

def step (d : Directory) (u : Use) : Directory :=
  match u.lookup? with
  | some l => (d.lookup l).2
  | none => d.toggleOffline

def after (d : Directory) (uses : List Use) : Directory := uses.foldl step d

@[simp]
theorem step_subscribers (d : Directory) (u : Use) : (d.step u).subscribers = d.subscribers := by
  cases u <;> rfl

theorem step_lookups (d : Directory) (u : Use) :
    (d.step u).lookups = d.lookups ++ u.lookup?.toList := by
  cases u with
  | toggle => exact (List.append_nil _).symm
  | _ => rfl

theorem step_offline (d : Directory) (u : Use) :
    (d.step u).offline = if u = .toggle then !d.offline else d.offline := by
  cases u <;> rfl

/-- What became of a directory by what was done with it. -/
structure Became (d : Directory) (uses : List Use) (d' : Directory) : Prop where
  subscribers : d'.subscribers = d.subscribers
  lookups : d'.lookups = d.lookups ++ uses.filterMap Use.lookup?
  offline : d'.offline ≠ d.offline ↔ Odd (uses.count .toggle)

theorem Became.of_step {d d' : Directory} {u : Use} {uses : List Use}
    (h : Became (d.step u) uses d') : Became d (u :: uses) d' where
  subscribers := h.subscribers.trans (d.step_subscribers u)
  lookups := by
    rw [h.lookups, step_lookups, List.append_assoc, List.filterMap_cons]
    cases u.lookup? <;> rfl
  offline := by
    have hrest := h.offline
    rw [step_offline] at hrest
    by_cases hu : u = .toggle
    · -- Two switches undo each other.
      subst hu
      rw [List.count_cons_self, Nat.odd_add_one, ← hrest, if_pos rfl, not_not, Bool.eq_not]
    · rw [List.count_cons_of_ne hu, ← hrest, if_neg hu]

theorem became_after (d : Directory) (uses : List Use) : Became d uses (d.after uses) := by
  induction uses generalizing d with
  | nil => exact ⟨rfl, (List.append_nil _).symm, iff_of_false (absurd rfl) (by decide)⟩
  | cons u uses ih => exact .of_step (ih (d.step u))

/-- A directory answers by its subscribers and by whether it is online, whatever was done with it
before. While it is offline every lookup fails, and is remembered all the same. -/
theorem directory_answers_by_its_subscribers (subscribers : List Subscriber) (uses : List Use) :
    let d := ({ subscribers } : Directory).after uses
    d.subscribers = subscribers ∧ d.lookups = uses.filterMap Use.lookup? ∧
    (d.offline = true ↔ Odd (uses.count .toggle)) ∧
    (d.offline = false → Answers subscribers fun l => (d.lookup l).1) ∧
    (d.offline = true → ∀ l, (d.lookup l).1 = .error .internal ∧
      (d.lookup l).1.firstBpp = .error .internal ∧
      (d.lookup l).1.firstGateway = .error .internal) := by
  intro d
  obtain ⟨hsubscribers, hlookups, hoffline⟩ := became_after { subscribers } uses
  refine ⟨hsubscribers, hlookups, ?_, ?_, ?_⟩
  · exact Bool.ne_false_iff.symm.trans hoffline
  · intro honline
    have hanswers : Answers d.subscribers fun l => (d.lookup l).1 := answers_of_online honline
    rwa [hsubscribers] at hanswers
  · intro hoffline l
    rw [fails_of_offline hoffline l]
    exact ⟨rfl, rfl, rfl⟩

/-- A gateway in another city, the one of the city `y`, and a counterparty. -/
def gatewaysOfTwoCities : List Subscriber :=
  [⟨"g", "https://g", .bg, none, none, some "z"⟩, ⟨"h", "https://h", .bg, some "d", none, some "y"⟩,
    ⟨"b", "https://b", .bpp, none, none, none⟩]

/-- After an outage, during which a lookup failed, the gateway of the city is found, and a
counterparty under its id is not. -/
theorem found_again_after_an_outage :
    let d := ({ subscribers := gatewaysOfTwoCities } : Directory).after [.toggle, .bpp "h", .toggle]
    d.lookups = [.bpp "h"] ∧
      (d.lookup (.gateways "d" "c" "y")).1.firstGateway =
        .ok ⟨"h", "https://h", .bg, some "d", none, some "y"⟩ ∧
      (d.lookup (.bpp "h")).1.firstBpp = .error .noBppFound := by
  intro d
  obtain ⟨-, hlookups, -, honline, -⟩ :=
    directory_answers_by_its_subscribers gatewaysOfTwoCities [.toggle, .bpp "h", .toggle]
  have answers := honline (by decide)
  refine ⟨hlookups, (answers.gateway "d" "c" "y" _).2 ?_, (answers.noBpp "h" _).2 ⟨rfl, ?_⟩⟩
  · exact ⟨[_], [_], rfl, by simp, by simp⟩
  · simp [gatewaysOfTwoCities]

end Directory

end BuyerGateway
