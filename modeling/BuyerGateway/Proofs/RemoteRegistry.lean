import BuyerGateway.Proofs.Destinations
import BuyerGateway.Proofs.WireFormats
/-!
A registry on the network in the place of a directory. If the server behind it reads the lookups
that are posted to it and answers them out of a directory, a lookup finds over the network what it
finds in the directory itself.
-/
namespace BuyerGateway

/-! ### Lookups as they are posted -/

/-- The filters that a lookup sets, each under its key. -/
def Lookup.filters (l : Lookup) : List (String × Json) :=
  [("subscriber_id", l.id), ("type", l.role.map SubscriberRole.name), ("domain", l.domain),
    ("country", l.country), ("city", l.city)].filterMap fun filter =>
      filter.2.map fun value => (filter.1, .text value)

namespace Lookup

theorem encode_eq_filters (l : Lookup) : shape.encode l = .object l.filters := by
  -- Every filter is written by itself, so it only matters which of them are set.
  obtain ⟨id, role, domain, country, city⟩ := l
  cases id <;> cases role <;> cases domain <;> cases country <;> cases city <;> rfl

/-- What is posted is read as the lookup that was made. -/
theorem ofBytes?_toBytes (l : Lookup) : shape.ofBytes? (shape.toBytes l) = some l :=
  Shape.ofBytes?_toBytes WireFormat.lookup.sound WireFormat.lookup.height_le
    (shape.legible_of_verbatim (by decide +kernel) l)

theorem read?_toBytes (l : Lookup) : Json.read? (shape.toBytes l) = some (.object l.filters) := by
  have hlegible : Json.Legible (shape.encode l) :=
    shape.legible_encode l (shape.legible_of_verbatim (by decide +kernel) l)
  rw [← encode_eq_filters]
  exact Json.parse?_render hlegible

end Lookup

/-! ### Servers -/

theorem Found.first_eq_missing_iff {missing : RegistryFailure} {subscribers : List Subscriber} :
    first missing (.ok subscribers) = .error missing ↔ subscribers = [] := by
  cases subscribers with
  | nil => exact ⟨fun _ => rfl, fun _ => rfl⟩
  | cons s subscribers => exact ⟨nofun, nofun⟩

namespace Remote

/-- At the address stands a server that reads a lookup from what is posted to it, and answers with
success and with the list that the directory finds for it. -/
def Serves (server : Server) (address : String) (d : Directory) : Prop :=
  ∀ body l subscribers, Lookup.shape.ofBytes? body = some l →
    (d.lookup l).1 = .ok subscribers →
    ∃ status, isSuccess status = true ∧
      server address body = .answer status ((Shape.list Subscriber.shape).toBytes subscribers)

/-- A list of subscribers is read as itself where a list or nothing at all may be given,
the empty list too. -/
theorem ofBytes?_subscribers (subscribers : List Subscriber) :
    (Shape.nullable (.list Subscriber.shape)).ofBytes?
      ((Shape.list Subscriber.shape).toBytes subscribers) = some (some subscribers) := by
  have hsound : (Shape.nullable (.list Subscriber.shape)).sound = true := by decide +kernel
  have hheight : (Shape.nullable (.list Subscriber.shape)).height ≤ Shape.roomOfText := by
    decide +kernel
  have hlegible : (Shape.nullable (.list Subscriber.shape)).Legible (some subscribers) :=
    Shape.legible_of_verbatim _ (by decide +kernel) _
  -- A list that is there is written without a mark of its own.
  exact Shape.ofBytes?_toBytes hsound hheight hlegible

theorem found_answer {status : Nat} (h : isSuccess status = true) (subscribers : List Subscriber) :
    found (.answer status ((Shape.list Subscriber.shape).toBytes subscribers)) =
      .ok subscribers := by
  rw [found, if_pos h, ofBytes?_subscribers]

theorem lookup_of_serves {server : Server} {base : String} {subscribers : List Subscriber}
    (h : Serves server (lookupUrl base) { subscribers }) (l : Lookup) :
    lookup server base l = (({ subscribers } : Directory).lookup l).1 := by
  have hdirectory : (({ subscribers } : Directory).lookup l).1 =
      .ok (subscribers.filter l.accepts) := rfl
  obtain ⟨status, hstatus, hreply⟩ := h _ l _ l.ofBytes?_toBytes hdirectory
  calc
    lookup server base l = found (server (lookupUrl base) (Lookup.shape.toBytes l)) := rfl
    _ = found (.answer status
          ((Shape.list Subscriber.shape).toBytes (subscribers.filter l.accepts))) :=
      congrArg found hreply
    _ = .ok (subscribers.filter l.accepts) := found_answer hstatus _
    _ = (({ subscribers } : Directory).lookup l).1 := hdirectory.symm

/-- A registry on the network whose server answers out of a directory
is that directory to whoever asks. For what is posted is an object of
the filters that are set, and it is read as the very lookup. -/
theorem remote_agrees_with_directory (server : Server) (base : String)
    (subscribers : List Subscriber)
    (h : Serves server (lookupUrl base) { subscribers }) :
    let directory : Directory := { subscribers }
    (∀ l, lookup server base l = (directory.lookup l).1) ∧
    (∀ id, (lookup server base (.bpp id)).firstBpp = (directory.lookup (.bpp id)).1.firstBpp ∧
      ((lookup server base (.bpp id)).firstBpp = .error .noBppFound ↔
        ∀ s ∈ subscribers, ¬ (s.role = .bpp ∧ s.id = id))) ∧
    (∀ domain country city,
      (lookup server base (.gateways domain country city)).firstGateway =
        (directory.lookup (.gateways domain country city)).1.firstGateway ∧
      ((lookup server base (.gateways domain country city)).firstGateway = .error .noGatewayFound ↔
        ∀ s ∈ subscribers, ¬ (s.role = .bg ∧ (∀ d, s.domain = some d → d = domain) ∧
          (∀ c, s.country = some c → c = country) ∧ ∀ c, s.city = some c → c = city))) ∧
    ∀ l, Json.read? (Lookup.shape.toBytes l) = some (.object l.filters) ∧
      Lookup.shape.ofBytes? (Lookup.shape.toBytes l) = some l := by
  intro directory
  have hlookup (l : Lookup) : lookup server base l = (directory.lookup l).1 := lookup_of_serves h l
  have hfound (l : Lookup) : lookup server base l = .ok (subscribers.filter l.accepts) := hlookup l
  -- Nothing is found exactly where the lookup accepts no subscriber of the list.
  have hmiss (l : Lookup) (missing : RegistryFailure) :
      (lookup server base l).first missing = .error missing ↔
        ∀ s ∈ subscribers, ¬ l.accepts s = true := by
    rw [hfound, Found.first_eq_missing_iff, List.filter_eq_nil_iff]
  refine ⟨hlookup, ?_, ?_, ?_⟩
  · intro id
    refine ⟨by rw [hlookup], ?_⟩
    rw [Found.firstBpp, hmiss]
    simp only [Lookup.accepts_bpp_iff]
  · intro domain country city
    refine ⟨by rw [hlookup], ?_⟩
    rw [Found.firstGateway, hmiss]
    simp only [Lookup.accepts_gateways_iff]
  · intro l
    exact ⟨l.read?_toBytes, l.ofBytes?_toBytes⟩

/-! ### A server for a directory -/

/-- Answers lookups out of a directory. What is no lookup is refused, and so is every lookup while
the directory fails. -/
def serverOf (d : Directory) : Server := fun _ body =>
  match Lookup.shape.ofBytes? body with
  | none => .answer 400 []
  | some l =>
    match (d.lookup l).1 with
    | .ok subscribers => .answer 200 ((Shape.list Subscriber.shape).toBytes subscribers)
    | .error _ => .answer 500 []

theorem serves_serverOf (address : String) (d : Directory) : Serves (serverOf d) address d := by
  intro body l subscribers hbody hfound
  refine ⟨200, rfl, ?_⟩
  rw [serverOf, hbody]
  simp only [hfound]

/-- A counterparty that is listed twice, under different addresses. -/
def listedTwice : List Subscriber :=
  [⟨"b", "https://b", .bpp, none, none, none⟩, ⟨"b", "https://b2", .bpp, some "d", none, none⟩]

/-- Of a counterparty that is listed twice the first is found over the network; there is no
other, and no gateway. -/
theorem remote_finds_first :
    let server := serverOf { subscribers := listedTwice }
    let find := lookup server "https://registry//"
    Serves server (lookupUrl "https://registry//") { subscribers := listedTwice } ∧
      (find (.bpp "b")).firstBpp = .ok ⟨"b", "https://b", .bpp, none, none, none⟩ ∧
      (find (.bpp "c")).firstBpp = .error .noBppFound ∧
      (find (.gateways "d" "c" "y")).firstGateway = .error .noGatewayFound := by
  intro server find
  have hserves := serves_serverOf (lookupUrl "https://registry//")
    { subscribers := listedTwice }
  obtain ⟨-, hbpp, hgateway, -⟩ := remote_agrees_with_directory server
    "https://registry//" listedTwice hserves
  refine ⟨hserves, ?_, ?_, ?_⟩
  · exact (hbpp "b").1.trans (by decide +kernel)
  · exact (hbpp "c").2.2 (by decide +kernel)
  · exact (hgateway "d" "c" "y").2.2 (by decide +kernel)

end Remote

end BuyerGateway
