import BuyerGateway.Failure
import BuyerGateway.Shape.Basic
/-!
The registry of the network: who takes part in it, in which role, and where each is reached. A
lookup names what is wanted of a subscriber; what it leaves out is open.
-/
namespace BuyerGateway

inductive SubscriberRole where
  | bap
  | bpp
  | bg
  deriving DecidableEq, Repr

namespace SubscriberRole

def name : SubscriberRole → String
  | bap => "BAP"
  | bpp => "BPP"
  | bg => "BG"

def shape : Shape SubscriberRole := .choice name [bap, bpp, bg] fun r => by cases r <;> rfl

end SubscriberRole

structure Subscriber where
  id : String
  url : String
  role : SubscriberRole
  domain : Option String
  country : Option String
  city : Option String
  deriving DecidableEq

def Subscriber.shape : Shape Subscriber :=
  .plain
    (.required "subscriber_id" .text <| .required "subscriber_url" .text <|
      .required "type" SubscriberRole.shape <| .optional "domain" .text <|
      .optional "country" .text <| .optional "city" .text .done)
    (fun s => (s.id, s.url, s.role, s.domain, s.country, s.city, ()))
    (fun (id, url, role, domain, country, city, _) => ⟨id, url, role, domain, country, city⟩)

structure Lookup where
  id : Option String := none
  role : Option SubscriberRole := none
  domain : Option String := none
  country : Option String := none
  city : Option String := none
  deriving DecidableEq

namespace Lookup

def shape : Shape Lookup :=
  .plain
    (.optional "subscriber_id" .text <| .optional "type" SubscriberRole.shape <|
      .optional "domain" .text <| .optional "country" .text <| .optional "city" .text .done)
    (fun l => (l.id, l.role, l.domain, l.country, l.city, ()))
    (fun (id, role, domain, country, city, _) => ⟨id, role, domain, country, city⟩)

def bpp (id : String) : Lookup := { id := some id, role := some .bpp }

def gateways (domain country city : String) : Lookup :=
  { role := some .bg, domain := some domain, country := some country, city := some city }

end Lookup

/-- The outcome of a lookup. -/
abbrev Found : Type := Except RegistryFailure (List Subscriber)

namespace Found

/-- The first subscriber found; there is a failure of its own for a lookup that found none. -/
def first (missing : RegistryFailure) : Found → Except RegistryFailure Subscriber
  | .error failure => .error failure
  | .ok [] => .error missing
  | .ok (s :: _) => .ok s

def firstBpp : Found → Except RegistryFailure Subscriber := first .noBppFound

def firstGateway : Found → Except RegistryFailure Subscriber := first .noGatewayFound

end Found

end BuyerGateway
