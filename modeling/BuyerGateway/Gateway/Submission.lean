import BuyerGateway.Counterparty
import BuyerGateway.Gateway.Plan
/-!
Submissions. A submission is checked, its counterparty looked up, its request built and sent, and
the message id recorded, in this order; it stops at the first stage that fails. Nothing is recorded
that no counterparty has acknowledged.
-/
namespace BuyerGateway.Gateway

/-- Whom a payload is for. -/
inductive Addressee where
  /-- An empty selection is for nobody; it is accepted and goes no further. -/
  | nobody
  | bpp (id : String)
  | gateway (domain country city : String)
  deriving DecidableEq, Repr

namespace Addressee

def ofSelection : Selection → Addressee
  | .empty => nobody
  | .single bppId _ => bpp bppId

/-- A counterparty that must be named, and not by a blank. -/
def named (bppId : Option String) : Except ValidationFailure Addressee :=
  match bppId.bind Text.nonBlank? with
  | some id => .ok (bpp id)
  | none => .error .bppIdNotPresent

/-- A search without a counterparty goes to the gateway of its place. A track is for the
counterparty that its context names, and a support request for the one that is asked for help. -/
def ofPayload (context : Context) (helper : Option String) :
    Payload → Except ValidationFailure Addressee
  | .search criteria =>
    match criteria.bppId.bind Text.nonBlank? with
    | some id => .ok (bpp id)
    | none => .ok (gateway context.domain context.country context.city)
  | .select items => (Selection.ofItems items).map ofSelection
  | .init order => (Selection.ofItems order.items).map ofSelection
  | .confirm order => (Selection.ofItems order.items).map ofSelection
  | .track _ _ => named context.bppId
  | .support _ => named helper

end Addressee

/-- Sends a request to a counterparty, and gives its acknowledgement. -/
def dispatch (base : String) (context : Context) (payload : Payload) :
    Attempt CounterpartyFailure Acknowledgement := do
  let request ← Attempt.require (fun _ => .internal) (payload.request context)
  let reply ← Attempt.perform (.call base request)
  Attempt.require id (Counterparty.acknowledged reply)

/-- The first subscriber that a lookup finds. -/
def subscriber (lookup : Lookup) (first : Found → Except RegistryFailure Subscriber) :
    Attempt SubmitFailure Subscriber := do
  let found ← Attempt.perform (.lookup lookup)
  Attempt.require .registry (first found)

def dispatchAndRecord (now : Timestamp) (context : Context) (payload : Payload) (s : Subscriber) :
    Attempt SubmitFailure LedgerEntry := do
  let outcome ← ExceptT.lift (dispatch s.url context payload).run
  let _ ← Attempt.require .counterparty outcome
  let recorded ← Attempt.perform (.record ⟨context.messageId, payload.exchange, now⟩)
  Attempt.require (fun _ => .storage .onWrite) recorded

/-- Submits a payload. There is no entry when it is for nobody. -/
def submit (now : Timestamp) (context : Context) (helper : Option String) (payload : Payload) :
    Attempt SubmitFailure (Option LedgerEntry) := do
  match ← Attempt.require .validation (Addressee.ofPayload context helper payload) with
  | .nobody => return none
  | .bpp id =>
    let s ← subscriber (.bpp id) Found.firstBpp
    return some (← dispatchAndRecord now context payload s)
  | .gateway domain country city =>
    let s ← subscriber (.gateways domain country city) Found.firstGateway
    return some (← dispatchAndRecord now context payload s)

end BuyerGateway.Gateway
