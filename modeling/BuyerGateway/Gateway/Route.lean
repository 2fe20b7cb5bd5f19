import BuyerGateway.Exchange
/-!
The routes of the gateway: three for each exchange. Clients submit and poll under the names of the
client interface, counterparties post callbacks under the names of the protocol.
-/
namespace BuyerGateway.Gateway

inductive Route where
  | submit (exchange : Exchange)
  | poll (exchange : Exchange)
  | callback (exchange : Exchange)
  deriving DecidableEq, Repr

namespace Route

def all : List Route :=
  Exchange.all.map submit ++ Exchange.all.map poll ++ Exchange.all.map callback

def path : Route → String
  | submit .search => "/client/v1/search"
  | submit .select => "/client/v1/get_quote"
  | submit .init => "/client/v1/initialize_order"
  | submit .confirm => "/client/v1/confirm_order"
  | submit .track => "/client/v1/track"
  | submit .support => "/client/v1/get_support"
  | poll .search => "/client/v1/on_search"
  | poll .select => "/client/v1/on_get_quote"
  | poll .init => "/client/v1/on_initialize_order"
  | poll .confirm => "/client/v1/on_confirm_order"
  | poll .track => "/client/v1/on_track"
  | poll .support => "/client/v1/on_support"
  | callback .search => "/protocol/v1/on_search"
  | callback .select => "/protocol/v1/on_select"
  | callback .init => "/protocol/v1/on_init"
  | callback .confirm => "/protocol/v1/on_confirm"
  | callback .track => "/protocol/v1/on_track"
  | callback .support => "/protocol/v1/on_support"

/-- Whether a route answers a method. A poll answers `HEAD` too. -/
def allows (r : Route) (method : String) : Bool :=
  match r with
  | submit .select => method == "PUT"
  | submit _ => method == "POST"
  | poll _ => method == "GET" || method == "HEAD"
  | callback _ => method == "POST"

def ofPath? (path : String) : Option Route := all.find? (·.path == path)

theorem ofPath?_path (r : Route) : ofPath? r.path = some r := by
  cases r <;> rename_i e <;> cases e <;> rfl

end Route

end BuyerGateway.Gateway
