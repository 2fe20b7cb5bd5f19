import BuyerGateway.Registry.Basic
import BuyerGateway.Reply
import BuyerGateway.Shape.Text
/-!
A registry on the network: a lookup is posted to it, and its reply read.
-/
namespace BuyerGateway.Remote

/-- Slashes at the end of the base do not count. -/
def lookupUrl (base : String) : String :=
  String.ofList (base.toList.reverse.dropWhile (· == '/')).reverse ++ "/lookup"

/-- A list counts only in a successful reply, and only if each of its elements can be read. -/
def found : Reply → Found
  | .answer status body =>
    if isSuccess status then
      match (Shape.nullable (.list Subscriber.shape)).ofBytes? body with
      | some (some subscribers) => .ok subscribers
      | _ => .error .nullResponse
    else
      .error .internal
  | .unreachable _ => .error .internal
  | .timeout => .error .internal

/-- Posts a lookup to the registry at a base, and reads the reply. -/
def lookup (server : Server) (base : String) (l : Lookup) : Found :=
  found (server (lookupUrl base) (Lookup.shape.toBytes l))

end BuyerGateway.Remote
