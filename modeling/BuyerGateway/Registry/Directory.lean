import BuyerGateway.Registry.Basic
/-!
A registry over a fixed list of subscribers. It remembers every lookup, those that failed included,
and fails all of them while it is offline.
-/
namespace BuyerGateway

namespace Lookup

/-- A place that either side leaves out matches; an id or a role only where the lookup does. -/
def placeMatches (wanted actual : Option String) : Bool :=
  match wanted, actual with
  | some w, some a => w == a
  | _, _ => true

def accepts (l : Lookup) (s : Subscriber) : Bool :=
  l.id.all (· == s.id) && l.role.all (· == s.role) && placeMatches l.domain s.domain &&
    placeMatches l.country s.country && placeMatches l.city s.city

end Lookup

structure Directory where
  subscribers : List Subscriber
  lookups : List Lookup := []
  offline : Bool := false
  deriving DecidableEq

namespace Directory

/-- What a lookup finds at present. -/
def found (d : Directory) (l : Lookup) : Found :=
  if d.offline then .error .internal else .ok (d.subscribers.filter l.accepts)

def lookup (d : Directory) (l : Lookup) : Found × Directory :=
  (d.found l, { d with lookups := d.lookups ++ [l] })

def toggleOffline (d : Directory) : Directory := { d with offline := !d.offline }

end Directory

end BuyerGateway
