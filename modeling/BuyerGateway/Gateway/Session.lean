import BuyerGateway.Gateway.Stores
import BuyerGateway.Registry.Directory
import BuyerGateway.Registry.Remote
/-!
A running gateway: what it remembers, the registry it asks, and how its counterparties answer at
present. Plans run in it one after the other.
-/
namespace BuyerGateway.Gateway

/-- The registry of a session: its own directory, or one on the network with its present reply. -/
inductive RegistrySource where
  | directory
  | remote (reply : Reply)
  deriving DecidableEq, Repr

structure Session where
  stores : Stores
  directory : Directory
  source : RegistrySource
  /-- The present reply of every counterparty. -/
  network : Reply

namespace Session

def start (subscribers : List Subscriber) (network : Reply) : Session where
  stores := .empty
  directory := { subscribers }
  source := .directory
  network := network

def world (s : Session) : World where
  registry := match s.source with
    | .directory => s.directory.found
    | .remote reply => fun _ => Remote.found reply
  network := fun _ _ => s.network

/-- The lookups among some effects. -/
def lookupsOf (effects : List Effect) : List Lookup :=
  effects.filterMap fun
    | .lookup request => some request
    | _ => none

/-- The outbound calls among some effects. -/
def callsOf (effects : List Effect) : List (String × Request) :=
  effects.filterMap fun
    | .call base request => some (base, request)
    | _ => none

/-- Runs a plan in the session. The directory remembers the lookups that it was asked for. -/
def run {α : Type} (s : Session) (plan : Plan α) : α × List Effect × Session :=
  let outcome := plan.run s.world s.stores
  let asked := match s.source with
    | .directory => lookupsOf outcome.effects
    | .remote _ => []
  let directory := asked.foldl (fun d l => (d.lookup l).2) s.directory
  (outcome.result, outcome.effects, { s with stores := outcome.stores, directory })

def toggleLedger (s : Session) : Session :=
  { s with stores := { s.stores with ledger := s.stores.ledger.toggleOffline } }

def toggleCallbacks (s : Session) (e : Exchange) : Session :=
  { s with stores := s.stores.setCallbacks e (s.stores.callbacks e).toggleOffline }

def toggleDirectory (s : Session) : Session := { s with directory := s.directory.toggleOffline }

end Session

end BuyerGateway.Gateway
