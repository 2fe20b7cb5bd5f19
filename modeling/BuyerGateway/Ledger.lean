import BuyerGateway.Context
import BuyerGateway.Failure
/-!
The ledger of messages: proof that a message id was submitted and acknowledged. The first entry of
an id stands for ever. While the ledger is offline every call fails and changes nothing.
-/
namespace BuyerGateway

structure LedgerEntry where
  messageId : String
  exchange : Exchange
  createdAt : Timestamp
  deriving DecidableEq

def LedgerEntry.shape : Shape LedgerEntry :=
  .plain
    (.required "message_id" .text <| .required "message_type" Exchange.titleShape <|
      .required "created_at" .moment .done)
    (fun e => (e.messageId, e.exchange, e.createdAt, ()))
    (fun (messageId, exchange, createdAt, _) => ⟨messageId, exchange, createdAt⟩)

/-- The entries stand in the order in which they were recorded, one for each id. -/
structure Ledger where
  entries : List LedgerEntry
  offline : Bool
  distinct : (entries.map (·.messageId)).Nodup
  deriving DecidableEq

namespace Ledger

def empty : Ledger := ⟨[], false, .nil⟩

instance : Inhabited Ledger := ⟨empty⟩

def offlineFailure : BackendFailure := ⟨"Message ledger offline"⟩

/-- The entry of an id, whether or not the ledger is offline. -/
def held? (l : Ledger) (messageId : String) : Option LedgerEntry :=
  l.entries.find? (·.messageId == messageId)

def insert (l : Ledger) (e : LedgerEntry) (h : l.held? e.messageId = none) : Ledger where
  entries := l.entries ++ [e]
  offline := l.offline
  distinct := by
    rw [List.map_append, List.nodup_append]
    refine ⟨l.distinct, by simp, fun a ha b hb hab => ?_⟩
    obtain ⟨x, hx, rfl⟩ := List.mem_map.1 ha
    have hn := List.find?_eq_none.1 h x hx
    simp_all

/-- The entry that is in the ledger from now on, which is the first of its id. -/
def record (l : Ledger) (e : LedgerEntry) : Except BackendFailure LedgerEntry × Ledger :=
  if l.offline then (.error offlineFailure, l)
  else match h : l.held? e.messageId with
    | some first => (.ok first, l)
    | none => (.ok e, l.insert e h)

def find (l : Ledger) (messageId : String) : Except BackendFailure (Option LedgerEntry) :=
  if l.offline then .error offlineFailure else .ok (l.held? messageId)

def contains (l : Ledger) (messageId : String) : Except BackendFailure Bool :=
  (l.find messageId).map Option.isSome

def size (l : Ledger) : Nat := l.entries.length

def isEmpty (l : Ledger) : Bool := l.entries.isEmpty

def toggleOffline (l : Ledger) : Ledger := { l with offline := !l.offline }

end Ledger

end BuyerGateway
