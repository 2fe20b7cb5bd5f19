import BuyerGateway.Callback
/-!
The answer to a poll: the callbacks that have arrived under one message id, folded into one. A
search is answered by many and collects their catalogs; in every other exchange the first callback
alone is authoritative. The first error of any callback is shown.
-/
namespace BuyerGateway

structure SearchAggregate where
  catalogs : List ClientCatalog
  deriving DecidableEq

def SearchAggregate.shape : Shape SearchAggregate :=
  .plain (.required "catalogs" (.list ClientCatalog.shape) .done) (fun a => (a.catalogs, ()))
    (fun (catalogs, _) => ⟨catalogs⟩)

namespace Exchange

/-- Whether several counterparties answer one request. -/
def isBroadcast : Exchange → Bool
  | search => true
  | _ => false

abbrev Aggregate : Exchange → Type
  | search => SearchAggregate
  | select => SelectAnswer
  | init => InitAnswer
  | confirm => ConfirmAnswer
  | track => TrackAnswer
  | support => SupportAnswer

def aggregateShape : (e : Exchange) → Shape e.Aggregate
  | search => SearchAggregate.shape
  | select => SelectAnswer.shape
  | init => InitAnswer.shape
  | confirm => ConfirmAnswer.shape
  | track => TrackAnswer.shape
  | support => SupportAnswer.shape

instance : (e : Exchange) → DecidableEq e.Aggregate
  | search => inferInstanceAs (DecidableEq SearchAggregate)
  | select => inferInstanceAs (DecidableEq SelectAnswer)
  | init => inferInstanceAs (DecidableEq InitAnswer)
  | confirm => inferInstanceAs (DecidableEq ConfirmAnswer)
  | track => inferInstanceAs (DecidableEq TrackAnswer)
  | support => inferInstanceAs (DecidableEq SupportAnswer)

end Exchange

/-- The catalog of a callback, with the counterparty that its context names. -/
def ClientCatalog.ofCallback? (c : Callback .search) : Option ClientCatalog :=
  c.message.map fun answer => ⟨c.context.bppId, c.context.bppUri, answer.catalog⟩

namespace Callback

def firstMessage? {e : Exchange} (cs : List (Callback e)) : Option e.Answer :=
  cs.head?.bind (·.message)

def fold : (e : Exchange) → List (Callback e) → Option e.Aggregate
  | .search, cs => some ⟨cs.filterMap ClientCatalog.ofCallback?⟩
  | .select, cs => firstMessage? cs
  | .init, cs => firstMessage? cs
  | .confirm, cs => firstMessage? cs
  | .track, cs => firstMessage? cs
  | .support, cs => firstMessage? cs

end Callback

structure PollAnswer (e : Exchange) where
  context : Context
  message : Option e.Aggregate
  error : Option ProtocolError
  deriving DecidableEq

namespace PollAnswer

def shape (e : Exchange) : Shape (PollAnswer e) :=
  .plain
    (.required "context" Context.shape <| .optional "message" e.aggregateShape <|
      .optional "error" ProtocolError.shape .done)
    (fun a => (a.context, a.message, a.error, ()))
    (fun (context, message, error, _) => ⟨context, message, error⟩)

/-- The context of a callback as clients see it: under the action of the exchange, and naming no
counterparty where there may be several. -/
def contextOf {e : Exchange} (c : Callback e) : Context :=
  if e.isBroadcast then
    { c.context with action := .callback e, bppId := none, bppUri := none }
  else
    { c.context with action := .callback e }

/-- The answer for a message id. Before any callback has arrived its context is minted. -/
def ofCallbacks (defaults : ContextDefaults) (minted : Minted) (e : Exchange) (messageId : String)
    (cs : List (Callback e)) : PollAnswer e where
  context := match cs with
    | c :: _ => contextOf c
    | [] => defaults.withMessageId minted (.callback e) messageId
  message := Callback.fold e cs
  error := cs.findSome? (·.error)

end PollAnswer

end BuyerGateway
