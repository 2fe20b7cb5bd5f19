import BuyerGateway.Config
import BuyerGateway.Exchange
import BuyerGateway.Shape.Basic
import BuyerGateway.Text.Blank
/-!
The context that travels with every message. Its message id correlates the halves of an exchange: a
callback belongs to the request whose context carries the same id.
-/
namespace BuyerGateway

def Exchange.titleShape : Shape Exchange :=
  .choice Exchange.title Exchange.all fun e => by cases e <;> rfl

def Action.shape : Shape Action :=
  .choice Action.name Action.all fun a => by cases a <;> rename_i e <;> cases e <;> rfl

structure Context where
  domain : String
  country : String
  city : String
  action : Action
  coreVersion : String
  bapId : String
  bapUri : String
  bppId : Option String
  bppUri : Option String
  transactionId : String
  messageId : String
  timestamp : Timestamp
  deriving DecidableEq

def Context.shape : Shape Context :=
  .plain
    (.required "domain" .text <| .required "country" .text <| .required "city" .text <|
      .required "action" Action.shape <| .required "core_version" .text <|
      .required "bap_id" .text <| .required "bap_uri" .text <| .optional "bpp_id" .text <|
      .optional "bpp_uri" .text <| .required "transaction_id" .text <|
      .required "message_id" .text <| .required "timestamp" .moment .done)
    (fun c => (c.domain, c.country, c.city, c.action, c.coreVersion, c.bapId, c.bapUri, c.bppId,
      c.bppUri, c.transactionId, c.messageId, c.timestamp, ()))
    (fun (domain, country, city, action, coreVersion, bapId, bapUri, bppId, bppUri, transactionId,
      messageId, timestamp, _) => ⟨domain, country, city, action, coreVersion, bapId, bapUri, bppId,
      bppUri, transactionId, messageId, timestamp⟩)

/-- Fresh identifiers and the time, as the surroundings of one request supply them. -/
structure Minted where
  transactionId : String
  messageId : String
  now : Timestamp
  deriving DecidableEq

namespace ContextDefaults

def context (d : ContextDefaults) (action : Action) (transactionId messageId : String)
    (timestamp : Timestamp) : Context where
  domain := d.domain
  country := d.country
  city := d.city
  action := action
  coreVersion := d.coreVersion
  bapId := d.bapId
  bapUri := d.bapUri
  bppId := none
  bppUri := none
  transactionId := transactionId
  messageId := messageId
  timestamp := timestamp

/-- A context with a fresh message id. A transaction id that is blank counts as absent, and an
absent one is minted. -/
def create (d : ContextDefaults) (minted : Minted) (action : Action)
    (transactionId : Option String) : Context :=
  d.context action ((transactionId.bind Text.nonBlank?).getD minted.transactionId)
    minted.messageId minted.now

/-- A context for a message id that is known already. -/
def withMessageId (d : ContextDefaults) (minted : Minted) (action : Action)
    (messageId : String) : Context :=
  d.context action minted.transactionId messageId minted.now

end ContextDefaults

end BuyerGateway
