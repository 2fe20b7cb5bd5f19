import BuyerGateway.Gateway.ClientRequest
import BuyerGateway.Gateway.Polling
import BuyerGateway.Gateway.Route
import BuyerGateway.Gateway.Submission
import BuyerGateway.Text.Blank
import BuyerGateway.Web.FormQuery
import BuyerGateway.Web.MediaType
import BuyerGateway.Web.Message
/-!
The gateway's answer to a request on one of its routes, as a plan. Submissions and callbacks are
answered by an acknowledgement, polls by what has arrived so far.
-/
namespace BuyerGateway.Gateway

/-- What is fresh for one request, and what all requests have in common. -/
structure Setting where
  defaults : ContextDefaults
  minted : Minted

namespace Setting

variable (setting : Setting)

def create (action : Action) (transactionId : Option String) : Context :=
  setting.defaults.create setting.minted action transactionId

def acceptance (context : Context) : Web.Response :=
  ⟨200, some (Acknowledgement.shape.encode (.accept context))⟩

def refusal (context : Context) (r : Refusal) : Web.Response :=
  ⟨r.status, some (Acknowledgement.shape.encode (.refuse context r.error))⟩

/-- The refusal of a body that cannot be read. -/
def rejection (action : Action) : Web.Response :=
  refusal (setting.create action none) ValidationFailure.malformedBody.refusal

/-- The most bytes that a body may have: two mebibytes. A longer body is not read at all. -/
def bodyLimit : Nat := 2097152

/-- The body, if its header says that it is JSON and it is not too long. -/
def jsonBody? (request : Web.Request) : Option (List UInt8) :=
  if request.contentType.any MediaType.isJson ∧ request.body.length ≤ bodyLimit then
    some request.body
  else none

def submitContext (e : Exchange) (client : ClientRequest) : Context :=
  let context := setting.create (.request e) client.context.transactionId
  match e with
  | .track => { context with bppId := client.context.bppId }
  | _ => context

def handleSubmit (e : Exchange) (request : Web.Request) : Plan Web.Response :=
  match (jsonBody? request).bind (ClientRequest.ofBody? e) with
  | none => .done (setting.rejection (.request e))
  | some client => do
    let context := setting.submitContext e client
    match ← (submit setting.minted.now context client.helper client.payload).run with
    | .ok _ => return acceptance context
    | .error failure => return refusal context failure.refusal

def handleCallback (e : Exchange) (request : Web.Request) : Plan Web.Response :=
  match (jsonBody? request).bind (Callback.shape e).ofBytes? with
  | none => .done (setting.rejection (.callback e))
  | some callback => do
    match ← (receive e callback).run with
    | .ok _ => return acceptance callback.context
    | .error failure => return refusal callback.context failure.refusal

/-- A poll without an answer has an error and no message. -/
def pollRefusal (e : Exchange) (context : Context) (r : Refusal) : Web.Response :=
  ⟨r.status, some ((PollAnswer.shape e).encode ⟨context, none, some r.error⟩)⟩

def handlePoll (e : Exchange) (request : Web.Request) : Plan Web.Response :=
  match (FormQuery.unique? "messageId" request.query).bind Text.nonBlank? with
  | none =>
    .done (pollRefusal e (setting.create (.callback e) none)
      ValidationFailure.messageIdNotPresent.refusal)
  | some messageId => do
    match ← (poll setting.defaults setting.minted e messageId).run with
    | .ok answer => return ⟨200, some ((PollAnswer.shape e).encode answer)⟩
    | .error failure =>
      return pollRefusal e
        (setting.defaults.withMessageId setting.minted (.callback e) messageId) failure.refusal

def handleRoute (route : Route) (request : Web.Request) : Plan Web.Response :=
  match route with
  | .submit e => setting.handleSubmit e request
  | .poll e => setting.handlePoll e request
  | .callback e => setting.handleCallback e request

/-- An unknown path and a method that its route does not allow have answers without a body, and so
has every answer to `HEAD`. -/
def handle (request : Web.Request) : Plan Web.Response :=
  match Route.ofPath? request.path with
  | none => .done ⟨404, none⟩
  | some route =>
    if route.allows request.method then do
      let response ← setting.handleRoute route request
      return if request.method = "HEAD" then { response with body := none } else response
    else
      .done ⟨405, none⟩

end Setting

end BuyerGateway.Gateway
