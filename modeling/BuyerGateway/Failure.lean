import BuyerGateway.Exchange
/-!
The catalog of failures. Each family says what went wrong; `refusal` gives the row of the catalog a
client sees, that is the status of the answer with the code and the text of the error in its body.
-/
namespace BuyerGateway

/-- The error object of an answer. -/
structure ProtocolError where
  code : String
  message : String
  deriving DecidableEq, Repr

structure Refusal where
  status : Nat
  error : ProtocolError
  deriving DecidableEq, Repr

/-- Why a counterparty's answer is no acknowledgement. -/
inductive CounterpartyFailure where
  | internal
  | nullResponse
  | nack
  deriving DecidableEq, Repr

def CounterpartyFailure.refusal : CounterpartyFailure → Refusal
  | internal => ⟨500, "BAP_011", "BPP returned error"⟩
  | nullResponse => ⟨500, "BAP_012", "BPP returned null"⟩
  | nack => ⟨500, "BAP_013", "BPP returned nack"⟩

/-- Why a client's request is refused before anyone else is asked. -/
inductive ValidationFailure where
  | multipleProviders
  | multipleBpps
  | bppIdNotPresent
  | malformedBody
  | messageIdNotPresent
  deriving DecidableEq, Repr

def ValidationFailure.refusal : ValidationFailure → Refusal
  | multipleProviders =>
    ⟨400, "BAP_010", "More than one Provider's item(s) selected/initialized"⟩
  | multipleBpps => ⟨400, "BAP_014", "More than one BPP's item(s) selected/initialized"⟩
  | bppIdNotPresent => ⟨400, "BAP_015", "BPP Id is mandatory"⟩
  | malformedBody => ⟨422, "BAP_017", "Request body could not be read"⟩
  | messageIdNotPresent => ⟨400, "BAP_018", "Message Id is mandatory"⟩

inductive StorageFailure where
  | onRead
  | onWrite
  deriving DecidableEq, Repr

def StorageFailure.refusal : StorageFailure → Refusal
  | onWrite => ⟨500, "BAP_006", "Error when writing to DB"⟩
  | onRead => ⟨500, "BAP_007", "Error when reading from DB"⟩

inductive RegistryFailure where
  | internal
  | noGatewayFound
  | nullResponse
  | noBppFound
  deriving DecidableEq, Repr

def RegistryFailure.refusal : RegistryFailure → Refusal
  | internal => ⟨500, "BAP_001", "Registry lookup returned error"⟩
  | noGatewayFound => ⟨500, "BAP_002", "Registry lookup did not return any gateways"⟩
  | nullResponse => ⟨500, "BAP_003", "Registry lookup returned null"⟩
  | noBppFound => ⟨500, "BAP_004", "Registry lookup did not return any BPPs"⟩

/-- Why a submission failed, by the stage that failed. -/
inductive SubmitFailure where
  | validation (cause : ValidationFailure)
  | registry (cause : RegistryFailure)
  | counterparty (cause : CounterpartyFailure)
  | storage (cause : StorageFailure)
  deriving DecidableEq, Repr

def SubmitFailure.refusal : SubmitFailure → Refusal
  | validation cause => cause.refusal
  | registry cause => cause.refusal
  | counterparty cause => cause.refusal
  | storage cause => cause.refusal

/-- Why a poll has no answer. -/
inductive PollFailure where
  | notFound (messageId : String)
  | storage (cause : StorageFailure)
  deriving DecidableEq, Repr

def PollFailure.refusal : PollFailure → Refusal
  | notFound _ => ⟨404, "BAP_016", "No message with the given ID"⟩
  | storage cause => cause.refusal

/-- Why no request can be built from a submission. -/
inductive BuildFailure where
  | noItems
  | missingProviderLocation (provider : String)
  | missingPayment
  | actionMismatch (expected actual : Action)
  deriving DecidableEq, Repr

def BuildFailure.message : BuildFailure → String
  | noItems => "no items to order"
  | missingProviderLocation provider => "provider " ++ provider ++ " has no location"
  | missingPayment => "payment is required to confirm an order"
  | actionMismatch expected actual =>
    "context action " ++ actual.title ++ " does not match payload action " ++ expected.title

/-- Why an outbound call has no answer. -/
inductive TransportFailure where
  | timeout
  | failed (detail : String)
  deriving DecidableEq, Repr

def TransportFailure.message : TransportFailure → String
  | timeout => "request timed out"
  | failed detail => "request failed: " ++ detail

/-- A storage that does not work at present, and what it says about it. -/
structure BackendFailure where
  detail : String
  deriving DecidableEq, Repr

def BackendFailure.message (f : BackendFailure) : String := "backend error: " ++ f.detail

end BuyerGateway
