import BuyerGateway.Text.Numeral
/-!
Configuration read from named variables. Three variables are required, two hold numbers, and the
first check that fails, in a fixed order, names the variable at fault.
-/
namespace BuyerGateway

/-- What every context the gateway mints has in common. -/
structure ContextDefaults where
  domain : String
  country : String
  city : String
  coreVersion : String
  bapId : String
  bapUri : String
  deriving DecidableEq, Repr

structure Config where
  host : String
  port : UInt16
  registryUrl : String
  /-- How long an outbound call may take, in seconds. -/
  timeout : UInt64
  context : ContextDefaults
  deriving DecidableEq, Repr

inductive ConfigFailure where
  | missing (name : String)
  | invalid (name value : String)
  deriving DecidableEq, Repr

def ConfigFailure.message : ConfigFailure → String
  | missing name => name ++ " not set"
  | invalid name value => "invalid value for " ++ name ++ ": " ++ value

namespace Config

/-- The variables as the gateway finds them; an unset one is absent. -/
abbrev Variables := String → Option String

def required (vars : Variables) (name : String) : Except ConfigFailure String :=
  match vars name with
  | some value => .ok value
  | none => .error (.missing name)

def numberOr (vars : Variables) (name : String) (limit fallback : Nat) :
    Except ConfigFailure Nat :=
  match vars name with
  | none => .ok fallback
  | some value =>
    match Text.numeral? limit value with
    | some n => .ok n
    | none => .error (.invalid name value)

def ofVariables (vars : Variables) : Except ConfigFailure Config := do
  let port ← numberOr vars "BAP_PORT" 65535 8080
  let timeout ← numberOr vars "BAP_HTTP_TIMEOUT_SECS" (Nat.pow 2 64 - 1) 40
  let registryUrl ← required vars "BAP_REGISTRY_URL"
  let bapId ← required vars "BAP_ID"
  let bapUri ← required vars "BAP_URI"
  return {
    host := (vars "BAP_HOST").getD "0.0.0.0"
    port := .ofNat port
    registryUrl
    timeout := .ofNat timeout
    context := {
      domain := (vars "BAP_DOMAIN").getD "nic2004:52110"
      country := (vars "BAP_COUNTRY").getD "IND"
      city := (vars "BAP_CITY").getD "std:080"
      coreVersion := (vars "BAP_CORE_VERSION").getD "0.9.1"
      bapId
      bapUri } }

def listenAddress (c : Config) : String := c.host ++ ":" ++ toString c.port.toNat

end Config

end BuyerGateway
