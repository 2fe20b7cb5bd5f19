/-!
The six exchanges of the protocol and the actions that name their two halves: a request to a
counterparty, and the callback by which the counterparty answers it later.
-/
namespace BuyerGateway

/-- The kinds of business a buyer has with its counterparties. -/
inductive Exchange where
  | search
  | select
  | init
  | confirm
  | track
  | support
  deriving DecidableEq, Repr

namespace Exchange

def all : List Exchange := [search, select, init, confirm, track, support]

/-- The lower-case name, as it stands in a context and in an endpoint. -/
def name : Exchange → String
  | search => "search"
  | select => "select"
  | init => "init"
  | confirm => "confirm"
  | track => "track"
  | support => "support"

/-- The capitalised name, as it stands in the ledger and in messages. -/
def title : Exchange → String
  | search => "Search"
  | select => "Select"
  | init => "Init"
  | confirm => "Confirm"
  | track => "Track"
  | support => "Support"

theorem mem_all (e : Exchange) : e ∈ all := by cases e <;> simp [all]

end Exchange

/-- One half of an exchange. -/
inductive Action where
  | request (exchange : Exchange)
  | callback (exchange : Exchange)
  deriving DecidableEq, Repr

namespace Action

def all : List Action := Exchange.all.map request ++ Exchange.all.map callback

def exchange : Action → Exchange
  | request e => e
  | callback e => e

def name : Action → String
  | request e => e.name
  | callback e => "on_" ++ e.name

def title : Action → String
  | request e => e.title
  | callback e => "On" ++ e.title

/-- The action a counterparty answers with; a callback stands for itself. -/
def answer (a : Action) : Action := callback a.exchange

/-- The action that is answered; a request stands for itself. -/
def question (a : Action) : Action := request a.exchange

end Action

end BuyerGateway
