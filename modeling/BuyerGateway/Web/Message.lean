import BuyerGateway.Json.Basic
/-!
Requests and answers on the gateway's own routes. A target is a path, a query behind a question
mark, and a fragment, which is dropped. It may be absolute: a scheme and a server then stand in
front of the path, and which server is named makes no difference to the route.
-/
namespace BuyerGateway.Web

structure Request where
  method : String
  target : String
  contentType : Option String
  body : List UInt8

/-- An answer without a body has none at all. -/
structure Response where
  status : Nat
  body : Option Json

namespace Request

def isSchemeChar (c : Char) : Bool := c.isAlphanum || c = '+' || c = '-' || c = '.'

/-- What stands behind the server of an absolute target; any other target is left as it is. -/
def afterServer (target : List Char) : List Char :=
  match target.dropWhile isSchemeChar with
  | ':' :: '/' :: '/' :: rest => rest.dropWhile fun c => c != '/' && c != '?'
  | _ => target

/-- The path and the query with its mark. -/
def resource (r : Request) : List Char := afterServer (r.target.toList.takeWhile (· != '#'))

/-- An empty path stands for the root. -/
def path (r : Request) : String :=
  match r.resource.takeWhile (· != '?') with
  | [] => "/"
  | cs => String.ofList cs

def query (r : Request) : String := String.ofList ((r.resource.dropWhile (· != '?')).drop 1)

example : path ⟨"GET", "https://u@h:80/a/b?c#d", none, []⟩ = "/a/b" := by decide +kernel
example : query ⟨"GET", "http://h?c=/d", none, []⟩ = "c=/d" := by decide +kernel
example : path ⟨"GET", "//h/a", none, []⟩ = "//h/a" := by decide +kernel

end Request

end BuyerGateway.Web
