import BuyerGateway.Json.Printer
import BuyerGateway.Json.Reader
import BuyerGateway.Shape.Basic
/-!
Values as JSON texts, by their shapes.
-/
namespace BuyerGateway.Shape

variable {α : Type}

def ofBytes? (s : Shape α) (bytes : List UInt8) : Option α :=
  (Json.read? bytes).bind (s.decode roomOfText)

def ofText? (s : Shape α) (text : String) : Option α :=
  (Json.parse? text).bind (s.decode roomOfText)

def toText (s : Shape α) (a : α) : String := (s.encode a).render

def toBytes (s : Shape α) (a : α) : List UInt8 := (s.toText a).toUTF8.toList

end BuyerGateway.Shape
