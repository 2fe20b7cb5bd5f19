import BuyerGateway.Double.Basic
/-!
JSON values as trees. The fields of an object keep their written order and their repetitions, so
that a reader of records can refuse a repeated field and pass over one it does not know.
-/
namespace BuyerGateway

/-- A JSON value. A value is `unreadable` when its text is well formed but denotes nothing: a string
with half a surrogate pair or with bytes that are no UTF-8, an object with such a key, or a number
out of range. It may stand where nobody reads it. -/
inductive Json where
  | null
  | flag (b : Bool)
  | integer (n : Int)
  | real (x : Double)
  | text (s : String)
  | array (items : List Json)
  | object (fields : List (String × Json))
  | unreadable

namespace Json

instance : Inhabited Json := ⟨null⟩

/-- The value can be read in full with at most `room` containers inside each other. -/
def fits : Nat → Json → Bool
  | _, unreadable => false
  | 0, array _ => false
  | 0, object _ => false
  | room + 1, array items => items.all (fits room)
  | room + 1, object fields => fields.all fun field => fits room field.2
  | _, _ => true

/-! ### What a value is read as -/

def text? : Json → Option String
  | text s => some s
  | _ => none

def flag? : Json → Option Bool
  | flag b => some b
  | _ => none

/-- Whole numbers below `2 ^ 32`, written as such. -/
def count? : Json → Option UInt32
  | integer n => if 0 ≤ n ∧ n < Nat.pow 2 32 then some (.ofNat n.toNat) else none
  | _ => none

/-- Any number; one that is written as an integer is rounded. -/
def double? : Json → Option Double
  | integer n => Double.ofInt? n
  | real x => some x
  | _ => none

/-- A name stands for itself, or as the only key of an object over `null`. -/
def name? : Json → Option String
  | text s => some s
  | object [(s, null)] => some s
  | _ => none

/-- The values written under a key, in order. -/
def valuesAt (key : String) (fields : List (String × Json)) : List Json :=
  (fields.filter (·.1 == key)).map (·.2)

theorem valuesAt_cons_ne {key other : String} (h : other ≠ key) (v : Json)
    (fields : List (String × Json)) :
    valuesAt key ((other, v) :: fields) = valuesAt key fields := by
  simp [valuesAt, h]

theorem valuesAt_append (key : String) (xs ys : List (String × Json)) :
    valuesAt key (xs ++ ys) = valuesAt key xs ++ valuesAt key ys := by
  simp [valuesAt]

end Json

end BuyerGateway
