import BuyerGateway.Text.Utf8
/-!
Form-urlencoded query strings. A plus sign is a space, a percent sign with two hexadecimal digits is
a byte, and any other percent sign stands for itself.
-/
namespace BuyerGateway.FormQuery

/-- The parts between separators; `n` separators make `n + 1` parts. -/
def splitOn (separator : UInt8) : List UInt8 → List (List UInt8)
  | [] => [[]]
  | b :: rest =>
    if b = separator then [] :: splitOn separator rest
    else match splitOn separator rest with
      | part :: parts => (b :: part) :: parts
      | [] => [[b]]

def hexValue? (b : UInt8) : Option UInt8 :=
  if 0x30 ≤ b ∧ b ≤ 0x39 then some (b - 0x30)
  else if 0x41 ≤ b ∧ b ≤ 0x46 then some (b - 0x41 + 10)
  else if 0x61 ≤ b ∧ b ≤ 0x66 then some (b - 0x61 + 10)
  else none

def percentDecode : List UInt8 → List UInt8
  | 0x25 :: high :: low :: rest =>
    match hexValue? high, hexValue? low with
    | some h, some l => (h * 16 + l) :: percentDecode rest
    | _, _ => 0x25 :: percentDecode (high :: low :: rest)
  | b :: rest => b :: percentDecode rest
  | [] => []

def decode (bytes : List UInt8) : String :=
  Text.decodeUtf8 (percentDecode (bytes.map fun b => if b = 0x2b then 0x20 else b))

/-- A name and its value; without an equals sign the value is empty. -/
def pair (part : List UInt8) : String × String :=
  let name := part.takeWhile (· != 0x3d)
  (decode name, decode (part.drop (name.length + 1)))

/-- The pairs of a query, in order. Empty parts are passed over. -/
def pairs (query : String) : List (String × String) :=
  ((splitOn 0x26 query.toUTF8.toList).filter (!·.isEmpty)).map pair

/-- The value of a name that is given once. -/
def unique? (name query : String) : Option String :=
  match (pairs query).filter (·.1 == name) with
  | [(_, value)] => some value
  | _ => none

end BuyerGateway.FormQuery
