import BuyerGateway.Double.Shortest
import BuyerGateway.Json.Basic
/-!
JSON texts from trees, without any space between the lexemes.
-/
namespace BuyerGateway.Json

/-- Numbers are positional from `10 ^ -5` up to `10 ^ 16`, and a whole number ends in `.0`. -/
def numberLayout : DecimalLayout := ⟨.even, fun e => -5 ≤ e && e < 16, true⟩

def hexDigits (c : Char) : List Char :=
  let digits := Nat.toDigits 16 c.toNat
  List.replicate (4 - digits.length) '0' ++ digits

def escape (c : Char) : List Char :=
  if c = '"' then ['\\', '"']
  else if c = '\\' then ['\\', '\\']
  else if c = '\u0008' then ['\\', 'b']
  else if c = '\u000c' then ['\\', 'f']
  else if c = '\n' then ['\\', 'n']
  else if c = '\r' then ['\\', 'r']
  else if c = '\t' then ['\\', 't']
  else if c.toNat < 0x20 then '\\' :: 'u' :: hexDigits c
  else [c]

def quote (s : String) : String := "\"" ++ String.ofList (s.toList.flatMap escape) ++ "\""

mutual

/-- An unreadable value is written as `null`. -/
def render : Json → String
  | null => "null"
  | flag b => if b then "true" else "false"
  | integer n => toString n
  | real x => numberLayout.render x
  | text s => quote s
  | array [] => "[]"
  | array (v :: vs) => "[" ++ render v ++ renderItems vs ++ "]"
  | object [] => "\x7b\x7d"
  | object ((k, v) :: fs) => "\x7b" ++ quote k ++ ":" ++ render v ++ renderFields fs ++ "\x7d"
  | unreadable => "null"

def renderItems : List Json → String
  | [] => ""
  | v :: vs => "," ++ render v ++ renderItems vs

def renderFields : List (String × Json) → String
  | [] => ""
  | (k, v) :: fs => "," ++ quote k ++ ":" ++ render v ++ renderFields fs

end

end BuyerGateway.Json
