import BuyerGateway.Json.Lexeme
/-!
JSON trees from lexemes. The reader keeps a stack of open containers, one step a lexeme, so that the
depth of a text is bounded by its length alone.
-/
namespace BuyerGateway.Json

/-- An open container with what it holds so far, last first. An object that has met a key which
spells no text holds nothing any more. -/
inductive Frame where
  | items (done : List Json)
  | fields (done : Option (List (String × Json))) (key : Option String)

/-- What may come next. -/
inductive Slot where
  | value
  | firstItem
  | firstKey
  | key
  | colon
  /-- Behind a complete value. -/
  | after (last : Json)

structure Partial where
  slot : Slot
  frames : List Frame

namespace Partial

def start : Partial := ⟨.value, []⟩

def pushField (done : Option (List (String × Json))) (key : Option String) (v : Json) :
    Option (List (String × Json)) := do
  let fields ← done
  let k ← key
  return (k, v) :: fields

def closeObject : Option (List (String × Json)) → Json
  | some fields => .object fields.reverse
  | none => .unreadable

/-- A lexeme that begins a value. -/
def beginValue? (frames : List Frame) : Lexeme → Option Partial
  | .openArray => some ⟨.firstItem, .items [] :: frames⟩
  | .openObject => some ⟨.firstKey, .fields (some []) none :: frames⟩
  | .string (some s) => some ⟨.after (.text s), frames⟩
  | .string none => some ⟨.after .unreadable, frames⟩
  | .scalar v => some ⟨.after v, frames⟩
  | _ => none

def step (p : Partial) (l : Lexeme) : Option Partial :=
  match p.slot, l, p.frames with
  | .firstItem, .closeArray, _ :: frames => some ⟨.after (.array []), frames⟩
  | .firstItem, l, frames => beginValue? frames l
  | .value, l, frames => beginValue? frames l
  | .firstKey, .closeObject, _ :: frames => some ⟨.after (.object []), frames⟩
  | .firstKey, .string key, .fields done _ :: frames => some ⟨.colon, .fields done key :: frames⟩
  | .key, .string key, .fields done _ :: frames => some ⟨.colon, .fields done key :: frames⟩
  | .colon, .colon, frames => some ⟨.value, frames⟩
  | .after v, .comma, .items done :: frames => some ⟨.value, .items (v :: done) :: frames⟩
  | .after v, .comma, .fields done key :: frames =>
    some ⟨.key, .fields (pushField done key v) none :: frames⟩
  | .after v, .closeArray, .items done :: frames =>
    some ⟨.after (.array (v :: done).reverse), frames⟩
  | .after v, .closeObject, .fields done key :: frames =>
    some ⟨.after (closeObject (pushField done key v)), frames⟩
  | _, _, _ => none

def finish? : Partial → Option Json
  | ⟨.after v, []⟩ => some v
  | _ => none

end Partial

def assemble? (ls : List Lexeme) : Option Json := (ls.foldlM Partial.step .start).bind (·.finish?)

/-- Reads one value that takes up the whole text. -/
def read? (bytes : List UInt8) : Option Json := (lexemes bytes).bind assemble?

def parse? (s : String) : Option Json := read? s.toUTF8.toList

end BuyerGateway.Json
