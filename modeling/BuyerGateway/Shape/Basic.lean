import BuyerGateway.Dictionary
import BuyerGateway.Json.Basic
import BuyerGateway.Timestamp.Text
/-!
The wire format of a type as a value. A shape says how the values of a type stand in JSON; `encode`
and `decode` interpret it. Records are read generously: a record may be written as an object or as
the list of its fields, unknown keys are passed over, and a field with a fallback may be missing. A
key of the record that is given twice is refused.
-/
namespace BuyerGateway

/-- A merged record is one object out of several records. It has no written list of fields, and
everything in it is read in full, the values of unknown keys too. -/
inductive Form where
  | plain
  | merged
  deriving DecidableEq, Repr

mutual

inductive Shape : Type → Type 1 where
  | text : Shape String
  | flag : Shape Bool
  | count : Shape UInt32
  | real : Shape Double
  | moment : Shape Timestamp
  | dictionary : Shape Dictionary
  | choice {α : Type} (name : α → String) (all : List α)
      (find_name : ∀ a, all.find? (fun b => name b == name a) = some a) : Shape α
  | nullable {α : Type} (s : Shape α) : Shape (Option α)
  | list {α : Type} (s : Shape α) : Shape (List α)
  | record {α β : Type} (form : Form) (fields : Fields β) (parts : α → β) (whole : β → α)
      (whole_parts : ∀ a, whole (parts a) = a) : Shape α

/-- The fields of a record in their written order. A field with a fallback is left out where it is
not to be written, which is allowed for the fallback alone. -/
inductive Fields : Type → Type 1 where
  | done : Fields Unit
  | required {α β : Type} (key : String) (s : Shape α) (rest : Fields β) : Fields (α × β)
  | defaulted {α β : Type} (key : String) (s : Shape α) (fallback : α) (written : α → Bool)
      (unwritten : ∀ a, written a = false → a = fallback) (rest : Fields β) : Fields (α × β)

end

namespace Fields

/-- A field that is absent, or null, where there is no value. -/
def optional {α β : Type} (key : String) (s : Shape α) (rest : Fields β) : Fields (Option α × β) :=
  .defaulted key (.nullable s) none Option.isSome (fun _ h => by simpa using h) rest

/-- A list that is left out when it is empty. -/
def several {α β : Type} (key : String) (s : Shape α) (rest : Fields β) : Fields (List α × β) :=
  .defaulted key (.list s) [] (fun xs => !xs.isEmpty) (fun _ h => by simpa using h) rest

/-- A field that may be missing when it is read, and is always written. -/
def filled {α β : Type} (key : String) (s : Shape α) (fallback : α) (rest : Fields β) :
    Fields (α × β) :=
  .defaulted key s fallback (fun _ => true) nofun rest

end Fields

namespace Shape

/-- How many containers a whole text may have inside each other where it is read in full. -/
def roomOfText : Nat := 127

def plain {α β : Type} (fields : Fields β) (parts : α → β) (whole : β → α)
    (h : ∀ a, whole (parts a) = a := by exact fun _ => rfl) : Shape α :=
  .record .plain fields parts whole h

def merged {α β : Type} (fields : Fields β) (parts : α → β) (whole : β → α)
    (h : ∀ a, whole (parts a) = a := by exact fun _ => rfl) : Shape α :=
  .record .merged fields parts whole h

/-- A record of one field, which is all that the value consists of. -/
def wrapped {α : Type} (key : String) (s : Shape α) : Shape α :=
  plain (.required key s .done) (fun a => (a, ())) Prod.fst

end Shape

/-- The dictionary written by the fields of an object, if all values are texts. -/
def Dictionary.ofFields? (fields : List (String × Json)) : Option Dictionary :=
  (fields.mapM fun f : String × Json => f.2.text?.map (f.1, ·)).map Dictionary.ofList

mutual

def Shape.encode : {α : Type} → Shape α → α → Json
  | _, .text, s => .text s
  | _, .flag, b => .flag b
  | _, .count, n => .integer n.toNat
  | _, .real, x => .real x
  | _, .moment, t => .text t.toText
  | _, .dictionary, d => .object (d.entries.map fun e => (e.1, .text e.2))
  | _, .choice name _ _, a => .text (name a)
  | _, .nullable _, none => .null
  | _, .nullable s, some a => s.encode a
  | _, .list s, xs => .array (xs.map s.encode)
  | _, .record _ fields parts _ _, a => .object (fields.encode (parts a))

def Fields.encode : {β : Type} → Fields β → β → List (String × Json)
  | _, .done, _ => []
  | _, .required key s rest, (a, b) => (key, s.encode a) :: rest.encode b
  | _, .defaulted key s _ written _ rest, (a, b) =>
    if written a then (key, s.encode a) :: rest.encode b else rest.encode b

end

/-- Both values, if there are both. -/
def Fields.both {α β : Type} : Option α → Option β → Option (α × β)
  | some a, some b => some (a, b)
  | _, _ => none

mutual

/-- Reads a value with at most `room` containers inside each other, where they count. -/
def Shape.decode : {α : Type} → Shape α → Nat → Json → Option α
  | _, .text, _, v => v.text?
  | _, .flag, _, v => v.flag?
  | _, .count, _, v => v.count?
  | _, .real, _, v => v.double?
  | _, .moment, _, v => v.text?.bind Timestamp.ofText?
  | _, .dictionary, _, v =>
    match v with
    | .object fields => Dictionary.ofFields? fields
    | _ => none
  | _, .choice name all _, _, v => v.name?.bind fun s => all.find? fun a => name a == s
  | _, .nullable s, room, v =>
    match v with
    | .null => some none
    | v => (s.decode room v).map some
  | _, .list s, room, v =>
    match v with
    | .array items => items.mapM (s.decode (room - 1))
    | _ => none
  | _, .record form fields _ whole _, room, v =>
    match v, form with
    | .object given, .plain => (fields.decodeNamed (room - 1) given).map whole
    | .object given, .merged =>
      if Json.fits room (.object given) then (fields.decodeNamed (room - 1) given).map whole
      else none
    | .array items, .plain => (fields.decodeListed (room - 1) items).map whole
    | _, _ => none

/-- Reads the fields from an object by their keys. -/
def Fields.decodeNamed : {β : Type} → Fields β → Nat → List (String × Json) → Option β
  | _, .done, _, _ => some ()
  | _, .required key s rest, room, given =>
    match Json.valuesAt key given with
    | [v] => Fields.both (s.decode room v) (rest.decodeNamed room given)
    | _ => none
  | _, .defaulted key s fallback _ _ rest, room, given =>
    match Json.valuesAt key given with
    | [] => Fields.both (some fallback) (rest.decodeNamed room given)
    | [v] => Fields.both (s.decode room v) (rest.decodeNamed room given)
    | _ => none

/-- Reads the fields from a list in their written order. -/
def Fields.decodeListed : {β : Type} → Fields β → Nat → List Json → Option β
  | _, .done, _, items =>
    match items with
    | [] => some ()
    | _ => none
  | _, .required _ s rest, room, items =>
    match items with
    | v :: vs => Fields.both (s.decode room v) (rest.decodeListed room vs)
    | [] => none
  | _, .defaulted _ s fallback _ _ rest, room, items =>
    match items with
    | v :: vs => Fields.both (s.decode room v) (rest.decodeListed room vs)
    | [] => Fields.both (some fallback) (rest.decodeListed room [])

end

end BuyerGateway
