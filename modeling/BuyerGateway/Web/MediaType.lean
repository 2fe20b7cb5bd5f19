/-!
Media types in the header of a body. A type counts as JSON when it is of the family `application`
and either its subtype or its suffix behind the last plus sign is `json`, in any case of letters. A
header that breaks the grammar, in its parameters too, names no type.
-/
namespace BuyerGateway.MediaType

def isToken (c : Char) : Bool :=
  c.isAlphanum ||
    ['!', '#', '$', '%', '&', '\x27', '*', '+', '-', '.', '^', '_', '\x60', '|', '~'].contains c

/-- Where a reader of parameters stands. -/
inductive Place where
  | nameStart
  | name
  | valueStart
  | value
  /-- Inside quotes, behind nothing or behind something. -/
  | quoted (filled : Bool)
  | afterQuote

/-- The place behind one more character. A quote that closes an empty text counts as text. -/
def Place.next? (place : Place) (c : Char) : Option Place :=
  match place with
  | nameStart => if c = ' ' then some nameStart else if isToken c then some name else none
  | name => if c = '=' then some valueStart else if isToken c then some name else none
  | valueStart => if c = '"' then some (quoted false) else if isToken c then some value else none
  | value => if c = ';' then some nameStart else if isToken c then some value else none
  | quoted filled =>
    if c = '"' && filled then some afterQuote
    else if ' ' ≤ c ∧ c ≤ '~' then some (quoted true)
    else none
  | afterQuote => if c = ';' then some nameStart else if c = ' ' then some afterQuote else none

def Place.mayEnd : Place → Bool
  | nameStart => true
  | name => false
  | valueStart => true
  | value => true
  | quoted _ => false
  | afterQuote => true

def parametersValid (cs : List Char) : Bool :=
  match cs.foldlM Place.next? .nameStart with
  | some place => place.mayEnd
  | none => false

/-- A subtype before its last plus sign, and the suffix behind it; a plus sign in front of a subtype
belongs to it. -/
def splitSuffix (subtype : List Char) : List Char × Option (List Char) :=
  let suffix := (subtype.reverse.takeWhile (· != '+')).reverse
  let rest := subtype.length - suffix.length
  if 2 ≤ rest then (subtype.take (rest - 1), some suffix) else (subtype, none)

def lower (cs : List Char) : List Char := cs.map Char.toLower

def isJson (header : String) : Bool :=
  let cs := header.toList
  let family := cs.takeWhile (· != '/')
  match cs.drop family.length with
  | [] => false
  | _ :: rest =>
    let subtype := rest.takeWhile (· != ';')
    let parameters := (rest.drop subtype.length).drop 1
    let (base, suffix) := splitSuffix subtype
    let named := lower base == ['j', 's', 'o', 'n'] || suffix.map lower == some ['j', 's', 'o', 'n']
    lower family == "application".toList && subtype.all isToken && parametersValid parameters &&
      named

example : isJson "Application/Vnd.api+JSON; charset=\"a b\"" = true := by decide +kernel
example : isJson "application/json ;charset=utf-8" = false := by decide +kernel

end BuyerGateway.MediaType
