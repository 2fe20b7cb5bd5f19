import BuyerGateway.Double.Decimal
import BuyerGateway.Json.Basic
import BuyerGateway.Text.Numeral
/-!
The lexemes of a JSON text. A text is bytes: outside of strings every maximal run of bytes that are
neither white space nor punctuation is one word, which must be a literal or a number.
-/
namespace BuyerGateway.Json

inductive Lexeme where
  | openArray
  | closeArray
  | openObject
  | closeObject
  | comma
  | colon
  /-- A string, with the text it spells if it spells one. -/
  | string (text : Option String)
  | scalar (value : Json)

namespace Lexeme

def isWhite (b : UInt8) : Bool := b = 0x20 || b = 0x09 || b = 0x0a || b = 0x0d

def punctuation? (b : UInt8) : Option Lexeme :=
  if b = 0x5b then some openArray
  else if b = 0x5d then some closeArray
  else if b = 0x7b then some openObject
  else if b = 0x7d then some closeObject
  else if b = 0x2c then some comma
  else if b = 0x3a then some colon
  else none

/-! ### Numbers -/

def spanDigits : List Char → List Nat × List Char
  | [] => ([], [])
  | c :: cs =>
    match Text.digit? c with
    | some d => (d :: (spanDigits cs).1, (spanDigits cs).2)
    | none => ([], c :: cs)

/-- The power of ten at the end of a number: nothing, or a letter with a signed numeral. -/
def exponent? : List Char → Option (Option Int)
  | [] => some none
  | c :: cs =>
    if c = 'e' ∨ c = 'E' then
      match cs with
      | '-' :: ds => (Text.unsigned? ds).map fun n => some (-n)
      | '+' :: ds => (Text.unsigned? ds).map fun n => some n
      | ds => (Text.unsigned? ds).map fun n => some n
    else
      none

/-- The whole digits of a number are a single zero or do not begin with one. -/
def wholeDigits : List Nat → Bool
  | [] => false
  | [_] => true
  | d :: _ => d != 0

def numeral? (word : List Char) : Option Numeral := do
  let (negative, cs) := match word with
    | '-' :: cs => (true, cs)
    | cs => (false, cs)
  let (whole, cs) := spanDigits cs
  if !wholeDigits whole then none
  match cs with
  | '.' :: cs =>
    let (fraction, cs) := spanDigits cs
    if fraction.isEmpty then none
    return ⟨negative, whole, fraction, ← exponent? cs⟩
  | cs => return ⟨negative, whole, [], ← exponent? cs⟩

/-- The value of a number: an integer where it is written as one that 64 bits
hold, else a double. -/
def ofNumeral (n : Numeral) : Json :=
  match n.toInt?, n.toDouble? with
  | some i, _ => .integer i
  | none, some x => .real x
  | none, none => .unreadable

def ofWord? (word : List UInt8) : Option Lexeme :=
  match word.map fun b => Char.ofNat b.toNat with
  | ['n', 'u', 'l', 'l'] => some (scalar .null)
  | ['t', 'r', 'u', 'e'] => some (scalar (.flag true))
  | ['f', 'a', 'l', 's', 'e'] => some (scalar (.flag false))
  | cs => (numeral? cs).map fun n => scalar (ofNumeral n)

/-! ### Strings -/

/-- A piece of a string: a byte of its text, or a 16-bit unit given by its number. -/
inductive Piece where
  | byte (b : UInt8)
  | unit (u : Nat)

def hexDigit? (b : UInt8) : Option Nat :=
  let n := b.toNat
  if 0x30 ≤ n ∧ n ≤ 0x39 then some (n - 0x30)
  else if 0x41 ≤ n ∧ n ≤ 0x46 then some (n - 0x41 + 10)
  else if 0x61 ≤ n ∧ n ≤ 0x66 then some (n - 0x61 + 10)
  else none

/-- The byte that a letter behind a backslash stands for. -/
def escaped? (b : UInt8) : Option UInt8 :=
  if b = 0x22 ∨ b = 0x5c ∨ b = 0x2f then some b
  else if b = 0x62 then some 0x08
  else if b = 0x66 then some 0x0c
  else if b = 0x6e then some 0x0a
  else if b = 0x72 then some 0x0d
  else if b = 0x74 then some 0x09
  else none

def pieces (done : List Piece) : List UInt8 → Option (List Piece)
  | [] => some done.reverse
  | 0x5c :: 0x75 :: a :: b :: c :: d :: rest => do
    let u :=
      (((← hexDigit? a) * 16 + (← hexDigit? b)) * 16 + (← hexDigit? c)) * 16 + (← hexDigit? d)
    pieces (.unit u :: done) rest
  | 0x5c :: e :: rest => do pieces (.byte (← escaped? e) :: done) rest
  | b :: rest => pieces (.byte b :: done) rest

def isHighSurrogate (u : Nat) : Bool := 0xd800 ≤ u && u < 0xdc00
def isLowSurrogate (u : Nat) : Bool := 0xdc00 ≤ u && u < 0xe000

/-- The bytes that the pieces spell, unless a surrogate stands without its partner. -/
def spell (done : List UInt8) : List Piece → Option (List UInt8)
  | [] => some done.reverse
  | .byte b :: rest => spell (b :: done) rest
  | .unit high :: .unit low :: rest =>
    if isHighSurrogate high && isLowSurrogate low then
      let c := Char.ofNat (0x10000 + (high - 0xd800) * 0x400 + (low - 0xdc00))
      spell ((String.utf8EncodeChar c).reverse ++ done) rest
    else if isHighSurrogate high || isLowSurrogate high then none
    else spell ((String.utf8EncodeChar (Char.ofNat high)).reverse ++ done) (.unit low :: rest)
  | .unit u :: rest =>
    if isHighSurrogate u || isLowSurrogate u then none
    else spell ((String.utf8EncodeChar (Char.ofNat u)).reverse ++ done) rest

def ofQuoted? (raw : List UInt8) : Option Lexeme :=
  (pieces [] raw).map fun ps =>
    string ((spell [] ps).bind fun bytes => String.fromUTF8? ⟨bytes.toArray⟩)

/-! ### Texts -/

/-- Where the scanner stands. What has been passed of a word or a string is kept in reverse. -/
inductive Place where
  | between
  | word (passed : List UInt8)
  | quoted (passed : List UInt8)
  | backslash (passed : List UInt8)

/-- The lexemes so far with the word that ends here. -/
def endWord (place : Place) (done : List Lexeme) : Option (List Lexeme) :=
  match place with
  | .between => some done
  | .word passed => (ofWord? passed.reverse).map (· :: done)
  | .quoted _ => none
  | .backslash _ => none

def scan (place : Place) (done : List Lexeme) : List UInt8 → Option (List Lexeme)
  | [] => (endWord place done).map List.reverse
  | b :: rest =>
    match place with
    | .quoted passed =>
      if b = 0x22 then do scan .between ((← ofQuoted? passed.reverse) :: done) rest
      else if b = 0x5c then scan (.backslash passed) done rest
      else if b < 0x20 then none
      else scan (.quoted (b :: passed)) done rest
    | .backslash passed =>
      if b < 0x20 then none else scan (.quoted (b :: 0x5c :: passed)) done rest
    | .between =>
      if isWhite b then scan .between done rest
      else if b = 0x22 then scan (.quoted []) done rest
      else match punctuation? b with
        | some mark => scan .between (mark :: done) rest
        | none => scan (.word [b]) done rest
    | .word passed =>
      if isWhite b then do scan .between (← endWord (.word passed) done) rest
      else if b = 0x22 then do scan (.quoted []) (← endWord (.word passed) done) rest
      else match punctuation? b with
        | some mark => do scan .between (mark :: (← endWord (.word passed) done)) rest
        | none => scan (.word (b :: passed)) done rest

end Lexeme

/-- The lexemes of a text, if it can be cut into lexemes. -/
def lexemes (bytes : List UInt8) : Option (List Lexeme) := Lexeme.scan .between [] bytes

end BuyerGateway.Json
