import BuyerGateway.Text.Blank
import BuyerGateway.Text.Numeral
import BuyerGateway.Timestamp.Basic
/-!
Timestamps as text. They are written in one way, in universal time with as many groups of three
fraction digits as they need. They are read generously: short numbers, white space between the
parts, any fraction, and any offset of less than a day.
-/
namespace BuyerGateway.Timestamp

/-! ### Writing -/

/-- Years of four digits stand bare; all others carry a sign. -/
def yearText (year : Int) : String :=
  if 0 ≤ year ∧ year ≤ 9999 then Text.padded 4 year.toNat
  else (if year < 0 then "-" else "+") ++ Text.padded 4 year.natAbs

/-- The shortest of no, three, six and nine digits that loses nothing. -/
def fractionText (nanos : Nat) : String :=
  if nanos = 0 then ""
  else if nanos % 1000000 = 0 then "." ++ Text.padded 3 (nanos / 1000000)
  else if nanos % 1000 = 0 then "." ++ Text.padded 6 (nanos / 1000)
  else "." ++ Text.padded 9 nanos

def toText (t : Timestamp) : String :=
  let leap := t.nanos / 1000000000
  yearText t.date.year ++ "-" ++ Text.padded 2 t.date.month ++ "-" ++ Text.padded 2 t.date.day ++
    "T" ++ Text.padded 2 (t.second / 3600) ++ ":" ++ Text.padded 2 (t.second / 60 % 60) ++ ":" ++
    Text.padded 2 (t.second % 60 + leap) ++ fractionText (t.nanos % 1000000000) ++ "Z"

/-! ### Reading

Every reader takes what it wants from the front and returns the rest. -/

/-- A run of one to `width` digits behind white space. -/
def digits? (width : Nat) (cs : List Char) : Option (Nat × List Char) :=
  let cs := Text.dropSpaces cs
  let run := (cs.take width).takeWhile fun c => (Text.digit? c).isSome
  (Text.unsigned? run).map fun n => (n, cs.drop run.length)

/-- A mark behind white space. -/
def mark? (c : Char) (cs : List Char) : Option (List Char) :=
  match Text.dropSpaces cs with
  | d :: rest => if d = c then some rest else none
  | [] => none

/-- The digits of a signed year stand right behind its sign; a bare year has at most four. -/
def year? (cs : List Char) : Option (Int × List Char) :=
  let signed := fun (sign : Int) (cs : List Char) =>
    let run := cs.takeWhile fun c => (Text.digit? c).isSome
    (Text.unsigned? run).map fun n => (sign * n, cs.drop run.length)
  match Text.dropSpaces cs with
  | '-' :: rest => signed (-1) rest
  | '+' :: rest => signed 1 rest
  | rest => (digits? 4 rest).map fun (n, rest) => ((n : Int), rest)

/-- The fraction of a second in nanoseconds; digits behind the ninth are passed over. -/
def fraction? : List Char → Option (Nat × List Char)
  | '.' :: cs =>
    let run := cs.takeWhile fun c => (Text.digit? c).isSome
    let kept := run.take 9
    (Text.unsigned? kept).map fun n => (n * Nat.pow 10 (9 - kept.length), cs.drop run.length)
  | cs => some (0, cs)

/-- The marks and the white space that may stand between hours and minutes of an offset. -/
def dropColons (cs : List Char) : List Char := cs.dropWhile fun c => c = ':' || Text.isSpace c

def twoDigits? : List Char → Option (Nat × List Char)
  | a :: b :: rest => do return (10 * (← Text.digit? a) + (← Text.digit? b), rest)
  | _ => none

def signedOffset? (sign : Int) (cs : List Char) : Option (Int × List Char) := do
  let (hours, cs) ← twoDigits? cs
  let (minutes, cs) ← twoDigits? (dropColons cs)
  if hours < 24 ∧ minutes < 60 then
    return (sign * (hours * 3600 + minutes * 60), cs)
  else
    none

/-- How far the clock is ahead of universal time, in seconds. -/
def offset? (cs : List Char) : Option (Int × List Char) :=
  match cs with
  | 'Z' :: rest => some (0, rest)
  | 'z' :: rest => some (0, rest)
  | '+' :: rest => signedOffset? 1 rest
  | '-' :: rest => signedOffset? (-1) rest
  | '\u2212' :: rest => signedOffset? (-1) rest
  | u :: t :: c :: rest =>
    if [u.toLower, t.toLower, c.toLower] = ['u', 't', 'c'] then some (0, rest) else none
  | _ => none

/-- A letter or a space separates the time from the date. -/
def separator? : List Char → Option (List Char)
  | c :: rest => if c = 'T' ∨ c = 't' ∨ c = ' ' then some rest else none
  | [] => none

def ofText? (s : String) : Option Timestamp := do
  let (year, cs) ← year? s.toList
  let (month, cs) ← digits? 2 (← mark? '-' cs)
  let (day, cs) ← digits? 2 (← mark? '-' cs)
  let (hour, cs) ← digits? 2 (← separator? cs)
  let (minute, cs) ← digits? 2 (← mark? ':' cs)
  let (second, cs) ← digits? 2 (← mark? ':' cs)
  let (nanos, cs) ← fraction? cs
  let (offset, cs) ← offset? (Text.dropSpaces cs)
  let date ← Date.ofParts? year month day
  if hour < 24 ∧ minute < 60 ∧ second ≤ 60 ∧ Text.dropSpaces cs = [] then
    let leap := if second = 60 then 1000000000 else 0
    ofLocal? date (hour * 3600 + minute * 60 + min second 59) (nanos + leap) offset
  else
    none

end BuyerGateway.Timestamp
