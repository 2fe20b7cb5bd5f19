/-!
Instants of universal time in the Gregorian calendar, extended backwards, with nanoseconds. A leap
second belongs to the second before it, as a second thousand million of nanoseconds.
-/
namespace BuyerGateway

namespace Calendar

def isLeapYear (year : Int) : Bool := year % 4 = 0 && (year % 100 != 0 || year % 400 = 0)

def daysIn (year : Int) (month : Nat) : Nat :=
  if month = 2 then (if isLeapYear year then 29 else 28)
  else if month = 4 ∨ month = 6 ∨ month = 9 ∨ month = 11 then 30
  else 31

end Calendar

/-- A day of the years that instants may lie in. -/
structure Date where
  year : Int
  month : Nat
  day : Nat
  valid : -262143 ≤ year ∧ year ≤ 262142 ∧ 1 ≤ month ∧ month ≤ 12 ∧
    1 ≤ day ∧ day ≤ Calendar.daysIn year month
  deriving DecidableEq

namespace Date

def ofParts? (year : Int) (month day : Nat) : Option Date :=
  if h : -262143 ≤ year ∧ year ≤ 262142 ∧ 1 ≤ month ∧ month ≤ 12 ∧
      1 ≤ day ∧ day ≤ Calendar.daysIn year month then
    some ⟨year, month, day, h⟩
  else
    none

theorem ofParts?_eq_some (d : Date) : ofParts? d.year d.month d.day = some d := by
  simp only [ofParts?, d.valid, and_self, ↓reduceDIte]

def next? (d : Date) : Option Date :=
  if d.day < Calendar.daysIn d.year d.month then ofParts? d.year d.month (d.day + 1)
  else if d.month < 12 then ofParts? d.year (d.month + 1) 1
  else ofParts? (d.year + 1) 1 1

def previous? (d : Date) : Option Date :=
  if 1 < d.day then ofParts? d.year d.month (d.day - 1)
  else if 1 < d.month then
    ofParts? d.year (d.month - 1) (Calendar.daysIn d.year (d.month - 1))
  else ofParts? (d.year - 1) 12 31

end Date

structure Timestamp where
  date : Date
  /-- The second of the day. -/
  second : Nat
  nanos : Nat
  valid : second < 86400 ∧ nanos < 2000000000
  deriving DecidableEq

namespace Timestamp

def ofParts? (date : Date) (second nanos : Nat) : Option Timestamp :=
  if h : second < 86400 ∧ nanos < 2000000000 then some ⟨date, second, nanos, h⟩ else none

/-- The instant at which a clock that is `offset` seconds ahead shows this date and time. An offset
is less than a day, so at most one midnight lies between. -/
def ofLocal? (date : Date) (second nanos : Nat) (offset : Int) : Option Timestamp := do
  let s : Int := second - offset
  if s < 0 then
    ofParts? (← date.previous?) (s + 86400).toNat nanos
  else if 86400 ≤ s then
    ofParts? (← date.next?) (s - 86400).toNat nanos
  else
    ofParts? date s.toNat nanos

theorem ofLocal?_zero (t : Timestamp) : ofLocal? t.date t.second t.nanos 0 = some t := by
  have h := t.valid
  have hs : ¬ (t.second : Int) < 0 := by omega
  have hb : ¬ (86400 : Int) ≤ (t.second : Int) := by omega
  simp only [ofLocal?, Int.sub_zero, hs, hb, ↓reduceIte, Int.toNat_natCast, ofParts?, h, and_self,
    ↓reduceDIte]

end Timestamp

end BuyerGateway
