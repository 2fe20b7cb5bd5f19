/-!
Reading bytes as UTF-8 without ever failing. A sequence that breaks off is replaced as a whole, and
the byte that broke it is read anew.
-/
namespace BuyerGateway.Text

def replacement : Char := '\ufffd'

/-- A character begun: its bits so far, the bytes that are missing, the range of the next one. -/
structure Begun where
  bits : Nat
  missing : Nat
  low : UInt8
  high : UInt8

/-- What the first byte of a character gives: a character at once, or one begun. -/
def begin (b : UInt8) : List Char × Option Begun :=
  let n := b.toNat
  if n < 0x80 then ([Char.ofNat n], none)
  else if n < 0xc2 then ([replacement], none)
  else if n < 0xe0 then ([], some ⟨n - 0xc0, 1, 0x80, 0xbf⟩)
  else if n < 0xf0 then
    let low := if n = 0xe0 then 0xa0 else 0x80
    let high := if n = 0xed then 0x9f else 0xbf
    ([], some ⟨n - 0xe0, 2, low, high⟩)
  else if n < 0xf5 then
    let low := if n = 0xf0 then 0x90 else 0x80
    let high := if n = 0xf4 then 0x8f else 0xbf
    ([], some ⟨n - 0xf0, 3, low, high⟩)
  else ([replacement], none)

def decodeFrom (begun : Option Begun) : List UInt8 → List Char
  | [] => if begun.isSome then [replacement] else []
  | b :: rest =>
    match begun with
    | some c =>
      if c.low ≤ b ∧ b ≤ c.high then
        let bits := c.bits * 0x40 + (b.toNat - 0x80)
        if c.missing = 1 then Char.ofNat bits :: decodeFrom none rest
        else decodeFrom (some ⟨bits, c.missing - 1, 0x80, 0xbf⟩) rest
      else
        replacement :: ((begin b).1 ++ decodeFrom (begin b).2 rest)
    | none => (begin b).1 ++ decodeFrom (begin b).2 rest

def decodeUtf8 (bytes : List UInt8) : String := String.ofList (decodeFrom none bytes)

example : decodeUtf8 [0x61, 0xe2, 0x82, 0xac] = "a€" := by decide +kernel
example : decodeUtf8 [0xe2, 0x82, 0x61, 0xff] = "\ufffda\ufffd" := by decide +kernel

end BuyerGateway.Text
