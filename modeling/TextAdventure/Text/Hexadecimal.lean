/-!
# Hexadecimal digits

Written in lower case, read in either.
-/

namespace TextAdventure.Text.Hexadecimal

/-- The digit of a number below sixteen. -/
def digit (n : Nat) : Char :=
  if n < 10 then Char.ofNat (n + 48) else Char.ofNat (n + 87)

/-- The digits of a number, as few as it takes. -/
def digits (n : Nat) : List Char :=
  if n < 16 then [digit n] else digits (n / 16) ++ [digit (n % 16)]

/-- The value of a digit. -/
def value? (c : Char) : Option Nat :=
  if c.isDigit then some (c.toNat - 48)
  else if 'a' ≤ c && c ≤ 'f' then some (c.toNat - 87)
  else if 'A' ≤ c && c ≤ 'F' then some (c.toNat - 55)
  else none

/-- The number that characters are the digits of; none if one of them is no digit. -/
def number? (cs : List Char) : Option Nat :=
  cs.foldlM (fun n c => (value? c).map (16 * n + ·)) 0

end TextAdventure.Text.Hexadecimal
