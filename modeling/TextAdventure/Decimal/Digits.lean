/-!
# Decimal digits of whole numbers
-/

namespace TextAdventure.Decimal

def digitChar (d : Nat) : Char :=
  Char.ofNat (d + 48)

/-- The decimal digits of a number, without zeros in front. -/
def digits (n : Nat) : List Char :=
  if n < 10 then [digitChar n] else digits (n / 10) ++ [digitChar (n % 10)]

/-- The number written by decimal digits. -/
def value (cs : List Char) : Nat :=
  cs.foldl (fun n c => 10 * n + (c.toNat - 48)) 0

/-- A number in decimal. -/
def ofNat (n : Nat) : String :=
  String.ofList (digits n)

/-- A number in decimal, with a minus sign if it is negative. -/
def ofInt : Int → String
  | .ofNat n => ofNat n
  | .negSucc n => "-" ++ ofNat (n + 1)

end TextAdventure.Decimal
