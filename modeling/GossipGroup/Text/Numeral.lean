/-!
# Reading numbers

A reader takes characters from the front of a list and answers with what it has
read and what is left. The readers here take a run of digits in a base. They
fail if there is no digit, if there are more digits than allowed, if the number
reaches a bound, or, where this is asked for, if it has a zero before other
digits.
-/

namespace GossipGroup
namespace Text

/-- The value of a digit in a base up to sixteen, in either case. -/
def digitValue? (base : Nat) (character : Char) : Option Nat :=
  let value :=
    if '0' ≤ character ∧ character ≤ '9' then character.toNat - '0'.toNat
    else if 'a' ≤ character ∧ character ≤ 'f' then character.toNat - 'a'.toNat + 10
    else if 'A' ≤ character ∧ character ≤ 'F' then character.toNat - 'A'.toNat + 10
    else base
  if value < base then some value else none

/-- The number written by a list of digits. -/
def numberOf (base : Nat) (digits : List Char) : Nat :=
  digits.foldl (fun total digit => base * total + (digitValue? base digit).getD 0) 0

/-- The rules for reading a number. -/
structure NumeralRules where
  base : Nat
  /-- The number read is below this. -/
  bound : Nat
  maxDigits : Option Nat
  leadingZeros : Bool

/-- Read a number from the front of a list of characters. -/
def readNumber (rules : NumeralRules) (characters : List Char) :
    Option (Nat × List Char) :=
  let isDigit (character : Char) : Bool := (digitValue? rules.base character).isSome
  let digits := characters.takeWhile isDigit
  let value := numberOf rules.base digits
  let tooLong : Bool :=
    match rules.maxDigits with
    | some most => most < digits.length
    | none => false
  let badZero : Bool := !rules.leadingZeros && digits.head? == some '0' && 1 < digits.length
  if digits.isEmpty || tooLong || badZero then none
  else if value < rules.bound then some (value, characters.dropWhile isDigit)
  else none

/-- Read one given character. -/
def readCharacter (expected : Char) : List Char → Option (List Char)
  | character :: rest => if character = expected then some rest else none
  | [] => none

/-- The number that a whole text writes in decimal, possibly after a plus sign,
if it is below a bound. -/
def wholeNumber? (bound : Nat) (characters : List Char) : Option Nat :=
  let digits := match characters with
    | '+' :: rest => rest
    | _ => characters
  match readNumber ⟨10, bound, none, true⟩ digits with
  | some (value, []) => some value
  | _ => none

end Text
end GossipGroup
