import Newsstand.Text.Percent
import Newsstand.Toml.Blank

/-!
# Numbers of TOML

Integers of 64 bits with a sign, in base ten, sixteen, eight or two, and floating-point numbers. An
underscore may stand between two digits.
-/

namespace Newsstand.Toml

open Reader Newsstand.Text

/-- Whether a character is a digit of a base. -/
def isDigitOf (base : Nat) (c : Char) : Bool :=
  (Percent.hexValue? c).any (· < base)

/-- Takes digits, with single underscores between them; `fuel` bounds their number. -/
def moreDigits (base fuel : Nat) (done : List (List Char)) : Reader (List Char) :=
  match fuel with
  | 0 => do
    let digits ← takeWhile (isDigitOf base)
    return (digits :: done).reverse.flatten
  | fuel + 1 => do
    let digits ← takeWhile (isDigitOf base)
    match ← peek? with
    | some '_' => do
      next
      let digit ← commit (one (isDigitOf base))
      moreDigits base fuel ([digit] :: digits :: done)
    | _ => return (digits :: done).reverse.flatten

/-- Takes at least one digit, with single underscores between the digits. -/
def digits (base : Nat) : Reader (List Char) := do
  let first ← one (isDigitOf base)
  let rest ← moreDigits base (← bound) []
  return first :: rest

/-- Takes a sign if there is one; true stands for minus. -/
def sign : Reader Bool := do
  match ← peek? with
  | some '+' => do next; return false
  | some '-' => do next; return true
  | _ => return false

/-- Takes a decimal number with its sign; no digit follows a leading zero. -/
def decimal : Reader (Bool × List Char) := do
  let negative ← sign
  match ← peek? with
  | some '0' => do next; return (negative, ['0'])
  | _ => return (negative, ← digits 10)

/-- The number that digits write. -/
def numberOf (base : Nat) (digits : List Char) : Nat :=
  digits.foldl (fun n c => n * base + (Percent.hexValue? c).getD 0) 0

/-- The number with its sign, if it has 64 bits. -/
def signed? (negative : Bool) (n : Nat) : Option Int :=
  if negative then if n ≤ UInt64.size / 2 then some (-n) else none
  else if n < UInt64.size / 2 then some n else none

/-- Reads an integer behind the sign of its base; a fault in its size is at the sign's place. -/
def based (base : Nat) : Reader Int :=
  commit (convert (do drop 2; commit (digits base)) fun ds => signed? false (numberOf base ds))

/-- Reads an integer. -/
def integer : Reader Int := do
  match (← get).rest with
  | '0' :: 'x' :: _ => based 16
  | '0' :: 'o' :: _ => based 8
  | '0' :: 'b' :: _ => based 2
  | _ =>
    let start ← position
    let (negative, ds) ← decimal
    match signed? negative (numberOf 10 ds) with
    | some n => return n
    | none => commit (failAt start)

/-! ### Floating-point numbers -/

/-- Takes an exponent: a letter, a sign and digits. -/
def exponent : Reader (Bool × List Char) := do
  let _ ← one fun c => c == 'e' || c == 'E'
  let negative ← sign
  let ds ← commit (digits 10)
  return (negative, ds)

/-- Takes a fraction: a point and digits. -/
def fraction : Reader (List Char) := do
  char '.'
  commit (digits 10)

/-- Whether a positive decimal number is too large for a floating-point number of 64 bits: it is at
least halfway from the largest one to what would follow it. The number is `digits` with `places` of
them behind the point, times a power of ten. -/
def isTooLarge (digits : List Char) (places : Nat) (negativeExponent : Bool) (exponent : Nat) :
    Bool :=
  let digits := digits.dropWhile (· == '0')
  -- The place of the first digit, counted from the point.
  let magnitude : Int :=
    digits.length - places + (if negativeExponent then -(exponent : Int) else exponent)
  if digits = [] ∨ magnitude < 309 then false
  else if 309 < magnitude then true
  else
    let scale : Int := 309 - digits.length
    let limit := Nat.pow 2 1024 - Nat.pow 2 970
    if 0 ≤ scale then limit ≤ numberOf 10 digits * Nat.pow 10 scale.toNat
    else limit * Nat.pow 10 (-scale).toNat ≤ numberOf 10 digits

/-- Reads a floating-point number with a fraction or an exponent. -/
def pointed : Reader Unit := do
  let start ← position
  let (negative, whole) ← decimal
  let (part, power) ← orElse (do return ([], some (← exponent))) (do
    let part ← fraction
    return (part, ← optional exponent))
  let (negativeExponent, exponent) :=
    match power with
    | some (negative, ds) => (negative, numberOf 10 ds)
    | none => (false, 0)
  if !negative && isTooLarge (whole ++ part) part.length negativeExponent exponent then
    commit (failAt start)

/-- Takes a given word. -/
def word (text : List Char) : Reader Unit := do
  if ← ahead text then drop text.length else fail

/-- Reads a floating-point number that is infinite or none. -/
def special : Reader Unit := do
  let _ ← sign
  orElse (word "inf".toList) (word "nan".toList)

/-- Reads a floating-point number. -/
def float : Reader Unit :=
  orElse pointed special

end Newsstand.Toml
