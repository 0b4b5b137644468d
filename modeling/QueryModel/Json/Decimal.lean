/-!
# Doubles in decimal

A double is read from decimal digits and an exponent in the way of simple
readers.  The leading digits that fit 64 bits become a double, and one
multiplication or division by a power of ten moves the point.  It is written
with the fewest digits that read back as the same double.

The writer works on exact integers.  A finite double is `m * 2 ^ q`, and the
reals that round to it lie between the midpoints to its neighbours.  Both
midpoints belong to it exactly when `m` is even.  For one digit, two digits and
so on, the two decimals next to the value are tested against the midpoints, and
the nearer of those that pass is taken.
-/

namespace QueryModel.Decimal

/-- Digits and a power of ten: `digits * 10 ^ exponent`. -/
structure Scientific where
  /-- The digits, as one number. -/
  digits : Nat
  /-- The power of ten. -/
  exponent : Int
deriving DecidableEq, Repr

/-- A power of two. -/
def twoTo (n : Nat) : Nat := Nat.pow 2 n

/-- A power of ten. -/
def tenTo (n : Nat) : Nat := Nat.pow 10 n

/-! ## Writing -/

/-- A double as `mantissa * 2 ^ exponent`, and whether the gap to the neighbour
below is half the gap to the one above. -/
structure Binary where
  /-- The mantissa. -/
  mantissa : Nat
  /-- The power of two. -/
  exponent : Int
  /-- Whether the neighbour below is at half distance. -/
  narrowBelow : Bool
deriving DecidableEq, Repr

/-- The parts of a double without its sign, from its bits. -/
def Binary.ofBits (bits : Nat) : Binary :=
  let fraction : Nat := bits % twoTo 52
  let biased : Nat := bits / twoTo 52 % twoTo 11
  if biased = 0 then
    ⟨fraction, -1074, false⟩
  else
    ⟨fraction + twoTo 52, (biased : Int) - 1075, fraction = 0 && biased > 1⟩

/-- The scaled value and its midpoints as fractions with one denominator. -/
structure Interval where
  /-- The numerator of the midpoint below. -/
  low : Nat
  /-- The numerator of the value. -/
  value : Nat
  /-- The numerator of the midpoint above. -/
  high : Nat
  /-- The common denominator. -/
  denominator : Nat
  /-- Whether the midpoints round to the value. -/
  closed : Bool
deriving DecidableEq, Repr

/-- The reals that round to a double. -/
def Binary.interval (b : Binary) : Interval :=
  let shift := b.exponent - 2
  let scale := twoTo shift.toNat
  { low := (4 * b.mantissa - if b.narrowBelow then 1 else 2) * scale
    value := 4 * b.mantissa * scale
    high := (4 * b.mantissa + 2) * scale
    denominator := twoTo (-shift).toNat
    closed := b.mantissa % 2 == 0 }

/-- Whether `digits * 10 ^ exponent` rounds to the value of the interval. -/
def Interval.contains (i : Interval) (s : Scientific) : Bool :=
  let x := s.digits * tenTo s.exponent.toNat * i.denominator
  let scale := tenTo (-s.exponent).toNat
  if i.closed then i.low * scale ≤ x && x ≤ i.high * scale
  else i.low * scale < x && x < i.high * scale

/-- The power of ten of the first digit of a positive fraction. -/
def leadingExponent (numerator denominator : Nat) : Int :=
  if denominator ≤ numerator then
    (((Nat.toDigits 10 (numerator / denominator)).length - 1 : Nat) : Int)
  else
    match (List.range 400).find? fun j => denominator ≤ numerator * tenTo j with
    | some j => -(j : Int)
    | none => 0

/-- The decimal with `count` digits that is nearest to the value of the interval,
among those that round to it.  A tie goes to the even digit.  A power of ten is
written with one digit. -/
def Interval.withDigits? (i : Interval) (leading : Int) (count : Nat) : Option Scientific :=
  let exponent := leading - (count : Int) + 1
  let numerator := i.value * tenTo (-exponent).toNat
  let unit := i.denominator * tenTo exponent.toNat
  let below : Scientific := ⟨numerator / unit, exponent⟩
  let above : Scientific :=
    if below.digits + 1 = tenTo count then ⟨1, exponent + count⟩ else ⟨below.digits + 1, exponent⟩
  let remainder := numerator % unit
  match i.contains below, i.contains above with
  | true, true =>
    if 2 * remainder < unit then some below
    else if 2 * remainder = unit then
      some (if below.digits % 2 == 0 then below else above)
    else some above
  | true, false => some below
  | false, true => some above
  | false, false => none

/-- The shortest decimal that reads back as the given positive double. -/
def shortest (b : Binary) : Scientific :=
  let i := b.interval
  let leading := leadingExponent i.value i.denominator
  ((List.range 17).findSome? fun n => i.withDigits? leading (n + 1)).getD ⟨0, 0⟩

/-- An exponent as text, with a sign in either direction. -/
def exponentText (e : Int) : String :=
  if 0 ≤ e then "e+" ++ toString e else "e" ++ toString e

/-- A decimal as text.  Numbers from `1e-5` up to `1e16` are written without an
exponent, and whole numbers keep one decimal place. -/
def Scientific.render (s : Scientific) : String :=
  let digits := Nat.toDigits 10 s.digits
  let point := (digits.length : Int) + s.exponent
  if 0 ≤ s.exponent ∧ point ≤ 16 then
    String.ofList (digits ++ List.replicate s.exponent.toNat '0') ++ ".0"
  else if 0 < point ∧ point ≤ 16 then
    String.ofList (digits.take point.toNat) ++ "." ++ String.ofList (digits.drop point.toNat)
  else if -5 < point ∧ point ≤ 0 then
    "0." ++ String.ofList (List.replicate (-point).toNat '0' ++ digits)
  else if digits.length = 1 then
    String.ofList digits ++ exponentText (point - 1)
  else
    String.ofList (digits.take 1) ++ "." ++ String.ofList (digits.drop 1) ++
      exponentText (point - 1)

/-- A finite double as text. -/
def render (x : Float) : String :=
  let bits := x.toBits.toNat
  let sign := if twoTo 63 ≤ bits then "-" else ""
  let b := Binary.ofBits (bits % twoTo 63)
  if b.mantissa = 0 then sign ++ "0.0" else sign ++ (shortest b).render

/-! ## Reading -/

/-- The largest number that fits 64 bits. -/
def maxWord : Nat := twoTo 64 - 1

/-- The leading digits that fit 64 bits, as a number, and how many digits were
left over. -/
def leadingWord (start : Nat) : List Nat → Nat × Nat
  | [] => (start, 0)
  | d :: ds =>
    if maxWord < start * 10 + d then (start, (d :: ds).length) else leadingWord (start * 10 + d) ds

/-- The double `digits * 10 ^ exponent`, or nothing when it is too large.  Powers
of ten below `1e-308` are divided out step by step. -/
def scale (digits : Float) (exponent : Int) : Option Float :=
  if 0 ≤ exponent then
    if digits == 0.0 then some digits
    else if 308 < exponent then none
    else
      let x := digits * Float.ofScientific 1 false exponent.toNat
      if x.isInf then none else some x
  else
    some (divide (exponent.natAbs / 308) digits (exponent.natAbs % 308))
where
  /-- Divides by `1e308` the given number of times, then by the rest. -/
  divide : Nat → Float → Nat → Float
    | 0, x, rest => x / Float.ofScientific 1 false rest
    | steps + 1, x, rest =>
      if x == 0.0 then x else divide steps (x / Float.ofScientific 1 false 308) rest

end QueryModel.Decimal
