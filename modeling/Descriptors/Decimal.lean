import Descriptors.Text

/-!
# Decimals

Numbers are read from decimal digits and written by them: integers by all of theirs, floats of double precision by the shortest
decimal that stands for them.
-/

/-! ## Decimal digits

A natural number as its digits, the most significant first and no zero in front, and a list of digits as a number.
-/

namespace Descriptors

namespace Decimal

/-- The decimal digits of a number, the most significant first. -/
def digits (n : Nat) : List Nat := if n < 10 then [n] else digits (n / 10) ++ [n % 10]
termination_by n

/-- The number that a list of digits writes. -/
def ofDigits (ds : List Nat) : Nat := ds.foldl (fun n d => 10 * n + d) 0

end Decimal

namespace Text

/-- A text of digits. -/
def ofDigits (ds : List Nat) : Text := ds.map (0x30 + ·)

/-- A natural number in decimal. -/
def ofNat (n : Nat) : Text := ofDigits (Decimal.digits n)

/-- An integer in decimal, with a dash in front of a negative one. -/
def ofInt : Int → Text
  | .ofNat n => ofNat n
  | .negSucc n => CodePoint.dash :: ofNat (n + 1)

end Text

end Descriptors

/-! ## The shortest decimal of a binary number

A binary number `m · 2 ^ q` of double precision stands for every real number that rounds to it. Among the decimals in that
interval the shortest is the one with the fewest digits, and of those the nearest to the number itself; of two equally near,
the even one. Everything is decided exactly, in natural numbers over a common denominator.

On the grid of decimals with a given number of digits only the two neighbours of the number need a test: if any point of the
grid lies in the interval, one of them does. Seventeen digits always suffice.
-/

namespace Descriptors

/-- The decimal `coefficient · 10 ^ exponent`. -/
structure Decimal where
  coefficient : Nat
  exponent : Int

/-- A positive number with the interval of what rounds to it, all over one denominator. -/
structure RoundingInterval where
  low : Nat
  value : Nat
  high : Nat
  denominator : Nat
  /-- Whether the ends round to the number, too. -/
  closed : Bool

namespace RoundingInterval

/-- The interval of `m · 2 ^ q`. It reaches half way to each neighbour; the lower neighbour of a power of two is `near`, at half
the distance. The ends belong to it where `m` is even. -/
def ofBinary (m : Nat) (q : Int) (near : Bool) : RoundingInterval :=
  let up := Nat.pow 2 q.toNat
  { low := (4 * m - if near then 1 else 2) * up
    value := 4 * m * up
    high := (4 * m + 2) * up
    denominator := 4 * Nat.pow 2 (-q).toNat
    closed := m % 2 == 0 }

/-- Whether the decimal `c · 10 ^ e` rounds to the number. -/
def holds (i : RoundingInterval) (e : Int) (c : Nat) : Bool :=
  let x := c * Nat.pow 10 e.toNat * i.denominator
  let down := Nat.pow 10 (-e).toNat
  if i.closed then i.low * down ≤ x && x ≤ i.high * down else i.low * down < x && x < i.high * down

/-- The neighbour of the number among the multiples of `10 ^ e` that rounds to it, the nearer one if both do. -/
def neighbour? (i : RoundingInterval) (e : Int) : Option Nat :=
  let scaled := i.value * Nat.pow 10 (-e).toNat
  let step := i.denominator * Nat.pow 10 e.toNat
  let below := scaled / step
  let rest := scaled % step
  let candidates :=
    if 2 * rest < step || (2 * rest == step && below % 2 == 0) then [below, below + 1] else [below + 1, below]
  candidates.find? (i.holds e)

/-- The place of the decimal point: the least `p` for which the number is below `10 ^ p`. The binary logarithm gives it but for
a few units. -/
def point (i : RoundingInterval) : Int :=
  let log : Int := Nat.log2 i.value - Nat.log2 i.denominator
  let least : Int := (log - 1) * 30103 / 100000
  let isAbove (p : Int) : Bool := i.value * Nat.pow 10 (-p).toNat < i.denominator * Nat.pow 10 p.toNat
  ([least, least + 1, least + 2].find? isAbove).getD (least + 3)

/-- The shortest decimal that rounds to the number. -/
def shortest (i : RoundingInterval) : Decimal :=
  let p := i.point
  let grids : List Int := (List.range 17).map fun (k : Nat) => p - (k + 1 : Nat)
  match grids.findSome? fun e => (i.neighbour? e).map fun c => (⟨c, e⟩ : Decimal) with
  | some d => d
  | none => ⟨0, 0⟩

end RoundingInterval

namespace Decimal

/-- The same decimal without zeros at the end of its coefficient, as far as the steps reach. -/
def trim : Nat → Decimal → Decimal
  | 0, d => d
  | steps + 1, d =>
    if d.coefficient ≠ 0 ∧ d.coefficient % 10 = 0 then trim steps ⟨d.coefficient / 10, d.exponent + 1⟩ else d

/-- The shortest decimal of a finite positive float. The bits give it as `m · 2 ^ q`: 52 bits of fraction, and above them the
exponent, whose least value stands for numbers without the leading one. -/
def ofPositiveFloat (x : Float) : Decimal :=
  let bits : Nat := x.toBits.toNat
  let fraction : Nat := bits % Nat.pow 2 52
  let exponent : Nat := bits / Nat.pow 2 52 % Nat.pow 2 11
  let interval :=
    if exponent = 0 then RoundingInterval.ofBinary fraction (-1074) false
    else RoundingInterval.ofBinary (fraction + Nat.pow 2 52) ((exponent : Int) - 1075) (fraction == 0 && 1 < exponent)
  trim 17 interval.shortest

/-- The float nearest to a decimal, infinite or zero where the decimal is out of range. The bounds only spare the powers of ten
that could not matter. -/
def toFloat (d : Decimal) : Float :=
  let size : Int := (digits d.coefficient).length + d.exponent
  if d.coefficient = 0 ∨ size < -400 then 0.0
  else if 400 < size then 1.0 / 0.0
  else Float.ofScientific d.coefficient (d.exponent < 0) d.exponent.natAbs

end Decimal

end Descriptors

/-! ## How a float is written

A float is written by the digits of its shortest decimal. Where the point goes, and when powers of ten are written out, is a
decision of the format, held in one record.
-/

namespace Descriptors

/-- The decisions of a format of floats. -/
structure FloatNotation where
  /-- The least place of the point, counted from the first digit, that is written without an exponent. -/
  leastPoint : Int
  /-- The greatest place of the point that is written without an exponent. -/
  greatestPoint : Int
  /-- The least number of digits of an exponent. -/
  exponentWidth : Nat
  notANumber : Text
  infinity : Text

namespace FloatNotation

/-- A decimal without an exponent, the point after `point` digits, and at least one digit on each side of it. -/
def positional (ds : Text) (point : Int) : Text :=
  let zeros (n : Nat) : Text := List.replicate n CodePoint.zero
  if point ≤ 0 then CodePoint.zero :: CodePoint.dot :: zeros (-point).toNat ++ ds
  else if ds.length ≤ point then ds ++ zeros (point.toNat - ds.length) ++ [CodePoint.dot, CodePoint.zero]
  else ds.take point.toNat ++ CodePoint.dot :: ds.drop point.toNat

/-- A decimal with an exponent, the point after the first digit if more follow. -/
def scientific (n : FloatNotation) (ds : Text) (point : Int) : Text :=
  let mantissa := match ds with
    | [] => []
    | [d] => [d]
    | d :: rest => d :: CodePoint.dot :: rest
  let exponent := point - 1
  let sign := if exponent < 0 then CodePoint.dash else CodePoint.plus
  let size := Text.ofNat exponent.natAbs
  mantissa ++ CodePoint.letterE :: sign :: List.replicate (n.exponentWidth - size.length) CodePoint.zero ++ size

/-- A finite float that is not below zero. -/
def ofMagnitude (n : FloatNotation) (x : Float) : Text :=
  if x == 0.0 then positional [CodePoint.zero] 1
  else
    let d := Decimal.ofPositiveFloat x
    let ds := Text.ofNat d.coefficient
    let point := ds.length + d.exponent
    if n.leastPoint ≤ point ∧ point ≤ n.greatestPoint then positional ds point else n.scientific ds point

/-- A float, with a dash in front where its sign is set. -/
def write (n : FloatNotation) (x : Float) : Text :=
  if x.isNaN then n.notANumber
  else
    let isNegative := x.toBits.toNat / Nat.pow 2 63 == 1
    let magnitude := if x.isInf then n.infinity else n.ofMagnitude x.abs
    if isNegative then CodePoint.dash :: magnitude else magnitude

end FloatNotation

end Descriptors
