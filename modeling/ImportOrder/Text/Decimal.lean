/-!
# The shortest decimal text of a binary number

A 64-bit binary number stands for an interval of reals: those that round to it. Its
decimal text is the number in that interval with the fewest digits, and of two such
numbers the nearer one; where an exact tie goes is up to the format. Everything is
decided by exact arithmetic on naturals:

* `Binary` — a finite non-negative number as `m · 2^q`;
* `Tie` — what becomes of a number halfway between two candidates;
* `Binary.holds` — is `d · 10^e` in the interval? Its ends belong to it exactly when `m`
  is even;
* `Binary.shortest` — the coarsest decimal grid with a point in the interval, and that
  point;
* `plainDecimal` — the text, positional and without an exponent.

In the other direction `decimalFloat` rounds `d · 10^e` to the nearest binary number.
-/

namespace ImportOrder

/-- A finite non-negative binary number `m · 2^q`. -/
structure Binary where
  /-- the integral significand -/
  m : Nat
  /-- the binary exponent -/
  q : Int
  /-- the neighbour below is half as far away as the neighbour above -/
  narrowBelow : Bool

/-- Where a number goes that lies halfway between two points of a grid. -/
inductive Tie where
  /-- to the larger one -/
  | up
  /-- to the one with the even last digit -/
  | even

/-- The point taken for a tie between `low` and `low + 1`. -/
def Tie.settle (tie : Tie) (low : Nat) : Nat :=
  match tie with
  | .up => low + 1
  | .even => low + low % 2

namespace Binary

/-- The number that the exponent and fraction bits stand for. -/
def ofBits (bits : UInt64) : Binary :=
  let e := ((bits >>> 52) &&& 0x7FF).toNat
  let f := (bits &&& 0xFFFFFFFFFFFFF).toNat
  if e == 0 then ⟨f, -1074, false⟩ else ⟨0x10000000000000 + f, (e : Int) - 1075, f == 0 && e > 1⟩

/-- Compare `a · 10^i` with `b · 2^j`. -/
def compareScaled (a : Nat) (i : Int) (b : Nat) (j : Int) : Ordering :=
  compare (a * Nat.pow 10 i.toNat * Nat.pow 2 (-j).toNat)
    (b * Nat.pow 2 j.toNat * Nat.pow 10 (-i).toNat)

/-- The decimal `d · 10^e` rounds to the binary number. -/
def holds (x : Binary) (d : Nat) (e : Int) : Bool :=
  let below := compareScaled d e (4 * x.m - if x.narrowBelow then 1 else 2) (x.q - 2)
  let above := compareScaled d e (4 * x.m + 2) (x.q - 2)
  let closed := x.m % 2 == 0
  (below == .gt || (closed && below == .eq)) && (above == .lt || (closed && above == .eq))

/-- The point of the grid `10^e` that stands for the number, if there is one. -/
def onGrid (x : Binary) (tie : Tie) (e : Int) : Option Nat :=
  let num := x.m * Nat.pow 2 x.q.toNat * Nat.pow 10 (-e).toNat
  let den := Nat.pow 2 (-x.q).toNat * Nat.pow 10 e.toNat
  let low := num / den
  match x.holds low e, x.holds (low + 1) e with
  | true, true =>
    match compare (2 * (num - low * den)) den with
    | .lt => some low
    | .eq => some (tie.settle low)
    | .gt => some (low + 1)
  | true, false => some low
  | false, true => some (low + 1)
  | false, false => none

/-- The finest grid that is tried has `10^finest` between its points; it resolves every
number. -/
def finest : Int := -345

/-- Search the grids from `10^(finest + n)` down. -/
def shortestFrom (x : Binary) (tie : Tie) : Nat → Nat × Int
  | 0 => ((x.onGrid tie finest).getD 0, finest)
  | n + 1 =>
    match x.onGrid tie (finest + (n + 1 : Nat)) with
    | some d => (d, finest + (n + 1 : Nat))
    | none => shortestFrom x tie n

/-- The decimal `d · 10^e` with the fewest digits that rounds to the number. -/
def shortest (x : Binary) (tie : Tie) : Nat × Int := shortestFrom x tie 660

end Binary

/-- Digits with a decimal point at the place that the exponent asks for. -/
def positional (d : Nat) (e : Int) : String :=
  let digits := Nat.toDigits 10 d
  if 0 ≤ e then String.ofList (digits ++ List.replicate e.toNat '0')
  else
    let places := (-e).toNat
    let padded := List.replicate (places + 1 - digits.length) '0' ++ digits
    String.ofList (padded.take (padded.length - places) ++ '.' ::
      padded.drop (padded.length - places))

/-- The shortest positional text of a binary number: `1.5`, `1` for one, `-0`, `inf`,
`NaN`. Ties go up. -/
def plainDecimal (x : Float) : String :=
  if x.isNaN then "NaN"
  else
    let sign := if x.toBits >>> 63 == 1 then "-" else ""
    if x.isInf then sign ++ "inf"
    else
      let b := Binary.ofBits x.toBits
      if b.m == 0 then sign ++ "0"
      else
        let (d, e) := b.shortest .up
        sign ++ positional d e

/-- The binary number nearest to `d · 10^e`. Numbers far out of range are infinite or
zero. -/
def decimalFloat (d : Nat) (e : Int) : Float :=
  let digits : Int := (Nat.toDigits 10 d).length
  if d = 0 || e + digits < -340 then 0
  else if e + digits > 320 then 1.0 / 0.0
  else Float.ofScientific d (e < 0) e.natAbs

end ImportOrder
