/-! Decimals kept to 53 bits. A decimal stands for the number `m * 2 ^ q` nearest to it, with `m`
below `2 ^ 53` and `q` from -1074 to 971, and that number is written by the fewest digits that stand
for it. All arithmetic is exact, on natural numbers. -/
namespace VersionGate

/-- The decimal `digits * 10 ^ exponent`. -/
structure Decimal where
  digits : Nat
  exponent : Int
deriving DecidableEq, Repr

namespace Decimal

/-- The number `m * 2 ^ q`. -/
structure Binary where
  m : Nat
  q : Int
deriving DecidableEq, Repr

/-- A quotient rounded to the nearest natural number, a half to the even one. -/
def roundDiv (a b : Nat) : Nat :=
  if 2 * (a % b) < b ∨ (2 * (a % b) = b ∧ a / b % 2 = 0) then a / b else a / b + 1

/-- The number nearest to a quotient, with the greatest `m` that fits; none if it is too large. -/
def Binary.nearest? (a b : Nat) : Option Binary :=
  let guess : Int := (a.log2 : Int) - b.log2
  let scale := if a * Nat.pow 2 (-guess).toNat < b * Nat.pow 2 guess.toNat then guess - 1 else guess
  let q := max (scale - 52) (-1074)
  let m := roundDiv (a * Nat.pow 2 (-q).toNat) (b * Nat.pow 2 q.toNat)
  let rounded : Binary := if m = Nat.pow 2 53 then ⟨Nat.pow 2 52, q + 1⟩ else ⟨m, q⟩
  if 971 < rounded.q then none else some rounded

/-- Whether `a / b` stands for `x`, both in quarters of `2 ^ q`: it is no farther than halfway to the
neighbours of `x`, and halfway only if `m` is even. The neighbour below a power of two is half as
far away. -/
def Binary.standsFor (x : Binary) (a b : Nat) : Bool :=
  let low := if x.m = Nat.pow 2 52 ∧ -1074 < x.q then 4 * x.m - 1 else 4 * x.m - 2
  let high := 4 * x.m + 2
  if x.m % 2 = 0 then low * b ≤ a && a ≤ high * b else low * b < a && a < high * b

/-- The nearer of the two multiples of `10 ^ exponent` around `x` that stand for `x`, the even one
if they are equally near. -/
def Binary.onGrid? (x : Binary) (exponent : Int) : Option Nat :=
  let a := x.m * Nat.pow 2 x.q.toNat * Nat.pow 10 (-exponent).toNat
  let b := Nat.pow 2 (-x.q).toNat * Nat.pow 10 exponent.toNat
  let below := a / b
  let stands (n : Nat) : Bool :=
    x.standsFor (4 * n * b) (Nat.pow 2 x.q.toNat * Nat.pow 10 (-exponent).toNat)
  match stands below, stands (below + 1) with
  | true, true => some (roundDiv a b)
  | true, false => some below
  | false, true => some (below + 1)
  | false, false => none

/-- The shortest decimal that stands for `x`: the one on the coarsest grid that has any. The search
starts above the leading digit of `x` and takes in all grids that may be needed. -/
def Binary.shortest (x : Binary) : Decimal :=
  let above : Int := (x.q + x.m.log2 + 1) * 30103 / 100000 + 2
  let grids := (List.range 21).map fun (step : Nat) => above - step
  (grids.findSome? fun exponent => (x.onGrid? exponent).map fun n => ⟨n, exponent⟩).getD
    ⟨x.m * Nat.pow 2 x.q.toNat * Nat.pow 5 (-x.q).toNat, min x.q 0⟩

/-- The decimal that is written for the number nearest to `d`; none if that is too large. -/
def settle? (d : Decimal) : Option Decimal :=
  let size : Int := (Nat.toDigits 10 d.digits).length + d.exponent
  if d.digits = 0 ∨ size < -330 then some ⟨0, 0⟩
  else if 330 < size then none
  else
    (Binary.nearest? (d.digits * Nat.pow 10 d.exponent.toNat)
        (Nat.pow 10 (-d.exponent).toNat)).map fun x =>
      if x.m = 0 then ⟨0, 0⟩ else x.shortest

end Decimal

end VersionGate
