/-!
The shortest decimal of a binary floating-point value: the decimal with the fewest significant
digits that lies in the interval of reals that round to the value, and of two such decimals the
nearer one, a tie going to the even one. The interval reaches halfway to the neighbouring values;
its ends belong to it when the binary mantissa is even, as round-to-nearest-even would return
the value for them. All arithmetic is exact, on natural numbers.
-/

namespace Parsing

/-- A finite, non-zero binary value `mantissa · 2 ^ exponent`. `narrowBelow` says that the next
value below lies only half as far as the next one above, as for the least value of a binade. -/
structure Binary where
  mantissa : Nat
  exponent : Int
  narrowBelow : Bool

structure Decimal where
  digits : Nat
  exponent : Int
deriving DecidableEq, Repr

namespace Binary

/-- The magnitude of a 64-bit floating-point value from its bits, with its sign; `none` for zero,
the infinities and NaN. -/
def ofBits (bits : UInt64) : Option (Bool × Binary) :=
  let negative := bits >>> 63 == 1
  let field := ((bits >>> 52) &&& 0x7FF).toNat
  let fraction := (bits &&& 0xFFFFFFFFFFFFF).toNat
  if field = 0x7FF then none
  else if field = 0 then
    if fraction = 0 then none else some (negative, ⟨fraction, -1074, false⟩)
  else
    some (negative, ⟨fraction + Nat.pow 2 52, (field : Int) - 1075, fraction = 0 ∧ field > 1⟩)

end Binary

namespace Decimal

def digitCount (n : Nat) : Nat := (Nat.toDigits 10 n).length

/-- Moves up to `fuel` trailing zeros of the digits into the exponent. -/
def stripZeros : Nat → Decimal → Decimal
  | 0, d => d
  | fuel + 1, d =>
    if d.digits ≠ 0 ∧ d.digits % 10 = 0 then stripZeros fuel ⟨d.digits / 10, d.exponent + 1⟩
    else d

def normalize (d : Decimal) : Decimal := stripZeros (digitCount d.digits) d

/-- The shortest decimal that rounds to the binary value, the nearer of two, and the even one of
two equally near. -/
def shortest (b : Binary) : Decimal :=
  -- the value, its interval and their common denominator, in units of 2 ^ (exponent - 2)
  let shift := b.exponent - 2
  let up := Nat.pow 2 shift.toNat
  let den := Nat.pow 2 (-shift).toNat
  let value := 4 * b.mantissa * up
  let high := (4 * b.mantissa + 2) * up
  let low := (4 * b.mantissa - (if b.narrowBelow then 1 else 2)) * up
  let inclusive := b.mantissa % 2 = 0
  -- 10 ^ e ≤ value / den
  let atLeast (e : Int) : Bool :=
    if 0 ≤ e then den * Nat.pow 10 e.toNat ≤ value else den ≤ value * Nat.pow 10 (-e).toNat
  let guess : Int := (digitCount value : Int) - digitCount den
  let lead := if atLeast guess then guess else guess - 1
  let candidate (n : Nat) : Option Decimal :=
    let k := lead - n + 1
    let scaleUp := Nat.pow 10 (-k).toNat
    let step := den * Nat.pow 10 k.toNat
    let scaled := value * scaleUp
    let below := scaled / step
    let fits (d : Nat) : Bool :=
      if inclusive then low * scaleUp ≤ d * step ∧ d * step ≤ high * scaleUp
      else low * scaleUp < d * step ∧ d * step < high * scaleUp
    match fits below, fits (below + 1) with
    | true, true =>
      let gapBelow := scaled - below * step
      let gapAbove := (below + 1) * step - scaled
      if gapBelow < gapAbove ∨ (gapBelow = gapAbove ∧ below % 2 = 0) then some ⟨below, k⟩
      else some ⟨below + 1, k⟩
    | true, false => some ⟨below, k⟩
    | false, true => some ⟨below + 1, k⟩
    | false, false => none
  let found := (List.range 17).findSome? fun i => candidate (i + 1)
  normalize (found.getD ⟨value / den, 0⟩)

end Decimal

end Parsing
