import Parsing.JsonText.Reader

/-!
Numbers in JSON text. A number without fraction or exponent that fits in 64 bits is an integer:
unsigned, or signed when it has a minus sign (minus zero and values below the least signed one
are floating point). Any other number is a 64-bit floating-point value: its digits up to the
64-bit range, times a power of ten, rounded by one multiplication or division; digits past the
range count only towards the exponent. A value beyond the largest finite one is out of range.
-/

namespace Parsing

namespace JsonText

namespace Reader

def maxWord : Nat := UInt64.size - 1

def maxExponent : Int := Int.pow 2 31 - 1

def powerOfTen (k : Nat) : Float := Float.ofScientific 1 false k

/-- `f · 10 ^ exponent`, with the sign applied last. A power up to 308 is one multiplication or
division; a larger one divides by `1e308` first, while the value is not zero, and a positive one
beyond 308 fails. So does a product that is infinite. -/
def scaled (positive : Bool) (f : Float) : Nat → Int → Reader Float
  | 0, _ => pure (if positive then f else -f)
  | fuel + 1, exponent =>
    if exponent.natAbs ≤ 308 then
      let f := if 0 ≤ exponent then f * powerOfTen exponent.toNat else f / powerOfTen exponent.natAbs
      if 0 ≤ exponent ∧ f.isInf then fail .numberOutOfRange
      else pure (if positive then f else -f)
    else if f == 0 then pure (if positive then f else -f)
    else if 0 ≤ exponent then fail .numberOutOfRange
    else scaled positive (f / powerOfTen 308) fuel (exponent + 308)

/-- The value of a number from its sign, its significand and its decimal exponent. Three rounds
of the loop of `scaled` take any significand of 64 bits to zero. -/
def float (positive : Bool) (significand : Nat) (exponent : Int) : Reader Float :=
  scaled positive significand.toUInt64.toFloat 8 exponent

def saturate (e : Int) : Int := max (-(maxExponent + 1)) (min maxExponent e)

/-- An exponent overflowed: a non-zero value with a positive exponent is out of range, any other
is zero. -/
def exponentOverflow (positive zeroSignificand positiveExponent : Bool) : Reader Float := do
  if !zeroSignificand && positiveExponent then fail .numberOutOfRange
  else
    skipDigits
    pure (if positive then 0 else -0)

def exponentDigits (positive : Bool) (significand : Nat) (starting : Int) (positiveExponent : Bool) :
    Nat → Int → Reader Float
  | 0, e => float positive significand (saturate (if positiveExponent then starting + e else starting - e))
  | fuel + 1, e => do
    let b ← peekOrNull
    if isDigit b then
      eat
      let e' := e * 10 + (b.toNat - 48)
      if maxExponent < e' then exponentOverflow positive (significand = 0) positiveExponent
      else exponentDigits positive significand starting positiveExponent fuel e'
    else
      float positive significand
        (saturate (if positiveExponent then starting + e else starting - e))

def exponentPart (positive : Bool) (significand : Nat) (starting : Int) : Reader Float := do
  eat
  let sign ← peekOrNull
  let positiveExponent ←
    if sign = 43 then do eat; pure true
    else if sign = 45 then do eat; pure false
    else pure true
  match ← next with
  | none => fail .eofWhileParsingValue
  | some b =>
    if isDigit b then
      let c ← get
      exponentDigits positive significand starting positiveExponent c.bytes.size (b.toNat - 48)
    else fail .invalidNumber

inductive FractionEnd where
  | atNonDigit
  | overflowed
deriving DecidableEq, Repr

/-- Reads the digits of a fraction. Returns the significand, how many digits it took, and how
the digits ended. -/
def fractionDigits : Nat → Nat → Nat → Reader (Nat × Nat × FractionEnd)
  | 0, significand, taken => pure (significand, taken, .atNonDigit)
  | fuel + 1, significand, taken => do
    let b ← peekOrNull
    if isDigit b then
      let s := significand * 10 + (b.toNat - 48)
      if maxWord < s then do skipDigits; pure (significand, taken, .overflowed)
      else do eat; fractionDigits fuel s (taken + 1)
    else pure (significand, taken, .atNonDigit)

/-- Reads a fraction at its point. A fraction needs a digit, unless its first digit already takes
the significand past 64 bits. -/
def fraction (positive : Bool) (significand : Nat) (before : Int) : Reader Float := do
  eat
  let c ← get
  let (significand, taken, ending) ← fractionDigits c.bytes.size significand 0
  if taken = 0 ∧ ending = .atNonDigit then
    match ← peek with
    | some _ => failAtNext .invalidNumber
    | none => failAtNext .eofWhileParsingValue
  else
    let exponent := before - taken
    let b ← peekOrNull
    if b = 101 ∨ b = 69 then exponentPart positive significand exponent
    else float positive significand exponent

/-- Reads the digits of an integer past the 64-bit range: each counts towards the exponent. -/
def longInteger (positive : Bool) (significand : Nat) : Nat → Int → Reader Float
  | 0, exponent => float positive significand exponent
  | fuel + 1, exponent => do
    let b ← peekOrNull
    if isDigit b then do eat; longInteger positive significand fuel (exponent + 1)
    else if b = 46 then fraction positive significand exponent
    else if b = 101 ∨ b = 69 then exponentPart positive significand exponent
    else float positive significand exponent

def afterInteger (positive : Bool) (significand : Nat) : Reader Unexpected := do
  let b ← peekOrNull
  if b = 46 then .float <$> fraction positive significand 0
  else if b = 101 ∨ b = 69 then .float <$> exponentPart positive significand 0
  else if positive then pure (.unsigned significand)
  else if significand = 0 ∨ Nat.pow 2 63 < significand then
    pure (.float (-(significand.toUInt64.toFloat)))
  else pure (.signed (-(significand : Int)))

def integerDigits (positive : Bool) : Nat → Nat → Reader Unexpected
  | 0, significand => afterInteger positive significand
  | fuel + 1, significand => do
    let b ← peekOrNull
    if isDigit b then
      let s := significand * 10 + (b.toNat - 48)
      if maxWord < s then do
        let c ← get
        pure (.float (← longInteger positive significand c.bytes.size 0))
      else do eat; integerDigits positive fuel s
    else afterInteger positive significand

def number (positive : Bool) : Reader Unexpected := do
  match ← next with
  | none => fail .eofWhileParsingValue
  | some b =>
    if b = 48 then
      if isDigit (← peekOrNull) then failAtNext .invalidNumber
      else afterInteger positive 0
    else if isDigit b then do
      let c ← get
      integerDigits positive c.bytes.size (b.toNat - 48)
    else fail .invalidNumber

def skipExponent : Reader Unit := do
  eat
  let sign ← peekOrNull
  if sign = 43 ∨ sign = 45 then eat
  if isDigit (← nextOrNull) then skipDigits else fail .invalidNumber

def skipNumber : Reader Unit := do
  let b ← nextOrNull
  if b = 48 then
    if isDigit (← peekOrNull) then failAtNext .invalidNumber
  else if isDigit b then skipDigits
  else fail .invalidNumber
  let b ← peekOrNull
  if b = 46 then
    eat
    if isDigit (← peekOrNull) then skipDigits else failAtNext .invalidNumber
    let e ← peekOrNull
    if e = 101 ∨ e = 69 then skipExponent
  else if b = 101 ∨ b = 69 then skipExponent

end Reader

end JsonText

end Parsing
