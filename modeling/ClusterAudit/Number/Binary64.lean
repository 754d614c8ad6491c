/-!
# Rounding to doubles

The non-negative doubles are the rationals `m · 2 ^ e` with `m < 2 ^ 53` and `-1074 ≤ e ≤ 971`.
`Binary64.nearest` gives the double nearest to a rational, of two equally near ones the one with an
even `m`, and nothing when the rational lies beyond the largest double by half a step or more.

Everything is exact arithmetic on rationals; no value of type `Float` is involved.
-/

namespace ClusterAudit.Binary64

/-- The integer nearest to `num / den`; halfway goes to the even one. -/
def roundToEven (num den : Nat) : Nat :=
  let whole := num / den
  let left := num % den
  if 2 * left < den then whole
  else if den < 2 * left then whole + 1
  else if whole % 2 = 0 then whole else whole + 1

/-- The integer nearest to `num / den`; halfway goes up. -/
def roundHalfUp (num den : Nat) : Nat := (2 * num + den) / (2 * den)

/-- The pair of naturals whose quotient is `num / den · 2 ^ k`. -/
def scaled (num den : Nat) (k : Int) : Nat × Nat :=
  if 0 ≤ k then (num <<< k.toNat, den) else (num, den <<< (-k).toNat)

/-- The integer `k` with `2 ^ k ≤ num / den < 2 ^ (k + 1)`, for a positive quotient. -/
def logTwo (num den : Nat) : Int :=
  let k : Int := num.log2 - den.log2
  let (n, d) := scaled num den (-k)
  if n < d then k - 1 else k

/-- The rational `n · 2 ^ k`. -/
def dyadic (n : Nat) (k : Int) : Rat :=
  if 0 ≤ k then mkRat (n <<< k.toNat : Nat) 1 else mkRat n (1 <<< (-k).toNat)

/-- The first power of two beyond the doubles. -/
def limit : Nat := 1 <<< 1024

/-- The double nearest to a non-negative rational, if there is one. -/
def nearest (q : Rat) : Option Rat :=
  let num := q.num.toNat
  if num = 0 then some 0
  else
    let e := max (logTwo num q.den - 52) (-1074)
    let (n, d) := scaled num q.den (-e)
    let value := dyadic (roundToEven n d) e
    if limit ≤ value.num.toNat then none else some value

/-- The number of decimal digits of a natural number. -/
def digitCount (n : Nat) : Nat := (toString n).length

/-- The double nearest to `mantissa · 10 ^ exponent`. Exponents that leave no doubt are not
expanded. -/
def ofDecimal (mantissa : Nat) (exponent : Int) : Option Rat :=
  if mantissa = 0 then some 0
  else
    let magnitude := digitCount mantissa + exponent
    if magnitude > 310 then none
    else if magnitude < -330 then some 0
    else if 0 ≤ exponent then nearest (mkRat (mantissa * Nat.pow 10 exponent.toNat : Nat) 1)
    else nearest (mkRat mantissa (.pow 10 (-exponent).toNat))

end ClusterAudit.Binary64
