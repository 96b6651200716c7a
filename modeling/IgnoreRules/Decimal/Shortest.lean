/-!
# Shortest decimals of binary doubles

A finite double stands for all the reals that round to it: those from halfway to the double below to
halfway to the double above, the ends included when the significand is even (ties go to even). The
shortest decimal of a double is a decimal with as few significant digits as possible inside that
interval, and of two such the one nearer the double; an exact tie goes to the even digit string. The
hit rate in the statistics of a cache (cache.py:83–95) is printed as such a decimal.

The search is done in exact natural-number arithmetic: for each number of digits from one up,
the two neighbours of the value on the decimal grid of that precision are tested, and the first
precision with a hit gives the answer.

- `Binary.ofBits`: the value `m * 2^q` of a finite, non-negative double.
- `Binary.readsBack`: whether a decimal lies in the interval of a double.
- `Decimal.shortest`: the shortest decimal of a finite, non-negative double.
-/

namespace IgnoreRules

/-- A finite non-negative double as `m * 2 ^ q`. -/
structure Binary where
  m : Nat
  q : Int
  /-- The double below is half as far as the double above: `m` is a power of two that is not
  the smallest normal significand. -/
  narrowBelow : Bool
  deriving DecidableEq, Repr

/-- A decimal `digits * 10 ^ exp`. -/
structure Decimal where
  digits : Nat
  exp : Int
  deriving DecidableEq, Repr

namespace Binary

/-- The value of the bits of a finite double, sign ignored. -/
def ofBits (b : UInt64) : Binary :=
  let e := ((b >>> 52) &&& 0x7FF).toNat
  let f := (b &&& 0xFFFFFFFFFFFFF).toNat
  if e == 0 then ⟨f, -1074, false⟩ else ⟨Nat.pow 2 52 + f, (e : Int) - 1075, f == 0 && e > 1⟩

/-- Compares `a * 10 ^ i` with `n * 2 ^ j` exactly. -/
def compareScaled (a : Nat) (i : Int) (n : Nat) (j : Int) : Ordering :=
  compare (a * Nat.pow 10 i.toNat * Nat.pow 2 (-j).toNat) (n * Nat.pow 2 j.toNat * Nat.pow 10 (-i).toNat)

/-- Whether a decimal rounds to the double: it lies strictly inside the interval, or on an end
when the significand is even. The ends are `(4m - 2) * 2^(q-2)` (or `4m - 1` for a narrow gap)
and `(4m + 2) * 2^(q-2)`. -/
def readsBack (x : Binary) (d : Decimal) : Bool :=
  let lo := if x.narrowBelow then 4 * x.m - 1 else 4 * x.m - 2
  let hi := 4 * x.m + 2
  let closed := x.m % 2 == 0
  let cl := compareScaled d.digits d.exp lo (x.q - 2)
  let ch := compareScaled d.digits d.exp hi (x.q - 2)
  (cl == .gt || (closed && cl == .eq)) && (ch == .lt || (closed && ch == .eq))

/-- The least `k` with `m * 2^q < 10^k`: the binary logarithm gives an estimate a little
below it, and exact comparisons step up from there. -/
def scale (x : Binary) : Int :=
  let below := fun (k : Int) => compareScaled 1 k x.m x.q == .gt
  let bits : Int := (Nat.log2 x.m : Int) + x.q
  let start : Int := bits * 30102999566 / 100000000000 - 2
  let steps := (List.range 8).find? fun (n : Nat) => below (start + (n : Int))
  start + ((steps.getD 8 : Nat) : Int)

end Binary

namespace Decimal

/-- Removes trailing zeros of the digits into the exponent. -/
def normalize (d : Decimal) : Decimal :=
  if d.digits == 0 then ⟨0, 0⟩
  else
    let zeros := (List.range 400).find? fun n => (d.digits / Nat.pow 10 (n + 1)) * Nat.pow 10 (n + 1) != d.digits
    let n := zeros.getD 0
    ⟨d.digits / Nat.pow 10 n, d.exp + n⟩

/-- The decimal with `n` significant digits chosen for the double `x` of scale `k`, if that
grid has a point in the interval: of the two neighbours of the value the one that reads back,
the nearer if both do, the even one on a tie. -/
def onGrid (x : Binary) (k : Int) (n : Nat) : Option Decimal :=
  let j := k - n
  -- t = floor(x / 10^j), from x = m * 2^q
  let num := x.m * Nat.pow 2 x.q.toNat * Nat.pow 10 (-j).toNat
  let den := Nat.pow 2 (-x.q).toNat * Nat.pow 10 j.toNat
  let t := num / den
  let below : Decimal := ⟨t, j⟩
  let above : Decimal := ⟨t + 1, j⟩
  match x.readsBack below, x.readsBack above with
  | true, true =>
    -- compare the distances: x - t*10^j against (t+1)*10^j - x, i.e. 2x against (2t+1)*10^j
    match Binary.compareScaled (2 * t + 1) j (2 * x.m) x.q with
    | .gt => some below
    | .lt => some above
    | .eq => some (if t % 2 == 0 then below else above)
  | true, false => some below
  | false, true => some above
  | false, false => none

/-- The shortest decimal of a finite non-negative double; zero is `0`. -/
def shortest (x : Binary) : Decimal :=
  if x.m == 0 then ⟨0, 0⟩
  else
    let k := x.scale
    match (List.range 17).findSome? fun i => onGrid x k (i + 1) with
    | some d => normalize d
    | none => normalize ⟨x.m * Nat.pow 5 (-x.q).toNat * Nat.pow 2 x.q.toNat, if x.q < 0 then x.q else 0⟩

end Decimal

/-- The shortest decimal of a finite non-negative float. -/
def decimalOfFloat (f : Float) : Decimal :=
  Decimal.shortest (Binary.ofBits f.toBits)

end IgnoreRules
