/-! Shortest decimals of binary64 values. A finite value stands for the interval of reals that
round to it; the shortest decimal of the value is a decimal in that interval with the fewest
significant digits, and of two such the one nearer the value, a tie going to the even digit. The
search is exact arithmetic on naturals: for one, two, up to seventeen digits it tests the value's
two neighbours on that decimal grid. -/

namespace LispReader

namespace Decimal

/-- A finite non-negative binary64 value `m * 2 ^ q`, with whether the gap to the value below is
half the gap to the value above, as it is just above a power of two. -/
structure Binary where
  /-- The significand. -/
  m : Nat
  /-- The binary exponent. -/
  q : Int
  /-- Whether the gap below is the narrow one. -/
  narrowBelow : Bool

/-- The magnitude of a finite value from its bits; the sign bit is ignored. -/
def Binary.ofBits (bits : UInt64) : Binary :=
  let e := ((bits >>> 52) &&& 0x7FF).toNat
  let f := (bits &&& 0xFFFFFFFFFFFFF).toNat
  if e = 0 then ⟨f, -1074, false⟩ else ⟨Nat.pow 2 52 + f, (e : Int) - 1075, f = 0 && e > 1⟩

/-- A decimal `digits * 10 ^ exp`. -/
structure Dec where
  /-- The digits as one natural number. -/
  digits : Nat
  /-- The decimal exponent of the last digit. -/
  exp : Int

/-- Compares `a * 10 ^ i` with `n * 2 ^ j`, exactly. -/
def cmpScaled (a : Nat) (i : Int) (n : Nat) (j : Int) : Ordering :=
  compare (a * Nat.pow 10 i.toNat * Nat.pow 2 (-j).toNat)
    (n * Nat.pow 2 j.toNat * Nat.pow 10 (-i).toNat)

/-- Whether a decimal lies among the reals that round to the value, to nearest with ties to
even: strictly inside the interval, or on one of its ends when the significand is even. -/
def Binary.readsBack (x : Binary) (d : Dec) : Bool :=
  let lo := if x.narrowBelow then 4 * x.m - 1 else 4 * x.m - 2
  let hi := 4 * x.m + 2
  let ends := x.m % 2 == 0
  let below := cmpScaled d.digits d.exp lo (x.q - 2)
  let above := cmpScaled d.digits d.exp hi (x.q - 2)
  (below == .gt || (ends && below == .eq)) && (above == .lt || (ends && above == .eq))

/-- Whether the value lies below `10 ^ k`. -/
def Binary.below (x : Binary) (k : Int) : Bool :=
  cmpScaled 1 k x.m x.q == .gt

/-- Moves an estimate of the scale to the least `k` with the value below `10 ^ k`, a step at a time,
at most `fuel` steps. -/
def Binary.settleScale (x : Binary) (k : Int) : Nat → Int
  | 0 => k
  | fuel + 1 =>
    if !x.below k then x.settleScale (k + 1) fuel
    else if x.below (k - 1) then x.settleScale (k - 1) fuel
    else k

/-- The least `k` with the value below `10 ^ k`, for a nonzero value. The estimate from the
binary length is off by at most one. -/
def Binary.scale (x : Binary) : Int :=
  x.settleScale (((x.m.log2 : Int) + x.q + 1) * 30103 / 100000) 4

/-- The value's lower neighbour on the grid `10 ^ g`, as a count of grid steps. -/
def Binary.floorOnGrid (x : Binary) (g : Int) : Nat :=
  (x.m * Nat.pow 2 x.q.toNat * Nat.pow 10 (-g).toNat) / (Nat.pow 2 (-x.q).toNat * Nat.pow 10 g.toNat)

/-- The decimal on the grid `10 ^ g` that reads back as the value, if one does: of the value's two
neighbours on the grid the one that reads back, of two the nearer, and of two as near the even. -/
def Binary.onGrid (x : Binary) (g : Int) : Option Dec :=
  let low := x.floorOnGrid g
  let lowHits := x.readsBack ⟨low, g⟩
  let highHits := x.readsBack ⟨low + 1, g⟩
  if lowHits && highHits then
    -- Twice the value against the sum of the two neighbours decides which is nearer.
    match cmpScaled (2 * low + 1) g (2 * x.m) x.q with
    | .gt => some ⟨low, g⟩
    | .lt => some ⟨low + 1, g⟩
    | .eq => some (if low % 2 = 0 then ⟨low, g⟩ else ⟨low + 1, g⟩)
  else if lowHits then some ⟨low, g⟩
  else if highHits then some ⟨low + 1, g⟩
  else none

/-- Drops trailing zeros of the digits into the exponent, at most `fuel` of them. -/
def Dec.trim (d : Dec) : Nat → Dec
  | 0 => d
  | fuel + 1 =>
    if d.digits ≠ 0 ∧ d.digits % 10 = 0 then Dec.trim ⟨d.digits / 10, d.exp + 1⟩ fuel else d

/-- The exact decimal value of a binary value. -/
def Binary.exact (x : Binary) : Dec :=
  if x.q ≥ 0 then ⟨x.m * Nat.pow 2 x.q.toNat, 0⟩ else ⟨x.m * Nat.pow 5 (-x.q).toNat, x.q⟩

/-- The shortest decimal of a nonzero value: the first of the grids of one to seventeen
significant digits that holds a decimal reading back as the value, trailing zeros dropped. -/
def Binary.shortest (x : Binary) : Dec :=
  let k := x.scale
  let found := (List.range 17).findSome? fun n => x.onGrid (k - (n + 1 : Nat))
  (found.getD x.exact).trim 400

end Decimal

end LispReader
