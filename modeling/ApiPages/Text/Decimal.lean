import ApiPages.Text.Scan

namespace ApiPages.Text

-- A positive number `mantissa * 2 ^ exponent` with the neighbourhood that rounds to it,
-- all over one denominator: `low / den` and `high / den` bound it, `value / den` is it.
structure Neighbourhood where
  low : Nat
  value : Nat
  high : Nat
  den : Nat
  -- The ends themselves round to the number.
  closed : Bool

def neighbourhood (bits : UInt64) : Neighbourhood :=
  let field := ((bits >>> 52) &&& 0x7ff).toNat
  let fraction := (bits &&& 0xfffffffffffff).toNat
  let mantissa := if field = 0 then fraction else fraction + 0x10000000000000
  let exponent : Int := (if field = 0 then 1 else (field : Int)) - 1075
  -- Below a power of two the grid is twice as fine.
  let below := if fraction = 0 ∧ field > 1 then 1 else 2
  let scale := if exponent ≥ 2 then Nat.pow 2 (exponent - 2).toNat else 1
  let den := if exponent ≥ 2 then 1 else Nat.pow 2 (2 - exponent).toNat
  { low := (4 * mantissa - below) * scale
    value := 4 * mantissa * scale
    high := (4 * mantissa + 2) * scale
    den := den
    closed := mantissa % 2 = 0 }

-- The exponent `k` with `10 ^ k ≤ value / den < 10 ^ (k + 1)`.
def magnitude (value den : Nat) : Int :=
  if value ≥ den then ((Nat.toDigits 10 (value / den)).length : Int) - 1
  else
    let rec down (fuel : Nat) (k : Nat) (scaled : Nat) : Int :=
      match fuel with
      | 0 => -(k : Int)
      | fuel + 1 => if scaled ≥ den then -(k : Int) else down fuel (k + 1) (scaled * 10)
    down 400 0 value

-- The point nearest to the number among the two around it on the grid of multiples of
-- `10 ^ place`, when it rounds to the number.
def onGrid (n : Neighbourhood) (place : Int) : Option Nat :=
  let up := if place < 0 then Nat.pow 10 (-place).toNat else 1
  let unit := n.den * (if place ≥ 0 then Nat.pow 10 place.toNat else 1)
  let inside (digits : Nat) : Bool :=
    let point := digits * unit
    if n.closed then n.low * up ≤ point && point ≤ n.high * up
    else n.low * up < point && point < n.high * up
  let floor := n.value * up / unit
  let lower := inside floor && floor > 0
  let upper := inside (floor + 1)
  let excess := n.value * up - floor * unit
  if lower && upper then
    if 2 * excess < unit || (2 * excess = unit && floor % 2 = 0) then some floor else some (floor + 1)
  else if lower then some floor
  else if upper then some (floor + 1)
  else none

-- Digits and the decimal exponent of the first one, with the fewest digits that read back.
def shortest (bits : UInt64) : List Char × Int :=
  let n := neighbourhood bits
  let top := magnitude n.value n.den
  let rec search (left : Nat) (count : Nat) : Nat × Int :=
    let place := top - count + 1
    match left with
    | 0 => (n.value / n.den, 0)
    | left + 1 =>
      match onGrid n place with
      | some digits => (digits, place)
      | none => search left (count + 1)
  let (digits, place) := search 17 1
  let text := Nat.toDigits 10 digits
  let kept := dropEndWhile (· = '0') text
  (if kept.isEmpty then ['0'] else kept, place + (text.length : Int) - 1)

-- Positional notation serves exponents from -4 up to 15.
def placeDigits (digits : List Char) (exponent : Int) : List Char :=
  if -4 ≤ exponent ∧ exponent < 16 then
    if exponent < 0 then
      '0' :: '.' :: List.replicate ((-exponent).toNat - 1) '0' ++ digits
    else
      let whole := exponent.toNat + 1
      let padded := digits ++ List.replicate (whole - digits.length) '0'
      let fraction := padded.drop whole
      padded.take whole ++ '.' :: (if fraction.isEmpty then ['0'] else fraction)
  else
    let size := padLeft 2 '0' (Nat.toDigits 10 exponent.natAbs)
    let mark := 'e' :: (if exponent < 0 then '-' else '+') :: size
    match digits with
    | d :: rest => (if rest.isEmpty then [d] else d :: '.' :: rest) ++ mark
    | [] => mark

-- The fewest digits that read back as the number, nearest to it among those, in positional notation
-- for the common magnitudes and with an exponent for the others.
def decimal (x : Float) : String :=
  if x.isNaN then "nan"
  else
    let negative := (x.toBits >>> 63) == 1
    let sign := if negative then ['-'] else []
    if x.isInf then String.ofList (sign ++ "inf".toList)
    else if x == 0.0 then String.ofList (sign ++ "0.0".toList)
    else
      let (digits, exponent) := shortest (x.toBits &&& 0x7fffffffffffffff)
      String.ofList (sign ++ placeDigits digits exponent)

-- The number nearest to `digits * 10 ^ exponent`; beyond the range it is infinite or zero.
def ofDecimal (negative : Bool) (digits : List Char) (exponent : Int) : Float :=
  let mantissa := numeral 10 digits
  let size : Int := (Nat.toDigits 10 mantissa).length + exponent
  let magnitude : Float :=
    if mantissa = 0 then 0.0
    else if size > 400 then 1.0 / 0.0
    else if size < -400 then 0.0
    else if exponent < 0 then Float.ofScientific mantissa true (-exponent).toNat
    else Float.ofScientific mantissa false exponent.toNat
  if negative then -magnitude else magnitude

end ApiPages.Text
