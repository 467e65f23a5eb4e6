/-!
The decimal text of a floating point number: the fewest digits that read back as the number.

* `Decimal.shortest`: those digits and the exponent of the first one, by exact arithmetic on the
  interval of reals that round to the number;
* `Decimal.layout`: digits and exponent as text, positional near one and scientific elsewhere;
* `Decimal.ofFloat`: the two together, with sign.
-/

namespace SchemaFold.Text.Decimal

/-- The exponent `k` with `10 ^ k ≤ num / den < 10 ^ (k + 1)`, both parts positive. -/
def magnitude (num den : Nat) : Int :=
  if den ≤ num then ((toString (num / den)).length : Int) - 1
  else
    match (List.range 400).find? (fun j => den ≤ num * Nat.pow 10 j) with
    | some steps => -(steps : Int)
    | none => 0

/-- The numbers `a / b` that read back as the number between `low / b` and `high / b`. -/
def inside (low high : Nat) (closed : Bool) (a : Nat) : Bool :=
  if closed then low ≤ a && a ≤ high else low < a && a < high

/-- The nearer of two neighbours of `value` on the grid of step `step` that lie in the interval; of
two at the same distance the even one. -/
def neighbour? (value low high step : Nat) (closed : Bool) : Option Nat :=
  let below := value / step
  let above := below + 1
  let fitsBelow := below != 0 && inside low high closed (below * step)
  let fitsAbove := inside low high closed (above * step)
  let toBelow := value - below * step
  let toAbove := above * step - value
  if fitsBelow && fitsAbove then
    if toBelow < toAbove then some below
    else if toAbove < toBelow then some above
    else some (if below % 2 = 0 then below else above)
  else if fitsBelow then some below
  else if fitsAbove then some above
  else none

/-- The fewest digits of `m * 2 ^ q` that read back, as a number, with the exponent of their first
digit. -/
def shortest (m : Nat) (q : Int) : Nat × Int :=
  let twos := fun n : Nat => if 0 ≤ q - 2 then n * Nat.pow 2 (q - 2).toNat else n
  let den := if 0 ≤ q - 2 then 1 else Nat.pow 2 (2 - q).toNat
  let value := twos (4 * m)
  let low := twos (if m = Nat.pow 2 52 && q > -1074 then 4 * m - 1 else 4 * m - 2)
  let high := twos (4 * m + 2)
  let k := magnitude value den
  let attempt? := fun n : Nat =>
    let e := k - (n : Int) + 1
    let up := (-e).toNat
    let step := den * (if 0 ≤ e then Nat.pow 10 e.toNat else 1)
    let by10 := fun a : Nat => if 0 ≤ e then a else a * Nat.pow 10 up
    (neighbour? (by10 value) (by10 low) (by10 high) step (m % 2 == 0)).map (fun d => (d, e))
  match (List.range 17).findSome? (fun n => attempt? (n + 1)) with
  | some (digits, e) =>
    let width := ((toString digits).length : Int)
    (digits, e + width - 1)
  | none => (m, 0)

/-- Digits without the zeros at their end. -/
def withoutZeros (digits : List Char) : List Char :=
  match (digits.reverse.dropWhile (· == '0')).reverse with
  | [] => ['0']
  | kept => kept

/-- A number of two digits or more. -/
def twoDigits (n : Nat) : String := if n < 10 then "0" ++ toString n else toString n

/-- The text of digits whose first one has the exponent `k`: positional from `1e-5` up to below
`1e16`, and else with an exponent. -/
def layout (digits : List Char) (k : Int) : String :=
  let ds := withoutZeros digits
  if -5 ≤ k && k < 0 then
    "0." ++ String.ofList (List.replicate (-k - 1).toNat '0' ++ ds)
  else if 0 ≤ k && k < 16 then
    let whole := ds.take (k.toNat + 1)
    let rest := ds.drop (k.toNat + 1)
    let padded := whole ++ List.replicate (k.toNat + 1 - whole.length) '0'
    String.ofList padded ++ "." ++ (if rest.isEmpty then "0" else String.ofList rest)
  else
    let mantissa := match ds with
      | [] => ""
      | [d] => String.ofList [d]
      | d :: rest => String.ofList (d :: '.' :: rest)
    mantissa ++ (if 0 ≤ k then "e+" else "e-") ++ twoDigits k.natAbs

/-- The text of a finite number. -/
def ofFloat (x : Float) : String :=
  let bits : Nat := x.toBits.toNat
  let sign := if Nat.pow 2 63 ≤ bits then "-" else ""
  let field : Nat := (bits / Nat.pow 2 52) % Nat.pow 2 11
  let fraction : Nat := bits % Nat.pow 2 52
  if field = 0 && fraction = 0 then sign ++ "0.0"
  else
    let (m, q) := if field = 0 then (fraction, (-1074 : Int))
      else (fraction + Nat.pow 2 52, (field : Int) - 1075)
    let (digits, k) := shortest m q
    sign ++ layout (toString digits).toList k

end SchemaFold.Text.Decimal
