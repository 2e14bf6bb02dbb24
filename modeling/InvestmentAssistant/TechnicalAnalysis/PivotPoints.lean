import InvestmentAssistant.Core.Models
import InvestmentAssistant.Foundation.Decimal

/-!
# Pivot points

`getPivotCandle` picks the last completed day, and `calculatePivotPoints` derives five sets of pivot
points from its prices, each rounded to five decimals. The formulas are those of the source with the
rounding `fl` of the arithmetic after each operation and on each constant that is no integer: `id`
for exact arithmetic, which is the default, and `roundBinary64` for doubles.
-/

namespace InvestmentAssistant

open Decimal

/-- `get_pivot_candle`: the last but one candle, the only one, or none. -/
def getPivotCandle (dailyOhlcv : List OHLCVData) : Option OHLCVData :=
  if 2 ≤ dailyOhlcv.length then dailyOhlcv[dailyOhlcv.length - 2]? else dailyOhlcv.getLast?

/-- A set of pivot points with all levels, rounded. -/
def roundedPivots (fl : ℚ → ℚ) (type : PivotType) (pp r1 s1 r2 s2 r3 s3 : ℚ) : PivotPoints where
  type := type
  pp := some (fl (roundTo 5 pp))
  s1 := some (fl (roundTo 5 s1))
  s2 := some (fl (roundTo 5 s2))
  s3 := some (fl (roundTo 5 s3))
  r1 := some (fl (roundTo 5 r1))
  r2 := some (fl (roundTo 5 r2))
  r3 := some (fl (roundTo 5 r3))

/-- `_classic`. -/
def classicPivots (fl : ℚ → ℚ) (h lo c : ℚ) : PivotPoints :=
  let pp := fl (fl (fl (h + lo) + c) / 3)
  roundedPivots fl .classic pp (fl (fl (2 * pp) - lo)) (fl (fl (2 * pp) - h))
    (fl (pp + fl (h - lo))) (fl (pp - fl (h - lo))) (fl (h + fl (2 * fl (pp - lo))))
    (fl (lo - fl (2 * fl (h - pp))))

/-- `_fibonacci`. -/
def fibonacciPivots (fl : ℚ → ℚ) (h lo c : ℚ) : PivotPoints :=
  let pp := fl (fl (fl (h + lo) + c) / 3)
  let diff := fl (h - lo)
  roundedPivots fl .fibonacci pp (fl (pp + fl (fl 0.382 * diff))) (fl (pp - fl (fl 0.382 * diff)))
    (fl (pp + fl (fl 0.618 * diff))) (fl (pp - fl (fl 0.618 * diff))) (fl (pp + diff))
    (fl (pp - diff))

/-- `_camarilla`. -/
def camarillaPivots (fl : ℚ → ℚ) (h lo c : ℚ) : PivotPoints :=
  let pp := fl (fl (fl (h + lo) + c) / 3)
  let diff := fl (h - lo)
  roundedPivots fl .camarilla pp (fl (c + fl (fl (fl 1.1 * diff) / 12)))
    (fl (c - fl (fl (fl 1.1 * diff) / 12))) (fl (c + fl (fl (fl 1.1 * diff) / 6)))
    (fl (c - fl (fl (fl 1.1 * diff) / 6))) (fl (c + fl (fl (fl 1.1 * diff) / 4)))
    (fl (c - fl (fl (fl 1.1 * diff) / 4)))

/-- `_woodie`. -/
def woodiePivots (fl : ℚ → ℚ) (h lo c : ℚ) : PivotPoints :=
  let pp := fl (fl (fl (h + lo) + fl (2 * c)) / 4)
  roundedPivots fl .woodie pp (fl (fl (2 * pp) - lo)) (fl (fl (2 * pp) - h))
    (fl (pp + fl (h - lo))) (fl (pp - fl (h - lo))) (fl (h + fl (2 * fl (pp - lo))))
    (fl (lo - fl (2 * fl (h - pp))))

/-- `_demark`, with one support and one resistance. -/
def demarkPivots (fl : ℚ → ℚ) (h lo c o : ℚ) : PivotPoints :=
  let x := if c < o then fl (fl (h + fl (2 * lo)) + c)
    else if o < c then fl (fl (fl (2 * h) + lo) + c)
    else fl (fl (h + lo) + fl (2 * c))
  { type := .demark
    pp := some (fl (roundTo 5 (fl (x / 4))))
    r1 := some (fl (roundTo 5 (fl (fl (x / 2) - lo))))
    s1 := some (fl (roundTo 5 (fl (fl (x / 2) - h)))) }

/-- `calculate_pivot_points`, in the arithmetic that rounds the result of each operation by `fl`. -/
def calculatePivotPoints (high low close open_ : ℚ) (fl : ℚ → ℚ := id) : List PivotPoints :=
  [classicPivots fl high low close, fibonacciPivots fl high low close,
    camarillaPivots fl high low close, woodiePivots fl high low close,
    demarkPivots fl high low close open_]

end InvestmentAssistant
