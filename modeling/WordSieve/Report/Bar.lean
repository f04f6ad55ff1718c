/-!
# Bars

A bar shows a share of something by the number of its full cells. The share is taken as a double
and cut to whole cells, and never goes past either end.
-/

set_option autoImplicit false

namespace WordSieve

/-- The bar with the given number of full cells. -/
def barOf (width full : Nat) : String :=
  "".pushn '█' (min full width) ++ "".pushn '░' (width - full)

/-- The bar for `value` out of `whole`. Nothing out of nothing is an empty bar, and so is a share
that is no number. -/
def shareBar (value whole : Float) (width : Nat) : String :=
  if whole <= 0 then barOf width 0
  else barOf width ((value / whole) * width.toUInt64.toFloat).toUInt64.toNat

/-- The bar for how much of a result is on display. -/
def displayBar (shown total width : Nat) : String :=
  shareBar (shown.toUInt64.toFloat) (total.toUInt64.toFloat) width

end WordSieve
