import Mathlib.Data.Int.Range
import Mathlib.Data.List.MinMax

/-!
# Steps

Values that come at integer times. Each holds until the next one comes, or until it is too old.
-/

namespace Lists

variable {α β τ : Type}

/-- The latest element at or before a time. -/
def latestAt [LinearOrder τ] (time : α → τ) (l : List α) (t : τ) : Option α :=
  (l.filter fun a => time a ≤ t).argmax time

/-- What holds at a time: the value of the latest element, unless it is too old. -/
def heldAt [LinearOrder τ] (time : α → τ) (value : α → Option β) (limit : α → τ) (l : List α) (t : τ) :
    Option β :=
  (latestAt time l t).bind fun a => if t < limit a then value a else none

/-- What holds at the integer times from `start` on and before `stop`. -/
def held (time : α → Int) (value : α → Option β) (limit : α → Int) (l : List α) (start stop : Int) :
    List β :=
  (Int.range start stop).filterMap (heldAt time value limit l)

end Lists
