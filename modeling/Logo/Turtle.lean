import Logo.Color
import Logo.Error
import Logo.Number.Rounding

/-!
# The turtle

The turtle has a place, a heading and a pen.  The middle of the screen is the
origin, `y` grows upward, and the heading is a compass bearing: zero is
straight up and turning right increases it.
-/

namespace Logo

/-- What the pen does to what it passes over. -/
inductive PenMode where
  | paint | erase | reverse
deriving DecidableEq, Repr

/-- Everything there is to know about the turtle. -/
structure Turtle where
  x : Float := 0
  y : Float := 0
  heading : Float := 0
  penDown : Bool := true
  penMode : PenMode := .paint
  penColor : Color := .black
  background : Color := .white
  penSize : Float := 2
  visible : Bool := true
deriving Inhabited

namespace Turtle

/-- The turtle at home, before any command. -/
def initial : Turtle := {}

/-- How far from the origin the turtle may go, in either direction. -/
def reach : Float := 1000000

/-- Whether a place is within reach.  An undefined coordinate is not. -/
def withinReach (x y : Float) : Bool :=
  x.abs ≤ reach && y.abs ≤ reach

/-- The heading, brought between zero and a full turn. -/
def bearing (turtle : Turtle) : Float :=
  Number.modulo turtle.heading 360

/-- Coordinates are kept to a billionth, so that rounding errors do not add up. -/
def tidy (coordinate : Float) : Float :=
  Number.toPlaces 9 coordinate + 0

/-- The turtle at another place, if that is within reach. -/
def moveTo (turtle : Turtle) (x y : Float) : Except Mishap Turtle :=
  if withinReach x y then
    .ok { turtle with x, y }
  else
    .error (.error .outOfReach)

/-- The sine and the cosine of a heading; an infinite one has none. -/
def direction (heading : Float) : Except Fault (Float × Float) :=
  let angle := Number.radians heading
  if angle.isInf then
    .error .infiniteAngle
  else
    .ok (angle.sin, angle.cos)

/-- The turtle some way ahead, or behind if the distance is negative. -/
def ahead (turtle : Turtle) (distance : Float) : Except Mishap Turtle :=
  match direction turtle.heading with
  | .error fault => .error (.fault fault)
  | .ok (sine, cosine) =>
      turtle.moveTo (tidy (turtle.x + distance * sine)) (tidy (turtle.y + distance * cosine))

end Turtle

end Logo
