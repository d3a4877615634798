import Logo.Color
import Logo.Picture.Line
import Logo.Picture.Triangle

/-!
# The platform

What the language leaves to whatever it runs on: which places of a picture a
line or a triangle covers, which colors have names, and how much of the stack
there is.  The stack is measured in procedure calls.  A program that runs
out of it is stopped, and so is the reading of one.

Everything else is stated for any platform.  `Platform.standard` is the one on
which programs are run.
-/

namespace Logo

open Picture

/-- Which places of a picture the shapes cover that are drawn on it. -/
class Rasterizer where
  line (width height : Nat) (start stop : Point) (thickness : Nat) : List Pixel
  triangle (first second third : Point) : List Pixel

/-- What is left to the platform. -/
class Platform extends Rasterizer where
  /-- How many procedure calls may be inside each other. -/
  calls : Nat
  /-- How many calls' worth of the stack it takes to ask for something to be drawn. -/
  asking : Nat
  /-- How many readers of a program may be inside each other. -/
  readers : Nat
  /-- The color that a text stands for. -/
  color? : String → Option Color

/-- The platform on which programs are run. -/
abbrev Platform.standard : Platform where
  line := Line.pixels
  triangle := Triangle.pixels
  calls := 3333
  asking := 1
  readers := 1000
  color? := Color.ofText?

end Logo
