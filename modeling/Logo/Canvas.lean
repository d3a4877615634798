import Logo.Picture.Flood
import Logo.Platform
import Logo.Turtle
import Std.Data.HashSet

/-!
# The canvas

The canvas turns what the turtle does into changes of a picture.  The turtle
itself is drawn into the picture as a small triangle, its sprite.  Before the
sprite is dropped, the square under it is saved; before anything else is
drawn, the sprite is lifted by putting that square back.

A reversing pen inverts each place at most once per motion.  The places it
has turned are kept while a motion lasts, and each of its strokes is first
marked on a stencil of the size of the picture.
-/

namespace Logo

open Picture

/-- A rectangle of a picture, and the rows of colors that were in it. -/
structure Patch where
  area : Rectangle
  rows : List (List Color)

namespace Patch

/-- The colors of a surface within a rectangle. -/
def save (surface : Surface) (area : Rectangle) : Patch :=
  ⟨area, surface.crop area⟩

/-- Put the colors back. -/
def restore (patch : Patch) (surface : Surface) : Surface :=
  surface.paste patch.area patch.rows

end Patch

/-- A set of places. -/
abbrev Places := Std.HashSet Pixel

/-- A picture with the sprite on it. -/
structure Canvas where
  surface : Surface
  saved : Option Patch
  stencil : Grid Bool
  turned : Places

/-- What an animation does to a canvas. -/
inductive Brushwork where
  | glide (fresh : Bool) (fromX fromY toX toY : Float) (turtle : Turtle)
  | redraw (turtle : Turtle)
  | repaint (turtle : Turtle)
  | fill (turtle : Turtle)

namespace Canvas

variable [Rasterizer]

/-- The size of the sprite, from its middle to its nose. -/
def spriteSize : Nat := 15

def spriteColor : Color := ⟨0, 170, 0⟩

/-- A canvas on a surface, with nothing saved. -/
def onSurface (surface : Surface) : Canvas :=
  ⟨surface, none, .filled surface.width surface.height false, {}⟩

/-- Where a place of the turtle is on the picture. -/
def raster (canvas : Canvas) (x y : Float) : Point :=
  ⟨Number.ofNat canvas.surface.width / 2 + x, Number.ofNat canvas.surface.height / 2 - y⟩

/-- The nearest whole number of a coordinate, ties to even. -/
def nearestWhole (coordinate : Float) : Except Fault Int :=
  match Number.Exact.ofFloat? coordinate with
  | some value => .ok value.round
  | none => .error (if coordinate.isNaN then .undefinedIndex else .infiniteIndex)

/-- The place on the picture where the turtle is. -/
def pixel (canvas : Canvas) (turtle : Turtle) : Except Fault Pixel := do
  let point := canvas.raster turtle.x turtle.y
  let x ← nearestWhole point.x
  let y ← nearestWhole point.y
  return ⟨x, y⟩

/-- The corners of the sprite: its nose, and the two ends of its tail. -/
def spriteOutline (canvas : Canvas) (turtle : Turtle) : Except Fault (Point × Point × Point) := do
  let (sine, cosine) ← Turtle.direction turtle.heading
  let middle := canvas.raster turtle.x turtle.y
  let size := Number.ofNat spriteSize
  let tail : Point := ⟨middle.x - size / 2 * sine, middle.y - size / 2 * -cosine⟩
  return (⟨middle.x + size * sine, middle.y + size * -cosine⟩,
    ⟨tail.x + size / 2 * cosine, tail.y + size / 2 * sine⟩,
    ⟨tail.x - size / 2 * cosine, tail.y - size / 2 * sine⟩)

/-- The square that is saved under a sprite in the middle of it. -/
def spriteSquare (surface : Surface) (middle : Pixel) : Rectangle :=
  Rectangle.clip
    ⟨middle.x - spriteSize - 2, middle.y - spriteSize - 2, 2 * spriteSize + 4, 2 * spriteSize + 4⟩
    surface.width surface.height

/-- Forget which places the reversing pen has turned. -/
def forgetTurned (canvas : Canvas) : Canvas :=
  { canvas with turned := {} }

/-- Put back what the sprite was covering. -/
def lift (canvas : Canvas) : Canvas :=
  match canvas with
  | ⟨surface, saved, stencil, turned⟩ =>
      match saved with
      | none => ⟨surface, none, stencil, turned⟩
      | some patch => ⟨patch.restore surface, none, stencil, turned⟩

/-- Remember what a square covers, unless there is nothing in it. -/
def saveUnder (square : Rectangle) (canvas : Canvas) : Canvas :=
  if square.isEmpty then canvas
  else { canvas with saved := some (.save canvas.surface square) }

/-- Draw a triangle in the color of the sprite. -/
def paintSprite (corners : Point × Point × Point) (canvas : Canvas) : Canvas :=
  match canvas, corners with
  | ⟨surface, saved, stencil, turned⟩, (nose, left, right) =>
      ⟨surface.paint (Rasterizer.triangle nose left right) spriteColor, saved, stencil, turned⟩

/-- Actions on a canvas that may fail; what was drawn before stays. -/
abbrev Drawing := ExceptT Fault (StateM Canvas) Unit

/-- Save what is under the sprite's square, then draw the sprite if it is visible. -/
def drop (turtle : Turtle) : Drawing := fun canvas =>
  match canvas.pixel turtle with
  | .error fault => (.error fault, canvas)
  | .ok middle =>
      let outline := canvas.spriteOutline turtle
      let canvas := canvas.saveUnder (spriteSquare canvas.surface middle)
      if turtle.visible then
        match outline with
        | .error fault => (.error fault, canvas)
        | .ok corners => (.ok (), canvas.paintSprite corners)
      else
        (.ok (), canvas)

/-- How thick the turtle's strokes are: at least one, and no more than makes sense. -/
def thickness (surface : Surface) (turtle : Turtle) : Except Fault Nat := do
  let size ← nearestWhole turtle.penSize
  return (max 1 (min size (surface.width + surface.height))).toNat

/-- The color in which the pen paints or erases. -/
def inkColor (turtle : Turtle) : Color :=
  if turtle.penMode == .paint then turtle.penColor else turtle.background

/-- Invert a place that the pen has not turned yet. -/
def turnOver (surface : Surface) (turned : Places) (pixel : Pixel) : Surface × Places :=
  if turned.contains pixel then
    (surface, turned)
  else
    match surface.get? pixel with
    | none => (surface, turned)
    | some color => (surface.set pixel color.invert, turned.insert pixel)

/-- Turn over, one after the other, the places that are marked on a stencil. -/
def turnMarked (stencil : Grid Bool) :
    List Pixel → Surface → Places → Surface × Places
  | [], surface, turned => (surface, turned)
  | pixel :: rest, surface, turned =>
      if stencil.get? pixel == some true then
        let (surface, turned) := turnOver surface turned pixel
        turnMarked stencil rest surface turned
      else
        turnMarked stencil rest surface turned

/--
Invert the places of a stroke that have not been turned yet.  The stroke is
marked on the stencil, its marks are gone over, and the stencil is wiped.
-/
def reverseStroke (surface : Surface) (stencil : Grid Bool) (turned : Places)
    (pixels : List Pixel) : Surface × Grid Bool × Places :=
  let area := (Rectangle.around pixels).clip surface.width surface.height
  let stencil := stencil.paint pixels true
  let (surface, turned) := turnMarked stencil area.pixels surface turned
  (surface, stencil.paint area.pixels false, turned)

/--
Draw a stroke between two points of the picture.  A reversing pen leaves the
given places alone; they are given back with those that the stroke has turned.
-/
def stroke (start stop : Point) (turtle : Turtle) (done : Places) :
    ExceptT Fault (StateM Canvas) Places := fun canvas =>
  match canvas with
  | ⟨surface, saved, stencil, turned⟩ =>
      match thickness surface turtle with
      | .error fault => (.error fault, ⟨surface, saved, stencil, turned⟩)
      | .ok thickness =>
          let pixels := Rasterizer.line surface.width surface.height start stop thickness
          if turtle.penMode == .reverse then
            let (surface, stencil, done) := reverseStroke surface stencil done pixels
            (.ok done, ⟨surface, saved, stencil, turned⟩)
          else
            (.ok done, ⟨surface.paint pixels (inkColor turtle), saved, stencil, turned⟩)

/-- Draw a stroke of the motion that is going on. -/
def strokeOn (start stop : Point) (turtle : Turtle) : Drawing := do
  let done ← modifyGet fun (canvas : Canvas) => (canvas.turned, canvas.forgetTurned)
  let done ← stroke start stop turtle done
  modify fun canvas => { canvas with turned := done }

/-- Draw the sprite afresh. -/
def redraw (turtle : Turtle) : Drawing := do
  modify lift
  drop turtle

/-- Paint everything in the background color, then draw the sprite. -/
def repaint (turtle : Turtle) : Drawing := do
  modify fun canvas =>
    { canvas with
      surface := .filled canvas.surface.width canvas.surface.height turtle.background
      saved := none }
  drop turtle

/-- Fill the region where the turtle is, or invert it with a reversing pen. -/
def fillAround (turtle : Turtle) (canvas : Canvas) (seed : Pixel) : Canvas :=
  match canvas with
  | ⟨surface, saved, stencil, turned⟩ =>
      let (surface, _) :=
        if turtle.penMode == .reverse then surface.reverse seed
        else surface.fill seed (inkColor turtle)
      ⟨surface, saved, stencil, turned⟩

/-- Fill from under the sprite, then draw the sprite. -/
def fill (turtle : Turtle) : Drawing := do
  modify lift
  match (← get).pixel turtle with
  | .error fault => throw fault
  | .ok seed =>
      modify fun canvas => canvas.fillAround turtle seed
      drop turtle

/-- One frame of a motion: lift the sprite, draw the stroke so far, drop the sprite further on. -/
def glide (fresh : Bool) (fromX fromY toX toY : Float) (turtle : Turtle) : Drawing := do
  if fresh then
    modify forgetTurned
  modify lift
  if turtle.penDown then
    let canvas ← get
    let start := canvas.raster fromX fromY
    let stop := canvas.raster toX toY
    strokeOn start stop turtle
  drop { turtle with x := toX, y := toY }

/-- Do a piece of brushwork. -/
def apply : Brushwork → Drawing
  | .glide fresh fromX fromY toX toY turtle => glide fresh fromX fromY toX toY turtle
  | .redraw turtle => redraw turtle
  | .repaint turtle => repaint turtle
  | .fill turtle => fill turtle

end Canvas

end Logo
