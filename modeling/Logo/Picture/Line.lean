import Logo.Number.Rounding
import Logo.Picture.Grid

/-!
# Lines

Which places a straight stroke touches.  The path from one place to another
takes one step of the longer direction at a time.  A thick stroke has, at each
place of the path, a row or a column of places across it.  A thin stroke that
starts or ends outside the surface is first clipped to it.
-/

namespace Logo.Picture

/-- A point given by real coordinates. -/
structure Point where
  x : Float
  y : Float

/-- The place of a point: fractions are dropped. -/
def Point.pixel (point : Point) : Pixel :=
  ⟨(Number.whole? point.x).getD 0, (Number.whole? point.y).getD 0⟩

namespace Line

/-- Where a path is, and how far it has strayed from the straight line. -/
structure Walk where
  pixel : Pixel
  error : Int

/-- The lengths of a step in each direction and the way to go. -/
structure Course where
  dx : Int
  dy : Int
  sx : Int
  sy : Int

/-- The course from one place to another. -/
def Course.between (start stop : Pixel) : Course where
  dx := (stop.x - start.x).natAbs
  dy := (stop.y - start.y).natAbs
  sx := if start.x < stop.x then 1 else -1
  sy := if start.y < stop.y then 1 else -1

/-- One step along a course. -/
def Course.advance (course : Course) (walk : Walk) : Walk :=
  let (x, error) :=
    if -course.dx < walk.error then (walk.pixel.x + course.sx, walk.error - course.dy)
    else (walk.pixel.x, walk.error)
  let (y, error) :=
    if walk.error < course.dy then (walk.pixel.y + course.sy, error + course.dx)
    else (walk.pixel.y, error)
  ⟨⟨x, y⟩, error⟩

/-- The places of a walk of so many steps. -/
def Course.places (course : Course) (walk : Walk) : Nat → List Pixel
  | 0 => [walk.pixel]
  | steps + 1 => walk.pixel :: course.places (course.advance walk) steps

/-- The places from one to another. -/
def path (start stop : Pixel) : List Pixel :=
  let course := Course.between start stop
  let error := (if course.dy < course.dx then course.dx else -course.dy).tdiv 2
  course.places ⟨start, error⟩ (max course.dx course.dy).toNat

/-- The places across a path at one of its places, as far as they are on the surface. -/
def across (width height thickness : Nat) (upright : Bool) (pixel : Pixel) : List Pixel :=
  let half : Int := thickness / 2
  let extra : Int := 1 - thickness % 2
  if upright then
    rowPixels pixel.y (max 0 (pixel.x - half + extra)) (min (width - 1) (pixel.x + half))
  else
    columnPixels pixel.x (max 0 (pixel.y - half + extra)) (min (height - 1) (pixel.y + half))

/-- The part of a line, between `0` at its start and `1` at its end, that is left by clipping. -/
structure Part where
  first : Float
  last : Float

/-- Clip a part of a line at one edge; nothing may be left. -/
def Part.clip? (part : Part) (towards room : Float) : Option Part :=
  if towards == 0 then
    if room < 0 then none else some part
  else
    let meeting := room / towards
    if towards < 0 then
      if part.last < meeting then none
      else some ⟨if part.first < meeting then meeting else part.first, part.last⟩
    else
      if meeting < part.first then none
      else some ⟨part.first, if meeting < part.last then meeting else part.last⟩

/-- The place at a fraction of a line, rounded to the nearest, halves away from zero. -/
def placeAt (start : Pixel) (dx dy fraction : Float) : Pixel :=
  let rounded (number : Float) : Int :=
    ((Number.Exact.ofFloat? number).map Number.Exact.roundAway).getD 0
  ⟨start.x + rounded (fraction * dx), start.y + rounded (fraction * dy)⟩

/-- Clip a line to the surface, its right and lower edges included. -/
def clip? (width height : Nat) (start stop : Pixel) : Option (Pixel × Pixel) := do
  let dx := Number.ofInt (stop.x - start.x)
  let dy := Number.ofInt (stop.y - start.y)
  let part ← Part.clip? ⟨0, 1⟩ (-dx) (Number.ofInt start.x)
  let part ← part.clip? dx (Number.ofInt (width - start.x))
  let part ← part.clip? (-dy) (Number.ofInt start.y)
  let part ← part.clip? dy (Number.ofInt (height - start.y))
  return (placeAt start dx dy part.first, placeAt start dx dy part.last)

/-- The places that a stroke touches, some of which may lie outside the surface. -/
def touched (width height : Nat) (start stop : Pixel) (thickness : Nat) : List Pixel :=
  let inside (pixel : Pixel) : Bool :=
    0 ≤ pixel.x && pixel.x < width && 0 ≤ pixel.y && pixel.y < height
  if thickness ≤ 1 then
    if inside start && inside stop then
      path start stop
    else
      match clip? width height start stop with
      | none => []
      | some (start, stop) => path start stop
  else
    let course := Course.between start stop
    (path start stop).flatMap (across width height thickness (course.dx ≤ course.dy))

/-- The places on the surface that a stroke touches. -/
def pixels (width height : Nat) (start stop : Point) (thickness : Nat) : List Pixel :=
  (touched width height start.pixel stop.pixel thickness).filter fun pixel =>
    0 ≤ pixel.x && pixel.x < width && 0 ≤ pixel.y && pixel.y < height

end Line

end Logo.Picture
