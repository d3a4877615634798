import Logo.Picture.Line

/-!
# Triangles

Which places a filled triangle covers.  Its corners are taken from the top
down; every row between the highest and the lowest reaches from the long side
to one of the two others.
-/

namespace Logo.Picture.Triangle

/-- Put a corner in front of all that are lower. -/
def insertByHeight (corner : Pixel) : List Pixel → List Pixel
  | [] => [corner]
  | other :: rest =>
      if other.y ≤ corner.y then other :: insertByHeight corner rest
      else corner :: other :: rest

/-- The columns that a side moves per row.  A level side moves very far. -/
def slope (upper lower : Pixel) : Float :=
  Number.ofInt (lower.x - upper.x) / (Number.ofInt (lower.y - upper.y) + 1e-17)

/-- The column of a side at a row. -/
def columnAt (upper : Pixel) (slope : Float) (y : Int) : Int :=
  (Number.whole? (Number.ofInt upper.x + Number.ofInt (y - upper.y) * slope)).getD 0

/-- The places of a row between two columns, whichever is first. -/
def rowBetween (y first second : Int) : List Pixel :=
  if second < first then rowPixels y second first else rowPixels y first second

/-- The places that a triangle with the given corners, from the top down, covers. -/
def covered (upper middle lower : Pixel) : List Pixel :=
  if upper.y == lower.y then
    rowPixels upper.y (min upper.x (min middle.x lower.x)) (max upper.x (max middle.x lower.x))
  else
    let long := slope upper lower
    let short := slope upper middle
    let last := slope middle lower
    (wholeRange upper.y lower.y).flatMap fun y =>
      let second := if y < middle.y then columnAt upper short y else columnAt middle last y
      rowBetween y (columnAt upper long y) second

/-- The places that a triangle covers. -/
def pixels (first second third : Point) : List Pixel :=
  match insertByHeight third.pixel (insertByHeight second.pixel [first.pixel]) with
  | [upper, middle, lower] => covered upper middle lower
  | _ => []

end Logo.Picture.Triangle
