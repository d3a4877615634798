import Logo.Color
import Logo.Picture.Grid

/-!
# Flood fill

Filling starts from a seed and spreads to the four neighbours of every place
that has exactly the color of the seed.  What a place holds may be a plain
color or one with an opacity; a flood tells two of them apart if they differ
in anything.
-/

namespace Logo.Picture

/-- A picture. -/
abbrev Surface := Grid Color

namespace Grid

variable {α : Type}

/-- The neighbours of a place on a grid: left, right, above, below; the last is visited first. -/
def neighbours (grid : Grid α) (pixel : Pixel) : List Pixel :=
  ([⟨pixel.x, pixel.y + 1⟩, ⟨pixel.x, pixel.y - 1⟩, ⟨pixel.x + 1, pixel.y⟩,
    ⟨pixel.x - 1, pixel.y⟩] : List Pixel).filter grid.contains

/-- How many visits a flood on a grid can need: the seed and four for each painted place. -/
def visitLimit (grid : Grid α) : Nat :=
  4 * (grid.width * grid.height) + 1

variable [DecidableEq α]

/--
Visit places one after the other.  A place of the target color is painted and
counted, and its neighbours are visited next.  Each visit uses up one of the
visits allowed.
-/
def spread (target replacement : α) : Nat → List Pixel → Grid α → Nat → Grid α × Nat
  | 0, _, grid, count => (grid, count)
  | _ + 1, [], grid, count => (grid, count)
  | visits + 1, pixel :: waiting, grid, count =>
      if grid.get? pixel == some target then
        let around := grid.neighbours pixel
        spread target replacement visits (around ++ waiting) (grid.set pixel replacement)
          (count + 1)
      else
        spread target replacement visits waiting grid count

/-- Replace the color of the region around a seed, and count its places. -/
def flood (grid : Grid α) (seed : Pixel) (replace : α → α) : Grid α × Nat :=
  match grid.get? seed with
  | none => (grid, 0)
  | some target =>
      if replace target == target then
        (grid, 0)
      else
        spread target (replace target) (visitLimit grid) [seed] grid 0

/-- Fill the region around a seed with a color. -/
def fill (grid : Grid α) (seed : Pixel) (color : α) : Grid α × Nat :=
  grid.flood seed fun _ => color

/-- Invert the region around a seed. -/
def reverse [Tone α] (grid : Grid α) (seed : Pixel) : Grid α × Nat :=
  grid.flood seed Tone.invert

end Grid

end Logo.Picture
