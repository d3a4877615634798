/-!
# Grids

A rectangle of cells, row after row from the top, each row from the left.
Places are given by whole numbers that may lie outside the grid; there is
nothing there to see, and changes there do nothing.
-/

namespace Logo.Picture

/-- A place on, or beside, a grid: `x` counts from the left and `y` from the top. -/
structure Pixel where
  x : Int
  y : Int
deriving DecidableEq, Repr, Hashable

/-- A rectangle of cells. -/
structure Grid (α : Type) where
  width : Nat
  height : Nat
  cells : Array α
  size_cells : cells.size = width * height

namespace Grid

variable {α : Type}

/-- A grid with the same thing in every cell. -/
def filled (width height : Nat) (cell : α) : Grid α :=
  ⟨width, height, Array.replicate (width * height) cell, by simp⟩

/-- Whether a place is on the grid. -/
def contains (grid : Grid α) (pixel : Pixel) : Bool :=
  0 ≤ pixel.x && pixel.x < grid.width && 0 ≤ pixel.y && pixel.y < grid.height

/-- Where the cell of a place is kept. -/
def index (grid : Grid α) (pixel : Pixel) : Nat :=
  pixel.y.toNat * grid.width + pixel.x.toNat

/-- The cell at a place, if the place is on the grid. -/
def get? (grid : Grid α) (pixel : Pixel) : Option α :=
  if grid.contains pixel then grid.cells[grid.index pixel]? else none

/-- Change the cell at a place, if the place is on the grid. -/
def set (grid : Grid α) (pixel : Pixel) (cell : α) : Grid α :=
  if grid.contains pixel then
    let ⟨width, height, cells, size_cells⟩ := grid
    ⟨width, height, cells.setIfInBounds (pixel.y.toNat * width + pixel.x.toNat) cell,
      by simp [size_cells]⟩
  else
    grid

/-- Put the same thing into all cells at some places. -/
def paint (grid : Grid α) (pixels : List Pixel) (cell : α) : Grid α :=
  pixels.foldl (fun painted pixel => painted.set pixel cell) grid

/-- The rows of the grid, from the top. -/
def rows (grid : Grid α) : List (List α) :=
  (List.range grid.height).map fun row =>
    (grid.cells.extract (row * grid.width) ((row + 1) * grid.width)).toList

end Grid

/-- So many whole numbers from `first` on. -/
def countFrom (first : Int) : Nat → List Int
  | 0 => []
  | count + 1 => first :: countFrom (first + 1) count

/-- The whole numbers from `first` to `last`. -/
def wholeRange (first last : Int) : List Int :=
  countFrom first (last + 1 - first).toNat

/-- The places of a row from one column to another. -/
def rowPixels (y first last : Int) : List Pixel :=
  (wholeRange first last).map fun x => ⟨x, y⟩

/-- The places of a column from one row to another. -/
def columnPixels (x first last : Int) : List Pixel :=
  (wholeRange first last).map fun y => ⟨x, y⟩

/-- A rectangle of places, by its top left corner and its size. -/
structure Rectangle where
  left : Int
  top : Int
  width : Nat
  height : Nat
deriving DecidableEq, Repr

namespace Rectangle

/-- Whether there is no place in a rectangle. -/
def isEmpty (rectangle : Rectangle) : Bool :=
  rectangle.width == 0 || rectangle.height == 0

/-- All places in a rectangle, column by column. -/
def pixels (rectangle : Rectangle) : List Pixel :=
  (wholeRange rectangle.left (rectangle.left + rectangle.width - 1)).flatMap fun x =>
    columnPixels x rectangle.top (rectangle.top + rectangle.height - 1)

/-- The part of a rectangle that lies on a grid of the given size. -/
def clip (rectangle : Rectangle) (width height : Nat) : Rectangle :=
  let left := max rectangle.left 0
  let top := max rectangle.top 0
  let right := min (rectangle.left + rectangle.width) width
  let bottom := min (rectangle.top + rectangle.height) height
  if left < right && top < bottom then
    ⟨left, top, (right - left).toNat, (bottom - top).toNat⟩
  else
    ⟨rectangle.left, rectangle.top, 0, 0⟩

/-- The smallest rectangle around some places. -/
def around : List Pixel → Rectangle
  | [] => ⟨0, 0, 0, 0⟩
  | first :: rest =>
      let left := rest.foldl (fun least pixel => min least pixel.x) first.x
      let right := rest.foldl (fun most pixel => max most pixel.x) first.x
      let top := rest.foldl (fun least pixel => min least pixel.y) first.y
      let bottom := rest.foldl (fun most pixel => max most pixel.y) first.y
      ⟨left, top, (right + 1 - left).toNat, (bottom + 1 - top).toNat⟩

end Rectangle

/-! ## Parts of a grid -/

namespace Grid

variable {α : Type}

/-- Put a row of things into neighbouring cells. -/
def setRow (index : Nat) : List α → Array α → Array α
  | [], cells => cells
  | cell :: rest, cells => setRow (index + 1) rest (cells.setIfInBounds index cell)

/-- Put rows of things into cells, each row one stride after the one before. -/
def setRows (stride index : Nat) : List (List α) → Array α → Array α
  | [], cells => cells
  | row :: rest, cells => setRows stride (index + stride) rest (setRow index row cells)

@[simp]
theorem size_setRow (index : Nat) (row : List α) (cells : Array α) :
    (setRow index row cells).size = cells.size := by
  induction row generalizing index cells with
  | nil => rfl
  | cons cell rest ih => simp [setRow, ih]

@[simp]
theorem size_setRows (stride index : Nat) (rows : List (List α)) (cells : Array α) :
    (setRows stride index rows cells).size = cells.size := by
  induction rows generalizing index cells with
  | nil => rfl
  | cons row rest ih => simp [setRows, ih]

/-- The rows of a rectangle that lies on the grid. -/
def crop (grid : Grid α) (area : Rectangle) : List (List α) :=
  let first := area.top.toNat * grid.width + area.left.toNat
  (List.range area.height).map fun row =>
    (grid.cells.extract (first + row * grid.width) (first + row * grid.width + area.width)).toList

/-- Put rows back into a rectangle that lies on the grid. -/
def paste (grid : Grid α) (area : Rectangle) (rows : List (List α)) : Grid α :=
  match grid with
  | ⟨width, height, cells, size_cells⟩ =>
      ⟨width, height, setRows width (area.top.toNat * width + area.left.toNat) rows cells,
        by simp [size_cells]⟩

end Grid

end Logo.Picture
