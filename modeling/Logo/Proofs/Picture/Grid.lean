import Logo.Picture.Grid

/-!
# Grids as pictures

A grid is known by its size and by what is seen at every place.  Changing a
cell changes what is seen there and nowhere else, and changes nothing if the
place is beside the grid.  A rectangle that was cut out of a grid and is put
back makes up for every change that was made within it.
-/

namespace Logo.Picture

variable {α : Type}

/-- The places in a rectangle. -/
def Rectangle.Contains (area : Rectangle) (pixel : Pixel) : Prop :=
  area.left ≤ pixel.x ∧ pixel.x < area.left + area.width ∧
    area.top ≤ pixel.y ∧ pixel.y < area.top + area.height

/-- A rectangle that lies on a grid of the given size. -/
def Rectangle.Within (area : Rectangle) (width height : Nat) : Prop :=
  0 ≤ area.left ∧ area.left + area.width ≤ width ∧ 0 ≤ area.top ∧ area.top + area.height ≤ height

theorem Rectangle.not_contains_of_isEmpty {area : Rectangle} (empty : area.isEmpty = true)
    (pixel : Pixel) : ¬ area.Contains pixel := by
  rintro ⟨left, right, top, bottom⟩
  simp only [isEmpty, Bool.or_eq_true, beq_iff_eq] at empty
  omega

/-- What is left of a rectangle by clipping it to a grid lies on the grid, if anything is left. -/
theorem Rectangle.within_clip (area : Rectangle) (width height : Nat)
    (some : (area.clip width height).isEmpty = false) :
    (area.clip width height).Within width height := by
  simp only [clip] at some ⊢
  split
  · rename_i overlap
    simp only [Bool.and_eq_true, decide_eq_true_eq] at overlap
    simp only [Within]
    omega
  · rename_i apart
    rw [if_neg apart] at some
    simp [isEmpty] at some

namespace Grid

variable {grid : Grid α} {pixel spot : Pixel}

/-- A place on a grid is within its width and its height. -/
theorem contains_iff : grid.contains pixel = true ↔
    0 ≤ pixel.x ∧ pixel.x < grid.width ∧ 0 ≤ pixel.y ∧ pixel.y < grid.height := by
  simp [contains, and_assoc]

/-- Different places on a grid are kept in different cells. -/
theorem index_inj (on : grid.contains pixel = true) (on' : grid.contains spot = true)
    (same : grid.index pixel = grid.index spot) : pixel = spot := by
  rw [contains_iff] at on on'
  obtain ⟨x, y⟩ := pixel
  obtain ⟨x', y'⟩ := spot
  simp only at on on'
  have column : x.toNat < grid.width := by omega
  have column' : x'.toNat < grid.width := by omega
  simp only [index] at same
  have rows : y.toNat = y'.toNat := by
    have divided := congrArg (· / grid.width) same
    simpa [Nat.mul_comm, Nat.mul_add_div (Nat.zero_lt_of_lt column), Nat.div_eq_of_lt column,
      Nat.div_eq_of_lt column'] using divided
  have columns : x.toNat = x'.toNat := by
    rw [rows] at same
    omega
  simp only [Pixel.mk.injEq]
  omega

/-- A place on a grid has a cell. -/
theorem index_lt (on : grid.contains pixel = true) : grid.index pixel < grid.cells.size := by
  obtain ⟨left, right, top, bottom⟩ := contains_iff.mp on
  have row : pixel.y.toNat + 1 ≤ grid.height := by omega
  calc grid.index pixel < pixel.y.toNat * grid.width + grid.width := by
        simp only [index]
        omega
    _ = (pixel.y.toNat + 1) * grid.width := (Nat.succ_mul ..).symm
    _ ≤ grid.height * grid.width := Nat.mul_le_mul_right grid.width row
    _ = grid.cells.size := by rw [grid.size_cells, Nat.mul_comm]

@[simp]
theorem width_set (cell : α) : (grid.set pixel cell).width = grid.width := by
  unfold set
  split <;> rfl

@[simp]
theorem height_set (cell : α) : (grid.set pixel cell).height = grid.height := by
  unfold set
  split <;> rfl

/-- Setting a cell keeps the places. -/
@[simp]
theorem contains_set (cell : α) : (grid.set pixel cell).contains spot = grid.contains spot := by
  simp [contains]

/-- Changing a cell changes nothing that is seen elsewhere. -/
theorem get?_set_ne (cell : α) (apart : spot ≠ pixel) :
    (grid.set pixel cell).get? spot = grid.get? spot := by
  unfold get?
  rw [contains_set]
  split
  · rename_i on
    unfold set
    split
    · rename_i changed
      have cells : grid.index pixel ≠ grid.index spot :=
        fun same => apart (index_inj changed on same).symm
      exact Array.getElem?_setIfInBounds_ne cells
    · rfl
  · rfl

/-- A changed cell is seen, if it is on the grid. -/
theorem get?_set_self (cell : α) :
    (grid.set pixel cell).get? pixel = if grid.contains pixel then some cell else none := by
  unfold get?
  rw [contains_set]
  split
  · rename_i on
    unfold set
    rw [if_pos on]
    exact Array.getElem?_setIfInBounds_self_of_lt (index_lt on)
  · rfl

@[simp]
theorem width_paint (pixels : List Pixel) (cell : α) :
    (grid.paint pixels cell).width = grid.width := by
  unfold paint
  induction pixels generalizing grid with
  | nil => rfl
  | cons pixel rest induction => rw [List.foldl_cons, induction, width_set]

@[simp]
theorem height_paint (pixels : List Pixel) (cell : α) :
    (grid.paint pixels cell).height = grid.height := by
  unfold paint
  induction pixels generalizing grid with
  | nil => rfl
  | cons pixel rest induction => rw [List.foldl_cons, induction, height_set]

@[simp]
theorem contains_paint (pixels : List Pixel) (cell : α) :
    (grid.paint pixels cell).contains spot = grid.contains spot := by
  simp [contains]

/-- Painting changes nothing that is seen elsewhere. -/
theorem get?_paint_of_not_mem {pixels : List Pixel} (cell : α) (elsewhere : spot ∉ pixels) :
    (grid.paint pixels cell).get? spot = grid.get? spot := by
  unfold paint
  induction pixels generalizing grid with
  | nil => rfl
  | cons pixel rest induction =>
      obtain ⟨apart, elsewhere⟩ := List.ne_and_not_mem_of_not_mem_cons elsewhere
      rw [List.foldl_cons, induction elsewhere, get?_set_ne cell apart]

/-- Painting changes what is seen at every place that is painted, if it is on the grid. -/
theorem get?_paint_of_mem {pixels : List Pixel} (cell : α) (painted : spot ∈ pixels) :
    (grid.paint pixels cell).get? spot = if grid.contains spot then some cell else none := by
  induction pixels generalizing grid with
  | nil => cases painted
  | cons pixel rest induction =>
      show ((grid.set pixel cell).paint rest cell).get? spot = _
      by_cases later : spot ∈ rest
      · rw [induction later, contains_set]
      · obtain rfl : spot = pixel := (List.mem_cons.mp painted).resolve_right later
        rw [get?_paint_of_not_mem cell later, get?_set_self]

theorem get?_filled (width height : Nat) (cell : α) :
    (filled width height cell).get? spot =
      if (filled width height cell).contains spot then some cell else none := by
  rw [get?]
  split
  · rename_i on
    have bound := index_lt on
    simp only [filled, Array.size_replicate] at bound ⊢
    rw [Array.getElem?_replicate, if_pos bound]
  · rfl

/-- There is something to see at a place just if it is on the grid. -/
theorem isSome_get? : (grid.get? pixel).isSome = grid.contains pixel := by
  rw [get?]
  split
  · rename_i on
    rw [Array.getElem?_eq_getElem (index_lt on), Option.isSome_some, on]
  · rename_i off
    rw [Option.isSome_none, eq_false_of_ne_true off]

/-- The place of a cell. -/
def pixelAt (grid : Grid α) (index : Nat) : Pixel :=
  ⟨(index % grid.width : Nat), (index / grid.width : Nat)⟩

/-- The place of an index has this index. -/
theorem index_pixelAt (grid : Grid α) (index : Nat) : grid.index (grid.pixelAt index) = index := by
  simp only [Grid.index, pixelAt, Int.toNat_natCast]
  exact Nat.div_add_mod' index grid.width

theorem contains_pixelAt {index : Nat} (bound : index < grid.width * grid.height) :
    grid.contains (grid.pixelAt index) = true := by
  have wide : 0 < grid.width := Nat.pos_of_mul_pos_right (Nat.zero_lt_of_lt bound)
  have column := Nat.mod_lt index wide
  have row : index / grid.width < grid.height := Nat.div_lt_of_lt_mul bound
  rw [contains_iff]
  exact ⟨Int.natCast_nonneg _, Int.ofNat_lt.mpr column, Int.natCast_nonneg _, Int.ofNat_lt.mpr row⟩

/-- A place is found again by its index. -/
theorem pixelAt_index (on : grid.contains pixel = true) :
    grid.pixelAt (grid.index pixel) = pixel := by
  have bound := index_lt on
  rw [grid.size_cells] at bound
  exact index_inj (contains_pixelAt bound) on (index_pixelAt grid _)

/-- What is seen at a place on the grid is what is kept in its cell. -/
theorem get?_pixelAt (grid : Grid α) {index : Nat} (bound : index < grid.width * grid.height) :
    grid.get? (grid.pixelAt index) = grid.cells[index]? := by
  rw [get?, contains_pixelAt bound, index_pixelAt, if_pos rfl]

/-- Where grids of one size look the same, they keep the same. -/
theorem cells_eq_of_get?_eq {other : Grid α} (width : other.width = grid.width)
    (height : other.height = grid.height) {index : Nat}
    (same : other.get? (grid.pixelAt index) = grid.get? (grid.pixelAt index)) :
    other.cells[index]? = grid.cells[index]? := by
  by_cases bound : index < grid.width * grid.height
  · have place : other.pixelAt index = grid.pixelAt index := by simp only [pixelAt, width]
    rw [← get?_pixelAt grid bound, ← same, ← place, get?_pixelAt other (by rwa [width, height])]
  · have beyond : grid.cells.size ≤ index := by
      rw [grid.size_cells]
      omega
    have beyond' : other.cells.size ≤ index := by
      rw [other.size_cells, width, height]
      omega
    rw [Array.getElem?_eq_none beyond, Array.getElem?_eq_none beyond']

/-- Grids of one size that look the same everywhere are the same. -/
theorem ext_get? {other : Grid α} (width : other.width = grid.width)
    (height : other.height = grid.height) (same : ∀ pixel, other.get? pixel = grid.get? pixel) :
    other = grid := by
  have cells : other.cells = grid.cells :=
    Array.ext_getElem? fun index => cells_eq_of_get?_eq width height (same _)
  obtain ⟨wide, high, cells', size⟩ := other
  simp only at width height cells
  subst width height cells
  rfl

/-- Grids of one size. -/
structure SameSize (grid other : Grid α) : Prop where
  width : grid.width = other.width
  height : grid.height = other.height

namespace SameSize

theorem refl (grid : Grid α) : SameSize grid grid :=
  ⟨rfl, rfl⟩

theorem symm {grid other : Grid α} (same : SameSize grid other) : SameSize other grid :=
  ⟨same.width.symm, same.height.symm⟩

theorem trans {first second third : Grid α} (left : SameSize first second)
    (right : SameSize second third) : SameSize first third :=
  ⟨left.width.trans right.width, left.height.trans right.height⟩

theorem set (grid : Grid α) (pixel : Pixel) (cell : α) : SameSize grid (grid.set pixel cell) :=
  ⟨(width_set cell).symm, (height_set cell).symm⟩

theorem paint (grid : Grid α) (pixels : List Pixel) (cell : α) :
    SameSize grid (grid.paint pixels cell) :=
  ⟨(width_paint pixels cell).symm, (height_paint pixels cell).symm⟩

/-- Grids of a size have the same places. -/
theorem contains {grid other : Grid α} (same : SameSize grid other) (pixel : Pixel) :
    grid.contains pixel = other.contains pixel := by
  simp only [Grid.contains, same.width, same.height]

end SameSize

/-- Grids of one size that differ only where they are painted over become the same. -/
theorem paint_congr {other : Grid α} {pixels : List Pixel} (cell : α) (size : SameSize grid other)
    (same : ∀ pixel, pixel ∉ pixels → grid.get? pixel = other.get? pixel) :
    grid.paint pixels cell = other.paint pixels cell := by
  unfold paint
  induction pixels generalizing grid other with
  | nil => exact ext_get? size.width size.height fun pixel => same pixel List.not_mem_nil
  | cons first rest induction =>
      apply induction
        (((SameSize.set grid first cell).symm.trans size).trans (.set other first cell))
      intro pixel elsewhere
      by_cases here : pixel = first
      · rw [here, get?_set_self, get?_set_self, size.contains]
      · rw [get?_set_ne cell here, get?_set_ne cell here]
        exact same pixel (by simp [here, elsewhere])

/-! ## Putting a rectangle back -/

/-- A row that was copied from some cells makes its cells agree with them again. -/
theorem setRow_agrees {source cells : Array α} {start : Nat} {row : List α}
    (size : cells.size = source.size)
    (copied : ∀ offset, offset < row.length → row[offset]? = source[start + offset]?)
    (index : Nat)
    (agrees : cells[index]? = source[index]? ∨ start ≤ index ∧ index < start + row.length) :
    (setRow start row cells)[index]? = source[index]? := by
  induction row generalizing start cells with
  | nil =>
      rcases agrees with agrees | ⟨above, below⟩
      · exact agrees
      · simp only [List.length_nil] at below
        omega
  | cons cell rest induction =>
      have first : some cell = source[start]? := by simpa using copied 0 (by simp)
      have bound : start < cells.size := by
        rw [size]
        exact (Array.getElem?_eq_some_iff.mp first.symm).1
      apply induction (by simpa using size)
      · intro offset short
        have later := copied (offset + 1) (by simpa using short)
        rw [List.getElem?_cons_succ] at later
        rw [later]
        congr 1
        omega
      · by_cases here : index = start
        · subst here
          rw [Array.getElem?_setIfInBounds_self_of_lt bound]
          exact Or.inl first
        · rw [Array.getElem?_setIfInBounds_ne (Ne.symm here)]
          refine agrees.imp_right ?_
          rintro ⟨above, below⟩
          simp only [List.length_cons] at below
          omega

/-- Rows that were copied from some cells make their cells agree with them again. -/
theorem setRows_agrees {source cells : Array α} {stride start width : Nat} {rows : List (List α)}
    (size : cells.size = source.size) (even : ∀ row ∈ rows, row.length = width)
    (copied : ∀ number row, rows[number]? = some row → ∀ offset, offset < width →
      row[offset]? = source[start + number * stride + offset]?)
    (index : Nat)
    (agrees : cells[index]? = source[index]? ∨ ∃ number, number < rows.length ∧
      start + number * stride ≤ index ∧ index < start + number * stride + width) :
    (setRows stride start rows cells)[index]? = source[index]? := by
  induction rows generalizing start cells with
  | nil =>
      rcases agrees with agrees | ⟨number, few, -⟩
      · exact agrees
      · simp at few
  | cons row rest induction =>
      obtain ⟨wide, even⟩ := List.forall_mem_cons.mp even
      have first := copied 0 row (by simp)
      simp only [Nat.zero_mul, Nat.add_zero] at first
      apply induction (by simpa using size) even
      · intro number later found offset short
        have next := copied (number + 1) later (by simpa using found) offset short
        rw [next, Nat.succ_mul]
        congr 1
        omega
      · by_cases here : start ≤ index ∧ index < start + width
        · exact Or.inl (setRow_agrees size (wide ▸ first) index (Or.inr (wide ▸ here)))
        · rcases agrees with agrees | ⟨number, few, above, below⟩
          · exact Or.inl (setRow_agrees size (wide ▸ first) index (Or.inl agrees))
          · cases number with
            | zero => omega
            | succ number =>
                refine Or.inr ⟨number, by simpa using few, ?_, ?_⟩ <;>
                  simp only [Nat.succ_mul] at above below <;> omega

/-- The rows of a rectangle that lies on a grid end before the cells of the grid do. -/
theorem crop_bound {area : Rectangle} {width height number : Nat}
    (within : area.Within width height) (few : number < area.height) :
    area.top.toNat * width + area.left.toNat + number * width + area.width ≤ width * height := by
  obtain ⟨left, right, top, bottom⟩ := within
  calc area.top.toNat * width + area.left.toNat + number * width + area.width
      = (area.top.toNat + number) * width + (area.left.toNat + area.width) := by
        rw [Nat.add_mul]
        omega
    _ ≤ (area.top.toNat + number) * width + width := by omega
    _ = (area.top.toNat + number + 1) * width := by rw [Nat.succ_mul]
    _ ≤ height * width := Nat.mul_le_mul_right width (by omega)
    _ = width * height := Nat.mul_comm height width

/-- The cells of a rectangle are those that its rows were copied from. -/
theorem crop_covers {area : Rectangle} (within : area.Within grid.width grid.height) {index : Nat}
    (inside : area.Contains (grid.pixelAt index)) :
    ∃ number, number < area.height ∧
      area.top.toNat * grid.width + area.left.toNat + number * grid.width ≤ index ∧
      index < area.top.toNat * grid.width + area.left.toNat + number * grid.width + area.width := by
  obtain ⟨left, -, top, -⟩ := within
  obtain ⟨first, last, above, below⟩ := inside
  simp only [pixelAt] at first last above below
  have split : index / grid.width * grid.width + index % grid.width = index :=
    Nat.div_add_mod' index grid.width
  have row : area.top.toNat + (index / grid.width - area.top.toNat) = index / grid.width := by omega
  have rows : area.top.toNat * grid.width + (index / grid.width - area.top.toNat) * grid.width =
      index / grid.width * grid.width := by rw [← Nat.add_mul, row]
  refine ⟨index / grid.width - area.top.toNat, ?_, ?_, ?_⟩ <;> omega

/-- The places of the cells that the rows of a rectangle were copied from are in the rectangle. -/
theorem contains_crop {area : Rectangle} (within : area.Within grid.width grid.height)
    {number offset : Nat} (few : number < area.height) (short : offset < area.width) :
    area.Contains (grid.pixelAt
      (area.top.toNat * grid.width + area.left.toNat + number * grid.width + offset)) := by
  obtain ⟨left, right, top, bottom⟩ := within
  have column : area.left.toNat + offset < grid.width := by omega
  have cell : area.top.toNat * grid.width + area.left.toNat + number * grid.width + offset =
      area.left.toNat + offset + (area.top.toNat + number) * grid.width := by
    rw [Nat.add_mul]
    omega
  have wide : 0 < grid.width := Nat.zero_lt_of_lt column
  rw [cell]
  simp only [pixelAt, Rectangle.Contains, Nat.add_mul_mod_self_right, Nat.mod_eq_of_lt column,
    Nat.add_mul_div_right _ _ wide, Nat.div_eq_of_lt column, Nat.zero_add]
  omega

/-- Grids of one size that look the same in a rectangle have the same rows there. -/
theorem crop_congr {other : Grid α} {area : Rectangle} (width : other.width = grid.width)
    (height : other.height = grid.height) (within : area.Within grid.width grid.height)
    (same : ∀ pixel, area.Contains pixel → other.get? pixel = grid.get? pixel) :
    other.crop area = grid.crop area := by
  have size : other.cells.size = grid.cells.size := by
    rw [other.size_cells, grid.size_cells, width, height]
  unfold crop
  rw [width]
  refine List.map_congr_left fun number few => congrArg Array.toList ?_
  refine Array.ext_getElem? fun offset => ?_
  simp only [Array.getElem?_extract, size]
  by_cases short : offset < area.width
  · have inside := contains_crop within (List.mem_range.mp few) short
    rw [cells_eq_of_get?_eq width height (same _ inside)]
  · rw [if_neg (by omega), if_neg (by omega)]

/-- A place looks as it did if it is in a rectangle that is put back, or if nothing changed
there. -/
theorem get?_paste_crop {painted : Grid α} {area : Rectangle} (width : painted.width = grid.width)
    (height : painted.height = grid.height) (within : area.Within grid.width grid.height)
    (agrees : painted.get? pixel = grid.get? pixel ∨ area.Contains pixel) :
    (painted.paste area (grid.crop area)).get? pixel = grid.get? pixel := by
  have tall : (grid.crop area).length = area.height := by simp [crop]
  have even : ∀ row ∈ grid.crop area, row.length = area.width := by
    intro row taken
    obtain ⟨number, few, rfl⟩ := List.mem_map.mp taken
    have bound := crop_bound within (List.mem_range.mp few)
    simp only [Array.length_toList, Array.size_extract, grid.size_cells]
    omega
  have size : painted.cells.size = grid.cells.size := by
    rw [painted.size_cells, grid.size_cells, width, height]
  have restored (on : grid.contains pixel = true) :
      (setRows grid.width (area.top.toNat * grid.width + area.left.toNat) (grid.crop area)
        painted.cells)[grid.index pixel]? = grid.cells[grid.index pixel]? := by
    apply setRows_agrees size even
    · intro number row found offset short
      obtain ⟨few, rfl⟩ := List.getElem?_eq_some_iff.mp found
      have bound := crop_bound within (tall ▸ few)
      simp only [crop, List.getElem_map, List.getElem_range, Array.getElem?_toList,
        Array.getElem?_extract, grid.size_cells]
      rw [if_pos (by omega)]
    · rw [tall]
      rw [← pixelAt_index on] at agrees
      exact agrees.imp (cells_eq_of_get?_eq width height) (crop_covers within)
  obtain ⟨wide, high, cells, size'⟩ := painted
  simp only at width height restored
  subst width height
  show (if grid.contains pixel then
      (setRows grid.width (area.top.toNat * grid.width + area.left.toNat) (grid.crop area)
        cells)[grid.index pixel]? else none) =
    if grid.contains pixel then grid.cells[grid.index pixel]? else none
  split
  · exact restored ‹_›
  · rfl

/-- Putting a rectangle back makes up for everything that was changed in it. -/
theorem paste_crop {painted : Grid α} {area : Rectangle} (width : painted.width = grid.width)
    (height : painted.height = grid.height) (within : area.Within grid.width grid.height)
    (outside : ∀ pixel, ¬ area.Contains pixel → painted.get? pixel = grid.get? pixel) :
    painted.paste area (grid.crop area) = grid := by
  refine ext_get? width height fun pixel => get?_paste_crop width height within ?_
  by_cases inside : area.Contains pixel
  · exact Or.inr inside
  · exact Or.inl (outside pixel inside)

end Grid

end Logo.Picture
