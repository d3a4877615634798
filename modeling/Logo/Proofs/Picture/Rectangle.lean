import Logo.Proofs.Picture.Grid

/-!
# Rectangles and what is in them

A rectangle is given by a corner and a size, and gone over place by place.
Here it is said which places those are, for the rectangle itself, for the part
of it on a grid, and for the smallest one around some places.
-/

namespace Logo.Picture

theorem mem_countFrom {value first : Int} {count : Nat} :
    value ∈ countFrom first count ↔ first ≤ value ∧ value < first + count := by
  induction count generalizing first with
  | zero => simp [countFrom]
  | succ count induction =>
      rw [countFrom, List.mem_cons, induction]
      omega

theorem mem_wholeRange {value first last : Int} :
    value ∈ wholeRange first last ↔ first ≤ value ∧ value ≤ last := by
  rw [wholeRange, mem_countFrom]
  omega

theorem mem_columnPixels {pixel : Pixel} {x first last : Int} :
    pixel ∈ columnPixels x first last ↔ pixel.x = x ∧ first ≤ pixel.y ∧ pixel.y ≤ last := by
  obtain ⟨column, row⟩ := pixel
  simp only [columnPixels, List.mem_map, mem_wholeRange, Pixel.mk.injEq]
  constructor
  · rintro ⟨_, between, rfl, rfl⟩
    exact ⟨rfl, between⟩
  · rintro ⟨rfl, between⟩
    exact ⟨row, between, rfl, rfl⟩

namespace Rectangle

variable {area : Rectangle} {pixel : Pixel}

/-- The pixels of a rectangle are those that it contains. -/
theorem mem_pixels : pixel ∈ area.pixels ↔ area.Contains pixel := by
  simp only [pixels, List.mem_flatMap, mem_wholeRange, mem_columnPixels, Contains]
  constructor
  · rintro ⟨_, across, rfl, down⟩
    omega
  · intro inside
    exact ⟨pixel.x, by omega, rfl, by omega⟩

/-- Clipping to a picture leaves the pixels that lie on the picture. -/
theorem contains_clip {width height : Nat} :
    (area.clip width height).Contains pixel ↔
      area.Contains pixel ∧ 0 ≤ pixel.x ∧ pixel.x < width ∧ 0 ≤ pixel.y ∧ pixel.y < height := by
  simp only [clip]
  split
  · rename_i some
    simp only [Bool.and_eq_true, decide_eq_true_eq] at some
    simp only [Contains]
    omega
  · rename_i none
    simp only [Bool.and_eq_true, decide_eq_true_eq] at none
    simp only [Contains]
    omega

/-- What a fold picks comes before everything that it picks from. -/
theorem foldl_picks {before : Int → Int → Prop} (refl : ∀ value, before value value)
    (trans : ∀ {first second third}, before first second → before second third →
      before first third)
    {pick : Int → Int → Int} (left : ∀ value other, before (pick value other) value)
    (right : ∀ value other, before (pick value other) other) (coordinate : Pixel → Int)
    (pixels : List Pixel) (start : Int) :
    before (pixels.foldl (fun best pixel => pick best (coordinate pixel)) start) start ∧
      ∀ pixel ∈ pixels,
        before (pixels.foldl (fun best pixel => pick best (coordinate pixel)) start)
          (coordinate pixel) := by
  induction pixels generalizing start with
  | nil => exact ⟨refl start, List.forall_mem_nil _⟩
  | cons first rest induction =>
      obtain ⟨picks, others⟩ := induction (pick start (coordinate first))
      exact ⟨trans picks (left _ _), List.forall_mem_cons.mpr ⟨trans picks (right _ _), others⟩⟩

theorem foldl_min_le (coordinate : Pixel → Int) {first : Pixel} {rest : List Pixel}
    (member : pixel ∈ first :: rest) :
    rest.foldl (fun least pixel => min least (coordinate pixel)) (coordinate first) ≤
      coordinate pixel := by
  have picks := foldl_picks Int.le_refl Int.le_trans Int.min_le_left Int.min_le_right coordinate
    rest (coordinate first)
  rcases List.mem_cons.mp member with rfl | later
  · exact picks.1
  · exact picks.2 pixel later

theorem le_foldl_max (coordinate : Pixel → Int) {first : Pixel} {rest : List Pixel}
    (member : pixel ∈ first :: rest) :
    coordinate pixel ≤
      rest.foldl (fun most pixel => max most (coordinate pixel)) (coordinate first) := by
  have picks := @foldl_picks (fun value other => other ≤ value) Int.le_refl
    (fun second first => Int.le_trans first second) max Int.le_max_left Int.le_max_right coordinate
    rest (coordinate first)
  rcases List.mem_cons.mp member with rfl | later
  · exact picks.1
  · exact picks.2 pixel later

/-- Every place is in the smallest rectangle around it and some others. -/
theorem contains_around {pixels : List Pixel} (member : pixel ∈ pixels) :
    (around pixels).Contains pixel := by
  cases pixels with
  | nil => cases member
  | cons first rest =>
      have left := foldl_min_le Pixel.x member
      have right := le_foldl_max Pixel.x member
      have top := foldl_min_le Pixel.y member
      have bottom := le_foldl_max Pixel.y member
      simp only [around, Contains]
      omega

end Rectangle

end Logo.Picture
