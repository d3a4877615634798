import Logo.Canvas
import Logo.Proofs.Effectful
import Logo.Proofs.Picture.Grid

/-!
# The sprite leaves no trace

The sprite is drawn straight into the picture, over what the pen has left
there.  Nothing of that is lost: lifting the sprite gives back the picture as
it was before the sprite was dropped.  For this the sprite must not reach
beyond the square that is saved under it, as far as it is on the picture at
all.

Even without that, a sprite that is lifted and dropped again where it was is
back as it was: what lifting has left of it is painted over.
-/

namespace Logo.Canvas

open Picture

/-- Where a point falls depends on the size of the picture only. -/
theorem raster_of_sameSize {canvas other : Canvas}
    (size : Grid.SameSize canvas.surface other.surface) : other.raster = canvas.raster := by
  funext x y
  simp only [raster, size.width, size.height]

/-- Where nothing was saved, there is no sprite to lift. -/
theorem lift_of_saved_none {canvas : Canvas} (bare : canvas.saved = none) :
    canvas.lift = canvas := by
  obtain ⟨surface, saved, stencil, turned⟩ := canvas
  simp only at bare
  subst bare
  rfl

/-- Lifting the sprite keeps the size. -/
theorem sameSize_lift (canvas : Canvas) : Grid.SameSize canvas.surface canvas.lift.surface := by
  obtain ⟨surface, _ | patch, stencil, turned⟩ := canvas <;> exact ⟨rfl, rfl⟩

theorem saveUnder_eq (square : Rectangle) (canvas : Canvas) :
    canvas.saveUnder square =
      ⟨canvas.surface, (canvas.saveUnder square).saved, canvas.stencil, canvas.turned⟩ := by
  unfold saveUnder
  split <;> rfl

/-- Lifting makes up for every change within the square that was saved. -/
theorem lift_saveUnder {canvas : Canvas} (bare : canvas.saved = none) (area : Rectangle)
    {painted : Surface} (width : painted.width = canvas.surface.width)
    (height : painted.height = canvas.surface.height)
    (outside : ∀ pixel,
      ¬ (area.clip canvas.surface.width canvas.surface.height).Contains pixel →
        painted.get? pixel = canvas.surface.get? pixel) :
    lift ⟨painted,
      (canvas.saveUnder (area.clip canvas.surface.width canvas.surface.height)).saved,
      canvas.stencil, canvas.turned⟩ = canvas := by
  obtain ⟨surface, saved, stencil, turned⟩ := canvas
  simp only at bare width height outside
  subst bare
  unfold saveUnder
  split
  · rename_i empty
    have same : painted = surface := Grid.ext_get? width height fun pixel =>
      outside pixel (Rectangle.not_contains_of_isEmpty empty pixel)
    simp [lift, same]
  · rename_i some
    have within := Rectangle.within_clip area surface.width surface.height (by simpa using some)
    have restored := Grid.paste_crop width height within outside
    simp only [lift, Patch.restore, Patch.save, restored]

/-! ## What a sprite covers comes back -/

/-- The canvas with a sprite on it that covers some places. -/
def withSprite (canvas : Canvas) (middle : Pixel) (covered : List Pixel) : Canvas :=
  ⟨canvas.surface.paint covered spriteColor,
    (canvas.saveUnder (spriteSquare canvas.surface middle)).saved, canvas.stencil, canvas.turned⟩

/-- The square of a sprite lies on the picture. -/
theorem within_spriteSquare (surface : Surface) (middle : Pixel)
    (some : (spriteSquare surface middle).isEmpty = false) :
    (spriteSquare surface middle).Within surface.width surface.height :=
  Rectangle.within_clip _ _ _ some

/--
Lifting a sprite gives back all places that it did not cover, and all places
that were saved under it.
-/
theorem get?_lift_withSprite {canvas : Canvas} (bare : canvas.saved = none) {middle : Pixel}
    {covered : List Pixel} {pixel : Pixel}
    (free : pixel ∉ covered ∨ (spriteSquare canvas.surface middle).Contains pixel) :
    (canvas.withSprite middle covered).lift.surface.get? pixel = canvas.surface.get? pixel := by
  obtain ⟨surface, saved, stencil, turned⟩ := canvas
  simp only at bare
  subst bare
  simp only [withSprite, saveUnder]
  have unpainted : pixel ∉ covered → (surface.paint covered spriteColor).get? pixel =
      surface.get? pixel := Grid.get?_paint_of_not_mem spriteColor
  split
  · rename_i empty
    have beside := Rectangle.not_contains_of_isEmpty empty pixel
    exact unpainted (free.resolve_right beside)
  · rename_i some
    have within := within_spriteSquare surface middle (by simpa using some)
    exact Grid.get?_paste_crop (Grid.width_paint _ _) (Grid.height_paint _ _) within
      (free.imp_left unpainted)

theorem sameSize_lift_withSprite (canvas : Canvas) (middle : Pixel) (covered : List Pixel) :
    Grid.SameSize canvas.surface (canvas.withSprite middle covered).lift.surface :=
  (Grid.SameSize.paint canvas.surface covered spriteColor).trans
    (sameSize_lift (canvas.withSprite middle covered))

/-- A canvas with its sprite lifted has nothing saved. -/
theorem lift_eq (canvas : Canvas) :
    canvas.lift = ⟨canvas.lift.surface, none, canvas.stencil, canvas.turned⟩ := by
  obtain ⟨surface, _ | patch, stencil, turned⟩ := canvas <;> rfl

/-- What is saved under a sprite is the same when the sprite is dropped again. -/
theorem saveUnder_lift {canvas : Canvas} (bare : canvas.saved = none) (middle : Pixel)
    (covered : List Pixel) :
    ((canvas.withSprite middle covered).lift.saveUnder (spriteSquare canvas.surface middle)).saved =
      (canvas.saveUnder (spriteSquare canvas.surface middle)).saved := by
  have size := sameSize_lift_withSprite canvas middle covered
  unfold saveUnder
  split
  · rw [lift_eq, bare]
  · rename_i some
    have within := within_spriteSquare canvas.surface middle (by simpa using some)
    have rows := Grid.crop_congr size.width.symm size.height.symm within fun pixel inside =>
      get?_lift_withSprite bare (.inr inside)
    simp only [Patch.save, rows]

/-- A sprite that is lifted and dropped again where it was is back as it was. -/
theorem withSprite_lift {canvas : Canvas} (bare : canvas.saved = none) (middle : Pixel)
    (covered : List Pixel) :
    (canvas.withSprite middle covered).lift.withSprite middle covered =
      canvas.withSprite middle covered := by
  have size := sameSize_lift_withSprite canvas middle covered
  have painted := Grid.paint_congr spriteColor size.symm fun pixel free =>
    get?_lift_withSprite bare (.inl free)
  have square : spriteSquare (canvas.withSprite middle covered).lift.surface middle =
      spriteSquare canvas.surface middle := by
    simp only [spriteSquare, size.width, size.height]
  have saved := saveUnder_lift bare middle covered
  calc (canvas.withSprite middle covered).lift.withSprite middle covered
      = ⟨canvas.surface.paint covered spriteColor,
          (canvas.saveUnder (spriteSquare canvas.surface middle)).saved,
          (canvas.withSprite middle covered).lift.stencil,
          (canvas.withSprite middle covered).lift.turned⟩ := by
        rw [withSprite, painted, square, saved]
    _ = canvas.withSprite middle covered := by
        rw [lift_eq]
        rfl

/-! ## Lifting a sprite -/

variable [Rasterizer]

/--
The sprite of a turtle covers no place of the picture outside the square that
is saved under it.
-/
def HoldsSprite (canvas : Canvas) (turtle : Turtle) : Prop :=
  turtle.visible = true → ∀ middle nose left right,
    canvas.pixel turtle = .ok middle → canvas.spriteOutline turtle = .ok (nose, left, right) →
    ∀ pixel ∈ Rasterizer.triangle nose left right, canvas.surface.contains pixel = true →
      (spriteSquare canvas.surface middle).Contains pixel

/-- Where the sprite is depends on the picture only by its size. -/
theorem HoldsSprite.of_sameSize {canvas other : Canvas} {turtle : Turtle}
    (holds : canvas.HoldsSprite turtle) (size : Grid.SameSize canvas.surface other.surface) :
    other.HoldsSprite turtle := by
  intro visible middle nose left right place outline pixel covered on
  simp only [Canvas.pixel, spriteOutline, raster_of_sameSize size] at place outline
  have inside := holds visible middle nose left right place outline pixel covered
  simp only [Grid.contains, spriteSquare, size.width, size.height] at inside
  exact inside on

/-- Outside the square that is saved under it, the sprite changes nothing. -/
theorem HoldsSprite.get?_paint {canvas : Canvas} {turtle : Turtle}
    (holds : canvas.HoldsSprite turtle) (visible : turtle.visible = true) {middle : Pixel}
    {nose left right : Point} (place : canvas.pixel turtle = .ok middle)
    (outline : canvas.spriteOutline turtle = .ok (nose, left, right)) (pixel : Pixel)
    (outside : ¬ (spriteSquare canvas.surface middle).Contains pixel) :
    (canvas.surface.paint (Rasterizer.triangle nose left right) spriteColor).get? pixel =
      canvas.surface.get? pixel := by
  by_cases covered : pixel ∈ Rasterizer.triangle nose left right
  · cases on : canvas.surface.contains pixel with
    | true =>
        exact absurd (holds visible middle nose left right place outline pixel covered on) outside
    | false => simp [Grid.get?, on]
  · exact Grid.get?_paint_of_not_mem spriteColor covered

/-- Lifting the sprite gives back the picture on which it was dropped, even if dropping failed. -/
theorem lift_drop {canvas : Canvas} {turtle : Turtle} (bare : canvas.saved = none)
    (holds : canvas.HoldsSprite turtle) : ((drop turtle).run canvas).2.lift = canvas := by
  have unpainted (area : Rectangle) :
      (canvas.saveUnder (area.clip canvas.surface.width canvas.surface.height)).lift = canvas := by
    rw [saveUnder_eq]
    exact lift_saveUnder bare area rfl rfl fun _ _ => rfl
  simp only [drop, ExceptT.run]
  split
  · exact lift_of_saved_none bare
  · rename_i middle place
    split
    · rename_i visible
      split
      · exact unpainted _
      · rename_i corners outline
        obtain ⟨nose, left, right⟩ := corners
        rw [saveUnder_eq]
        exact lift_saveUnder bare _ (Grid.width_paint _ _) (Grid.height_paint _ _)
          (holds.get?_paint visible place outline)
    · exact unpainted _

/-! ## Dropping the sprite again -/

/-- The places that the sprite of a turtle covers: none if it is hidden. -/
def spritePixels (canvas : Canvas) (turtle : Turtle) : Except Fault (List Pixel) :=
  if turtle.visible then
    match canvas.spriteOutline turtle with
    | .error fault => .error fault
    | .ok (nose, left, right) => .ok (Rasterizer.triangle nose left right)
  else
    .ok []

/-- Dropping goes well if the turtle and its sprite have a place. -/
theorem run_drop {canvas : Canvas} {turtle : Turtle} {middle : Pixel} {covered : List Pixel}
    (place : canvas.pixel turtle = .ok middle)
    (sprite : canvas.spritePixels turtle = .ok covered) :
    (drop turtle).run canvas = (.ok (), canvas.withSprite middle covered) := by
  simp only [drop, ExceptT.run, place]
  unfold spritePixels at sprite
  split at sprite
  · rename_i visible
    rw [if_pos visible]
    split at sprite
    · cases sprite
    · rename_i nose left right outline
      cases sprite
      simp only [outline]
      rw [saveUnder_eq]
      rfl
  · rename_i hidden
    rw [if_neg hidden]
    cases sprite
    rw [saveUnder_eq]
    rfl

/-- Dropping goes well only then. -/
theorem exists_of_run_drop {canvas after : Canvas} {turtle : Turtle}
    (dropped : (drop turtle).run canvas = (.ok (), after)) :
    ∃ middle covered, canvas.pixel turtle = .ok middle ∧
      canvas.spritePixels turtle = .ok covered ∧ after = canvas.withSprite middle covered := by
  have found : ∃ middle covered, canvas.pixel turtle = .ok middle ∧
      canvas.spritePixels turtle = .ok covered := by
    simp only [drop, ExceptT.run] at dropped
    split at dropped
    · cases dropped
    · rename_i middle place
      refine ⟨middle, ?_⟩
      unfold spritePixels
      split at dropped
      · rename_i visible
        rw [if_pos visible]
        split at dropped
        · cases dropped
        · rename_i corners outline
          exact ⟨_, place, by rw [outline]⟩
      · rename_i hidden
        exact ⟨[], place, if_neg hidden⟩
  obtain ⟨middle, covered, place, sprite⟩ := found
  rw [run_drop place sprite] at dropped
  cases dropped
  exact ⟨middle, covered, place, sprite, rfl⟩

/-- Dropping a sprite once more, after lifting it, changes nothing. -/
theorem run_drop_lift {canvas after : Canvas} {turtle : Turtle} (bare : canvas.saved = none)
    (dropped : (drop turtle).run canvas = (.ok (), after)) :
    (drop turtle).run after.lift = (.ok (), after) := by
  obtain ⟨middle, covered, place, sprite, rfl⟩ := exists_of_run_drop dropped
  have raster := raster_of_sameSize (sameSize_lift_withSprite canvas middle covered)
  have again : (canvas.withSprite middle covered).lift.pixel turtle = .ok middle := by
    simpa only [pixel, raster] using place
  have same : (canvas.withSprite middle covered).lift.spritePixels turtle = .ok covered := by
    simpa only [spritePixels, spriteOutline, raster] using sprite
  rw [run_drop again same, withSprite_lift bare]

end Logo.Canvas
