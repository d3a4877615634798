import Logo.Proofs.Animation.History
import Logo.Proofs.Canvas.Sprite
import Logo.Proofs.Scene

/-!
# What the pen leaves on the paper

Here the picture is drawn a second time, on a sheet that never sees a sprite.
Brushwork is reduced to its ink: the strokes with the pen they are drawn with,
the fills and the backgrounds.  Ink says nothing of the turtle's shape, of its
heading or of whether it is visible, and a turtle that is only drawn afresh
leaves none.

The main statement is that the sheet shows at every moment what the canvas
shows once its sprite is lifted.  It holds for whole histories of a queue, with
failures in them, because lifting turns every single piece of brushwork into
its ink.
-/

namespace Logo

open Picture Animation

/-- What matters of a pen for what it draws. -/
structure Pen where
  mode : PenMode
  color : Color
  background : Color
  size : Float

/-- The pen that a turtle holds. -/
def Turtle.pen (turtle : Turtle) : Pen :=
  ⟨turtle.penMode, turtle.penColor, turtle.background, turtle.penSize⟩

/-- What is left on the paper. -/
inductive Ink where
  | begun
  | line (fromX fromY toX toY : Float) (pen : Pen)
  | flood (x y : Float) (pen : Pen)
  | ground (color : Color)

/-- The ink of a piece of brushwork. -/
def Brushwork.ink : Brushwork → List Ink
  | .glide fresh fromX fromY toX toY turtle =>
      (if fresh then [.begun] else []) ++
        if turtle.penDown then [.line fromX fromY toX toY turtle.pen] else []
  | .redraw _ => []
  | .repaint turtle => [.ground turtle.background]
  | .fill turtle => [.flood turtle.x turtle.y turtle.pen]

/-- The turtle whose sprite is dropped at the end of a piece of brushwork. -/
def Brushwork.turtle : Brushwork → Turtle
  | .glide _ _ _ toX toY turtle => { turtle with x := toX, y := toY }
  | .redraw turtle => turtle
  | .repaint turtle => turtle
  | .fill turtle => turtle

/-- A picture without a sprite, and what is to be known for a reversing pen. -/
structure Sheet where
  surface : Surface
  stencil : Grid Bool
  turned : Places

namespace Sheet

/-- Where a place of the turtle is on the sheet. -/
def point (sheet : Sheet) (x y : Float) : Point :=
  ⟨Number.ofNat sheet.surface.width / 2 + x, Number.ofNat sheet.surface.height / 2 - y⟩

variable [Rasterizer]

/-- The places that a line touches, if the pen has a size. -/
def touched? (sheet : Sheet) (start stop : Point) (pen : Pen) : Option (List Pixel) :=
  match Canvas.nearestWhole pen.size with
  | .error _ => none
  | .ok size =>
      let width := sheet.surface.width
      let height := sheet.surface.height
      some (Rasterizer.line width height start stop (max 1 (min size (width + height))).toNat)

/-- Draw a line.  A pen without a size draws nothing, and forgets which places it has turned. -/
def line (sheet : Sheet) (start stop : Point) (pen : Pen) : Sheet :=
  match sheet.touched? start stop pen, pen.mode with
  | none, _ => { sheet with turned := {} }
  | some pixels, .paint => { sheet with surface := sheet.surface.paint pixels pen.color }
  | some pixels, .erase => { sheet with surface := sheet.surface.paint pixels pen.background }
  | some pixels, .reverse =>
      let (surface, stencil, turned) :=
        Canvas.reverseStroke sheet.surface sheet.stencil sheet.turned pixels
      ⟨surface, stencil, turned⟩

/-- Fill the region around a point.  A point without a place fills nothing. -/
def flood (sheet : Sheet) (point : Point) (pen : Pen) : Sheet :=
  match Canvas.nearestWhole point.x, Canvas.nearestWhole point.y, pen.mode with
  | .ok x, .ok y, .paint => { sheet with surface := (sheet.surface.fill ⟨x, y⟩ pen.color).1 }
  | .ok x, .ok y, .erase => { sheet with surface := (sheet.surface.fill ⟨x, y⟩ pen.background).1 }
  | .ok x, .ok y, .reverse => { sheet with surface := (sheet.surface.reverse ⟨x, y⟩).1 }
  | _, _, _ => sheet

/-- Put ink on a sheet. -/
def mark (sheet : Sheet) : Ink → Sheet
  | .begun => { sheet with turned := {} }
  | .line fromX fromY toX toY pen =>
      sheet.line (sheet.point fromX fromY) (sheet.point toX toY) pen
  | .flood x y pen => sheet.flood (sheet.point x y) pen
  | .ground color =>
      { sheet with surface := .filled sheet.surface.width sheet.surface.height color }

/-- Put the ink of some brushwork on a sheet. -/
def draw (sheet : Sheet) (brushwork : List Brushwork) : Sheet :=
  (brushwork.flatMap Brushwork.ink).foldl mark sheet

end Sheet

/-! ## Ink keeps the size of the picture -/

namespace Picture.Grid.SameSize

/-- To turn a place over keeps the size. -/
theorem turnOver (surface : Surface) (turned : Places) (pixel : Pixel) :
    SameSize surface (Canvas.turnOver surface turned pixel).1 := by
  unfold Canvas.turnOver
  split
  · exact refl surface
  · split
    · exact refl surface
    · exact set surface pixel _

theorem turnMarked (stencil : Grid Bool) (pixels : List Pixel) (surface : Surface)
    (turned : Places) : SameSize surface (Canvas.turnMarked stencil pixels surface turned).1 := by
  induction pixels generalizing surface turned with
  | nil => exact refl surface
  | cons pixel rest induction =>
      unfold Canvas.turnMarked
      split
      · exact (turnOver surface turned pixel).trans (induction _ _)
      · exact induction _ _

/-- A flood keeps the size, however far it spreads. -/
theorem spread [DecidableEq α] (target replacement : α) (visits : Nat) (waiting : List Pixel)
    (grid : Grid α) (count : Nat) :
    SameSize grid (Grid.spread target replacement visits waiting grid count).1 := by
  induction visits generalizing waiting grid count with
  | zero => exact refl grid
  | succ visits induction =>
      cases waiting with
      | nil => exact refl grid
      | cons pixel waiting =>
          unfold Grid.spread
          split
          · exact (set grid pixel replacement).trans (induction _ _ _)
          · exact induction _ _ _

theorem flood [DecidableEq α] (grid : Grid α) (seed : Pixel) (replace : α → α) :
    SameSize grid (grid.flood seed replace).1 := by
  unfold Grid.flood
  split
  · exact refl grid
  · split
    · exact refl grid
    · exact spread _ _ _ _ _ _

end Picture.Grid.SameSize

section

variable [Rasterizer]

/-- Ink keeps the size of the picture. -/
theorem Sheet.sameSize_mark (sheet : Sheet) (ink : Ink) :
    Grid.SameSize sheet.surface (sheet.mark ink).surface := by
  cases ink with
  | begun => exact .refl _
  | line fromX fromY toX toY pen =>
      simp only [mark, line]
      split
      · exact .refl _
      · exact .paint _ _ _
      · exact .paint _ _ _
      · exact .turnMarked _ _ _ _
  | flood x y pen =>
      simp only [mark, flood]
      split
      · exact .flood _ _ _
      · exact .flood _ _ _
      · exact .flood _ _ _
      · exact .refl _
  | ground color => exact ⟨rfl, rfl⟩

/-- Brushwork is drawn piece by piece. -/
theorem Sheet.draw_cons (sheet : Sheet) (piece : Brushwork) (rest : List Brushwork) :
    sheet.draw (piece :: rest) = (sheet.draw [piece]).draw rest := by
  simp [draw]

end

namespace Canvas

/-- What a canvas shows, its sprite included. -/
def sheet (canvas : Canvas) : Sheet :=
  ⟨canvas.surface, canvas.stencil, canvas.turned⟩

/-- A canvas without a sprite. -/
def ofSheet (sheet : Sheet) : Canvas :=
  ⟨sheet.surface, none, sheet.stencil, sheet.turned⟩

/-- A canvas made from a sheet has its surface and its marks. -/
@[simp]
theorem sheet_ofSheet (sheet : Sheet) : (ofSheet sheet).sheet = sheet := rfl

/-- With the sprite lifted, a canvas is its sheet. -/
theorem lift_eq_ofSheet (canvas : Canvas) : canvas.lift = ofSheet canvas.lift.sheet := by
  obtain ⟨surface, _ | patch, stencil, turned⟩ := canvas <;> rfl

/-- Drawing that keeps the size of the picture; whether it goes well depends on nothing else. -/
structure Steady (drawing : Drawing) : Prop where
  size (canvas : Canvas) : Grid.SameSize canvas.surface (drawing.run canvas).2.surface
  outcome {canvas other : Canvas} (size : Grid.SameSize canvas.surface other.surface) :
    (drawing.run other).1 = (drawing.run canvas).1

namespace Steady

/-- A change that keeps the size is steady. -/
theorem change {change : Canvas → Canvas}
    (size : ∀ canvas, Grid.SameSize canvas.surface (change canvas).surface) :
    Steady (modify change) :=
  ⟨size, fun _ => rfl⟩

/-- To fail is steady. -/
theorem throw (fault : Fault) : Steady (throw fault) :=
  ⟨fun _ => .refl _, fun _ => rfl⟩

/-- Steady drawing may be followed by more of it. -/
theorem andThen {first second : Drawing} (steady : Steady first) (next : Steady second) :
    Steady (do first; second) where
  size canvas := by
    have kept := steady.size canvas
    rw [Effectful.run_bind]
    rcases ran : first.run canvas with ⟨fault | ⟨⟩, between⟩
    · rwa [ran] at kept
    · rw [ran] at kept
      exact kept.trans (next.size between)
  outcome {canvas other} size := by
    have same := steady.outcome size
    have kept := (steady.size canvas).symm.trans (size.trans (steady.size other))
    rw [Effectful.run_bind, Effectful.run_bind]
    rcases ran : first.run canvas with ⟨fault | ⟨⟩, between⟩
    · rcases reran : first.run other with ⟨fault' | ⟨⟩, between'⟩
      · rwa [ran, reran] at same
      · rw [ran, reran] at same
        cases same
    · rcases reran : first.run other with ⟨fault' | ⟨⟩, between'⟩
      · rw [ran, reran] at same
        cases same
      · rw [ran, reran] at kept
        exact next.outcome kept

/-- Which drawing it is may depend on the size of the picture. -/
theorem sized {drawing : Canvas → Drawing} (steady : ∀ canvas, Steady (drawing canvas))
    (congr : ∀ {canvas other : Canvas}, Grid.SameSize canvas.surface other.surface →
      drawing other = drawing canvas) : Steady (do drawing (← get)) where
  size canvas := (steady canvas).size canvas
  outcome {canvas other} size := by
    have same : ((drawing other).run other).1 = ((drawing canvas).run canvas).1 := by
      rw [congr size]
      exact (steady canvas).outcome size
    exact same

theorem lift : Steady (modify Canvas.lift) :=
  .change sameSize_lift

theorem fillAround (turtle : Turtle) (seed : Pixel) :
    Steady (modify fun canvas => canvas.fillAround turtle seed) := by
  refine .change ?_
  rintro ⟨surface, saved, stencil, turned⟩
  simp only [Canvas.fillAround]
  split <;> exact .flood _ _ _

end Steady

/-- How thick a line may be depends on the size of the picture only. -/
theorem thickness_congr {surface after : Surface} (size : Grid.SameSize surface after)
    (turtle : Turtle) : thickness after turtle = thickness surface turtle := by
  simp only [thickness, size.width, size.height]

variable [Rasterizer]

/-- That the places turned before are forgotten is a mark on the sheet. -/
theorem lift_forgetTurned (canvas : Canvas) :
    canvas.forgetTurned.lift = ofSheet (canvas.lift.sheet.mark .begun) := by
  obtain ⟨surface, _ | patch, stencil, turned⟩ := canvas <;> rfl

/-- A stroke on a bare canvas is a line on its sheet. -/
theorem run_strokeOn (sheet : Sheet) (start stop : Point) (turtle : Turtle) :
    ((strokeOn start stop turtle).run (ofSheet sheet)).2 =
      ofSheet (sheet.line start stop turtle.pen) := by
  obtain ⟨surface, stencil, turned⟩ := sheet
  simp only [strokeOn, Effectful.run_bind, Effectful.run_modifyGet, Effectful.run_modify]
  simp only [ofSheet, forgetTurned, stroke, ExceptT.run, thickness, Sheet.line, Sheet.touched?,
    Turtle.pen, bind, Except.bind, pure, Except.pure]
  cases nearestWhole turtle.penSize with
  | error fault => rfl
  | ok size =>
      cases mode : turtle.penMode with
      | paint => simp [inkColor, mode]
      | erase => simp [inkColor, mode]
      | reverse => simp

/-- Filling a bare canvas is a flood on its sheet. -/
theorem fillAround_ofSheet {sheet : Sheet} {turtle : Turtle} {seed : Pixel}
    (place : (ofSheet sheet).pixel turtle = .ok seed) :
    (ofSheet sheet).fillAround turtle seed =
      ofSheet (sheet.mark (.flood turtle.x turtle.y turtle.pen)) := by
  obtain ⟨surface, stencil, turned⟩ := sheet
  simp only [pixel, raster, ofSheet, bind, Except.bind, pure, Except.pure] at place
  simp only [Sheet.mark, Sheet.flood, Sheet.point, Turtle.pen, fillAround, ofSheet]
  split at place
  · cases place
  · rename_i x column
    split at place
    · cases place
    · rename_i y row
      cases place
      rw [column, row]
      cases mode : turtle.penMode <;> simp [inkColor, mode]

/-- Where the turtle has no place, a flood does nothing. -/
theorem mark_flood_of_pixel_error {sheet : Sheet} {turtle : Turtle} {fault : Fault}
    (nowhere : (ofSheet sheet).pixel turtle = .error fault) :
    sheet.mark (.flood turtle.x turtle.y turtle.pen) = sheet := by
  obtain ⟨surface, stencil, turned⟩ := sheet
  simp only [pixel, raster, ofSheet, bind, Except.bind, pure, Except.pure] at nowhere
  simp only [Sheet.mark, Sheet.flood, Sheet.point]
  split at nowhere
  · rename_i column
    rw [column]
  · rename_i x column
    split at nowhere
    · rename_i row
      rw [row]
      split <;> simp_all
    · cases nowhere

/-- If all that came before a sprite has left a bare canvas, lifting the sprite gives it back. -/
theorem lift_run_drop {drawing : Drawing} {canvas : Canvas} {sheet : Sheet} {turtle : Turtle}
    (drawn : (drawing.run canvas).2 = ofSheet sheet)
    (holds : (ofSheet sheet).HoldsSprite turtle) :
    ((do drawing; drop turtle : Drawing).run canvas).2.lift = ofSheet sheet := by
  rw [Effectful.run_bind]
  rcases ran : drawing.run canvas with ⟨cause | ⟨⟩, after⟩
  · rw [ran] at drawn
    exact (congrArg lift drawn).trans (lift_of_saved_none rfl)
  · rw [ran] at drawn
    subst drawn
    exact lift_drop rfl holds

/-- The sprite is as well held when the canvas was lifted and has got some ink. -/
theorem HoldsSprite.mark {canvas : Canvas} {turtle : Turtle} (holds : canvas.HoldsSprite turtle)
    (ink : Ink) : (ofSheet (canvas.lift.sheet.mark ink)).HoldsSprite turtle :=
  holds.of_sameSize (canvas.sameSize_lift.trans (Sheet.sameSize_mark canvas.lift.sheet ink))

/-- Redrawing leaves no ink. -/
theorem lift_redraw {canvas : Canvas} {turtle : Turtle} (holds : canvas.HoldsSprite turtle) :
    ((redraw turtle).run canvas).2.lift = ofSheet canvas.lift.sheet := by
  have drawn : ((modify lift : Drawing).run canvas).2 = ofSheet canvas.lift.sheet :=
    canvas.lift_eq_ofSheet
  exact lift_run_drop drawn (holds.of_sameSize canvas.sameSize_lift)

/-- Repainting leaves the ground in the color of the background. -/
theorem lift_repaint {canvas : Canvas} {turtle : Turtle} (holds : canvas.HoldsSprite turtle) :
    ((repaint turtle).run canvas).2.lift =
      ofSheet (canvas.lift.sheet.mark (.ground turtle.background)) := by
  refine lift_run_drop ?_ (holds.mark (.ground turtle.background))
  obtain ⟨surface, _ | patch, stencil, turned⟩ := canvas <;> rfl

/-- Filling leaves a flood in the color of the pen. -/
theorem lift_fill {canvas : Canvas} {turtle : Turtle} (holds : canvas.HoldsSprite turtle) :
    ((fill turtle).run canvas).2.lift =
      ofSheet (canvas.lift.sheet.mark (.flood turtle.x turtle.y turtle.pen)) := by
  have held := holds.mark (.flood turtle.x turtle.y turtle.pen)
  simp only [fill, Effectful.run_bind, Effectful.run_modify, Effectful.run_get]
  rw [lift_eq_ofSheet canvas, sheet_ofSheet]
  cases place : (ofSheet canvas.lift.sheet).pixel turtle with
  | error fault =>
      rw [mark_flood_of_pixel_error place]
      rfl
  | ok seed =>
      refine lift_run_drop ?_ held
      exact fillAround_ofSheet place

/-- With the pen up a glide is only redrawn. -/
theorem glide_of_up {turtle : Turtle} (up : turtle.penDown = false)
    (fromX fromY toX toY : Float) :
    glide false fromX fromY toX toY turtle = redraw { turtle with x := toX, y := toY } := by
  rw [glide, if_neg (by simp), if_neg (by simp [up])]
  rfl

/-- With the pen down a glide draws its stroke first. -/
theorem run_glide_of_down {turtle : Turtle} (down : turtle.penDown = true)
    (fromX fromY toX toY : Float) (canvas : Canvas) :
    (glide false fromX fromY toX toY turtle).run canvas =
      (do
        strokeOn (canvas.lift.raster fromX fromY) (canvas.lift.raster toX toY) turtle
        drop { turtle with x := toX, y := toY } : Drawing).run canvas.lift := by
  rw [glide, if_neg (by simp), if_pos down]
  rfl

/-- A frame of a motion that goes on leaves a line if the pen is down. -/
theorem lift_glide {canvas : Canvas} {turtle : Turtle} {fromX fromY toX toY : Float}
    (holds : canvas.HoldsSprite { turtle with x := toX, y := toY }) :
    ((glide false fromX fromY toX toY turtle).run canvas).2.lift =
      ofSheet (canvas.lift.sheet.draw [.glide false fromX fromY toX toY turtle]) := by
  cases down : turtle.penDown with
  | false =>
      rw [glide_of_up down, lift_redraw holds]
      simp [Sheet.draw, Brushwork.ink, down]
  | true =>
      have held := holds.mark (.line fromX fromY toX toY turtle.pen)
      have drawn := run_strokeOn canvas.lift.sheet (canvas.lift.raster fromX fromY)
        (canvas.lift.raster toX toY) turtle
      rw [← lift_eq_ofSheet] at drawn
      rw [run_glide_of_down down, lift_run_drop drawn held]
      simp [Sheet.draw, Brushwork.ink, down]
      rfl

namespace Steady

/-- Whether a sprite can be dropped depends on its place and the size of the picture. -/
theorem drop (turtle : Turtle) : Steady (drop turtle) where
  size canvas := by
    have saved (square : Rectangle) :
        Grid.SameSize canvas.surface (canvas.saveUnder square).surface := by
      rw [saveUnder_eq]
      exact .refl _
    simp only [Canvas.drop, ExceptT.run]
    split
    · exact .refl _
    · split
      · split
        · exact saved _
        · exact (saved _).trans (.paint _ _ _)
      · exact saved _
  outcome {canvas other} size := by
    simp only [Canvas.drop, ExceptT.run, pixel, spriteOutline, raster_of_sameSize size]
    split
    · rfl
    · split
      · split <;> rfl
      · rfl

/-- Whether a stroke can be drawn depends on its pen and the size of the picture. -/
theorem strokeOn (start stop : Point) (turtle : Turtle) : Steady (strokeOn start stop turtle) where
  size := by
    rintro ⟨surface, saved, stencil, turned⟩
    simp only [Canvas.strokeOn, Effectful.run_bind, Effectful.run_modifyGet, Effectful.run_modify]
    simp only [forgetTurned, stroke, ExceptT.run]
    cases thickness surface turtle with
    | error fault => exact .refl _
    | ok thickness =>
        cases turtle.penMode with
        | paint | erase => exact .paint _ _ _
        | reverse => exact .turnMarked _ _ _ _
  outcome := by
    rintro ⟨surface, saved, stencil, turned⟩ ⟨surface', saved', stencil', turned'⟩ size
    simp only [Canvas.strokeOn, Effectful.run_bind, Effectful.run_modifyGet, Effectful.run_modify]
    simp only [forgetTurned, stroke, ExceptT.run, thickness_congr size]
    cases thickness surface turtle with
    | error fault => rfl
    | ok thickness => cases turtle.penMode <;> rfl

theorem redraw (turtle : Turtle) : Steady (redraw turtle) :=
  lift.andThen (.drop turtle)

theorem repaint (turtle : Turtle) : Steady (repaint turtle) :=
  .andThen (.change fun _ => ⟨rfl, rfl⟩) (.drop turtle)

theorem fill (turtle : Turtle) : Steady (fill turtle) := by
  refine lift.andThen (.sized (fun canvas => ?_) fun size => ?_)
  · split
    · exact .throw _
    · exact (fillAround turtle _).andThen (.drop turtle)
  · simp only [pixel, raster_of_sameSize size]

/-- A glide goes well on any two pictures of a size, or on neither. -/
theorem glide (fromX fromY toX toY : Float) (turtle : Turtle) :
    Steady (glide false fromX fromY toX toY turtle) := by
  cases down : turtle.penDown with
  | false =>
      rw [glide_of_up down]
      exact .redraw _
  | true =>
      rw [Canvas.glide, if_neg (by simp), if_pos down]
      refine lift.andThen (.sized (fun canvas => ?_) fun size => ?_)
      · exact (strokeOn _ _ _).andThen (.drop _)
      · simp only [raster_of_sameSize size]

/-- All brushwork is steady. -/
theorem apply (piece : Brushwork) : Steady (apply piece) := by
  cases piece with
  | redraw turtle => exact .redraw turtle
  | repaint turtle => exact .repaint turtle
  | fill turtle => exact .fill turtle
  | glide fresh fromX fromY toX toY turtle =>
      cases fresh with
      | false => exact .glide _ _ _ _ _
      | true => exact .andThen (.change fun _ => .refl _) (.glide fromX fromY toX toY turtle)

end Steady

/-- Lifting turns a piece of brushwork into its ink. -/
theorem lift_apply {canvas : Canvas} {brushwork : Brushwork}
    (holds : canvas.HoldsSprite brushwork.turtle) :
    ((apply brushwork).run canvas).2.lift = ofSheet (canvas.lift.sheet.draw [brushwork]) := by
  cases brushwork with
  | redraw turtle => exact lift_redraw holds
  | repaint turtle => exact lift_repaint holds
  | fill turtle => exact lift_fill holds
  | glide fresh fromX fromY toX toY turtle =>
      cases fresh with
      | false => exact lift_glide holds
      | true =>
          have begun : canvas.forgetTurned.HoldsSprite { turtle with x := toX, y := toY } :=
            holds.of_sameSize (.refl _)
          calc ((glide true fromX fromY toX toY turtle).run canvas).2.lift
              = ((glide false fromX fromY toX toY turtle).run canvas.forgetTurned).2.lift := rfl
            _ = ofSheet (canvas.forgetTurned.lift.sheet.draw
                  [.glide false fromX fromY toX toY turtle]) := lift_glide begun
            _ = ofSheet (canvas.lift.sheet.draw [.glide true fromX fromY toX toY turtle]) := by
                rw [lift_forgetTurned]
                rfl

/-- Lifting turns a row of brushwork into its ink. -/
theorem lift_worldAfter {canvas : Canvas} {brushwork : List Brushwork}
    (holds : ∀ piece ∈ brushwork, canvas.HoldsSprite piece.turtle) :
    (worldAfter apply brushwork canvas).lift = ofSheet (canvas.lift.sheet.draw brushwork) := by
  induction brushwork generalizing canvas with
  | nil => exact canvas.lift_eq_ofSheet
  | cons piece rest induction =>
      obtain ⟨first, others⟩ := List.forall_mem_cons.mp holds
      have drawn := lift_apply first
      have size := (Steady.apply piece).size canvas
      calc (worldAfter apply (piece :: rest) canvas).lift
          = (worldAfter apply rest ((apply piece).run canvas).2).lift := rfl
        _ = ofSheet (((apply piece).run canvas).2.lift.sheet.draw rest) :=
            induction fun piece later => (others piece later).of_sameSize size
        _ = ofSheet (canvas.lift.sheet.draw (piece :: rest)) := by
            rw [drawn, sheet_ofSheet, ← Sheet.draw_cons]

end Canvas

/-! ## Whole histories -/

/-- What a scene can be asked from outside. -/
inductive Scene.IsCall : Script Brushwork → Prop where
  | request (request : Request) : IsCall [.submit request.script]
  | tick (now : Float) : IsCall [.tick now]
  | drain : IsCall [.drain]
  | cancel : IsCall [.cancel]
  | reset (turtle : Turtle) : IsCall [.cancel, .effect (.repaint turtle)]

/-- A moment between two calls of a scene. -/
def Scene.Shown [Rasterizer] (surface : Surface) (events : List (Event Brushwork)) (scene : Scene) :
    Prop :=
  Reached Canvas.apply IsCall (fun _ => True) .empty (.onSurface surface) events
    ⟨scene.queue, scene.canvas, []⟩

namespace Scene.Shown

variable [Rasterizer] {surface : Surface} {events : List (Event Brushwork)} {scene : Scene}

/-- Steps of the queue lead from one moment between calls to another, also if they fail. -/
theorem perform (shown : scene.Shown surface events) {step : Step Brushwork}
    (asked : IsCall [step]) :
    ∃ more, ((Scene.perform step).run scene).2.Shown surface (events ++ more) := by
  obtain ⟨canvas, queue⟩ := scene
  obtain ⟨more, reached⟩ := (Reached.call shown asked).run
  refine ⟨more, ?_⟩
  rw [run_perform]
  rcases performed : queue.perform Canvas.apply step canvas with ⟨trouble | ⟨⟩, after, painted⟩
  · rwa [show Engine.run Canvas.apply _ = _ from performed] at reached
  · rwa [show Engine.run Canvas.apply _ = _ from performed] at reached

/-- So does blanking the picture. -/
theorem reset (shown : scene.Shown surface events) (turtle : Turtle) :
    ((Scene.reset turtle).run scene).2.Shown surface (events ++ [.had (.repaint turtle)]) := by
  obtain ⟨canvas, queue⟩ := scene
  have dropped : Reached Canvas.apply IsCall (fun _ => True) .empty (.onSurface surface) events
      ⟨queue.cancel, canvas, [.script [.effect (.repaint turtle)]]⟩ := by
    simpa [Engine.notice] using (Reached.call shown (.reset turtle)).next rfl
  have blanked : ((Scene.reset turtle).run ⟨canvas, queue⟩).2 =
      ⟨((Canvas.repaint turtle).run canvas).2, queue.cancel⟩ := rfl
  rw [blanked, Shown]
  rcases painted : (Canvas.repaint turtle).run canvas with ⟨fault | ⟨⟩, after⟩
  · have taken : Engine.step Canvas.apply
        ⟨queue.cancel, canvas, [.script [.effect (.repaint turtle)]]⟩ =
          .failed (.failure fault) queue.cancel after := by
      simp only [Engine.step, Engine.perform, Canvas.apply, painted]
    exact dropped.failed taken trivial
  · have taken : Engine.step Canvas.apply
        ⟨queue.cancel, canvas, [.script [.effect (.repaint turtle)]]⟩ =
          .next ⟨queue.cancel, after, [.script []]⟩ := by
      simp only [Engine.step, Engine.perform, Canvas.apply, painted]
    simpa [Engine.notice] using (dropped.next taken).next rfl

end Scene.Shown

/-- A sheet with nothing but a surface. -/
def Sheet.onSurface (surface : Surface) : Sheet :=
  ⟨surface, .filled surface.width surface.height false, {}⟩

/-- Brushwork with the turtle shown or hidden, and turned another way. -/
def Brushwork.disguised (visible : Bool) (heading : Float) : Brushwork → Brushwork
  | .glide fresh fromX fromY toX toY turtle =>
      .glide fresh fromX fromY toX toY { turtle with visible, heading }
  | .redraw turtle => .redraw { turtle with visible, heading }
  | .repaint turtle => .repaint { turtle with visible, heading }
  | .fill turtle => .fill { turtle with visible, heading }

/-- A turtle in disguise leaves the same ink. -/
theorem Brushwork.ink_disguised (visible : Bool) (heading : Float) (piece : Brushwork) :
    (piece.disguised visible heading).ink = piece.ink := by
  cases piece <;> rfl

/--
However a scene is driven, also by tasks that are dropped halfway and by calls
that fail, lifting the sprite at any moment shows what the strokes, fills and
backgrounds that have been drawn so far leave on a sheet that never sees a
sprite.  So it would be the same picture if the turtle had been shown or
hidden all the time, or turned another way.
-/
theorem lift_eq_draw [Rasterizer] (calls : Script Brushwork → Prop)
    (survives : Trouble Fault → Prop)
    (queue : Queue Brushwork) (surface : Surface) (events : List (Event Brushwork))
    (engine : Engine Brushwork Canvas)
    (reached :
      Reached Canvas.apply calls survives queue (Canvas.onSurface surface) events engine)
    (holds : ∀ piece ∈ effectsIn events, (Canvas.onSurface surface).HoldsSprite piece.turtle) :
    engine.world.lift.sheet = (Sheet.onSurface surface).draw (effectsIn events) ∧
      ∀ visible heading, engine.world.lift.sheet =
        (Sheet.onSurface surface).draw
          ((effectsIn events).map (Brushwork.disguised visible heading)) := by
  have drawn : engine.world.lift.sheet = (Sheet.onSurface surface).draw (effectsIn events) := by
    rw [reached.world_eq, Canvas.lift_worldAfter holds]
    rfl
  refine ⟨drawn, ?_⟩
  intro visible heading
  rw [drawn]
  simp only [Sheet.draw, List.flatMap_map, Brushwork.ink_disguised]

/-- A picture so small that the square under a sprite on it covers all of it. -/
def stamp : Surface :=
  .filled 3 3 .white

/-- A turtle that is not to be seen while it draws. -/
def shyTurtle : Turtle :=
  { x := 1, visible := false }

/-- What a shy turtle asks of its scene: to draw a line, and then to be seen. -/
def shyRequests : Request × Request :=
  (.motion .initial shyTurtle 1, .redraw { shyTurtle with visible := true })

/-- The history of a shy turtle, up to where it is seen. -/
def shyHistory : List (Event Brushwork) :=
  [.submitted shyRequests.1.script, .started shyRequests.1.script,
    .had (motionFrame .initial shyTurtle 1 0), .finished,
    .submitted shyRequests.2.script, .started shyRequests.2.script,
    .had (.redraw { shyTurtle with visible := true })]

theorem shy_reached :
    letI := Platform.standard
    ∃ engine, Reached Canvas.apply Scene.IsCall (fun _ => True) .empty (.onSurface stamp)
      shyHistory engine := by
  let _ := Platform.standard
  have fresh : Reached Canvas.apply Scene.IsCall (fun _ => True) .empty (.onSurface stamp) []
    ⟨.empty, .onSurface stamp, []⟩ := .start
  have moving := (((fresh.call (.request shyRequests.1)).next rfl).next rfl).next rfl
  have moved := moving.next (Engine.step_effect (by decide +kernel))
  have finished := ((((moved.next rfl).next rfl).next rfl).next rfl).next rfl
  have redrawing := ((finished.call (.request shyRequests.2)).next rfl).next rfl
  exact ⟨_, redrawing.next (Engine.step_effect (by decide +kernel))⟩

theorem shy_held [Rasterizer] :
    ∀ piece ∈ effectsIn shyHistory, (Canvas.onSurface stamp).HoldsSprite piece.turtle := by
  have hidden : (Canvas.onSurface stamp).HoldsSprite
      (motionFrame .initial shyTurtle 1 0).turtle := by
    intro visible
    cases visible
  have seen : (Canvas.onSurface stamp).HoldsSprite { shyTurtle with visible := true } := by
    intro _ middle nose left right place _ pixel _ on
    have middle_eq : ((Canvas.onSurface stamp).pixel
        { shyTurtle with visible := true }).toOption = some ⟨2, 2⟩ := by decide +kernel
    have square : Canvas.spriteSquare stamp ⟨2, 2⟩ = ⟨0, 0, 3, 3⟩ := by decide +kernel
    rw [place] at middle_eq
    cases middle_eq
    have inside : 0 ≤ pixel.x ∧ pixel.x < 3 ∧ 0 ≤ pixel.y ∧ pixel.y < 3 :=
      Grid.contains_iff.mp on
    show (Canvas.spriteSquare stamp ⟨2, 2⟩).Contains pixel
    rw [square]
    simpa [Rectangle.Contains] using inside
  exact List.forall_mem_cons.mpr ⟨hidden, List.forall_mem_singleton.mpr seen⟩

/-- A turtle that comes to be seen hides nothing of the line that it has drawn. -/
theorem shy_lift_eq_draw :
    letI := Platform.standard
    ∃ engine, Reached Canvas.apply Scene.IsCall (fun _ => True) .empty (.onSurface stamp)
        shyHistory engine ∧
      engine.world.saved.isSome = true ∧
      engine.world.lift.sheet = (Sheet.onSurface stamp).draw (effectsIn shyHistory) := by
  let _ := Platform.standard
  obtain ⟨engine, reached⟩ := shy_reached
  have covered :
      (worldAfter Canvas.apply (effectsIn shyHistory) (.onSurface stamp)).saved.isSome = true := by
    decide +kernel
  rw [← reached.world_eq] at covered
  exact ⟨engine, reached, covered,
    (lift_eq_draw _ _ _ stamp shyHistory engine reached shy_held).1⟩

end Logo
