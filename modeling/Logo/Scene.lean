import Logo.Animation.Engine
import Logo.Canvas
import Logo.Stage

/-!
# The scene

A canvas with the queue of the animations on it: the stage on which the
turtle can be watched.  Every request becomes a task of the queue.  Motions
are spread over frames, waits over time, and the rest is done in one go.
-/

namespace Logo

open Animation

/-- A canvas and the animations that wait to be drawn on it. -/
structure Scene where
  canvas : Canvas
  queue : Queue Brushwork

/-- Where a motion of so many steps is after some of them. -/
def motionPosition (before after : Turtle) (steps step : Nat) : Float × Float :=
  if steps ≤ step then
    (after.x, after.y)
  else
    let progress := Number.ofNat step / Number.ofNat steps
    (before.x + (after.x - before.x) * progress, before.y + (after.y - before.y) * progress)

/-- The brushwork of one frame of a motion. -/
def motionFrame (before after : Turtle) (steps step : Nat) : Brushwork :=
  let (fromX, fromY) := motionPosition before after steps step
  let (toX, toY) := motionPosition before after steps (step + 1)
  .glide (step == 0) fromX fromY toX toY after

/-- The task for a request.  A motion has at least one frame. -/
def Request.script : Request → Script Brushwork
  | .motion before after steps =>
      let steps := max 1 steps
      [.film (steps - 1) fun left => motionFrame before after steps (steps - 1 - left)]
  | .redraw turtle => job (.redraw turtle)
  | .repaint turtle => job (.repaint turtle)
  | .fill turtle => job (.fill turtle)
  | .wait milliseconds => pause (milliseconds / 1000)

namespace Scene

variable [Rasterizer]

/-- The fault that ended a run of the queue. -/
def faultOf : Trouble Fault → Fault
  | .stranded => .stranded
  | .endless => .endlessLoop
  | .failure fault => fault

/-- Take a step of the queue. -/
def perform (step : Step Brushwork) : ExceptT Fault (StateM Scene) Unit := fun scene =>
  match scene with
  | ⟨canvas, queue⟩ =>
      match queue.perform Canvas.apply step canvas with
      | (.ok (), queue, canvas) => (.ok (), ⟨canvas, queue⟩)
      | (.error trouble, queue, canvas) => (.error (faultOf trouble), ⟨canvas, queue⟩)

/-- Draw on the canvas at once. -/
def draw (drawing : Canvas.Drawing) : ExceptT Fault (StateM Scene) Unit := fun scene =>
  match scene with
  | ⟨canvas, queue⟩ =>
      match drawing.run canvas with
      | (result, canvas) => (result, ⟨canvas, queue⟩)

/-- Take a request of the turtle. -/
def request (request : Request) : ExceptT Fault (StateM Scene) Unit :=
  perform (.submit request.script)

/-- Drop all animations. -/
def cancel (scene : Scene) : Scene :=
  { scene with queue := scene.queue.cancel }

/-- Blank the picture and show the turtle, at once. -/
def reset (turtle : Turtle) : ExceptT Fault (StateM Scene) Unit := do
  modify cancel
  draw (Canvas.repaint turtle)

/-- A scene on a surface, with a turtle at home. -/
def onSurface (surface : Picture.Surface) : Scene :=
  ((reset .initial).run ⟨.onSurface surface, .empty⟩).2

end Scene

instance [Platform] : Stage Scene where
  request := Scene.request
  room _ := Platform.asking

/-- Where a scene may be missing, requests to no scene do nothing and take no room. -/
instance [Platform] : Stage (Option Scene) where
  room
    | none => 0
    | some _ => Platform.asking
  request request := fun stage =>
    match stage with
    | none => (.ok (), none)
    | some scene =>
        match (Scene.request request).run scene with
        | (result, scene) => (result, some scene)

end Logo
