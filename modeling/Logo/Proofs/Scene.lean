import Logo.Proofs.Animation.Lockstep
import Logo.Scene

/-!
# Scenes

What a request of the turtle makes a scene show is a row of brushwork, so the
canvas of a scene goes through one row of brushwork however the scene is
driven.  A scene that cannot go on ends in a fault of its own, never in the
one that stands for calls nested too deeply; so nothing that goes wrong on a
canvas can be taken for an error of the program.
-/

namespace Logo

open Animation

namespace Canvas

open Effectful

theorem nearestWhole_ne (coordinate : Float) :
    nearestWhole coordinate ≠ .error .tooManyCalls := by
  unfold nearestWhole
  split
  · simp
  · split <;> simp

theorem pixel_ne (canvas : Canvas) (turtle : Turtle) :
    canvas.pixel turtle ≠ .error .tooManyCalls := by
  have first := nearestWhole_ne (canvas.raster turtle.x turtle.y).x
  have second := nearestWhole_ne (canvas.raster turtle.x turtle.y).y
  simp only [pixel, bind, Except.bind]
  split
  · rename_i cause failed
    rintro ⟨⟩
    exact first failed
  · split
    · rename_i cause failed
      rintro ⟨⟩
      exact second failed
    · rintro ⟨⟩

theorem spriteOutline_ne (canvas : Canvas) (turtle : Turtle) :
    canvas.spriteOutline turtle ≠ .error .tooManyCalls := by
  simp only [spriteOutline, Turtle.direction, bind, Except.bind]
  split
  · rename_i cause failed
    split at failed
    · cases failed
      simp
    · cases failed
  · rintro ⟨⟩

theorem thickness_ne (surface : Picture.Surface) (turtle : Turtle) :
    thickness surface turtle ≠ .error .tooManyCalls := by
  have size := nearestWhole_ne turtle.penSize
  simp only [thickness, bind, Except.bind]
  split
  · rename_i cause failed
    rintro ⟨⟩
    exact size failed
  · rintro ⟨⟩

variable [Rasterizer]

/-- Dropping a sprite never runs out of the stack. -/
theorem drop_spares (turtle : Turtle) : Spares .tooManyCalls (drop turtle) := by
  intro canvas
  have middle := pixel_ne canvas turtle
  have outline := spriteOutline_ne canvas turtle
  simp only [drop, ExceptT.run]
  split
  · rename_i cause failed
    rintro ⟨⟩
    exact middle failed
  · split
    · split
      · rename_i cause failed
        rintro ⟨⟩
        exact outline failed
      · rintro ⟨⟩
    · rintro ⟨⟩

theorem strokeOn_spares (start stop : Picture.Point) (turtle : Turtle) :
    Spares .tooManyCalls (strokeOn start stop turtle) := by
  have strokes (done : Places) : Spares .tooManyCalls (stroke start stop turtle done) := by
    rintro ⟨surface, saved, stencil, turned⟩
    have size := thickness_ne surface turtle
    simp only [stroke, ExceptT.run]
    split
    · rename_i cause failed
      rintro ⟨⟩
      exact size failed
    · split <;> rintro ⟨⟩
  intro canvas
  exact (strokes canvas.turned).sequence (fun _ => .change _) canvas.forgetTurned

theorem fill_spares (turtle : Turtle) : Spares .tooManyCalls (fill turtle) := by
  apply (Spares.change lift).sequence
  intro _
  apply Spares.look.sequence
  intro canvas
  cases place : canvas.pixel turtle with
  | error cause =>
      apply Spares.throw
      rintro rfl
      exact pixel_ne canvas turtle place
  | ok seed => exact (Spares.change _).sequence fun _ => drop_spares turtle

theorem glide_spares (fresh : Bool) (fromX fromY toX toY : Float) (turtle : Turtle) :
    Spares .tooManyCalls (glide fresh fromX fromY toX toY turtle) := by
  have drawn :
      Spares .tooManyCalls (do
        modify lift
        if turtle.penDown then
          let canvas ← get
          let start := canvas.raster fromX fromY
          let stop := canvas.raster toX toY
          strokeOn start stop turtle
        drop { turtle with x := toX, y := toY }) := by
    apply (Spares.change lift).sequence
    intro _
    cases turtle.penDown with
    | false => exact drop_spares _
    | true =>
        apply Spares.look.sequence
        intro canvas
        exact (strokeOn_spares _ _ turtle).sequence fun _ => drop_spares _
  cases fresh with
  | false => exact drawn
  | true => exact (Spares.change forgetTurned).sequence fun _ => drawn

/-- No brushwork ends in the fault of calls nested too deeply. -/
theorem apply_spares (brushwork : Brushwork) : Spares .tooManyCalls (apply brushwork) := by
  cases brushwork with
  | redraw turtle => exact (Spares.change _).sequence fun _ => drop_spares turtle
  | repaint turtle => exact (Spares.change _).sequence fun _ => drop_spares turtle
  | fill turtle => exact fill_spares turtle
  | glide fresh fromX fromY toX toY turtle => exact glide_spares fresh fromX fromY toX toY turtle

end Canvas

/-! ## Runs of the queue -/

namespace Animation.Engine

variable {ε ω φ : Type} {apply : ε → ExceptT φ (StateM ω) Unit} {queue : Queue ε} {world : ω}

/-- A step fails only because of an effect, or because of the queue itself. -/
theorem step_failure {engine : Engine ε ω} {cause : φ}
    (taken : step apply engine = .failed (.failure cause) queue world) :
    ∃ effect before, ((apply effect).run before).1 = .error cause := by
  have halts := halts_of_step taken (by rintro _ ⟨⟩)
  cases halts with
  | failure failed => exact ⟨_, _, congrArg Prod.fst failed⟩

/-- A run that ends in a failure ends in the failure of an effect. -/
theorem run_failure {engine : Engine ε ω} {cause : φ}
    (ran : (run apply engine).1 = .error (.failure cause)) :
    ∃ effect before, ((apply effect).run before).1 = .error cause := by
  have ends :
      (run apply engine).1 = .error (.failure cause) →
        ∃ effect before, ((apply effect).run before).1 = .error cause := by
    apply run_invariant (fun _ => True)
      (fun ending => ending.1 = .error (.failure cause) →
        ∃ effect before, ((apply effect).run before).1 = .error cause)
    · intro engine after _ _
      trivial
    · intro engine queue world _ _ ended
      cases ended
    · intro engine trouble queue world _ taken ended
      cases ended
      exact step_failure taken
    · trivial
  exact ends ran

end Animation.Engine

/-- The brushwork of a request, in order. -/
def Request.brushwork : Request → List Brushwork
  | .motion before after steps =>
      let steps := max 1 steps
      reel (fun left => motionFrame before after steps (steps - 1 - left)) (steps - 1)
  | .redraw turtle => [.redraw turtle]
  | .repaint turtle => [.repaint turtle]
  | .fill turtle => [.fill turtle]
  | .wait _ => []

/-- The task for a request does its brushwork. -/
theorem Request.script_plays (request : Request) : Plays request.script request.brushwork := by
  cases request with
  | motion before after steps => exact .film
  | redraw turtle => exact .effect .finish
  | repaint turtle => exact .effect .finish
  | fill turtle => exact .effect .finish
  | wait milliseconds => exact .later .finish

namespace Scene

variable [Rasterizer]

/-- A step of the queue is a step of the scene. -/
theorem run_perform (step : Step Brushwork) (canvas : Canvas) (queue : Queue Brushwork) :
    (perform step).run ⟨canvas, queue⟩ =
      match queue.perform Canvas.apply step canvas with
      | (.ok (), queue, canvas) => (.ok (), ⟨canvas, queue⟩)
      | (.error trouble, queue, canvas) => (.error (faultOf trouble), ⟨canvas, queue⟩) :=
  rfl

/-- Nothing that goes wrong in a scene can be taken for calls nested too deeply. -/
theorem perform_spares (step : Step Brushwork) : Effectful.Spares .tooManyCalls (perform step) := by
  rintro ⟨canvas, queue⟩
  rw [run_perform]
  rcases performed : queue.perform Canvas.apply step canvas with ⟨trouble | done, after, painted⟩
  · cases trouble with
    | stranded => rintro ⟨⟩
    | endless => rintro ⟨⟩
    | failure cause =>
        intro ended
        obtain ⟨brushwork, before, failed⟩ :=
          Engine.run_failure (congrArg Prod.fst performed)
        cases ended
        exact Canvas.apply_spares brushwork before failed
  · rintro ⟨⟩

/-- Dropping the animations of a scene always goes well. -/
theorem run_perform_cancel (scene : Scene) :
    (perform .cancel).run scene = (.ok (), scene.cancel) := by
  obtain ⟨canvas, queue⟩ := scene
  rw [run_perform, Queue.perform_cancel]
  rfl

/-- Scenes with the same canvas, whose queues differ only in their clocks. -/
structure Level (left right : Scene) : Prop where
  canvas : left.canvas = right.canvas
  queue : left.queue.Level right.queue
  settled : ∃ pending, left.queue.Settled pending

/-- A request that goes well in a scene goes just as well in a scene that is level with it. -/
theorem Level.request {left right after : Scene} (level : left.Level right) {request : Request}
    (went : (Scene.request request).run left = (.ok (), after)) :
    ∃ after', (Scene.request request).run right = (.ok (), after') ∧ after.Level after' := by
  obtain ⟨canvas, queue⟩ := left
  obtain ⟨canvas', queue'⟩ := right
  obtain ⟨rfl, level, pending, settled⟩ := level
  unfold Scene.request at went ⊢
  rw [run_perform] at went ⊢
  rcases performed : queue.perform Canvas.apply (.submit request.script) canvas with
    ⟨trouble | ⟨⟩, queueAfter, painted⟩
  · rw [performed] at went
    cases went
  · rw [performed] at went
    cases went
    have ending : Ending Canvas.apply canvas (pending ++ request.brushwork)
        (queue.perform Canvas.apply (.submit request.script) canvas) :=
      Queue.perform_submit settled request.script_plays
    obtain ⟨queueAfter', performed', levelAfter⟩ :=
      Queue.perform_submit_level settled level request.script_plays performed
    rw [performed] at ending
    cases ending with
    | settled _ _ settled =>
        rw [performed']
        exact ⟨_, rfl, rfl, levelAfter, _, settled⟩

end Scene

end Logo
