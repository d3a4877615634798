import Logo.Proofs.Canvas.Ink
import Logo.Proofs.Canvas.Motion
import Logo.Proofs.Conduct
import Logo.Proofs.Machine.Alike

/-!
# The turtle at rest

What the turtle does it does at once, and the picture follows later.  All that
is seen of the turtle in the picture is its sprite.  So for every moment there
are two turtles, the one that acts and the one that is seen.

The main statement is that they look the same whenever no animation is in
flight or waiting.  What carries it from call to call is where the picture is
going to: if all the brushwork that is pending were done, the sprite of the
turtle that acts would be the last one dropped.  Every deed that changes how
the turtle looks puts such brushwork behind all that is pending, and the queue
does it in order.
-/

namespace Logo

open Animation

/-- Turtles with the same sprite: at the same place, turned the same way, both hidden or neither. -/
structure Turtle.LooksLike (turtle other : Turtle) : Prop where
  x : turtle.x = other.x
  y : turtle.y = other.y
  heading : turtle.heading = other.heading
  visible : turtle.visible = other.visible

theorem Turtle.LooksLike.refl (turtle : Turtle) : turtle.LooksLike turtle :=
  ⟨rfl, rfl, rfl, rfl⟩

theorem Turtle.LooksLike.trans {first second third : Turtle} (left : first.LooksLike second)
    (right : second.LooksLike third) : first.LooksLike third :=
  ⟨left.x.trans right.x, left.y.trans right.y, left.heading.trans right.heading,
    left.visible.trans right.visible⟩

/-! ## What a canvas shows -/

namespace Canvas

variable [Rasterizer]

/-- The sprite on a canvas is that of a turtle: lifted and dropped again, it is the same. -/
def Shows (canvas : Canvas) (turtle : Turtle) : Prop :=
  (drop turtle).run canvas.lift = (.ok (), canvas)

/-- A canvas shows every turtle that looks like one it shows. -/
theorem Shows.looksLike {canvas : Canvas} {turtle other : Turtle} (seen : canvas.Shows turtle)
    (alike : turtle.LooksLike other) : canvas.Shows other := by
  have same : drop other = drop turtle := by
    funext canvas
    simp only [drop, pixel, spriteOutline, alike.x, alike.y, alike.heading, alike.visible]
  rw [Shows, same]
  exact seen

/-- What comes before a sprite is dropped leaves nothing saved, so the sprite is the one seen. -/
theorem shows_of_run_bind {drawing : Drawing} {canvas after : Canvas} {turtle : Turtle}
    (bare : (drawing.run canvas).2.saved = none)
    (drawn : (do drawing; drop turtle : Drawing).run canvas = (.ok (), after)) :
    after.Shows turtle := by
  obtain ⟨⟨⟩, between, first, dropped⟩ := Effectful.run_bind_eq_ok_iff.mp drawn
  rw [first] at bare
  exact run_drop_lift bare dropped

/-- Redrawing shows the turtle. -/
theorem shows_of_redraw {canvas after : Canvas} {turtle : Turtle}
    (drawn : (redraw turtle).run canvas = (.ok (), after)) : after.Shows turtle := by
  have bare : ((modify lift : Drawing).run canvas).2.saved = none :=
    congrArg Canvas.saved canvas.lift_eq
  exact shows_of_run_bind bare drawn

/-- Filling ends by showing the turtle. -/
theorem shows_of_fill {canvas after : Canvas} {turtle : Turtle}
    (drawn : (fill turtle).run canvas = (.ok (), after)) : after.Shows turtle := by
  simp only [fill, Effectful.run_bind, Effectful.run_modify, Effectful.run_get] at drawn
  rw [lift_eq_ofSheet canvas] at drawn
  split at drawn
  · cases drawn
  · rename_i seed place
    have bare : ((modify fun canvas => canvas.fillAround turtle seed : Drawing).run
        (ofSheet canvas.lift.sheet)).2.saved = none :=
      congrArg Canvas.saved (fillAround_ofSheet place)
    exact shows_of_run_bind bare drawn

/-- A glide shows the turtle where it ends. -/
theorem shows_of_glide {canvas after : Canvas} {turtle : Turtle} {fromX fromY toX toY : Float}
    (drawn : (glide false fromX fromY toX toY turtle).run canvas = (.ok (), after)) :
    after.Shows { turtle with x := toX, y := toY } := by
  cases down : turtle.penDown with
  | false =>
      rw [glide_of_up down] at drawn
      exact shows_of_redraw drawn
  | true =>
      rw [run_glide_of_down down] at drawn
      have bare := congrArg Canvas.saved (run_strokeOn canvas.lift.sheet
        (canvas.lift.raster fromX fromY) (canvas.lift.raster toX toY) turtle)
      rw [← lift_eq_ofSheet] at bare
      exact shows_of_run_bind bare drawn

/-- Every piece of brushwork that goes well ends by dropping its sprite. -/
theorem shows_of_apply {canvas after : Canvas} {piece : Brushwork}
    (drawn : (apply piece).run canvas = (.ok (), after)) : after.Shows piece.turtle := by
  cases piece with
  | redraw turtle => exact shows_of_redraw drawn
  | repaint turtle => exact shows_of_run_bind rfl drawn
  | fill turtle => exact shows_of_fill drawn
  | glide fresh fromX fromY toX toY turtle =>
      cases fresh with
      | false => exact shows_of_glide drawn
      | true =>
          have begun : (glide false fromX fromY toX toY turtle).run canvas.forgetTurned =
            (.ok (), after) := drawn
          exact shows_of_glide begun

/--
What a canvas shows at last: the sprite of the last piece of brushwork that is
pending, or the one that is on it already if none is pending.
-/
def ComesTo (canvas : Canvas) (pending : List Brushwork) (turtle : Turtle) : Prop :=
  match pending.getLast? with
  | none => canvas.Shows turtle
  | some piece => piece.turtle.LooksLike turtle

/-- Doing the first of the pending brushwork does not change what the canvas comes to. -/
theorem ComesTo.leads {canvas after : Canvas} {had rest : List Brushwork} {turtle : Turtle}
    (comesTo : canvas.ComesTo (had ++ rest) turtle) (leads : Leads apply had canvas after) :
    after.ComesTo rest turtle := by
  unfold ComesTo at comesTo ⊢
  rw [List.getLast?_append] at comesTo
  cases last : rest.getLast? with
  | some piece =>
      rw [last] at comesTo
      exact comesTo
  | none =>
      rw [last, Option.none_or] at comesTo
      rcases List.eq_nil_or_concat had with rfl | ⟨first, piece, rfl⟩
      · cases leads
        exact comesTo
      · rw [List.concat_eq_append] at leads comesTo
        obtain ⟨between, -, lastly⟩ := Leads.append_iff.mp leads
        obtain ⟨_, drawn, ends⟩ := Leads.cons_iff.mp lastly
        cases ends
        rw [List.getLast?_concat] at comesTo
        exact (shows_of_apply drawn).looksLike comesTo

end Canvas

/-! ## What is asked of a scene -/

/-- The last frame of a reel is the one with nothing left. -/
theorem Animation.getLast?_reel {ε : Type} (effect : Nat → ε) (left : Nat) :
    (reel effect left).getLast? = some (effect 0) := by
  induction left with
  | zero => rfl
  | succ left hypothesis => rw [reel, List.getLast?_cons, hypothesis]; rfl

namespace Request

/-- The turtle that is seen when a request has been met.  A wait shows no other than before. -/
def shown? : Request → Option Turtle
  | .motion _ after _ => some after
  | .redraw turtle => some turtle
  | .repaint turtle => some turtle
  | .fill turtle => some turtle
  | .wait _ => none

/-- The last frame of a motion shows the turtle as it is afterwards. -/
theorem turtle_motionFrame (before after : Turtle) (steps : Nat) :
    (motionFrame before after (steps + 1) steps).turtle = after := by
  simp only [motionFrame, motionPosition, Nat.le_refl, if_true, Brushwork.turtle]

/-- The last brushwork of a request shows the turtle that was asked for. -/
theorem getLast?_brushwork (request : Request) :
    request.brushwork.getLast?.map Brushwork.turtle = request.shown? := by
  cases request with
  | motion before after steps =>
      obtain ⟨count, frames⟩ : ∃ count, max 1 steps = count + 1 :=
        Nat.exists_eq_add_of_le' (Nat.le_max_left 1 steps)
      simp only [brushwork, getLast?_reel, frames, Nat.add_sub_cancel, Nat.sub_zero,
        Option.map_some, turtle_motionFrame, shown?]
  | _ => rfl

end Request

/-- A request puts the turtle that it shows behind all that is pending. -/
theorem Canvas.ComesTo.request [Rasterizer] {canvas : Canvas} {pending : List Brushwork}
    {before turtle : Turtle} (comesTo : canvas.ComesTo pending before) {request : Request}
    (shown : (request.shown?.getD before).LooksLike turtle) :
    canvas.ComesTo (pending ++ request.brushwork) turtle := by
  unfold ComesTo at comesTo ⊢
  rw [← request.getLast?_brushwork] at shown
  rw [List.getLast?_append]
  cases last : request.brushwork.getLast? with
  | some piece =>
      rw [last] at shown
      exact shown
  | none =>
      rw [last] at shown
      rw [Option.none_or]
      cases earlier : pending.getLast? with
      | none =>
          rw [earlier] at comesTo
          exact comesTo.looksLike shown
      | some piece =>
          rw [earlier] at comesTo
          exact comesTo.trans shown

namespace Scene

variable [Rasterizer]

/-- A scene that shows a turtle once all that it has been asked for is done. -/
def Follows (scene : Scene) (turtle : Turtle) : Prop :=
  ∃ pending, scene.queue.Settled pending ∧ scene.canvas.ComesTo pending turtle

variable {scene after : Scene} {turtle : Turtle}

/-- A call of the queue that ends well leaves the scene on its way to where it was going. -/
theorem follows_of_ending {step : Step Brushwork} {pending : List Brushwork}
    (performed : (perform step).run scene = (.ok (), after))
    (ending : Ending Canvas.apply scene.canvas pending
      (scene.queue.perform Canvas.apply step scene.canvas))
    (comesTo : scene.canvas.ComesTo pending turtle) : after.Follows turtle := by
  obtain ⟨canvas, queue⟩ := scene
  rw [run_perform] at performed
  rcases ran : queue.perform Canvas.apply step canvas with ⟨trouble | ⟨⟩, queueAfter, painted⟩
  · rw [ran] at performed
    cases performed
  · rw [ran] at performed
    cases performed
    simp only [ran] at ending
    cases ending with
    | settled split leads settled =>
        subst split
        exact ⟨_, settled, comesTo.leads leads⟩

/-- A request puts the scene on its way to what it shows. -/
theorem Follows.request {before : Turtle} (follows : scene.Follows before) {request : Request}
    (asked : (Scene.request request).run scene = (.ok (), after))
    (shown : (request.shown?.getD before).LooksLike turtle) : after.Follows turtle := by
  obtain ⟨pending, settled, comesTo⟩ := follows
  exact follows_of_ending asked (Queue.perform_submit settled request.script_plays)
    (comesTo.request shown)

/-- A tick leaves the scene on its way. -/
theorem Follows.tick (follows : scene.Follows turtle) {now : Float}
    (ticked : (perform (.tick now)).run scene = (.ok (), after)) : after.Follows turtle := by
  obtain ⟨pending, settled, comesTo⟩ := follows
  exact follows_of_ending ticked (Queue.perform_tick settled now) comesTo

/-- So does a drain. -/
theorem Follows.drain (follows : scene.Follows turtle)
    (drained : (perform .drain).run scene = (.ok (), after)) : after.Follows turtle := by
  obtain ⟨pending, settled, comesTo⟩ := follows
  exact follows_of_ending drained (Queue.perform_drain settled) comesTo

theorem Follows.looksLike {other : Turtle} (follows : scene.Follows turtle)
    (alike : turtle.LooksLike other) : scene.Follows other := by
  obtain ⟨pending, settled, comesTo⟩ := follows
  refine ⟨pending, settled, ?_⟩
  unfold Canvas.ComesTo at comesTo ⊢
  split at comesTo
  · exact comesTo.looksLike alike
  · exact comesTo.trans alike

/-- A scene that has just been blanked shows the turtle it was blanked for. -/
theorem follows_of_reset (blanked : (reset turtle).run scene = (.ok (), after)) :
    after.Follows turtle := by
  obtain ⟨canvas, queue⟩ := scene
  have ran : (reset turtle).run ⟨canvas, queue⟩ =
      (((Canvas.repaint turtle).run canvas).1,
        ⟨((Canvas.repaint turtle).run canvas).2, queue.cancel⟩) := rfl
  rcases painted : (Canvas.repaint turtle).run canvas with ⟨fault | ⟨⟩, shown⟩
  · rw [ran, painted] at blanked
    cases blanked
  · rw [ran, painted] at blanked
    cases blanked
    have seen : shown.Shows (Brushwork.repaint turtle).turtle := Canvas.shows_of_apply painted
    exact ⟨[], Queue.settled_cancel queue, seen⟩

/-- A scene with nothing to do has come to where it was going. -/
theorem Follows.shows (follows : scene.Follows turtle) (idle : scene.queue.isIdle = true) :
    scene.canvas.Shows turtle := by
  obtain ⟨pending, settled, comesTo⟩ := follows
  obtain ⟨-, rfl⟩ := settled.of_idle idle
  exact comesTo

end Scene

/-! ## What the turtle does -/

namespace Studio

variable [Platform]

/-- What is asked of a turtle on a scene: that the scene follows it. -/
def followed : Conduct Mishap (Studio Scene) where
  holds studio := studio.stage.Follows studio.turtle
  moves _ _ := True
  leaves _ _ := True
  refl _ := trivial
  trans _ _ := trivial

/-- A turtle that is asked for is followed, if it is the one that is shown. -/
theorem ask_followed {room : Nat} {request : Request} {studio : Studio Scene} {before : Turtle}
    (follows : studio.stage.Follows before)
    (shown : (request.shown?.getD before).LooksLike studio.turtle) :
    followed.GivesAt (fun _ => True) (ask room request) studio := by
  by_cases enough : Stage.room studio.stage ≤ room
  case neg =>
    rw [Conduct.GivesAt, run_ask_short request enough]
    exact ⟨trivial, trivial⟩
  rw [Conduct.GivesAt, run_ask request enough]
  rcases asked : (Stage.request request).run studio.stage with ⟨fault | ⟨⟩, stage⟩
  · exact ⟨trivial, trivial⟩
  · exact ⟨trivial, trivial, follows.request asked shown⟩

/-- A change that cannot be seen needs no request. -/
theorem become_followed {change : Turtle → Turtle}
    (alike : ∀ turtle : Turtle, turtle.LooksLike (change turtle)) :
    followed.Keeps (become change) :=
  .change fun studio follows => ⟨trivial, follows.looksLike (alike studio.turtle)⟩

/-- To show the turtle is enough, whichever turtle the scene followed before. -/
theorem show_followed {request : Turtle → Request}
    (shown : ∀ turtle, (request turtle).shown? = some turtle) {room : Nat} {studio : Studio Scene}
    {before : Turtle} (follows : studio.stage.Follows before) :
    followed.GivesAt (fun _ => True) (ask room (request studio.turtle)) studio := by
  refine ask_followed follows ?_
  rw [shown]
  exact .refl _

/-- A change may be seen if the turtle is shown right after it. -/
theorem change_followed (change : Turtle → Turtle) {room : Nat} {request : Turtle → Request}
    (shown : ∀ turtle, (request turtle).shown? = some turtle) :
    followed.Keeps (do
      become change
      ask room (request (← get).turtle)) := by
  intro studio follows
  have asked : followed.GivesAt (fun _ => True) (ask room (request (change studio.turtle)))
      { studio with turtle := change studio.turtle } := show_followed shown follows
  exact asked

theorem redraw_followed {room : Nat} {request : Turtle → Request}
    (shown : ∀ turtle, (request turtle).shown? = some turtle) :
    followed.Keeps (do ask room (request (← get).turtle)) := by
  intro studio follows
  have asked : followed.GivesAt (fun _ => True) (ask room (request studio.turtle)) studio :=
    show_followed shown follows
  exact asked

/-- A glide is shown from where the turtle was, so the scene follows. -/
theorem glide_followed (room : Nat) (distance : Float) (rule : Turtle → Except Mishap Turtle) :
    followed.Keeps (glide room distance rule) := by
  intro studio follows
  rw [glide, Conduct.GivesAt, Effectful.run_bind, Effectful.run_get]
  dsimp only
  cases rule studio.turtle with
  | error mishap => exact ⟨trivial, trivial⟩
  | ok after =>
      have asked : followed.GivesAt (fun _ => True)
          (ask room (.motion studio.turtle after (stepCount studio.speed distance)))
          { studio with turtle := after } := ask_followed follows (.refl after)
      exact asked

theorem goTo_followed (room : Nat) (x y : Option Float) : followed.Keeps (goTo room x y) :=
  Conduct.Gives.current.keeps.andThen fun _ => glide_followed _ _ _

theorem turn_followed (room : Nat) (heading : Float → Float) :
    followed.Keeps (turn room heading) :=
  change_followed _ fun _ => rfl

/-- Whatever the turtle does, the scene follows it. -/
theorem perform_followed (room : Nat) (deed : Deed) : followed.Keeps (perform room deed) := by
  cases deed with
  | forward distance => exact glide_followed room distance _
  | back distance => exact glide_followed room (-distance) _
  | left degrees => exact turn_followed room _
  | right degrees => exact turn_followed room _
  | setHeading degrees => exact turn_followed room _
  | setPosition x y => exact goTo_followed room x y
  | home => exact (goTo_followed room _ _).andThen fun _ => turn_followed room _
  | setPenDown | setPenMode | setPenColor =>
      exact become_followed fun turtle => ⟨rfl, rfl, rfl, rfl⟩
  | setPenSize size =>
      rw [perform]
      split
      · exact .exit fun _ _ => trivial
      · exact become_followed fun turtle => ⟨rfl, rfl, rfl, rfl⟩
  | setBackground | clear | setVisible => exact change_followed _ fun _ => rfl
  | clean | fill => exact redraw_followed fun _ => rfl
  | wait milliseconds =>
      intro studio follows
      exact ask_followed follows (.refl studio.turtle)

/-- Let the animations on the scene take a step. -/
def animate (step : Step Brushwork) : Direction Scene Unit := fun studio =>
  match (Scene.perform step).run studio.stage with
  | (.ok (), stage) => (.ok (), { studio with stage })
  | (.error fault, stage) => (.error (.fault fault), { studio with stage })

theorem run_animate (step : Step Brushwork) (studio : Studio Scene) :
    (animate step).run studio =
      match (Scene.perform step).run studio.stage with
      | (.ok (), stage) => (.ok (), { studio with stage })
      | (.error fault, stage) => (.error (.fault fault), { studio with stage }) :=
  rfl

/-- Whatever animates the scene, the turtle is the same. -/
theorem animate_followed {step : Step Brushwork}
    (keeps : ∀ {scene after : Scene} {turtle : Turtle}, scene.Follows turtle →
      (Scene.perform step).run scene = (.ok (), after) → after.Follows turtle) :
    followed.Keeps (animate step) := by
  intro studio follows
  rw [Conduct.GivesAt, run_animate]
  rcases performed : (Scene.perform step).run studio.stage with ⟨fault | ⟨⟩, stage⟩
  · exact ⟨trivial, trivial⟩
  · exact ⟨trivial, trivial, keeps follows performed⟩

/-- What can happen to a turtle on a scene, if nothing is dropped. -/
inductive Happening where
  | deed (room : Nat) (deed : Deed)
  | setSpeed (speed : Int)
  | tick (now : Float)
  | drain

/-- Let something happen. -/
def undergo : Happening → Direction Scene Unit
  | .deed room deed => perform room deed
  | .setSpeed speed => modify (setSpeed speed)
  | .tick now => animate (.tick now)
  | .drain => animate .drain

/-- Let one thing happen after the other, until something goes wrong. -/
def undergoAll : List Happening → Direction Scene Unit
  | [] => pure ()
  | happening :: rest => do
      undergo happening
      undergoAll rest

/-- One thing that happens leaves the turtle followed. -/
theorem undergo_followed (happening : Happening) : followed.Keeps (undergo happening) := by
  cases happening with
  | deed room deed => exact perform_followed room deed
  | setSpeed speed => exact .change fun studio follows => ⟨trivial, follows⟩
  | tick now => exact animate_followed fun follows ticked => follows.tick ticked
  | drain => exact animate_followed fun follows drained => follows.drain drained

/-- So does one thing after the other. -/
theorem undergoAll_followed (happenings : List Happening) :
    followed.Keeps (undergoAll happenings) := by
  induction happenings with
  | nil => exact .value trivial
  | cons happening rest hypothesis => exact (undergo_followed happening).andThen fun _ => hypothesis

/--
Whatever a turtle on a scene does, and however time passes for it: when no
animation is in flight or waiting, the picture is what is left of it when the
sprite is lifted, with the sprite of the turtle as it is now dropped on it.
So the sprite covers the places of a turtle at this place and with this
heading, or none if the turtle is hidden, and what is saved is the square
around this place.
-/
theorem idle_shows_turtle (scene fresh : Scene) (speed : Int) (happenings : List Happening)
    (studio : Studio Scene) (blanked : (Scene.reset .initial).run scene = (.ok (), fresh))
    (ran : (undergoAll happenings).run ⟨.initial, speed, fresh⟩ = (.ok (), studio))
    (idle : studio.stage.queue.isIdle = true) :
    (Canvas.drop studio.turtle).run studio.stage.canvas.lift = (.ok (), studio.stage.canvas) ∧
      ∃ middle covered, studio.stage.canvas.lift.pixel studio.turtle = .ok middle ∧
        studio.stage.canvas.lift.spritePixels studio.turtle = .ok covered ∧
        studio.stage.canvas.surface =
          studio.stage.canvas.lift.surface.paint covered Canvas.spriteColor ∧
        studio.stage.canvas.saved =
          (studio.stage.canvas.lift.saveUnder
            (Canvas.spriteSquare studio.stage.canvas.lift.surface middle)).saved := by
  have kept := undergoAll_followed happenings ⟨.initial, speed, fresh⟩
    (Scene.follows_of_reset blanked)
  rw [Conduct.GivesAt, ran] at kept
  obtain ⟨-, -, follows⟩ := kept
  have seen := Scene.Follows.shows follows idle
  obtain ⟨middle, covered, place, sprite, dropped⟩ := Canvas.exists_of_run_drop seen
  have surface := congrArg Canvas.surface dropped
  have saved := congrArg Canvas.saved dropped
  exact ⟨seen, middle, covered, place, sprite, surface, saved⟩

end Studio

/-! ## A walk that is drawn to its end -/

namespace Canvas

variable [Rasterizer] {canvas after : Canvas} {pending : List Brushwork}

/-- Brushwork that goes well keeps the size of the picture. -/
theorem sameSize_of_leads (leads : Leads apply pending canvas after) :
    Picture.Grid.SameSize canvas.surface after.surface := by
  induction pending generalizing canvas with
  | nil =>
      cases leads
      exact .refl _
  | cons piece rest induction =>
      obtain ⟨between, drawn, others⟩ := Leads.cons_iff.mp leads
      have size := (Steady.apply piece).size canvas
      rw [drawn] at size
      exact size.trans (induction others)

/-- Brushwork that goes well on a picture of this size goes well in every order. -/
theorem fine_of_ending {result : Except (Trouble Fault) Unit × Queue Brushwork × Canvas}
    (fine : ∀ piece ∈ pending, ((apply piece).run canvas).1.toBool = true)
    (ending : Ending apply canvas pending result) (cause : Fault) :
    result.1 ≠ .error (.failure cause) := by
  cases ending with
  | settled => nofun
  | endless => nofun
  | @failed had rest piece _ between _ _ split leads fails =>
      have drawn := fine piece (by simp [split])
      rw [← (Steady.apply piece).outcome (sameSize_of_leads leads), fails] at drawn
      cases drawn

end Canvas

namespace Scene

variable [Rasterizer]

/-- A scene on which all that is pending can be drawn, and time is up for it some day. -/
def Drawable (scene : Scene) : Prop :=
  ∃ events pending, OnlyWork events (⟨scene.queue, scene.canvas, []⟩ : Engine Brushwork Canvas) ∧
    scene.queue.Settled pending ∧
    ∀ piece ∈ pending, ((Canvas.apply piece).run scene.canvas).1.toBool = true

/-- On a scene with nothing to do all can be drawn that is pending, for nothing is. -/
theorem drawable_empty (canvas : Canvas) : Drawable ⟨canvas, .empty⟩ :=
  ⟨[], [], .start (by decide +kernel) canvas, Queue.settled_cancel .empty, nofun⟩

/-- If all of it can be drawn, a call of the queue goes well and leaves the rest to be drawn. -/
theorem drawable_of_ending {canvas : Canvas} {queue : Queue Brushwork} {step : Step Brushwork}
    {engine : Engine Brushwork Canvas} {events : List (Event Brushwork)}
    {pending : List Brushwork}
    (fine : ∀ piece ∈ pending, ((Canvas.apply piece).run canvas).1.toBool = true)
    (ending : Ending Canvas.apply canvas pending (queue.perform Canvas.apply step canvas))
    (called : queue.perform Canvas.apply step canvas = engine.run Canvas.apply)
    (onlyWork : OnlyWork events engine) :
    ∃ after, (perform step).run ⟨canvas, queue⟩ = (.ok (), after) ∧
      queue.perform Canvas.apply step canvas = (.ok (), after.queue, after.canvas) ∧
      after.Drawable ∧ Picture.Grid.SameSize canvas.surface after.canvas.surface := by
  have unbroken := Canvas.fine_of_ending fine ending
  rw [called] at unbroken
  obtain ⟨_, queueAfter, drawn, -, ran, onlyWorkAfter⟩ := onlyWork.run unbroken
  rw [← called] at ran
  rw [ran] at ending
  cases ending with
  | @settled had rest _ _ split leads settled =>
      have size := Canvas.sameSize_of_leads leads
      refine ⟨⟨drawn, queueAfter⟩, ?_, ran, ⟨_, rest, onlyWorkAfter, settled, ?_⟩, size⟩
      · rw [run_perform, ran]
      · intro piece member
        rw [(Canvas.Steady.apply piece).outcome size]
        exact fine piece (by simp [split, member])

variable {scene : Scene}

/-- What can be drawn may be asked for, whatever else there is to do. -/
theorem Drawable.request (drawable : scene.Drawable) {request : Request}
    (finite : ∀ milliseconds, request = .wait milliseconds →
      (milliseconds / 1000).isFinite = true)
    (fine : ∀ piece ∈ request.brushwork, ((Canvas.apply piece).run scene.canvas).1.toBool = true) :
    ∃ shown, (Scene.request request).run scene = (.ok (), shown) ∧ shown.Drawable ∧
      Picture.Grid.SameSize scene.canvas.surface shown.canvas.surface := by
  obtain ⟨events, pending, onlyWork, settled, goesWell⟩ := drawable
  have whole : ∀ piece ∈ pending ++ request.brushwork,
      ((Canvas.apply piece).run scene.canvas).1.toBool = true := by
    intro piece member
    exact (List.mem_append.mp member).elim (goesWell piece) (fine piece)
  obtain ⟨shown, asked, -, drawable, size⟩ := drawable_of_ending whole
    (Queue.perform_submit settled request.script_plays) (Queue.perform_submit_eq _ _ _ _)
    (onlyWork.submit (isWork_script finite))
  exact ⟨shown, asked, drawable, size⟩

/-- What can be drawn is drawn to its end. -/
theorem Drawable.drain (drawable : scene.Drawable) :
    ∃ drained, (perform .drain).run scene = (.ok (), drained) ∧
      drained.queue.isIdle = true ∧ drained.Drawable ∧
      Picture.Grid.SameSize scene.canvas.surface drained.canvas.surface := by
  obtain ⟨events, pending, onlyWork, settled, goesWell⟩ := drawable
  obtain ⟨drained, performed, ran, drawable, size⟩ := drawable_of_ending goesWell
    (Queue.perform_drain settled) (Engine.run_next rfl) onlyWork.drain
  exact ⟨drained, performed, Queue.idle_of_perform_drain ran, drawable, size⟩

end Scene

namespace Studio

/-- With room to ask for it, a motion is shown where the rule leads to. -/
theorem run_glide [Platform] {room : Nat} {distance : Float} {turtle after : Turtle} {speed : Int}
    {scene shown : Scene} {rule : Turtle → Except Mishap Turtle} (moved : rule turtle = .ok after)
    (enough : Platform.asking ≤ room)
    (asked : (Scene.request (.motion turtle after (stepCount speed distance))).run scene =
      (.ok (), shown)) :
    (glide room distance rule).run ⟨turtle, speed, scene⟩ = (.ok (), ⟨after, speed, shown⟩) := by
  have walked : (glide room distance rule).run ⟨turtle, speed, scene⟩ =
      (ask room (.motion turtle after (stepCount speed distance))).run
        ⟨after, speed, scene⟩ := by
    rw [glide, Effectful.run_bind, Effectful.run_get]
    dsimp only
    rw [moved]
    rfl
  have drawn : (Stage.request (.motion turtle after (stepCount speed distance))).run scene =
      (.ok (), shown) := asked
  have room : Stage.room (⟨after, speed, scene⟩ : Studio Scene).stage ≤ room := enough
  rw [walked, run_ask _ room, drawn]

theorem reset_stamp :
    letI := Platform.standard
    (Scene.reset .initial).run ⟨.onSurface stamp, .empty⟩ = (.ok (), .onSurface stamp) := by
  let _ := Platform.standard
  have fine : ((Scene.reset .initial).run ⟨.onSurface stamp, .empty⟩).1.toBool = true := by
    decide +kernel
  rw [Scene.onSurface]
  rcases ran : (Scene.reset .initial).run ⟨.onSurface stamp, .empty⟩ with ⟨fault | ⟨⟩, scene⟩
  · rw [ran] at fine
    cases fine
  · rfl

/-- A walk of a visible turtle to the edge of a small picture. -/
def walkToEdge : Request :=
  .motion .initial { x := 1 } 5

theorem walkToEdge_fine :
    letI := Platform.standard
    ∀ piece ∈ walkToEdge.brushwork,
      ((Canvas.apply piece).run (Canvas.onSurface stamp)).1.toBool = true := by
  decide +kernel

/-- A turtle that has walked in sight is seen where it is. -/
theorem idle_shows_turtle_after_walk :
    letI := Platform.standard
    ∃ studio,
      (undergoAll [.deed 1 (.setPosition (some 1) none), .drain]).run
        ⟨.initial, 50, .onSurface stamp⟩ = (.ok (), studio) ∧
      studio.turtle.visible = true ∧ studio.turtle.x = 1 ∧ studio.stage.queue.isIdle = true ∧
      (Canvas.drop studio.turtle).run studio.stage.canvas.lift =
        (.ok (), studio.stage.canvas) := by
  let _ := Platform.standard
  have size : Picture.Grid.SameSize (Canvas.onSurface stamp).surface
      (Scene.onSurface stamp).canvas.surface :=
    (Canvas.Steady.apply (.repaint .initial)).size (.onSurface stamp)
  have fine : ∀ piece ∈ walkToEdge.brushwork,
      ((Canvas.apply piece).run (Scene.onSurface stamp).canvas).1.toBool = true := by
    intro piece member
    rw [(Canvas.Steady.apply piece).outcome size]
    exact walkToEdge_fine piece member
  obtain ⟨shown, asked, drawable, -⟩ :=
    (Scene.drawable_empty (Scene.onSurface stamp).canvas).request (by rintro _ ⟨⟩) fine
  obtain ⟨drained, ended, idle, -⟩ := drawable.drain
  have ran : (undergoAll [.deed 1 (.setPosition (some 1) none), .drain]).run
      ⟨.initial, 50, .onSurface stamp⟩ = (.ok (), ⟨{ x := 1 }, 50, drained⟩) := by
    have reach : Turtle.initial.moveTo 1 0 = .ok { x := 1 } := if_pos (by decide +kernel)
    have steps : stepCount 50 (((1 : Float) - 0).abs + ((0 : Float) - 0).abs) = 5 := by
      decide +kernel
    have walk : Request.motion .initial { x := 1 }
        (stepCount 50 (((1 : Float) - 0).abs + ((0 : Float) - 0).abs)) = walkToEdge := by
      rw [steps]
      rfl
    rw [← walk] at asked
    have gone : (glide 1 (((1 : Float) - 0).abs + ((0 : Float) - 0).abs) (·.moveTo 1 0)).run
        ⟨.initial, 50, .onSurface stamp⟩ = (.ok (), ⟨{ x := 1 }, 50, shown⟩) :=
      run_glide reach (Nat.le_refl 1) asked
    have walked : (undergo (.deed 1 (.setPosition (some 1) none))).run
        ⟨.initial, 50, .onSurface stamp⟩ = (.ok (), ⟨{ x := 1 }, 50, shown⟩) := by
      rw [undergo, perform, goTo, Effectful.run_bind, Effectful.run_get]
      exact gone
    rw [undergoAll, Effectful.run_bind_ok walked, undergoAll, undergo, Effectful.run_bind,
      run_animate, ended]
    rfl
  exact ⟨_, ran, rfl, rfl, idle, (idle_shows_turtle _ _ 50 _ _ reset_stamp ran idle).1⟩

end Studio

end Logo
