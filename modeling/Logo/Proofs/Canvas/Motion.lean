import Logo.Proofs.Animation.Completion
import Logo.Proofs.Scene

/-!
# Motions are drawn to their end

With the pen down, a motion draws one stroke in each of its frames, and there
is at least one frame.  Each stroke begins exactly where the one before it
ended, and the last one ends exactly where the turtle goes to.  Draining the
queue of a scene draws all of them, with whatever else was asked for.
-/

namespace Logo

open Animation

/-! ## Strokes -/

/-- A stroke between two places of the turtle. -/
structure Stroke where
  start : Float × Float
  stop : Float × Float

/-- The stroke that a piece of brushwork draws, if the pen is down. -/
def Brushwork.stroke? : Brushwork → Option Stroke
  | .glide _ fromX fromY toX toY turtle =>
      if turtle.penDown then some ⟨(fromX, fromY), (toX, toY)⟩ else none
  | .redraw _ | .repaint _ | .fill _ => none

/-- The strokes in a history, in order. -/
def strokesIn (events : List (Event Brushwork)) : List Stroke :=
  (effectsIn events).filterMap Brushwork.stroke?

/--
Strokes that lead from the place of one turtle to that of another.  They lead
from the very place if multiples of zero do not change its coordinates.
-/
structure Spans (before after : Turtle) (strokes : List Stroke) : Prop where
  joined : strokes.IsChain fun earlier later => earlier.stop = later.start
  first : before.x + (after.x - before.x) * 0 = before.x →
    before.y + (after.y - before.y) * 0 = before.y →
      strokes.head?.map Stroke.start = some (before.x, before.y)
  last : strokes.getLast?.map Stroke.stop = some (after.x, after.y)

/-- The frames of a film, counted from the first. -/
theorem reel_eq_map {ε : Type} (effect : Nat → ε) (left : Nat) :
    reel effect left = (List.range (left + 1)).map fun index => effect (left - index) := by
  induction left with
  | zero => rfl
  | succ left induction =>
      have frames : List.range (left + 1 + 1) = 0 :: (List.range (left + 1)).map Nat.succ :=
        List.range_succ_eq_map
      rw [reel, induction, frames, List.map_cons, List.map_map]
      congr 1
      apply List.map_congr_left
      intro index _
      show effect (left - index) = effect (left + 1 - (index + 1))
      rw [Nat.add_sub_add_right]

/-- The brushwork of a motion is one piece for each of its frames, in order. -/
theorem brushwork_motion (before after : Turtle) (steps : Nat) :
    (Request.motion before after steps).brushwork =
      (List.range (max 1 steps)).map (motionFrame before after (max 1 steps)) := by
  have some : max 1 steps - 1 + 1 = max 1 steps := by omega
  show reel (fun left => motionFrame before after (max 1 steps) (max 1 steps - 1 - left))
    (max 1 steps - 1) = _
  rw [reel_eq_map, some]
  apply List.map_congr_left
  intro index below
  rw [List.mem_range] at below
  congr 1
  omega

/-- A request has its brushwork done, and nothing else. -/
theorem effectsOf_script (request : Request) : effectsOf request.script = request.brushwork := by
  cases request <;> simp [Request.script, Request.brushwork, job, pause, effectsOf, Step.effects]

theorem effectsIn_account {ε : Type} (task : Script ε) :
    effectsIn (account task) = effectsOf task := by
  have had : (effectsOf task).filterMap (Event.had? ∘ Event.had) = effectsOf task :=
    List.filterMap_some
  simp [effectsIn, account, remainder, List.filterMap_cons, List.filterMap_map, had]

/-- With the pen down, every frame of a motion is a stroke. -/
theorem strokesIn_motion {before after : Turtle} (steps : Nat) (down : after.penDown = true) :
    strokesIn (account (Request.motion before after steps).script) =
      (List.range (max 1 steps)).map fun step =>
        ⟨motionPosition before after (max 1 steps) step,
          motionPosition before after (max 1 steps) (step + 1)⟩ := by
  have drawn (step : Nat) : (motionFrame before after (max 1 steps) step).stroke? =
      some ⟨motionPosition before after (max 1 steps) step,
        motionPosition before after (max 1 steps) (step + 1)⟩ := by
    simp [motionFrame, Brushwork.stroke?, down]
  rw [strokesIn, effectsIn_account, effectsOf_script, brushwork_motion, List.filterMap_map]
  simp [drawn]

/-- A motion begins where the turtle was, if adding nothing to a place is exact there. -/
theorem motionPosition_zero {before after : Turtle} {steps : Nat} (some : 0 < steps)
    (sameX : before.x + (after.x - before.x) * 0 = before.x)
    (sameY : before.y + (after.y - before.y) * 0 = before.y) :
    motionPosition before after steps 0 = (before.x, before.y) := by
  rw [motionPosition, if_neg (by omega), Number.zero_div_ofNat some]
  exact Prod.ext sameX sameY

/-- A motion ends where the turtle is afterwards. -/
theorem motionPosition_last (before after : Turtle) (steps : Nat) :
    motionPosition before after steps steps = (after.x, after.y) :=
  if_pos (Nat.le_refl steps)

/-- The strokes of a motion lead from where the turtle was to where it goes. -/
theorem spans_motion {before after : Turtle} (steps : Nat) (down : after.penDown = true) :
    Spans before after (strokesIn (account (Request.motion before after steps).script)) := by
  rw [strokesIn_motion steps down]
  obtain ⟨count, some⟩ : ∃ count, max 1 steps = count + 1 := ⟨max 1 steps - 1, by omega⟩
  rw [some]
  refine ⟨?_, ?_, ?_⟩
  · rw [List.isChain_map, List.isChain_range_succ]
    intro step _
    rfl
  · intro sameX sameY
    simp [List.range_succ_eq_map, motionPosition_zero (Nat.succ_pos count) sameX sameY]
  · simp [List.range_succ, motionPosition_last]

/-! ## Draining a scene -/

/-- Every request but an endless wait is work. -/
theorem isWork_script {request : Request}
    (finite : ∀ milliseconds, request = .wait milliseconds →
      (milliseconds / 1000).isFinite = true) :
    IsWork request.script := by
  cases request with
  | motion before after steps => exact .film
  | redraw turtle => exact .effect .finish
  | repaint turtle => exact .effect .finish
  | fill turtle => exact .effect .finish
  | wait milliseconds => exact .later (finite milliseconds rfl) .finish

/--
A drain gets through all work.  The queue may have been filled by submits and
ticks in any order, with work that may submit further work; its clock has to
be a number, as it is from the start.  Unless an effect fails, the drain comes
to its end: it leaves the queue idle, with nothing to do at a frame or at a
time, and the clock not turned back.  Every task that was ever submitted, from
outside or by other work, has been run then from its start to its one finish,
one task after the other and each with all of its effects.  Those of a motion
are its strokes, one for each of its steps but at least one, and they lead
from where the turtle was to where it goes.
-/
theorem drain_gets_through {ω φ : Type} {apply : Brushwork → ExceptT φ (StateM ω) Unit}
    {clock : Float} (number : clock.isNaN = false) {world shown : ω}
    {events : List (Event Brushwork)} {queue : Queue Brushwork}
    (filled : Reached apply IsFilling (fun _ => False) ⟨clock, [], false, [], []⟩ world
      events ⟨queue, shown, []⟩)
    (fine : ∀ cause, (queue.perform apply .drain shown).1 ≠ .error (.failure cause)) :
    ∃ more after drawn,
      queue.perform apply .drain shown = (.ok (), after, drawn) ∧
      Engine.Runs apply ⟨queue, shown, [.script [.drain]]⟩ more ⟨after, drawn, []⟩ ∧
      after.isIdle = true ∧ after.frames = [] ∧ after.timers = [] ∧ queue.now ≤ after.now ∧
      doneIn (events ++ more) = (submittedIn (events ++ more)).flatMap account ∧
      ∀ before target steps, target.penDown = true →
        let strokes := strokesIn (account (Request.motion before target steps).script)
        strokes.length = max 1 steps ∧ Spans before target strokes := by
  obtain ⟨more, after, drawn, runs, performed, empty, clock, done⟩ := filled.drain number fine
  refine ⟨more, after, drawn, performed, runs, ?_, ?_, ?_, clock, done, ?_⟩
  · rw [empty]
    rfl
  · rw [empty]
  · rw [empty]
  · intro before target steps down
    refine ⟨?_, spans_motion steps down⟩
    rw [strokesIn_motion steps down, List.length_map, List.length_range]

/-- Brushwork that nobody sees. -/
def unseenBrushwork (_ : Brushwork) : ExceptT Empty (StateM Unit) Unit :=
  pure ()

/-- A motion of two steps. -/
def twoSteps : Request :=
  .motion .initial { Turtle.initial with x := 10 } 2

/-- A motion of two steps is under way after it was submitted, and a drain ends it. -/
theorem drain_gets_through_two_steps :
    ∃ events queue, queue.isIdle = false ∧ twoSteps.script ∈ submittedIn events ∧
      Reached unseenBrushwork IsFilling (fun _ => False) ⟨0, [], false, [], []⟩ () events
        ⟨queue, (), []⟩ ∧
      ∃ after, queue.perform unseenBrushwork .drain () = (.ok (), after, ()) ∧
        after.isIdle = true := by
  have called : Reached unseenBrushwork IsFilling (fun _ => False) ⟨0, [], false, [], []⟩ () []
      ⟨⟨0, [], false, [], []⟩, (), [.script [.submit twoSteps.script]]⟩ :=
    .call .start (.submit (isWork_script (by rintro _ ⟨⟩)))
  have filled := ((((((((called.next rfl).next rfl).next rfl).next rfl).next rfl).next rfl).next
    rfl).next rfl).next rfl
  obtain ⟨_, after, _, performed, _, idle, _⟩ :=
    drain_gets_through (by decide +kernel) filled (by rintro ⟨⟩)
  refine ⟨_, _, rfl, ?_, filled, after, performed, idle⟩
  exact List.mem_cons_self

end Logo
