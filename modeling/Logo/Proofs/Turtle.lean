import Logo.Proofs.Machine.Studio
import Logo.Proofs.Number.Order

/-!
# The turtle stays in reach

A turtle that nobody watches can be told anything, with any numbers, also
infinite and undefined ones.  It stays within reach of its home all the same,
and whatever it refuses to do leaves it as it was.

Where nothing is shown, a deed either makes another turtle of a turtle or is
refused for a reason; nothing is done halfway.  So it is enough to look at
what each deed makes of a turtle.
-/

namespace Logo

/-! ## Sizes of numbers -/

namespace Number

open Float.Model (UnpackedFloat)

/-- A finite number ranks below infinity. -/
theorem rank_lt_infinity {number : UnpackedFloat} (finite : number.isFinite = true) :
    rank number < rank (.infinity .positive) := by
  rcases number with sign | _ | sign | ⟨_ | _, mantissa, exponent, positive⟩
  · cases finite
  · cases finite
  · exact Prod.Lex.toLex_lt_toLex.mpr (Or.inl (show (0 : Int) < 2 by decide))
  · exact Prod.Lex.toLex_lt_toLex.mpr (Or.inl (show (-1 : Int) < 2 by decide))
  · exact Prod.Lex.toLex_lt_toLex.mpr (Or.inl (show (1 : Int) < 2 by decide))

/--
What is not larger than a finite number in size is finite.  The size of what is
not finite is infinite, or no number.
-/
theorem isFinite_of_abs_le {number bound : Float} (bounded : number.abs ≤ bound)
    (finite : bound.isFinite = true) : number.isFinite = true := by
  obtain ⟨known, -, within⟩ := (le_iff_place_le number.abs bound).mp bounded
  have below := lt_of_le_of_lt within (rank_lt_infinity finite)
  show number.toModel.unpack.isFinite = true
  change (UnpackedFloat.unpack .binary64 (UnpackedFloat.pack .binary64
    number.toModel.unpack.abs)).isNaN = false at known
  change rank (UnpackedFloat.unpack .binary64 (UnpackedFloat.pack .binary64
    number.toModel.unpack.abs)) < _ at below
  generalize number.toModel.unpack = unpacked at known below ⊢
  rcases unpacked with sign | _ | sign | _
  · have infinite : UnpackedFloat.unpack .binary64 (UnpackedFloat.pack .binary64
        (.infinity .positive)) = .infinity .positive := by rfl
    rw [UnpackedFloat.abs, infinite] at below
    exact absurd below (lt_irrefl _)
  · cases known
  · rfl
  · rfl

end Number

/-! ## What a deed makes of a turtle -/

namespace Turtle

/-- The turtle keeps within reach of its home, and its pen has a size. -/
structure InReach (turtle : Turtle) : Prop where
  x : turtle.x.abs ≤ 1000000
  y : turtle.y.abs ≤ 1000000
  penSize : ¬ turtle.penSize < 0

theorem inReach_initial : InReach .initial :=
  ⟨by decide, by decide, by decide⟩

/-- To be within reach is to be no further than a million from home, in each direction. -/
theorem withinReach_iff {x y : Float} :
    withinReach x y = true ↔ x.abs ≤ 1000000 ∧ y.abs ≤ 1000000 := by
  rw [withinReach, Bool.and_eq_true, decide_eq_true_iff, decide_eq_true_iff, reach]

/-- Where a deed would bring the turtle, if it is a motion and the heading has a direction. -/
def destination? (turtle : Turtle) : Deed → Option (Float × Float)
  | .forward distance => placeAhead? distance
  | .back distance => placeAhead? (-distance)
  | .setPosition x y => some (x.getD turtle.x, y.getD turtle.y)
  | .home => some (0, 0)
  | _ => none
where
  placeAhead? (distance : Float) : Option (Float × Float) :=
    (direction turtle.heading).toOption.map fun (sine, cosine) =>
      (tidy (turtle.x + distance * sine), tidy (turtle.y + distance * cosine))

/-- What a deed makes of the turtle, or why it is refused. -/
def after (turtle : Turtle) : Deed → Except Mishap Turtle
  | .forward distance => turtle.ahead distance
  | .back distance => turtle.ahead (-distance)
  | .left degrees => .ok { turtle with heading := turtle.heading - degrees }
  | .right degrees => .ok { turtle with heading := turtle.heading + degrees }
  | .setHeading degrees => .ok { turtle with heading := Number.modulo degrees 360 }
  | .setPosition x y => turtle.moveTo (x.getD turtle.x) (y.getD turtle.y)
  | .home => .ok { turtle with x := 0, y := 0, heading := 0 }
  | .setPenDown penDown => .ok { turtle with penDown }
  | .setPenMode penMode => .ok { turtle with penMode }
  | .setPenColor penColor => .ok { turtle with penColor }
  | .setPenSize penSize =>
      if penSize < 0 then .error (.error (.rejectedInput "SETPENSIZE" (Number.plain penSize)))
      else .ok { turtle with penSize }
  | .setBackground background => .ok { turtle with background }
  | .clear => .ok .initial
  | .setVisible visible => .ok { turtle with visible }
  | .clean | .fill | .wait _ => .ok turtle

/-- The reasons for which a turtle refuses a deed. -/
inductive Refuses (turtle : Turtle) : Deed → Mishap → Prop where
  | tooFar {deed : Deed} {x y : Float} (leads : turtle.destination? deed = some (x, y))
      (beyond : ¬ (x.abs ≤ 1000000 ∧ y.abs ≤ 1000000)) :
      Refuses turtle deed (.error .outOfReach)
  | lost {deed : Deed} (walks : deed.isWalk = true) (infinite : turtle.heading.isInf = true) :
      Refuses turtle deed (.fault .infiniteAngle)
  | negativeSize {size : Float} (negative : size < 0) :
      Refuses turtle (.setPenSize size)
        (.error (.rejectedInput "SETPENSIZE" (Number.plain size)))

variable {turtle next : Turtle} {deed : Deed} {mishap : Mishap}

/-- A turtle that moves stays within reach. -/
theorem inReach_moveTo {x y : Float} (within : turtle.InReach)
    (moved : turtle.moveTo x y = .ok next) : next.InReach := by
  unfold moveTo at moved
  split at moved
  · rename_i reached
    cases moved
    exact ⟨(withinReach_iff.mp reached).1, (withinReach_iff.mp reached).2, within.penSize⟩
  · cases moved

theorem inReach_ahead {distance : Float} (within : turtle.InReach)
    (moved : turtle.ahead distance = .ok next) : next.InReach := by
  unfold ahead at moved
  split at moved
  · cases moved
  · exact inReach_moveTo within moved

/-- One deed keeps the turtle in reach. -/
theorem InReach.after (within : turtle.InReach) (done : turtle.after deed = .ok next) :
    next.InReach := by
  cases deed with
  | forward | back => exact inReach_ahead within done
  | setPosition => exact inReach_moveTo within done
  | home =>
      cases done
      exact ⟨inReach_initial.x, inReach_initial.y, within.penSize⟩
  | setPenSize size =>
      rw [Turtle.after] at done
      split at done
      · cases done
      · rename_i sized
        cases done
        exact ⟨within.x, within.y, sized⟩
  | clear =>
      cases done
      exact inReach_initial
  | _ =>
      cases done
      exact ⟨within.x, within.y, within.penSize⟩

/-- Where a turtle may not go is beyond reach. -/
theorem beyond_of_moveTo {x y : Float} (failed : turtle.moveTo x y = .error mishap) :
    ¬ (x.abs ≤ 1000000 ∧ y.abs ≤ 1000000) := by
  unfold moveTo at failed
  split at failed
  · cases failed
  · rename_i beyond
    exact fun within => beyond (withinReach_iff.mpr within)

theorem refuses_ahead {distance : Float} (failed : turtle.ahead distance = .error mishap)
    (walks : deed.isWalk = true)
    (leads : turtle.destination? deed = destination?.placeAhead? turtle distance) :
    turtle.Refuses deed mishap := by
  unfold ahead at failed
  split at failed
  · rename_i lost
    cases failed
    obtain ⟨rfl, infinite⟩ := direction_error lost
    exact .lost walks infinite
  · rename_i sine cosine found
    rw [destination?.placeAhead?, found] at leads
    rw [moveTo_error failed]
    exact .tooFar leads (beyond_of_moveTo failed)

/-- A deed that is refused is refused for a reason. -/
theorem refuses_of_after (failed : turtle.after deed = .error mishap) :
    turtle.Refuses deed mishap := by
  cases deed with
  | forward | back => exact refuses_ahead failed rfl rfl
  | setPosition x y =>
      have beyond := beyond_of_moveTo failed
      rw [moveTo_error failed]
      exact .tooFar rfl beyond
  | setPenSize size =>
      rw [Turtle.after] at failed
      split at failed
      · rename_i negative
        cases failed
        exact .negativeSize negative
      · cases failed
  | _ => cases failed

end Turtle

/-! ## A turtle that nobody watches -/

namespace Studio

/-- What can be asked of a turtle that nobody watches. -/
inductive Instruction where
  | deed (deed : Deed)
  | setSpeed (speed : Int)
  | cancel

/--
Follow an instruction, with some room left for it.  Where nothing is shown there is nothing to
cancel.
-/
def follow (room : Nat) (instruction : Instruction) : Direction Unit Unit :=
  match instruction with
  | .deed deed => perform room deed
  | .setSpeed speed => modify (setSpeed speed)
  | .cancel => pure ()

/-- Follow one instruction after the other; after a mishap the next one is followed all the same. -/
def followAll (room : Nat) : List Instruction → Studio Unit → Studio Unit
  | [], studio => studio
  | instruction :: rest, studio => followAll room rest ((follow room instruction).run studio).2

/-- Give the turtle its new state, or fail and leave it. -/
def settle (studio : Studio Unit) : Except Mishap Turtle → Except Mishap Unit × Studio Unit
  | .ok turtle => (.ok (), { studio with turtle })
  | .error mishap => (.error mishap, studio)

variable (room : Nat)

theorem run_glide_unwatched (distance : Float) (rule : Turtle → Except Mishap Turtle)
    (studio : Studio Unit) :
    (glide room distance rule).run studio = studio.settle (rule studio.turtle) := by
  rw [glide, Effectful.run_bind, Effectful.run_get]
  dsimp only
  cases rule studio.turtle <;> rfl

theorem run_turn_unwatched (heading : Float → Float) (studio : Studio Unit) :
    (turn room heading).run studio =
      studio.settle (.ok { studio.turtle with heading := heading studio.turtle.heading }) := rfl

theorem run_goTo_unwatched (x y : Option Float) (studio : Studio Unit) :
    (goTo room x y).run studio =
      studio.settle (studio.turtle.moveTo (x.getD studio.turtle.x) (y.getD studio.turtle.y)) := by
  rw [goTo, Effectful.run_bind, Effectful.run_get]
  exact run_glide_unwatched room _ _ studio

/-- Where nothing is shown, a deed is done as a whole or not at all. -/
theorem run_perform_unwatched (deed : Deed) (studio : Studio Unit) :
    (perform room deed).run studio = studio.settle (studio.turtle.after deed) := by
  cases deed with
  | forward distance => exact run_glide_unwatched room _ (·.ahead distance) studio
  | back distance => exact run_glide_unwatched room _ (·.ahead (-distance)) studio
  | left degrees => exact run_turn_unwatched room (· - degrees) studio
  | right degrees => exact run_turn_unwatched room (· + degrees) studio
  | setHeading degrees => exact run_turn_unwatched room (fun _ => Number.modulo degrees 360) studio
  | setPosition x y => exact run_goTo_unwatched room x y studio
  | home =>
      have reached : studio.turtle.moveTo 0 0 = .ok { studio.turtle with x := 0, y := 0 } :=
        if_pos (Turtle.withinReach_iff.mpr ⟨Turtle.inReach_initial.x, Turtle.inReach_initial.y⟩)
      rw [perform, Effectful.run_bind, run_goTo_unwatched, Option.getD_some, Option.getD_some,
        reached]
      exact run_turn_unwatched room _ _
  | setPenSize size =>
      rw [perform, Turtle.after]
      split <;> rfl
  | _ => rfl

/-- An instruction that is not followed leaves the turtle and its speed alone, and has a reason. -/
theorem refuses_of_follow {instruction : Instruction} {studio : Studio Unit} {mishap : Mishap}
    (failed : ((follow room instruction).run studio).1 = .error mishap) :
    ((follow room instruction).run studio).2 = studio ∧
      ∃ deed, instruction = .deed deed ∧ studio.turtle.Refuses deed mishap := by
  cases instruction with
  | setSpeed | cancel => cases failed
  | deed deed =>
      rw [follow, run_perform_unwatched] at failed ⊢
      cases outcome : studio.turtle.after deed with
      | ok turtle =>
          rw [outcome] at failed
          cases failed
      | error =>
          rw [outcome] at failed
          cases failed
          exact ⟨rfl, deed, rfl, Turtle.refuses_of_after outcome⟩

/-- One instruction keeps the turtle in reach. -/
theorem inReach_follow (instruction : Instruction) {studio : Studio Unit}
    (within : studio.turtle.InReach) : ((follow room instruction).run studio).2.turtle.InReach := by
  cases instruction with
  | setSpeed | cancel => exact within
  | deed deed =>
      rw [follow, run_perform_unwatched]
      cases outcome : studio.turtle.after deed with
      | ok turtle => exact within.after outcome
      | error => exact within

/-- Any number of instructions keep the turtle in reach. -/
theorem inReach_followAll (instructions : List Instruction) {studio : Studio Unit}
    (within : studio.turtle.InReach) : (followAll room instructions studio).turtle.InReach := by
  induction instructions generalizing studio with
  | nil => exact within
  | cons instruction rest keeps => exact keeps (inReach_follow room instruction within)

/--
Whatever a new turtle is told, in whatever order and with whatever numbers, its
place is within reach and so is never infinite or undefined, and the size of
its pen is not negative.  Whatever it refuses next, it refuses for one of three
reasons, and then nothing about it has changed.
-/
theorem inReach_of_instructions (instructions : List Instruction) (speed : Int) :
    let studio := followAll room instructions ⟨.initial, speed, ()⟩
    studio.turtle.InReach ∧
      studio.turtle.x.isFinite = true ∧ studio.turtle.y.isFinite = true ∧
      ∀ instruction mishap, ((follow room instruction).run studio).1 = .error mishap →
        ((follow room instruction).run studio).2 = studio ∧
          ∃ deed, instruction = .deed deed ∧ studio.turtle.Refuses deed mishap := by
  have start : (⟨.initial, speed, ()⟩ : Studio Unit).turtle.InReach := Turtle.inReach_initial
  have within := inReach_followAll room instructions start
  refine ⟨within, Number.isFinite_of_abs_le within.x (by decide),
    Number.isFinite_of_abs_le within.y (by decide), ?_⟩
  intro instruction mishap failed
  exact refuses_of_follow room failed

/-- Headed infinitely far round, the turtle can take no step, and stays where it was told to go. -/
theorem follow_forward_lost :
    let studio := followAll 0
      [.deed (.setPosition (some 1000) (some (-1000))), .deed (.right (1 / 0))]
      (⟨.initial, 50, ()⟩ : Studio Unit)
    ((follow 0 (.deed (.forward 10))).run studio).1 = .error (.fault .infiniteAngle) ∧
      ((follow 0 (.deed (.forward 10))).run studio).2 = studio := by
  intro studio
  have infinite : studio.turtle.heading.isInf = true := by decide +kernel
  have failed : ((follow 0 (.deed (.forward 10))).run studio).1 =
      .error (.fault .infiniteAngle) := by
    rw [follow, run_perform_unwatched, Turtle.after, Turtle.ahead_of_isInf 10 infinite]
    rfl
  have refused := (inReach_of_instructions 0
    [.deed (.setPosition (some 1000) (some (-1000))), .deed (.right (1 / 0))] 50).2.2.2
      (.deed (.forward 10)) (.fault .infiniteAngle) failed
  exact ⟨failed, refused.1⟩

end Studio

end Logo
