import Logo.Proofs.Machine.Alike
import Logo.Proofs.Machine.Primitives
import Logo.Proofs.Number.Infinite

/-!
# What can go wrong in a studio

The turtle refuses to go too far and to take a pen of negative size.  Both are
errors of the language.  Faults have three sources only: the stage may refuse a
request, there may be too little room to ask it, and a turtle whose heading is
infinite cannot walk.  In all of this the stage is touched by requests and by
nothing else.
-/

namespace Logo

variable {σ α : Type}

section

variable [Stage σ]

/-- A fault with which the stage refuses a request. -/
def Stage.Refuses (σ : Type) [Stage σ] (fault : Fault) : Prop :=
  ∃ (request : Request) (stage : σ), ((Stage.request request).run stage).1 = .error fault

/-- Something about a stage that no request changes. -/
def Stage.Leaves (view : σ → α) : Prop :=
  ∀ (request : Request) (stage : σ), view ((Stage.request request).run stage).2 = view stage

end

namespace Turtle

/-- The only reason not to move to a place is that it is out of reach. -/
theorem moveTo_error {turtle : Turtle} {x y : Float} {mishap : Mishap}
    (failed : turtle.moveTo x y = .error mishap) : mishap = .error .outOfReach := by
  unfold moveTo at failed
  split at failed
  · cases failed
  · exact (Except.error.inj failed).symm

/-- Only an infinite heading has no direction. -/
theorem direction_error {heading : Float} {fault : Fault}
    (failed : direction heading = .error fault) :
    fault = .infiniteAngle ∧ heading.isInf = true := by
  unfold direction at failed
  dsimp only at failed
  split at failed
  · rename_i infinite
    exact ⟨(Except.error.inj failed).symm, (Number.isInf_radians heading).symm.trans infinite⟩
  · cases failed

/-- Walking fails because it leads too far, or because the heading is infinite. -/
theorem ahead_error {turtle : Turtle} {distance : Float} {mishap : Mishap}
    (failed : turtle.ahead distance = .error mishap) :
    mishap = .error .outOfReach ∨
      mishap = .fault .infiniteAngle ∧ turtle.heading.isInf = true := by
  unfold ahead at failed
  split at failed
  · rename_i lost
    cases failed
    obtain ⟨rfl, infinite⟩ := direction_error lost
    exact Or.inr ⟨rfl, infinite⟩
  · exact Or.inl (moveTo_error failed)

/-- A turtle with an infinite heading does not walk. -/
theorem ahead_of_isInf {turtle : Turtle} (distance : Float)
    (infinite : turtle.heading.isInf = true) :
    turtle.ahead distance = .error (.fault .infiniteAngle) := by
  simp only [ahead, direction, Number.isInf_radians, infinite, if_true]

end Turtle

namespace Studio

variable [Stage σ] {view : σ → α} {peril : Studio σ → Prop} {room : Nat}

/--
No request changes the view of the stage, errors are common ones, and every fault is explained: the
stage refused a request, there was too little room for it, or the turtle was in peril.
-/
def faultsExplained (view : σ → α) (peril : Studio σ → Prop) : Conduct Mishap (Studio σ) where
  holds _ := True
  moves before after := view after.stage = view before.stage
  leaves mishap studio :=
    match mishap with
    | .error error => error.IsCommon
    | .fault fault =>
        Stage.Refuses σ fault ∨ fault = .tooManyCalls ∨ fault = .infiniteAngle ∧ peril studio
  refl _ := rfl
  trans first second := second.trans first

theorem ask_keeps (leaves : Stage.Leaves view) (request : Request) :
    (faultsExplained view peril).Keeps (ask room request) := by
  intro studio _
  have kept := leaves request studio.stage
  by_cases enough : Stage.room studio.stage ≤ room
  case neg =>
    rw [Conduct.GivesAt, run_ask_short _ enough]
    exact ⟨rfl, Or.inr (Or.inl rfl)⟩
  rw [Conduct.GivesAt, run_ask _ enough]
  rcases asked : (Stage.request request).run studio.stage with ⟨fault | result, stage⟩
  · rw [asked] at kept
    exact ⟨kept, Or.inl ⟨request, studio.stage, congrArg Prod.fst asked⟩⟩
  · rw [asked] at kept
    exact ⟨kept, trivial, trivial⟩

theorem become_keeps (change : Turtle → Turtle) :
    (faultsExplained view peril).Keeps (become change) :=
  .change fun _ _ => ⟨rfl, trivial⟩

theorem redraw_keeps (leaves : Stage.Leaves view) (request : Turtle → Request) :
    (faultsExplained view peril).Keeps (do ask room (request (← get).turtle)) :=
  Conduct.Gives.current.keeps.andThen fun _ => ask_keeps leaves _

/-- A motion goes wrong where its rule does, and otherwise only on the stage. -/
theorem glide_gives (leaves : Stage.Leaves view) (distance : Float)
    {rule : Turtle → Except Mishap Turtle} {studio : Studio σ}
    (refused : ∀ mishap, rule studio.turtle = .error mishap →
      (faultsExplained view peril).leaves mishap studio) :
    (faultsExplained view peril).GivesAt (fun _ => True) (glide room distance rule) studio := by
  rw [glide, Conduct.GivesAt, Effectful.run_bind, Effectful.run_get]
  dsimp only
  rcases ruled : rule studio.turtle with mishap | after
  · exact ⟨rfl, refused mishap ruled⟩
  · have shown : (faultsExplained view peril).Keeps (do
        become fun _ => after
        ask room (.motion studio.turtle after (stepCount studio.speed distance))) :=
      (become_keeps _).andThen fun _ => ask_keeps leaves _
    exact shown studio trivial

theorem goTo_keeps (leaves : Stage.Leaves view) (x y : Option Float) :
    (faultsExplained view peril).Keeps (goTo room x y) := by
  refine Conduct.Gives.current.keeps.andThen fun _ studio _ => ?_
  refine glide_gives leaves _ fun mishap failed => ?_
  rw [Turtle.moveTo_error failed]
  trivial

theorem turn_keeps (leaves : Stage.Leaves view) (heading : Float → Float) :
    (faultsExplained view peril).Keeps (turn room heading) :=
  (become_keeps _).andThen fun _ => redraw_keeps leaves _

/-- A deed that is no walk raises no fault of its own. -/
theorem perform_keeps (leaves : Stage.Leaves view) {deed : Deed} (stays : deed.isWalk = false) :
    (faultsExplained view peril).Keeps (perform room deed) := by
  cases deed with
  | forward | back => cases stays
  | left | right | setHeading =>
      rw [perform]
      exact turn_keeps leaves _
  | setPosition x y => exact goTo_keeps leaves x y
  | home => exact (goTo_keeps leaves _ _).andThen fun _ => turn_keeps leaves _
  | setPenDown | setPenMode | setPenColor => exact become_keeps _
  | setPenSize size =>
      rw [perform]
      split
      · exact .exit fun _ _ => trivial
      · exact become_keeps _
  | setBackground | clear | setVisible =>
      exact (become_keeps _).andThen fun _ => redraw_keeps leaves _
  | clean | fill => exact redraw_keeps leaves _
  | wait milliseconds => exact ask_keeps leaves _

/-- To walk with an infinite heading is the only peril there is. -/
theorem walk_gives (leaves : Stage.Leaves view) (distance : Float) {studio : Studio σ}
    (perilous : studio.turtle.heading.isInf = true → peril studio) :
    (faultsExplained view peril).GivesAt (fun _ => True) (walk room distance) studio := by
  refine glide_gives leaves distance fun mishap failed => ?_
  rcases Turtle.ahead_error failed with rfl | ⟨rfl, infinite⟩
  · trivial
  · exact Or.inr (Or.inr ⟨rfl, perilous infinite⟩)

/-- A deed raises a fault of its own only when it walks with an infinite heading. -/
theorem perform_gives (leaves : Stage.Leaves view) (deed : Deed) {studio : Studio σ}
    (perilous : deed.isWalk = true → studio.turtle.heading.isInf = true → peril studio) :
    (faultsExplained view peril).GivesAt (fun _ => True) (perform room deed) studio := by
  cases deed with
  | forward distance => exact walk_gives leaves distance (perilous rfl)
  | back distance => exact walk_gives leaves (-distance) (perilous rfl)
  | _ => exact perform_keeps leaves rfl studio trivial

theorem run_walk_of_isInf (distance : Float) {studio : Studio σ}
    (infinite : studio.turtle.heading.isInf = true) :
    (walk room distance).run studio = (.error (.fault .infiniteAngle), studio) := by
  rw [walk, glide, Effectful.run_bind, Effectful.run_get]
  dsimp only
  rw [Turtle.ahead_of_isInf distance infinite]
  rfl

end Studio

/-- A turtle with an infinite heading does not walk. -/
theorem Machine.run_tell_of_isInf [Stage σ] (room : Nat) {deed : Deed}
    (walks : deed.isWalk = true) {state : State σ}
    (infinite : state.world.studio.turtle.heading.isInf = true) :
    (Machine.tell room deed).run state = (.error (.mishap (.fault .infiniteAngle)), state) := by
  obtain ⟨⟨studio, output, procedures, draws⟩, scope⟩ := state
  have stuck : (Studio.perform room deed).run studio =
      (.error (.fault .infiniteAngle), studio) := by
    cases deed with
    | forward distance => exact Studio.run_walk_of_isInf distance infinite
    | back distance => exact Studio.run_walk_of_isInf (-distance) infinite
    | _ => cases walks
  simp only [Machine.tell, ExceptT.run] at stuck ⊢
  rw [stuck]

end Logo
