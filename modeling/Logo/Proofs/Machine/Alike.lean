import Logo.Machine.Meaning
import Logo.Proofs.Agreement

/-!
# Machines that are alike

Two machines are alike when a program cannot tell them apart: they have the
same turtle, procedures, variables and draws ahead of them.  What is around
them may differ.  Their stages only have to correspond in some way that
requests keep up, the left machine may have printed something before, and the
last results of the two scopes only have to be related.

This module shows that every basic action of the machine, and every deed of
the turtle, agrees on machines that are alike.
-/

namespace Logo

variable {σ τ : Type}

attribute [ext] Studio World Scope State

/--
What ties two machines together: how the speeds and stages correspond, what
the left one has printed ahead of the right one, and which faults of the left
stage need not be matched.
-/
structure Tie (σ τ : Type) where
  backdrop : Int → σ → Int → τ → Prop
  before : String
  excused : Fault → Prop

namespace Tie

variable (tie : Tie σ τ)

/-- Stages that correspond at given speeds. -/
def stages (speed speed' : Int) : Accord Fault σ τ where
  alike stage stage' := tie.backdrop speed stage speed' stage'
  excused := tie.excused

/-- As much room on the left as on the right, or less if running out of room is excused. -/
def Rooms (room room' : Nat) : Prop :=
  room = room' ∨ (tie.excused .tooManyCalls ∧ room ≤ room')

/--
Requests keep stages in correspondence, and the left stage leaves no more room
than the right one.  A request may depend on the speed, since a motion is cut
into more steps at a higher speed.
-/
structure Respected [Stage σ] [Stage τ] : Prop where
  request : ∀ (speed speed' : Int) (request : Int → Request),
    Agrees (tie.stages speed speed') Eq
      (Stage.request (request speed)) (Stage.request (request speed'))
  room : ∀ {speed speed' : Int} {stage : σ} {stage' : τ},
    tie.backdrop speed stage speed' stage' → tie.Rooms (Stage.room stage') (Stage.room stage)

/-- Studios with the same turtle, at given speeds. -/
structure StudiosAlike (speed speed' : Int) (left : Studio σ) (right : Studio τ) : Prop where
  turtle : left.turtle = right.turtle
  leftSpeed : left.speed = speed
  rightSpeed : right.speed = speed'
  backdrop : tie.backdrop speed left.stage speed' right.stage

def studios (speed speed' : Int) : Accord Mishap (Studio σ) (Studio τ) where
  alike := tie.StudiosAlike speed speed'
  excused mishap := ∃ fault, tie.excused fault ∧ mishap = .fault fault

/-- States that a program cannot tell apart. -/
structure StatesAlike (results : Option Value → Option Value → Prop)
    (left : State σ) (right : State τ) : Prop where
  turtle : left.world.studio.turtle = right.world.studio.turtle
  backdrop :
    tie.backdrop left.world.studio.speed left.world.studio.stage
      right.world.studio.speed right.world.studio.stage
  output : left.world.output = tie.before ++ right.world.output
  procedures : left.world.procedures = right.world.procedures
  draws : left.world.draws = right.world.draws
  bindings : left.scope.bindings = right.scope.bindings
  round : left.scope.round = right.scope.round
  lastResult : results left.scope.lastResult right.scope.lastResult

/-- Machines that are alike, up to how their last results are related. -/
def machines (results : Option Value → Option Value → Prop) :
    Accord Exit (State σ) (State τ) where
  alike := tie.StatesAlike results
  excused exit := ∃ fault, tie.excused fault ∧ exit = .mishap (.fault fault)

end Tie

/-! ## Deeds of the turtle -/

namespace Studio

variable {tie : Tie σ τ} {speed speed' : Int} {room room' : Nat}

/-- With room enough, the stage is asked. -/
theorem run_ask [Stage σ] (request : Request) {studio : Studio σ}
    (enough : Stage.room studio.stage ≤ room) :
    (ask room request).run studio =
      match (Stage.request request).run studio.stage with
      | (.ok (), stage) => (.ok (), { studio with stage })
      | (.error fault, stage) => (.error (.fault fault), { studio with stage }) :=
  if_pos enough

/-- Without room enough, the stage never hears of the request. -/
theorem run_ask_short [Stage σ] (request : Request) {studio : Studio σ}
    (short : ¬Stage.room studio.stage ≤ room) :
    (ask room request).run studio = (.error (.fault .tooManyCalls), studio) :=
  if_neg short

/-- With room on both sides, stages that are tied take the same request alike. -/
theorem ask_agrees_of_enough [Stage σ] [Stage τ] (respected : tie.Respected)
    (request : Int → Request) {left : Studio σ} {right : Studio τ}
    (alike : tie.StudiosAlike speed speed' left right) (enough : Stage.room left.stage ≤ room)
    (enough' : Stage.room right.stage ≤ room') :
    (∃ mishap, (tie.studios speed speed').excused mishap ∧
        ((ask room (request speed)).run left).1 = .error mishap) ∨
      (Matching Eq ((ask room (request speed)).run left).1
          ((ask room' (request speed')).run right).1 ∧
        tie.StudiosAlike speed speed' ((ask room (request speed)).run left).2
          ((ask room' (request speed')).run right).2) := by
  obtain ⟨turtle, leftSpeed, stage⟩ := left
  obtain ⟨turtle', rightSpeed, stage'⟩ := right
  obtain ⟨sameTurtle, rfl, rfl, backdrop⟩ := alike
  rw [run_ask _ enough, run_ask _ enough']
  rcases respected.request leftSpeed rightSpeed request stage stage' backdrop with
    ⟨fault, excused, ended⟩ | ⟨matching, after⟩
  · refine Or.inl ⟨.fault fault, ⟨fault, excused, rfl⟩, ?_⟩
    rcases asked : (Stage.request (request leftSpeed)).run stage with ⟨result, stageAfter⟩
    rw [asked] at ended
    cases ended
    rfl
  · refine Or.inr ?_
    rcases asked : (Stage.request (request leftSpeed)).run stage with ⟨result, stageAfter⟩
    rcases asked' : (Stage.request (request rightSpeed)).run stage' with ⟨result', stageAfter'⟩
    rw [asked, asked'] at matching after
    cases matching with
    | value corresponds => exact ⟨.value rfl, sameTurtle, rfl, rfl, after⟩
    | exit cause => exact ⟨.exit _, sameTurtle, rfl, rfl, after⟩

/-- A request agrees, also where there is too little room for it, if that is excused. -/
theorem ask_agrees [Stage σ] [Stage τ] (respected : tie.Respected) (rooms : tie.Rooms room room')
    (request : Int → Request) :
    Agrees (tie.studios speed speed') Eq (ask room (request speed))
      (ask room' (request speed')) := by
  intro left right alike
  have taken := respected.room alike.backdrop
  by_cases enough : Stage.room left.stage ≤ room
  · have enough' : Stage.room right.stage ≤ room' := by
      unfold Tie.Rooms at rooms taken
      omega
    exact ask_agrees_of_enough respected request alike enough enough'
  · rw [run_ask_short _ enough]
    rcases rooms with rfl | ⟨excused, -⟩
    · rcases taken with same | ⟨excused, -⟩
      · rw [← same] at enough
        rw [run_ask_short _ enough]
        exact Or.inr ⟨.exit _, alike⟩
      · exact Or.inl ⟨_, ⟨_, excused, rfl⟩, rfl⟩
    · exact Or.inl ⟨_, ⟨_, excused, rfl⟩, rfl⟩

/-- The turtle changes in the same way on both sides. -/
theorem become_agrees (change : Turtle → Turtle) :
    Agrees (tie.studios speed speed') Eq (become change) (become change) := by
  apply Agrees.change
  intro left right alike
  exact ⟨congrArg change alike.turtle, alike.leftSpeed, alike.rightSpeed, alike.backdrop⟩

/-- Looking at a whole studio gives studios that are alike. -/
theorem get_agrees :
    Agrees (tie.studios speed speed') (tie.StudiosAlike speed speed') get get := by
  intro left right alike
  exact Or.inr ⟨.value alike, alike⟩

/-- A glide agrees, since its rule only sees the turtle. -/
theorem glide_agrees [Stage σ] [Stage τ] (respected : tie.Respected)
    (rooms : tie.Rooms room room') (distance : Float) (rule : Turtle → Except Mishap Turtle) :
    Agrees (tie.studios speed speed') Eq (glide room distance rule)
      (glide room' distance rule) := by
  apply get_agrees.sequence
  rintro left right ⟨sameTurtle, rfl, rfl, -⟩
  rw [sameTurtle]
  cases rule right.turtle with
  | error mishap => exact .exit mishap
  | ok after =>
      apply (become_agrees _).andThen
      intro _
      exact ask_agrees respected rooms fun speed =>
        .motion right.turtle after (stepCount speed distance)

theorem walk_agrees [Stage σ] [Stage τ] (respected : tie.Respected)
    (rooms : tie.Rooms room room') (distance : Float) :
    Agrees (tie.studios speed speed') Eq (walk room distance) (walk room' distance) :=
  glide_agrees respected rooms distance _

theorem goTo_agrees [Stage σ] [Stage τ] (respected : tie.Respected)
    (rooms : tie.Rooms room room') (x y : Option Float) :
    Agrees (tie.studios speed speed') Eq (goTo room x y) (goTo room' x y) := by
  apply get_agrees.sequence
  rintro left right ⟨sameTurtle, -, -, -⟩
  rw [sameTurtle]
  exact glide_agrees respected rooms _ _

/-- Ask for something that depends on the turtle as it is now. -/
theorem askAbout_agrees [Stage σ] [Stage τ] (respected : tie.Respected)
    (rooms : tie.Rooms room room') (request : Turtle → Request) :
    Agrees (tie.studios speed speed') Eq
      (do ask room (request (← get).turtle)) (do ask room' (request (← get).turtle)) := by
  apply get_agrees.sequence
  rintro left right ⟨sameTurtle, -, -, -⟩
  rw [sameTurtle]
  exact ask_agrees respected rooms fun _ => request right.turtle

theorem turn_agrees [Stage σ] [Stage τ] (respected : tie.Respected)
    (rooms : tie.Rooms room room') (heading : Float → Float) :
    Agrees (tie.studios speed speed') Eq (turn room heading) (turn room' heading) := by
  apply (become_agrees _).andThen
  intro _
  exact askAbout_agrees respected rooms .redraw

theorem clean_agrees [Stage σ] [Stage τ] (respected : tie.Respected)
    (rooms : tie.Rooms room room') :
    Agrees (tie.studios speed speed') Eq (clean room : Direction σ Unit)
      (clean room' : Direction τ Unit) :=
  askAbout_agrees respected rooms .repaint

/-- Every deed of the turtle agrees on studios with the same turtle. -/
theorem perform_agrees [Stage σ] [Stage τ] (respected : tie.Respected)
    (rooms : tie.Rooms room room') (deed : Deed) :
    Agrees (tie.studios speed speed') Eq (perform room deed) (perform room' deed) := by
  cases deed with
  | forward distance => exact walk_agrees respected rooms distance
  | back distance => exact walk_agrees respected rooms (-distance)
  | left degrees => exact turn_agrees respected rooms _
  | right degrees => exact turn_agrees respected rooms _
  | setHeading degrees => exact turn_agrees respected rooms fun _ => Number.modulo degrees 360
  | setPosition x y => exact goTo_agrees respected rooms x y
  | home =>
      apply (goTo_agrees respected rooms (some 0) (some 0)).andThen
      intro _
      exact turn_agrees respected rooms fun _ => 0
  | setPenDown down => exact become_agrees _
  | setPenMode mode => exact become_agrees _
  | setPenColor color => exact become_agrees _
  | setPenSize size =>
      simp only [perform]
      split
      · exact .exit _
      · exact become_agrees _
  | setBackground color => exact (become_agrees _).andThen fun _ => clean_agrees respected rooms
  | clear => exact (become_agrees _).andThen fun _ => clean_agrees respected rooms
  | clean => exact clean_agrees respected rooms
  | setVisible visible =>
      exact (become_agrees _).andThen fun _ => askAbout_agrees respected rooms .redraw
  | fill => exact askAbout_agrees respected rooms .fill
  | wait milliseconds => exact ask_agrees respected rooms fun _ => .wait milliseconds

end Studio

/-! ## Actions of the machine -/

namespace Machine

variable {tie : Tie σ τ} {results : Option Value → Option Value → Prop} {α β : Type}
  {values : α → β → Prop}

theorem fail_agrees (error : Error) :
    Agrees (tie.machines results) values (fail error) (fail error) :=
  .exit _

theorem crash_agrees (fault : Fault) :
    Agrees (tie.machines results) values (crash fault) (crash fault) :=
  .exit _

theorem leave_agrees (signal : Signal) :
    Agrees (tie.machines results) values (leave signal) (leave signal) :=
  .exit _

theorem orFail_agrees (result : Except Error α) :
    Agrees (tie.machines results) Eq (orFail result) (orFail result) := by
  cases result with
  | error error => exact fail_agrees error
  | ok value => exact .value rfl

theorem orMishap_agrees (result : Except Mishap α) :
    Agrees (tie.machines results) Eq (orMishap result) (orMishap result) := by
  cases result with
  | error mishap => exact .exit _
  | ok value => exact .value rfl

theorem turtle_agrees : Agrees (tie.machines results) Eq turtle turtle :=
  .look fun _ _ alike => alike.turtle

theorem round_agrees : Agrees (tie.machines results) Eq round round :=
  .look fun _ _ alike => alike.round

/-- Whatever the turtle is told, both sides agree. -/
theorem tell_agrees [Stage σ] [Stage τ] (respected : tie.Respected) {room room' : Nat}
    (rooms : tie.Rooms room room') (deed : Deed) :
    Agrees (tie.machines results) Eq (tell room deed) (tell room' deed) := by
  rintro ⟨⟨studio, output, procedures, draws⟩, scope⟩
    ⟨⟨studio', output', procedures', draws'⟩, scope'⟩ alike
  have studiosAlike : (tie.studios studio.speed studio'.speed).alike studio studio' :=
    ⟨alike.turtle, rfl, rfl, alike.backdrop⟩
  rcases Studio.perform_agrees respected rooms deed studio studio' studiosAlike with
    ⟨mishap, ⟨fault, excused, rfl⟩, ended⟩ | ⟨matching, after⟩
  · refine Or.inl ⟨.mishap (.fault fault), ⟨fault, excused, rfl⟩, ?_⟩
    rcases performed : (Studio.perform room deed).run studio with ⟨result, studioAfter⟩
    rw [performed] at ended
    cases ended
    simp only [tell, ExceptT.run] at performed ⊢
    rw [performed]
  · refine Or.inr ?_
    rcases performed : (Studio.perform room deed).run studio with ⟨result, studioAfter⟩
    rcases performed' : (Studio.perform room' deed).run studio' with ⟨result', studioAfter'⟩
    rw [performed, performed'] at matching after
    obtain ⟨turtle, leftSpeed, rightSpeed, backdrop⟩ := after
    simp only at turtle leftSpeed rightSpeed backdrop
    have statesAlike :
        tie.StatesAlike results ⟨⟨studioAfter, output, procedures, draws⟩, scope⟩
          ⟨⟨studioAfter', output', procedures', draws'⟩, scope'⟩ :=
      ⟨turtle, by rw [leftSpeed, rightSpeed]; exact backdrop, alike.output, alike.procedures,
        alike.draws, alike.bindings, alike.round, alike.lastResult⟩
    simp only [tell, ExceptT.run] at performed performed' ⊢
    rw [performed, performed']
    cases matching with
    | value corresponds => exact ⟨.value rfl, statesAlike⟩
    | exit cause => exact ⟨.exit _, statesAlike⟩

theorem print_agrees (text : String) :
    Agrees (tie.machines results) Eq (print text) (print text) := by
  apply Agrees.change
  intro left right alike
  exact { alike with output := by simp only [alike.output, String.append_assoc] }

theorem assign_agrees (name : String) (value : Value) :
    Agrees (tie.machines results) Eq (assign name value) (assign name value) := by
  apply Agrees.change
  intro left right alike
  exact { alike with bindings := by simp only [alike.bindings] }

theorem define_agrees (procedure : Procedure) :
    Agrees (tie.machines results) Eq (define procedure) (define procedure) := by
  apply Agrees.change
  intro left right alike
  exact { alike with procedures := by simp only [alike.procedures] }

theorem setRound_agrees (round : Option Nat) :
    Agrees (tie.machines results) Eq (setRound round) (setRound round) := by
  apply Agrees.change
  intro left right alike
  exact { alike with round := rfl }

theorem remember_agrees (reflexive : ∀ result, results result result) (result : Option Value) :
    Agrees (tie.machines results) Eq (remember result) (remember result) := by
  apply Agrees.change
  intro left right alike
  exact { alike with lastResult := reflexive result }

theorem lookup_agrees (name : String) :
    Agrees (tie.machines results) Eq (lookup name) (lookup name) := by
  intro left right alike
  simp only [lookup, Effectful.run_bind, Effectful.run_get, alike.bindings]
  cases right.scope.bindings.find? (Text.fold name) with
  | none => exact Or.inr ⟨.exit _, alike⟩
  | some value => exact Or.inr ⟨.value rfl, alike⟩

theorem findProcedure_agrees (name : String) :
    Agrees (tie.machines results) Eq (findProcedure name) (findProcedure name) := by
  intro left right alike
  simp only [findProcedure, Effectful.run_bind, Effectful.run_get, alike.procedures]
  cases right.world.procedures.find? (Text.fold name) with
  | none => exact Or.inr ⟨.exit _, alike⟩
  | some procedure => exact Or.inr ⟨.value rfl, alike⟩

theorem draw_agrees (limit : Nat) :
    Agrees (tie.machines results) Eq (draw limit) (draw limit) := by
  intro left right alike
  have drawn :
      left.world.draws.sequence left.world.draws.used % limit =
        right.world.draws.sequence right.world.draws.used % limit := by
    rw [alike.draws]
  have drawnOnce :=
    congrArg (fun draws : Draws => { draws with used := draws.used + 1 }) alike.draws
  exact Or.inr ⟨.value drawn, { alike with draws := drawnOnce }⟩

/-- The round is put back on both sides, and it was the same on both sides. -/
theorem keepingRound_agrees {action : Machine σ α} {action' : Machine τ β}
    (agrees : Agrees (tie.machines results) values action action') :
    Agrees (tie.machines results) values (keepingRound action) (keepingRound action') := by
  apply round_agrees.andThen
  intro outer
  have guarded := agrees.handled
    (fun exit => (setRound_agrees outer).andThen fun _ => .exit exit)
    (fun exit _ excused => ⟨exit, excused, rfl⟩)
  apply guarded.sequence
  intro value value' corresponds
  apply (setRound_agrees outer).andThen
  intro _
  exact .value corresponds

end Machine

end Logo
