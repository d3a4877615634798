/-!
# Scripts

Animation work is scripted: a script is a row of steps.  A step has an effect
on what is being animated, or it deals with the queue that runs the script.
Scripts that wait (for the next frame, or for some time) carry the script to
run then.  A film is a step that is taken again in every frame until it has
been shown to its end.

The weight of a script counts its steps and those of the scripts inside it,
with a little more for each time it is put aside and taken up again.  Running
a script uses up its weight.
-/

namespace Logo.Animation

/-- One step of a script. -/
inductive Step (ε : Type) where
  | effect (effect : ε)
  | submit (task : List (Step ε))
  | finish
  | nextFrame (callback : List (Step ε))
  | later (seconds : Float) (callback : List (Step ε))
  | film (left : Nat) (effect : Nat → ε)
  | tick (now : Float)
  | drain
  | cancel

/-- A row of steps: a task, or what to do at a frame or at a time. -/
abbrev Script (ε : Type) := List (Step ε)

variable {ε : Type}

mutual

/-- What a step weighs. -/
def Step.weight : Step ε → Nat
  | .effect _ => 1
  | .submit task => scriptWeight task + 3
  | .finish => 2
  | .nextFrame callback => scriptWeight callback + 4
  | .later _ callback => scriptWeight callback + 3
  | .film left _ => 8 * left + 5
  | .tick _ => 2
  | .drain => 2
  | .cancel => 1

/-- What a script weighs while it runs. -/
def scriptWeight : List (Step ε) → Nat
  | [] => 1
  | step :: rest => step.weight + scriptWeight rest

end

/-- What several things weigh together. -/
def total {α : Type} (weigh : α → Nat) : List α → Nat
  | [] => 0
  | item :: rest => weigh item + total weigh rest

@[simp]
theorem total_nil {α : Type} (weigh : α → Nat) : total weigh [] = 0 := rfl

@[simp]
theorem total_cons {α : Type} (weigh : α → Nat) (item : α) (rest : List α) :
    total weigh (item :: rest) = weigh item + total weigh rest := rfl

@[simp]
theorem total_append {α : Type} (weigh : α → Nat) (first second : List α) :
    total weigh (first ++ second) = total weigh first + total weigh second := by
  induction first with
  | nil => simp
  | cons item rest ih =>
      simp [ih]
      omega

/-- A job that is done at once. -/
def job (effect : ε) : Script ε :=
  [.effect effect, .finish]

/-- A pause. -/
def pause (seconds : Float) : Script ε :=
  [.later seconds [.finish]]

/-- One picture of a film with so many left after it, and then the next one in the next frame. -/
def showing (effect : Nat → ε) : Nat → Script ε
  | 0 => [.effect (effect 0), .finish]
  | left + 1 => [.effect (effect (left + 1)), .nextFrame [.film left effect]]

end Logo.Animation
