import Logo.Session

/-!
# The window

A window shows a session frame by frame.  In each frame the events are looked
at first: closing the window ends the show, and Escape cancels the program.
Then the clock tells the session what time it is.  The window stays open after
the program has finished.
-/

namespace Logo.Window

variable [Platform]

/-- What can happen to a window. -/
inductive Event where
  | quit
  | escape
  | other
deriving DecidableEq, Repr

/-- A pass through the loop: the events since the last one, and the clock in milliseconds. -/
structure Frame where
  milliseconds : Float
  events : List Event

/-- What can be told of a session at the end of a frame. -/
structure Glimpse where
  running : Bool
  animations : Nat
  printed : Nat

/-- What came of a show. -/
structure Show where
  session : Session
  glimpses : List Glimpse
  left : Nat
  fault : Option Fault

/-- Frames per second. -/
def frameRate : Nat := 60

/-- The title of a window. -/
def title : String := "HoneyLogo"

/-- What can be told of a session now. -/
def glimpse (session : Session) : Glimpse :=
  ⟨session.isRunning, session.animations, session.output.length⟩

/-- Handle events; the answer says whether the window is to stay open. -/
def handle : List Event → Session.Running Bool
  | [] => return true
  | .quit :: _ => do
      Session.cancel
      return false
  | .escape :: rest => do
      Session.cancel
      handle rest
  | .other :: rest => handle rest

/-- One pass through the loop; the answer says whether the window stays open. -/
def pass (frame : Frame) : Session.Running Bool := do
  if ← handle frame.events then
    Session.tick (frame.milliseconds / 1000)
    return true
  else
    return false

/-- Go through the frames.  When there are no more, the window is closed. -/
def loop (session : Session) (glimpses : List Glimpse) : List Frame → Show
  | [] =>
      match (handle [.quit]).run session with
      | (.ok _, session) => ⟨session, glimpses.reverse, 0, none⟩
      | (.error fault, session) => ⟨session, glimpses.reverse, 0, some fault⟩
  | frame :: rest =>
      match (pass frame).run session with
      | (.ok true, session) => loop session (glimpse session :: glimpses) rest
      | (.ok false, session) => ⟨session, glimpses.reverse, rest.length, none⟩
      | (.error fault, session) => ⟨session, glimpses.reverse, rest.length, some fault⟩

/-- Show a program in a window. -/
def play (session : Session) (program : Program) (frames : List Frame) : Show :=
  match (Session.start program).run session with
  | (.ok (), session) => loop session [] frames
  | (.error fault, session) => ⟨session, [], frames.length, some fault⟩

end Logo.Window
