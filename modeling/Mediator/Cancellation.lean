import Mediator.World

/-!
# Cancellation in small steps

To cancel a token and to wait for that are single actions of a program, `Action.cancel` and
`Action.awaitCanceled`. Tasks on several threads take them in smaller steps, between which others
may take theirs. Who waits asks for a notice, looks whether the flag of the token is raised, and
returns or else waits until the notice has come, only to start over. Who cancels raises the flag
and, if it was down, gives notice to all who have asked for one.

A notice reaches whoever has asked for it, whether or not it is waited for already. Nothing else is
taken for granted of notices: they may also come astray, without having been given.
-/

namespace Mediator

@[simp] theorem World.cancel_canceled (w : World) (t u : Token) :
    (w.cancel t).canceled u = (decide (u = t) || w.canceled u) := by
  by_cases h : u = t <;> simp [World.cancel, h]

namespace Cancellation

/-- How far a task has come that waits for a token to be canceled, or that cancels it. -/
inductive Stage where
  | asking
  /-- About to look at the flag, with a notice that may have come already. -/
  | looking (noticed : Bool)
  /-- Waiting for the notice, the flag having been found down. -/
  | waiting (noticed : Bool)
  | returned
  | raising
  /-- About to give notice, the flag having been down before. -/
  | notifying
  /-- Done, as the one that raised the flag or as one that came after it. -/
  | canceled (first : Bool)
deriving DecidableEq, Repr

/-- The steps of tasks, each of which is taken at once. -/
inductive Move where
  | ask
  | look
  | wake
  | raise
  | notify
  /-- A notice comes that nobody has given. -/
  | stray
deriving DecidableEq, Repr

namespace Stage

/-- Where a move leads, if it can be made at this stage. The flag may be raised by then. -/
def after (raised : Bool) : Move → Stage → Option Stage
  | .ask, .asking => some (.looking false)
  | .look, .looking noticed => some (if raised then .returned else .waiting noticed)
  | .wake, .waiting true => some .asking
  | .raise, .raising => some (if raised then .canceled false else .notifying)
  | .notify, .notifying => some (.canceled true)
  | .stray, .looking _ => some (.looking true)
  | .stray, .waiting _ => some (.waiting true)
  | _, _ => none

/-- A notice has come to whoever has asked for one. -/
def notified : Stage → Stage
  | .looking _ => .looking true
  | .waiting _ => .waiting true
  | s => s

end Stage

/-- A task with its clone of a token. Clones of a token are the same token. -/
structure Member where
  token : Token
  stage : Stage

/-- Some tasks, and the world with the flags of their tokens. -/
structure Scene (ι : Type) where
  world : World
  members : ι → Member

namespace Scene

variable {ι : Type}

def token (c : Scene ι) (i : ι) : Token := (c.members i).token

def stage (c : Scene ι) (i : ι) : Stage := (c.members i).stage

def raised (c : Scene ι) (i : ι) : Bool := c.world.canceled (c.token i)

def Fresh (c : Scene ι) : Prop := ∀ i, c.stage i = .asking ∨ c.stage i = .raising

def raise (c : Scene ι) (t : Token) : Scene ι := { c with world := c.world.cancel t }

def notify (c : Scene ι) (t : Token) : Scene ι where
  world := c.world
  members i := if c.token i = t then ⟨t, (c.stage i).notified⟩ else c.members i

section
variable (c : Scene ι) (t : Token) (i : ι)

@[simp] theorem raise_world : (c.raise t).world = c.world.cancel t := rfl

@[simp] theorem raise_token : (c.raise t).token i = c.token i := rfl

@[simp] theorem raise_stage : (c.raise t).stage i = c.stage i := rfl

@[simp] theorem raise_raised : (c.raise t).raised i = (decide (c.token i = t) || c.raised i) := by
  simp [raised]

@[simp] theorem notify_world : (c.notify t).world = c.world := rfl

@[simp] theorem notify_token : (c.notify t).token i = c.token i := by
  unfold notify token
  dsimp only
  split
  · next h => exact h.symm
  · rfl

@[simp] theorem notify_stage :
    (c.notify t).stage i = if c.token i = t then (c.stage i).notified else c.stage i := by
  unfold notify stage
  dsimp only
  split <;> rfl

@[simp] theorem notify_raised : (c.notify t).raised i = c.raised i := by simp [raised]

end

variable [DecidableEq ι]

def put (c : Scene ι) (i : ι) (s : Stage) : Scene ι where
  world := c.world
  members j := if j = i then ⟨c.token i, s⟩ else c.members j

section
variable (c : Scene ι) (i j : ι) (s : Stage)

@[simp] theorem put_world : (c.put i s).world = c.world := rfl

@[simp] theorem put_token : (c.put i s).token j = c.token j := by
  unfold put token
  dsimp only
  split
  · next h => rw [h]
  · rfl

@[simp] theorem put_stage : (c.put i s).stage j = if j = i then s else c.stage j := by
  unfold put stage
  dsimp only
  split <;> rfl

@[simp] theorem put_raised : (c.put i s).raised j = c.raised j := by simp [raised]

end

/-- What a move on a token does besides moving on the task that makes it. -/
def affect (c : Scene ι) (t : Token) : Move → Scene ι
  | .raise => c.raise t
  | .notify => c.notify t
  | _ => c

def step (c : Scene ι) (i : ι) (m : Move) : Option (Scene ι) :=
  ((c.stage i).after (c.raised i) m).map ((c.affect (c.token i) m).put i)

def run : List (ι × Move) → Scene ι → Option (Scene ι)
  | [], c => some c
  | (i, m) :: rest, c => (c.step i m).bind (run rest)

end Scene

end Cancellation

end Mediator
