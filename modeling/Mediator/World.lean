import Mediator.Observation
import Mediator.Scheduler
import Mediator.Store

/-!
# The world

What the programs of a pipeline share: the clock, the canceled tokens, the switches, the response
store, what has been reported, and what the handlers themselves keep.

Time does not pass by itself: what takes a moment says so, and waiting for an alarm lets time pass
when nothing else can be done. Alarms go off when somebody waits and they are due, the earlier ones
first.
-/

namespace Mediator

structure World where
  now : Instant
  /-- Alarms up to this instant have gone off. -/
  rung : Instant
  alarms : List Instant
  /-- Whether somebody runs detached tasks and minds the alarms. -/
  attended : Bool
  canceled : Token → Bool
  /-- The switches of conditional intercepts, by number. -/
  switches : Nat → Bool
  store : Store
  /-- Down to which level events are collected, if they are. -/
  verbosity : Option Level
  trace : List TraceEntry
  /-- What recording collaborators wrote down. -/
  log : List String
  audits : List AuditRecord
  samples : List Sample
  notes : List StoreNote
  /-- Counters of the collaborators, by number. -/
  tally : Nat → Nat

abbrev Action (α : Type) : Type := Prog World α

namespace World

def empty : World where
  now := .start
  rung := .start
  alarms := []
  attended := true
  canceled := fun _ => false
  switches := fun _ => true
  store := .empty
  verbosity := none
  trace := []
  log := []
  audits := []
  samples := []
  notes := []
  tally := fun _ => 0

instance : Inhabited World := ⟨empty⟩

/-- Report an event. The spans around it are known only to those who look down to their level. -/
def emit (w : World) (spans : List Span) (e : Event) : World :=
  match w.verbosity with
  | none => w
  | some limit =>
    if e.level.within limit then
      let spans := if Level.debug.within limit then spans else []
      { w with trace := w.trace ++ [⟨e, spans⟩] }
    else w

theorem emit_eq (w : World) (spans : List Span) (e : Event) :
    w.emit spans e = { w with trace := (w.emit spans e).trace } := by
  unfold emit
  split
  · rfl
  · split <;> rfl

/-- Whether events of this level are collected. -/
def collects (w : World) (l : Level) : Bool := w.verbosity.any l.within

theorem emit_of_not_collects {w : World} {e : Event} (h : w.collects e.level = false)
    (spans : List Span) : w.emit spans e = w := by
  unfold emit
  unfold collects at h
  split
  · rfl
  · next limit hlimit =>
    have hlevel : ¬e.level.within limit = true := by simpa [hlimit] using h
    rw [if_neg hlevel]

@[simp] theorem emit_now (w : World) (spans : List Span) (e : Event) :
    (w.emit spans e).now = w.now := by rw [emit_eq]

@[simp] theorem emit_store (w : World) (spans : List Span) (e : Event) :
    (w.emit spans e).store = w.store := by rw [emit_eq]

def cancel (w : World) (t : Token) : World :=
  { w with canceled := fun u => if u = t then true else w.canceled u }

def switch (w : World) (i : Nat) (on : Bool) : World :=
  { w with switches := fun j => if j = i then on else w.switches j }

def count (w : World) (i : Nat) : World :=
  { w with tally := fun j => if j = i then w.tally i + 1 else w.tally j }

def write (w : World) (line : String) : World := { w with log := w.log ++ [line] }

/-! ## Time -/

def elapse (w : World) (d : Duration) : World := { w with now := w.now.later d }

/-- The alarm for this instant goes off, as soon as that is reached. -/
def ring (w : World) (t : Instant) : World :=
  { w with
    now := if w.now.before t then t else w.now
    rung := t
    alarms := w.alarms.filter fun u => t.before u }

def hasRung (w : World) (t : Instant) : Bool := !w.rung.before t

/-- The worlds after each alarm: those that are due go off, and then one after the other until the
condition holds. -/
def idleThrough (ready : World → Bool) : List Instant → World → List World
  | [], _ => []
  | t :: rest, w =>
    if ready w && w.now.before t then []
    else
      let w := w.ring t
      w :: idleThrough ready rest w

/-- Let time pass until the condition holds, as far as alarms can make it hold. -/
def idle (ready : World → Bool) (w : World) : List World :=
  idleThrough ready (w.alarms.mergeSort fun t u => t.nanos ≤ u.nanos) w

end World

/-! ## Common actions -/

namespace Action

def emit (spans : List Span) (e : Event) : Action Unit := .modify (·.emit spans e)

def write (line : String) : Action Unit := .modify (·.write line)

/-- Give way for a while, up to a whole millisecond. Somebody has to mind the alarm. -/
def sleep (d : Duration) : Action Unit := do
  let w ← .read
  if !w.attended then .panic .unattended else
  let t := (w.now.later d).nextMilli
  .modify fun w => { w with alarms := w.alarms ++ [t] }
  .await (·.hasRung t)

def cancel (t : Token) : Action Unit := .modify (·.cancel t)

def awaitCanceled (t : Token) : Action Unit := .await (·.canceled t)

def guarded {α : Type} (t : Token) (p : Action α) : Action (Option α) :=
  Prog.guard (fun w => w.canceled t) p

end Action

end Mediator
