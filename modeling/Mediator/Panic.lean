/-!
# Panics

A program or a call may end by panicking. The payload of a panic is known to this library only
through its message.
-/

namespace Mediator

/-- What a panic carries: a fixed text, a text built for the occasion, or something that is no
text. -/
inductive Panic where
  | fixed (text : String)
  | built (text : String)
  | foreign
deriving DecidableEq, Repr, Inhabited

namespace Panic

def message : Panic → String
  | .fixed text => text
  | .built text => text
  | .foreign => "unknown panic payload"

def unattended : Panic :=
  .built "there is no reactor running, must be called from the context of a Tokio 1.x runtime"

end Panic

structure PanicError where
  message : String
deriving DecidableEq, Repr, Inhabited

namespace PanicError

def of (payload : Panic) : PanicError := ⟨payload.message⟩

def text (e : PanicError) : String := "panicked: " ++ e.message

end PanicError

end Mediator
