/-
**The writer of a session.**

A connected session writes through one writer, so that frames never mix on the wire. Frames wait in
a queue; one at a time is encoded and written, and a frame that may not be sent is left out. When
nobody can queue frames any more and the queue is empty, the writer closes the sink. A failed write
ends it at once.

`step` is the smallest thing that a writer does, given what its sink does with it and whether anyone
can still queue frames; it is nothing while the sink stalls.

* `queue_step`: a step never adds to the queue;
* `step_of_ended`: a writer that has ended does nothing more.
-/

import EventFeed.Channel.Basic

namespace EventFeed

open EventFeed.Wire (Frame)

/-- How far a writer is. -/
inductive WriterStage where
  | writing
  | closing
  | ended (error : Option ChannelError)
  | crashed
  | aborted
  deriving DecidableEq, Repr

/-- A writer: the frames that wait, the chunk that is being written, and how far it is. -/
structure Writer where
  queue : List Frame
  chunk : Option (List UInt8)
  stage : WriterStage
  deriving DecidableEq

namespace Writer

def fresh : Writer where
  queue := []
  chunk := none
  stage := .writing

def isOpen (writer : Writer) : Bool :=
  writer.stage = .writing

/-- Whether the writer looks at its queue next. -/
def listens (writer : Writer) : Bool :=
  writer.stage = .writing && writer.chunk.isNone

/-- The writer with more frames at the end of its queue, if it still takes them. -/
def push (writer : Writer) (frames : List Frame) : Writer :=
  if writer.isOpen then { writer with queue := writer.queue ++ frames } else writer

/-- The writer when it is told to end. It looks at that only where it looks at its queue, and closes
the sink then, whatever waits. -/
def cancel (writer : Writer) : Writer :=
  if writer.listens then { writer with stage := .closing } else writer

/-- The writer when it is told to stop at once. -/
def abort (writer : Writer) : Writer :=
  match writer.stage with
  | .writing | .closing => { writer with stage := .aborted }
  | _ => writer

/-- The error that a session takes from the end of its writer, if it has ended. -/
def end? (writer : Writer) : Option ChannelError :=
  match writer.stage with
  | .ended (some error) => some error
  | .ended none | .crashed => some .closed
  | _ => none

def write (writer : Writer) (chunk : List UInt8) : SinkMode → Option (Writer × Option SinkAct)
  | .accepting => some ({ writer with chunk := none }, some (.wrote chunk))
  | .stalled => none
  | .faulty error => some ({ writer with stage := .ended (some error) }, none)
  | .crashing _ => some ({ writer with stage := .crashed }, none)

/-- The end of the queue meets the sink. A failure to close does not matter. -/
def close (writer : Writer) : SinkMode → Option (Writer × Option SinkAct)
  | .accepting => some ({ writer with stage := .ended none }, some .closed)
  | .stalled => none
  | .faulty _ => some ({ writer with stage := .ended none }, none)
  | .crashing _ => some ({ writer with stage := .crashed }, none)

/-- The next thing that the writer does, if it does not have to wait. -/
def step (writer : Writer) (sink : SinkMode) (deserted : Bool) :
    Option (Writer × Option SinkAct) :=
  match writer.stage, writer.chunk, writer.queue with
  | .writing, some chunk, _ => writer.write chunk sink
  | .writing, none, frame :: queue =>
    if frame.isValid then some ({ writer with queue, chunk := some frame.encode }, none)
    else some ({ writer with queue }, none)
  | .writing, none, [] => if deserted then some ({ writer with stage := .closing }, none) else none
  | .closing, _, _ => writer.close sink
  | _, _, _ => none

theorem queue_step {writer after : Writer} {sink : SinkMode} {deserted : Bool}
    {act : Option SinkAct} (moved : writer.step sink deserted = some (after, act)) :
    after.queue <:+ writer.queue := by
  unfold step at moved
  split at moved
  · cases sink <;> simp only [write, Option.some.injEq, Prod.mk.injEq, reduceCtorEq] at moved <;>
      obtain ⟨rfl, -⟩ := moved <;> exact List.suffix_refl _
  · rename_i queueIs
    rw [queueIs]
    split at moved <;> cases moved <;> exact List.suffix_cons _ _
  · split at moved <;> cases moved
    exact List.suffix_refl _
  · cases sink <;> simp only [close, Option.some.injEq, Prod.mk.injEq, reduceCtorEq] at moved <;>
      obtain ⟨rfl, -⟩ := moved <;> exact List.suffix_refl _
  · cases moved

/-- A writer that has ended does nothing more. -/
theorem step_of_ended {writer : Writer} {error : Option ChannelError}
    (ended : writer.stage = .ended error) (sink : SinkMode) (deserted : Bool) :
    writer.step sink deserted = none := by
  simp [step, ended]

end Writer

end EventFeed
