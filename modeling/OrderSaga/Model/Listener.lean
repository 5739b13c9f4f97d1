import Mathlib.Data.List.Basic

/-!
# The queue listener

`EventListener.listenToQueue` (package `infrastructure`), one per registered queue: up
to `maxRetries` attempts to start consuming the queue, sleeping `retryDelay` after a
failure and doubling it; once `Consume` has returned a delivery channel, a
`for`–`select` loop that returns when the context is cancelled and otherwise hands each
message to the handler in a goroutine of its own.

The listener is a state machine driven by what the broker and the context do (`Event`).
A delivery channel is named by a number, and `closed` records the channels the broker has
closed: a receive from one of them returns at once with `ok = false`, so it can never
yield a message again. The handler goroutines and the logging change nothing the listener
reads.
-/

set_option autoImplicit false

namespace OrderSaga.EventListener

/-- `maxRetries`. -/
def maxRetries : Nat := 5

/-- Where `listenToQueue` is, with its local variables. -/
inductive Pc where
  /-- At the head of the outer `for`, about to call `Consume` in attempt `attempt`. -/
  | consume (attempt retryDelay : Nat)
  /-- At the `select` of the inner `for`, receiving from the delivery channel `msgs`. -/
  | receive (attempt retryDelay msgs : Nat)
  | returned
  deriving DecidableEq, Repr

/-- What the broker or the context does next. -/
inductive Event where
  /-- `Consume` returns an error. -/
  | consumeFailed
  /-- `Consume` returns the delivery channel `msgs`. -/
  | consumed (msgs : Nat)
  /-- `msg, ok := <-msgs` receives a message. -/
  | message
  /-- `msg, ok := <-msgs` returns `ok = false`: the channel is closed. -/
  | channelClosed
  /-- `<-ctx.Done()` is ready. -/
  | cancelled
  deriving DecidableEq, Repr

/-- The listener, with the delivery channels the broker has closed. -/
structure Listener where
  pc : Pc
  closed : List Nat
  deriving DecidableEq, Repr

/-- The condition of the outer `for`: `attempt <= maxRetries`. -/
def loopHead (attempt retryDelay : Nat) : Pc :=
  if attempt ≤ maxRetries then .consume attempt retryDelay else .returned

/-- `listenToQueue` as it starts: `attempt := 1`, `retryDelay := 2` seconds. -/
def start : Listener := ⟨loopHead 1 2, []⟩

/-- One step; `none` when the event cannot happen in this state. A failed `Consume`
returns at the last attempt and otherwise sleeps, doubles the delay and goes round the
outer loop. A closed channel makes the `break` leave the `select`, which is the body of
the inner `for`: the listener is back at the same `select`. -/
def Listener.step (l : Listener) : Event → Option Listener
  | .consumeFailed =>
    match l.pc with
    | .consume attempt retryDelay =>
      some { l with
        pc := if attempt = maxRetries then .returned else loopHead (attempt + 1) (retryDelay * 2) }
    | _ => none
  | .consumed msgs =>
    match l.pc with
    | .consume attempt retryDelay =>
      if l.closed.contains msgs then none else some { l with pc := .receive attempt retryDelay msgs }
    | _ => none
  | .message =>
    match l.pc with
    | .receive _ _ msgs => if l.closed.contains msgs then none else some l
    | _ => none
  | .channelClosed =>
    match l.pc with
    | .receive _ _ msgs => some { l with closed := l.closed.insert msgs }
    | _ => none
  | .cancelled =>
    match l.pc with
    | .receive .. => some { l with pc := .returned }
    | _ => none

/-- Run a sequence of events, stopping at the first that cannot happen. -/
def Listener.run (l : Listener) : List Event → Option Listener
  | [] => some l
  | e :: es => (l.step e).bind fun l' => l'.run es

/-- No event leaves the listener as it is. -/
@[simp] theorem Listener.run_nil (l : Listener) : l.run [] = some l := rfl

/-- A run is the first event's step, then the rest. -/
@[simp] theorem Listener.run_cons (l : Listener) (e : Event) (es : List Event) :
    l.run (e :: es) = (l.step e).bind fun l' => l'.run es := rfl

end OrderSaga.EventListener
