import Mathlib.Logic.Relation
import OrderSaga.Model.OrderService

/-!
# Concurrent replay runs

Each POST to `/replay-failed-events` runs `ReplayFailedEvents`, and nothing serialises two
of them. Every repository call and every publish is one atomic operation on the event store
or on the broker, and the calls of different runs interleave with each other and with the
inserts of the dead-letter captures. A run is its place in the loop of `order_service.go`
(`RunPc`); `RunPc.call` is the call it makes next and `RunPc.step` makes it, with the
outcome the environment chooses.

A run that nothing interleaves with does what the atomic `OrderService.replayFailedEvents`
does, call by call, with each call's outcome the one `fails` gives it
(`solo_replayFailedEvents`). Since such a run makes one call at a time with one outcome, it
can return nothing else, and it is a schedule of this model that ends where the atomic
call ends (`replayFailedEvents_schedule`): the one-step model of the system is this model's
schedules in which runs do not overlap.
-/

set_option autoImplicit false

namespace OrderSaga.ReplayRuns

open Events Persistence OrderService

/-- Where one `ReplayFailedEvents` run is, with its local variables: the record in hand,
the rest of the fetched batch, the batch size `total` and the two counters. -/
inductive RunPc where
  /-- About to call `GetUnreplayedEvents`. -/
  | fetch
  /-- About to call `MarkEventAsReplaying` on `evt`. -/
  | markReplaying (evt : OrderEvent) (rest : List OrderEvent) (total successCount failureCount : Nat)
  /-- About to make publish attempt `attempt` of `evt`'s payload. -/
  | publish (evt : OrderEvent) (rest : List OrderEvent) (total successCount failureCount attempt : Nat)
  /-- The payload is published: about to call `MarkEventAsCompleted`. -/
  | markCompleted (evt : OrderEvent) (rest : List OrderEvent) (total successCount failureCount : Nat)
  /-- Every attempt failed: about to call `MarkEventAsFailed`. -/
  | markFailed (evt : OrderEvent) (rest : List OrderEvent) (total successCount failureCount : Nat)
  /-- The run has returned. -/
  | done (result : Except ReplayError Unit)

/-- The head of the `for _, evt := range events` loop, and the return after it. -/
def RunPc.next (rest : List OrderEvent) (total successCount failureCount : Nat) : RunPc :=
  match rest with
  | [] => .done (if failureCount > 0 then .error (.failures failureCount total) else .ok ())
  | evt :: rest => .markReplaying evt rest total successCount failureCount

/-- The call the run makes next. -/
def RunPc.call : RunPc → Option Call
  | .fetch => some .fetchEvents
  | .markReplaying evt .. => some (.markReplaying evt.id)
  | .publish evt _ _ _ _ attempt => some (.replayPublish evt.id attempt)
  | .markCompleted evt .. => some (.markCompleted evt.id)
  | .markFailed evt .. => some (.markFailed evt.id)
  | .done _ => none

/-- The run makes its next call, which fails when `err`. A failed mark is only logged; the
third failed publish sends the record to `MarkEventAsFailed`. -/
def RunPc.step (err : Bool) (w : World) : RunPc → Option (RunPc × World)
  | .fetch =>
    match getUnreplayedEvents err 100 w.store with
    | none => some (.done (.error .fetch), w)
    | some [] => some (.done (.ok ()), w)
    | some (evt :: rest) => some (.markReplaying evt rest (rest.length + 1) 0 0, w)
  | .markReplaying evt rest total successCount failureCount =>
    some (.publish evt rest total successCount failureCount 1,
      ((markEventAsReplaying err evt.id w.store).map fun store => { w with store }).getD w)
  | .publish evt rest total successCount failureCount attempt =>
    match w.publish err orderCreated (.json evt.eventData) with
    | some w' => some (.markCompleted evt rest total successCount failureCount, w')
    | none =>
      some (if attempt < 3 then .publish evt rest total successCount failureCount (attempt + 1)
        else .markFailed evt rest total successCount failureCount, w)
  | .markCompleted evt rest total successCount failureCount =>
    match markEventAsCompleted err evt.id w.store with
    | some store => some (RunPc.next rest total (successCount + 1) failureCount, { w with store })
    | none => some (RunPc.next rest total successCount failureCount, w)
  | .markFailed evt rest total successCount failureCount =>
    some (RunPc.next rest total successCount (failureCount + 1),
      ((markEventAsFailed err evt.id w.store).map fun store => { w with store }).getD w)
  | .done _ => none

/-! ## Runs sharing one world -/

/-- The world with the runs in progress or returned, by the order they started in. -/
structure Runs where
  world : World
  runs : List RunPc

/-- What can happen next. -/
inductive RunAction where
  /-- A new `ReplayFailedEvents` call. -/
  | start
  /-- Run `run` makes its next call, which fails when `err`. -/
  | advance (run : Nat) (err : Bool)
  /-- A dead-letter capture stores a body (`StoreEventForReplay`). -/
  | capture (orderID : String) (body : Body) (err : Bool)
  /-- `StoreEventAsPending`. -/
  | storePending (orderID : String) (body : Body) (err : Bool)

/-- One atomic step; `none` when the action names no run that can move. -/
def Runs.step (rs : Runs) : RunAction → Option Runs
  | .start => some { rs with runs := rs.runs ++ [.fetch] }
  | .advance i err =>
    (rs.runs[i]?).bind fun pc =>
      (pc.step err rs.world).map fun (pc', w) => ⟨w, rs.runs.set i pc'⟩
  | .capture orderID body err =>
    some ⟨((storeEventForReplay err orderID body rs.world.store).map fun store =>
      { rs.world with store }).getD rs.world, rs.runs⟩
  | .storePending orderID body err =>
    some ⟨((storeEventAsPending err orderID body rs.world.store).map fun (_, store) =>
      { rs.world with store }).getD rs.world, rs.runs⟩

/-- Execute actions in order, stopping at the first that cannot be taken. -/
def Runs.run (rs : Runs) : List RunAction → Option Runs
  | [] => some rs
  | a :: as => (rs.step a).bind fun rs' => rs'.run as

/-! ## A run on its own -/

/-- One call of a run, with the outcome `fails` gives that call. -/
def SoloStep (fails : Faults) (s s' : RunPc × World) : Prop :=
  ∃ c, s.1.call = some c ∧ s.1.step (fails c) s.2 = some s'

/-- The calls `replayOne` makes for one record, made one at a time. -/
theorem solo_publish (fails : Faults) (evt : OrderEvent) (rest : List OrderEvent)
    (total successCount failureCount : Nat) (w : World) :
    ∀ left attempt, attempt + left = 4 → 1 ≤ left →
      Relation.ReflTransGen (SoloStep fails)
        (.publish evt rest total successCount failureCount attempt, w)
        (match w.publishWithRetry (fun a => fails (.replayPublish evt.id a)) orderCreated
            (.json evt.eventData) attempt left with
          | some w' => (.markCompleted evt rest total successCount failureCount, w')
          | none => (.markFailed evt rest total successCount failureCount, w)) := by
  intro left
  induction left with
  | zero => intro _ _ h; omega
  | succ left ih =>
    intro attempt hsum _
    have hstep : SoloStep fails (.publish evt rest total successCount failureCount attempt, w)
        (match w.publish (fails (.replayPublish evt.id attempt)) orderCreated (.json evt.eventData) with
          | some w' => (.markCompleted evt rest total successCount failureCount, w')
          | none => (if attempt < 3 then .publish evt rest total successCount failureCount (attempt + 1)
              else .markFailed evt rest total successCount failureCount, w)) :=
      ⟨_, rfl, by simp only [RunPc.step]; split <;> rfl⟩
    refine .head hstep ?_
    rcases hp : w.publish (fails (.replayPublish evt.id attempt)) orderCreated (.json evt.eventData)
      with _ | w'
    · rcases left with _ | left
      · simp only [World.publishWithRetry, hp, show ¬attempt < 3 by omega, if_false]
        exact .refl
      · simp only [World.publishWithRetry, hp, show attempt < 3 by omega, if_true]
        exact ih (attempt + 1) (by omega) (by omega)
    · simp only [World.publishWithRetry, hp]
      exact .refl

/-- A run's calls for one record take it from `MarkEventAsReplaying` to the head of the
loop, as `replayOne` does. -/
theorem solo_replayOne (fails : Faults) (evt : OrderEvent) (rest : List OrderEvent)
    (total successCount failureCount : Nat) (w : World) :
    Relation.ReflTransGen (SoloStep fails)
      (.markReplaying evt rest total successCount failureCount, w)
      (RunPc.next rest total (successCount + if (replayOne fails evt w).2.1 then 1 else 0)
        (failureCount + if (replayOne fails evt w).2.2 then 1 else 0), (replayOne fails evt w).1) := by
  unfold replayOne
  dsimp only
  generalize hw₁ : ((markEventAsReplaying (fails (.markReplaying evt.id)) evt.id w.store).map
    fun store => { w with store }).getD w = w₁
  refine .head ⟨_, rfl, by rw [← hw₁]; rfl⟩
    (.trans (solo_publish fails evt rest total successCount failureCount w₁ 3 1 rfl (by decide)) ?_)
  cases hp : w₁.publishWithRetry (fun a => fails (.replayPublish evt.id a)) orderCreated
      (.json evt.eventData) 1 3 with
  | none => exact .single ⟨_, rfl, rfl⟩
  | some w₂ =>
    cases hc : markEventAsCompleted (fails (.markCompleted evt.id)) evt.id w₂.store with
    | none => exact .single ⟨_, rfl, by simp [RunPc.step, hc]⟩
    | some store => exact .single ⟨_, rfl, by simp [RunPc.step, hc]⟩

/-- The loop over the rest of the batch, as `replayLoop` runs it. -/
theorem solo_replayLoop (fails : Faults) (total : Nat) (events : List OrderEvent) :
    ∀ (w : World) (successCount failureCount : Nat),
      Relation.ReflTransGen (SoloStep fails) (RunPc.next events total successCount failureCount, w)
        (RunPc.next [] total (replayLoop fails events w successCount failureCount).2.1
          (replayLoop fails events w successCount failureCount).2.2,
          (replayLoop fails events w successCount failureCount).1) := by
  induction events with
  | nil => intro w sc fc; exact .refl
  | cons evt rest ih =>
    intro w sc fc
    exact .trans (solo_replayOne fails evt rest total sc fc w) (ih _ _ _)

/-- Run on its own, a `ReplayFailedEvents` run returns what the atomic
`replayFailedEvents` returns and leaves the world it leaves. -/
theorem solo_replayFailedEvents (fails : Faults) (w : World) :
    Relation.ReflTransGen (SoloStep fails) (.fetch, w)
      (.done (replayFailedEvents fails w).1, (replayFailedEvents fails w).2) := by
  unfold replayFailedEvents
  split
  · rename_i h
    exact .single ⟨_, rfl, by simp [RunPc.step, h]⟩
  · rename_i h
    exact .single ⟨_, rfl, by simp [RunPc.step, h]⟩
  · rename_i events hne h
    obtain ⟨evt, rest, rfl⟩ := List.exists_cons_of_ne_nil hne
    have hfetch : SoloStep fails (.fetch, w) (RunPc.next (evt :: rest) (rest.length + 1) 0 0, w) :=
      ⟨_, rfl, by simp [RunPc.step, h, RunPc.next]⟩
    exact .head hfetch (solo_replayLoop fails _ (evt :: rest) w 0 0)

/-! ## A run on its own in the system of runs -/

/-- Running two lists of actions is running the first, then the second. -/
theorem Runs.run_append (rs : Runs) (as bs : List RunAction) :
    rs.run (as ++ bs) = (rs.run as).bind fun rs' => rs'.run bs := by
  induction as generalizing rs with
  | nil => rfl
  | cons a as ih =>
    rw [List.cons_append]
    simp only [Runs.run, Option.bind_assoc, ih]

/-- The calls of a run that is alone in the system are steps of the system of runs. -/
theorem runs_of_soloSteps {fails : Faults} {s s' : RunPc × World}
    (h : Relation.ReflTransGen (SoloStep fails) s s') :
    ∃ as, Runs.run ⟨s.2, [s.1]⟩ as = some ⟨s'.2, [s'.1]⟩ := by
  induction h with
  | refl => exact ⟨[], rfl⟩
  | tail _ hstep ih =>
    obtain ⟨as, has⟩ := ih
    obtain ⟨c, -, hc⟩ := hstep
    refine ⟨as ++ [.advance 0 (fails c)], ?_⟩
    simp [Runs.run_append, has, Runs.run, Runs.step, hc]

/-- A run makes at most one call from each place, with one outcome under `fails`. -/
theorem soloStep_rightUnique (fails : Faults) : Relator.RightUnique (SoloStep fails) := by
  rintro s s₁ s₂ ⟨c, hc, h₁⟩ ⟨c', hc', h₂⟩
  obtain rfl : c = c' := Option.some_inj.1 (hc.symm.trans hc')
  exact Option.some_inj.1 (h₁.symm.trans h₂)

/-- A returned run makes no further call. -/
theorem soloSteps_from_done {fails : Faults} {r : Except ReplayError Unit} {w : World} {s : RunPc × World}
    (h : Relation.ReflTransGen (SoloStep fails) (.done r, w) s) : s = (.done r, w) := by
  rcases h.cases_head with h | ⟨_, ⟨_, hc, _⟩, _⟩
  · exact h.symm
  · cases hc

/-- A `ReplayFailedEvents` call that no other run overlaps, making each of its calls with the
outcome `fails` gives that call, returns what the atomic `replayFailedEvents` returns and
leaves the world it leaves, and can return nothing else; run alone in the system of runs,
it is a schedule ending there. -/
theorem replayFailedEvents_schedule (fails : Faults) (w : World) :
    Relation.ReflTransGen (SoloStep fails) (.fetch, w)
        (.done (replayFailedEvents fails w).1, (replayFailedEvents fails w).2) ∧
      (∀ r w', Relation.ReflTransGen (SoloStep fails) (.fetch, w) (.done r, w') →
        r = (replayFailedEvents fails w).1 ∧ w' = (replayFailedEvents fails w).2) ∧
      ∃ as, (Runs.mk w []).run (.start :: as) =
        some ⟨(replayFailedEvents fails w).2, [.done (replayFailedEvents fails w).1]⟩ := by
  have hsolo := solo_replayFailedEvents fails w
  refine ⟨hsolo, fun r w' h => ?_, runs_of_soloSteps hsolo⟩
  rcases hsolo.total_of_right_unique (soloStep_rightUnique fails) h with h' | h'
  · simpa using soloSteps_from_done h'
  · simpa using (soloSteps_from_done h').symm

end OrderSaga.ReplayRuns
