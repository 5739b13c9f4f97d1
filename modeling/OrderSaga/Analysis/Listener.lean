import OrderSaga.Model.Listener

/-!
# What the queue listener does after its channel closes

The comment on the `break` in `listenToQueue` says it exits the inner loop to retry the
connection, but a `break` inside a `select` leaves only the `select`. So once the broker
has closed the delivery channel, the listener is back at the same `select` after every
receive, and a receive from a closed channel returns at once: whatever the broker does,
the listener keeps receiving from that channel, never calls `Consume` again, and never
returns unless the context is cancelled (`receiving_closed_channel_run`,
`spins_on_closed_channel`).

What does hold of the loop is the other half: `listenToQueue` returns only on
cancellation, or after `maxRetries` failed `Consume` calls in a row at the start, with
the delay doubling from two seconds (`listener_gives_up_after_retries`).
-/

set_option autoImplicit false

namespace OrderSaga.Analysis

open EventListener

/-! ## A closed channel -/

/-- Receiving from a channel that is closed: the only events are another `ok = false`,
which changes nothing, and a cancellation. -/
theorem receiving_closed_channel_step {attempt retryDelay msgs : Nat} {closed : List Nat}
    (hmsgs : msgs ∈ closed) {e : Event} {l' : Listener} (he : e ≠ .cancelled)
    (h : (Listener.mk (.receive attempt retryDelay msgs) closed).step e = some l') :
    l' = ⟨.receive attempt retryDelay msgs, closed⟩ := by
  have hc : closed.contains msgs = true := List.elem_iff.2 hmsgs
  cases e with
  | cancelled => exact absurd rfl he
  | channelClosed => simpa [Listener.step, List.insert_of_mem hmsgs] using h.symm
  | message => simp [Listener.step, hmsgs] at h
  | consumeFailed => simp [Listener.step] at h
  | consumed => simp [Listener.step] at h

/-- Every run without a cancellation from a closed channel's `select` ends where it started. -/
theorem receiving_closed_channel_run {attempt retryDelay msgs : Nat} {closed : List Nat}
    (hmsgs : msgs ∈ closed) (es : List Event) (hes : Event.cancelled ∉ es) {l' : Listener}
    (h : (Listener.mk (.receive attempt retryDelay msgs) closed).run es = some l') :
    l' = ⟨.receive attempt retryDelay msgs, closed⟩ := by
  induction es with
  | nil => simpa using h.symm
  | cons e es ih =>
    simp only [Listener.run_cons, Option.bind_eq_some] at h
    obtain ⟨l₁, h₁, h₂⟩ := h
    obtain rfl := receiving_closed_channel_step hmsgs (fun he => hes (he ▸ List.mem_cons_self _ _)) h₁
    exact ih (fun he => hes (List.mem_cons_of_mem _ he)) h₂

/-- Receiving `ok = false` from a closed channel is always possible, and leaves the
listener where it was. -/
theorem run_channelClosed {attempt retryDelay msgs : Nat} {closed : List Nat}
    (hmsgs : msgs ∈ closed) (n : Nat) :
    (Listener.mk (.receive attempt retryDelay msgs) closed).run (List.replicate n .channelClosed) =
      some ⟨.receive attempt retryDelay msgs, closed⟩ := by
  induction n with
  | zero => rfl
  | succ n ih => simpa [List.replicate_succ, Listener.step, List.insert_of_mem hmsgs] using ih

/-- The listener after `Consume` has returned channel `1` and the broker has closed it. -/
def closedChannelListener : Listener := ⟨.receive 1 2 1, [1]⟩

/-- `Consume` succeeds at the first attempt with channel `1`, and the broker closes the
channel. From then on every run without a cancellation leaves the listener receiving from
channel `1`, and such runs go on for ever. -/
theorem spins_on_closed_channel :
    start.run [.consumed 1, .channelClosed] = some closedChannelListener ∧
      (∀ es l', Event.cancelled ∉ es → closedChannelListener.run es = some l' →
        l' = closedChannelListener) ∧
      ∀ n, closedChannelListener.run (List.replicate n .channelClosed) = some closedChannelListener :=
  ⟨by decide, fun es _ hes h => receiving_closed_channel_run (List.mem_singleton_self 1) es hes h,
    run_channelClosed (List.mem_singleton_self 1)⟩

/-! ## When the listener returns -/

/-- From a `select`, only a cancellation returns. -/
theorem receive_run_returned {attempt retryDelay msgs : Nat} {closed : List Nat} (es : List Event)
    {l' : Listener} (h : (Listener.mk (.receive attempt retryDelay msgs) closed).run es = some l')
    (hr : l'.pc = .returned) : Event.cancelled ∈ es := by
  induction es generalizing closed with
  | nil => cases h; cases hr
  | cons e es ih =>
    simp only [Listener.run_cons, Option.bind_eq_some] at h
    obtain ⟨l₁, h₁, h₂⟩ := h
    cases e with
    | cancelled => exact List.mem_cons_self _ _
    | channelClosed =>
      simp only [Listener.step, Option.some.injEq] at h₁
      subst h₁
      exact List.mem_cons_of_mem _ (ih h₂)
    | message =>
      simp only [Listener.step] at h₁
      split at h₁
      · cases h₁
      · cases h₁; exact List.mem_cons_of_mem _ (ih h₂)
    | consumeFailed => simp [Listener.step] at h₁
    | consumed => simp [Listener.step] at h₁

/-- A returned listener takes no more events. -/
theorem returned_run {closed : List Nat} (es : List Event) {l' : Listener}
    (h : (Listener.mk .returned closed).run es = some l') : es = [] := by
  cases es with
  | nil => rfl
  | cons e es => cases e <;> simp [Listener.step] at h

/-- From attempt `attempt`, the listener returns without a cancellation only after every
remaining attempt has failed. -/
theorem consume_run_returned {attempt : Nat} (h1 : 1 ≤ attempt) (h5 : attempt ≤ maxRetries)
    (retryDelay : Nat) {closed : List Nat} (es : List Event) {l' : Listener}
    (h : (Listener.mk (.consume attempt retryDelay) closed).run es = some l')
    (hr : l'.pc = .returned) :
    Event.cancelled ∈ es ∨ es = List.replicate (maxRetries + 1 - attempt) .consumeFailed := by
  induction es generalizing attempt retryDelay with
  | nil => cases h; cases hr
  | cons e es ih =>
    simp only [Listener.run_cons, Option.bind_eq_some] at h
    obtain ⟨l₁, h₁, h₂⟩ := h
    cases e with
    | consumeFailed =>
      simp only [Listener.step, Option.some.injEq] at h₁
      subst h₁
      by_cases hlast : attempt = maxRetries
      · simp only [hlast, if_true] at h₂
        obtain rfl := returned_run es h₂
        simp [hlast]
      · have hnext : attempt + 1 ≤ maxRetries := by omega
        simp only [hlast, if_false, loopHead, hnext, if_true] at h₂
        rcases ih (by omega) hnext _ h₂ with hc | hrep
        · exact .inl (List.mem_cons_of_mem _ hc)
        · refine .inr ?_
          rw [hrep, show maxRetries + 1 - attempt = (maxRetries + 1 - (attempt + 1)) + 1 by omega,
            List.replicate_succ]
    | consumed msgs =>
      simp only [Listener.step] at h₁
      split at h₁
      · cases h₁
      · cases h₁; exact .inl (List.mem_cons_of_mem _ (receive_run_returned es h₂ hr))
    | message => simp [Listener.step] at h₁
    | channelClosed => simp [Listener.step] at h₁
    | cancelled => simp [Listener.step] at h₁

/-- `listenToQueue` returns only when the context is cancelled, or after `maxRetries`
failed `Consume` calls and nothing else; after `j` of them it sleeps `2 ^ (j + 1)`
seconds and makes attempt `j + 1`. -/
theorem listener_gives_up_after_retries :
    (∀ es l', start.run es = some l' → l'.pc = .returned →
      Event.cancelled ∈ es ∨ es = List.replicate maxRetries .consumeFailed) ∧
      ∀ j < maxRetries, start.run (List.replicate j .consumeFailed) =
        some ⟨.consume (j + 1) (Nat.pow 2 (j + 1)), []⟩ :=
  ⟨fun es _ h hr => consume_run_returned (le_refl 1) (by decide) 2 es h hr, by decide⟩

end OrderSaga.Analysis
