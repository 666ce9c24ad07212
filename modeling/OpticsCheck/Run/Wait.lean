import OpticsCheck.Run.Basic

/-!
# Waiting for a status

A wait reads an interface's operational status at once and then again a poll interval after each
read, until a read gives the expected status or a fault, or until the timeout has passed. A read
and the timeout may fall on the same millisecond: then the read happens, and counts. A read that is
still under way at the timeout is abandoned. The timeout itself has no limit.
-/

namespace OpticsCheck

structure Wait where
  interface : String
  expected : OperStatus
  /-- Milliseconds after which the wait ends. -/
  timeout : Nat
  /-- Milliseconds from the end of one read to the start of the next. -/
  poll : Nat
deriving DecidableEq, Repr

namespace Wait

/-- A poll interval of no length counts as one millisecond, one too long as the longest pause. -/
def pause (w : Wait) : Nat := min (max w.poll 1) longestPause

theorem pause_pos (w : Wait) : 0 < w.pause := by simp only [pause, longestPause]; omega

def expired (w : Wait) (lastSeen : Option OperStatus) : Fault :=
  .awaitTimeout w.interface w.expected lastSeen (.ofMillis w.timeout)

def stillWaiting (w : Wait) (status : OperStatus) : Event :=
  ⟨.debug, .wait, w.interface ++ " oper status is " ++ status.keyword ++ ", waiting for "
    ++ w.expected.keyword⟩

variable {σ : Type}

/-- Goes on waiting with `left` milliseconds to the timeout; `past` is the trace so far, latest
first. -/
def goOn (w : Wait) (dut : Device σ) (left : Nat) (lastSeen : Option OperStatus)
    (past : List Mark) (clock : Nat) (state : σ) : Outcome σ (Except Fault OperStatus) :=
  let reply := dut.operStatus w.interface clock state
  let past := (reply.log.map .logged).reverse ++ .called (.operStatus w.interface) :: past
  if left < reply.delay then
    ⟨.error (w.expired lastSeen), clock + left, reply.state, past.reverse⟩
  else match reply.answer with
    | .error fault => ⟨.error fault, clock + reply.delay, reply.state, past.reverse⟩
    | .ok status =>
      if status = w.expected then ⟨.ok status, clock + reply.delay, reply.state, past.reverse⟩
      else
        let past := .logged (w.stillWaiting status) :: past
        let spent := reply.delay + w.pause
        if left < spent then
          ⟨.error (w.expired (some status)), clock + left, reply.state, past.reverse⟩
        else goOn w dut (left - spent) (some status) past (clock + spent) reply.state
termination_by left
decreasing_by
  have := w.pause_pos
  omega

/-- Waits from now on. -/
def run (w : Wait) (dut : Device σ) : Run σ (Except Fault OperStatus) :=
  w.goOn dut w.timeout none []

end Wait
end OpticsCheck
