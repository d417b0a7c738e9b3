import Mathlib.Data.List.Basic

/-!
# HermesRpt.Lib.EventLog

A log of events, and the state that it tells. An event is about at most one subject; what it tells
of the subject may depend on what was known of it.

* `replay`   : what the events about a subject leave known of it.
* `Explains` : a lookup that is the replay of a log, at every subject.

`Explains.snoc` is the step rule: an event that tells what a step did to its subject, and a step that
leaves the other subjects alone.
-/

namespace EventLog

variable {E K β : Type*} [DecidableEq K]

/-- What is known of `k` after one more event. -/
def learn (about : E → Option K) (tell : E → Option β → Option β) (k : K) (known : Option β) (e : E) :
    Option β :=
  if about e = some k then tell e known else known

/-- What is known of `k` after the log. -/
def replay (about : E → Option K) (tell : E → Option β → Option β) (log : List E) (k : K) :
    Option β :=
  log.foldl (learn about tell k) none

def Explains (about : E → Option K) (tell : E → Option β → Option β) (log : List E)
    (state : K → Option β) : Prop :=
  ∀ k, state k = replay about tell log k

section Rules

variable {about : E → Option K} {tell : E → Option β → Option β} {log : List E}
  {state state' : K → Option β} {e : E}

@[simp] theorem replay_nil (k : K) : replay about tell [] k = none := rfl

theorem replay_snoc (log : List E) (e : E) (k : K) :
    replay about tell (log ++ [e]) k = learn about tell k (replay about tell log k) e :=
  List.foldl_append

theorem Explains.snoc (h : Explains about tell log state)
    (hstep : ∀ k, state' k = learn about tell k (state k) e) :
    Explains about tell (log ++ [e]) state' := by
  intro k
  rw [replay_snoc, hstep, h k]

/-- An event about no subject, at a step that changes none. -/
theorem Explains.silent (h : Explains about tell log state) (he : about e = none) :
    Explains about tell (log ++ [e]) state := by
  refine h.snoc fun k => ?_
  rw [learn, if_neg (by simp [he])]

end Rules

end EventLog
