import HermesRpt.Lib.Run
import Mathlib.Logic.Function.Basic

/-!
# HermesRpt.Lib.Async

Coroutines on shared state. A coroutine performs effects and is suspended at each of them; between
two effects of one coroutine the others may perform any of theirs.

* `Code`    : what is left of a coroutine: its result, or an effect and how it goes on with the
  reply.
* `Trace`   : the effects a coroutine has performed, with their replies.
* `Handler` : what an effect does to the shared state, given the trace of its coroutine.
* `serve`   : a coroutine run on its own; a fault may end it before any effect.
* `step`    : the machine of all coroutines; one action starts one or performs its next effect.
* `Safe`    : a proof outline. `ok` holds at every effect the code awaits and `fin` at its end.

`Safe` is proved once of a program, along its text. The run rules then give it at every point of
every interleaving (`task_safe`), and of a run on its own (`serve_invariant`).
-/

namespace Async

variable {E : Type} {R : E → Type} {ε σ C α β : Type}

/-- A coroutine that returns an `α` or raises an `ε`. -/
inductive Code (R : E → Type) (ε α : Type) where
  | done (result : Except ε α)
  | await (effect : E) (next : R effect → Code R ε α)

namespace Code

protected def bind : Code R ε α → (α → Code R ε β) → Code R ε β
  | done (.ok a), f => f a
  | done (.error e), _ => done (.error e)
  | await e next, f => await e fun r => (next r).bind f

instance : Monad (Code R ε) where
  pure a := done (.ok a)
  bind := Code.bind

def ofEffect (e : E) : Code R ε (R e) := await e fun r => done (.ok r)

def raise (e : ε) : Code R ε α := done (.error e)

/-- Code without effects. -/
def ofExcept (x : Except ε α) : Code R ε α := done x

/-- `try`: what the code returns or raises, as a value. -/
def caught : Code R ε α → Code R ε (Except ε α)
  | done r => done (.ok r)
  | await e next => await e fun r => (next r).caught

@[simp] theorem pure_eq (a : α) : (pure a : Code R ε α) = done (.ok a) := rfl

@[simp] theorem raise_eq (e : ε) : (raise e : Code R ε α) = done (.error e) := rfl

@[simp] theorem ofExcept_eq (x : Except ε α) : (ofExcept x : Code R ε α) = done x := rfl

@[simp] theorem caught_done (r : Except ε α) : (done r : Code R ε α).caught = done (.ok r) := rfl

@[simp] theorem caught_await (e : E) (next : R e → Code R ε α) :
    (await e next).caught = await e fun r => (next r).caught := rfl

@[simp] theorem ok_bind (a : α) (f : α → Code R ε β) : (done (.ok a) >>= f) = f a := rfl

@[simp] theorem error_bind (e : ε) (f : α → Code R ε β) :
    (done (.error e) >>= f) = done (.error e) := rfl

@[simp] theorem ofEffect_bind (e : E) (f : R e → Code R ε β) :
    (ofEffect e >>= f) = await e f := rfl

@[simp] theorem await_bind (e : E) (next : R e → Code R ε α) (f : α → Code R ε β) :
    (await e next >>= f) = await e fun r => next r >>= f := rfl

end Code

open Code

/-- The effects a coroutine has performed, oldest first. -/
abbrev Trace (R : E → Type) := List (Σ e, R e)

/-- The reply to an effect and the state after it; an effect may raise in the coroutine. -/
abbrev Handler (R : E → Type) (ε σ : Type) := Trace R → (e : E) → σ → Except ε (R e × σ)

/-! ## Proof outlines -/

/-- `ok` holds at every effect that the code comes to, and `fin` of every way it ends. -/
def Safe (ok : Trace R → E → Prop) (fin : Trace R → Except ε α → Prop) :
    Trace R → Code R ε α → Prop
  | tr, done r => fin tr r
  | tr, await e next => ok tr e ∧ ∀ r, Safe ok fin (tr ++ [⟨e, r⟩]) (next r)

section Safe

variable {ok : Trace R → E → Prop} {fin : Trace R → Except ε α → Prop} {tr : Trace R}

@[simp] theorem safe_done {r : Except ε α} : Safe ok fin tr (done r) ↔ fin tr r := Iff.rfl

@[simp] theorem safe_await {e : E} {next : R e → Code R ε α} :
    Safe ok fin tr (await e next) ↔ ok tr e ∧ ∀ r, Safe ok fin (tr ++ [⟨e, r⟩]) (next r) := Iff.rfl

theorem Safe.mono {fin' : Trace R → Except ε α → Prop} {code : Code R ε α}
    (h : Safe ok fin tr code) (hfin : ∀ tr r, fin tr r → fin' tr r) : Safe ok fin' tr code := by
  induction code generalizing tr with
  | done r => exact hfin tr r h
  | await e next ih => exact ⟨h.1, fun r => ih r (h.2 r)⟩

/-- The code before a bind ends in an assertion about the code after it. -/
theorem Safe.bind {fin : Trace R → Except ε β → Prop} {code : Code R ε α} {f : α → Code R ε β}
    (h : Safe ok (fun tr r => match r with
      | .ok a => Safe ok fin tr (f a)
      | .error e => fin tr (.error e)) tr code) : Safe ok fin tr (code >>= f) := by
  induction code generalizing tr with
  | done r => cases r <;> exact h
  | await e next ih => exact ⟨h.1, fun r => ih r (h.2 r)⟩

theorem Safe.caught {fin : Trace R → Except ε (Except ε α) → Prop} {code : Code R ε α}
    (h : Safe ok (fun tr r => fin tr (.ok r)) tr code) : Safe ok fin tr code.caught := by
  induction code generalizing tr with
  | done r => exact h
  | await e next ih => exact ⟨h.1, fun r => ih r (h.2 r)⟩

end Safe

/-! ## A coroutine on its own -/

/-- Performs the effects of `code` one after the other. Where `fault` raises, the coroutine ends
before its next effect. The result, the trace and the state at the end. -/
def serve (h : Handler R ε σ) (fault : Trace R → Option ε) :
    Trace R → Code R ε α → σ → Except ε α × Trace R × σ
  | tr, done r, s => (r, tr, s)
  | tr, await e next, s =>
    match fault tr with
    | some err => (.error err, tr, s)
    | none =>
      match h tr e s with
      | .ok (r, s') => serve h fault (tr ++ [⟨e, r⟩]) (next r) s'
      | .error err => (.error err, tr, s)

section Serve

variable {h : Handler R ε σ} {fault : Trace R → Option ε}

/-- A run that ends well performed its first effect, and the rest after it. -/
theorem serve_await_ok {tr : Trace R} {e : E} {next : R e → Code R ε α} {s : σ} {a : α}
    {out : Trace R × σ} :
    serve h fault tr (await e next) s = (.ok a, out) ↔ fault tr = none ∧
      ∃ r s', h tr e s = .ok (r, s') ∧ serve h fault (tr ++ [⟨e, r⟩]) (next r) s' = (.ok a, out) := by
  rw [serve]
  cases fault tr with
  | some err => simp
  | none =>
    cases h tr e s with
    | error err => simp
    | ok p =>
      obtain ⟨r, s'⟩ := p
      simp

theorem serve_done_ok {tr : Trace R} {result : Except ε α} {s : σ} {a : α} {out : Trace R × σ} :
    serve h fault tr (done result) s = (.ok a, out) ↔ result = .ok a ∧ out = (tr, s) := by
  rw [serve, Prod.mk.injEq]
  exact and_congr_right fun _ => eq_comm

/-- What every effect keeps, from the outline's assertion at it, holds at the end of a run. -/
theorem serve_invariant {I : Trace R → σ → Prop} {ok : Trace R → E → Prop}
    {fin : Trace R → Except ε α → Prop}
    (hstep : ∀ tr e s r s', I tr s → ok tr e → fault tr = none → h tr e s = .ok (r, s') →
      I (tr ++ [⟨e, r⟩]) s')
    {tr : Trace R} {code : Code R ε α} {s : σ} (hsafe : Safe ok fin tr code) (hI : I tr s) :
    I (serve h fault tr code s).2.1 (serve h fault tr code s).2.2 := by
  induction code generalizing tr s with
  | done r => exact hI
  | await e next ih =>
    rw [serve]
    cases hf : fault tr with
    | some err => exact hI
    | none =>
      cases hr : h tr e s with
      | error err => exact hI
      | ok p => exact ih p.1 (hsafe.2 p.1) (hstep tr e s p.1 p.2 hI hsafe.1 hf hr)

/-- A run ends as the outline says, or a raise ends it at an effect. -/
theorem serve_ends {ok : Trace R → E → Prop} {fin : Trace R → Except ε α → Prop} {tr tr' : Trace R}
    {code : Code R ε α} {s s' : σ} {result : Except ε α} (hsafe : Safe ok fin tr code)
    (hr : serve h fault tr code s = (result, tr', s')) :
    fin tr' result ∨ ∃ err, result = .error err ∧ ∃ e, ok tr' e := by
  induction code generalizing tr s with
  | done r =>
    cases hr
    exact .inl hsafe
  | await e next ih =>
    rw [serve] at hr
    cases hf : fault tr with
    | some err =>
      rw [hf] at hr
      cases hr
      exact .inr ⟨err, rfl, e, hsafe.1⟩
    | none =>
      rw [hf] at hr
      cases hh : h tr e s with
      | error err =>
        rw [hh] at hr
        cases hr
        exact .inr ⟨err, rfl, e, hsafe.1⟩
      | ok p =>
        rw [hh] at hr
        exact ih p.1 (hsafe.2 p.1) hr

theorem serve_bind_ok {tr tr' : Trace R} {code : Code R ε α} {f : α → Code R ε β} {s s' : σ}
    {a : α} (hx : serve h fault tr code s = (.ok a, tr', s')) :
    serve h fault tr (code >>= f) s = serve h fault tr' (f a) s' := by
  induction code generalizing tr s with
  | done r =>
    cases hx
    rfl
  | await e next ih =>
    rw [serve] at hx
    rw [await_bind, serve]
    cases hf : fault tr with
    | some err =>
      rw [hf] at hx
      cases hx
    | none =>
      rw [hf] at hx
      cases hr : h tr e s with
      | error err =>
        rw [hr] at hx
        cases hx
      | ok p =>
        rw [hr] at hx
        exact ih p.1 hx

theorem serve_bind_error {tr tr' : Trace R} {code : Code R ε α} {f : α → Code R ε β} {s s' : σ}
    {err : ε} (hx : serve h fault tr code s = (.error err, tr', s')) :
    serve h fault tr (code >>= f) s = (.error err, tr', s') := by
  induction code generalizing tr s with
  | done r =>
    cases hx
    rfl
  | await e next ih =>
    rw [serve] at hx
    rw [await_bind, serve]
    cases hf : fault tr with
    | some err' =>
      rw [hf] at hx
      cases hx
      rfl
    | none =>
      rw [hf] at hx
      cases hr : h tr e s with
      | error err' =>
        rw [hr] at hx
        cases hx
        rfl
      | ok p =>
        rw [hr] at hx
        exact ih p.1 hx

/-- An exception of the code is caught, one of the run is not. -/
theorem serve_caught (hfault : ∀ tr, fault tr = none) (hhandle : ∀ tr e s, ∃ r, h tr e s = .ok r)
    {tr : Trace R} {code : Code R ε α} {s : σ} :
    serve h fault tr code.caught s =
      (.ok (serve h fault tr code s).1, (serve h fault tr code s).2) := by
  induction code generalizing tr s with
  | done r => rfl
  | await e next ih =>
    obtain ⟨r, hr⟩ := hhandle tr e s
    simp only [caught_await, serve, hfault, hr]
    exact ih r.1

end Serve

/-! ## Coroutines that are interleaved -/

/-- A coroutine that was started: its call, what it has performed, and what is left of it. -/
structure Task (R : E → Type) (ε α C : Type) where
  call : C
  trace : Trace R
  code : Code R ε α

/-- The shared state and the coroutines; one that has ended stays with its result. -/
structure World (R : E → Type) (ε α C σ : Type) where
  shared : σ
  tasks : Nat → Option (Task R ε α C)

/-- No coroutine was started. -/
def World.quiet (s : σ) : World R ε α C σ := ⟨s, fun _ => none⟩

inductive Action (C : Type) where
  | start (tid : Nat) (call : C)
  | advance (tid : Nat)

def World.setTask (w : World R ε α C σ) (tid : Nat) (task : Task R ε α C) : World R ε α C σ :=
  { w with tasks := Function.update w.tasks tid (some task) }

/-- One action. A raise ends the coroutine and leaves the state as it is. -/
def step (program : C → Code R ε α) (h : Handler R ε σ) (w : World R ε α C σ) :
    Action C → World R ε α C σ
  | .start tid call =>
    match w.tasks tid with
    | none => w.setTask tid ⟨call, [], program call⟩
    | some _ => w
  | .advance tid =>
    match w.tasks tid with
    | some ⟨call, tr, await e next⟩ =>
      match h tr e w.shared with
      | .ok (r, s') => { w.setTask tid ⟨call, tr ++ [⟨e, r⟩], next r⟩ with shared := s' }
      | .error err => w.setTask tid ⟨call, tr, done (.error err)⟩
    | _ => w

section Step

variable {program : C → Code R ε α} {h : Handler R ε σ} {w : World R ε α C σ}

/-- What one action can do: nothing, start a coroutine, perform an effect, or raise. -/
theorem step_cases (program : C → Code R ε α) (h : Handler R ε σ) (w : World R ε α C σ)
    (a : Action C) :
    step program h w a = w ∨
    (∃ tid call, a = .start tid call ∧ w.tasks tid = none ∧
      step program h w a = w.setTask tid ⟨call, [], program call⟩) ∨
    (∃ tid call tr e next r s', a = .advance tid ∧ w.tasks tid = some ⟨call, tr, await e next⟩ ∧
      h tr e w.shared = .ok (r, s') ∧
      step program h w a = { w.setTask tid ⟨call, tr ++ [⟨e, r⟩], next r⟩ with shared := s' }) ∨
    (∃ tid call tr e next err, a = .advance tid ∧ w.tasks tid = some ⟨call, tr, await e next⟩ ∧
      h tr e w.shared = .error err ∧
      step program h w a = w.setTask tid ⟨call, tr, done (.error err)⟩) := by
  cases a with
  | start tid call =>
    cases ht : w.tasks tid with
    | none => exact .inr (.inl ⟨tid, call, rfl, ht, by simp [step, ht]⟩)
    | some task => exact .inl (by simp [step, ht])
  | advance tid =>
    cases ht : w.tasks tid with
    | none => exact .inl (by simp [step, ht])
    | some task =>
      obtain ⟨call, tr, code⟩ := task
      cases code with
      | done r => exact .inl (by simp [step, ht])
      | await e next =>
        cases hr : h tr e w.shared with
        | ok p =>
          exact .inr (.inr (.inl ⟨tid, call, tr, e, next, p.1, p.2, rfl, ht, hr,
            by simp [step, ht, hr]⟩))
        | error err =>
          exact .inr (.inr (.inr ⟨tid, call, tr, e, next, err, rfl, ht, hr,
            by simp [step, ht, hr]⟩))

@[simp] theorem shared_setTask (tid : Nat) (task : Task R ε α C) :
    (w.setTask tid task).shared = w.shared := rfl

@[simp] theorem tasks_setTask (tid : Nat) (task : Task R ε α C) (i : Nat) :
    (w.setTask tid task).tasks i = if i = tid then some task else w.tasks i := by
  simp [World.setTask, Function.update_apply]

theorem tasks_setTask_eq {tid i : Nat} {task task' : Task R ε α C} :
    (w.setTask tid task).tasks i = some task' ↔
      i = tid ∧ task = task' ∨ i ≠ tid ∧ w.tasks i = some task' := by
  rw [tasks_setTask]
  split <;> simp [*]

/-- Every coroutine is at a point of its outline, unless an effect raised in it. -/
def Outlined (ok : C → Trace R → E → Prop) (fin : C → Trace R → Except ε α → Prop)
    (w : World R ε α C σ) : Prop :=
  ∀ tid task, w.tasks tid = some task →
    Safe (ok task.call) (fin task.call) task.trace task.code ∨ ∃ err, task.code = done (.error err)

variable {ok : C → Trace R → E → Prop} {fin : C → Trace R → Except ε α → Prop}

theorem quiet_outlined (s : σ) : Outlined ok fin (World.quiet s : World R ε α C σ) := by
  intro tid task htask
  cases htask

theorem Outlined.awaits (hw : Outlined ok fin w) {tid : Nat} {call : C} {tr : Trace R} {e : E}
    {next : R e → Code R ε α} (ht : w.tasks tid = some ⟨call, tr, await e next⟩) :
    ok call tr e ∧ ∀ r, Safe (ok call) (fin call) (tr ++ [⟨e, r⟩]) (next r) := by
  rcases hw tid _ ht with hsafe | ⟨err, he⟩
  · exact hsafe
  · cases he

theorem Outlined.returned (hw : Outlined ok fin w) {tid : Nat} {call : C} {tr : Trace R} {a : α}
    (ht : w.tasks tid = some ⟨call, tr, done (.ok a)⟩) : fin call tr (.ok a) := by
  rcases hw tid _ ht with hsafe | ⟨err, he⟩
  · exact hsafe
  · cases he

theorem step_outlined (hprogram : ∀ call, Safe (ok call) (fin call) [] (program call))
    (hw : Outlined ok fin w) (a : Action C) : Outlined ok fin (step program h w a) := by
  intro i task htask
  rcases step_cases program h w a with he | ⟨tid, call, -, -, he⟩ |
    ⟨tid, call, tr, e, next, r, s', -, ht, -, he⟩ | ⟨tid, call, tr, e, next, err, -, ht, hr, he⟩
  all_goals rw [he] at htask
  · exact hw i task htask
  all_goals
    simp only [tasks_setTask] at htask
    split at htask
    · cases htask
      first
        | exact .inl (hprogram call)
        | exact .inl ((hw.awaits ht).2 r)
        | exact .inr ⟨err, rfl⟩
    · exact hw i task htask

/-- In a run every coroutine stays at a point of its outline. -/
theorem run_outlined (hprogram : ∀ call, Safe (ok call) (fin call) [] (program call))
    (hw : Outlined ok fin w) (as : List (Action C)) :
    Outlined ok fin (Machine.run (step program h) w as) :=
  Machine.run_invariant (I := Outlined ok fin) (fun _ a h => step_outlined hprogram h a) hw as

/-- A reply in a trace was given by the handler at an earlier action of the run, when the coroutine
had performed what is before it in the trace. -/
theorem replied_at {s : σ} {as : List (Action C)} {tid : Nat} {task : Task R ε α C}
    {tr rest : Trace R} {e : E} {r : R e}
    (ht : (Machine.run (step program h) (World.quiet s) as).tasks tid = some task)
    (hr : task.trace = tr ++ ⟨e, r⟩ :: rest) :
    ∃ pre a, pre ++ [a] <+: as ∧
      h tr e (Machine.run (step program h) (World.quiet s) pre).shared =
        .ok (r, (Machine.run (step program h) (World.quiet s) (pre ++ [a])).shared) := by
  induction as using List.reverseRecOn generalizing tid task rest with
  | nil => cases ht
  | append_singleton as a ih =>
    have hlater : ∀ {tid task rest}, (Machine.run (step program h) (World.quiet s) as).tasks tid =
        some task → task.trace = tr ++ ⟨e, r⟩ :: rest → ∃ pre b, pre ++ [b] <+: as ++ [a] ∧
          h tr e (Machine.run (step program h) (World.quiet s) pre).shared =
            .ok (r, (Machine.run (step program h) (World.quiet s) (pre ++ [b])).shared) := by
      intro tid task rest ht hm
      obtain ⟨pre, b, hpre, hreply⟩ := ih ht hm
      exact ⟨pre, b, hpre.trans (List.prefix_append as [a]), hreply⟩
    have hlast : Machine.run (step program h) (World.quiet s) (as ++ [a]) =
        step program h (Machine.run (step program h) (World.quiet s) as) a := by simp
    rw [hlast] at ht
    rcases step_cases program h (Machine.run (step program h) (World.quiet s) as) a with he |
      ⟨i, call, -, -, he⟩ | ⟨i, call, tr', e', next, r', s', -, hi, hh, he⟩ |
      ⟨i, call, tr', e', next, err, -, hi, -, he⟩
    all_goals rw [he] at ht
    · exact hlater ht hr
    all_goals
      simp only [tasks_setTask] at ht
      split at ht
    · cases ht
      simp at hr
    · exact hlater ht hr
    · cases ht
      rcases List.eq_nil_or_concat rest with rfl | ⟨rest, x, rfl⟩
      · obtain ⟨rfl, hx⟩ := List.append_inj' hr rfl
        cases hx
        refine ⟨as, a, List.prefix_refl _, ?_⟩
        rw [hlast, he]
        exact hh
      · have hsnoc : tr' ++ [⟨e', r'⟩] = (tr ++ ⟨e, r⟩ :: rest) ++ [x] := by simpa using hr
        exact hlater hi (List.append_inj_left' hsnoc rfl)
    · exact hlater ht hr
    · cases ht
      exact hlater hi hr
    · exact hlater ht hr

/-- A reply in a trace was given by the handler at an earlier action of the run. -/
theorem replied {s : σ} {as : List (Action C)} {tid : Nat} {task : Task R ε α C} {e : E} {r : R e}
    (ht : (Machine.run (step program h) (World.quiet s) as).tasks tid = some task)
    (hr : ⟨e, r⟩ ∈ task.trace) :
    ∃ pre a, pre ++ [a] <+: as ∧ ∃ tr,
      h tr e (Machine.run (step program h) (World.quiet s) pre).shared =
        .ok (r, (Machine.run (step program h) (World.quiet s) (pre ++ [a])).shared) := by
  obtain ⟨tr, rest, htrace⟩ := List.append_of_mem hr
  obtain ⟨pre, a, hpre, hreply⟩ := replied_at ht htrace
  exact ⟨pre, a, hpre, tr, hreply⟩

end Step

end Async
