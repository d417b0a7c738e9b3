import HermesRpt.Lib.Async

/-!
# HermesRpt.Lib.CommitLog

Coroutines that publish on a shared state which other operations change too. Some effects publish an
entry; the others leave what is public as it is. The public state is then the one that the entries
and the operations reach one after the other, in the order in which they took place.

* `stepWith`  : the machine of the coroutines, with an operation of the surroundings as an action.
* `published` : the entries of a trace.
* `commitLog` : the entries of a run, each with its coroutine, and the operations.

`commitLog_replays` is the serial order, `entriesOf_commitLog` says whose entries it is made of, and
`answered_at` that a reply in a trace was given at an earlier moment of the run.
-/

namespace Async

open Code Machine

variable {E : Type} {R : E → Type} {ε σ C α B L D : Type}

/-- An action of the coroutines, or an operation of the surroundings on the shared state. -/
def stepWith (program : C → Code R ε α) (h : Handler R ε σ) (operate : σ → B → σ)
    (w : World R ε α C σ) : Action C ⊕ B → World R ε α C σ
  | .inl a => step program h w a
  | .inr b => { w with shared := operate w.shared b }

/-- The entry that an effect publishes, if it publishes one. -/
abbrev Entry (R : E → Type) (L : Type) := Trace R → E → Option L

/-- The entries of what a coroutine has performed after `before`. -/
def publishedAfter (entry : Entry R L) (before : Trace R) : Trace R → List L
  | [] => []
  | x :: rest => (entry before x.1).toList ++ publishedAfter entry (before ++ [x]) rest

def published (entry : Entry R L) (tr : Trace R) : List L := publishedAfter entry [] tr

/-- What an action enters in the log. -/
def enters (h : Handler R ε σ) (entry : Entry R L) (w : World R ε α C σ) :
    Action C ⊕ B → List (Nat × L ⊕ B)
  | .inl (.start _ _) => []
  | .inl (.advance tid) =>
    match w.tasks tid with
    | some ⟨_, tr, await e _⟩ =>
      match h tr e w.shared with
      | .ok _ => (entry tr e).toList.map fun l => .inl (tid, l)
      | .error _ => []
    | _ => []
  | .inr b => [.inr b]

def commitLog (program : C → Code R ε α) (h : Handler R ε σ) (operate : σ → B → σ)
    (entry : Entry R L) (w : World R ε α C σ) (as : List (Action C ⊕ B)) : List (Nat × L ⊕ B) :=
  outputs (stepWith program h operate) (enters h entry) w as

/-- The entries of one coroutine in a log. -/
def entriesOf (tid : Nat) (log : List (Nat × L ⊕ B)) : List L :=
  log.filterMap fun
    | .inl (i, l) => if i = tid then some l else none
    | .inr _ => none

section

variable {program : C → Code R ε α} {h : Handler R ε σ} {operate : σ → B → σ} {entry : Entry R L}
  {w : World R ε α C σ}

theorem publishedAfter_snoc (before tr : Trace R) (x : Σ e, R e) :
    publishedAfter entry before (tr ++ [x]) =
      publishedAfter entry before tr ++ (entry (before ++ tr) x.1).toList := by
  induction tr generalizing before with
  | nil => simp [publishedAfter]
  | cons y tr ih => simp [publishedAfter, ih]

@[simp] theorem published_nil : published entry ([] : Trace R) = [] := rfl

@[simp] theorem published_snoc (tr : Trace R) (x : Σ e, R e) :
    published entry (tr ++ [x]) = published entry tr ++ (entry tr x.1).toList :=
  publishedAfter_snoc [] tr x

@[simp] theorem entriesOf_nil (tid : Nat) : entriesOf tid ([] : List (Nat × L ⊕ B)) = [] := rfl

@[simp] theorem entriesOf_append (tid : Nat) (log log' : List (Nat × L ⊕ B)) :
    entriesOf tid (log ++ log') = entriesOf tid log ++ entriesOf tid log' :=
  List.filterMap_append

theorem entriesOf_own (tid i : Nat) (l : Option L) :
    entriesOf tid (l.toList.map fun l => (.inl (i, l) : Nat × L ⊕ B)) =
      if i = tid then l.toList else [] := by
  cases l with
  | none => simp
  | some l => by_cases hi : i = tid <;> simp [entriesOf, hi]

/-- What one action does and enters: an operation of the surroundings, nothing, a start, an effect or
a raise. -/
theorem stepWith_cases (program : C → Code R ε α) (h : Handler R ε σ) (operate : σ → B → σ)
    (entry : Entry R L) (w : World R ε α C σ) (a : Action C ⊕ B) :
    (∃ b, a = .inr b ∧ stepWith program h operate w a = { w with shared := operate w.shared b } ∧
      enters h entry w a = [.inr b]) ∨
    (stepWith program h operate w a = w ∧ enters h entry w a = ([] : List (Nat × L ⊕ B))) ∨
    (∃ tid call, w.tasks tid = none ∧
      stepWith program h operate w a = w.setTask tid ⟨call, [], program call⟩ ∧
      enters h entry w a = ([] : List (Nat × L ⊕ B))) ∨
    (∃ tid call tr e next r s', w.tasks tid = some ⟨call, tr, await e next⟩ ∧
      h tr e w.shared = .ok (r, s') ∧
      stepWith program h operate w a =
        { w.setTask tid ⟨call, tr ++ [⟨e, r⟩], next r⟩ with shared := s' } ∧
      enters h entry w a = (entry tr e).toList.map fun l => .inl (tid, l)) ∨
    (∃ tid call tr e next err, w.tasks tid = some ⟨call, tr, await e next⟩ ∧
      h tr e w.shared = .error err ∧
      stepWith program h operate w a = w.setTask tid ⟨call, tr, done (.error err)⟩ ∧
      enters h entry w a = ([] : List (Nat × L ⊕ B))) := by
  rcases a with (⟨tid, call⟩ | tid) | b
  · cases ht : w.tasks tid with
    | none => exact .inr (.inr (.inl ⟨tid, call, ht, by simp [stepWith, step, ht], rfl⟩))
    | some task => exact .inr (.inl ⟨by simp [stepWith, step, ht], rfl⟩)
  · cases ht : w.tasks tid with
    | none => exact .inr (.inl ⟨by simp [stepWith, step, ht], by simp [enters, ht]⟩)
    | some task =>
      obtain ⟨call, tr, code⟩ := task
      cases code with
      | done r => exact .inr (.inl ⟨by simp [stepWith, step, ht], by simp [enters, ht]⟩)
      | await e next =>
        cases hr : h tr e w.shared with
        | ok p =>
          exact .inr (.inr (.inr (.inl ⟨tid, call, tr, e, next, p.1, p.2, ht, hr,
            by simp [stepWith, step, ht, hr], by simp [enters, ht, hr]⟩)))
        | error err =>
          exact .inr (.inr (.inr (.inr ⟨tid, call, tr, e, next, err, ht, hr,
            by simp [stepWith, step, ht, hr], by simp [enters, ht, hr]⟩)))
  · exact .inl ⟨b, rfl, rfl, rfl⟩

/-- A coroutine that has ended stays as it is. -/
theorem tasks_stepWith_done {tid : Nat} {call : C} {tr : Trace R} {result : Except ε α}
    (ht : w.tasks tid = some ⟨call, tr, done result⟩) (a : Action C ⊕ B) :
    (stepWith program h operate w a).tasks tid = some ⟨call, tr, done result⟩ := by
  have hother : ∀ {i : Nat} {task : Task R ε α C},
      (w.tasks i = none ∨ ∃ call tr e next, w.tasks i = some ⟨call, tr, await e next⟩) →
      (w.setTask i task).tasks tid = some ⟨call, tr, done result⟩ := by
    intro i task hi
    rw [tasks_setTask, if_neg, ht]
    rintro rfl
    rcases hi with hi | ⟨call, tr, e, next, hi⟩ <;> rw [ht] at hi <;> cases hi
  rcases stepWith_cases (L := Unit) program h operate (fun _ _ => none) w a with ⟨b, -, he, -⟩ |
    ⟨he, -⟩ | ⟨i, call', hi, he, -⟩ | ⟨i, call', tr', e, next, r, s', hi, -, he, -⟩ |
    ⟨i, call', tr', e, next, err, hi, -, he, -⟩
  all_goals rw [he]
  · exact ht
  · exact ht
  · exact hother (.inl hi)
  · exact hother (.inr ⟨_, _, _, _, hi⟩)
  · exact hother (.inr ⟨_, _, _, _, hi⟩)

theorem commitLog_snoc (w : World R ε α C σ) (as : List (Action C ⊕ B)) (a : Action C ⊕ B) :
    commitLog program h operate entry w (as ++ [a]) = commitLog program h operate entry w as ++
      enters h entry (run (stepWith program h operate) w as) a :=
  outputs_snoc w as a

/-! ## The serial order -/

/-- What an entry, or an operation, does to what is public. -/
def replayEntry {ε' : Type} (apply : D → L → Except ε' D) (operateOn : D → B → D) (d : D) :
    Nat × L ⊕ B → Except ε' D
  | .inl (_, l) => apply d l
  | .inr b => .ok (operateOn d b)

/-- `view` is what is public of the shared state: an entry is what its effect does to it, and the
effects without an entry leave it as it is. -/
structure Publishes {ε' : Type} (h : Handler R ε σ) (operate : σ → B → σ) (entry : Entry R L)
    (view : σ → D) (apply : D → L → Except ε' D) (operateOn : D → B → D) : Prop where
  entered : ∀ tr e s r s' l, h tr e s = .ok (r, s') → entry tr e = some l →
    apply (view s) l = .ok (view s')
  silent : ∀ tr e s r s', h tr e s = .ok (r, s') → entry tr e = none → view s' = view s
  operated : ∀ s b, view (operate s b) = operateOn (view s) b

theorem commitLog_replays {ε' : Type} {view : σ → D} {apply : D → L → Except ε' D}
    {operateOn : D → B → D} (hp : Publishes h operate entry view apply operateOn)
    (program : C → Code R ε α) (w : World R ε α C σ) (as : List (Action C ⊕ B)) :
    (commitLog program h operate entry w as).foldlM (replayEntry apply operateOn) (view w.shared) =
      .ok (view (run (stepWith program h operate) w as).shared) := by
  induction as using List.reverseRecOn with
  | nil => rfl
  | append_singleton as a ih =>
    have hlast : run (stepWith program h operate) w (as ++ [a]) =
        stepWith program h operate (run (stepWith program h operate) w as) a := by simp
    rw [commitLog_snoc, List.foldlM_append, ih, hlast]
    generalize run (stepWith program h operate) w as = v
    show List.foldlM _ (view v.shared) (enters h entry v a) = _
    rcases stepWith_cases program h operate entry v a with ⟨b, -, he, hlog⟩ | ⟨he, hlog⟩ |
      ⟨tid, call, -, he, hlog⟩ | ⟨tid, call, tr, e, next, r, s', -, hr, he, hlog⟩ |
      ⟨tid, call, tr, e, next, err, -, -, he, hlog⟩
    all_goals rw [he, hlog]
    · exact congrArg Except.ok (hp.operated v.shared b).symm
    · rfl
    · rfl
    · cases hentry : entry tr e with
      | none => exact congrArg Except.ok (hp.silent tr e v.shared r s' hr hentry).symm
      | some l =>
        have happly := hp.entered tr e v.shared r s' l hr hentry
        show (replayEntry apply operateOn (view v.shared) (.inl (tid, l)) >>= fun d => pure d) = _
        rw [replayEntry, happly]
        rfl
    · rfl

/-- The operations of the log are those of the run. -/
theorem operations_commitLog (w : World R ε α C σ) (as : List (Action C ⊕ B)) :
    (commitLog program h operate entry w as).filterMap Sum.getRight? = as.filterMap Sum.getRight? := by
  induction as using List.reverseRecOn with
  | nil => rfl
  | append_singleton as a ih =>
    rw [commitLog_snoc, List.filterMap_append, List.filterMap_append, ih]
    congr 1
    rcases a with (_ | tid) | b
    · rfl
    · simp only [enters]
      split
      · split
        · cases entry _ _ <;> rfl
        · rfl
      · rfl
    · rfl

/-- The entries of a coroutine are those of its trace. -/
theorem entriesOf_commitLog (s : σ) (as : List (Action C ⊕ B)) (tid : Nat) :
    entriesOf tid (commitLog program h operate entry (World.quiet s) as) =
      ((run (stepWith program h operate) (World.quiet s) as).tasks tid).elim []
        fun task => published entry task.trace := by
  induction as using List.reverseRecOn with
  | nil => rfl
  | append_singleton as a ih =>
    have hlast : run (stepWith program h operate) (World.quiet s) (as ++ [a]) =
        stepWith program h operate (run (stepWith program h operate) (World.quiet s) as) a := by simp
    rw [commitLog_snoc, entriesOf_append, ih, hlast]
    generalize run (stepWith program h operate) (World.quiet s) as = v
    rcases stepWith_cases program h operate entry v a with ⟨b, -, he, hlog⟩ | ⟨he, hlog⟩ |
      ⟨i, call, hi, he, hlog⟩ | ⟨i, call, tr, e, next, r, s', hi, -, he, hlog⟩ |
      ⟨i, call, tr, e, next, err, hi, -, he, hlog⟩
    all_goals rw [he, hlog]
    · simp [entriesOf]
    · simp
    all_goals
      simp only [tasks_setTask, entriesOf_nil, List.append_nil]
      by_cases htid : tid = i
    · subst htid
      simp [hi]
    · rw [if_neg htid]
    · subst htid
      simp [entriesOf_own, hi]
    · rw [entriesOf_own, if_neg (Ne.symm htid), if_neg htid, List.append_nil]
    · subst htid
      simp [hi]
    · rw [if_neg htid]

/-! ## The coroutines of a run -/

/-- Every coroutine is at a point of its outline, or an effect that it came to has raised in it. -/
def Charted (ok : C → Trace R → E → Prop) (fin : C → Trace R → Except ε α → Prop)
    (w : World R ε α C σ) : Prop :=
  ∀ tid task, w.tasks tid = some task →
    Safe (ok task.call) (fin task.call) task.trace task.code ∨
      (∃ err, task.code = done (.error err)) ∧ ∃ e, ok task.call task.trace e

section

variable {ok : C → Trace R → E → Prop} {fin : C → Trace R → Except ε α → Prop}

theorem Charted.outlined (hw : Charted ok fin w) : Outlined ok fin w :=
  fun tid task ht => (hw tid task ht).imp_right fun h => h.1

theorem stepWith_charted (hprogram : ∀ call, Safe (ok call) (fin call) [] (program call))
    (hw : Charted ok fin w) (a : Action C ⊕ B) : Charted ok fin (stepWith program h operate w a) := by
  intro i task htask
  rcases stepWith_cases (L := Unit) program h operate (fun _ _ => none) w a with ⟨b, -, he, -⟩ |
    ⟨he, -⟩ | ⟨tid, call, -, he, -⟩ | ⟨tid, call, tr, e, next, r, s', ht, -, he, -⟩ |
    ⟨tid, call, tr, e, next, err, ht, -, he, -⟩
  all_goals rw [he] at htask
  · exact hw i task htask
  · exact hw i task htask
  all_goals
    simp only [tasks_setTask] at htask
    split at htask
  · cases htask
    exact .inl (hprogram call)
  · exact hw i task htask
  · cases htask
    exact .inl ((hw.outlined.awaits ht).2 r)
  · exact hw i task htask
  · cases htask
    exact .inr ⟨⟨err, rfl⟩, e, (hw.outlined.awaits ht).1⟩
  · exact hw i task htask

theorem runWith_charted (hprogram : ∀ call, Safe (ok call) (fin call) [] (program call)) (s : σ)
    (as : List (Action C ⊕ B)) :
    Charted ok fin (run (stepWith program h operate) (World.quiet s) as) := by
  refine run_invariant (I := Charted ok fin) (fun _ a hw => stepWith_charted hprogram hw a) ?_ as
  intro tid task htask
  cases htask

end

/-- A reply in a trace was given by the handler at an earlier moment of the run, when the coroutine
was at this effect. -/
theorem answered_at {s : σ} {as : List (Action C ⊕ B)} {tid : Nat} {task : Task R ε α C}
    {tr rest : Trace R} {e : E} {r : R e}
    (ht : (run (stepWith program h operate) (World.quiet s) as).tasks tid = some task)
    (hr : task.trace = tr ++ ⟨e, r⟩ :: rest) :
    ∃ pre a next, pre ++ [a] <+: as ∧
      (run (stepWith program h operate) (World.quiet s) pre).tasks tid =
        some ⟨task.call, tr, await e next⟩ ∧
      h tr e (run (stepWith program h operate) (World.quiet s) pre).shared =
        .ok (r, (run (stepWith program h operate) (World.quiet s) (pre ++ [a])).shared) := by
  induction as using List.reverseRecOn generalizing tid task rest with
  | nil => cases ht
  | append_singleton as a ih =>
    have hlater : ∀ {tid task rest}, (run (stepWith program h operate) (World.quiet s) as).tasks tid =
        some task → task.trace = tr ++ ⟨e, r⟩ :: rest → ∃ pre b next, pre ++ [b] <+: as ++ [a] ∧
          (run (stepWith program h operate) (World.quiet s) pre).tasks tid =
            some ⟨task.call, tr, await e next⟩ ∧
          h tr e (run (stepWith program h operate) (World.quiet s) pre).shared =
            .ok (r, (run (stepWith program h operate) (World.quiet s) (pre ++ [b])).shared) := by
      intro tid task rest ht hm
      obtain ⟨pre, b, next, hpre, hreply⟩ := ih ht hm
      exact ⟨pre, b, next, hpre.trans (List.prefix_append as [a]), hreply⟩
    have hlast : run (stepWith program h operate) (World.quiet s) (as ++ [a]) =
        stepWith program h operate (run (stepWith program h operate) (World.quiet s) as) a := by simp
    rw [hlast] at ht
    rcases stepWith_cases (L := Unit) program h operate (fun _ _ => none)
      (run (stepWith program h operate) (World.quiet s) as) a with ⟨b, -, he, -⟩ | ⟨he, -⟩ |
      ⟨i, call, hi, he, -⟩ | ⟨i, call, tr', e', next, r', s', hi, hh, he, -⟩ |
      ⟨i, call, tr', e', next, err, hi, -, he, -⟩
    all_goals rw [he] at ht
    · exact hlater ht hr
    · exact hlater ht hr
    all_goals
      simp only [tasks_setTask] at ht
      split at ht
    · cases ht
      simp at hr
    · exact hlater ht hr
    · rename_i htid
      subst htid
      cases ht
      rcases List.eq_nil_or_concat rest with rfl | ⟨rest, x, rfl⟩
      · obtain ⟨rfl, hx⟩ := List.append_inj' hr rfl
        cases hx
        refine ⟨as, a, next, List.prefix_refl _, hi, ?_⟩
        rw [hlast, he]
        exact hh
      · have hsnoc : tr' ++ [⟨e', r'⟩] = (tr ++ ⟨e, r⟩ :: rest) ++ [x] := by simpa using hr
        have hearlier := hlater hi (List.append_inj_left' hsnoc rfl)
        exact hearlier
    · exact hlater ht hr
    · rename_i htid
      subst htid
      cases ht
      have hearlier := hlater hi hr
      exact hearlier
    · exact hlater ht hr

end

end Async
