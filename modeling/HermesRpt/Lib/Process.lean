import Mathlib.Data.List.Forall2
import Mathlib.Logic.Basic
import Mathlib.Tactic.Common

/-!
# HermesRpt.Lib.Process

Code with effects that may raise. A raise keeps the effects before it, unlike in a transaction.

* `Process σ ε α` : from a state, what the code returns or raises, and the state it leaves.
* `Spec J T x`    : from a state that meets `J`, `x` leaves a state that meets `J`, and what it
  returns or raises meets `T`, whatever the state.

`RaisesOnly E x` is about code without effects: what it raises meets `E`.

The rules of `Spec` follow the code. `Keeps` and `Computes` are its two uses: a process that only
returns values of a kind, and one whose result does not depend on the state.
-/

namespace Effect

variable {σ ε α β : Type}

theorem except_bind_ok {x : Except ε α} {f : α → Except ε β} {b : β} :
    (x >>= f) = .ok b ↔ ∃ a, x = .ok a ∧ f a = .ok b := by
  cases x <;> simp [bind, Except.bind]

theorem except_ok_bind (a : α) (f : α → Except ε β) : (Except.ok a >>= f) = f a := rfl

theorem except_pure_ok {a b : α} : (pure a : Except ε α) = .ok b ↔ a = b := by
  simp [pure, Except.pure]

theorem except_bind_congr {x : Except ε α} {f g : α → Except ε β}
    (h : ∀ a, x = .ok a → f a = g a) : (x >>= f) = (x >>= g) := by
  cases x with
  | error e => rfl
  | ok a => exact h a rfl

/-- A loop that succeeds gives one result for each element, in order. -/
theorem except_mapM_ok {f : α → Except ε β} {l : List α} {l' : List β} :
    l.mapM f = .ok l' ↔ List.Forall₂ (fun a b => f a = .ok b) l l' := by
  induction l generalizing l' with
  | nil =>
    rw [List.mapM_nil, except_pure_ok, List.forall₂_nil_left_iff, eq_comm]
  | cons a l ih =>
    rw [List.mapM_cons]
    simp only [except_bind_ok, except_pure_ok, ih, List.forall₂_cons_left_iff]
    constructor
    · rintro ⟨b, hb, bs, hbs, rfl⟩; exact ⟨b, bs, hb, hbs, rfl⟩
    · rintro ⟨b, bs, hb, hbs, rfl⟩; exact ⟨b, hb, bs, hbs, rfl⟩

theorem except_mapM_congr {f g : α → Except ε β} {l : List α} (h : ∀ a ∈ l, f a = g a) :
    l.mapM f = l.mapM g := by
  induction l with
  | nil => rfl
  | cons a l ih => rw [List.mapM_cons, List.mapM_cons, h a (by simp), ih fun b hb => h b (by simp [hb])]

/-- When a second loop gives what a first one gives, pass by pass. -/
theorem except_mapM_congr_iff {γ : Type} {f : α → Except ε γ} {g : β → Except ε γ}
    {R P : α → β → Prop} {l₁ : List α} {l₂ : List β} {l' : List γ} (hl : List.Forall₂ R l₁ l₂)
    (h : l₁.mapM f = .ok l') (hiff : ∀ a b c, R a b → f a = .ok c → (g b = .ok c ↔ P a b)) :
    l₂.mapM g = .ok l' ↔ List.Forall₂ P l₁ l₂ := by
  rw [except_mapM_ok] at h ⊢
  induction hl generalizing l' with
  | nil =>
    cases h
    simp
  | cons hab _ ih =>
    cases h with
    | cons ha h =>
      rw [List.forall₂_cons, List.forall₂_cons, hiff _ _ _ hab ha, ih h]

/-- A loop after a loop is one loop, as far as it succeeds. -/
theorem except_mapM_mapM_ok {γ : Type} {f : α → Except ε β} {g : β → Except ε γ} {l : List α}
    {l' : List γ} :
    (∃ bs, l.mapM f = .ok bs ∧ bs.mapM g = .ok l') ↔ l.mapM (fun a => f a >>= g) = .ok l' := by
  simp only [except_mapM_ok]
  constructor
  · rintro ⟨bs, hf, hg⟩
    induction hf generalizing l' with
    | nil =>
      cases hg
      exact .nil
    | cons ha _ ih =>
      cases hg with
      | cons hb hg => exact .cons (except_bind_ok.2 ⟨_, ha, hb⟩) (ih hg)
  · intro h
    induction h with
    | nil => exact ⟨[], .nil, .nil⟩
    | cons hab _ ih =>
      obtain ⟨b, ha, hb⟩ := except_bind_ok.1 hab
      obtain ⟨bs, hf, hg⟩ := ih
      exact ⟨b :: bs, .cons ha hf, .cons hb hg⟩

theorem except_mapM_mem {f : α → Except ε β} {l : List α} {l' : List β} (h : l.mapM f = .ok l')
    {a : α} (ha : a ∈ l) : ∃ b, f a = .ok b := by
  obtain ⟨i, hi, rfl⟩ := List.getElem_of_mem ha
  have hpasses := except_mapM_ok.1 h
  exact ⟨_, hpasses.get hi (hpasses.length_eq ▸ hi)⟩

/-- What the passes of a loop that succeeds give, as a function. -/
theorem except_mapM_exists [Inhabited β] {f : α → Except ε β} {l : List α} {l' : List β} :
    l.mapM f = .ok l' ↔ ∃ g : α → β, (∀ a ∈ l, f a = .ok (g a)) ∧ l' = l.map g := by
  constructor
  · intro h
    have hall : ∀ a ∈ l, ∃ b, f a = .ok b := fun a ha => except_mapM_mem h ha
    choose! g hg using hall
    refine ⟨g, hg, ?_⟩
    have hmap : l.mapM f = .ok (l.map g) := by
      rw [except_mapM_ok, List.forall₂_map_right_iff]
      exact List.forall₂_same.2 hg
    exact Except.ok.inj (h.symm.trans hmap)
  · rintro ⟨g, hg, rfl⟩
    rw [except_mapM_ok, List.forall₂_map_right_iff]
    exact List.forall₂_same.2 hg

/-- A loop that collects what each pass gives. -/
theorem except_foldlM_append [Inhabited β] {γ : Type} {f : α → Except ε β} {g : α → β → List γ}
    {l : List α} {init res : List γ} :
    l.foldlM (fun acc a => do return acc ++ g a (← f a)) init = .ok res ↔
      ∃ h : α → β, (∀ a ∈ l, f a = .ok (h a)) ∧ res = init ++ l.flatMap fun a => g a (h a) := by
  have hloop : ∀ (h : α → β) init, (∀ a ∈ l, f a = .ok (h a)) →
      l.foldlM (fun acc a => do return acc ++ g a (← f a)) init =
        .ok (init ++ l.flatMap fun a => g a (h a)) := by
    intro h init hf
    induction l generalizing init with
    | nil =>
      rw [List.flatMap_nil, List.append_nil]
      rfl
    | cons a l ih =>
      rw [List.foldlM_cons, hf a (by simp), List.flatMap_cons, ← List.append_assoc]
      exact ih _ fun b hb => hf b (by simp [hb])
  constructor
  · intro hok
    have hall : ∀ a ∈ l, ∃ b, f a = .ok b := by
      clear hloop
      induction l generalizing init with
      | nil => simp
      | cons a l ih =>
        rw [List.foldlM_cons] at hok
        obtain ⟨acc, hacc, hok⟩ := except_bind_ok.1 hok
        obtain ⟨b, hb, -⟩ := except_bind_ok.1 hacc
        intro c hc
        rcases List.mem_cons.1 hc with rfl | hc
        · exact ⟨b, hb⟩
        · exact ih hok c hc
    choose! h hf using hall
    exact ⟨h, hf, Except.ok.inj (hok.symm.trans (hloop h init hf))⟩
  · rintro ⟨h, hf, rfl⟩
    exact hloop h init hf

/-- A loop that succeeds keeps what each pass keeps. -/
theorem except_foldlM_ok {γ : Type} {P : α → Prop} {f : α → γ → Except ε α} {l : List γ}
    (hf : ∀ a c b, c ∈ l → P a → f a c = .ok b → P b) {a b : α} (ha : P a)
    (h : l.foldlM f a = .ok b) : P b := by
  induction l generalizing a with
  | nil =>
    cases h
    exact ha
  | cons c l ih =>
    rw [List.foldlM_cons] at h
    obtain ⟨a', ha', h⟩ := except_bind_ok.1 h
    exact ih (fun a c b hc => hf a c b (by simp [hc])) (hf a c a' (by simp) ha ha') h

/-- A loop succeeds when its passes do, if what it has gathered decides none of them. -/
theorem except_foldlM_succeeds {γ : Type} {P : γ → Prop} {f : α → γ → Except ε α} {l : List γ}
    (hf : ∀ a, ∀ c ∈ l, (∃ b, f a c = .ok b) ↔ P c) (a : α) :
    (∃ b, l.foldlM f a = .ok b) ↔ ∀ c ∈ l, P c := by
  induction l generalizing a with
  | nil => simp [pure, Except.pure]
  | cons c l ih =>
    have htail := ih fun b d hd => hf b d (by simp [hd])
    rw [List.foldlM_cons, List.forall_mem_cons]
    constructor
    · rintro ⟨b, h⟩
      obtain ⟨a', ha', h⟩ := except_bind_ok.1 h
      exact ⟨(hf a c (by simp)).1 ⟨a', ha'⟩, (htail a').1 ⟨b, h⟩⟩
    · rintro ⟨hc, hl⟩
      obtain ⟨a', ha'⟩ := (hf a c (by simp)).2 hc
      rw [ha', except_ok_bind]
      exact (htail a').2 hl

theorem except_foldlM_congr {γ : Type} {f g : α → γ → Except ε α} {l : List γ}
    (h : ∀ a, ∀ c ∈ l, f a c = g a c) (a : α) : l.foldlM f a = l.foldlM g a := by
  induction l generalizing a with
  | nil => rfl
  | cons c l ih =>
    rw [List.foldlM_cons, List.foldlM_cons, h a c (by simp)]
    congr 1
    funext b
    exact ih (fun a c hc => h a c (by simp [hc])) b

/-- Two results that raise the same or return related values. -/
inductive Related (R : α → β → Prop) : Except ε α → Except ε β → Prop
  | error (e : ε) : Related R (.error e) (.error e)
  | ok {a : α} {b : β} (h : R a b) : Related R (.ok a) (.ok b)

theorem Related.of_eq {R : α → α → Prop} (hrefl : ∀ a, R a a) {x y : Except ε α} (h : x = y) :
    Related R x y := by
  subst h
  cases x with
  | error e => exact .error e
  | ok a => exact .ok (hrefl a)

theorem Related.bind {γ δ : Type} {R : α → β → Prop} {S : γ → δ → Prop} {x : Except ε α}
    {y : Except ε β} {f : α → Except ε γ} {g : β → Except ε δ} (h : Related R x y)
    (hbind : ∀ a b, R a b → Related S (f a) (g b)) : Related S (x >>= f) (y >>= g) := by
  cases h with
  | error e => exact .error e
  | ok hab => exact hbind _ _ hab

theorem Related.eq_map {f : α → β} {x : Except ε α} {y : Except ε β}
    (h : Related (fun a b => b = f a) x y) : y = x.map f := by
  cases h with
  | error e => rfl
  | ok heq =>
    rw [heq]
    rfl

/-- What is raised, if anything is, meets `E`. -/
def RaisesOnly (E : ε → Prop) (x : Except ε α) : Prop := ∀ e, x = .error e → E e

namespace RaisesOnly

variable {E : ε → Prop}

theorem ok (a : α) : RaisesOnly E (.ok a) := by
  intro e h
  cases h

theorem error {e : ε} (h : E e) : RaisesOnly E (.error e : Except ε α) := by
  intro e' h'
  cases h'
  exact h

theorem bind {x : Except ε α} {f : α → Except ε β} (hx : RaisesOnly E x)
    (hf : ∀ a, x = .ok a → RaisesOnly E (f a)) : RaisesOnly E (x >>= f) := by
  cases x with
  | error e => exact error (hx e rfl)
  | ok a => exact hf a rfl

theorem mapM {f : α → Except ε β} {l : List α} (hf : ∀ a ∈ l, RaisesOnly E (f a)) :
    RaisesOnly E (l.mapM f) := by
  induction l with
  | nil => exact ok []
  | cons a l ih =>
    rw [List.mapM_cons]
    refine (hf a (by simp)).bind fun b _ => ?_
    exact (ih fun a' ha' => hf a' (by simp [ha'])).bind fun bs _ => ok (b :: bs)

theorem foldlM {γ : Type} {f : α → γ → Except ε α} {l : List γ}
    (hf : ∀ a, ∀ c ∈ l, RaisesOnly E (f a c)) (a : α) : RaisesOnly E (l.foldlM f a) := by
  induction l generalizing a with
  | nil => exact ok a
  | cons c l ih =>
    rw [List.foldlM_cons]
    exact (hf a c (by simp)).bind fun b _ => ih (fun a' c' hc' => hf a' c' (by simp [hc'])) b

end RaisesOnly

def Process (σ ε α : Type) := σ → Except ε α × σ

namespace Process

protected def pure (a : α) : Process σ ε α := fun s => (.ok a, s)

protected def bind (x : Process σ ε α) (f : α → Process σ ε β) : Process σ ε β := fun s =>
  match x s with
  | (.ok a, s') => f a s'
  | (.error e, s') => (.error e, s')

instance : Monad (Process σ ε) where
  pure := Process.pure
  bind := Process.bind

/-- A computation without effects. -/
def lift (x : Except ε α) : Process σ ε α := fun s => (x, s)

def raise (e : ε) : Process σ ε α := fun s => (.error e, s)

def modify (f : σ → σ) : Process σ ε Unit := fun s => (.ok (), f s)

/-- A computation that reads and replaces the state; it raises without replacing it. -/
def update (f : σ → Except ε (α × σ)) : Process σ ε α := fun s =>
  match f s with
  | .ok (a, s') => (.ok a, s')
  | .error e => (.error e, s)

/-- `try: … except … as e: handler(e); raise` -/
def onRaise (x : Process σ ε α) (handler : ε → Process σ ε Unit) : Process σ ε α := fun s =>
  match x s with
  | (.ok a, s') => (.ok a, s')
  | (.error e, s') => match handler e s' with
    | (.ok _, s'') => (.error e, s'')
    | (.error e', s'') => (.error e', s'')

/-- `try: return x except E as e: return handler(e)` -/
def orElse (x : Process σ ε α) (handler : ε → Process σ ε α) : Process σ ε α := fun s =>
  match x s with
  | (.ok a, s') => (.ok a, s')
  | (.error e, s') => handler e s'

theorem bind_ok {x : Process σ ε α} {f : α → Process σ ε β} {s s' : σ} {a : α}
    (h : x s = (.ok a, s')) : (x >>= f) s = f a s' := by
  show Process.bind x f s = f a s'
  rw [Process.bind, h]

theorem bind_eq_ok {x : Process σ ε α} {f : α → Process σ ε β} {s s' : σ} {b : β} :
    (x >>= f) s = (.ok b, s') ↔ ∃ a s₁, x s = (.ok a, s₁) ∧ f a s₁ = (.ok b, s') := by
  show Process.bind x f s = (.ok b, s') ↔ _
  rw [Process.bind]
  rcases x s with ⟨r, s₁⟩
  cases r <;> simp

theorem pure_eq_ok {s s' : σ} {a b : α} :
    (pure a : Process σ ε α) s = (.ok b, s') ↔ b = a ∧ s' = s := by
  show ((.ok a : Except ε α), s) = (.ok b, s') ↔ _
  rw [Prod.mk.injEq, Except.ok.injEq, eq_comm, eq_comm (a := s)]

theorem lift_eq_ok {r : Except ε α} {s s' : σ} {a : α} :
    lift r s = (.ok a, s') ↔ r = .ok a ∧ s' = s := by
  rw [lift, Prod.mk.injEq, eq_comm (a := s)]

/-- A handler that raises again has nothing to do with a run that returns. -/
theorem onRaise_eq_ok {x : Process σ ε α} {handler : ε → Process σ ε Unit} {s s' : σ} {a : α} :
    x.onRaise handler s = (.ok a, s') ↔ x s = (.ok a, s') := by
  rw [onRaise]
  rcases x s with ⟨r, s₁⟩
  cases r with
  | ok b => rfl
  | error e =>
    rcases h : handler e s₁ with ⟨r', s₂⟩
    cases r' <;> simp [h]

theorem bind_eq_error {x : Process σ ε α} {f : α → Process σ ε β} {s s' : σ} {e : ε} :
    (x >>= f) s = (.error e, s') ↔
      x s = (.error e, s') ∨ ∃ a s₁, x s = (.ok a, s₁) ∧ f a s₁ = (.error e, s') := by
  show Process.bind x f s = (.error e, s') ↔ _
  rw [Process.bind]
  rcases x s with ⟨r, s₁⟩
  cases r <;> simp

theorem orElse_eq_ok {x : Process σ ε α} {handler : ε → Process σ ε α} {s s' : σ} {a : α} :
    x.orElse handler s = (.ok a, s') ↔
      x s = (.ok a, s') ∨ ∃ e s₁, x s = (.error e, s₁) ∧ handler e s₁ = (.ok a, s') := by
  rw [orElse]
  rcases x s with ⟨r, s₁⟩
  cases r <;> simp

theorem bind_error {x : Process σ ε α} {f : α → Process σ ε β} {s s' : σ} {e : ε}
    (h : x s = (.error e, s')) : (x >>= f) s = (.error e, s') := by
  show Process.bind x f s = (.error e, s')
  rw [Process.bind, h]

end Process

open Process

def Spec (J : σ → Prop) (T : Except ε α → Prop) (x : Process σ ε α) : Prop :=
  ∀ s, J s → J (x s).2 ∧ T (x s).1

/-- `x` keeps `J` and returns only values of `T`. -/
def Keeps (J : σ → Prop) (T : α → Prop) (x : Process σ ε α) : Prop :=
  Spec J (fun r => ∀ a, r = .ok a → T a) x

/-- `x` keeps `J`, and returns or raises `r` from every state that meets it. -/
def Computes (J : σ → Prop) (x : Process σ ε α) (r : Except ε α) : Prop := Spec J (· = r) x

section Rules

variable {J : σ → Prop} {T : α → Prop} {U : β → Prop} {x : Process σ ε α} {f : α → Process σ ε β}

theorem Spec.bind {T : Except ε α → Prop} {U : Except ε β → Prop} (hx : Spec J T x)
    (hf : ∀ a, T (.ok a) → Spec J U (f a)) (he : ∀ e, T (.error e) → U (.error e)) :
    Spec J U (x >>= f) := by
  intro s hs
  have h := hx s hs
  show J (Process.bind x f s).2 ∧ U (Process.bind x f s).1
  unfold Process.bind
  rcases hr : x s with ⟨r, s'⟩
  rw [hr] at h
  cases r with
  | ok a => exact hf a h.2 s' h.1
  | error e => exact ⟨h.1, he e h.2⟩

/-! ## What is kept -/

theorem Keeps.pure {a : α} (h : T a) : Keeps J T (pure a : Process σ ε α) := by
  intro s hs
  refine ⟨hs, fun b hb => ?_⟩
  cases hb; exact h

theorem Keeps.lift {r : Except ε α} (h : ∀ a, r = .ok a → T a) : Keeps J T (Process.lift r) :=
  fun _ hs => ⟨hs, h⟩

theorem Keeps.lifted (r : Except ε α) : Keeps J (fun _ => True) (Process.lift r) :=
  .lift fun _ _ => trivial

theorem Keeps.returned (a : α) : Keeps J (fun _ => True) (Pure.pure a : Process σ ε α) :=
  .pure trivial

theorem Keeps.raise (e : ε) : Keeps J T (Process.raise e : Process σ ε α) :=
  fun _ hs => ⟨hs, fun _ h => by cases h⟩

theorem Keeps.modify {g : σ → σ} {T : Unit → Prop} (hg : ∀ s, J s → J (g s)) (hT : T ()) :
    Keeps J T (Process.modify g : Process σ ε Unit) :=
  fun s hs => ⟨hg s hs, fun _ _ => hT⟩

theorem Keeps.bind (hx : Keeps J T x) (hf : ∀ a, T a → Keeps J U (f a)) :
    Keeps J U (x >>= f) :=
  Spec.bind hx (fun a ha => hf a (ha a rfl)) fun _ _ _ h => by cases h

theorem Keeps.mono {T' : α → Prop} (hx : Keeps J T x) (h : ∀ a, T a → T' a) : Keeps J T' x :=
  fun s hs => ⟨(hx s hs).1, fun a ha => h a ((hx s hs).2 a ha)⟩

/-- A process followed by one that looks at nothing but its own state. -/
theorem Keeps.andThen (hx : Keeps J (fun _ => True) x) (hf : ∀ a, Keeps J U (f a)) :
    Keeps J U (x >>= f) := hx.bind fun a _ => hf a

theorem Keeps.onRaise {handler : ε → Process σ ε Unit} (hx : Keeps J T x)
    (hh : ∀ e, Keeps J (fun _ => True) (handler e)) : Keeps J T (x.onRaise handler) := by
  intro s hs
  have h := hx s hs
  unfold Process.onRaise
  rcases hr : x s with ⟨r, s'⟩
  rw [hr] at h
  cases r with
  | ok a => exact h
  | error e =>
    have h' := hh e s' h.1
    rcases hr' : handler e s' with ⟨r', s''⟩
    rw [hr'] at h'
    cases r' with
    | ok u => simp only [hr']; exact ⟨h'.1, fun _ hb => by cases hb⟩
    | error e' => simp only [hr']; exact ⟨h'.1, fun _ hb => by cases hb⟩

theorem Keeps.orElse {handler : ε → Process σ ε α} (hx : Keeps J T x)
    (hh : ∀ e, Keeps J T (handler e)) : Keeps J T (x.orElse handler) := by
  intro s hs
  have h := hx s hs
  unfold Process.orElse
  rcases hr : x s with ⟨r, s'⟩
  rw [hr] at h
  cases r with
  | ok a => exact h
  | error e => exact hh e s' h.1

/-- A loop keeps what every pass keeps. -/
theorem Keeps.foldlM {γ : Type} {g : α → γ → Process σ ε α} {l : List γ}
    (hg : ∀ a c, c ∈ l → T a → Keeps J T (g a c)) {a : α} (ha : T a) :
    Keeps J T (l.foldlM g a) := by
  induction l generalizing a with
  | nil => exact .pure ha
  | cons c l ih =>
    rw [List.foldlM_cons]
    exact (hg a c (by simp) ha).bind fun b hb => ih (fun a' c' hc' => hg a' c' (by simp [hc'])) hb

/-! ## What is computed -/

theorem Computes.ok {r : Except ε α} (h : Computes J x r) {s s' : σ} {a : α} (hs : J s)
    (hx : x s = (.ok a, s')) : r = .ok a ∧ J s' := by
  obtain ⟨hkept, hresult⟩ := h s hs
  rw [hx] at hkept hresult
  exact ⟨hresult.symm, hkept⟩

theorem Computes.lift (r : Except ε α) : Computes J (Process.lift r) r := fun _ hs => ⟨hs, rfl⟩

theorem Computes.pure (a : α) : Computes J (Pure.pure a : Process σ ε α) (.ok a) :=
  fun _ hs => ⟨hs, rfl⟩

theorem Computes.raise (e : ε) : Computes J (Process.raise e : Process σ ε α) (.error e) :=
  fun _ hs => ⟨hs, rfl⟩

theorem Computes.bind {r : Except ε α} {g : α → Except ε β} (hx : Computes J x r)
    (hf : ∀ a, r = .ok a → Computes J (f a) (g a)) : Computes J (x >>= f) (r >>= g) := by
  refine Spec.bind (T := (· = r)) hx ?_ ?_
  · rintro a rfl; exact hf a rfl
  · rintro e rfl; rfl

/-- A handler that only has effects does not change what is raised. -/
theorem Computes.onRaise {r : Except ε α} {handler : ε → Process σ ε Unit} (hx : Computes J x r)
    (hh : ∀ e, Computes J (handler e) (.ok ())) : Computes J (x.onRaise handler) r := by
  intro s hs
  have h := hx s hs
  unfold Process.onRaise
  rcases hr : x s with ⟨r', s'⟩
  rw [hr] at h
  cases r' with
  | ok a => exact h
  | error e =>
    have h' := hh e s' h.1
    rcases hr' : handler e s' with ⟨r'', s''⟩
    rw [hr'] at h'
    obtain ⟨hs'', rfl⟩ := h'
    simp only [hr']
    exact ⟨hs'', h.2⟩

theorem Computes.foldlM {γ : Type} {g : α → γ → Process σ ε α} {p : α → γ → Except ε α}
    {l : List γ} (hg : ∀ a c, c ∈ l → Computes J (g a c) (p a c)) (a : α) :
    Computes J (l.foldlM g a) (l.foldlM p a) := by
  induction l generalizing a with
  | nil => exact .pure a
  | cons c l ih =>
    rw [List.foldlM_cons, List.foldlM_cons]
    exact (hg a c (by simp)).bind fun b _ => ih (fun a' c' hc' => hg a' c' (by simp [hc'])) b

end Rules

end Effect
