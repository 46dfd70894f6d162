import Mathlib.Logic.Basic

/-!
# Programs that act and may fail

`Logged τ ε α` is a computation that ends with a value or an error and keeps a list
of what it did; what was done before an error stays in the list.  `Spec x P Q` says
that every action satisfies `P`, and that a value comes with a list that satisfies
`Q`.  The rules follow the way a program is put together (`Spec.bind`).
-/

universe u

structure Logged (τ ε : Type*) (α : Type u) where
  log : List τ
  result : Except ε α

namespace Logged

variable {τ ε ε' : Type*} {α β : Type u}

/-- A step that does nothing to the world. -/
def ofExcept (r : Except ε α) : Logged τ ε α := ⟨[], r⟩

def throw (e : ε) : Logged τ ε α := ⟨[], .error e⟩

/-- Do `t`. -/
def act (t : τ) : Logged τ ε Unit := ⟨[t], .ok ()⟩

/-- Continue after a value; an error ends the program. -/
def andThen (x : Logged τ ε α) (f : α → Logged τ ε β) : Logged τ ε β :=
  match x.result with
  | .ok a => ⟨x.log ++ (f a).log, (f a).result⟩
  | .error e => ⟨x.log, .error e⟩

instance : Monad (Logged τ ε) where
  pure a := ⟨[], .ok a⟩
  bind := andThen

/-- `map_err(f)` -/
def mapError (f : ε → ε') (x : Logged τ ε α) : Logged τ ε' α := ⟨x.log, x.result.mapError f⟩

/-- Every action satisfies `P`, and a value comes with a log that satisfies `Q`. -/
structure Spec (x : Logged τ ε α) (P : τ → Prop) (Q : List τ → α → Prop) : Prop where
  actions : ∀ t ∈ x.log, P t
  value : ∀ a, x.result = .ok a → Q x.log a

variable {P : τ → Prop} {Q Q' : List τ → α → Prop} {R : List τ → β → Prop}

theorem Spec.imp {x : Logged τ ε α} (h : Spec x P Q) (hq : ∀ l a, Q l a → Q' l a) : Spec x P Q' :=
  ⟨h.actions, fun a ha => hq _ _ (h.value a ha)⟩

theorem Spec.pure {a : α} (h : Q [] a) : Spec (Pure.pure a : Logged τ ε α) P Q where
  actions _ ht := absurd ht List.not_mem_nil
  value b hb := by
    cases hb
    exact h

theorem Spec.throw (e : ε) : Spec (Logged.throw e : Logged τ ε α) P Q where
  actions _ ht := absurd ht List.not_mem_nil
  value a ha := by cases ha

theorem Spec.ofExcept {r : Except ε α} (h : ∀ a, r = .ok a → Q [] a) :
    Spec (Logged.ofExcept r : Logged τ ε α) P Q where
  actions _ ht := absurd ht List.not_mem_nil
  value := h

theorem Spec.act {t : τ} {Q : List τ → Unit → Prop} (hp : P t) (hq : Q [t] ()) :
    Spec (Logged.act t : Logged τ ε Unit) P Q where
  actions t' ht' := by
    rw [List.mem_singleton.mp ht']
    exact hp
  value _ _ := hq

/-- What a sequence has done: the first program, and the rest if that gave a value. -/
theorem log_bind (x : Logged τ ε α) (f : α → Logged τ ε β) :
    (∃ a, x.result = .ok a ∧ (x >>= f).log = x.log ++ (f a).log) ∨ (x >>= f).log = x.log := by
  show (∃ a, x.result = .ok a ∧ (x.andThen f).log = x.log ++ (f a).log) ∨ (x.andThen f).log = x.log
  unfold andThen
  cases hr : x.result with
  | ok a => exact .inl ⟨a, rfl, rfl⟩
  | error e => exact .inr rfl

/-- **Sequencing.** -/
theorem Spec.bind {x : Logged τ ε α} {f : α → Logged τ ε β} (hx : Spec x P Q)
    (hf : ∀ l a, Q l a → Spec (f a) P (fun l' b => R (l ++ l') b)) : Spec (x >>= f) P R := by
  show Spec (x.andThen f) P R
  unfold andThen
  cases hr : x.result with
  | ok a =>
    have hfa := hf x.log a (hx.value a hr)
    refine ⟨fun t ht => ?_, hfa.value⟩
    rcases List.mem_append.mp ht with ht | ht
    · exact hx.actions t ht
    · exact hfa.actions t ht
  | error e => exact ⟨hx.actions, fun b hb => by cases hb⟩

/-- A step that does nothing to the world, and the rest. -/
theorem Spec.read {r : Except ε α} {f : α → Logged τ ε β} (h : ∀ a, r = .ok a → Spec (f a) P R) :
    Spec (Logged.ofExcept r >>= f) P R :=
  Spec.bind (Q := fun l a => l = [] ∧ r = .ok a) (.ofExcept fun _ ha => ⟨rfl, ha⟩) (by
    rintro l a ⟨rfl, ha⟩
    exact h a ha)

/-- An action, and the rest. -/
theorem Spec.doing {γ : Type} {t : τ} {f : Unit → Logged τ ε γ} {R : List τ → γ → Prop} (hp : P t)
    (h : Spec (f ()) P (fun l b => R (t :: l) b)) : Spec (Logged.act t >>= f) P R :=
  Spec.bind (Q := fun l _ => l = [t]) (.act hp rfl) (by
    rintro l _ rfl
    exact h)

theorem Spec.mapError {x : Logged τ ε α} (h : Spec x P Q) (f : ε → ε') : Spec (x.mapError f) P Q where
  actions := h.actions
  value a ha := by
    refine h.value a ?_
    unfold Logged.mapError at ha
    cases hr : x.result with
    | ok b =>
      rw [hr] at ha
      cases ha
      rfl
    | error e =>
      rw [hr] at ha
      cases ha

end Logged
