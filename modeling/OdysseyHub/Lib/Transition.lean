import Mathlib.Logic.Basic

/-!
# Labelled transition systems: runs and conditions on their steps

`Exec step s tr` is a run from `s`; an entry of `tr` is a label and the state it
leads to.  `Always P` is a property of every state of a run, `StepsOk ok` a
condition on every step, read off the state before the step and its label.

    I s → (steps allowed by ok keep I) → StepsOk ok s tr → Always I s tr      (Exec.always)
    … and every other step breaks P → (Always P s tr ↔ StepsOk ok s tr)        (Exec.always_iff)

`ghost` adds a history variable that the steps update and never read.
-/

namespace Transition

variable {σ α : Type*}

/-- Runs from a state. -/
inductive Exec (step : σ → α → σ → Prop) : σ → List (α × σ) → Prop
  | nil (s : σ) : Exec step s []
  | cons {s s' : σ} {a : α} {tr : List (α × σ)} :
      step s a s' → Exec step s' tr → Exec step s ((a, s') :: tr)

/-- `P` holds in every state of the run. -/
def Always (P : σ → Prop) (s : σ) (tr : List (α × σ)) : Prop :=
  P s ∧ ∀ e ∈ tr, P e.2

/-- Every step of the run is one that `ok` allows. -/
def StepsOk (ok : σ → α → Prop) : σ → List (α × σ) → Prop
  | _, [] => True
  | s, (a, s') :: tr => ok s a ∧ StepsOk ok s' tr

@[simp] theorem always_nil (P : σ → Prop) (s : σ) : Always (α := α) P s [] ↔ P s := by
  simp [Always]

@[simp] theorem always_cons (P : σ → Prop) (s s' : σ) (a : α) (tr : List (α × σ)) :
    Always P s ((a, s') :: tr) ↔ P s ∧ Always P s' tr := by
  simp [Always]

@[simp] theorem stepsOk_nil (ok : σ → α → Prop) (s : σ) : StepsOk ok s [] := trivial

@[simp] theorem stepsOk_cons (ok : σ → α → Prop) (s s' : σ) (a : α) (tr : List (α × σ)) :
    StepsOk ok s ((a, s') :: tr) ↔ ok s a ∧ StepsOk ok s' tr := Iff.rfl

instance StepsOk.decidable {ok : σ → α → Prop} [∀ s a, Decidable (ok s a)] :
    ∀ (s : σ) (tr : List (α × σ)), Decidable (StepsOk ok s tr)
  | _, [] => isTrue trivial
  | s, (a, s') :: tr =>
    haveI : Decidable (StepsOk ok s' tr) := StepsOk.decidable s' tr
    inferInstanceAs (Decidable (ok s a ∧ StepsOk ok s' tr))

theorem Always.imp {P Q : σ → Prop} {s : σ} {tr : List (α × σ)} (h : Always P s tr)
    (hpq : ∀ t, P t → Q t) : Always Q s tr :=
  ⟨hpq s h.1, fun e he => hpq e.2 (h.2 e he)⟩

/-- A run every step of which is allowed: no condition at all. -/
theorem stepsOk_true (s : σ) (tr : List (α × σ)) : StepsOk (fun _ _ => True) s tr := by
  induction tr generalizing s with
  | nil => trivial
  | cons e tr ih => exact ⟨trivial, ih e.2⟩

theorem StepsOk.and {ok ok' : σ → α → Prop} {s : σ} {tr : List (α × σ)} (h : StepsOk ok s tr)
    (h' : StepsOk ok' s tr) : StepsOk (fun s a => ok s a ∧ ok' s a) s tr := by
  induction tr generalizing s with
  | nil => trivial
  | cons e tr ih => exact ⟨⟨h.1, h'.1⟩, ih h.2 h'.2⟩

variable {step : σ → α → σ → Prop}

/-- **Run rule.**  An invariant that the allowed steps keep holds throughout every
run made of allowed steps. -/
theorem Exec.always {I : σ → Prop} {ok : σ → α → Prop}
    (hstep : ∀ s a s', I s → ok s a → step s a s' → I s') {s : σ} {tr : List (α × σ)}
    (hrun : Exec step s tr) (hs : I s) (hok : StepsOk ok s tr) : Always I s tr := by
  induction hrun with
  | nil s => exact (always_nil I s).mpr hs
  | cons h _ ih =>
    rw [stepsOk_cons] at hok
    rw [always_cons]
    exact ⟨hs, ih (hstep _ _ _ hs hok.1 h) hok.2⟩

/-- The run rule without a condition on the steps. -/
theorem Exec.invariant {I : σ → Prop} (hstep : ∀ s a s', I s → step s a s' → I s') {s : σ}
    {tr : List (α × σ)} (hrun : Exec step s tr) (hs : I s) : Always I s tr :=
  hrun.always (fun s a s' hi (_ : True) h => hstep s a s' hi h) hs (stepsOk_true s tr)

/-- What the invariant and the condition on a step say together holds of every step. -/
theorem Exec.stepsOk {I : σ → Prop} {ok ok' : σ → α → Prop}
    (hstep : ∀ s a s', I s → ok s a → step s a s' → I s')
    (hcond : ∀ s a s', I s → ok s a → step s a s' → ok' s a) {s : σ} {tr : List (α × σ)}
    (hrun : Exec step s tr) (hs : I s) (hok : StepsOk ok s tr) : StepsOk ok' s tr := by
  induction hrun with
  | nil s => trivial
  | cons h _ ih =>
    rw [stepsOk_cons] at hok
    exact ⟨hcond _ _ _ hs hok.1 h, ih (hstep _ _ _ hs hok.1 h) hok.2⟩

/-- **Exactness.**  If moreover a step that `ok` does not allow ends outside `P`,
then `P` holds throughout a run exactly when all its steps are allowed. -/
theorem Exec.always_iff {I P : σ → Prop} {ok : σ → α → Prop} (hIP : ∀ s, I s → P s)
    (hstep : ∀ s a s', I s → ok s a → step s a s' → I s')
    (hbad : ∀ s a s', I s → step s a s' → P s' → ok s a) {s : σ} {tr : List (α × σ)}
    (hrun : Exec step s tr) (hs : I s) : Always P s tr ↔ StepsOk ok s tr := by
  constructor
  · intro hP
    induction hrun with
    | nil s => trivial
    | cons h _ ih =>
      rw [always_cons] at hP
      have hok := hbad _ _ _ hs h hP.2.1
      exact ⟨hok, ih (hstep _ _ _ hs hok h) hP.2⟩
  · intro hok
    exact (hrun.always hstep hs hok).imp hIP

/-- Conditions that agree on the steps of the system agree on its runs. -/
theorem Exec.stepsOk_iff {ok ok' : σ → α → Prop} (h : ∀ s a s', step s a s' → (ok s a ↔ ok' s a))
    {s : σ} {tr : List (α × σ)} (hrun : Exec step s tr) : StepsOk ok s tr ↔ StepsOk ok' s tr := by
  induction hrun with
  | nil s => exact Iff.rfl
  | cons hs _ ih => exact and_congr (h _ _ _ hs) ih

/-- A run whose states all satisfy `P`, as a run of the system restricted to `P`. -/
theorem Exec.restrict {P : σ → Prop} {s : σ} {tr : List (α × σ)} (hrun : Exec step s tr)
    (h : Always P s tr) : Exec (fun s a s' => step s a s' ∧ P s') s tr := by
  induction hrun with
  | nil s => exact .nil s
  | cons hs _ ih =>
    rw [always_cons] at h
    exact .cons ⟨hs, h.2.1⟩ (ih h.2)

/-- The state a run ends in. -/
def last : σ → List (α × σ) → σ
  | s, [] => s
  | _, (_, s') :: tr => last s' tr

theorem Always.last {P : σ → Prop} {s : σ} {tr : List (α × σ)} (h : Always P s tr) :
    P (last s tr) := by
  induction tr generalizing s with
  | nil => exact h.1
  | cons e tr ih => exact ih ((always_cons ..).mp h).2

/-! ## Refinement by a function -/

section
variable {τ β : Type*} {step' : τ → β → τ → Prop} {f : σ → τ} {g : α → β}

/-- The run of the abstract system under which a run is seen. -/
def image (f : σ → τ) (g : α → β) (tr : List (α × σ)) : List (β × τ) := tr.map fun e => (g e.1, f e.2)

/-- **Refinement.**  If steps are seen as steps, runs are seen as runs. -/
theorem Exec.refines (h : ∀ s a s', step s a s' → step' (f s) (g a) (f s')) {s : σ} {tr : List (α × σ)}
    (hrun : Exec step s tr) : Exec step' (f s) (image f g tr) := by
  induction hrun with
  | nil s => exact .nil (f s)
  | cons hs _ ih => exact .cons (h _ _ _ hs) ih

/-- … also where only an invariant makes them so. -/
theorem Exec.refines_of {I : σ → Prop} (hstep : ∀ s a s', I s → step s a s' → I s')
    (h : ∀ s a s', I s → step s a s' → step' (f s) (g a) (f s')) {s : σ} {tr : List (α × σ)}
    (hrun : Exec step s tr) (hs : I s) : Exec step' (f s) (image f g tr) := by
  induction hrun with
  | nil s => exact .nil (f s)
  | cons ha _ ih => exact .cons (h _ _ _ hs ha) (ih (hstep _ _ _ hs ha))

theorem always_image {P : τ → Prop} {s : σ} {tr : List (α × σ)} :
    Always P (f s) (image f g tr) ↔ Always (fun s => P (f s)) s tr := by
  unfold Always image
  rw [List.forall_mem_map]

theorem stepsOk_image {ok : τ → β → Prop} {s : σ} {tr : List (α × σ)} :
    StepsOk ok (f s) (image f g tr) ↔ StepsOk (fun s a => ok (f s) (g a)) s tr := by
  induction tr generalizing s with
  | nil => exact Iff.rfl
  | cons e tr ih => exact and_congr Iff.rfl ih

end

/-! ## Systems that compute their steps -/

/-- The run of a step function on a list of labels, up to the first disabled one. -/
def trace (f : σ → α → Option σ) : σ → List α → List (α × σ)
  | _, [] => []
  | s, a :: as =>
    match f s a with
    | some s' => (a, s') :: trace f s' as
    | none => []

theorem exec_trace {f : σ → α → Option σ} (hf : ∀ s a s', f s a = some s' → step s a s') (s : σ)
    (as : List α) : Exec step s (trace f s as) := by
  induction as generalizing s with
  | nil => exact .nil s
  | cons a as ih =>
    unfold trace
    split
    · next s' h => exact .cons (hf s a s' h) (ih s')
    · exact .nil s

/-- A condition that reads the labels alone. -/
theorem stepsOk_trace {f : σ → α → Option σ} {ok : σ → α → Prop} {as : List α} (h : ∀ a ∈ as, ∀ s, ok s a) (s : σ) :
    StepsOk ok s (trace f s as) := by
  induction as generalizing s with
  | nil => trivial
  | cons a as ih =>
    unfold trace
    split
    · exact ⟨h a List.mem_cons_self s, ih (fun b hb => h b (List.mem_cons_of_mem a hb)) _⟩
    · trivial

/-! ## History variables -/

/-- The system with a history variable of type `γ`. -/
def ghost {γ : Type*} (step : σ → α → σ → Prop) (next : σ → α → σ → γ → γ) :
    σ × γ → α → σ × γ → Prop :=
  fun s a s' => step s.1 a s'.1 ∧ s'.2 = next s.1 a s'.1 s.2

/-- The step function of a system with a history variable. -/
def ghostStep {γ : Type*} (f : σ → α → Option σ) (next : σ → α → σ → γ → γ) (s : σ × γ) (a : α) :
    Option (σ × γ) :=
  (f s.1 a).map fun s' => (s', next s.1 a s' s.2)

theorem exec_ghostStep {γ : Type*} {f : σ → α → Option σ} (hf : ∀ s a s', f s a = some s' → step s a s')
    (next : σ → α → σ → γ → γ) (s : σ × γ) (as : List α) :
    Exec (ghost step next) s (trace (ghostStep f next) s as) := by
  refine exec_trace (fun s a s' h => ?_) s as
  obtain ⟨t, ht, rfl⟩ := Option.map_eq_some_iff.mp h
  exact ⟨hf _ _ _ ht, rfl⟩

/-- A run with the values of a history variable that starts as `g`. -/
def history {γ : Type*} (next : σ → α → σ → γ → γ) : σ → γ → List (α × σ) → List (α × (σ × γ))
  | _, _, [] => []
  | s, g, (a, s') :: tr => (a, (s', next s a s' g)) :: history next s' (next s a s' g) tr

theorem Exec.history {γ : Type*} {next : σ → α → σ → γ → γ} {s : σ} {tr : List (α × σ)} (hrun : Exec step s tr)
    (g : γ) : Exec (ghost step next) (s, g) (history next s g tr) := by
  induction hrun generalizing g with
  | nil s => exact .nil (s, g)
  | cons h _ ih => exact .cons ⟨h, rfl⟩ (ih _)

theorem StepsOk.history {γ : Type*} {next : σ → α → σ → γ → γ} {ok : σ → α → Prop} {s : σ} {tr : List (α × σ)}
    (h : StepsOk ok s tr) (g : γ) : StepsOk (fun s a => ok s.1 a) (s, g) (history next s g tr) := by
  induction tr generalizing s g with
  | nil => trivial
  | cons e tr ih => exact ⟨h.1, ih h.2 _⟩

end Transition
