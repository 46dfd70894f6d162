import Mathlib.Logic.Function.Basic

/-!
# Memories behind requests

A memory whose cells are read and written one request at a time.  A write can fail, and what
it then leaves is not known; a write that succeeds changes its own cell alone.  A program
made of requests either `Reads`, a function of the content, or `Writes`, which changes the
content by a function if all its requests succeed.  Both are put together as the program is.
-/

/-- Requests that fail with `ε`, over states of type `σ`. -/
abbrev Memory.Requests (ε σ : Type) := StateT σ (Except ε)

open Memory (Requests)

structure Memory (ρ ν ε σ : Type) [DecidableEq ρ] where
  read : ρ → Requests ε σ ν
  write : ρ → ν → Requests ε σ Unit
  content : σ → ρ → ν
  read_run : ∀ r s, ∃ s', (read r).run s = .ok (content s r, s') ∧ content s' = content s
  content_write : ∀ {r v s s'}, (write r v).run s = .ok ((), s') → content s' = Function.update (content s) r v

namespace Memory

/-! ## What stays as it was -/

section
variable {ρ ν : Type} {cells more : List ρ} {c c' c'' : ρ → ν}

/-- The contents agree outside a list of cells. -/
def Unchanged (cells : List ρ) (c c' : ρ → ν) : Prop := ∀ r, r ∉ cells → c' r = c r

theorem unchanged_refl (cells : List ρ) (c : ρ → ν) : Unchanged cells c c := fun _ _ => rfl

/-- A cell of the list is written, or one with what it holds. -/
theorem Unchanged.update [DecidableEq ρ] (h : Unchanged cells c c') {r : ρ} {v : ν}
    (hv : r ∈ cells ∨ v = c r) : Unchanged cells c (Function.update c' r v) := by
  intro r' hr'
  by_cases hr : r' = r
  · subst hr
    rw [Function.update_self]
    exact hv.resolve_left hr'
  · rw [Function.update_of_ne hr]
    exact h r' hr'

theorem Unchanged.mono (h : Unchanged cells c c') (hsub : cells ⊆ more) : Unchanged more c c' :=
  fun r hr => h r fun hmem => hr (hsub hmem)

theorem Unchanged.trans (h : Unchanged cells c c') (h' : Unchanged cells c' c'') : Unchanged cells c c'' :=
  fun r hr => (h' r hr).trans (h r hr)

end

/-! ## Reading and writing -/

variable {ρ ν ε σ α β : Type} [DecidableEq ρ] (M : Memory ρ ν ε σ)

/-- The program returns a function of the content, and changes nothing. -/
def Reads (x : Requests ε σ α) (f : (ρ → ν) → α) : Prop :=
  ∀ s, ∃ s', x.run s = .ok (f (M.content s), s') ∧ M.content s' = M.content s

/-- The program changes the content by a function, if it succeeds. -/
def Writes (x : Requests ε σ Unit) (f : (ρ → ν) → ρ → ν) : Prop :=
  ∀ s s', x.run s = .ok ((), s') → M.content s' = f (M.content s)

variable {M}

theorem reads_read (r : ρ) : M.Reads (M.read r) fun c => c r := fun s => M.read_run r s

theorem reads_pure (a : α) : M.Reads (pure a) fun _ => a := fun s => ⟨s, rfl, rfl⟩

theorem Reads.bind {x : Requests ε σ α} {f : (ρ → ν) → α} {k : α → Requests ε σ β} {g : α → (ρ → ν) → β}
    (hx : M.Reads x f) (hk : ∀ a, M.Reads (k a) (g a)) : M.Reads (x >>= k) fun c => g (f c) c := by
  intro s
  obtain ⟨s₁, hrun, hc⟩ := hx s
  obtain ⟨s₂, hrun₂, hc₂⟩ := hk (f (M.content s)) s₁
  refine ⟨s₂, ?_, hc₂.trans hc⟩
  rw [StateT.run_bind, hrun]
  show (k (f (M.content s))).run s₁ = _
  rw [hrun₂, hc]

theorem writes_write (r : ρ) (v : ν) : M.Writes (M.write r v) fun c => Function.update c r v :=
  fun _ _ h => M.content_write h

theorem Writes.bind {x y : Requests ε σ Unit} {f g : (ρ → ν) → ρ → ν} (hx : M.Writes x f) (hy : M.Writes y g) :
    M.Writes (x >>= fun _ => y) (g ∘ f) := by
  intro s s' h
  rw [StateT.run_bind] at h
  cases hrun : x.run s with
  | error e =>
    rw [hrun] at h
    cases h
  | ok p =>
    rw [hrun] at h
    rw [hy p.2 s' h, hx s p.2 hrun]
    rfl

/-- What is read next to what. -/
theorem Reads.pair {x : Requests ε σ α} {y : Requests ε σ β} {f : (ρ → ν) → α} {g : (ρ → ν) → β} (hx : M.Reads x f)
    (hy : M.Reads y g) : M.Reads (x >>= fun a => y >>= fun b => pure (a, b)) fun c => (f c, g c) :=
  hx.bind fun _ => hy.bind fun _ => reads_pure _

/-! ## Plain memory -/

/-- The memory that is its content, and whose writes fail in the cells of `broken`. -/
def plain (ρ ν ε : Type) [DecidableEq ρ] (broken : ρ → Option ε) : Memory ρ ν ε (ρ → ν) where
  read r := fun c => .ok (c r, c)
  write r v := fun c =>
    match broken r with
    | some e => .error e
    | none => .ok ((), Function.update c r v)
  content c := c
  read_run _ c := ⟨c, rfl, rfl⟩
  content_write := by
    intro r v c c' h
    simp only [StateT.run] at h
    split at h
    · cases h
    · cases h
      rfl

end Memory

/-! ## Flash -/

/-- A memory with a copy that survives a power cycle. -/
structure FlashMemory (ρ ν ε σ : Type) [DecidableEq ρ] extends Memory ρ ν ε σ where
  flash : Requests ε σ Unit
  flashed : σ → ρ → ν
  flashed_run : ∀ {s s'}, flash.run s = .ok ((), s') → flashed s' = content s

namespace FlashMemory

variable {ρ ν ε σ : Type} [DecidableEq ρ] {M : FlashMemory ρ ν ε σ}

/-- A program of writes that ends with a flash. -/
theorem flashed_bind {x : Requests ε σ Unit} {f : (ρ → ν) → ρ → ν} (hx : M.Writes x f) {s s' : σ}
    (h : (x >>= fun _ => M.flash).run s = .ok ((), s')) : M.flashed s' = f (M.content s) := by
  rw [StateT.run_bind] at h
  cases hrun : x.run s with
  | error e =>
    rw [hrun] at h
    cases h
  | ok p =>
    rw [hrun] at h
    rw [M.flashed_run h, hx s p.2 hrun]

/-- Content and copy are all there is. -/
def plain (ρ ν ε : Type) [DecidableEq ρ] : FlashMemory ρ ν ε ((ρ → ν) × (ρ → ν)) where
  read r := fun s => .ok (s.1 r, s)
  write r v := fun s => .ok ((), Function.update s.1 r v, s.2)
  content s := s.1
  read_run _ s := ⟨s, rfl, rfl⟩
  content_write := by
    intro r v s s' h
    cases h
    rfl
  flash := fun s => .ok ((), s.1, s.1)
  flashed s := s.2
  flashed_run := by
    intro s s' h
    cases h
    rfl

end FlashMemory
