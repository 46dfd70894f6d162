import OdysseyHub.Server.Simulation

/-!
# Runs of the registry

What a registered handler can lose: it does not come back into the table once it has
been settled (`Settled.live`).  With the simulation, what steps of the registry keep
holds throughout runs of the server (`Sys.registry_always`).
-/

namespace OdysseyHub

open HandlerTask Transition

namespace Registry

variable {R R' : Registry} {op : Op}

/-! ## Registered handlers -/

/-- The table has the handler `h` for `u`, and it runs. -/
def Live (R : Registry) (u : Uuid) (h : HandlerId) : Prop :=
  R.handles u = some h ∧ ∃ t, R.tasks[h]? = some t ∧ t.Running

theorem Core.live (I : R.Inv) (hs : Core R op R') {u : Uuid} {h : HandlerId} (hl : R'.Live u h)
    (hn : ∀ c, ¬ Inserts op c h) : R.Live u h := by
  obtain ⟨hu, t', ht', hr'⟩ := hl
  obtain hu | ⟨c, -, hi⟩ := hs.handles hu
  · refine ⟨hu, ?_⟩
    obtain ⟨t, ht, hb⟩ | ⟨c, rfl, rfl⟩ := hs.tasks ht'
    · exact ⟨t, ht, hb.running hr'⟩
    · obtain ⟨t, ht, -⟩ := I.entry hu
      exact absurd (List.getElem?_eq_some_iff.mp ht).1 (Nat.lt_irrefl _)
  · exact absurd hi (hn c)

/-- The handler has been entered, or never will be. -/
structure Settled (R : Registry) (h : HandlerId) : Prop where
  known : h < R.tasks.length
  entered : ∀ c u, R.stage c ≠ .spawned h u

theorem Inv.settled (I : R.Inv) {u : Uuid} {h : HandlerId} (hu : R.handles u = some h) :
    R.Settled h := by
  obtain ⟨t, ht, -⟩ := I.entry hu
  exact ⟨(List.getElem?_eq_some_iff.mp ht).1, fun c v hc => I.spawned hc hu⟩

/-- A settled handler does not come back into the table. -/
theorem Settled.live (I : R.Inv) {h : HandlerId} (hset : R.Settled h) (hs : Step R op R') {u : Uuid}
    (hl : R'.Live u h) : R.Live u h := by
  obtain ⟨R₁, hc, q⟩ := hs
  have hl₁ : R₁.Live u h := by simpa only [Live, q.handles, q.tasks] using hl
  refine hc.live I hl₁ fun c hi => ?_
  obtain ⟨rfl, rfl⟩ | ⟨m, addr, rfl, rfl⟩ := hi
  · cases hc with
    | insertScan hul hst => exact hset.entered _ _ hst
  · cases hc with
    | insertHub hul hst => exact hset.entered _ _ hst

theorem Settled.step {h : HandlerId} (hset : R.Settled h) (hs : Step R op R') : R'.Settled h := by
  obtain ⟨R₁, hc, q⟩ := hs
  refine ⟨?_, fun c u hst => ?_⟩
  · rw [q.tasks]
    exact Nat.lt_of_lt_of_le hset.known hc.length_le
  · rw [q.stage] at hst
    obtain he | ha := hc.stages c
    · exact hset.entered c u (he ▸ hst)
    · rw [hst] at ha
      generalize R.stage c = st at ha
      cases ha with
      | spawn => exact absurd hset.known (Nat.lt_irrefl _)

end Registry

/-! ## Runs -/

namespace Sys

/-- Every running handler waits for a message, and none is queued. -/
def Drained (s : Sys) : Prop :=
  ∀ (h : HandlerId) (t : HandlerTask), s.handlers[h]? = some t → t.Running →
    t.InLoop ∧ t.queue = [] ∧ t.todo = []

variable {J P : Registry → Prop} {ok : Registry → Op → Prop} {tr : List (Event × Sys)}

/-- **Run rule for the registry**: what the allowed operations keep holds of the
registry throughout a run of the server. -/
theorem registry_always (hinit : J Sys.init.registry)
    (hstep : ∀ R op R', R.Inv → J R → ok R op → R.Step op R' → J R')
    (hrun : Exec Sys.Step Sys.init tr)
    (hok : StepsOk (fun s e => ok s.registry (s.op e)) Sys.init tr) :
    Always (fun s => s.Inv ∧ J s.registry) Sys.init tr :=
  hrun.always (fun _ _ _ I ho h => ⟨I.1.step h, hstep _ _ _ I.1.registry I.2 ho (I.1.simulates h).2.2⟩)
    ⟨Inv.init, hinit⟩ hok

/-- The run rule with an exact condition. -/
theorem registry_always_iff (hinit : J Sys.init.registry) (hJP : ∀ R, J R → P R)
    (hstep : ∀ R op R', R.Inv → J R → ok R op → R.Step op R' → J R')
    (hbad : ∀ R op R', R.Inv → J R → R.Step op R' → P R' → ok R op)
    (hrun : Exec Sys.Step Sys.init tr) :
    Always (fun s => P s.registry) Sys.init tr ↔
      StepsOk (fun s e => ok s.registry (s.op e)) Sys.init tr :=
  hrun.always_iff (I := fun s => s.Inv ∧ J s.registry) (fun _ I => hJP _ I.2)
    (fun _ _ _ I ho h =>
      ⟨I.1.step h, hstep _ _ _ I.1.registry I.2 ho (I.1.simulates h).2.2⟩)
    (fun _ _ _ I h hP => hbad _ _ _ I.1.registry I.2 (I.1.simulates h).2.2 hP) ⟨Inv.init, hinit⟩

end Sys

end OdysseyHub
