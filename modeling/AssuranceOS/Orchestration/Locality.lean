/-
Engagements do not interfere.

`LocalTo S db db'` says that a change from `db` to `db'` concerns the
engagements in `S` only: the tasks and the rows of the others are the same.
Every call but `tick` and a compilation is local to one engagement
(`Reconciled.localTo` and the lemmas around it), and what an engagement's
status should be (`targetOf`) depends on the statuses of its own tasks only.
-/
import AssuranceOS.Orchestration.Executions

namespace Orchestration

/-! ### Local changes -/

structure LocalTo (S : Set String) (db db' : Database) : Prop where
  tasks : ∀ t : EngagementTask, t.engagementId ∉ S → (t ∈ db'.tasks ↔ t ∈ db.tasks)
  engagements : ∀ f : Engagement, f.engagementId ∉ S →
    (f ∈ db'.engagements ↔ f ∈ db.engagements)
  dependencies : db'.dependencies = db.dependencies

namespace LocalTo

variable {S T : Set String} {db db₁ db' : Database}

theorem refl (db : Database) : LocalTo S db db :=
  ⟨fun _ _ => Iff.rfl, fun _ _ => Iff.rfl, rfl⟩

theorem trans (h₁ : LocalTo S db db₁) (h₂ : LocalTo S db₁ db') : LocalTo S db db' where
  tasks t ht := (h₂.tasks t ht).trans (h₁.tasks t ht)
  engagements f hf := (h₂.engagements f hf).trans (h₁.engagements f hf)
  dependencies := h₂.dependencies.trans h₁.dependencies

theorem mono (h : LocalTo S db db') (hST : S ⊆ T) : LocalTo T db db' where
  tasks t ht := h.tasks t fun hS => ht (hST hS)
  engagements f hf := h.engagements f fun hS => hf (hST hS)
  dependencies := h.dependencies

end LocalTo

section Moves

variable {now : Timestamp} {S : Set String} {db db' : Database}
variable {k : MoveKind} {t t' : EngagementTask} {e e' : Engagement} {db₁ : Database}

theorem TaskMove.localTo (h : TaskMove now k t t' db db') (hwf : WellFormed db) :
    LocalTo {t.engagementId} db db' where
  tasks u hu := by
    rw [h.mem_tasks hwf]
    constructor
    · rintro (rfl | ⟨hmem, -⟩)
      · exact absurd h.same.engagementId hu
      · exact hmem
    · intro hmem
      exact Or.inr ⟨hmem, fun heq => hu (congrArg EngagementTask.engagementId heq)⟩
  engagements f _ := by rw [h.engagements]
  dependencies := h.dependencies

theorem EngagementMove.localTo (h : EngagementMove now e e' db db') (hwf : WellFormed db) :
    LocalTo {e.engagementId} db db' where
  tasks u _ := by rw [h.tasks]
  engagements f hf := by
    rw [h.mem_engagements hwf]
    constructor
    · rintro (rfl | ⟨hmem, -⟩)
      · exact absurd h.engagementId hf
      · exact hmem
    · intro hmem
      exact Or.inr ⟨hmem, fun heq => hf (congrArg Engagement.engagementId heq)⟩
  dependencies := h.dependencies

theorem TaskPath.localTo {allows : Database → MoveKind → EngagementTask → Prop}
    (h : TaskPath now allows db db') (hwf : WellFormed db)
    (hallows : ∀ db' k t, WellFormed db' → t ∈ db'.tasks → db'.engagements = db.engagements →
      allows db' k t → t.engagementId ∈ S) : LocalTo S db db' := by
  induction h with
  | refl => exact .refl db
  | tail hpath hlast ih =>
    obtain ⟨k, t, t', hallow, hmove⟩ := hlast
    have hwf₁ := (TaskPath.path hpath).wellFormed hwf
    refine ih.trans ((hmove.localTo hwf₁).mono fun F hF => ?_)
    rw [Set.mem_singleton_iff.mp hF]
    exact hallows _ k t hwf₁ hmove.mem (TaskPath.engagements hpath) hallow

theorem Reconciled.localTo (h : Reconciled now e db db') (hwf : WellFormed db) :
    LocalTo {e.engagementId} db db' := by
  obtain ⟨db₁, -, hpath, -, hclosing⟩ := h
  have hlocal : LocalTo {e.engagementId} db db₁ :=
    hpath.localTo hwf fun _ _ _ _ _ _ hk => hk.2
  cases hclosing with
  | untouched _ eq =>
    rw [eq]
    exact hlocal
  | settled e' _ move => exact hlocal.trans (move.localTo (hpath.path.wellFormed hwf))

theorem started_localTo (move : EngagementMove now e e' db db₁)
    (reconciled : Reconciled now e' db₁ db') (hwf : WellFormed db) :
    LocalTo {e.engagementId} db db' := by
  have hrec := reconciled.localTo (move.wellFormed hwf)
  rw [move.engagementId] at hrec
  exact (move.localTo hwf).trans hrec

theorem acted_localTo (move : TaskMove now k t t' db db₁) (owner : e.engagementId = t.engagementId)
    (reconciled : Reconciled now e db₁ db') (hwf : WellFormed db) :
    LocalTo {e.engagementId} db db' := by
  have hmove := move.localTo hwf
  rw [← owner] at hmove
  exact hmove.trans (reconciled.localTo (move.wellFormed hwf))

theorem acted_mem (move : TaskMove now k t t' db db₁) (reconciled : Reconciled now e db₁ db') :
    e ∈ db.engagements := by
  obtain ⟨db₂, he, -, -, -⟩ := reconciled
  rw [← move.engagements]
  exact he

theorem retried_localTo {db₂ : Database} (move : TaskMove now k t t' db db₁)
    (owner : e.engagementId = t.engagementId) (reopen : EngagementMove now e e' db₁ db₂)
    (reconciled : Reconciled now e' db₂ db') (hwf : WellFormed db) :
    LocalTo {e.engagementId} db db' := by
  have hmove := move.localTo hwf
  rw [← owner] at hmove
  exact hmove.trans (started_localTo reopen reconciled (move.wellFormed hwf))

theorem cancelled_localTo (path : TaskPath now (CancelOf e.engagementId) db db₁)
    (move : EngagementMove now e e' db₁ db') (hwf : WellFormed db) :
    LocalTo {e.engagementId} db db' := by
  have hcancel : LocalTo {e.engagementId} db db₁ :=
    path.localTo hwf fun _ _ _ _ _ _ hk => hk.2
  exact hcancel.trans (move.localTo (path.path.wellFormed hwf))

theorem ReconciledEach.localTo {es : List Engagement} (h : ReconciledEach now es db db')
    (hwf : WellFormed db) : LocalTo {E | E ∈ es.map (·.engagementId)} db db' := by
  induction h with
  | nil db => exact .refl db
  | cons head _ ih =>
    refine LocalTo.trans ((head.localTo hwf).mono fun E hE => ?_)
      ((ih (head.wellFormed hwf)).mono fun E hE => ?_)
    · rw [Set.mem_singleton_iff.mp hE]
      exact List.mem_cons_self
    · exact List.mem_cons_of_mem _ hE

end Moves

/-! ### The statuses of an engagement -/

/-- A task in one of these statuses keeps its engagement from resting. -/
def TaskStatus.isActive : TaskStatus → Bool
  | .ready | .running | .retryWait | .waitingApproval => true
  | _ => false

/-- Some task of engagement `E` has status `s`. -/
def StatusIn (db : Database) (E : String) (s : TaskStatus) : Prop :=
  ∃ t ∈ db.tasks, t.engagementId = E ∧ t.status = s

theorem LocalTo.statusIn {S : Set String} {F : String} {db db' : Database}
    (h : LocalTo S db db') (hF' : F ∉ S) (s : TaskStatus) : StatusIn db' F s ↔ StatusIn db F s := by
  constructor
  · rintro ⟨t, ht, hF, hs⟩
    exact ⟨t, (h.tasks t (hF ▸ hF')).mp ht, hF, hs⟩
  · rintro ⟨t, ht, hF, hs⟩
    exact ⟨t, (h.tasks t (hF ▸ hF')).mpr ht, hF, hs⟩

section Targets

open Orchestrator

variable {statuses : List TaskStatus}

theorem engagementTarget_congr {l l' : List TaskStatus} (h : ∀ s, s ∈ l ↔ s ∈ l') :
    engagementTarget l = engagementTarget l' := by
  simp only [engagementTarget, h]

theorem engagementTarget_running
    (h : ∃ s ∈ statuses, s = .ready ∨ s = .running ∨ s = .retryWait) :
    (engagementTarget statuses).1 = .running := by
  obtain ⟨s, hs, hactive⟩ := h
  have hnot : ¬ ∀ s ∈ statuses, s = .succeeded ∨ s = .skipped := by
    intro hall
    rcases hall s hs with rfl | rfl <;> simp at hactive
  rw [engagementTarget, if_neg hnot, if_pos ⟨s, hs, hactive⟩]

theorem engagementTarget_eq_completed :
    (engagementTarget statuses).1 = .completed ↔
      ∀ s ∈ statuses, s = .succeeded ∨ s = .skipped := by
  unfold engagementTarget
  split
  · rename_i hall
    exact ⟨fun _ => hall, fun _ => rfl⟩
  · rename_i hall
    refine ⟨fun h => absurd h ?_, fun h => absurd h hall⟩
    split_ifs <;> simp

theorem engagementTarget_eq_failed :
    (engagementTarget statuses).1 = .failed ↔
      .failed ∈ statuses ∧ ∀ s ∈ statuses, s.isActive = false := by
  unfold engagementTarget
  constructor
  · intro h
    split_ifs at h with h₁ h₂ h₃ h₄ h₅
    refine ⟨h₄, fun s hs => ?_⟩
    have hs₂ : ¬ (s = .ready ∨ s = .running ∨ s = .retryWait) := fun hc => h₂ ⟨s, hs, hc⟩
    have hs₃ : s ≠ .waitingApproval := fun heq => h₃ (heq ▸ hs)
    cases s <;> simp_all [TaskStatus.isActive]
  · rintro ⟨hfailed, hquiet⟩
    have h₁ : ¬ ∀ s ∈ statuses, s = .succeeded ∨ s = .skipped := fun hall => by
      simpa using hall _ hfailed
    have h₂ : ¬ ∃ s ∈ statuses, s = .ready ∨ s = .running ∨ s = .retryWait := by
      rintro ⟨s, hs, hactive⟩
      have hrest := hquiet s hs
      rcases hactive with rfl | rfl | rfl <;> simp [TaskStatus.isActive] at hrest
    have h₃ : TaskStatus.waitingApproval ∉ statuses := fun hw => by
      simpa [TaskStatus.isActive] using hquiet _ hw
    rw [if_neg h₁, if_neg h₂, if_neg h₃, if_pos hfailed]

theorem engagementTarget_completed_iff :
    (engagementTarget statuses).2.2 = true ↔
      (engagementTarget statuses).1 = .completed ∨ (engagementTarget statuses).1 = .failed := by
  unfold engagementTarget
  split_ifs <;> simp

theorem engagementTarget_live :
    (engagementTarget statuses).1 ≠ .planned ∧ (engagementTarget statuses).1 ≠ .cancelled := by
  unfold engagementTarget
  split_ifs <;> simp

end Targets

section TargetOf

variable {db db' : Database} {e e' : Engagement}
variable {s : TaskStatus}

theorem mem_statuses (hwf : WellFormed db) (he : e ∈ db.engagements) :
    s ∈ (db.listTasks e.tenantId e.engagementId).map (·.status) ↔
      StatusIn db e.engagementId s := by
  rw [List.mem_map]
  constructor
  · rintro ⟨t, ht, hs⟩
    obtain ⟨hmem, hE⟩ := (hwf.mem_listTasks he).mp ht
    exact ⟨t, hmem, hE, hs⟩
  · rintro ⟨t, hmem, hE, hs⟩
    exact ⟨t, (hwf.mem_listTasks he).mpr ⟨hmem, hE⟩, hs⟩

theorem targetOf_congr (hwf : WellFormed db) (hwf' : WellFormed db') (he : e ∈ db.engagements)
    (he' : e' ∈ db'.engagements) (hid : e'.engagementId = e.engagementId)
    (h : ∀ s, StatusIn db' e.engagementId s ↔ StatusIn db e.engagementId s) :
    targetOf db' e' = targetOf db e := by
  refine engagementTarget_congr fun s => ?_
  rw [mem_statuses hwf' he', mem_statuses hwf he, hid, h s]

variable (hwf : WellFormed db) (he : e ∈ db.engagements)
include hwf he

theorem targetOf_running (hs : StatusIn db e.engagementId s)
    (hactive : s = .ready ∨ s = .running ∨ s = .retryWait) : (targetOf db e).1 = .running :=
  engagementTarget_running ⟨s, (mem_statuses hwf he).mpr hs, hactive⟩

theorem targetOf_eq_completed :
    (targetOf db e).1 = .completed ↔
      ∀ s, StatusIn db e.engagementId s → s = .succeeded ∨ s = .skipped := by
  unfold targetOf
  rw [engagementTarget_eq_completed]
  simp only [mem_statuses hwf he]

theorem targetOf_eq_failed :
    (targetOf db e).1 = .failed ↔ StatusIn db e.engagementId .failed ∧
      ∀ s, StatusIn db e.engagementId s → s.isActive = false := by
  unfold targetOf
  rw [engagementTarget_eq_failed]
  simp only [mem_statuses hwf he]

end TargetOf

end Orchestration
