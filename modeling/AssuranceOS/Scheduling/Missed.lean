/-
Which of the due values are launched (`_select_missed_occurrences`).

The same choice is made for the values that were missed and for the one that is due now.
`selects_iff`: it loses nothing and keeps to the limit under every policy, and it launches an
occurrence that is on time unless the policy is to skip.
-/
import AssuranceOS.Scheduling.Effects

namespace Scheduling

open Orchestration (Timestamp)

/-- What a choice of the values to launch, from those that are due, ought to be. -/
structure Selects (schedule : AuditSchedule) (dueValues : List Timestamp)
    (choice : List Timestamp × List Timestamp) : Prop where
  partition : choice.2 ++ choice.1 = dueValues
  bounded : choice.1.length ≤ schedule.catchUpLimit
  latest : dueValues.Pairwise (· ≤ ·) → ∀ older ∈ choice.2, ∀ later ∈ choice.1, older ≤ later
  onTime : dueValues.length = 1 → choice.1 = dueValues

section Selection

variable {schedule : AuditSchedule} {dueValues : List Timestamp}

theorem selectMissedOccurrences_eq (schedule : AuditSchedule) (dueValues : List Timestamp) :
    ∃ older, selectMissedOccurrences schedule dueValues =
        (dueValues.drop older, dueValues.take older) ∧
      dueValues.length ≤ older + schedule.catchUpLimit ∧
      (dueValues.length = 1 → schedule.missedOccurrencePolicy ≠ .skip → older = 0) := by
  have hlimit := schedule.positive_catch_up_limit
  unfold selectMissedOccurrences
  cases hpolicy : schedule.missedOccurrencePolicy with
  | skip =>
    refine ⟨dueValues.length, ?_, by omega, ?_⟩
    · rw [List.drop_length, List.take_length]
    · exact fun _ hne => absurd rfl hne
  | launchLatest =>
    refine ⟨dueValues.length - 1, rfl, by omega, ?_⟩
    intro hone _
    omega
  | launchAll =>
    refine ⟨dueValues.length - schedule.catchUpLimit, rfl, by omega, ?_⟩
    intro hone _
    omega

/-- **Missed occurrences.**  The choice is as it ought to be, unless the policy is to skip and one
value is due. -/
theorem selects_iff (schedule : AuditSchedule) (dueValues : List Timestamp) :
    Selects schedule dueValues (selectMissedOccurrences schedule dueValues) ↔
      ¬ (schedule.missedOccurrencePolicy = .skip ∧ dueValues.length = 1) := by
  constructor
  · rintro h ⟨hpolicy, hone⟩
    have hall := h.onTime hone
    unfold selectMissedOccurrences at hall
    rw [hpolicy] at hall
    rw [← hall] at hone
    exact absurd hone (by simp)
  · intro hpolicy
    obtain ⟨older, heq, hbound, hzero⟩ := selectMissedOccurrences_eq schedule dueValues
    rw [heq]
    refine ⟨List.take_append_drop older dueValues, ?_, ?_, ?_⟩
    · show (dueValues.drop older).length ≤ schedule.catchUpLimit
      rw [List.length_drop]
      omega
    · intro hsorted
      rw [← List.take_append_drop older dueValues] at hsorted
      exact (List.pairwise_append.mp hsorted).2.2
    · intro hone
      have hlaunches : schedule.missedOccurrencePolicy ≠ .skip := fun hskip =>
        hpolicy ⟨hskip, hone⟩
      show dueValues.drop older = dueValues
      rw [hzero hone hlaunches, List.drop_zero]

/-- A schedule that skips what it missed does not launch what is on time. -/
theorem on_time_skipped :
    ¬ Selects { sampleSchedule with missedOccurrencePolicy := .skip } [sampleTime 8 7]
      (selectMissedOccurrences { sampleSchedule with missedOccurrencePolicy := .skip }
        [sampleTime 8 7]) := by
  intro h
  have hall : ([] : List Timestamp) = [sampleTime 8 7] := h.onTime rfl
  exact absurd hall (by simp)

end Selection

end Scheduling
