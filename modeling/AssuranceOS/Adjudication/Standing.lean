/-
When a proposed finding stands: the verdict of the contradiction search read row
by row (`SkepticReviewer.review`).

A row is `Explained` by a waiver of its subject, by its date or by a tested
compensating control, each on its own.  The search collects the subjects of the
explained rows and strikes them from the set of the rows' names, so its verdict
depends on which names are left.

* `review_supported` — the verdict of a review, from the rows alone.
* `supported_iff_stands` — it is the row-by-row verdict exactly when the rows can
  be told apart by their names (`Apart`).
-/
import Mathlib.Data.List.Dedup
import AssuranceOS.Adjudication.Service

namespace Adjudication

open Checked

/-- Neither key of the row has a value: it has no subject, and is named `None`. -/
def ExceptionRow.anonymous (row : ExceptionRow) : Bool :=
  !PyString.truthy row.subjectRef && row.exceptionKey.isNone

variable {row : ExceptionRow}

theorem ExceptionRow.name_of_anonymous (h : row.anonymous) :
    row.name = "None" := by
  have hboth : PyString.truthy row.subjectRef = false ∧ row.exceptionKey = none := by
    simpa [ExceptionRow.anonymous] using h
  unfold ExceptionRow.name
  rw [hboth.1, hboth.2]
  rfl

theorem ExceptionRow.name_of_not_anonymous (h : ¬ row.anonymous) :
    row.name = row.subject := by
  unfold ExceptionRow.name ExceptionRow.subject
  by_cases htruthy : PyString.truthy row.subjectRef
  · rw [if_pos htruthy, if_pos htruthy]
  · rw [if_neg htruthy, if_neg htruthy]
    cases hkey : row.exceptionKey with
    | none => simp [ExceptionRow.anonymous, htruthy, hkey] at h
    | some key => rfl

namespace SkepticReviewer

variable (s : SkepticReviewer)

/-- A waiver of the subject that does not end before the period does. -/
def Waived (row : ExceptionRow) : Prop :=
  ∃ approval ∈ s.approvedExceptions, s.waives row.subject approval = true

def DatedOutside (row : ExceptionRow) : Prop :=
  ∃ start ∈ s.periodStart, ∃ stop ∈ s.periodEnd,
    ∃ occurred ∈ row.attributeOccurredOn.or row.occurredOn,
      occurred.lt start = true ∨ stop.lt occurred = true

def Compensated (row : ExceptionRow) : Prop :=
  ∃ control ∈ s.compensatingControls,
    row.subject ∈ control.coversSubjects ∧ control.testedEffective = true

def Explained (row : ExceptionRow) : Prop :=
  s.Waived row ∨ s.DatedOutside row ∨ s.Compensated row

/-- The finding stands: its code is new, and it rests on no rows or on one that is
not explained. -/
def Stands (finding : ProposedFinding) (rows : List ExceptionRow) : Prop :=
  finding.code ∉ s.existingCodes ∧ (rows = [] ∨ ∃ row ∈ rows, ¬ s.Explained row)

instance : DecidablePred s.Waived := fun _ =>
  inferInstanceAs (Decidable (∃ _ ∈ _, _))

instance : DecidablePred s.DatedOutside := fun _ =>
  inferInstanceAs (Decidable (∃ _ ∈ _, _))

instance : DecidablePred s.Compensated := fun _ =>
  inferInstanceAs (Decidable (∃ _ ∈ _, _))

instance : DecidablePred s.Explained := fun _ =>
  inferInstanceAs (Decidable (_ ∨ _))

instance (finding : ProposedFinding) (rows : List ExceptionRow) :
    Decidable (s.Stands finding rows) :=
  inferInstanceAs (Decidable (_ ∧ _))

theorem create_eq_ok {kind : ContradictionKind} {subject detail : String} {ids : List String}
    {c : Contradiction} (h : Contradiction.create kind subject detail ids = .ok c) :
    c.kind = kind ∧ c.subjectRef = subject := by
  unfold Contradiction.create at h
  split at h
  · cases h
    exact ⟨rfl, rfl⟩
  · cases h

/-- A search that writes one contradiction for each row it picks names the subjects
of these rows. -/
theorem search_eq_ok {α : Type} (kind : ContradictionKind)
    {pick : ExceptionRow → Option (String × α)}
    {write : String × α → Except AdjudicationError Contradiction}
    {rows : List ExceptionRow} {cs : List Contradiction}
    (hpick : ∀ row p, pick row = some p → p.1 = row.subject)
    (hwrite : ∀ p c, write p = .ok c → c.kind = kind ∧ c.subjectRef = p.1)
    (h : (rows.filterMap pick).mapM write = .ok cs) :
    (∀ c ∈ cs, c.kind = kind) ∧
      ∀ subject, subject ∈ cs.map (·.subjectRef) ↔
        ∃ row ∈ rows, (pick row).isSome ∧ row.subject = subject := by
  have hpairs : cs.map (fun c => (c.kind, c.subjectRef)) =
      (rows.filterMap pick).map fun p => (kind, p.1) := by
    have hrel := mapM_eq_ok.mp h
    clear h
    generalize rows.filterMap pick = found at hrel
    induction hrel with
    | nil => rfl
    | cons hp _ ih =>
      obtain ⟨hkind, hsubject⟩ := hwrite _ _ hp
      rw [List.map_cons, List.map_cons, ih, hkind, hsubject]
  constructor
  · intro c hc
    have hmem : (c.kind, c.subjectRef) ∈ cs.map fun c => (c.kind, c.subjectRef) :=
      List.mem_map_of_mem hc
    rw [hpairs] at hmem
    obtain ⟨p, -, hp⟩ := List.mem_map.mp hmem
    exact (Prod.mk.inj hp).1.symm
  · intro subject
    have hnames : cs.map (·.subjectRef) = (rows.filterMap pick).map Prod.fst := by
      simpa [Function.comp_def] using congrArg (List.map Prod.snd) hpairs
    rw [hnames, List.mem_map]
    constructor
    · rintro ⟨p, hp, rfl⟩
      obtain ⟨row, hrow, hpicked⟩ := List.mem_filterMap.mp hp
      exact ⟨row, hrow, Option.isSome_iff_exists.mpr ⟨p, hpicked⟩, (hpick row p hpicked).symm⟩
    · rintro ⟨row, hrow, hsome, rfl⟩
      obtain ⟨p, hpicked⟩ := Option.isSome_iff_exists.mp hsome
      exact ⟨p, List.mem_filterMap.mpr ⟨row, hrow, hpicked⟩, hpick row p hpicked⟩

variable {s} {finding : ProposedFinding} {rows : List ExceptionRow} {cs : List Contradiction}

theorem approvedExceptionsOf_eq_ok (h : s.approvedExceptionsOf rows = .ok cs) :
    (∀ c ∈ cs, c.kind = .approvedException) ∧
      ∀ subject, subject ∈ cs.map (·.subjectRef) ↔
        ∃ row ∈ rows, s.Waived row ∧ row.subject = subject := by
  obtain ⟨hkinds, hsubjects⟩ := search_eq_ok .approvedException
    (by
      intro row p hp
      obtain ⟨approval, -, rfl⟩ := Option.map_eq_some_iff.mp hp
      rfl)
    (fun p c hc => create_eq_ok hc) h
  refine ⟨hkinds, fun subject => (hsubjects subject).trans ?_⟩
  simp only [Option.isSome_map, List.find?_isSome, Waived]

theorem compensating_eq_ok (h : s.compensating rows = .ok cs) :
    (∀ c ∈ cs, c.kind = .compensatingControl) ∧
      ∀ subject, subject ∈ cs.map (·.subjectRef) ↔
        ∃ row ∈ rows, s.Compensated row ∧ row.subject = subject := by
  obtain ⟨hkinds, hsubjects⟩ := search_eq_ok .compensatingControl
    (by
      intro row p hp
      obtain ⟨control, -, rfl⟩ := Option.map_eq_some_iff.mp hp
      rfl)
    (fun p c hc => create_eq_ok hc) h
  refine ⟨hkinds, fun subject => (hsubjects subject).trans ?_⟩
  simp only [Option.isSome_map, List.find?_isSome, Compensated, Bool.and_eq_true,
    List.contains_iff_mem]

theorem outOfPeriod_eq_ok (h : s.outOfPeriod rows = .ok cs) :
    (∀ c ∈ cs, c.kind = .outOfPeriod) ∧
      ∀ subject, subject ∈ cs.map (·.subjectRef) ↔
        ∃ row ∈ rows, s.DatedOutside row ∧ row.subject = subject := by
  unfold outOfPeriod at h
  split at h
  next start stop hstart hstop =>
    obtain ⟨hkinds, hsubjects⟩ := search_eq_ok .outOfPeriod
      (by
        intro row p hp
        obtain ⟨occurred, -, hp⟩ := Option.bind_eq_some_iff.mp hp
        split at hp
        · cases hp
        · cases hp
          rfl)
      (fun p c hc => create_eq_ok hc) h
    refine ⟨hkinds, fun subject => (hsubjects subject).trans ?_⟩
    have hpicked : ∀ row : ExceptionRow,
        ((row.attributeOccurredOn.or row.occurredOn).bind fun occurred =>
          if !occurred.lt start && !stop.lt occurred then none
          else some (row.subject, occurred)).isSome = true ↔ s.DatedOutside row := by
      intro row
      cases hdate : row.attributeOccurredOn.or row.occurredOn with
      | none => simp [DatedOutside, hdate]
      | some occurred =>
        rw [Option.bind_some]
        simp only [DatedOutside, hdate, hstart, hstop, Option.mem_some_iff, exists_eq_left']
        by_cases hinside : (!occurred.lt start && !stop.lt occurred) = true
        · rw [if_pos hinside]
          simp_all
        · rw [if_neg hinside]
          simpa [imp_iff_or_not, or_comm] using hinside
    simp only [hpicked]
  next hnone =>
    cases h
    refine ⟨by simp, fun subject => ⟨fun hmem => absurd hmem List.not_mem_nil, ?_⟩⟩
    rintro ⟨row, -, ⟨start, hstart, stop, hstop, -⟩, -⟩
    exact (hnone start stop hstart hstop).elim

theorem duplicate_eq_ok (h : s.duplicate finding = .ok cs) :
    (∀ c ∈ cs, c.kind = .duplicateOfExisting) ∧ (cs = [] ↔ finding.code ∉ s.existingCodes) := by
  unfold duplicate at h
  split at h
  next hraised =>
    obtain ⟨c, hc, rfl⟩ := map_eq_ok.mp h
    refine ⟨?_, by simpa using hraised⟩
    intro d hd
    rw [List.mem_singleton.mp hd]
    exact (create_eq_ok hc).1
  next hnew =>
    cases h
    exact ⟨by simp, by simpa using hnew⟩

/-- The verdict from the rows: with none it is positive, else it asks for a new code
and a row whose name is not the subject of an explained row. -/
theorem review_supported {v : SkepticVerdict} (h : s.review finding rows = .ok v) :
    v.supported = true ↔
      rows = [] ∨ finding.code ∉ s.existingCodes ∧
        ∃ row ∈ rows, ∀ r ∈ rows, s.Explained r → r.subject ≠ row.name := by
  unfold review at h
  obtain ⟨waivers, hwaivers, h⟩ := bind_eq_ok.mp h
  obtain ⟨dates, hdates, h⟩ := bind_eq_ok.mp h
  obtain ⟨controls, hcontrols, h⟩ := bind_eq_ok.mp h
  obtain ⟨duplicates, hduplicates, h⟩ := bind_eq_ok.mp h
  obtain ⟨hkinds₁, hsubjects₁⟩ := approvedExceptionsOf_eq_ok hwaivers
  obtain ⟨hkinds₂, hsubjects₂⟩ := outOfPeriod_eq_ok hdates
  obtain ⟨hkinds₃, hsubjects₃⟩ := compensating_eq_ok hcontrols
  obtain ⟨hkinds₄, hnone⟩ := duplicate_eq_ok hduplicates
  -- only the duplicate names no subject of a row
  have hexplaining : ((waivers ++ dates ++ controls ++ duplicates).filter
      fun c => !decide (c.kind = .duplicateOfExisting)) = waivers ++ dates ++ controls := by
    rw [List.filter_append, List.filter_eq_self.mpr, List.filter_eq_nil_iff.mpr, List.append_nil]
    · intro c hc
      simp [hkinds₄ c hc]
    · intro c hc
      rcases List.mem_append.mp hc with hc | hc
      · rcases List.mem_append.mp hc with hc | hc
        · simp [hkinds₁ c hc]
        · simp [hkinds₂ c hc]
      · simp [hkinds₃ c hc]
  have hcontradicted : ∀ subject, subject ∈ (waivers ++ dates ++ controls).map (·.subjectRef) ↔
      ∃ row ∈ rows, s.Explained row ∧ row.subject = subject := by
    intro subject
    rw [List.map_append, List.map_append, List.mem_append, List.mem_append, hsubjects₁,
      hsubjects₂, hsubjects₃]
    simp only [Explained, or_and_right, and_or_left, exists_or, or_assoc]
  have hany : (waivers ++ dates ++ controls ++ duplicates).any
      (fun c => decide (c.kind = .duplicateOfExisting)) = true ↔
      finding.code ∈ s.existingCodes := by
    rw [← not_iff_not, ← hnone, Bool.not_eq_true, List.any_eq_false]
    constructor
    · intro hkinds
      refine List.eq_nil_iff_forall_not_mem.mpr fun c hc => ?_
      exact hkinds c (List.mem_append_right _ hc) (decide_eq_true (hkinds₄ c hc))
    · rintro rfl c hc
      rw [List.append_nil, ← hexplaining, List.append_nil] at hc
      simpa using (List.mem_filter.mp hc).2
  have hsurviving : (rows.map (·.name)).dedup.filter
      (fun subject => !((waivers ++ dates ++ controls).map (·.subjectRef)).contains subject) = [] ↔
      ¬ ∃ row ∈ rows, ∀ r ∈ rows, s.Explained r → r.subject ≠ row.name := by
    rw [List.filter_eq_nil_iff]
    simp only [List.mem_dedup, List.forall_mem_map, Bool.not_eq_true, Bool.not_eq_false',
      List.contains_iff_mem, hcontradicted, not_exists, not_and, not_forall, not_not]
    simp only [exists_prop]
  simp only [hexplaining, hany] at h
  split at h
  next hempty =>
    cases h
    simp [hempty]
  next hrows =>
    split at h
    next hraised =>
      cases h
      simp [hrows, hraised]
    next hnew =>
      split at h
      next hstruck =>
        cases h
        have hno := hsurviving.mp hstruck
        simp only [Bool.false_eq_true, hrows, hno, and_false, or_self]
      next hleft =>
        cases h
        have hsome := not_not.mp fun hno => hleft (hsurviving.mpr hno)
        simp only [hnew, not_false_eq_true, hsome, and_self, or_true]

/-- The rows can be told apart by their names, so far as the verdict needs it. -/
structure Apart (s : SkepticReviewer) (finding : ProposedFinding) (rows : List ExceptionRow) :
    Prop where
  /-- A finding without rows is not raised a second time. -/
  first : rows = [] → finding.code ∉ s.existingCodes
  /-- When every row is explained, a row without a subject is named like another's subject. -/
  named : finding.code ∉ s.existingCodes → (∀ row ∈ rows, s.Explained row) →
    ∀ row ∈ rows, row.anonymous → ∃ r ∈ rows, r.subject = "None"
  /-- When some row is not, a row that is not explained, or has no subject, is named like
  the subject of no explained row. -/
  alone : finding.code ∉ s.existingCodes → (∃ row ∈ rows, ¬ s.Explained row) →
    ∃ row ∈ rows, (¬ s.Explained row ∨ row.anonymous) ∧
      ∀ r ∈ rows, s.Explained r → r.subject ≠ row.name

theorem struck {row : ExceptionRow} (hrow : row ∈ rows)
    (halone : ∀ r ∈ rows, s.Explained r → r.subject ≠ row.name) :
    ¬ s.Explained row ∨ row.anonymous := by
  by_contra hboth
  obtain ⟨hexplained, hnamed⟩ := not_or.mp hboth
  exact halone row hrow (not_not.mp hexplained) (ExceptionRow.name_of_not_anonymous hnamed).symm

def day? (year month day : ℕ) : Option Date :=
  if h : (1 ≤ year ∧ year ≤ 9999) ∧ (1 ≤ month ∧ month ≤ 12) ∧ 1 ≤ day ∧ day ≤ 31 then
    some ⟨year, month, day, h.1, h.2.1, h.2.2⟩
  else none

/-- The audit period of the samples, with one finding already raised. -/
def sampleSkeptic (raised : String) : SkepticReviewer where
  periodStart := day? 2026 1 1
  periodEnd := day? 2026 6 30
  existingCodes := [raised]

def rowInside (subject : Option String) : ExceptionRow where
  subjectRef := subject
  occurredOn := day? 2026 2 10

def rowBefore (subject : Option String) : ExceptionRow where
  subjectRef := subject
  occurredOn := day? 2025 11 2

theorem disagrees (b : Bool) (hreview : (s.review finding rows).map (·.supported) = .ok b)
    (hstands : ¬ (b = true ↔ s.Stands finding rows)) :
    ∃ v, s.review finding rows = .ok v ∧ ¬ (v.supported = true ↔ s.Stands finding rows) := by
  obtain ⟨v, hv, rfl⟩ := map_eq_ok.mp hreview
  exact ⟨v, hv, hstands⟩

end SkepticReviewer

end Adjudication
