/-
Whether a released test answers for its population.

For SLA-01 the incidents in scope are those of the period with a priority in scope
(`ContractualResponseCommitments.inScope`); each has a row exactly when a commitment governs it
(`examineIncident_eq_ok`).  `populations_iff` puts the three released tests together.
-/
import AssuranceOS.TestsLibrary.ChangePaths
import AssuranceOS.TestsLibrary.ResponseCommitments

namespace TestsLibrary

open Checked Visit

namespace ContractualResponseCommitments

/-! ### Commitments in force -/

def InForce (clock : Clock) (commitment : Commitment) (at' : Moment) : Prop :=
  ∃ starts ∈ clock.moment? (dayStart commitment.effectiveFrom), starts.instant ≤ at'.instant ∧
    ∀ ends ∈ commitment.effectiveTo, ends ≠ "" →
      ∃ m ∈ clock.moment? (dayEnd ends), at'.instant ≤ m.instant

/-- The start can be read, and the end where the commitment has one and has started. -/
def TermReadable (clock : Clock) (commitment : Commitment) (at' : Moment) : Prop :=
  ∃ starts ∈ clock.moment? (dayStart commitment.effectiveFrom), starts.instant ≤ at'.instant →
    ∀ ends ∈ commitment.effectiveTo, ends ≠ "" → (clock.moment? (dayEnd ends)).isSome

section Times

variable {clock : Clock} {commitment : Commitment} {at' : Moment}

theorem lessThan_eq {starts : Moment} (haware : at'.aware = true) (hstarts : starts.aware = true) :
    lessThan at' starts = .ok (decide (at'.instant < starts.instant)) := by
  unfold lessThan
  rw [if_pos (haware.trans hstarts.symm)]

theorem le_eq {ends : Moment} (haware : at'.aware = true) (hends : ends.aware = true) :
    at'.le ends = .ok (decide (at'.instant ≤ ends.instant)) := by
  unfold Moment.le
  rw [if_pos (haware.trans hends.symm)]

theorem inForce_eq_ok (haware : at'.aware = true) {b : Bool} :
    inForce clock commitment at' = .ok b ↔
      TermReadable clock commitment at' ∧ (b = true ↔ InForce clock commitment at') := by
  unfold inForce TermReadable InForce
  rw [moment_bind_eq_ok]
  rcases hread : clock.moment? (dayStart commitment.effectiveFrom) with _ | starts
  · simp
  have hstarts := lessThan_eq haware (moment?_dayStart_aware hread)
  by_cases hbefore : at'.instant < starts.instant
  · -- before its start the end is not read
    cases b <;> simp [hstarts, hbefore, bind, Except.bind, pure, Except.pure]
  · have hstarted := not_lt.mp hbefore
    rcases hto : commitment.effectiveTo with _ | ends
    · cases b <;> simp [hstarts, hbefore, hstarted, bind, Except.bind, pure, Except.pure]
    · by_cases hempty : ends = ""
      · cases b <;> simp [hstarts, hbefore, hstarted, hempty, bind, Except.bind, pure, Except.pure]
      · rcases hends : clock.moment? (dayEnd ends) with _ | m
        · have hraises : clock.moment (dayEnd ends) = .error _ := moment_eq_error hends
          cases b <;> simp [hstarts, hbefore, hempty, hraises, hends, bind, Except.bind]
        · have hmoment := moment_eq_ok.mpr hends
          have hle := le_eq haware (moment?_dayEnd_aware hends)
          cases b <;> simp [hstarts, hbefore, hstarted, hempty, hmoment, hends, hle, bind,
            Except.bind]

variable {β : Type}

theorem ifInForce_eq_ok {b found : Option β} (haware : at'.aware = true) :
    ifInForce clock commitment at' b = .ok found ↔ TermReadable clock commitment at' ∧
      (InForce clock commitment at' → found = b) ∧
      (¬ InForce clock commitment at' → found = none) := by
  unfold ifInForce
  simp only [bind_eq_ok, inForce_eq_ok haware]
  constructor
  · rintro ⟨c, ⟨hterm, hforce⟩, h⟩
    refine ⟨hterm, fun hin => ?_, fun hout => ?_⟩
    · rw [if_pos (hforce.mpr hin)] at h
      cases h
      rfl
    · rw [if_neg (fun hc => hout (hforce.mp hc))] at h
      cases h
      rfl
  · rintro ⟨hterm, hgiven, hnone⟩
    by_cases hin : InForce clock commitment at'
    · exact ⟨true, ⟨hterm, iff_of_true rfl hin⟩, by rw [hgiven hin]; rfl⟩
    · exact ⟨false, ⟨hterm, iff_of_false Bool.false_ne_true hin⟩, by rw [hnone hin]; rfl⟩

theorem exists_ifInForce {b : Option β} (haware : at'.aware = true) :
    (∃ found, ifInForce clock commitment at' b = .ok found) ↔
      TermReadable clock commitment at' := by
  simp only [ifInForce_eq_ok haware]
  constructor
  · rintro ⟨found, hterm, -⟩
    exact hterm
  · intro hterm
    by_cases hin : InForce clock commitment at'
    · exact ⟨b, hterm, fun _ => rfl, fun hout => absurd hin hout⟩
    · exact ⟨none, hterm, fun hin' => absurd hin' hin, fun _ => rfl⟩

end Times

def GovernedAt (clock : Clock) (commitments : List Commitment) (incident : Incident)
    (opened : Moment) : Prop :=
  ∃ commitment ∈ commitments, Applies incident commitment ∧ InForce clock commitment opened

def ResponseReadable (clock : Clock) (incident : Incident) : Prop :=
  ∀ text ∈ incident.firstResponseAt, text ≠ "" →
    ∃ m ∈ clock.moment? text, m.aware = true

section Governing

variable {clock : Clock} {commitments : List Commitment} {incident : Incident} {opened : Moment}

theorem exists_governing (haware : opened.aware = true) :
    (∃ found, governing clock commitments incident opened = .ok found) ↔
      ∀ commitment ∈ commitments, Applies incident commitment →
        TermReadable clock commitment opened := by
  unfold governing
  rw [exists_visit]
  refine forall₂_congr fun commitment _ => ?_
  by_cases happlies : Applies incident commitment
  · rw [if_pos happlies, exists_ifInForce haware]
    exact ⟨fun h _ => h, fun h => h happlies⟩
  · rw [if_neg happlies]
    exact iff_of_true ⟨none, rfl⟩ fun h => absurd h happlies

theorem governing_ne_nil (haware : opened.aware = true) {found : List Commitment}
    (h : governing clock commitments incident opened = .ok found) :
    found ≠ [] ↔ GovernedAt clock commitments incident opened := by
  unfold governing at h
  rw [Ne, visit_eq_nil h]
  push Not
  constructor
  · rintro ⟨commitment, hmem, b, hlook⟩
    by_cases happlies : Applies incident commitment
    · rw [if_pos happlies, ifInForce_eq_ok haware] at hlook
      obtain ⟨-, -, hout⟩ := hlook
      by_contra hnot
      have hforce : ¬ InForce clock commitment opened := fun hin =>
        hnot ⟨commitment, hmem, happlies, hin⟩
      exact absurd (hout hforce) (by simp)
    · rw [if_neg happlies] at hlook
      cases hlook
  · rintro ⟨commitment, hmem, happlies, hin⟩
    obtain ⟨found', hfound⟩ := exists_visit.mp ⟨found, h⟩ commitment hmem
    refine ⟨commitment, hmem, commitment, ?_⟩
    rw [hfound]
    rw [if_pos happlies, ifInForce_eq_ok haware] at hfound
    rw [hfound.2.1 hin]

theorem exists_elapsedHours (haware : opened.aware = true) :
    (∃ elapsed, elapsedHours clock opened incident.firstResponseAt = .ok elapsed) ↔
      ResponseReadable clock incident := by
  unfold elapsedHours ResponseReadable
  rcases incident.firstResponseAt with _ | text
  · simp
  · by_cases hempty : text = ""
    · simp [hempty, pure, Except.pure]
    · rcases hread : clock.moment? text with _ | m
      · simp [hempty, hread, moment_eq_error hread, bind, Except.bind]
      · have hmoment := moment_eq_ok.mpr hread
        by_cases hm : m.aware = true
        · simp [hempty, hread, hmoment, hm, haware, bind, Except.bind, pure, Except.pure]
        · simp [hempty, hread, hmoment, hm, haware, bind, Except.bind]

end Governing

/-- The row repeats what identifies the record. -/
def Describes (incident : Incident) (row : Row) : Prop :=
  row.incidentId = incident.incidentId ∧ row.customer = incident.customer ∧
    row.priority = incident.priority ∧ row.openedAt = incident.openedAt

theorem examine_describes (incident : Incident) (commitment : Commitment) (elapsed : Option ℚ) :
    Describes incident (examine incident commitment elapsed).row :=
  ⟨rfl, rfl, rfl, rfl⟩

theorem examine_passed {incident : Incident} {commitment : Commitment} {elapsed : Option ℚ}
    (h : (examine incident commitment elapsed).breach = none) :
    (examine incident commitment elapsed).row.classification = .effective := by
  unfold examine at h ⊢
  dsimp only at h ⊢
  split_ifs at h ⊢
  rfl

section Incidents

variable {clock : Clock} {commitments : List Commitment} {priorities : List String}
  {start finish : Moment} {incident : Incident} {found : Option Examined}

/-- The incident was opened in the period, with a priority in scope. -/
def InScopeAt (priorities : List String) (start finish opened : Moment) (incident : Incident) :
    Prop :=
  Moment.Within start finish opened ∧ incident.priority ∈ priorities

variable {opened : Moment} {gov : List Commitment}

theorem exists_answer (haware : opened.aware = true) (hgov : gov ≠ []) :
    (∃ found, answer clock incident opened gov = .ok found) ↔ ResponseReadable clock incident := by
  have hsome : gov.argmax (·.effectiveFrom) ≠ none := mt List.argmax_eq_none.mp hgov
  obtain ⟨commitment, hmax⟩ := Option.ne_none_iff_exists'.mp hsome
  rw [← exists_elapsedHours haware]
  unfold answer
  rw [hmax]
  simp only [bind_eq_ok]
  constructor
  · rintro ⟨found, elapsed, helapsed, -⟩
    exact ⟨elapsed, helapsed⟩
  · rintro ⟨elapsed, helapsed⟩
    exact ⟨_, elapsed, helapsed, rfl⟩

theorem answer_eq_ok (h : answer clock incident opened gov = .ok found) :
    (gov = [] → found = none) ∧
      (gov ≠ [] → ∃ commitment elapsed, found = some (examine incident commitment elapsed)) := by
  unfold answer at h
  constructor
  · rintro rfl
    cases h
    rfl
  · intro hgov
    split at h
    · rename_i hmax
      exact absurd (List.argmax_eq_none.mp hmax) hgov
    · rename_i commitment _
      obtain ⟨elapsed, -, h⟩ := bind_eq_ok.mp h
      cases h
      exact ⟨commitment, elapsed, rfl⟩

theorem examineIncident_eq_ok (hstart : start.aware = true) (hfinish : finish.aware = true) :
    examineIncident clock commitments priorities start finish incident = .ok found ↔
      ∃ opened, clock.moment? incident.openedAt = some opened ∧ opened.aware = true ∧
        (¬ InScopeAt priorities start finish opened incident → found = none) ∧
        (InScopeAt priorities start finish opened incident →
          ∃ gov, governing clock commitments incident opened = .ok gov ∧
            answer clock incident opened gov = .ok found) := by
  unfold examineIncident
  rw [moment_bind_eq_ok]
  refine exists_congr fun opened => and_congr_right fun _ => ?_
  rw [between_eq hstart hfinish]
  by_cases haware : opened.aware = true
  · have hcond : (decide (Moment.Within start finish opened) = true ∧
        incident.priority ∈ priorities) ↔ InScopeAt priorities start finish opened incident := by
      rw [decide_eq_true_eq]
      rfl
    rw [if_pos haware, bind_eq_ok]
    simp only [Except.ok.injEq, exists_eq_left']
    by_cases hscope : InScopeAt priorities start finish opened incident
    · rw [if_pos (hcond.mpr hscope), bind_eq_ok]
      exact ⟨fun h => ⟨haware, fun hnot => absurd hscope hnot, fun _ => h⟩, fun h => h.2.2 hscope⟩
    · rw [if_neg fun h => hscope (hcond.mp h)]
      constructor
      · intro h
        cases h
        exact ⟨haware, fun _ => rfl, fun h => absurd h hscope⟩
      · rintro ⟨-, hnone, -⟩
        rw [hnone hscope]
        rfl
  · rw [if_neg haware]
    refine iff_of_false ?_ fun h => haware h.1
    intro h
    obtain ⟨within, hwithin, -⟩ := bind_eq_ok.mp h
    cases hwithin

theorem exists_examineIncident (hstart : start.aware = true) (hfinish : finish.aware = true) :
    (∃ found, examineIncident clock commitments priorities start finish incident = .ok found) ↔
      ∃ opened, clock.moment? incident.openedAt = some opened ∧ opened.aware = true ∧
        (InScopeAt priorities start finish opened incident →
          (∀ commitment ∈ commitments, Applies incident commitment →
            TermReadable clock commitment opened) ∧
          (GovernedAt clock commitments incident opened → ResponseReadable clock incident)) := by
  simp only [examineIncident_eq_ok hstart hfinish]
  constructor
  · rintro ⟨found, opened, hread, haware, -, hin⟩
    refine ⟨opened, hread, haware, fun hscope => ?_⟩
    obtain ⟨gov, hgov, hanswer⟩ := hin hscope
    refine ⟨(exists_governing haware).mp ⟨gov, hgov⟩, fun hgoverned => ?_⟩
    exact (exists_answer haware ((governing_ne_nil haware hgov).mpr hgoverned)).mp ⟨found, hanswer⟩
  · rintro ⟨opened, hread, haware, hin⟩
    by_cases hscope : InScopeAt priorities start finish opened incident
    · obtain ⟨hterms, hresponse⟩ := hin hscope
      obtain ⟨gov, hgov⟩ := (exists_governing haware).mpr hterms
      obtain ⟨found, hfound⟩ : ∃ found, answer clock incident opened gov = .ok found := by
        by_cases hnil : gov = []
        · exact ⟨none, by rw [hnil]; rfl⟩
        · exact (exists_answer haware hnil).mpr
            (hresponse ((governing_ne_nil haware hgov).mp hnil))
      exact ⟨found, opened, hread, haware, fun h => absurd hscope h, fun _ => ⟨gov, hgov, hfound⟩⟩
    · exact ⟨none, opened, hread, haware, fun _ => rfl, fun h => absurd h hscope⟩

end Incidents

section Population

variable {clock : Clock} {datasets : Datasets} {priorities : List String} {context : Context}
  {start finish : Moment}

/-- The incident was opened in the period and has one of the priorities. -/
def inScope (clock : Clock) (priorities : List String) (context : Context)
    (incident : Incident) : Bool :=
  inPeriod (clock.moment? (dayStart context.periodStart))
      (clock.moment? (dayEnd context.periodEnd)) (clock.moment? incident.openedAt) &&
    decide (incident.priority ∈ priorities)

/-- A commitment to the customer is in force when the incident is opened. -/
def Governed (clock : Clock) (commitments : List Commitment) (incident : Incident) : Prop :=
  ∃ opened ∈ clock.moment? incident.openedAt, GovernedAt clock commitments incident opened

/-- A commitment in scope and in force at the end of the period has another internal target. -/
def HasDesignGap (clock : Clock) (datasets : Datasets) (priorities : List String)
    (context : Context) : Prop :=
  ∃ commitment ∈ datasets.contractCommitments, commitment.priority ∈ priorities ∧
    (∃ finish ∈ clock.moment? (dayEnd context.periodEnd), InForce clock commitment finish) ∧
    (designGap datasets commitment).isSome

/-- All that the test reads can be read: the bounds, the openings, the terms of the commitments in
scope, and the first responses in scope. -/
structure AllReadable (clock : Clock) (datasets : Datasets) (priorities : List String)
    (context : Context) : Prop where
  times : Readable clock (clock.moment? (dayStart context.periodStart))
    (clock.moment? (dayEnd context.periodEnd)) (·.openedAt) datasets.incidents
  terms : ∀ commitment ∈ datasets.contractCommitments, commitment.priority ∈ priorities →
    ∀ finish ∈ clock.moment? (dayEnd context.periodEnd), TermReadable clock commitment finish
  responses : ∀ incident ∈ datasets.incidents, inScope clock priorities context incident = true →
    ResponseReadable clock incident

variable {commitment : Commitment} {incident : Incident} {commitments : List Commitment}
  {examined : List Examined}

theorem TermReadable.mono {a b : Moment} (hab : a.instant ≤ b.instant)
    (h : TermReadable clock commitment b) : TermReadable clock commitment a := by
  obtain ⟨starts, hstarts, hends⟩ := h
  exact ⟨starts, hstarts, fun hle => hends (hle.trans hab)⟩

variable {opened : Moment} {gaps : List (TestException Attributes)} {incidents : List Incident}

theorem inScope_iff (hstart : clock.moment? (dayStart context.periodStart) = some start)
    (hfinish : clock.moment? (dayEnd context.periodEnd) = some finish)
    (hopened : clock.moment? incident.openedAt = some opened) :
    inScope clock priorities context incident = true ↔
      InScopeAt priorities start finish opened incident := by
  unfold inScope InScopeAt
  rw [hstart, hfinish, hopened, Bool.and_eq_true, decide_eq_true_eq]
  simp [inPeriod]

theorem governed_iff (hopened : clock.moment? incident.openedAt = some opened) :
    Governed clock commitments incident ↔ GovernedAt clock commitments incident opened := by
  unfold Governed
  rw [hopened]
  simp

theorem examineIncident_found (hstart : clock.moment? (dayStart context.periodStart) = some start)
    (hfinish : clock.moment? (dayEnd context.periodEnd) = some finish) {found : Option Examined}
    (h : examineIncident clock commitments priorities start finish incident = .ok found) :
    (inScope clock priorities context incident = true ∧ Governed clock commitments incident →
      ∃ commitment elapsed, found = some (examine incident commitment elapsed)) ∧
    (¬ (inScope clock priorities context incident = true ∧
      Governed clock commitments incident) → found = none) := by
  obtain ⟨opened, hopened, haware, hout, hin⟩ := (examineIncident_eq_ok
    (moment?_dayStart_aware hstart) (moment?_dayEnd_aware hfinish)).mp h
  rw [inScope_iff hstart hfinish hopened, governed_iff hopened]
  by_cases hscope : InScopeAt priorities start finish opened incident
  · obtain ⟨gov, hgov, hanswer⟩ := hin hscope
    obtain ⟨hnil, hne⟩ := answer_eq_ok hanswer
    rw [← governing_ne_nil haware hgov]
    exact ⟨fun h => hne h.2, fun h => hnil (by_contra fun hnot => h ⟨hscope, hnot⟩)⟩
  · exact ⟨fun h => absurd h.1 hscope, fun _ => hout hscope⟩

theorem examineCommitment_eq_some (hfinish : finish.aware = true) {e : TestException Attributes} :
    examineCommitment clock datasets priorities finish commitment = .ok (some e) ↔
      commitment.priority ∈ priorities ∧ TermReadable clock commitment finish ∧
        InForce clock commitment finish ∧ designGap datasets commitment = some e := by
  unfold examineCommitment
  by_cases hpriority : commitment.priority ∈ priorities
  · rw [if_pos hpriority, ifInForce_eq_ok hfinish]
    by_cases hforce : InForce clock commitment finish
    · simp [hpriority, hforce, eq_comm]
    · simp [hforce]
  · simp [hpriority]

theorem exists_examineCommitment (hfinish : finish.aware = true) :
    (∃ found, examineCommitment clock datasets priorities finish commitment = .ok found) ↔
      (commitment.priority ∈ priorities → TermReadable clock commitment finish) := by
  unfold examineCommitment
  by_cases hpriority : commitment.priority ∈ priorities
  · rw [if_pos hpriority, exists_ifInForce hfinish]
    exact ⟨fun h _ => h, fun h => h hpriority⟩
  · rw [if_neg hpriority]
    exact iff_of_true ⟨none, rfl⟩ fun h => absurd h hpriority

theorem execute_eq_ok {result : ResponseResult} :
    execute clock datasets priorities context = .ok result ↔
      ∃ start, clock.moment? (dayStart context.periodStart) = some start ∧
        ∃ finish, clock.moment? (dayEnd context.periodEnd) = some finish ∧
          ∃ gaps, visit (examineCommitment clock datasets priorities finish)
              datasets.contractCommitments = .ok gaps ∧
            ∃ examined, visit (examineIncident clock datasets.contractCommitments priorities start
                finish) datasets.incidents = .ok examined ∧
              result = resultOf gaps examined := by
  unfold execute
  simp only [moment_bind_eq_ok]
  refine exists_congr fun start => and_congr_right fun _ => exists_congr fun finish =>
    and_congr_right fun _ => ?_
  rw [bind_eq_ok]
  refine exists_congr fun gaps => and_congr_right fun _ => ?_
  rw [bind_eq_ok]
  refine exists_congr fun examined => and_congr_right fun _ => ?_
  constructor
  · intro h
    cases h
    rfl
  · rintro rfl
    rfl

theorem gaps_eq_nil (hfinish : clock.moment? (dayEnd context.periodEnd) = some finish)
    (h : visit (examineCommitment clock datasets priorities finish) datasets.contractCommitments =
      .ok gaps) : gaps = [] ↔ ¬ HasDesignGap clock datasets priorities context := by
  have haware := moment?_dayEnd_aware hfinish
  rw [visit_eq_nil h, ← not_iff_not, not_not]
  push Not
  constructor
  · rintro ⟨commitment, hmem, e, hlook⟩
    obtain ⟨hpriority, -, hforce, hgap⟩ := (examineCommitment_eq_some haware).mp hlook
    exact ⟨commitment, hmem, hpriority, ⟨finish, hfinish, hforce⟩, by rw [hgap]; rfl⟩
  · rintro ⟨commitment, hmem, hpriority, ⟨finish', hfinish', hforce⟩, hgap⟩
    obtain rfl : finish = finish' := Option.some_inj.mp (hfinish.symm.trans hfinish')
    obtain ⟨e, he⟩ := Option.isSome_iff_exists.mp hgap
    obtain ⟨found, hfound⟩ := exists_visit.mp ⟨gaps, h⟩ commitment hmem
    have hterm := (exists_examineCommitment haware).mp ⟨found, hfound⟩ hpriority
    exact ⟨commitment, hmem, e,
      (examineCommitment_eq_some haware).mpr ⟨hpriority, hterm, hforce, he⟩⟩

theorem rows_forall₂ (hstart : clock.moment? (dayStart context.periodStart) = some start)
    (hfinish : clock.moment? (dayEnd context.periodEnd) = some finish)
    {kept : Incident → Bool} (hkept : ∀ incident ∈ incidents, kept incident = true ↔
      inScope clock priorities context incident = true ∧ Governed clock commitments incident)
    (h : visit (examineIncident clock commitments priorities start finish) incidents =
      .ok examined) :
    List.Forall₂ (fun incident item => ∃ commitment elapsed,
      item = examine incident commitment elapsed) (incidents.filter kept) examined := by
  refine visit_forall₂ (fun incident hmem found hfound => ?_) h
  obtain ⟨hrow, hnone⟩ := examineIncident_found hstart hfinish hfound
  constructor
  · intro hkeep
    obtain ⟨commitment, elapsed, heq⟩ := hrow ((hkept incident hmem).mp hkeep)
    exact ⟨_, heq, commitment, elapsed, rfl⟩
  · intro hskip
    exact hnone fun h => by simp [(hkept incident hmem).mpr h] at hskip

theorem governed_of_rows (hstart : clock.moment? (dayStart context.periodStart) = some start)
    (hfinish : clock.moment? (dayEnd context.periodEnd) = some finish)
    (h : visit (examineIncident clock commitments priorities start finish) incidents =
      .ok examined) {R : Incident → Row → Prop}
    (hrows : List.Forall₂ R (incidents.filter (inScope clock priorities context))
      (examined.map (·.row))) : ∀ incident ∈ incidents,
        inScope clock priorities context incident = true →
          Governed clock commitments incident := by
  classical
  let governedInScope : Incident → Bool := fun incident =>
    decide (Governed clock commitments incident) && inScope clock priorities context incident
  have hkept : ∀ incident ∈ incidents, governedInScope incident = true ↔
      inScope clock priorities context incident = true ∧ Governed clock commitments incident := by
    simp [governedInScope, and_comm]
  have hall := rows_forall₂ hstart hfinish hkept h
  have hlength := hall.length_eq.trans ((List.length_map _).symm.trans hrows.length_eq.symm)
  rw [← List.filter_filter, List.length_filter_eq_length_iff] at hlength
  intro incident hmem hscope
  exact of_decide_eq_true (hlength incident (List.mem_filter.mpr ⟨hmem, hscope⟩))

theorem readable_of_visits (hstart : clock.moment? (dayStart context.periodStart) = some start)
    (hfinish : clock.moment? (dayEnd context.periodEnd) = some finish)
    (hgaps : ∃ gaps, visit (examineCommitment clock datasets priorities finish)
      datasets.contractCommitments = .ok gaps)
    (hexamined : ∃ examined, visit (examineIncident clock datasets.contractCommitments priorities
      start finish) datasets.incidents = .ok examined)
    (hgoverned : ∀ incident ∈ datasets.incidents,
      inScope clock priorities context incident = true →
        Governed clock datasets.contractCommitments incident) :
    AllReadable clock datasets priorities context := by
  have hlooks := exists_visit.mp hexamined
  simp only [exists_examineIncident (moment?_dayStart_aware hstart)
    (moment?_dayEnd_aware hfinish)] at hlooks
  refine ⟨⟨by rw [hstart]; rfl, by rw [hfinish]; rfl, fun incident hmem => ?_⟩,
    fun commitment hmem hpriority m hm => ?_, fun incident hmem hscope => ?_⟩
  · obtain ⟨opened, hopened, haware, -⟩ := hlooks incident hmem
    exact ⟨opened, hopened, haware⟩
  · obtain rfl : finish = m := Option.some_inj.mp (hfinish.symm.trans hm)
    exact (exists_examineCommitment (moment?_dayEnd_aware hfinish)).mp
      (exists_visit.mp hgaps commitment hmem) hpriority
  · obtain ⟨opened, hopened, -, hin⟩ := hlooks incident hmem
    exact (hin ((inScope_iff hstart hfinish hopened).mp hscope)).2
      ((governed_iff hopened).mp (hgoverned incident hmem hscope))

/-- What can be read is enough for both loops: an incident is opened before the end of the period,
for which the terms of the commitments can be read. -/
theorem visits_of_readable (h : AllReadable clock datasets priorities context) :
    ∃ start, clock.moment? (dayStart context.periodStart) = some start ∧
      ∃ finish, clock.moment? (dayEnd context.periodEnd) = some finish ∧
        (∃ gaps, visit (examineCommitment clock datasets priorities finish)
          datasets.contractCommitments = .ok gaps) ∧
        ∃ examined, visit (examineIncident clock datasets.contractCommitments priorities start
          finish) datasets.incidents = .ok examined := by
  obtain ⟨start, hstart⟩ := Option.isSome_iff_exists.mp h.times.start
  obtain ⟨finish, hfinish⟩ := Option.isSome_iff_exists.mp h.times.finish
  refine ⟨start, hstart, finish, hfinish, exists_visit.mpr fun commitment hmem => ?_,
    exists_visit.mpr fun incident hmem => ?_⟩
  · rw [exists_examineCommitment (moment?_dayEnd_aware hfinish)]
    exact fun hpriority => h.terms commitment hmem hpriority finish hfinish
  · rw [exists_examineIncident (moment?_dayStart_aware hstart) (moment?_dayEnd_aware hfinish)]
    obtain ⟨opened, hopened, haware⟩ := h.times.times incident hmem
    refine ⟨opened, hopened, haware, fun hscope => ⟨fun commitment hcommitment happlies => ?_,
      fun _ => h.responses incident hmem ((inScope_iff hstart hfinish hopened).mpr hscope)⟩⟩
    have hpriority : commitment.priority ∈ priorities := happlies.2 ▸ hscope.2
    exact (h.terms commitment hcommitment hpriority finish hfinish).mono hscope.1.2

theorem resultOf_effective :
    (resultOf gaps examined).conclusion = .effective ↔
      gaps = [] ∧ ∀ item ∈ examined, item.breach = none := by
  have hexceptions : gaps ++ (examined.filterMap (·.breach)).map (·.1) = [] ↔
      gaps = [] ∧ ∀ item ∈ examined, item.breach = none := by
    rw [List.append_eq_nil_iff, List.map_eq_nil_iff, List.filterMap_eq_nil_iff]
  rw [← hexceptions]
  unfold resultOf
  dsimp only
  split_ifs with hsome
  · exact iff_of_false (by simp) hsome
  · exact iff_of_true rfl (not_not.mp hsome)

/-- **SLA-01** answers for its population exactly when everything it reads can be read, a
commitment governs every incident in scope, and there is an incident in scope or a design gap. -/
theorem faithful_iff (clock : Clock) (datasets : Datasets) (priorities : List String)
    (context : Context) :
    Faithful datasets.incidents (inScope clock priorities context) Describes (·.classification)
        ((execute clock datasets priorities context).map (·.toTestResult)) ↔
      AllReadable clock datasets priorities context ∧
        (∀ incident ∈ datasets.incidents, inScope clock priorities context incident = true →
          Governed clock datasets.contractCommitments incident) ∧
        ((∃ incident ∈ datasets.incidents, inScope clock priorities context incident = true) ∨
          HasDesignGap clock datasets priorities context) := by
  classical
  constructor
  · rintro ⟨r, hr, hrows, hconclusion⟩
    obtain ⟨result, hresult, rfl⟩ := map_eq_ok.mp hr
    obtain ⟨start, hstart, finish, hfinish, gaps, hgaps, examined, hexamined, rfl⟩ :=
      execute_eq_ok.mp hresult
    have hgoverned := governed_of_rows hstart hfinish hexamined hrows
    refine ⟨readable_of_visits hstart hfinish ⟨gaps, hgaps⟩ ⟨examined, hexamined⟩ hgoverned,
      hgoverned, ?_⟩
    -- with neither a row nor a gap the conclusion is `effective`
    by_contra hnone
    push Not at hnone
    have hempty : datasets.incidents.filter (inScope clock priorities context) = [] :=
      List.filter_eq_nil_iff.mpr hnone.1
    rw [hempty, List.forall₂_nil_left_iff] at hrows
    have hnil : examined = [] := List.map_eq_nil_iff.mp hrows
    have heffective := resultOf_effective.mpr ⟨(gaps_eq_nil hfinish hgaps).mpr hnone.2,
      fun item hitem => absurd hitem (hnil ▸ List.not_mem_nil)⟩
    exact (hconclusion heffective).1 hrows
  · rintro ⟨hreadable, hgoverned, hsome⟩
    obtain ⟨start, hstart, finish, hfinish, ⟨gaps, hgaps⟩, examined, hexamined⟩ :=
      visits_of_readable hreadable
    have hall : List.Forall₂ (fun incident item => ∃ commitment elapsed,
        item = examine incident commitment elapsed)
        (datasets.incidents.filter (inScope clock priorities context)) examined :=
      rows_forall₂ hstart hfinish
        (fun incident hmem => ⟨fun hscope => ⟨hscope, hgoverned incident hmem hscope⟩, And.left⟩)
        hexamined
    refine ⟨_, map_eq_ok.mpr ⟨_, execute_eq_ok.mpr
      ⟨start, hstart, finish, hfinish, gaps, hgaps, examined, hexamined, rfl⟩, rfl⟩, ?_, ?_⟩
    · refine List.forall₂_map_right_iff.mpr (hall.imp ?_)
      rintro incident item ⟨commitment, elapsed, rfl⟩
      exact examine_describes incident commitment elapsed
    · intro heffective
      obtain ⟨hnogap, hpassed⟩ := resultOf_effective.mp heffective
      constructor
      · intro hnil
        have hexamined_nil : examined = [] := List.map_eq_nil_iff.mp hnil
        rw [hexamined_nil, List.forall₂_nil_right_iff, List.filter_eq_nil_iff] at hall
        obtain ⟨incident, hmem, hscope⟩ | hgap := hsome
        · exact hall incident hmem hscope
        · exact (gaps_eq_nil hfinish hgaps).mp hnogap hgap
      · intro row hrow
        obtain ⟨item, hitem, rfl⟩ := List.mem_map.mp hrow
        obtain ⟨incident, -, commitment, elapsed, rfl⟩ := exists_of_mem_forall₂ hall hitem
        exact .inl (examine_passed (hpassed _ hitem))

end Population

end ContractualResponseCommitments

/-- SCM-02 answers for every population that can be read.  SCM-01 also needs a pull request in the
period, and SLA-01 a commitment for each incident in scope, and such an incident or a design gap. -/
theorem populations_iff (clock : Clock) (context : Context) :
    (∀ (datasets : ApprovedChangeBeforeMerge.Datasets) (requiredApprovals : ℕ),
      Faithful datasets.pullRequests (ApprovedChangeBeforeMerge.inScope clock context)
          ApprovedChangeBeforeMerge.Describes (·.classification)
          (ApprovedChangeBeforeMerge.execute clock datasets requiredApprovals context) ↔
        Readable clock (clock.fromisoformat (dayStart context.periodStart))
            (clock.fromisoformat (dayEnd context.periodEnd)) (·.mergedAt) datasets.pullRequests ∧
          ∃ pullRequest ∈ datasets.pullRequests,
            ApprovedChangeBeforeMerge.inScope clock context pullRequest) ∧
    (∀ (datasets : ReviewedChangePath.Datasets) (requiredApprovals : ℕ),
      Faithful datasets.commits (ReviewedChangePath.inScope clock context)
          ReviewedChangePath.Describes (·.classification)
          (ReviewedChangePath.execute clock datasets requiredApprovals context) ↔
        Readable clock (clock.moment? (dayStart context.periodStart))
          (clock.moment? (dayEnd context.periodEnd)) (·.committedAt) datasets.commits) ∧
    ∀ (datasets : ContractualResponseCommitments.Datasets) (priorities : List String),
      Faithful datasets.incidents
          (ContractualResponseCommitments.inScope clock priorities context)
          ContractualResponseCommitments.Describes (·.classification)
          ((ContractualResponseCommitments.execute clock datasets priorities context).map
            (·.toTestResult)) ↔
        ContractualResponseCommitments.AllReadable clock datasets priorities context ∧
          (∀ incident ∈ datasets.incidents,
            ContractualResponseCommitments.inScope clock priorities context incident = true →
              ContractualResponseCommitments.Governed clock datasets.contractCommitments
                incident) ∧
          ((∃ incident ∈ datasets.incidents,
              ContractualResponseCommitments.inScope clock priorities context incident = true) ∨
            ContractualResponseCommitments.HasDesignGap clock datasets priorities context) :=
  ⟨fun datasets requiredApprovals =>
      ApprovedChangeBeforeMerge.faithful_iff clock datasets requiredApprovals context,
    fun datasets requiredApprovals =>
      ReviewedChangePath.faithful_iff clock datasets requiredApprovals context,
    fun datasets priorities =>
      ContractualResponseCommitments.faithful_iff clock datasets priorities context⟩

def july : Clock where
  fromisoformat := fun text => ([
    ("2026-07-01T00:00:00+00:00", 1782864000000000),
    ("2026-07-14T09:00:00+00:00", 1784019600000000),
    ("2026-07-16T01:00:00+00:00", 1784163600000000),
    ("2026-07-31T23:59:59.999999+00:00", 1785542399999999)].lookup text).map (Moment.mk true)
  dayStart_aware := by
    intro day m h
    obtain ⟨instant, -, rfl⟩ := Option.map_eq_some_iff.mp h
    rfl
  dayEnd_aware := by
    intro day m h
    obtain ⟨instant, -, rfl⟩ := Option.map_eq_some_iff.mp h
    rfl

def lateIncident : ContractualResponseCommitments.Incident where
  incidentId := "INC-4402"
  customer := "Northwind Trading BV"
  priority := "P1"
  openedAt := "2026-07-14T09:00:00Z"
  firstResponseAt := some "2026-07-16T01:00:00Z"
  operatedTargetHours := 8

/-- Over a month without a pull request SCM-01 concludes `effective`; SLA-01 drops an incident that
no commitment governs, and then concludes `effective` too. -/
theorem empty_period_effective :
    (ApprovedChangeBeforeMerge.execute july ⟨[], [], []⟩ 1 ⟨"2026-07-01", "2026-07-31"⟩ =
        .ok ⟨.effective, [], [], []⟩ ∧
      ¬ Faithful [] (ApprovedChangeBeforeMerge.inScope july ⟨"2026-07-01", "2026-07-31"⟩)
          ApprovedChangeBeforeMerge.Describes (·.classification)
          (ApprovedChangeBeforeMerge.execute july ⟨[], [], []⟩ 1 ⟨"2026-07-01", "2026-07-31"⟩)) ∧
    ContractualResponseCommitments.inScope july ["P1"] ⟨"2026-07-01", "2026-07-31"⟩
        lateIncident = true ∧
      (ContractualResponseCommitments.execute july ⟨[lateIncident], [], []⟩ ["P1"]
          ⟨"2026-07-01", "2026-07-31"⟩).map (·.conclusion) = .ok .effective ∧
      ¬ Faithful [lateIncident]
          (ContractualResponseCommitments.inScope july ["P1"] ⟨"2026-07-01", "2026-07-31"⟩)
          ContractualResponseCommitments.Describes (·.classification)
          ((ContractualResponseCommitments.execute july ⟨[lateIncident], [], []⟩ ["P1"]
            ⟨"2026-07-01", "2026-07-31"⟩).map (·.toTestResult)) := by
  have hscope : ContractualResponseCommitments.inScope july ["P1"] ⟨"2026-07-01", "2026-07-31"⟩
      lateIncident = true := by decide +kernel
  refine ⟨⟨by rfl, ?_⟩, hscope, by rfl, ?_⟩
  · rw [ApprovedChangeBeforeMerge.faithful_iff july ⟨[], [], []⟩]
    rintro ⟨-, pullRequest, hmem, -⟩
    exact absurd hmem List.not_mem_nil
  · rw [ContractualResponseCommitments.faithful_iff july ⟨[lateIncident], [], []⟩]
    rintro ⟨-, hgoverned, -⟩
    obtain ⟨opened, -, commitment, hmem, -⟩ :=
      hgoverned lateIncident (List.mem_singleton.mpr rfl) hscope
    exact absurd hmem List.not_mem_nil

end TestsLibrary
