/-
The two released tests of software changes: SCM-01, approved changes before merge
(`scm/approved-change-before-merge/test.py`), and SCM-02, the reviewed change path
(`scm/reviewed-change-path/test.py`).

Both take the records of the period one by one.  SCM-02 answers for every population it can read
(`ReviewedChangePath.faithful_iff`); SCM-01 concludes `effective` over a period without a pull
request (`ApprovedChangeBeforeMerge.faithful_iff`).
-/
import AssuranceOS.Lib.Dict
import AssuranceOS.TestsLibrary.Procedures

namespace TestsLibrary

open Checked Visit

namespace ApprovedChangeBeforeMerge

structure PullRequest where
  pullRequestId : String
  repository : String
  mergedAt : String
  approvals : ℕ
  changeTicket : Option String := none
  exceptionKey : Option String := none
  evidenceId : Option String := none

structure ChangeTicket where
  ticketId : String
  status : String
  evidenceId : Option String := none

structure ApprovedException where
  exceptionKey : String
  active : Bool

structure Datasets where
  pullRequests : List PullRequest
  changeTickets : List ChangeTicket
  approvedExceptions : List ApprovedException

structure Row where
  pullRequestId : String
  repository : String
  mergedAt : String
  approvals : ℕ
  changeTicket : Option String
  ticketStatus : Option String
  classification : Classification

def examine (tickets : List (String × ChangeTicket))
    (approvedExceptions : List (String × ApprovedException)) (requiredApprovals : ℕ)
    (pullRequest : PullRequest) : Row × Option (TestException Row) :=
  let ticket := pullRequest.changeTicket.bind fun ticketId => tickets.lookup ticketId
  let exception := pullRequest.exceptionKey.bind fun key => approvedExceptions.lookup key
  let approvalsOk := decide (requiredApprovals ≤ pullRequest.approvals)
  let ticketOk := ticket.any fun t => t.status = "Approved"
  let classification : Classification :=
    if exception.isSome then .approvedException
    else if approvalsOk && ticketOk then .effective
    else .controlException
  let row : Row := {
    pullRequestId := pullRequest.pullRequestId
    repository := pullRequest.repository
    mergedAt := pullRequest.mergedAt
    approvals := pullRequest.approvals
    changeTicket := pullRequest.changeTicket
    ticketStatus := ticket.map (·.status)
    classification }
  let reasons :=
    (if approvalsOk then [] else ["received " ++ toString pullRequest.approvals ++
      " approval(s); " ++ toString requiredApprovals ++ " required"]) ++
    (if ticketOk then [] else ["approved change ticket was not found"])
  (row, if classification = .controlException then some {
      exceptionKey := "SCM-01:" ++ pullRequest.repository ++ ":" ++ pullRequest.pullRequestId
      subjectRef := "github:" ++ pullRequest.repository ++ "#" ++ pullRequest.pullRequestId
      classification := "unapproved_change"
      reason := String.intercalate "; " reasons
      attributes := row
      evidenceIds := evidenceOf [pullRequest.evidenceId, ticket.bind (·.evidenceId)] }
    else none)

def ticketsOf (datasets : Datasets) : List (String × ChangeTicket) :=
  Dict.ofPairs (datasets.changeTickets.map fun item => (item.ticketId, item))

def approvedExceptionsOf (datasets : Datasets) : List (String × ApprovedException) :=
  Dict.ofPairs ((datasets.approvedExceptions.filter (·.active)).map
    fun item => (item.exceptionKey, item))

def resultOf (examined : List (Row × Option (TestException Row))) : TestResult Row Row :=
  let exceptions := examined.filterMap (·.2)
  { conclusion := if exceptions ≠ [] then .ineffective else .effective
    rows := examined.map (·.1)
    exceptions
    limitations := [] }

/-- The test over the pull requests merged in the period. -/
def execute (clock : Clock) (datasets : Datasets) (requiredApprovals : ℕ) (context : Context) :
    Except Raised (TestResult Row Row) := do
  let periodStart ← clock.read (dayStart context.periodStart)
  let periodEnd ← clock.read (dayEnd context.periodEnd)
  let examined ← visit (fun pullRequest => ifWithin periodStart periodEnd clock
    pullRequest.mergedAt (examine (ticketsOf datasets) (approvedExceptionsOf datasets)
      requiredApprovals pullRequest)) datasets.pullRequests
  return resultOf examined

/-- The pull request was merged in the period. -/
def inScope (clock : Clock) (context : Context) (pullRequest : PullRequest) : Bool :=
  inPeriod (clock.fromisoformat (dayStart context.periodStart))
    (clock.fromisoformat (dayEnd context.periodEnd)) (clock.moment? pullRequest.mergedAt)

/-- The row repeats what identifies the record. -/
def Describes (pullRequest : PullRequest) (row : Row) : Prop :=
  row.pullRequestId = pullRequest.pullRequestId ∧ row.repository = pullRequest.repository ∧
    row.mergedAt = pullRequest.mergedAt

section Examine

variable {tickets : List (String × ChangeTicket)}
  {approvedExceptions : List (String × ApprovedException)} {requiredApprovals : ℕ}
  {clock : Clock} {datasets : Datasets} {context : Context}

theorem examine_describes (pullRequest : PullRequest) :
    Describes pullRequest (examine tickets approvedExceptions requiredApprovals pullRequest).1 :=
  ⟨rfl, rfl, rfl⟩

theorem examine_passed {pullRequest : PullRequest}
    (h : (examine tickets approvedExceptions requiredApprovals pullRequest).2 = none) :
    (examine tickets approvedExceptions requiredApprovals pullRequest).1.classification =
        .effective ∨
      (examine tickets approvedExceptions requiredApprovals pullRequest).1.classification =
        .approvedException := by
  unfold examine at h ⊢
  dsimp only at h ⊢
  by_cases hexception : (pullRequest.exceptionKey.bind fun key =>
      approvedExceptions.lookup key).isSome
  · exact Or.inr (if_pos hexception)
  · rw [if_neg hexception] at h ⊢
    split_ifs at h ⊢ with hok _ hne
    · exact Or.inl rfl
    · exact absurd rfl hne

theorem resultOf_effective {examined : List (Row × Option (TestException Row))}
    (h : (resultOf examined).conclusion = .effective) : examined.filterMap (·.2) = [] := by
  by_contra hne
  unfold resultOf at h
  dsimp only at h
  rw [if_pos hne] at h
  exact absurd h (by simp)

theorem execute_eq_ok {result : TestResult Row Row} :
    execute clock datasets requiredApprovals context = .ok result ↔
      ∃ start ∈ clock.fromisoformat (dayStart context.periodStart),
        ∃ finish ∈ clock.fromisoformat (dayEnd context.periodEnd),
          ∃ examined, visit (fun pullRequest => ifWithin start finish clock pullRequest.mergedAt
              (examine (ticketsOf datasets) (approvedExceptionsOf datasets) requiredApprovals
                pullRequest)) datasets.pullRequests = .ok examined ∧
            result = resultOf examined := by
  unfold execute Clock.read
  simp only [ofOption_bind_eq_ok]
  refine exists_congr fun start => and_congr_right fun _ => exists_congr fun finish =>
    and_congr_right fun _ => ?_
  rw [bind_eq_ok]
  refine exists_congr fun examined => and_congr_right fun _ => ?_
  constructor
  · intro h
    cases h
    rfl
  · rintro rfl
    rfl

end Examine

/-- **SCM-01** answers for its population exactly when the times can be read and the period has a
pull request. -/
theorem faithful_iff (clock : Clock) (datasets : Datasets) (requiredApprovals : ℕ)
    (context : Context) :
    Faithful datasets.pullRequests (inScope clock context) Describes (·.classification)
        (execute clock datasets requiredApprovals context) ↔
      Readable clock (clock.fromisoformat (dayStart context.periodStart))
          (clock.fromisoformat (dayEnd context.periodEnd)) (·.mergedAt) datasets.pullRequests ∧
        ∃ pullRequest ∈ datasets.pullRequests, inScope clock context pullRequest := by
  rw [← exists_visit_ifWithin (clock.dayStart_aware _) (clock.dayEnd_aware _)
    (examine (ticketsOf datasets) (approvedExceptionsOf datasets) requiredApprovals)]
  constructor
  · rintro ⟨result, hresult, hrows, hconclusion⟩
    obtain ⟨start, hstart, finish, hfinish, examined, hvisit, rfl⟩ := execute_eq_ok.mp hresult
    refine ⟨⟨start, hstart, finish, hfinish, examined, hvisit⟩, ?_⟩
    -- without a pull request in the period there is no row, and the conclusion is `effective`
    by_contra hnone
    have hempty : datasets.pullRequests.filter (inScope clock context) = [] := by
      rw [List.filter_eq_nil_iff]
      exact fun pullRequest hmem hscope => hnone ⟨pullRequest, hmem, hscope⟩
    rw [hempty, List.forall₂_nil_left_iff] at hrows
    have hexamined : examined = [] := List.map_eq_nil_iff.mp hrows
    exact (hconclusion (by simp [hexamined, resultOf])).1 hrows
  · rintro ⟨⟨start, hstart, finish, hfinish, examined, hvisit⟩, pullRequest, hmem, hscope⟩
    have hall : List.Forall₂ _ (datasets.pullRequests.filter (inScope clock context)) examined :=
      visit_ifWithin (clock.dayStart_aware _) (clock.dayEnd_aware _) hstart hfinish hvisit
    refine ⟨_, execute_eq_ok.mpr ⟨start, hstart, finish, hfinish, examined, hvisit, rfl⟩, ?_, ?_⟩
    · refine List.forall₂_map_right_iff.mpr (hall.imp ?_)
      rintro pullRequest _ rfl
      exact examine_describes pullRequest
    · intro heffective
      have hpassed := List.filterMap_eq_nil_iff.mp (resultOf_effective heffective)
      refine ⟨fun hnil => ?_, fun row hrow => ?_⟩
      · rw [List.map_eq_nil_iff.mp hnil, List.forall₂_nil_right_iff] at hall
        exact List.ne_nil_of_mem (List.mem_filter.mpr ⟨hmem, hscope⟩) hall
      · obtain ⟨b, hb, rfl⟩ := List.mem_map.mp hrow
        obtain ⟨merged, -, rfl⟩ := exists_of_mem_forall₂ hall hb
        exact examine_passed (hpassed _ hb)

end ApprovedChangeBeforeMerge

namespace ReviewedChangePath

structure Commit where
  commitSha : String
  repository : String
  committedAt : String
  authorLogin : Option String := none
  evidenceId : Option String := none

structure CommitReview where
  commitSha : String
  associationDetermined : Bool
  mergedPullRequest : Option ℤ := none
  pullRequestStates : List String := []
  approvals : Option ℤ := none
  approvalsDetermined : Bool := false
  evidenceId : Option String := none

structure Datasets where
  commits : List Commit
  commitReviews : List CommitReview := []

structure Row where
  commitSha : String
  repository : String
  committedAt : String
  authorLogin : Option String
  mergedPullRequest : Option ℤ
  approvals : Option ℤ
  classification : Classification

inductive Attributes where
  | unreviewed (commitSha repository committedAt : String) (authorLogin : Option String)
      (pullRequestStates : List String)
  | unapproved (commitSha repository committedAt : String) (mergedPullRequest : ℤ)
      (approvals : Option ℤ)

/-- What could not be determined about a commit; each has its counter. -/
inductive Undetermined where
  | association
  | approvals
  deriving DecidableEq, Repr

/-- What the body of the loop appends and counts. -/
structure Examined where
  row : Row
  exception : Option (TestException Attributes) := none
  undetermined : Option Undetermined := none

def rowOf (commit : Commit) (mergedPullRequest approvals : Option ℤ)
    (classification : Classification) : Row where
  commitSha := commit.commitSha
  repository := commit.repository
  committedAt := commit.committedAt
  authorLogin := commit.authorLogin
  mergedPullRequest := mergedPullRequest
  approvals := approvals
  classification := classification

def exceptionOf (commit : Commit) (review : CommitReview) (classification reason : String)
    (attributes : Attributes) : TestException Attributes where
  exceptionKey := "SCM-02:" ++ commit.repository ++ ":" ++ commit.commitSha
  subjectRef := "github:" ++ commit.repository ++ "@" ++ commit.commitSha
  classification := classification
  reason := reason
  attributes := attributes
  evidenceIds := evidenceOf [commit.evidenceId, review.evidenceId]

/-- The body of the loop for a commit whose association is determined. -/
def examineReviewed (requiredApprovals : ℕ) (commit : Commit) (review : CommitReview) :
    Examined :=
  match review.mergedPullRequest with
  | none =>
    let states := review.pullRequestStates
    let reason := if states ≠ [] then
        "no merged pull request carried this change; the associated pull request(s) are " ++
          String.intercalate ", " (states.dedup.insertionSort (· ≤ ·)) ++
          ", and an unmerged pull request is not a compensating control"
      else
        "no pull request is associated with this commit; it reached the default branch directly"
    { row := rowOf commit none none .controlException
      exception := some (exceptionOf commit review "unreviewed_change" reason
        (.unreviewed commit.commitSha commit.repository commit.committedAt commit.authorLogin
          states)) }
  | some merged =>
    let approvals := review.approvals.getD 0
    if 0 < requiredApprovals ∧ ¬ review.approvalsDetermined then
      { row := rowOf commit (some merged) review.approvals .notDetermined
        undetermined := some .approvals }
    else if 0 < requiredApprovals ∧ approvals < requiredApprovals then
      { row := rowOf commit (some merged) review.approvals .controlException
        exception := some (exceptionOf commit review "unapproved_change"
          ("merged through pull request #" ++ toString merged ++ " with " ++
            toString approvals ++ " approval(s); " ++ toString requiredApprovals ++ " required")
          (.unapproved commit.commitSha commit.repository commit.committedAt merged
            review.approvals)) }
    else { row := rowOf commit (some merged) review.approvals .effective }

/-- An association that was not established is neither a pass nor an exception. -/
def examine (reviews : List (String × CommitReview)) (requiredApprovals : ℕ) (commit : Commit) :
    Examined :=
  match (reviews.lookup commit.commitSha).filter (·.associationDetermined) with
  | none => { row := rowOf commit none none .notDetermined, undetermined := some .association }
  | some review => examineReviewed requiredApprovals commit review

def reviewsOf (datasets : Datasets) : List (String × CommitReview) :=
  Dict.ofPairs (datasets.commitReviews.map fun item => (item.commitSha, item))

/-- `undetermined_association` or `undetermined_approvals`. -/
def undeterminedCount (what : Undetermined) (examined : List Examined) : ℕ :=
  (examined.filter fun item => item.undetermined = some what).length

def limitationsOf (examined : List Examined) : List String :=
  let undeterminedAssociation := undeterminedCount .association examined
  let undeterminedApprovals := undeterminedCount .approvals examined
  (if undeterminedAssociation ≠ 0 then [toString undeterminedAssociation ++
    " commit(s) had no determined pull-request association within the collection's lookup " ++
    "budget and are reported as neither effective nor exceptions"] else []) ++
  (if undeterminedApprovals ≠ 0 then [toString undeterminedApprovals ++
    " merged pull request(s) had no determined approval count within the collection's " ++
    "lookup budget"] else [])

def resultOf (examined : List Examined) : TestResult Row Attributes :=
  let rows := examined.map (·.row)
  let exceptions := examined.filterMap (·.exception)
  let limitations := limitationsOf examined
  { conclusion :=
      if exceptions ≠ [] then .ineffective
      -- nothing failed, and not everything was seen
      else if limitations ≠ [] then .insufficientEvidence
      else if rows = [] then .notApplicable
      else .effective
    rows
    exceptions
    limitations }

/-- The test over the commits of the period. -/
def execute (clock : Clock) (datasets : Datasets) (requiredApprovals : ℕ) (context : Context) :
    Except Raised (TestResult Row Attributes) := do
  let periodStart ← clock.moment (dayStart context.periodStart)
  let periodEnd ← clock.moment (dayEnd context.periodEnd)
  let examined ← visit (fun commit => ifWithin periodStart periodEnd clock commit.committedAt
    (examine (reviewsOf datasets) requiredApprovals commit)) datasets.commits
  return resultOf examined

/-- The commit was made in the period. -/
def inScope (clock : Clock) (context : Context) (commit : Commit) : Bool :=
  inPeriod (clock.moment? (dayStart context.periodStart))
    (clock.moment? (dayEnd context.periodEnd)) (clock.moment? commit.committedAt)

/-- The row repeats what identifies the record. -/
def Describes (commit : Commit) (row : Row) : Prop :=
  row.commitSha = commit.commitSha ∧ row.repository = commit.repository ∧
    row.committedAt = commit.committedAt

section Examine

variable {reviews : List (String × CommitReview)} {requiredApprovals : ℕ} {clock : Clock}
  {datasets : Datasets} {context : Context}

/-- The row tells of the commit, and a commit without an exception is determined or effective. -/
theorem examineReviewed_spec (commit : Commit) (review : CommitReview) :
    Describes commit (examineReviewed requiredApprovals commit review).row ∧
      ((examineReviewed requiredApprovals commit review).exception = none →
        (examineReviewed requiredApprovals commit review).undetermined = none →
        (examineReviewed requiredApprovals commit review).row.classification = .effective) := by
  unfold examineReviewed
  rcases review.mergedPullRequest with _ | merged
  · exact ⟨⟨rfl, rfl, rfl⟩, fun h => absurd h (by simp)⟩
  · dsimp only
    split_ifs
    · exact ⟨⟨rfl, rfl, rfl⟩, fun _ h => absurd h (by simp)⟩
    · exact ⟨⟨rfl, rfl, rfl⟩, fun h => absurd h (by simp)⟩
    · exact ⟨⟨rfl, rfl, rfl⟩, fun _ _ => rfl⟩

theorem examine_spec (commit : Commit) :
    Describes commit (examine reviews requiredApprovals commit).row ∧
      ((examine reviews requiredApprovals commit).exception = none →
        (examine reviews requiredApprovals commit).undetermined = none →
        (examine reviews requiredApprovals commit).row.classification = .effective) := by
  unfold examine
  split
  · exact ⟨⟨rfl, rfl, rfl⟩, fun _ h => absurd h (by simp)⟩
  · exact examineReviewed_spec commit _

variable {examined : List Examined}

theorem undeterminedCount_eq_zero {what : Undetermined} :
    undeterminedCount what examined = 0 ↔ ∀ item ∈ examined, item.undetermined ≠ some what := by
  unfold undeterminedCount
  rw [List.length_eq_zero_iff, List.filter_eq_nil_iff]
  simp

theorem limitationsOf_eq_nil (h : limitationsOf examined = []) :
    ∀ item ∈ examined, item.undetermined = none := by
  simp only [limitationsOf, List.append_eq_nil_iff, ite_eq_right_iff, List.cons_ne_nil, imp_false,
    ne_eq, not_not] at h
  intro item hitem
  rcases hwhat : item.undetermined with _ | _ | _
  · rfl
  · exact absurd hwhat (undeterminedCount_eq_zero.mp h.1 item hitem)
  · exact absurd hwhat (undeterminedCount_eq_zero.mp h.2 item hitem)

/-- The conclusion is `effective` only where there are rows, and all of them were seen to pass. -/
theorem resultOf_effective (h : (resultOf examined).conclusion = .effective) : examined ≠ [] ∧
      ∀ item ∈ examined, item.exception = none ∧ item.undetermined = none := by
  unfold resultOf at h
  dsimp only at h
  split_ifs at h with hexceptions hlimitations hrows
  refine ⟨fun hnil => hrows (by rw [hnil]; rfl), fun item hitem => ⟨?_, ?_⟩⟩
  · exact List.filterMap_eq_nil_iff.mp (not_not.mp hexceptions) item hitem
  · exact limitationsOf_eq_nil (not_not.mp hlimitations) item hitem

theorem execute_eq_ok {result : TestResult Row Attributes} :
    execute clock datasets requiredApprovals context = .ok result ↔
      ∃ start ∈ clock.moment? (dayStart context.periodStart),
        ∃ finish ∈ clock.moment? (dayEnd context.periodEnd),
          ∃ examined, visit (fun commit => ifWithin start finish clock commit.committedAt
              (examine (reviewsOf datasets) requiredApprovals commit)) datasets.commits =
                .ok examined ∧
            result = resultOf examined := by
  unfold execute
  simp only [bind_eq_ok, moment_eq_ok]
  refine exists_congr fun start => and_congr_right fun _ => exists_congr fun finish =>
    and_congr_right fun _ => exists_congr fun examined => and_congr_right fun _ => ?_
  constructor
  · intro h
    cases h
    rfl
  · rintro rfl
    rfl

end Examine

/-- **SCM-02** answers for every population whose times can be read. -/
theorem faithful_iff (clock : Clock) (datasets : Datasets) (requiredApprovals : ℕ)
    (context : Context) :
    Faithful datasets.commits (inScope clock context) Describes (·.classification)
        (execute clock datasets requiredApprovals context) ↔
      Readable clock (clock.moment? (dayStart context.periodStart))
        (clock.moment? (dayEnd context.periodEnd)) (·.committedAt) datasets.commits := by
  rw [← exists_visit_ifWithin (fun _ => moment?_dayStart_aware) (fun _ => moment?_dayEnd_aware)
    (examine (reviewsOf datasets) requiredApprovals)]
  constructor
  · rintro ⟨result, hresult, -⟩
    obtain ⟨start, hstart, finish, hfinish, examined, hvisit, -⟩ := execute_eq_ok.mp hresult
    exact ⟨start, hstart, finish, hfinish, examined, hvisit⟩
  · rintro ⟨start, hstart, finish, hfinish, examined, hvisit⟩
    have hall : List.Forall₂ _ (datasets.commits.filter (inScope clock context)) examined :=
      visit_ifWithin (fun _ => moment?_dayStart_aware) (fun _ => moment?_dayEnd_aware) hstart
        hfinish hvisit
    refine ⟨_, execute_eq_ok.mpr ⟨start, hstart, finish, hfinish, examined, hvisit, rfl⟩, ?_, ?_⟩
    · refine List.forall₂_map_right_iff.mpr (hall.imp ?_)
      rintro commit _ rfl
      exact (examine_spec commit).1
    · intro heffective
      obtain ⟨hne, hpassed⟩ := resultOf_effective heffective
      refine ⟨fun hnil => hne (List.map_eq_nil_iff.mp hnil), fun row hrow => ?_⟩
      obtain ⟨item, hitem, rfl⟩ := List.mem_map.mp hrow
      obtain ⟨commit, -, rfl⟩ := exists_of_mem_forall₂ hall hitem
      exact Or.inl ((examine_spec commit).2 (hpassed _ hitem).1 (hpassed _ hitem).2)

end ReviewedChangePath

end TestsLibrary
