/-
The vocabulary of the scheduler (`scheduling/definitions.py`, `scheduling/exceptions.py`), and
recurrence, calendars and periods (`scheduling/recurrence.py`, `calendar.py`, `periods.py`).

The bounds that pydantic and the check constraints of the tables put on a value are fields of the
structures.  Instants are microseconds on the UTC time line, a date is its ordinal.  The free-form
preflight policy is read key by key.

`RecurrenceEngine` wraps a library of recurrence rules and a database of time zones; both are
parameters.  The library compares readings of the clocks of one zone as they are on the wall, so
that where the clocks are set a window of the engine is none of instants.
-/
import Mathlib.Data.Set.Finite.Basic
import Mathlib.Order.Interval.Set.Basic
import AssuranceOS.Orchestration.Compiler
import AssuranceOS.Lib.Checked
import AssuranceOS.Lib.Months

namespace Scheduling

open Orchestration (Timestamp OrchestrationError)

/-- `timedelta(seconds=n)`. -/
def seconds (n : ℤ) : Timestamp := n * 1000000

/-- Days. -/
abbrev Date := ℤ

/-! ### Statuses and policies -/

inductive LaunchMode where
  | approvalRequired
  | preflightThenApproval
  | automatic
  deriving DecidableEq, Repr

inductive MissedOccurrencePolicy where
  | launchAll
  | launchLatest
  | skip
  deriving DecidableEq, Repr

inductive OverlapPolicy where
  | prevent
  | allow
  deriving DecidableEq, Repr

inductive OccurrenceStatus where
  | due
  | deferred
  | skipped
  | preflightBlocked
  | waitingApproval
  | launching
  | launched
  | launchFailed
  | cancelled
  deriving DecidableEq, Repr

inductive ScheduleStatus where
  | draft
  | active
  | superseded
  | disabled
  deriving DecidableEq, Repr

/-- The statuses of audit plans and engagement templates. -/
inductive ReleaseStatus where
  | draft
  | approved
  | released
  | retired
  deriving DecidableEq, Repr

/-- A value that `int(...)` or `float(...)` refuses. -/
inductive ConversionError where
  | typeError
  | valueError
  deriving DecidableEq, Repr

inductive RecurrenceError where
  | unknownTimeZone (name : String)
  | invalidRule (reason : String)
  | overLimit (limit : ℕ)
  deriving DecidableEq, Repr

/-- Everything a call of the scheduler or of the authoring service can raise. -/
inductive SchedulingError where
  /-- `lease_seconds must be positive` -/
  | leaseNotPositive
  | scheduleNotFound (scheduleId : String)
  | scheduleNotActive (scheduleId : String)
  | occurrenceNotFound (occurrenceId : String)
  | cannotApprove (occurrenceId : String) (status : OccurrenceStatus)
  | notWaitingApproval (occurrenceId : String) (status : OccurrenceStatus)
  | cannotCancel (occurrenceId : String) (status : OccurrenceStatus)
  | cannotLaunch (occurrenceId : String) (status : OccurrenceStatus)
  /-- `schedule references a missing engagement template` -/
  | missingTemplate
  /-- `schedule or template is unavailable` -/
  | unavailable
  | planNotFound (planId : String)
  | templateNotFound (templateId : String)
  /-- `schedule requires an approved audit plan` -/
  | planNotApproved
  /-- `schedule requires a released engagement template` -/
  | templateNotReleased
  /-- `effective_until cannot precede effective_from` -/
  | effectiveWindow
  | scheduleState (status : ScheduleStatus)
  | recurrence (error : RecurrenceError)
  | conversion (error : ConversionError)
  /-- the workflow definition does not validate -/
  | workflowInvalid
  /-- a date after `date.max` -/
  | overflow
  | integrityError
  | orchestration (error : OrchestrationError)

structure AuditPeriod where
  periodStart : Date
  periodEnd : Date

def AuditPeriod.Overlaps (p q : AuditPeriod) : Prop :=
  p.periodStart ≤ q.periodEnd ∧ q.periodStart ≤ p.periodEnd

instance (p q : AuditPeriod) : Decidable (p.Overlaps q) :=
  inferInstanceAs (Decidable (_ ∧ _))

inductive AuditPeriodRule where
  | calendarMonths (months : ℕ) (endOffsetDays : ℕ) (months_pos : 1 ≤ months)
  | rollingDays (days : ℕ) (endOffsetDays : ℕ) (days_pos : 1 ≤ days)

/-- How many days before the due date the period ends. -/
def AuditPeriodRule.endOffsetDays : AuditPeriodRule → ℕ
  | .calendarMonths _ offset _ => offset
  | .rollingDays _ offset _ => offset

/-- A week has days. -/
instance weekDays_ne_zero : NeZero 7 := ⟨by decide⟩

structure BusinessCalendarConfig where
  weekendDays : List (Fin 7) := [5, 6]
  holidays : List Date := []

inductive BlackoutBehavior where
  | delay
  | skip
  deriving DecidableEq, Repr

structure BlackoutWindow where
  start : Date
  stop : Date
  behavior : BlackoutBehavior
  reason : String
  order : start ≤ stop

/-- The windows in which launches are held back. -/
abbrev BlackoutPolicy := List BlackoutWindow

/-- The keys of a preflight policy that the scheduler reads; `none` is a missing key. -/
structure PreflightPolicy where
  requiredConnectors : Option (List String) := none
  requiredCompetencies : Option (List String) := none
  estimatedCostUsd : Option (Option (Except ConversionError ℚ)) := none
  independenceRoles : Option (List String) := none
  launchRetrySeconds : Option (Except ConversionError ℤ) := none

/-- `{**template_policy, **schedule_policy}`. -/
def PreflightPolicy.merge (template schedule : PreflightPolicy) : PreflightPolicy where
  requiredConnectors := schedule.requiredConnectors <|> template.requiredConnectors
  requiredCompetencies := schedule.requiredCompetencies <|> template.requiredCompetencies
  estimatedCostUsd := schedule.estimatedCostUsd <|> template.estimatedCostUsd
  independenceRoles := schedule.independenceRoles <|> template.independenceRoles
  launchRetrySeconds := schedule.launchRetrySeconds <|> template.launchRetrySeconds

structure PreflightContext where
  connectorHealth : List (String × String) := []
  availableBudgetUsd : Option ℚ := none
  availableCompetencies : List String := []
  independenceConflicts : List String := []

/-- The details of a check. -/
inductive CheckDetails where
  | none
  | connector (observedState : Option String)
  | competencies (missing : List String)
  | budget (required : Option (Except ConversionError ℚ)) (available : Option ℚ)
  | independence (conflicts : List String)
  | concurrency (active limit : ℕ)
  | overlap (conflictingEngagementId : Option String)

structure PreflightCheck where
  code : String
  passed : Bool
  message : String
  details : CheckDetails := .none

structure PreflightReport where
  passed : Bool
  checkedAt : Timestamp
  checks : List PreflightCheck

structure OccurrenceDecision where
  actorId : String
  reason : String
  preflightContext : PreflightContext := {}
  actorId_ne_empty : actorId ≠ ""

structure ScheduleDecision where
  actorId : String
  reason : String

structure ScheduleEvaluationSummary where
  tenantId : String
  evaluatedAt : Timestamp
  schedulesEvaluated : ℕ := 0
  occurrencesCreated : ℕ := 0
  launched : ℕ := 0
  waitingApproval : ℕ := 0
  blocked : ℕ := 0
  skipped : ℕ := 0
  deferred : ℕ := 0
  failures : ℕ := 0
  occurrenceIds : List String := []

/-- A wall-clock reading; `fold` tells apart the two readings of a repeated hour. -/
structure LocalTime where
  wall : ℤ
  fold : Bool

/-- A time zone of `zoneinfo`: the readings of its clocks, and the instants of readings. -/
structure Zone where
  toLocal : Timestamp → LocalTime
  toUtc : LocalTime → Timestamp

def dayLength : ℤ := 86400 * 1000000

def epochDay : Date := 719163

/-- `due_local.date()`. -/
def LocalTime.date (t : LocalTime) : Date := t.wall / dayLength + epochDay

/-- `datetime.combine(day, t.timetz())`. -/
def LocalTime.onDay (t : LocalTime) (day : Date) : LocalTime where
  wall := (day - epochDay) * dayLength + t.wall % dayLength
  fold := t.fold

/-- `isoformat()` of an instant. -/
def isoformat (t : Timestamp) : String :=
  let second := t / 1000000 % 86400
  let fraction := t % 1000000
  String.ofList (Civil.dateText ['-'] (t / dayLength + epochDay) ++ 'T' ::
    Civil.padded 2 (second / 3600).toNat ++ ':' :: Civil.padded 2 (second / 60 % 60).toNat ++
    ':' :: Civil.padded 2 (second % 60).toNat ++
    (if fraction = 0 then [] else '.' :: Civil.padded 6 fraction.toNat) ++
    ['+', '0', '0', ':', '0', '0'])

/-- A value of a rule: a reading of the clocks of the schedule's zone, or an instant where the
rule brings a time zone of its own. -/
inductive RuleValue where
  | reading (t : LocalTime)
  | instant (t : Timestamp)

namespace RuleValue

variable (zone : Zone)

/-- `value > start`: readings of one zone compare by their walls, whatever their folds. -/
def isAfter (start : LocalTime) : RuleValue → Bool
  | .reading t => start.wall < t.wall
  | .instant t => zone.toUtc start < t

/-- `value.astimezone(timezone.utc)`. -/
def toUtc : RuleValue → Timestamp
  | .reading t => zone.toUtc t
  | .instant t => t

end RuleValue

/-- The engine over its libraries: `between` and `after` are those of a parsed rule. -/
structure RecurrenceEngine where
  zoneInfo : String → Option Zone
  /-- `rrulestr(rule, dtstart=...).between(start, end, inc=True)` -/
  between : String → Zone → LocalTime → LocalTime → LocalTime →
    Except RecurrenceError (List RuleValue)
  /-- `rrulestr(rule, dtstart=...).after(start, inc=False)` -/
  after : String → Zone → LocalTime → LocalTime → Except RecurrenceError (Option RuleValue)
  /-- the upper-case mapping of `str.upper` -/
  uppercase : Char → List Char

namespace RecurrenceEngine

variable (engine : RecurrenceEngine)

/-- `RecurrenceEngine.timezone`. -/
def timezone (name : String) : Except RecurrenceError Zone :=
  match engine.zoneInfo name with
  | some zone => .ok zone
  | none => .error (.unknownTimeZone name)

/-- `_normalize_rule`. -/
def normalizeRule (rule : String) : String :=
  let stripped := PyString.strip rule
  let upper := String.ofList (stripped.toList.flatMap engine.uppercase)
  if PyString.startswith upper ["RRULE:", "DTSTART"] then stripped else "RRULE:" ++ stripped

/-- `occurrences_between`: the values after `startExclusive`, up to `endInclusive`; more than
`limit` of them are refused. -/
def occurrencesBetween (rule timezoneName : String)
    (effectiveFrom startExclusive endInclusive : Timestamp) (limit : ℕ := 1000) :
    Except RecurrenceError (List Timestamp) := do
  let zone ← engine.timezone timezoneName
  let startLocal := zone.toLocal startExclusive
  let values ← engine.between (engine.normalizeRule rule) zone (zone.toLocal effectiveFrom)
    startLocal (zone.toLocal endInclusive)
  let filtered := values.filter (·.isAfter zone startLocal)
  if limit < filtered.length then .error (.overLimit limit)
  else return filtered.map (·.toUtc zone)

/-- `next_after`. -/
def nextAfter (rule timezoneName : String) (effectiveFrom after : Timestamp) :
    Except RecurrenceError (Option Timestamp) := do
  let zone ← engine.timezone timezoneName
  let value ← engine.after (engine.normalizeRule rule) zone (zone.toLocal effectiveFrom)
    (zone.toLocal after)
  return value.map (·.toUtc zone)

/-- The engine lists exactly the values of the rule in a half-open window of instants. -/
structure LawfulBetween (rule timezoneName : String) (effectiveFrom : Timestamp)
    (values : Set Timestamp) : Prop where
  listed : ∀ (start stop : Timestamp) (l : List Timestamp),
    engine.occurrencesBetween rule timezoneName effectiveFrom start stop = .ok l →
      ∀ t, t ∈ l ↔ t ∈ values ∧ start < t ∧ t ≤ stop

/-- The instant is a value of the rule: the engine lists it in some window that ends no later
than `effectiveUntil`. -/
def Yields (rule timezoneName : String) (effectiveFrom : Timestamp)
    (effectiveUntil : Option Timestamp) (v : Timestamp) : Prop :=
  ∃ start stop l, (∀ last ∈ effectiveUntil, stop ≤ last) ∧
    engine.occurrencesBetween rule timezoneName effectiveFrom start stop = .ok l ∧ v ∈ l

variable {engine} in
theorem occurrencesBetween_eq_ok {rule timezoneName : String}
    {effectiveFrom start stop : Timestamp} {limit : ℕ} {l : List Timestamp}
    (h : engine.occurrencesBetween rule timezoneName effectiveFrom start stop limit = .ok l) :
    ∃ zone all, engine.timezone timezoneName = .ok zone ∧
      engine.between (engine.normalizeRule rule) zone (zone.toLocal effectiveFrom)
        (zone.toLocal start) (zone.toLocal stop) = .ok all ∧
      l = (all.filter (·.isAfter zone (zone.toLocal start))).map (·.toUtc zone) := by
  obtain ⟨zone, hzone, h⟩ := Checked.bind_eq_ok.mp h
  obtain ⟨all, hall, h⟩ := Checked.bind_eq_ok.mp h
  dsimp only at h
  split at h
  · cases h
  · exact ⟨zone, all, hzone, hall, (Except.ok.inj h).symm⟩

end RecurrenceEngine

namespace BusinessCalendar

variable (config : BusinessCalendarConfig)

/-- Neither a day of the weekend nor a holiday. -/
def isBusinessDay (value : Date) : Bool :=
  !config.weekendDays.any (fun day => (day.val : ℤ) = Civil.weekday value)
    && !config.holidays.contains value

/-- The ordinal of `date.max`. -/
def maxDay : Date := 3652059

/-- The search for a business day; it fails where the dates end. -/
def search : ℕ → Date → Except SchedulingError Date
  | 0, _ => .error .overflow
  | fuel + 1, candidate =>
    if isBusinessDay config candidate then .ok candidate else search fuel (candidate + 1)

/-- `next_business_day`. -/
def nextBusinessDay (value : Date) : Except SchedulingError Date :=
  search config (maxDay - value + 1).toNat value

end BusinessCalendar

/-- What a blackout does to an occurrence. -/
inductive BlackoutAction where
  | none
  | delay
  | skip
  deriving DecidableEq, Repr

structure BlackoutResolution where
  eligibleAt : LocalTime
  action : BlackoutAction := .none
  reason : Option String := Option.none

/-- `BusinessCalendar.resolve_blackout`: the first window around the date decides. -/
def resolveBlackout (config : BusinessCalendarConfig) (dueLocal : LocalTime) :
    BlackoutPolicy → Except SchedulingError BlackoutResolution
  | [] => .ok { eligibleAt := dueLocal }
  | window :: windows =>
    if window.start ≤ dueLocal.date ∧ dueLocal.date ≤ window.stop then
      match window.behavior with
      | .skip => .ok { eligibleAt := dueLocal, action := .skip, reason := window.reason }
      | .delay => do
        let nextDay ← BusinessCalendar.nextBusinessDay config (window.stop + 1)
        return { eligibleAt := dueLocal.onDay nextDay, action := .delay, reason := window.reason }
    else resolveBlackout config dueLocal windows

namespace AuditPeriodCalculator

open Checked Civil

/-- `AuditPeriodCalculator.calculate`. -/
def calculate (dueLocal : LocalTime) : AuditPeriodRule → Except SchedulingError (ℤ × ℤ)
  | .rollingDays days offset _ => do
    let periodEnd ← ofOption .overflow (minusDays dueLocal.date offset)
    let periodStart ← ofOption .overflow (minusDays periodEnd (days - 1))
    return (periodStart, periodEnd)
  | .calendarMonths months offset _ => do
    let periodEnd ← ofOption .overflow (minusDays dueLocal.date offset)
    let firstOfEndMonth := replaceDay periodEnd 1
    let periodStart ← ofOption .overflow (minusMonths firstOfEndMonth (months - 1))
    let lastDay := monthrange (year periodEnd) (month periodEnd)
    if day periodEnd ≠ lastDay then
      -- A calendar-month period is complete only through the last completed month.
      let previousMonthEnd ← ofOption .overflow (minusDays firstOfEndMonth 1)
      let periodStart ← ofOption .overflow
        (minusMonths (replaceDay previousMonthEnd 1) (months - 1))
      return (periodStart, previousMonthEnd)
    return (periodStart, periodEnd)

end AuditPeriodCalculator

end Scheduling
