/-
The transactional outbox: its rows and `OutboxRepository`.

A row is open until it is published or dead-lettered.  Every statement of the
repository is an `UPDATE ... WHERE` on one row: `claim` takes leases on open rows,
`mark_published` and `mark_failed` end the lease of the worker that holds it.  `Change`
says what such a statement can do to a row, and `Write` what it can do to the table
(`claim_writes`, `markPublished_write`, `markFailed_write`).
-/
import AssuranceOS.Adjudication.Repository
import Mathlib.Data.Int.Order.Basic
import Mathlib.Logic.Relation

namespace Outbox

open Adjudication Checked

/-- Microseconds. -/
abbrev Timestamp := ℤ

/-- `timedelta(seconds=n)`. -/
def seconds (n : ℤ) : Timestamp := n * 1000000

structure OutboxEvent where
  outboxId : String
  tenantId : String := ""
  eventType : String := ""
  occurredAt : Timestamp
  availableAt : Timestamp
  leaseOwner : Option String := none
  leaseExpiresAt : Option Timestamp := none
  publishedAt : Option Timestamp := none
  publishedMessageId : Option String := none
  deadLetteredAt : Option Timestamp := none
  publishAttempts : Nat := 0
  lastError : Option String := none
  deriving DecidableEq

namespace OutboxEvent

def Open (e : OutboxEvent) : Prop := e.publishedAt = none ∧ e.deadLetteredAt = none

instance (e : OutboxEvent) : Decidable e.Open :=
  inferInstanceAs (Decidable (e.publishedAt = none ∧ e.deadLetteredAt = none))

/-- The `WHERE` of a claim: an open row whose back-off and lease have passed. -/
def Claimable (now : Timestamp) (e : OutboxEvent) : Prop :=
  e.Open ∧ e.availableAt ≤ now ∧ ∀ t ∈ e.leaseExpiresAt, t ≤ now

instance (now : Timestamp) (e : OutboxEvent) : Decidable (e.Claimable now) :=
  inferInstanceAs (Decidable (_ ∧ _ ∧ ∀ t ∈ e.leaseExpiresAt, t ≤ now))

/-- The `WHERE` of both marks: not published, and leased by the worker. -/
def HeldBy (workerId : String) (e : OutboxEvent) : Prop :=
  e.publishedAt = none ∧ e.leaseOwner = some workerId

instance (workerId : String) (e : OutboxEvent) : Decidable (e.HeldBy workerId) :=
  inferInstanceAs (Decidable (e.publishedAt = none ∧ e.leaseOwner = some workerId))

/-- The row, claimed by this worker. -/
def leased (e : OutboxEvent) (workerId : String) (expiresAt : Timestamp) : OutboxEvent :=
  { e with leaseOwner := some workerId, leaseExpiresAt := some expiresAt }

def published (e : OutboxEvent) (publishedAt : Timestamp) (messageId : String) : OutboxEvent :=
  { e with
    publishedAt := some publishedAt
    publishedMessageId := some messageId
    publishAttempts := e.publishAttempts + 1
    leaseOwner := none
    leaseExpiresAt := none
    lastError := none }

def failed (e : OutboxEvent) (now : Timestamp) (error : String) (retryDelaySeconds : ℤ)
    (deadLetter : Bool) : OutboxEvent :=
  { e with
    publishAttempts := e.publishAttempts + 1
    lastError := some (error.take 4000).copy
    leaseOwner := none
    leaseExpiresAt := none
    availableAt := now + seconds (max retryDelaySeconds 0)
    deadLetteredAt := if deadLetter then some now else e.deadLetteredAt }

end OutboxEvent

inductive OutboxError where
  /-- `lease_seconds and limit must be positive` -/
  | notPositive
  /-- `outbox lease was lost after publishing` -/
  | leaseLostAfterPublishing
  /-- `outbox lease was lost while recording publish failure` -/
  | leaseLostAfterFailure
  deriving DecidableEq

/-- `UPDATE ... WHERE outbox_id = ? AND p`; nothing when the row count is zero. -/
def update? (outboxId : String) (p : OutboxEvent → Bool) (f : OutboxEvent → OutboxEvent)
    (rows : List OutboxEvent) : Option (OutboxEvent × List OutboxEvent) :=
  match Table.get? OutboxEvent.outboxId outboxId rows with
  | some e => if p e then some (f e, Table.put OutboxEvent.outboxId (f e) rows) else none
  | none => none

/-- The `SELECT` of a claim. -/
def candidates (now : Timestamp) (limit : ℤ) (rows : List OutboxEvent) : List OutboxEvent :=
  (orderBy (fun e => toLex (e.availableAt, toLex (e.occurredAt, e.outboxId)))
    (rows.filter fun e => e.Claimable now)).take limit.toNat

/-- The loop of a claim: the rows that it leases, as they are read back. -/
def leaseEach (workerId : String) (now expiresAt : Timestamp) :
    List OutboxEvent → List OutboxEvent → List OutboxEvent × List OutboxEvent
  | [], rows => ([], rows)
  | candidate :: rest, rows =>
    match update? candidate.outboxId (fun e => e.Claimable now)
        (fun e => e.leased workerId expiresAt) rows with
    | some (e, rows) =>
      let (claimed, rows) := leaseEach workerId now expiresAt rest rows
      (e :: claimed, rows)
    | none => leaseEach workerId now expiresAt rest rows

/-- The due events, at most `limit` of them, leased to the worker. -/
def claim (workerId : String) (now : Timestamp) (leaseSeconds limit : ℤ)
    (rows : List OutboxEvent) : Except OutboxError (List OutboxEvent × List OutboxEvent) := do
  require (0 < leaseSeconds ∧ 0 < limit) .notPositive
  return leaseEach workerId now (now + seconds leaseSeconds) (candidates now limit rows) rows

def markPublished (outboxId workerId : String) (publishedAt : Timestamp) (messageId : String)
    (rows : List OutboxEvent) : Option (List OutboxEvent) :=
  (update? outboxId (fun e => e.HeldBy workerId)
    (fun e => e.published publishedAt messageId) rows).map Prod.snd

def markFailed (outboxId workerId : String) (now : Timestamp) (error : String)
    (retryDelaySeconds : ℤ) (deadLetter : Bool) (rows : List OutboxEvent) :
    Option (List OutboxEvent) :=
  (update? outboxId (fun e => e.HeldBy workerId)
    (fun e => e.failed now error retryDelaySeconds deadLetter) rows).map Prod.snd

/-! ### What a statement can do -/

/-- What a statement can do to a row.  `accepted` is what the publisher has accepted, and
`maxAttempts` the number of attempts after which a failure is final. -/
inductive Change (accepted : List (String × String)) (maxAttempts : Nat) :
    OutboxEvent → OutboxEvent → Prop
  | lease {e : OutboxEvent} {now : Timestamp} (workerId : String) (expiresAt : Timestamp)
      (claimable : e.Claimable now) : Change accepted maxAttempts e (e.leased workerId expiresAt)
  | publish {e : OutboxEvent} {workerId messageId : String} (at_ : Timestamp)
      (held : e.HeldBy workerId) (sent : (e.outboxId, messageId) ∈ accepted) :
      Change accepted maxAttempts e (e.published at_ messageId)
  | fail {e : OutboxEvent} {workerId : String} {deadLetter : Bool} (now : Timestamp)
      (error : String) (delay : ℤ) (held : e.HeldBy workerId)
      (final : deadLetter → maxAttempts ≤ e.publishAttempts + 1) :
      Change accepted maxAttempts e (e.failed now error delay deadLetter)

/-- What a transaction can do to the table. -/
inductive Write (accepted : List (String × String)) (maxAttempts : Nat) :
    List OutboxEvent → List OutboxEvent → Prop
  | add {rows : List OutboxEvent} (e : OutboxEvent)
      (fresh : e.outboxId ∉ rows.map OutboxEvent.outboxId)
      (unclaimed : e.Open ∧ e.leaseOwner = none ∧ e.publishAttempts = 0) :
      Write accepted maxAttempts rows (rows ++ [e])
  | put {rows : List OutboxEvent} {e e' : OutboxEvent} (mem : e ∈ rows)
      (change : Change accepted maxAttempts e e') :
      Write accepted maxAttempts rows (Table.put OutboxEvent.outboxId e' rows)

section Changes

variable {accepted : List (String × String)} {maxAttempts : Nat} {e e' : OutboxEvent}
  {rows rows' : List OutboxEvent} {workerId id : String} {now : Timestamp}

theorem Change.outboxId (h : Change accepted maxAttempts e e') : e'.outboxId = e.outboxId := by
  cases h with
  | lease | publish | fail => rfl

theorem Change.attempts (h : Change accepted maxAttempts e e') :
    e.publishAttempts ≤ e'.publishAttempts := by
  cases h with
  | lease => exact le_rfl
  | publish | fail => exact Nat.le_succ _

theorem update?_eq_some {p : OutboxEvent → Bool} {f : OutboxEvent → OutboxEvent}
    (h : update? id p f rows = some (e', rows')) :
    ∃ e ∈ rows, e.outboxId = id ∧ p e ∧ e' = f e ∧
      rows' = Table.put OutboxEvent.outboxId (f e) rows := by
  unfold update? at h
  split at h
  · rename_i e he
    split at h
    · rename_i hp
      obtain ⟨rfl, rfl⟩ := Prod.mk.inj (Option.some.inj h)
      exact ⟨e, Table.mem_of_get? he, Table.key_of_get? he, hp, rfl, rfl⟩
    · exact absurd h (by simp)
  · exact absurd h (by simp)

theorem Write.nodup (h : Write accepted maxAttempts rows rows')
    (hn : (rows.map OutboxEvent.outboxId).Nodup) : (rows'.map OutboxEvent.outboxId).Nodup := by
  cases h with
  | add e fresh _ => exact Table.nodup_append_of_not_mem hn fresh
  | put mem change => rw [Table.map_put_key]; exact hn

variable {expiresAt : Timestamp} {selected claimed : List OutboxEvent} {limit : ℤ}

theorem leaseEach_writes (h : leaseEach workerId now expiresAt selected rows = (claimed, rows')) :
    Relation.ReflTransGen (Write accepted maxAttempts) rows rows' := by
  induction selected generalizing rows claimed with
  | nil =>
    obtain ⟨-, rfl⟩ := Prod.mk.inj h
    exact .refl
  | cons c rest ih =>
    rw [leaseEach] at h
    split at h
    · rename_i e₁ rows₁ hupdate
      obtain ⟨e, he, -, hclaimable, rfl, rfl⟩ := update?_eq_some hupdate
      obtain ⟨-, rfl⟩ := Prod.mk.inj h
      exact (Relation.ReflTransGen.single
        (.put he (.lease workerId expiresAt (of_decide_eq_true hclaimable)))).trans (ih rfl)
    · exact ih h

theorem claim_writes {leaseSeconds : ℤ}
    (h : claim workerId now leaseSeconds limit rows = .ok (claimed, rows')) :
    Relation.ReflTransGen (Write accepted maxAttempts) rows rows' := by
  obtain ⟨-, hclaim⟩ := require_bind_eq_ok.mp h
  exact leaseEach_writes (Except.ok.inj hclaim)

theorem markPublished_write {publishedAt : Timestamp} {messageId : String}
    (h : markPublished id workerId publishedAt messageId rows = some rows')
    (hsent : (id, messageId) ∈ accepted) : Write accepted maxAttempts rows rows' := by
  obtain ⟨⟨e', rows₁⟩, hupdate, rfl⟩ := Option.map_eq_some_iff.mp h
  obtain ⟨e, he, rfl, hheld, rfl, rfl⟩ := update?_eq_some hupdate
  exact .put he (.publish publishedAt (of_decide_eq_true hheld) hsent)

theorem markFailed_write {error : String} {delay : ℤ} {deadLetter : Bool}
    (h : markFailed id workerId now error delay deadLetter rows = some rows')
    (hfinal : deadLetter → ∀ e ∈ rows, e.outboxId = id →
      maxAttempts ≤ e.publishAttempts + 1) : Write accepted maxAttempts rows rows' := by
  obtain ⟨⟨e', rows₁⟩, hupdate, rfl⟩ := Option.map_eq_some_iff.mp h
  obtain ⟨e, he, hid, hheld, rfl, rfl⟩ := update?_eq_some hupdate
  exact .put he (.fail now error delay (of_decide_eq_true hheld) fun hdead => hfinal hdead e he hid)

theorem leaseEach_claimed (hn : (rows.map OutboxEvent.outboxId).Nodup)
    (h : leaseEach workerId now expiresAt selected rows = (claimed, rows')) :
    ∀ x ∈ claimed, ∃ e ∈ rows, e.Claimable now ∧ x = e.leased workerId expiresAt := by
  induction selected generalizing rows claimed with
  | nil =>
    obtain ⟨rfl, -⟩ := Prod.mk.inj h
    simp
  | cons c rest ih =>
    rw [leaseEach] at h
    split at h
    · rename_i e₁ rows₁ hupdate
      obtain ⟨e, he, -, hclaimable, rfl, rfl⟩ := update?_eq_some hupdate
      obtain ⟨rfl, rfl⟩ := Prod.mk.inj h
      have hclaimable' : e.Claimable now := of_decide_eq_true hclaimable
      intro x hx
      rcases List.mem_cons.mp hx with rfl | hx
      · exact ⟨e, he, hclaimable', rfl⟩
      · obtain ⟨y, hy, hyclaimable, rfl⟩ := ih (by rwa [Table.map_put_key]) rfl x hx
        rcases Table.eq_or_mem_of_mem_put hy with rfl | ⟨hy, -⟩
        · exact ⟨e, he, hclaimable', rfl⟩
        · exact ⟨y, hy, hyclaimable, rfl⟩
    · exact ih hn h

theorem leaseEach_keeps (hmem : e ∈ rows)
    (hother : e.outboxId ∉ selected.map OutboxEvent.outboxId) :
    e ∈ (leaseEach workerId now expiresAt selected rows).2 := by
  induction selected generalizing rows with
  | nil => exact hmem
  | cons c rest ih =>
    rw [List.map_cons, List.mem_cons, not_or] at hother
    rw [leaseEach]
    split
    · rename_i e₁ rows₁ hupdate
      obtain ⟨e₀, -, hid, -, rfl, rfl⟩ := update?_eq_some hupdate
      refine ih (Table.mem_put_of_ne hmem fun heq => hother.1 ?_) hother.2
      rw [heq, ← hid]
      rfl
    · exact ih hmem hother.2

theorem leaseEach_of_mem (hn : (rows.map OutboxEvent.outboxId).Nodup)
    (hselected : (selected.map OutboxEvent.outboxId).Nodup) (hmem : e ∈ selected) (he : e ∈ rows)
    (hclaimable : e.Claimable now) :
    e.leased workerId expiresAt ∈ (leaseEach workerId now expiresAt selected rows).1 ∧
      e.leased workerId expiresAt ∈ (leaseEach workerId now expiresAt selected rows).2 := by
  induction selected generalizing rows with
  | nil => exact absurd hmem List.not_mem_nil
  | cons c rest ih =>
    rw [List.map_cons, List.nodup_cons] at hselected
    rcases List.mem_cons.mp hmem with rfl | hmem
    · have hfound : Table.get? OutboxEvent.outboxId e.outboxId rows = some e :=
        (Table.get?_eq_some hn).mpr ⟨he, rfl⟩
      have hupdate : update? e.outboxId (fun e => e.Claimable now)
          (fun e => e.leased workerId expiresAt) rows =
            some (e.leased workerId expiresAt,
              Table.put OutboxEvent.outboxId (e.leased workerId expiresAt) rows) := by
        rw [update?, hfound]
        exact if_pos (decide_eq_true hclaimable)
      rw [leaseEach, hupdate]
      refine ⟨List.mem_cons_self, leaseEach_keeps ?_ hselected.1⟩
      exact Table.mem_put_self he rfl
    · have hne : e.outboxId ≠ c.outboxId := fun heq =>
        hselected.1 (heq ▸ List.mem_map_of_mem hmem)
      rw [leaseEach]
      split
      · rename_i e₁ rows₁ hupdate
        obtain ⟨e₀, -, hid, -, rfl, rfl⟩ := update?_eq_some hupdate
        have hkept : e ∈ Table.put OutboxEvent.outboxId (e₀.leased workerId expiresAt) rows :=
          Table.mem_put_of_ne he fun heq => hne (heq.trans hid)
        obtain ⟨hclaimed, hrow⟩ := ih (by rwa [Table.map_put_key]) hselected.2 hmem hkept
        exact ⟨List.mem_cons_of_mem _ hclaimed, hrow⟩
      · exact ih hn hselected.2 hmem he

theorem nodup_candidates (hn : (rows.map OutboxEvent.outboxId).Nodup) :
    ((candidates now limit rows).map OutboxEvent.outboxId).Nodup := by
  have hfilter : ((rows.filter fun e => e.Claimable now).map OutboxEvent.outboxId).Nodup :=
    hn.sublist (List.filter_sublist.map _)
  refine List.Nodup.sublist ((List.take_sublist _ _).map _) ?_
  exact (perm_orderBy.map OutboxEvent.outboxId).nodup_iff.mpr hfilter

theorem mem_candidates (he : e ∈ rows) (hclaimable : e.Claimable now)
    (hlimit : (rows.countP fun e => e.Claimable now) ≤ limit) : e ∈ candidates now limit rows := by
  have hlength : (orderBy (fun e : OutboxEvent =>
      toLex (e.availableAt, toLex (e.occurredAt, e.outboxId)))
      (rows.filter fun e => e.Claimable now)).length ≤ limit.toNat := by
    rw [perm_orderBy.length_eq, ← List.countP_eq_length_filter]
    omega
  rw [candidates, List.take_of_length_le hlength, mem_orderBy]
  exact List.mem_filter.mpr ⟨he, decide_eq_true hclaimable⟩

end Changes

end Outbox
