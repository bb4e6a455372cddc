/-
Any number of dispatchers on one outbox.

`dispatch_once` claims rows in one transaction, and then publishes and marks one event
after the other, each mark in a transaction of its own.  `World` is the outbox with what
the publisher has accepted and how far every dispatcher is, and `Step` one step of one of
them; a crash or a lease that runs out can fall between any two.

A closed row has no lease, so nothing touches it any more (`Write.closed`), and the events
that a dispatcher holds are snapshots whose attempts do not exceed those of their rows
(`Snapshot`).  With these the invariant `Good` goes through every step, and
`run_outbox` says what the outbox guarantees.
-/
import AssuranceOS.Lib.Runs
import AssuranceOS.Outbox.Repository
import Mathlib.Logic.Function.Basic

namespace Outbox

open Checked

structure PublishedMessage where
  outboxId : String
  messageId : String
  eventType : String
  tenantId : String

structure DispatchReport where
  claimed : Nat
  published : Nat := 0
  failed : Nat := 0
  deadLettered : Nat := 0
  messages : List PublishedMessage := []

structure OutboxDispatcher where
  maxAttempts : Nat := 10
  maxBackoffSeconds : ℤ := 900
  maxAttempts_pos : 1 ≤ maxAttempts := by decide

/-- How far a dispatcher is. -/
inductive Phase where
  /-- Not in a call; what the last one returned or raised. -/
  | resting (last : Option (Except OutboxError DispatchReport))
  | publishing (workerId : String) (event : OutboxEvent) (rest : List OutboxEvent)
      (report : DispatchReport)
  | accepted (workerId : String) (event : OutboxEvent) (rest : List OutboxEvent)
      (report : DispatchReport) (messageId : String)
  | refused (workerId : String) (event : OutboxEvent) (rest : List OutboxEvent)
      (report : DispatchReport) (error : String)

def Phase.next (workerId : String) (report : DispatchReport) : List OutboxEvent → Phase
  | [] => .resting (some (.ok report))
  | event :: rest => .publishing workerId event rest report

def Phase.holding : Phase → List OutboxEvent
  | .resting _ => []
  | .publishing _ event rest _ => event :: rest
  | .accepted _ event rest _ _ => event :: rest
  | .refused _ event rest _ _ => event :: rest

structure World where
  rows : List OutboxEvent := []
  /-- The outbox ids that the publisher has accepted, with the message ids. -/
  accepted : List (String × String) := []
  phase : Nat → Phase := fun _ => .resting none

def World.setPhase (s : World) (d : Nat) (phase : Phase) : World :=
  { s with phase := Function.update s.phase d phase }

/-- A step of a worker or of the clock. -/
inductive Step where
  /-- A transaction of the application adds an event. -/
  | add (outboxId tenantId eventType : String) (occurredAt availableAt : Timestamp)
  | claim (d : Nat) (workerId : String) (now : Timestamp) (leaseSeconds limit : ℤ)
  /-- The publisher answers with a message id, or raises. -/
  | publish (d : Nat) (outcome : Except String String)
  | mark (d : Nat) (now : Timestamp)
  | crash (d : Nat)

namespace OutboxDispatcher

variable (S : OutboxDispatcher)

/-- `is_dead`, from the snapshot of the claim. -/
def isDead (event : OutboxEvent) : Bool := S.maxAttempts ≤ event.publishAttempts + 1

/-- `delay`: the attempts before this one count, so the exponent does not. -/
def delay (event : OutboxEvent) : ℤ :=
  min (2 ^ (event.publishAttempts + 1 - 1)) S.maxBackoffSeconds

end OutboxDispatcher

def World.step (S : OutboxDispatcher) (s : World) : Step → World
  | .add outboxId tenantId eventType occurredAt availableAt =>
    match Table.insert? OutboxEvent.outboxId
        { outboxId, tenantId, eventType, occurredAt, availableAt } s.rows with
    | some rows => { s with rows }
    | none => s
  | .claim d workerId now leaseSeconds limit =>
    match s.phase d with
    | .resting _ =>
      match Outbox.claim workerId now leaseSeconds limit s.rows with
      | .ok (claimed, rows) =>
        { s with rows }.setPhase d (.next workerId { claimed := claimed.length } claimed)
      | .error e => s.setPhase d (.resting (some (.error e)))
    | _ => s
  | .publish d outcome =>
    match s.phase d with
    | .publishing workerId event rest report =>
      match outcome with
      | .ok messageId =>
        { s with accepted := s.accepted ++ [(event.outboxId, messageId)] }.setPhase d
          (.accepted workerId event rest report messageId)
      | .error error => s.setPhase d (.refused workerId event rest report error)
    | _ => s
  | .mark d now =>
    match s.phase d with
    | .accepted workerId event rest report messageId =>
      match markPublished event.outboxId workerId now messageId s.rows with
      | some rows =>
        { s with rows }.setPhase d (.next workerId
          { report with
            published := report.published + 1
            messages := report.messages ++
              [PublishedMessage.mk event.outboxId messageId event.eventType event.tenantId] } rest)
      | none => s.setPhase d (.resting (some (.error .leaseLostAfterPublishing)))
    | .refused workerId event rest report error =>
      match markFailed event.outboxId workerId now error (S.delay event) (S.isDead event)
          s.rows with
      | some rows =>
        { s with rows }.setPhase d (.next workerId
          { report with
            failed := report.failed + 1
            deadLettered := report.deadLettered + (S.isDead event).toNat } rest)
      | none => s.setPhase d (.resting (some (.error .leaseLostAfterFailure)))
    | _ => s
  | .crash d => s.setPhase d (.resting none)

/-- The steps in the order in which they come. -/
def World.run (S : OutboxDispatcher) (s : World) (steps : List Step) : World :=
  steps.foldl (World.step S) s

/-- What holds of every row. -/
structure Sound (accepted : List (String × String)) (maxAttempts : Nat) (e : OutboxEvent) :
    Prop where
  exclusive : e.publishedAt = none ∨ e.deadLetteredAt = none
  released : ¬ e.Open → e.leaseOwner = none
  sent : e.publishedAt.isSome →
    ∃ m, e.publishedMessageId = some m ∧ (e.outboxId, m) ∈ accepted
  exhausted : e.deadLetteredAt.isSome → maxAttempts ≤ e.publishAttempts

section Rows

variable {accepted accepted' : List (String × String)} {maxAttempts : Nat} {e e' : OutboxEvent}
  {rows rows' : List OutboxEvent}

theorem Sound.mono (h : Sound accepted maxAttempts e) (hsub : accepted ⊆ accepted') :
    Sound accepted' maxAttempts e :=
  { h with sent := fun hpub => (h.sent hpub).imp fun _ hm => ⟨hm.1, hsub hm.2⟩ }

theorem Sound.of_open (h : e.Open) : Sound accepted maxAttempts e where
  exclusive := Or.inl h.1
  released hclosed := absurd h hclosed
  sent hpub := by
    rw [h.1] at hpub
    cases hpub
  exhausted hdead := by
    rw [h.2] at hdead
    cases hdead

theorem Sound.open_of_held (h : Sound accepted maxAttempts e) {workerId : String}
    (hheld : e.HeldBy workerId) : e.Open := by
  by_contra hclosed
  rw [OutboxEvent.HeldBy, h.released hclosed] at hheld
  cases hheld.2

theorem Sound.change (h : Sound accepted maxAttempts e)
    (hchange : Change accepted maxAttempts e e') : Sound accepted maxAttempts e' := by
  cases hchange with
  | lease workerId expiresAt claimable => exact .of_open claimable.1
  | @publish workerId messageId at_ held sent =>
    have hopen := h.open_of_held held
    exact {
      exclusive := Or.inr hopen.2
      released := fun _ => rfl
      sent := fun _ => ⟨_, rfl, sent⟩
      exhausted := fun hdead => by
        have hnone : (e.published at_ messageId).deadLetteredAt = none := hopen.2
        rw [hnone] at hdead
        cases hdead }
  | @fail workerId deadLetter now error delay held final =>
    have hopen := h.open_of_held held
    exact {
      exclusive := Or.inl held.1
      released := fun _ => rfl
      sent := fun hpub => by
        have hnone : (e.failed now error delay deadLetter).publishedAt = none := held.1
        rw [hnone] at hpub
        cases hpub
      exhausted := fun hdead => by
        cases deadLetter with
        | true => exact final rfl
        | false =>
          have hnone : (e.failed now error delay false).deadLetteredAt = none := hopen.2
          rw [hnone] at hdead
          cases hdead }

theorem Write.sound (h : Write accepted maxAttempts rows rows')
    (hrows : ∀ e ∈ rows, Sound accepted maxAttempts e) :
    ∀ e ∈ rows', Sound accepted maxAttempts e := by
  intro x hx
  cases h with
  | add e fresh unclaimed =>
    rcases List.mem_append.mp hx with hold | hnew
    · exact hrows x hold
    · rw [List.mem_singleton.mp hnew]
      exact .of_open unclaimed.1
  | put mem change =>
    rcases Table.eq_or_mem_of_mem_put hx with rfl | ⟨hold, -⟩
    · exact (hrows _ mem).change change
    · exact hrows x hold

theorem Write.closed (h : Write accepted maxAttempts rows rows')
    (hn : (rows.map OutboxEvent.outboxId).Nodup) (hsound : Sound accepted maxAttempts e)
    (hclosed : ¬ e.Open) (he : e ∈ rows) : e ∈ rows' := by
  cases h with
  | add e₁ fresh unclaimed => exact List.mem_append_left _ he
  | @put e₁ e₁' mem change =>
    refine Table.mem_put_of_ne he fun hkey => ?_
    -- a change starts from an open row
    have hsame : e = e₁ := Table.eq_of_key_eq hn he mem (hkey.trans change.outboxId)
    subst hsame
    cases change with
    | lease _ _ claimable => exact hclosed claimable.1
    | publish _ held | fail _ _ _ held => exact hclosed (hsound.open_of_held held)

/-- `x` was read from the table: its row is there, with no fewer attempts. -/
def Snapshot (rows : List OutboxEvent) (x : OutboxEvent) : Prop :=
  ∃ e ∈ rows, e.outboxId = x.outboxId ∧ x.publishAttempts ≤ e.publishAttempts

theorem Snapshot.write (h : Snapshot rows e) (hn : (rows.map OutboxEvent.outboxId).Nodup)
    (hwrite : Write accepted maxAttempts rows rows') : Snapshot rows' e := by
  obtain ⟨e₀, he₀, hid, hattempts⟩ := h
  cases hwrite with
  | add e₁ fresh unclaimed => exact ⟨e₀, List.mem_append_left _ he₀, hid, hattempts⟩
  | @put e₁ e₁' mem change =>
    by_cases hkey : e₀.outboxId = e₁'.outboxId
    · have hsame : e₀ = e₁ := Table.eq_of_key_eq hn he₀ mem (hkey.trans change.outboxId)
      subst hsame
      refine ⟨e₁', Table.mem_put_self mem change.outboxId, ?_, hattempts.trans change.attempts⟩
      rw [← hkey, hid]
    · exact ⟨e₀, Table.mem_put_of_ne he₀ hkey, hid, hattempts⟩

theorem Snapshot.writes (h : Snapshot rows e) (hn : (rows.map OutboxEvent.outboxId).Nodup)
    (hwrites : Relation.ReflTransGen (Write accepted maxAttempts) rows rows') :
    Snapshot rows' e ∧ (rows'.map OutboxEvent.outboxId).Nodup := by
  induction hwrites with
  | refl => exact ⟨h, hn⟩
  | tail _ hwrite ih => exact ⟨ih.1.write ih.2 hwrite, hwrite.nodup ih.2⟩

theorem closed_of_writes (hn : (rows.map OutboxEvent.outboxId).Nodup)
    (hsound : Sound accepted maxAttempts e) (hclosed : ¬ e.Open) (he : e ∈ rows)
    (hwrites : Relation.ReflTransGen (Write accepted maxAttempts) rows rows') :
    e ∈ rows' ∧ (rows'.map OutboxEvent.outboxId).Nodup := by
  induction hwrites with
  | refl => exact ⟨he, hn⟩
  | tail _ hwrite ih => exact ⟨hwrite.closed ih.2 hsound hclosed ih.1, hwrite.nodup ih.2⟩

end Rows

structure Good (S : OutboxDispatcher) (s : World) : Prop where
  nodup : (s.rows.map OutboxEvent.outboxId).Nodup
  sound : ∀ e ∈ s.rows, Sound s.accepted S.maxAttempts e
  snapshots : ∀ d, ∀ x ∈ (s.phase d).holding, Snapshot s.rows x
  sent : ∀ d workerId event rest report messageId,
    s.phase d = .accepted workerId event rest report messageId →
      (event.outboxId, messageId) ∈ s.accepted

section Steps

variable {S : OutboxDispatcher} {s : World}

theorem setPhase_phase_cases (s : World) (d d' : Nat) (phase : Phase) :
    (s.setPhase d phase).phase d' = phase ∧ d' = d ∨
      (s.setPhase d phase).phase d' = s.phase d' := by
  by_cases hd : d' = d
  · subst hd
    exact Or.inl ⟨Function.update_self .., rfl⟩
  · exact Or.inr (Function.update_of_ne hd ..)

variable {rows : List OutboxEvent}

theorem Good.writes (h : Good S s)
    (hwrites : Relation.ReflTransGen (Write s.accepted S.maxAttempts) s.rows rows) :
    Good S { s with rows } := by
  induction hwrites with
  | refl => exact h
  | tail _ hwrite ih =>
    exact {
      nodup := hwrite.nodup ih.nodup
      sound := hwrite.sound ih.sound
      snapshots := fun d x hx => (ih.snapshots d x hx).write ih.nodup hwrite
      sent := ih.sent }

variable {phase : Phase}

theorem Good.held (h : Good S s) {d : Nat} (hphase : s.phase d = phase) :
    ∀ x ∈ phase.holding, Snapshot s.rows x := by
  rw [← hphase]
  exact h.snapshots d

theorem Good.setPhase (h : Good S s) (d : Nat) (hholding : ∀ x ∈ phase.holding, Snapshot s.rows x)
    (hsent : ∀ workerId event rest report messageId,
      phase = .accepted workerId event rest report messageId →
        (event.outboxId, messageId) ∈ s.accepted) : Good S (s.setPhase d phase) where
  nodup := h.nodup
  sound := h.sound
  snapshots d' x hx := by
    rcases setPhase_phase_cases s d d' phase with ⟨heq, -⟩ | heq
    · exact hholding x (heq ▸ hx)
    · exact h.snapshots d' x (heq ▸ hx)
  sent d' workerId event rest report messageId hphase := by
    rcases setPhase_phase_cases s d d' phase with ⟨heq, -⟩ | heq
    · exact hsent _ _ _ _ _ (heq ▸ hphase)
    · exact h.sent d' _ _ _ _ _ (heq ▸ hphase)

theorem Good.rest (h : Good S s) (d : Nat) (last : Option (Except OutboxError DispatchReport)) :
    Good S (s.setPhase d (.resting last)) :=
  h.setPhase d (fun _ hx => absurd hx List.not_mem_nil) fun _ _ _ _ _ heq => nomatch heq

theorem Phase.holding_next (workerId : String) (report : DispatchReport)
    (events : List OutboxEvent) : (Phase.next workerId report events).holding = events := by
  cases events with
  | nil => rfl
  | cons e rest => rfl

theorem Good.next (h : Good S s) (d : Nat) (workerId : String) (report : DispatchReport)
    {events : List OutboxEvent} (hevents : ∀ x ∈ events, Snapshot s.rows x) :
    Good S (s.setPhase d (.next workerId report events)) := by
  refine h.setPhase d ?_ fun _ _ _ _ _ heq => ?_
  · rwa [Phase.holding_next]
  · cases events with
    | nil => cases heq
    | cons e rest => cases heq

theorem Good.accept (h : Good S s) (entry : String × String) :
    Good S { s with accepted := s.accepted ++ [entry] } where
  nodup := h.nodup
  sound e he := (h.sound e he).mono (List.subset_append_left _ _)
  snapshots := h.snapshots
  sent d _ _ _ _ _ hphase :=
    List.mem_append_left _ (h.sent d _ _ _ _ _ hphase)

theorem snapshot_of_claim {workerId : String} {now : Timestamp} {leaseSeconds limit : ℤ}
    {claimed : List OutboxEvent} (h : Good S s)
    (hclaim : Outbox.claim workerId now leaseSeconds limit s.rows = .ok (claimed, rows)) :
    ∀ x ∈ claimed, Snapshot rows x := by
  intro x hx
  obtain ⟨-, hlease⟩ := require_bind_eq_ok.mp hclaim
  obtain ⟨e, he, -, rfl⟩ := leaseEach_claimed h.nodup (Except.ok.inj hlease) x hx
  have hbefore : Snapshot s.rows (e.leased workerId (now + seconds leaseSeconds)) :=
    ⟨e, he, rfl, le_rfl⟩
  have hwrites : Relation.ReflTransGen (Write s.accepted S.maxAttempts) s.rows rows :=
    claim_writes hclaim
  exact (hbefore.writes h.nodup hwrites).1

theorem final_of_isDead {event : OutboxEvent} (hn : (rows.map OutboxEvent.outboxId).Nodup)
    (h : Snapshot rows event) (hdead : S.isDead event) :
    ∀ e ∈ rows, e.outboxId = event.outboxId → S.maxAttempts ≤ e.publishAttempts + 1 := by
  intro e he hid
  obtain ⟨e₀, he₀, hid₀, hattempts⟩ := h
  have hsame : e = e₀ := Table.eq_of_key_eq hn he he₀ (hid.trans hid₀.symm)
  have hmax : S.maxAttempts ≤ event.publishAttempts + 1 := of_decide_eq_true hdead
  rw [hsame]
  omega

theorem step_writes (h : Good S s) (step : Step) :
    s.accepted ⊆ (s.step S step).accepted ∧
      Relation.ReflTransGen (Write s.accepted S.maxAttempts) s.rows (s.step S step).rows ∧
      Good S (s.step S step) := by
  have hsame : ∀ {s' : World}, Good S s' → s'.accepted = s.accepted → s'.rows = s.rows →
      s.accepted ⊆ s'.accepted ∧
        Relation.ReflTransGen (Write s.accepted S.maxAttempts) s.rows s'.rows ∧ Good S s' :=
    fun hgood haccepted hrows => ⟨haccepted ▸ List.Subset.refl _, hrows ▸ .refl, hgood⟩
  cases step with
  | add outboxId tenantId eventType occurredAt availableAt =>
    unfold World.step
    dsimp only
    split
    · rename_i rows hinsert
      obtain ⟨hfresh, rfl⟩ := Table.insert?_eq_some.mp hinsert
      have hwrites : Relation.ReflTransGen (Write s.accepted S.maxAttempts) s.rows _ :=
        .single (.add _ hfresh ⟨⟨rfl, rfl⟩, rfl, rfl⟩)
      exact ⟨List.Subset.refl _, hwrites, h.writes hwrites⟩
    · exact hsame h rfl rfl
  | claim d workerId now leaseSeconds limit =>
    unfold World.step
    dsimp only
    split
    · split
      · rename_i claimed rows hclaim
        have hwrites : Relation.ReflTransGen (Write s.accepted S.maxAttempts) s.rows rows :=
          claim_writes hclaim
        refine ⟨List.Subset.refl _, hwrites, ?_⟩
        exact (h.writes hwrites).next d workerId _ (snapshot_of_claim h hclaim)
      · exact hsame (h.rest d _) rfl rfl
    · exact hsame h rfl rfl
  | publish d outcome =>
    unfold World.step
    dsimp only
    split
    · rename_i workerId event rest report hphase
      have hheld : ∀ x ∈ event :: rest, Snapshot s.rows x := h.held hphase
      split
      · rename_i messageId
        refine ⟨List.subset_append_left _ _, .refl, ?_⟩
        refine (h.accept (event.outboxId, messageId)).setPhase d hheld fun _ _ _ _ _ heq => ?_
        cases heq
        exact List.mem_append_right _ (List.mem_singleton_self _)
      · exact hsame (h.setPhase d hheld fun _ _ _ _ _ heq => nomatch heq) rfl rfl
    · exact hsame h rfl rfl
  | mark d now =>
    unfold World.step
    dsimp only
    split
    · rename_i workerId event rest report messageId hphase
      have hheld : ∀ x ∈ event :: rest, Snapshot s.rows x := h.held hphase
      split
      · rename_i rows hmark
        have hwrites : Relation.ReflTransGen (Write s.accepted S.maxAttempts) s.rows rows :=
          .single (markPublished_write hmark (h.sent d _ _ _ _ _ hphase))
        refine ⟨List.Subset.refl _, hwrites, (h.writes hwrites).next d workerId _ fun x hx => ?_⟩
        exact ((hheld x (List.mem_cons_of_mem _ hx)).writes h.nodup hwrites).1
      · exact hsame (h.rest d _) rfl rfl
    · rename_i workerId event rest report error hphase
      have hheld : ∀ x ∈ event :: rest, Snapshot s.rows x := h.held hphase
      split
      · rename_i rows hmark
        have hwrites : Relation.ReflTransGen (Write s.accepted S.maxAttempts) s.rows rows :=
          .single (markFailed_write hmark
            (final_of_isDead h.nodup (hheld event List.mem_cons_self)))
        refine ⟨List.Subset.refl _, hwrites, (h.writes hwrites).next d workerId _ fun x hx => ?_⟩
        exact ((hheld x (List.mem_cons_of_mem _ hx)).writes h.nodup hwrites).1
      · exact hsame (h.rest d _) rfl rfl
    · exact hsame h rfl rfl
  | crash d => exact hsame (h.rest d _) rfl rfl

end Steps

section Run

variable (S : OutboxDispatcher)

theorem good_empty : Good S {} where
  nodup := List.nodup_nil
  sound _ he := absurd he List.not_mem_nil
  snapshots _ _ hx := absurd hx List.not_mem_nil
  sent _ _ _ _ _ _ hphase := nomatch hphase

theorem run_good (steps : List Step) : Good S (World.run S {} steps) := by
  have hstep : ∀ s step, Good S s → Good S (World.step S s step) := fun _ step h =>
    (step_writes h step).2.2
  exact Runs.run_invariant_always hstep (good_empty S) steps

variable {s : World} {e : OutboxEvent}

theorem run_closed (h : Good S s) (he : e ∈ s.rows) (hclosed : ¬ e.Open) (steps : List Step) :
    e ∈ (s.run S steps).rows ∧ Good S (s.run S steps) := by
  have hstep : ∀ s step, e ∈ s.rows ∧ Good S s →
      e ∈ (World.step S s step).rows ∧ Good S (World.step S s step) := by
    rintro s step ⟨he, hgood⟩
    obtain ⟨-, hwrites, hgood'⟩ := step_writes hgood step
    exact ⟨(closed_of_writes hgood.nodup (hgood.sound e he) hclosed he hwrites).1, hgood'⟩
  exact Runs.run_invariant_always hstep ⟨he, h⟩ steps

variable {workerId : String} {now : Timestamp} {leaseSeconds limit : ℤ}

theorem claim_closed (h : Good S s) (he : e ∈ s.rows) (hclosed : ¬ e.Open)
    {claimed rows : List OutboxEvent}
    (hclaim : claim workerId now leaseSeconds limit s.rows = .ok (claimed, rows)) :
    e ∈ rows ∧ ∀ x ∈ claimed, x.outboxId ≠ e.outboxId := by
  have hwrites : Relation.ReflTransGen (Write s.accepted S.maxAttempts) s.rows rows :=
    claim_writes hclaim
  refine ⟨(closed_of_writes h.nodup (h.sound e he) hclosed he hwrites).1, fun x hx hid => ?_⟩
  obtain ⟨-, hlease⟩ := require_bind_eq_ok.mp hclaim
  obtain ⟨e₁, he₁, hclaimable, rfl⟩ := leaseEach_claimed h.nodup (Except.ok.inj hlease) x hx
  have hsame : e₁ = e := Table.eq_of_key_eq h.nodup he₁ he hid
  exact hclosed (hsame ▸ hclaimable.1)

theorem claim_open (h : Good S s) (he : e ∈ s.rows) (hclaimable : e.Claimable now)
    (hlease : 0 < leaseSeconds) (hlimit : 0 < limit)
    (hcount : (s.rows.countP fun x => x.Claimable now) ≤ limit) :
    ∃ claimed rows, claim workerId now leaseSeconds limit s.rows = .ok (claimed, rows) ∧
      e.leased workerId (now + seconds leaseSeconds) ∈ claimed ∧
      e.leased workerId (now + seconds leaseSeconds) ∈ rows :=
  ⟨_, _, require_bind_eq_ok.mpr ⟨⟨hlease, hlimit⟩, rfl⟩,
    leaseEach_of_mem h.nodup (nodup_candidates h.nodup) (mem_candidates he hclaimable hcount) he
      hclaimable⟩

/-- **The guarantees of the outbox.**  In every state that the dispatchers can reach: no
event is both published and dead-lettered, a published one was accepted by the publisher,
and a dead-lettered one has all its attempts; a closed event is never claimed again, and an
open one is claimed as soon as its back-off and its lease have passed. -/
theorem run_outbox (steps : List Step) : ∀ e ∈ (World.run S {} steps).rows,
    ¬ (e.publishedAt.isSome ∧ e.deadLetteredAt.isSome) ∧
    (e.publishedAt.isSome → ∃ messageId, e.publishedMessageId = some messageId ∧
      (e.outboxId, messageId) ∈ (World.run S {} steps).accepted) ∧
    (e.deadLetteredAt.isSome → S.maxAttempts ≤ e.publishAttempts) ∧
    (e.publishedAt.isSome ∨ e.deadLetteredAt.isSome →
      ∀ (more : List Step) (workerId : String) (now : Timestamp) (leaseSeconds limit : ℤ)
        (claimed rows : List OutboxEvent),
        claim workerId now leaseSeconds limit (World.run S {} (steps ++ more)).rows =
          .ok (claimed, rows) → e ∈ rows ∧ ∀ x ∈ claimed, x.outboxId ≠ e.outboxId) ∧
    (¬ (e.publishedAt.isSome ∨ e.deadLetteredAt.isSome) →
      ∀ (workerId : String) (now : Timestamp) (leaseSeconds limit : ℤ),
        e.availableAt ≤ now → (∀ t ∈ e.leaseExpiresAt, t ≤ now) → 0 < leaseSeconds → 0 < limit →
        ((World.run S {} steps).rows.countP fun x => x.Claimable now) ≤ limit →
        ∃ claimed rows, claim workerId now leaseSeconds limit (World.run S {} steps).rows =
          .ok (claimed, rows) ∧
          e.leased workerId (now + seconds leaseSeconds) ∈ claimed ∧
          e.leased workerId (now + seconds leaseSeconds) ∈ rows) := by
  intro e he
  have hgood := run_good S steps
  have hsound := hgood.sound e he
  have hopen : e.Open ↔ ¬ (e.publishedAt.isSome ∨ e.deadLetteredAt.isSome) := by
    simp [OutboxEvent.Open, not_or]
  refine ⟨?_, hsound.sent, hsound.exhausted, ?_, ?_⟩
  · rintro ⟨hpublished, hdead⟩
    rcases hsound.exclusive with hnone | hnone
    · simp [hnone] at hpublished
    · simp [hnone] at hdead
  · intro hclosed more workerId now leaseSeconds limit claimed rows hclaim
    have hclosed' : ¬ e.Open := fun h => hopen.mp h hclosed
    rw [World.run, List.foldl_append] at hclaim
    obtain ⟨he', hgood'⟩ := run_closed S hgood he hclosed' more
    exact claim_closed S hgood' he' hclosed' hclaim
  · intro hnot workerId now leaseSeconds limit havailable hexpired hlease hlimit hcount
    exact claim_open S hgood he ⟨hopen.mpr hnot, havailable, hexpired⟩ hlease hlimit hcount

end Run

/-- An event whose first lease runs out: the second dispatcher publishes it, and the mark of
the first one comes too late. -/
def sampleSteps : List Step :=
  [.add "obx_1" "tenant" "created" 0 0, .claim 0 "first" 0 60 100, .publish 0 (.error "timeout"),
    .claim 1 "second" (seconds 60) 60 100, .publish 1 (.ok "msg_1"), .mark 1 (seconds 61),
    .mark 0 (seconds 62)]

theorem run_outbox_sample :
    ∃ e ∈ (World.run {} {} sampleSteps).rows, ∃ messageId,
      e.publishedMessageId = some messageId ∧
        (e.outboxId, messageId) ∈ (World.run {} {} sampleSteps).accepted := by
  obtain ⟨e, he, hpublished⟩ : ∃ e ∈ (World.run {} {} sampleSteps).rows,
      e.publishedAt.isSome := by decide +kernel
  exact ⟨e, he, (run_outbox {} sampleSteps e he).2.1 hpublished⟩

end Outbox
