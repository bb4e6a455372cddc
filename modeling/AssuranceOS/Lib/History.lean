/-
What is recorded stays recorded.

A step that only adds rows to a table, or rewrites a row by one that goes on from it, leaves a
table that `Continues` the one before; so does a run of such steps (`run_continues`).  A log whose
events take the next number of their stream is `Consecutive`.
-/
import AssuranceOS.Lib.Table
import Mathlib.Data.List.Range

namespace History

section Tables

variable {α κ : Type*} {R : α → α → Prop} {rows rows' rows'' : List α}

/-- Every row has a later row that goes on from it. -/
def Continues (R : α → α → Prop) (rows rows' : List α) : Prop :=
  ∀ r ∈ rows, ∃ r' ∈ rows', R r r'

theorem Continues.refl (hrefl : ∀ r, R r r) (rows : List α) : Continues R rows rows :=
  fun r hr => ⟨r, hr, hrefl r⟩

theorem Continues.trans (htrans : ∀ {a b c}, R a b → R b c → R a c)
    (h : Continues R rows rows') (h' : Continues R rows' rows'') : Continues R rows rows'' := by
  intro r hr
  obtain ⟨r', hr', hnext⟩ := h r hr
  obtain ⟨r'', hr'', hlast⟩ := h' r' hr'
  exact ⟨r'', hr'', htrans hnext hlast⟩

theorem continues_append (hrefl : ∀ r, R r r) (rows more : List α) :
    Continues R rows (rows ++ more) :=
  fun r hr => ⟨r, List.mem_append_left _ hr, hrefl r⟩

variable [DecidableEq κ] {key : α → κ}

theorem continues_put (hrefl : ∀ r, R r r) (hn : (rows.map key).Nodup) {r₀ r : α} (hr₀ : r₀ ∈ rows)
    (hkey : key r = key r₀) (hnext : R r₀ r) : Continues R rows (Table.put key r rows) := by
  intro x hx
  by_cases hxr : key x = key r
  · rw [Table.eq_of_key_eq hn hx hr₀ (hxr.trans hkey)]
    exact ⟨r, Table.mem_put_self hr₀ hkey, hnext⟩
  · exact ⟨x, Table.mem_put_of_ne hx hxr, hrefl x⟩

/-- The write does not rewrite a row. -/
def Appends : Table.Write α → Prop
  | .put _ => False
  | _ => True

/-- A row is rewritten by one that goes on from it. -/
def Follows (key : α → κ) (R : α → α → Prop) (rows : List α) : Table.Write α → Prop
  | .put r => ∃ r₀ ∈ rows, key r = key r₀ ∧ R r₀ r
  | _ => True

variable {w : Table.Write α}

theorem Appends.prefix_apply (h : Appends w) : rows <+: w.apply key rows := by
  cases w with
  | none => exact List.prefix_refl _
  | insert r => exact List.prefix_append _ _
  | put r => exact h.elim

theorem Follows.continues (h : Follows key R rows w) (hrefl : ∀ r, R r r)
    (hn : (rows.map key).Nodup) : Continues R rows (w.apply key rows) := by
  cases w with
  | none => exact .refl hrefl _
  | insert r => exact continues_append hrefl _ _
  | put r =>
    obtain ⟨r₀, hr₀, hkey, hnext⟩ := h
    exact continues_put hrefl hn hr₀ hkey hnext

end Tables

/-- **The history rule.**  What every step keeps true of the state before it, a run does. -/
theorem run_continues {σ β : Type*} {step : σ → β → σ} {I : σ → Prop} {R : σ → σ → Prop}
    (hrefl : ∀ s, R s s) (htrans : ∀ {s t u}, R s t → R t u → R s u)
    (hinv : ∀ s b, I s → I (step s b)) (hstep : ∀ s b, I s → R s (step s b)) {s : σ} (hs : I s)
    (bs : List β) : R s (bs.foldl step s) := by
  induction bs generalizing s with
  | nil => exact hrefl s
  | cons b bs ih => exact htrans (hstep s b hs) (ih (hinv s b hs))

section Logs

variable {α σ : Type*} [DecidableEq σ] {stream : α → σ} {number : α → ℕ} {log : List α}

/-- The numbers of the events of a stream, in the order of the log. -/
def numbers (stream : α → σ) (number : α → ℕ) (log : List α) (s : σ) : List ℕ :=
  (log.filter fun e => stream e = s).map number

/-- The events of every stream have the numbers from 1 on. -/
def Consecutive (stream : α → σ) (number : α → ℕ) (log : List α) : Prop :=
  ∀ s, ∃ n, numbers stream number log s = List.range' 1 n

theorem foldr_max_range' (n b : ℕ) : (List.range' 1 n).foldr max b = max n b := by
  induction n generalizing b with
  | zero => simp
  | succ n ih =>
    rw [List.range'_1_concat, List.foldr_append, ih]
    simp only [List.foldr_cons, List.foldr_nil]
    omega

theorem Consecutive.concat (h : Consecutive stream number log) {e : α}
    (he : number e = (numbers stream number log (stream e)).foldr max 0 + 1) :
    Consecutive stream number (log ++ [e]) := by
  intro s
  obtain ⟨n, hn⟩ := h s
  by_cases hs : stream e = s
  · subst hs
    refine ⟨n + 1, ?_⟩
    rw [hn, foldr_max_range', Nat.max_zero] at he
    rw [numbers, List.filter_append, List.map_append, ← numbers, hn]
    simp [he, List.range'_1_concat, Nat.add_comm]
  · refine ⟨n, ?_⟩
    rw [numbers, List.filter_append, List.map_append, ← numbers, hn]
    simp [hs]

end Logs

end History
