/-
Tables of rows addressed by a primary key.

A table is the list of its rows in insertion order, together with a key
function `key : α → κ`.  `get? key k rows` reads the row with key `k` and
`put key r rows` rewrites, in place, the row that has the key of `r`.  The
lemmas below describe one `put` completely when the keys are unique:

* `mem_put` — the rows after a `put` are `r` and the old rows with other keys;
* `map_put_key` — a `put` keeps the keys;
* `get?_put_self`, `get?_put_of_ne` — what a lookup finds after a `put`.

`insert? key r rows` appends a row under a key that is not taken.  A `Write` is
what a transaction does to one table; when it is `Owned` by `o`, it acts on the
rows of `o` alone (`Write.Owned.ownedBy_self`, `Write.Owned.ownedBy_of_ne`).
-/
import Mathlib.Data.List.Nodup

namespace Table

variable {α κ : Type*} [DecidableEq κ] {key : α → κ}

/-- The row with key `k`, if there is one. -/
def get? (key : α → κ) (k : κ) (rows : List α) : Option α :=
  rows.find? fun x => key x = k

/-- Rewrite the row that has the key of `r`; a missing key changes nothing. -/
def put (key : α → κ) (r : α) (rows : List α) : List α :=
  rows.map fun x => if key x = key r then r else x

variable {k : κ} {rows : List α} {x r r₀ : α}

theorem mem_of_get? (h : get? key k rows = some x) :
    x ∈ rows :=
  List.mem_of_find?_eq_some h

theorem key_of_get? (h : get? key k rows = some x) :
    key x = k := by
  simpa using List.find?_some h

omit [DecidableEq κ] in
/-- Unique keys make a row determined by its key. -/
theorem eq_of_key_eq (hn : (rows.map key).Nodup) {y : α} (hx : x ∈ rows) (hy : y ∈ rows)
    (h : key x = key y) : x = y :=
  List.inj_on_of_nodup_map hn hx hy h

theorem get?_eq_some (hn : (rows.map key).Nodup) :
    get? key k rows = some x ↔ x ∈ rows ∧ key x = k := by
  constructor
  · intro h
    exact ⟨mem_of_get? h, key_of_get? h⟩
  · rintro ⟨hx, rfl⟩
    rcases hg : get? key (key x) rows with _ | y
    · have hnone := List.find?_eq_none.mp hg x hx
      simp at hnone
    · rw [eq_of_key_eq hn (mem_of_get? hg) hx (key_of_get? hg)]

/-- A column that the new row shares with the old one stays as it is. -/
theorem map_put {β : Type*} {g : α → β} (h : ∀ x ∈ rows, key x = key r → g x = g r) :
    (put key r rows).map g = rows.map g := by
  rw [put, List.map_map]
  refine List.map_congr_left fun x hx => ?_
  by_cases hk : key x = key r
  · simp [hk, h x hx hk]
  · simp [hk]

@[simp] theorem map_put_key (r : α) (rows : List α) :
    (put key r rows).map key = rows.map key :=
  map_put fun _ _ hk => hk

/-- With unique keys, a `put` over the row `r₀` replaces `r₀` by `r` and
nothing else. -/
theorem mem_put (hn : (rows.map key).Nodup) (hr₀ : r₀ ∈ rows) (hk : key r = key r₀) :
    x ∈ put key r rows ↔ x = r ∨ (x ∈ rows ∧ x ≠ r₀) := by
  rw [put, List.mem_map]
  constructor
  · rintro ⟨y, hy, rfl⟩
    by_cases h : key y = key r
    · exact Or.inl (if_pos h)
    · rw [if_neg h]
      exact Or.inr ⟨hy, fun he => h (by rw [he, hk])⟩
  · rintro (rfl | ⟨hx, hne⟩)
    · exact ⟨r₀, hr₀, if_pos hk.symm⟩
    · refine ⟨x, hx, if_neg fun h => hne ?_⟩
      exact eq_of_key_eq hn hx hr₀ (h.trans hk)

/-- Writing back a row that is there changes nothing. -/
theorem put_self (hn : (rows.map key).Nodup) (hr : r ∈ rows) :
    put key r rows = rows := by
  have hid : ∀ x ∈ rows, (if key x = key r then r else x) = x := by
    intro x hx
    by_cases hk : key x = key r
    · rw [if_pos hk, eq_of_key_eq hn hr hx hk.symm]
    · rw [if_neg hk]
  rw [put, List.map_congr_left hid, List.map_id']

/-- Whatever the keys are, a row after a `put` is the new one or has another key. -/
theorem eq_or_mem_of_mem_put (h : x ∈ put key r rows) :
    x = r ∨ x ∈ rows ∧ key x ≠ key r := by
  obtain ⟨y, hy, rfl⟩ := List.mem_map.mp h
  by_cases hk : key y = key r
  · exact Or.inl (if_pos hk)
  · rw [if_neg hk]
    exact Or.inr ⟨hy, hk⟩

theorem mem_put_self (hr₀ : r₀ ∈ rows) (hk : key r = key r₀) :
    r ∈ put key r rows :=
  List.mem_map.mpr ⟨r₀, hr₀, if_pos hk.symm⟩

theorem mem_put_of_ne (hx : x ∈ rows) (h : key x ≠ key r) :
    x ∈ put key r rows :=
  List.mem_map.mpr ⟨x, hx, if_neg h⟩

/-- Looking up after a `put`: the written row at its own key. -/
theorem get?_put_self (hr₀ : r₀ ∈ rows) (hk : key r = key r₀) :
    get? key (key r) (put key r rows) = some r := by
  induction rows with
  | nil => exact absurd hr₀ List.not_mem_nil
  | cons x rows ih =>
    by_cases hx : key x = key r
    · simp [get?, put, hx]
    · have hne : r₀ ≠ x := fun heq => hx (heq ▸ hk.symm)
      have hrest := ih ((List.mem_cons.mp hr₀).resolve_left hne)
      simp only [get?, put] at hrest
      simp [get?, put, hx, hrest]

/-- The old rows at the other keys. -/
theorem get?_put_of_ne (h : key r ≠ k) :
    get? key k (put key r rows) = get? key k rows := by
  induction rows with
  | nil => rfl
  | cons x rows ih =>
    simp only [get?, put] at ih
    by_cases hx : key x = key r
    · simp [get?, put, hx, h, ih]
    · simp [get?, put, hx, List.find?_cons, ih]

/-- A search finds the row that is written over what it found before. -/
theorem find?_put (hn : (rows.map key).Nodup) {p : α → Bool} (h : rows.find? p = some r₀)
    (hk : key r = key r₀) (hp : p r) :
    (put key r rows).find? p = some r := by
  induction rows with
  | nil => exact absurd h (by simp)
  | cons x rows ih =>
    obtain ⟨hx, hrest⟩ := List.nodup_cons.mp hn
    by_cases hpx : p x
    · rw [List.find?_cons_of_pos hpx, Option.some_inj] at h
      simp [put, h, hk, hp]
    · rw [List.find?_cons_of_neg hpx] at h
      have hne : key x ≠ key r := by
        rw [hk]
        exact fun heq => hx (heq ▸ List.mem_map_of_mem (List.mem_of_find?_eq_some h))
      have htail := ih hrest h
      simp only [put] at htail
      simp [put, hne, hpx, htail]

/-- Append `r`, unless its key is taken. -/
def insert? (key : α → κ) (r : α) (rows : List α) : Option (List α) :=
  if key r ∈ rows.map key then none else some (rows ++ [r])

theorem insert?_eq_some {rows' : List α} :
    insert? key r rows = some rows' ↔ key r ∉ rows.map key ∧ rows' = rows ++ [r] := by
  unfold insert?
  split
  · simp_all
  · rw [Option.some_inj]
    exact ⟨fun h => ⟨‹_›, h.symm⟩, fun h => h.2.symm⟩

omit [DecidableEq κ] in
theorem nodup_append_of_not_mem (hn : (rows.map key).Nodup) (hr : key r ∉ rows.map key) :
    ((rows ++ [r]).map key).Nodup := by
  rw [List.map_append, List.map_singleton, List.nodup_append]
  refine ⟨hn, List.nodup_singleton _, fun k hk k' hk' heq => hr ?_⟩
  rw [List.mem_singleton] at hk'
  rw [← hk', ← heq]
  exact hk

/-! ### Owners

The rows of a table are shared out among owners; a write that concerns one
owner leaves the rows of the others as they are. -/

section Owners

variable {ω : Type*} [DecidableEq ω] {owner : α → ω} {o : ω} {rows : List α}

/-- The rows of owner `o`, in order. -/
def ownedBy (owner : α → ω) (o : ω) (rows : List α) : List α :=
  rows.filter fun x => owner x = o

@[simp] theorem mem_ownedBy : x ∈ ownedBy owner o rows ↔ x ∈ rows ∧ owner x = o := by
  simp [ownedBy]

theorem ownedBy_append_of_eq {r : α} (h : owner r = o) :
    ownedBy owner o (rows ++ [r]) = ownedBy owner o rows ++ [r] := by
  simp [ownedBy, h]

variable {r : α}

theorem ownedBy_append_of_ne (h : owner r ≠ o) :
    ownedBy owner o (rows ++ [r]) = ownedBy owner o rows := by
  simp [ownedBy, h]

/-- A `put` that does not change the owner of its row goes through the selection. -/
theorem ownedBy_put (h : ∀ x ∈ rows, key x = key r → owner x = owner r) :
    ownedBy owner o (put key r rows) = put key r (ownedBy owner o rows) := by
  induction rows with
  | nil => rfl
  | cons x rows ih =>
    have hrest := ih fun y hy => h y (List.mem_cons_of_mem _ hy)
    simp only [ownedBy, put] at hrest
    by_cases hk : key x = key r
    · have ho := h x List.mem_cons_self hk
      by_cases hr : owner r = o
      · simp [ownedBy, put, hk, ho, hr, hrest]
      · simp [ownedBy, put, hk, ho, hr, hrest]
    · by_cases hx : owner x = o
      · simp [ownedBy, put, hk, hx, hrest]
      · simp [ownedBy, put, hk, hx, hrest]

/-- A `put` at a key that is not there does nothing. -/
theorem put_eq_self (h : ∀ x ∈ rows, key x ≠ key r) : put key r rows = rows := by
  have hid : ∀ x ∈ rows, (if key x = key r then r else x) = x := fun x hx => if_neg (h x hx)
  rw [put, List.map_congr_left hid, List.map_id']

end Owners

/-- What a transaction does to one table. -/
inductive Write (α : Type*) where
  | none
  | insert (r : α)
  | put (r : α)

namespace Write

def apply (key : α → κ) (rows : List α) : Write α → List α
  | none => rows
  | insert r => rows ++ [r]
  | put r => Table.put key r rows

variable {ω : Type*} {owner : α → ω} {o : ω} {rows : List α} {w : Write α}

/-- The write adds or rewrites a row of owner `o`, and an added row has a key of
its own. -/
def Owned (key : α → κ) (owner : α → ω) (o : ω) (rows : List α) : Write α → Prop
  | none => True
  | insert r => key r ∉ rows.map key ∧ owner r = o
  | put r => owner r = o ∧ ∃ r₀ ∈ rows, key r₀ = key r ∧ owner r₀ = o

theorem Owned.nodup (h : w.Owned key owner o rows) (hn : (rows.map key).Nodup) :
    ((w.apply key rows).map key).Nodup := by
  cases w with
  | none => exact hn
  | insert r => exact nodup_append_of_not_mem hn h.1
  | put r =>
    rw [apply, map_put_key]
    exact hn

/-- Every row after the write is an old one or one of `o`. -/
theorem Owned.mem_apply (h : w.Owned key owner o rows) (hx : x ∈ w.apply key rows) :
    owner x = o ∨ x ∈ rows := by
  cases w with
  | none => exact Or.inr hx
  | insert r =>
    rcases List.mem_append.mp hx with hold | hnew
    · exact Or.inr hold
    · rw [List.mem_singleton.mp hnew]
      exact Or.inl h.2
  | put r =>
    obtain ⟨y, hy, rfl⟩ := List.mem_map.mp hx
    split
    · exact Or.inl h.1
    · exact Or.inr hy

variable [DecidableEq ω]

/-- For the owner, the write is a write to its own rows. -/
theorem Owned.ownedBy_self (h : w.Owned key owner o rows) (hn : (rows.map key).Nodup) :
    ownedBy owner o (w.apply key rows) = w.apply key (ownedBy owner o rows) := by
  cases w with
  | none => rfl
  | insert r => exact ownedBy_append_of_eq h.2
  | put r =>
    obtain ⟨hr, r₀, hr₀, hkey, howner⟩ := h
    refine ownedBy_put fun x hx hxr => ?_
    rw [eq_of_key_eq hn hx hr₀ (hxr.trans hkey.symm), howner, hr]

/-- For everybody else, nothing happens. -/
theorem Owned.ownedBy_of_ne (h : w.Owned key owner o rows) (hn : (rows.map key).Nodup) {p : ω}
    (hp : p ≠ o) : ownedBy owner p (w.apply key rows) = ownedBy owner p rows := by
  cases w with
  | none => rfl
  | insert r => exact ownedBy_append_of_ne fun heq => hp (heq.symm.trans h.2)
  | put r =>
    obtain ⟨hr, r₀, hr₀, hkey, howner⟩ := h
    have hsame : ∀ x ∈ rows, key x = key r → owner x = o := fun x hx hxr => by
      rw [eq_of_key_eq hn hx hr₀ (hxr.trans hkey.symm), howner]
    rw [apply, ownedBy_put fun x hx hxr => (hsame x hx hxr).trans hr.symm]
    refine put_eq_self fun x hx hxr => ?_
    rw [mem_ownedBy] at hx
    exact hp (hx.2.symm.trans (hsame x hx.1 hxr))

end Write

/-- The keys are unique, and every row has one of the `owners`. -/
structure Held {ω : Type*} (key : α → κ) (owner : α → ω) (owners : ω → Prop) (rows : List α) :
    Prop where
  nodup : (rows.map key).Nodup
  held : ∀ x ∈ rows, owners (owner x)

namespace Held

variable {ω : Type*} {owner : α → ω} {owners owners' : ω → Prop} {o : ω} {rows : List α}
  {w : Write α}

omit [DecidableEq κ] in
theorem nil : Held key owner owners [] :=
  ⟨List.nodup_nil, fun _ hx => absurd hx List.not_mem_nil⟩

omit [DecidableEq κ] in
theorem mono (h : Held key owner owners rows) (hsub : ∀ p, owners p → owners' p) :
    Held key owner owners' rows :=
  ⟨h.nodup, fun x hx => hsub _ (h.held x hx)⟩

theorem write (h : Held key owner owners rows) (hw : w.Owned key owner o rows)
    (hsub : ∀ p, owners p → owners' p) (ho : owners' o) :
    Held key owner owners' (w.apply key rows) where
  nodup := hw.nodup h.nodup
  held x hx := by
    rcases hw.mem_apply hx with rfl | hold
    · exact ho
    · exact hsub _ (h.held x hold)

omit [DecidableEq κ] in
theorem ownedBy_eq_nil [DecidableEq ω] (h : Held key owner owners rows) (ho : ¬ owners o) :
    ownedBy owner o rows = [] := by
  rw [List.eq_nil_iff_forall_not_mem]
  intro x hx
  rw [mem_ownedBy] at hx
  exact ho (hx.2 ▸ h.held x hx.1)

end Held

end Table
