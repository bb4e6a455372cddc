/-
Bijective numeration.

In base `k` a numeral has digits of ranks `0` to `k - 1`, and a digit of rank `r` stands for
`r + 1`: there is no digit for zero, and every natural number has exactly one numeral (zero has the
empty one).  `spell` writes the numeral of a number from its end, `read` folds a numeral from its
front.

* `read_spell`, `spell_read` — each undoes the other.

Natural numbers with a bounded number of significant bits.

`roundBits p n` keeps the `p` leading bits of `n` and rounds the rest to the nearest, ties to even,
as an IEEE 754 format of precision `p` does.
-/
import Mathlib.Data.List.Induction
import Mathlib.Tactic.Ring
import Mathlib.Tactic.Common

namespace Bijective

variable {α : Type*} {k : ℕ} {symbol : ℕ → α} {rank : α → ℕ}

/-- The number of a numeral. -/
def read (k : ℕ) (rank : α → ℕ) (numeral : List α) : ℕ :=
  numeral.foldl (fun n a => n * k + (rank a + 1)) 0

/-- The numeral of `n` before `rest`; every digit takes a unit of the fuel. -/
def spell (k : ℕ) (symbol : ℕ → α) : ℕ → ℕ → List α → List α
  | 0, _, rest => rest
  | fuel + 1, n, rest =>
    if n = 0 then rest else spell k symbol fuel ((n - 1) / k) (symbol ((n - 1) % k) :: rest)

theorem read_concat (numeral : List α) (a : α) :
    read k rank (numeral ++ [a]) = read k rank numeral * k + (rank a + 1) := by
  unfold read
  rw [List.foldl_append, List.foldl_cons, List.foldl_nil]

/-- The first digit counts with the power of its place. -/
theorem read_cons (a : α) (numeral : List α) :
    read k rank (a :: numeral) = (rank a + 1) * k ^ numeral.length + read k rank numeral := by
  induction numeral using List.reverseRecOn with
  | nil => simp [read]
  | append_singleton numeral b ih =>
    rw [← List.cons_append, read_concat, read_concat, ih, List.length_append, List.length_singleton]
    ring

theorem read_pos {numeral : List α} (h : numeral ≠ []) : 0 < read k rank numeral := by
  cases numeral using List.reverseRecOn with
  | nil => exact absurd rfl h
  | append_singleton numeral a =>
    rw [read_concat]
    exact Nat.succ_pos _

section Inverse

variable (hk : 0 < k) (hrank : ∀ r < k, rank (symbol r) = r)
variable {fuel n : ℕ}

include hk hrank in
/-- The numeral of a number stands for it, with `rest` behind. -/
theorem read_spell_append (h : n ≤ fuel) (rest : List α) :
    read k rank (spell k symbol fuel n rest) = n * k ^ rest.length + read k rank rest := by
  induction fuel generalizing n rest with
  | zero =>
    have hn : n = 0 := by omega
    rw [hn, spell]
    omega
  | succ fuel ih =>
    unfold spell
    split
    · rename_i hn
      rw [hn]
      omega
    · rename_i hn
      -- the digit that is split off is the remainder of the predecessor
      have hsplit : (n - 1) / k * k + ((n - 1) % k + 1) = n := by
        have hdivision := Nat.div_add_mod' (n - 1) k
        omega
      have hfuel : (n - 1) / k ≤ fuel := (Nat.div_le_self _ _).trans (by omega)
      rw [ih hfuel, read_cons, hrank _ (Nat.mod_lt _ hk), List.length_cons]
      calc (n - 1) / k * k ^ (rest.length + 1) +
            (((n - 1) % k + 1) * k ^ rest.length + read k rank rest)
          = ((n - 1) / k * k + ((n - 1) % k + 1)) * k ^ rest.length + read k rank rest := by ring
        _ = n * k ^ rest.length + read k rank rest := by rw [hsplit]

include hk hrank in
/-- **Reading back** what was spelled. -/
theorem read_spell (h : n ≤ fuel) : read k rank (spell k symbol fuel n []) = n := by
  rw [read_spell_append hk hrank h]
  simp [read]

/-- **Spelling** the number of a numeral. -/
theorem spell_read {numeral : List α} (hdigits : ∀ a ∈ numeral, rank a < k ∧ symbol (rank a) = a)
    (h : read k rank numeral ≤ fuel) (rest : List α) :
    spell k symbol fuel (read k rank numeral) rest = numeral ++ rest := by
  induction numeral using List.reverseRecOn generalizing fuel rest with
  | nil =>
    cases fuel with
    | zero => rfl
    | succ fuel => rfl
  | append_singleton numeral a ih =>
    obtain ⟨hlt, hsymbol⟩ := hdigits a (by simp)
    have hread := @read_concat _ k rank numeral a
    cases fuel with
    | zero => omega
    | succ fuel =>
      have hpred : read k rank (numeral ++ [a]) - 1 = rank a + read k rank numeral * k := by omega
      have hdiv : (rank a + read k rank numeral * k) / k = read k rank numeral := by
        rw [Nat.add_mul_div_right _ _ (by omega), Nat.div_eq_of_lt hlt, Nat.zero_add]
      have hmod : (rank a + read k rank numeral * k) % k = rank a := by
        rw [Nat.add_mul_mod_self_right, Nat.mod_eq_of_lt hlt]
      have hfuel : read k rank numeral ≤ fuel := by
        have hmul : read k rank numeral ≤ read k rank numeral * k :=
          Nat.le_mul_of_pos_right _ (by omega)
        omega
      unfold spell
      rw [if_neg (by omega), hpred, hdiv, hmod, hsymbol,
        ih (fun b hb => hdigits b (List.mem_append_left _ hb)) hfuel, List.append_assoc,
        List.singleton_append]

end Inverse

end Bijective

namespace SignificantBits

/-- How many bits of `n` are past the first `p`. -/
def excess (p n : ℕ) : ℕ := n.log2 + 1 - p

/-- `n / unit` rounded to the nearest, ties to even. -/
def roundQuotient (n unit : ℕ) : ℕ :=
  if 2 * (n % unit) < unit then n / unit
  else if unit < 2 * (n % unit) then n / unit + 1
  else if n / unit % 2 = 0 then n / unit else n / unit + 1

def roundBits (p n : ℕ) : ℕ := roundQuotient n (2 ^ excess p n) * 2 ^ excess p n

end SignificantBits
