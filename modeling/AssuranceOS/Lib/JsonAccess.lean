/-
Reading JSON values as a Python program does.

`get` is `dict.get`.  `equal` is `==`: numbers are compared by value whatever their
type, a truth value counts as 0 or 1, and dictionaries are compared key by key.  Inside a
list or a dictionary two items are also equal when they are one object, which of the
values that differ from themselves only the word `NaN` is.  The number that a float
literal stands for is a parameter.
-/
import AssuranceOS.Lib.JsonParse
import Mathlib.Data.Rat.Defs

namespace JsonText

/-- `entries.get(key)`. -/
def get (entries : Object) (key : String) : Value :=
  (entries.lookup key).getD .null

theorem get_cons (k : String) (v : Value) (es : Object) (key : String) :
    get ((k, v) :: es) key = if key = k then v else get es key := by
  by_cases h : key = k
  · simp [get, h]
  · have hne : (key == k) = false := beq_eq_false_iff_ne.mpr h
    simp [get, List.lookup_cons, hne, h]

variable {β : Type} {k : String}

theorem mem_of_lookup {v : β} {l : List (String × β)} (h : l.lookup k = some v) : (k, v) ∈ l := by
  obtain ⟨before, after, rfl, -⟩ := List.lookup_eq_some_iff.mp h
  simp

theorem lookup_of_mem {v : β} : ∀ {l : List (String × β)},
    (l.map Prod.fst).Nodup → (k, v) ∈ l → l.lookup k = some v := by
  intro l
  induction l with
  | nil => simp
  | cons e l ih =>
    intro hn hmem
    rw [List.map_cons, List.nodup_cons] at hn
    rcases List.mem_cons.mp hmem with rfl | hmem
    · simp
    · have hne : (k == e.1) = false := by
        rw [beq_eq_false_iff_ne]
        rintro rfl
        exact hn.1 (List.mem_map.mpr ⟨_, hmem, rfl⟩)
      rw [List.lookup_cons, hne]
      exact ih hn.2 hmem

/-! ### Reading what was written with its keys in order -/

/-- A dictionary with its keys in order, as `Value.sorted` makes it. -/
def sortedObject (entries : Object) : Object :=
  (sortedEntries entries).insertionSort fun a b => a.1 ≤ b.1

@[simp] theorem sorted_null : Value.null.sorted = .null := rfl

@[simp] theorem sorted_bool (b : Bool) : (Value.bool b).sorted = .bool b := rfl

@[simp] theorem sorted_int (n : ℤ) : (Value.int n).sorted = .int n := rfl

@[simp] theorem sorted_str (s : String) : (Value.str s).sorted = .str s := rfl

@[simp] theorem sorted_obj (entries : Object) :
    (Value.obj entries).sorted = .obj (sortedObject entries) := by
  rw [Value.sorted, sortedObject]

@[simp] theorem sorted_arr (items : List Value) :
    (Value.arr items).sorted = .arr (items.map Value.sorted) := by
  rw [Value.sorted, sortedItems_eq]

variable {entries : Object}

theorem mem_sortedObject {e : String × Value} :
    e ∈ sortedObject entries ↔ ∃ d ∈ entries, (d.1, d.2.sorted) = e := by
  rw [sortedObject, List.mem_insertionSort, sortedEntries_eq, List.mem_map]

theorem sortedObject_keys (h : (entries.map Prod.fst).Nodup) :
    ((sortedObject entries).map Prod.fst).Nodup := by
  have hperm := List.perm_insertionSort (fun a b : String × Value => a.1 ≤ b.1)
    (sortedEntries entries)
  rw [sortedObject, (hperm.map Prod.fst).nodup_iff, sortedEntries_eq, List.map_map]
  exact h

theorem lookup_sortedObject {entries : Object} (h : (entries.map Prod.fst).Nodup)
    (key : String) : (sortedObject entries).lookup key = (entries.lookup key).map Value.sorted := by
  cases hv : entries.lookup key with
  | some v =>
    have hmem : (key, v.sorted) ∈ sortedObject entries :=
      mem_sortedObject.mpr ⟨(key, v), mem_of_lookup hv, rfl⟩
    exact lookup_of_mem (sortedObject_keys h) hmem
  | none =>
    rw [List.lookup_eq_none_iff] at hv
    rw [Option.map_none, List.lookup_eq_none_iff]
    intro e he
    obtain ⟨d, hd, rfl⟩ := mem_sortedObject.mp he
    exact hv d hd

theorem get_sortedObject (h : (entries.map Prod.fst).Nodup) (key : String) :
    get (sortedObject entries) key = (get entries key).sorted := by
  rw [get, lookup_sortedObject h, get]
  cases entries.lookup key <;> rfl

/-- Dictionaries with one text have the same values, up to the order of keys. -/
theorem get_sorted_congr {es fs : Object} (hes : (es.map Prod.fst).Nodup)
    (hfs : (fs.map Prod.fst).Nodup) (h : (Value.obj es).sorted = (Value.obj fs).sorted)
    (key : String) : (get es key).sorted = (get fs key).sorted := by
  rw [sorted_obj, sorted_obj] at h
  rw [← get_sortedObject hes, ← get_sortedObject hfs, Value.obj.inj h]

mutual

/-- Ordering the keys once is enough. -/
theorem sorted_sorted (v : Value) : v.sorted.sorted = v.sorted := by
  match v with
  | .null | .bool _ | .int _ | .float _ | .str _ => rfl
  | .arr items =>
    have hitems := sortedItems_sorted items
    rw [sorted_arr, sorted_arr, ← sortedItems_eq, ← sortedItems_eq, hitems]
  | .obj entries =>
    have hentries := sortedEntries_sorted entries
    rw [sorted_obj, sorted_obj]
    have hmap : sortedEntries (sortedObject entries) = sortedObject entries := by
      rw [sortedEntries_eq (sortedEntries entries), ← List.map_id (sortedEntries entries),
        List.map_map, List.map_inj_left] at hentries
      rw [sortedEntries_eq, ← List.map_id (sortedObject entries), List.map_map,
        List.map_inj_left]
      intro e he
      rw [sortedObject, List.mem_insertionSort] at he
      exact hentries e he
    have hordered : (sortedObject entries).Pairwise fun a b => a.1 ≤ b.1 :=
      List.pairwise_insertionSort _ _
    rw [sortedObject, hmap, List.Pairwise.insertionSort_eq hordered]

theorem sortedItems_sorted (vs : List Value) : sortedItems (sortedItems vs) = sortedItems vs := by
  match vs with
  | [] => rfl
  | v :: vs => rw [sortedItems, sortedItems, sorted_sorted v, sortedItems_sorted vs]

theorem sortedEntries_sorted (es : Object) :
    sortedEntries (sortedEntries es) = sortedEntries es := by
  match es with
  | [] => rfl
  | (k, v) :: es =>
    rw [sortedEntries, sortedEntry, sortedEntries, sortedEntry, sorted_sorted v,
      sortedEntries_sorted es]

end

/-- The value of a float. -/
inductive FloatValue where
  | nan
  | infinite (negative : Bool)
  | finite (q : ℚ)
  deriving DecidableEq

/-- A value as a number. -/
def Value.number? (real : FloatLiteral → FloatValue) : Value → Option FloatValue
  | .bool b => some (.finite (if b then 1 else 0))
  | .int n => some (.finite n)
  | .float literal => some (real literal)
  | _ => none

/-- Both are the word `NaN`. -/
def oneObject : Value → Value → Bool
  | .float l, .float m => l.text = nan ∧ m.text = nan
  | _, _ => false

mutual

def equal (real : FloatLiteral → FloatValue) : Value → Value → Bool
  | .null, .null => true
  | .str s, .str t => s = t
  | .arr vs, .arr ws => equalItems real vs ws
  | .obj es, .obj fs => es.length = fs.length && equalEntries real es fs
  | v, w =>
    match v.number? real, w.number? real with
    | some m, some n => m = n ∧ m ≠ .nan
    | _, _ => false

def equalItems (real : FloatLiteral → FloatValue) : List Value → List Value → Bool
  | [], [] => true
  | v :: vs, w :: ws => (oneObject v w || equal real v w) && equalItems real vs ws
  | _, _ => false

/-- Every entry has an equal one in the dictionary. -/
def equalEntries (real : FloatLiteral → FloatValue) : List (String × Value) → Object → Bool
  | [], _ => true
  | e :: es, fs => equalEntry real e fs && equalEntries real es fs

def equalEntry (real : FloatLiteral → FloatValue) : String × Value → Object → Bool
  | (k, v), fs =>
    match fs.lookup k with
    | some w => oneObject v w || equal real v w
    | none => false

end

section Equal

variable {real : FloatLiteral → FloatValue} {v : Value}

@[simp] theorem equal_str {s : String} : equal real v (.str s) ↔ v = .str s := by
  cases v <;> simp [equal, Value.number?]

@[simp] theorem equal_null : equal real v .null ↔ v = .null := by
  cases v <;> simp [equal, Value.number?]

@[simp] theorem equal_int {m n : ℤ} : equal real (.int m) (.int n) ↔ m = n := by
  simp [equal, Value.number?]

end Equal

end JsonText
