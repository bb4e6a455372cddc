/-
What the screening of tool arguments blocks.

The armor looks at the values that are no containers, under the last part of their paths, and
raises where it would record one that cannot be encoded.  `blocks_iff` says what it blocks in terms
of the arguments as a tree, and `escalation_blocked_iff` for which of them it blocks an escalation.
-/
import AssuranceOS.Governance.Armor
import AssuranceOS.Lib.Checked

namespace Governance

open JsonText Regex Checked

def IsLeaf : Value → Prop
  | .arr _ | .obj _ => False
  | _ => True

/-- The entry occurs in the value, at any depth. -/
inductive Holds (key : String) (x : Value) : Value → Prop where
  | entry {entries : Object} (h : (key, x) ∈ entries) : Holds key x (.obj entries)
  | field {entries : Object} {k : String} {v : Value} (h : (k, v) ∈ entries) (hv : Holds key x v) :
    Holds key x (.obj entries)
  | item {items : List Value} {v : Value} (h : v ∈ items) (hv : Holds key x v) :
    Holds key x (.arr items)

/-- The value has this one in it, which is no container. -/
inductive Contains (x : Value) : Value → Prop where
  | self (h : IsLeaf x) : Contains x x
  | field {entries : Object} {k : String} {v : Value} (h : (k, v) ∈ entries) (hv : Contains x v) :
    Contains x (.obj entries)
  | item {items : List Value} {v : Value} (h : v ∈ items) (hv : Contains x v) :
    Contains x (.arr items)

def EndsInBracket (path : String) : Prop := path.toList.getLast? = some ']'

theorem takeWhile_append_stop {α : Type} {p : α → Bool} {c : α} (h : p c = false)
    (l m : List α) : (l ++ c :: m).takeWhile p = l.takeWhile p := by
  induction l with
  | nil => simp [h]
  | cons a l ih => simp only [List.cons_append, List.takeWhile_cons, ih]

theorem leafOf_field (path key : String) :
    leafOf (if path = "" then key else path ++ "." ++ key) = leafOf key := by
  split
  · rfl
  · have hreverse : (path ++ "." ++ key).toList.reverse =
        key.toList.reverse ++ '.' :: path.toList.reverse := by simp
    unfold leafOf List.rtakeWhile
    rw [hreverse, takeWhile_append_stop (by simp)]

theorem endsInBracket_item (path : String) (index : Nat) :
    EndsInBracket (path ++ "[" ++ toString index ++ "]") := by
  unfold EndsInBracket
  rw [String.toList_append]
  exact List.getLast?_concat

variable {path key : String} {D : Value → Prop}

theorem endsInBracket_leafOf (h : EndsInBracket path) :
    EndsInBracket (leafOf path) := by
  obtain ⟨before, hbefore⟩ := List.getLast?_eq_some_iff.mp h
  unfold EndsInBracket leafOf
  rw [hbefore, List.rtakeWhile_concat_pos _ _ _ (by decide), String.toList_ofList]
  exact List.getLast?_concat

/-- A value under a path is the value itself, or it stands under a key, or in a list. -/
def Located (path : String) (v : Value) (p : String) (x : Value) : Prop :=
  (x = v ∧ p = path) ∨ (∃ k, Holds k x v ∧ leafOf p = leafOf k) ∨ EndsInBracket p

mutual

theorem mem_walk : ∀ (v : Value) {path p : String} {x : Value}, (p, x) ∈ walk path v →
    IsLeaf x ∧ Contains x v ∧ Located path v p x
  | .null, _, _, _, h => by
    cases List.mem_singleton.mp h
    exact ⟨trivial, .self trivial, Or.inl ⟨rfl, rfl⟩⟩
  | .bool _, _, _, _, h => by
    cases List.mem_singleton.mp h
    exact ⟨trivial, .self trivial, Or.inl ⟨rfl, rfl⟩⟩
  | .int _, _, _, _, h => by
    cases List.mem_singleton.mp h
    exact ⟨trivial, .self trivial, Or.inl ⟨rfl, rfl⟩⟩
  | .float _, _, _, _, h => by
    cases List.mem_singleton.mp h
    exact ⟨trivial, .self trivial, Or.inl ⟨rfl, rfl⟩⟩
  | .str _, _, _, _, h => by
    cases List.mem_singleton.mp h
    exact ⟨trivial, .self trivial, Or.inl ⟨rfl, rfl⟩⟩
  | .arr items, _, _, _, h => by
    obtain ⟨hleaf, w, hw, hcontains, hlocated⟩ := mem_walkItems items h
    refine ⟨hleaf, .item hw hcontains, ?_⟩
    rcases hlocated with ⟨k, hk, hp⟩ | hp
    · exact Or.inr (Or.inl ⟨k, .item hw hk, hp⟩)
    · exact Or.inr (Or.inr hp)
  | .obj entries, _, _, _, h => by
    obtain ⟨hleaf, k, w, hw, hcontains, hlocated⟩ := mem_walkEntries entries h
    refine ⟨hleaf, .field hw hcontains, ?_⟩
    rcases hlocated with ⟨rfl, hp⟩ | ⟨k', hk', hp⟩ | hp
    · exact Or.inr (Or.inl ⟨k, .entry hw, hp⟩)
    · exact Or.inr (Or.inl ⟨k', .field hw hk', hp⟩)
    · exact Or.inr (Or.inr hp)

theorem mem_walkItems : ∀ (items : List Value) {path p : String} {index : Nat} {x : Value},
    (p, x) ∈ walkItems path index items →
    IsLeaf x ∧ ∃ w ∈ items, Contains x w ∧
      ((∃ k, Holds k x w ∧ leafOf p = leafOf k) ∨ EndsInBracket p)
  | [], _, _, _, _, h => absurd h List.not_mem_nil
  | v :: vs, _, _, _, _, h => by
    rcases List.mem_append.mp h with h | h
    · obtain ⟨hleaf, hcontains, hlocated⟩ := mem_walk v h
      refine ⟨hleaf, v, List.mem_cons_self, hcontains, ?_⟩
      rcases hlocated with ⟨-, rfl⟩ | hlocated
      · exact Or.inr (endsInBracket_item _ _)
      · exact hlocated
    · obtain ⟨hleaf, w, hw, hlocated⟩ := mem_walkItems vs h
      exact ⟨hleaf, w, List.mem_cons_of_mem v hw, hlocated⟩

theorem mem_walkEntries : ∀ (entries : List (String × Value)) {path p : String} {x : Value},
    (p, x) ∈ walkEntries path entries →
    IsLeaf x ∧ ∃ k w, (k, w) ∈ entries ∧ Contains x w ∧
      ((x = w ∧ leafOf p = leafOf k) ∨ (∃ k', Holds k' x w ∧ leafOf p = leafOf k') ∨
        EndsInBracket p)
  | [], _, _, _, h => absurd h List.not_mem_nil
  | e :: es, _, _, _, h => by
    rcases List.mem_append.mp h with h | h
    · obtain ⟨hleaf, hrest⟩ := mem_walkEntry e h
      exact ⟨hleaf, e.1, e.2, List.mem_cons_self, hrest⟩
    · obtain ⟨hleaf, k, w, hw, hrest⟩ := mem_walkEntries es h
      exact ⟨hleaf, k, w, List.mem_cons_of_mem e hw, hrest⟩

theorem mem_walkEntry : ∀ (e : String × Value) {path p : String} {x : Value},
    (p, x) ∈ walkEntry path e →
    IsLeaf x ∧ Contains x e.2 ∧
      ((x = e.2 ∧ leafOf p = leafOf e.1) ∨ (∃ k', Holds k' x e.2 ∧ leafOf p = leafOf k') ∨
        EndsInBracket p)
  | (k, v), path, _, _, h => by
    obtain ⟨hleaf, hcontains, hlocated⟩ := mem_walk v h
    refine ⟨hleaf, hcontains, ?_⟩
    rcases hlocated with ⟨hx, rfl⟩ | hlocated
    · exact Or.inl ⟨hx, leafOf_field path k⟩
    · exact Or.inr hlocated

end

variable {x v : Value}

theorem mem_walk_self (hleaf : IsLeaf x) (path : String) : (path, x) ∈ walk path x := by
  cases x with
  | arr _ => exact hleaf.elim
  | obj _ => exact hleaf.elim
  | _ => exact List.mem_singleton.mpr rfl

theorem mem_walkEntries_of_mem {p : String} {entries : Object} (h : (key, v) ∈ entries)
    (hv : (p, x) ∈ walk (if path = "" then key else path ++ "." ++ key) v) :
    (p, x) ∈ walk path (.obj entries) := by
  show (p, x) ∈ walkEntries path entries
  induction entries with
  | nil => exact absurd h List.not_mem_nil
  | cons e es ih =>
    rw [walkEntries, List.mem_append]
    rcases List.mem_cons.mp h with rfl | h
    · exact Or.inl hv
    · exact Or.inr (ih h)

theorem mem_walkItems_of_mem (path : String) {items : List Value} (h : v ∈ items) :
    ∀ index : Nat, ∃ i : Nat, ∀ p x, (p, x) ∈ walk (path ++ "[" ++ toString i ++ "]") v →
      (p, x) ∈ walkItems path index items := by
  induction items with
  | nil => exact absurd h List.not_mem_nil
  | cons w ws ih =>
    intro index
    rcases List.mem_cons.mp h with rfl | h
    · exact ⟨index, fun p x hp => List.mem_append.mpr (Or.inl hp)⟩
    · obtain ⟨i, hi⟩ := ih h (index + 1)
      exact ⟨i, fun p x hp => List.mem_append.mpr (Or.inr (hi p x hp))⟩

theorem mem_walk_of_holds (hleaf : IsLeaf x) (h : Holds key x v) :
    ∀ path, ∃ p, (p, x) ∈ walk path v ∧ leafOf p = leafOf key := by
  induction h with
  | entry h =>
    intro path
    refine ⟨_, mem_walkEntries_of_mem h (mem_walk_self hleaf _), leafOf_field path key⟩
  | field h _ ih =>
    intro path
    obtain ⟨p, hp, hleafOf⟩ := ih _
    exact ⟨p, mem_walkEntries_of_mem h hp, hleafOf⟩
  | item h _ ih =>
    intro path
    obtain ⟨index, hindex⟩ := mem_walkItems_of_mem path h 0
    obtain ⟨p, hp, hleafOf⟩ := ih (path ++ "[" ++ toString index ++ "]")
    exact ⟨p, hindex p x hp, hleafOf⟩

theorem mem_walk_of_contains (h : Contains x v) :
    ∀ path, ∃ p, (p, x) ∈ walk path v := by
  induction h with
  | self hleaf => exact fun path => ⟨path, mem_walk_self hleaf path⟩
  | field h _ ih =>
    intro path
    obtain ⟨p, hp⟩ := ih _
    exact ⟨p, mem_walkEntries_of_mem h hp⟩
  | item h _ ih =>
    intro path
    obtain ⟨index, hindex⟩ := mem_walkItems_of_mem path h 0
    obtain ⟨p, hp⟩ := ih (path ++ "[" ++ toString index ++ "]")
    exact ⟨p, hindex p x hp⟩

theorem exists_walk_iff :
    (∃ p x, (p, x) ∈ walk "" v ∧ D x) ↔ ∃ x, Contains x v ∧ D x := by
  constructor
  · rintro ⟨p, x, hmem, hx⟩
    exact ⟨x, (mem_walk v hmem).2.1, hx⟩
  · rintro ⟨x, hcontains, hx⟩
    obtain ⟨p, hp⟩ := mem_walk_of_contains hcontains ""
    exact ⟨p, x, hp, hx⟩

theorem exists_walk_key_iff (entries : Object) {keys : List String}
    (hkeys : ∀ key ∈ keys, ¬ EndsInBracket key) :
    (∃ p x, (p, x) ∈ walk "" (.obj entries) ∧ leafOf p ∈ keys ∧ D x) ↔
      ∃ key x, Holds key x (.obj entries) ∧ IsLeaf x ∧ leafOf key ∈ keys ∧ D x := by
  constructor
  · rintro ⟨p, x, hmem, hkey, hx⟩
    obtain ⟨hleaf, -, hlocated⟩ := mem_walk (.obj entries) hmem
    rcases hlocated with ⟨rfl, -⟩ | ⟨key, hholds, hp⟩ | hbracket
    · exact hleaf.elim
    · exact ⟨key, x, hholds, hleaf, hp ▸ hkey, hx⟩
    · exact absurd (endsInBracket_leafOf hbracket) (hkeys _ hkey)
  · rintro ⟨key, x, hholds, hleaf, hkey, hx⟩
    obtain ⟨p, hp, hleafOf⟩ := mem_walk_of_holds hleaf hholds ""
    exact ⟨p, x, hp, hleafOf ▸ hkey, hx⟩

theorem not_endsInBracket_blocked : ∀ key ∈ blockedArgumentKeys, ¬ EndsInBracket key := by
  unfold EndsInBracket
  decide

theorem not_endsInBracket_scope : ∀ key ∈ scopeKeys, ¬ EndsInBracket key := by
  unfold EndsInBracket
  decide

/-! ### What is blocked -/

section Blocks

variable (t : ArmorTables) (armor : ModelArmor)

/-- `urlparse` raises at the value. -/
def RaisesAt (value : String) : Prop :=
  isUrl t value = true ∧ Url.urlsplit t.accepts value.toList [] = none

def Egress (value : String) : Prop :=
  isUrl t value = true ∧ ∃ parts, Url.urlsplit t.accepts value.toList [] = some parts ∧
    PyString.lower t.unicode ((hostname t parts.netloc).getD "") ∉ armor.egressAllowlist

def Poisoned (forbiddenActions : List String) (value : String) : Prop :=
  search traversalPattern value = true ∨ search (sqlishPattern t) value = true ∨
    (∃ d ∈ injectionPatterns t, search d.pattern value = true) ∨
    (∃ action ∈ forbiddenActions, PyString.lower t.unicode action ≠ "" ∧
      occursIn (PyString.lower t.unicode action) (PyString.lower t.unicode value) = true) ∨
    Egress t armor value

/-- The armor blocks the call. -/
def Blocks (arguments : Object) (granted forbiddenActions : List String) : Prop :=
  ∃ r, inspectToolCall t armor arguments granted forbiddenActions = .ok r ∧ r.blocked = true

/-- A finding at the argument is of a text that UTF-8 does not encode, so its digest raises. -/
def UnencodableAt (granted forbiddenActions : List String) (key : String) (x : Value) : Prop :=
  (leafOf key ∈ blockedArgumentKeys ∧
    t.encodes (key ++ "=" ++ t.conversions.str x) = false) ∨
  ∃ value, x = .str value ∧ t.encodes value = false ∧
    (Poisoned t armor forbiddenActions value ∨
      (leafOf key ∈ scopeKeys ∧ granted ≠ [] ∧ value ∉ granted))

/-- The screening of the arguments ends: no URL in them raises, and no digest. -/
structure Screens (arguments : Object) (granted forbiddenActions : List String) : Prop where
  urls : ∀ value, Contains (.str value) (.obj arguments) → ¬ RaisesAt t value
  excerpts : ∀ key x, (key, x) ∈ walk "" (.obj arguments) →
    ¬ UnencodableAt t armor granted forbiddenActions key x

/-- There is a finding in the arguments: a value under a blocked key, a poisoned text, or a text
outside a grant that is not empty. -/
def Detected (arguments : Object) (granted forbiddenActions : List String) : Prop :=
  (∃ key x, Holds key x (.obj arguments) ∧ IsLeaf x ∧ leafOf key ∈ blockedArgumentKeys) ∨
    (∃ value, Contains (.str value) (.obj arguments) ∧ Poisoned t armor forbiddenActions value) ∨
    (granted ≠ [] ∧ ∃ key value, Holds key (.str value) (.obj arguments) ∧
      leafOf key ∈ scopeKeys ∧ value ∉ granted)

/-- The arguments ask for authority: an entry has a blocked key, whatever its value, or a scope
has a value in it that has not been granted. -/
def Escalates (arguments : Object) (granted : List String) : Prop :=
  (∃ key x, Holds key x (.obj arguments) ∧ key ∈ blockedArgumentKeys) ∨
    ∃ key scope x, Holds key scope (.obj arguments) ∧ key ∈ scopeKeys ∧ Contains x scope ∧
      x ∉ granted.map Value.str

variable {α : Type} {a : String × Value}

theorem append_ne_nil_iff {l m : List α} : l ++ m ≠ [] ↔ l ≠ [] ∨ m ≠ [] := by
  rw [ne_eq, List.append_eq_nil_iff, not_and_or]

def FoundAt (granted forbiddenActions : List String) (key : String) (x : Value) : Prop :=
  leafOf key ∈ blockedArgumentKeys ∨ ∃ value, x = .str value ∧
    (Poisoned t armor forbiddenActions value ∨
      (leafOf key ∈ scopeKeys ∧ granted ≠ [] ∧ value ∉ granted))

variable {t armor} {granted : List String}
variable {value key : String} {found : List ArmorFinding} {forbiddenActions : List String}
  {x : Value} {arguments : Object}

theorem recorded_eq_ok {l : List ArmorFinding} :
    recorded t value found = .ok l ↔ found = l ∧ (found ≠ [] → t.encodes value = true) := by
  unfold recorded
  split
  · rename_i h
    simp only [Except.ok.injEq, iff_self_and]
    exact fun _ hfound => h.resolve_left hfound
  · rename_i h
    exact iff_of_false (fun hok => by cases hok) fun hok => h (or_iff_not_imp_left.mpr hok.2)

theorem recorded_returns :
    (∃ l, recorded t value found = .ok l) ↔ (found ≠ [] → t.encodes value = true) := by
  simp only [recorded_eq_ok, exists_eq_left']

theorem hostFindings_found {host : String} :
    hostFindings t armor key value host ≠ [] ↔ host ∉ armor.egressAllowlist := by
  unfold hostFindings
  by_cases hempty : armor.egressAllowlist = []
  · simp [hempty]
  · by_cases hhost : host ∈ armor.egressAllowlist
    · simp [hempty, hhost]
    · simp [hempty, hhost]

theorem egressFindings_found (h : egressFindings t armor key value = .ok found) :
    found ≠ [] ↔ Egress t armor value := by
  unfold egressFindings inspectUrl at h
  unfold Egress
  split at h
  · rename_i hisUrl
    split at h
    · cases h
    · rename_i parts hsplit
      obtain ⟨rfl, -⟩ := recorded_eq_ok.mp h
      simp [hisUrl, hsplit, hostFindings_found]
  · rename_i hisUrl
    cases h
    exact iff_of_false (fun h => h rfl) fun h => hisUrl h.1

theorem egressFindings_returns {key value : String} :
    (∃ found, egressFindings t armor key value = .ok found) ↔
      ¬ RaisesAt t value ∧ (Egress t armor value → t.encodes value = true) := by
  unfold egressFindings inspectUrl RaisesAt Egress
  split
  · rename_i hisUrl
    split
    · rename_i hsplit
      simp [hisUrl, hsplit]
    · rename_i parts hsplit
      rw [recorded_returns, hostFindings_found]
      simp [hisUrl, hsplit]
  · rename_i hisUrl
    exact iff_of_true ⟨[], rfl⟩ ⟨fun h => hisUrl h.1, fun h => absurd h.1 hisUrl⟩

theorem textFindings_found :
    textFindings t (forbiddenActions.map (PyString.lower t.unicode)).dedup key value ≠ [] ↔
      search traversalPattern value = true ∨ search (sqlishPattern t) value = true ∨
      (∃ d ∈ injectionPatterns t, search d.pattern value = true) ∨
      ∃ action ∈ forbiddenActions, PyString.lower t.unicode action ≠ "" ∧
        occursIn (PyString.lower t.unicode action) (PyString.lower t.unicode value) = true := by
  have hactions : ((forbiddenActions.map (PyString.lower t.unicode)).dedup.filter fun action =>
      action ≠ "" && occursIn action (PyString.lower t.unicode value)) ≠ [] ↔
      ∃ action ∈ forbiddenActions, PyString.lower t.unicode action ≠ "" ∧
        occursIn (PyString.lower t.unicode action) (PyString.lower t.unicode value) = true := by
    simp [List.filter_eq_nil_iff]
  have hinjected : ((injectionPatterns t).filter fun d => search d.pattern value) ≠ [] ↔
      ∃ d ∈ injectionPatterns t, search d.pattern value = true := by
    simp [List.filter_eq_nil_iff]
  unfold textFindings
  rw [append_ne_nil_iff, append_ne_nil_iff, append_ne_nil_iff, ne_eq, ne_eq, ne_eq (List.map _ _),
    ne_eq (List.map _ _), List.map_eq_nil_iff, List.map_eq_nil_iff, ← ne_eq (List.filter _ _),
    ← ne_eq (List.filter _ _), hactions, hinjected, or_assoc, or_assoc]
  simp

theorem scopeFindings_found : scopeFindings t granted key value ≠ [] ↔
    leafOf key ∈ scopeKeys ∧ granted ≠ [] ∧ value ∉ granted := by
  unfold scopeFindings
  split <;> simp_all

theorem keyFindings_found :
    keyFindings t key x ≠ [] ↔ leafOf key ∈ blockedArgumentKeys := by
  unfold keyFindings
  split <;> simp_all

theorem poisoned_iff {forbiddenActions : List String} {key value : String} :
    Poisoned t armor forbiddenActions value ↔
      textFindings t (forbiddenActions.map (PyString.lower t.unicode)).dedup key value ≠ [] ∨
        Egress t armor value := by
  rw [textFindings_found]
  unfold Poisoned
  simp only [or_assoc]

theorem inspectText_found
    (h : inspectText t armor granted (forbiddenActions.map (PyString.lower t.unicode)).dedup key
      value = .ok found) :
    found ≠ [] ↔ Poisoned t armor forbiddenActions value ∨
      (leafOf key ∈ scopeKeys ∧ granted ≠ [] ∧ value ∉ granted) := by
  unfold inspectText at h
  obtain ⟨text, htext, h⟩ := bind_eq_ok.mp h
  obtain ⟨egress, hegress, h⟩ := bind_eq_ok.mp h
  obtain ⟨scope, hscope, h⟩ := bind_eq_ok.mp h
  obtain ⟨rfl, -⟩ := recorded_eq_ok.mp htext
  obtain ⟨rfl, -⟩ := recorded_eq_ok.mp hscope
  rw [← Except.ok.inj h, append_ne_nil_iff, append_ne_nil_iff, egressFindings_found hegress,
    scopeFindings_found, ← poisoned_iff]

theorem inspectText_returns {forbiddenActions : List String} {key value : String} :
    (∃ found, inspectText t armor granted (forbiddenActions.map (PyString.lower t.unicode)).dedup
        key value = .ok found) ↔
      ¬ RaisesAt t value ∧ (Poisoned t armor forbiddenActions value ∨
        (leafOf key ∈ scopeKeys ∧ granted ≠ [] ∧ value ∉ granted) → t.encodes value = true) := by
  rw [@poisoned_iff t armor forbiddenActions key, ← scopeFindings_found (t := t)]
  unfold inspectText
  constructor
  · rintro ⟨found, h⟩
    obtain ⟨text, htext, h⟩ := bind_eq_ok.mp h
    obtain ⟨egress, hegress, h⟩ := bind_eq_ok.mp h
    obtain ⟨scope, hscope, -⟩ := bind_eq_ok.mp h
    obtain ⟨hraises, hencodes⟩ := egressFindings_returns.mp ⟨egress, hegress⟩
    refine ⟨hraises, ?_⟩
    rintro ((htextual | hegress) | hscoped)
    · exact (recorded_eq_ok.mp htext).2 htextual
    · exact hencodes hegress
    · exact (recorded_eq_ok.mp hscope).2 hscoped
  · rintro ⟨hraises, hencodes⟩
    obtain ⟨text, htext⟩ := recorded_returns.mpr fun h => hencodes (.inl (.inl h))
    obtain ⟨egress, hegress⟩ := (@egressFindings_returns t armor key value).mpr
      ⟨hraises, fun h => hencodes (.inl (.inr h))⟩
    obtain ⟨scope, hscope⟩ := recorded_returns.mpr fun h => hencodes (.inr h)
    exact ⟨_, bind_eq_ok.mpr ⟨text, htext, bind_eq_ok.mpr ⟨egress, hegress,
      bind_eq_ok.mpr ⟨scope, hscope, rfl⟩⟩⟩⟩

theorem inspectKey_returns :
    (∃ found, inspectKey t key x = .ok found) ↔ ¬ (leafOf key ∈ blockedArgumentKeys ∧
      t.encodes (key ++ "=" ++ t.conversions.str x) = false) := by
  unfold inspectKey
  rw [recorded_returns, keyFindings_found, not_and, Bool.not_eq_false]

theorem inspectKey_found (h : inspectKey t key x = .ok found) :
    found ≠ [] ↔ leafOf key ∈ blockedArgumentKeys := by
  obtain ⟨rfl, -⟩ := recorded_eq_ok.mp h
  exact keyFindings_found

theorem inspectArgument_found
    (h : inspectArgument t armor granted (forbiddenActions.map (PyString.lower t.unicode)).dedup a =
      .ok found) :
    found ≠ [] ↔ FoundAt t armor granted forbiddenActions a.1 a.2 := by
  rcases a with ⟨key, x⟩
  unfold FoundAt
  dsimp only
  cases x with
  | str value =>
    unfold inspectArgument at h
    obtain ⟨privileged, hprivileged, h⟩ := bind_eq_ok.mp h
    obtain ⟨text, htext, hfound⟩ := bind_eq_ok.mp h
    rw [← Except.ok.inj hfound, append_ne_nil_iff, inspectKey_found hprivileged,
      inspectText_found htext]
    simp
  | _ =>
    rw [inspectKey_found h]
    simp

theorem inspectArgument_returns :
    (∃ found, inspectArgument t armor granted
        (forbiddenActions.map (PyString.lower t.unicode)).dedup a = .ok found) ↔
      (∀ value, a.2 = .str value → ¬ RaisesAt t value) ∧
        ¬ UnencodableAt t armor granted forbiddenActions a.1 a.2 := by
  rcases a with ⟨key, x⟩
  unfold UnencodableAt
  rw [not_or, ← inspectKey_returns]
  cases x with
  | str value =>
    have htext := @inspectText_returns t armor granted forbiddenActions key value
    unfold inspectArgument
    constructor
    · rintro ⟨found, h⟩
      obtain ⟨privileged, hprivileged, h⟩ := bind_eq_ok.mp h
      obtain ⟨text, hfound, -⟩ := bind_eq_ok.mp h
      obtain ⟨hraises, hencodes⟩ := htext.mp ⟨text, hfound⟩
      refine ⟨?_, ⟨privileged, hprivileged⟩, ?_⟩
      · rintro _ ⟨⟩
        exact hraises
      · rintro ⟨_, ⟨⟩, hnot, hpoisoned⟩
        rw [hencodes hpoisoned] at hnot
        cases hnot
    · rintro ⟨hraises, ⟨privileged, hprivileged⟩, hunencodable⟩
      obtain ⟨text, hfound⟩ := htext.mpr ⟨hraises value rfl, fun hpoisoned =>
        Bool.not_eq_false _ ▸ fun hnot => hunencodable ⟨value, rfl, hnot, hpoisoned⟩⟩
      exact ⟨_, bind_eq_ok.mpr ⟨privileged, hprivileged, bind_eq_ok.mpr ⟨text, hfound, rfl⟩⟩⟩
  | _ => simp [inspectArgument]

theorem mapM_inspectArgument {items : List (String × Value)} {findings : List (List ArmorFinding)}
    (h : items.mapM (inspectArgument t armor granted
      (forbiddenActions.map (PyString.lower t.unicode)).dedup) = .ok findings) :
    findings.flatten ≠ [] ↔ ∃ p x, (p, x) ∈ items ∧
      FoundAt t armor granted forbiddenActions p x := by
  have hall := mapM_eq_ok.mp h
  clear h
  induction hall with
  | nil => simp
  | @cons a found items rest hhead _ ih =>
    have ih : rest.flatten ≠ [] ↔ ∃ p x, (p, x) ∈ items ∧
        FoundAt t armor granted forbiddenActions p x := ih
    rw [List.flatten_cons, append_ne_nil_iff, ih, inspectArgument_found hhead]
    constructor
    · rintro (hfound | ⟨p, x, hmem, hfound⟩)
      · exact ⟨_, _, List.mem_cons_self, hfound⟩
      · exact ⟨p, x, List.mem_cons_of_mem _ hmem, hfound⟩
    · rintro ⟨p, x, hmem, hfound⟩
      rcases List.mem_cons.mp hmem with heq | hmem
      · cases heq
        exact Or.inl hfound
      · exact Or.inr ⟨p, x, hmem, hfound⟩

theorem exists_mapM_iff {β ε : Type} {f : α → Except ε β} {items : List α} :
    (∃ bs, items.mapM f = .ok bs) ↔ ∀ a ∈ items, ∃ b, f a = .ok b := by
  simp only [mapM_eq_ok]
  induction items with
  | nil => exact iff_of_true ⟨[], .nil⟩ (by simp)
  | cons a items ih =>
    rw [List.forall_mem_cons, ← ih]
    constructor
    · rintro ⟨bs, hbs⟩
      cases hbs with
      | cons hb hrest => exact ⟨⟨_, hb⟩, _, hrest⟩
    · rintro ⟨⟨b, hb⟩, bs, hbs⟩
      exact ⟨b :: bs, .cons hb hbs⟩

theorem detected_iff :
    (∃ p x, (p, x) ∈ walk "" (.obj arguments) ∧ FoundAt t armor granted forbiddenActions p x) ↔
      Detected t armor arguments granted forbiddenActions := by
  have hblocked := exists_walk_key_iff arguments (D := fun _ => True) not_endsInBracket_blocked
  have hpoisoned := exists_walk_iff (v := .obj arguments)
    (D := fun x => ∃ value, x = .str value ∧ Poisoned t armor forbiddenActions value)
  have hscope := exists_walk_key_iff arguments
    (D := fun x => ∃ value, x = .str value ∧ granted ≠ [] ∧ value ∉ granted)
    not_endsInBracket_scope
  unfold FoundAt Detected
  constructor
  · rintro ⟨p, x, hmem, hkey | ⟨value, rfl, hvalue | ⟨hkey, hgranted, hvalue⟩⟩⟩
    · obtain ⟨key, x, hholds, hleaf, hkey, -⟩ := hblocked.mp ⟨p, x, hmem, hkey, trivial⟩
      exact Or.inl ⟨key, x, hholds, hleaf, hkey⟩
    · obtain ⟨x, hcontains, value, rfl, hvalue⟩ := hpoisoned.mp ⟨p, _, hmem, value, rfl, hvalue⟩
      exact Or.inr (Or.inl ⟨value, hcontains, hvalue⟩)
    · obtain ⟨key, x, hholds, -, hkey, value, rfl, -, hvalue⟩ :=
        hscope.mp ⟨p, _, hmem, hkey, value, rfl, hgranted, hvalue⟩
      exact Or.inr (Or.inr ⟨hgranted, key, value, hholds, hkey, hvalue⟩)
  · rintro (⟨key, x, hholds, hleaf, hkey⟩ | ⟨value, hcontains, hvalue⟩ |
      ⟨hgranted, key, value, hholds, hkey, hvalue⟩)
    · obtain ⟨p, x, hmem, hkey, -⟩ := hblocked.mpr ⟨key, x, hholds, hleaf, hkey, trivial⟩
      exact ⟨p, x, hmem, Or.inl hkey⟩
    · obtain ⟨p, x, hmem, hfound⟩ := hpoisoned.mpr ⟨_, hcontains, value, rfl, hvalue⟩
      obtain ⟨value, rfl, hvalue⟩ := hfound
      exact ⟨p, _, hmem, Or.inr ⟨value, rfl, Or.inl hvalue⟩⟩
    · obtain ⟨p, x, hmem, hkey, value, rfl, hgranted, hvalue⟩ :=
        hscope.mpr ⟨key, _, hholds, trivial, hkey, value, rfl, hgranted, hvalue⟩
      exact ⟨p, _, hmem, Or.inr ⟨value, rfl, Or.inr ⟨hkey, hgranted, hvalue⟩⟩⟩

theorem mapM_inspectArgument_returns :
    (∃ findings, (walk "" (.obj arguments)).mapM (inspectArgument t armor granted
        (forbiddenActions.map (PyString.lower t.unicode)).dedup) = .ok findings) ↔
      Screens t armor arguments granted forbiddenActions := by
  rw [exists_mapM_iff]
  constructor
  · intro h
    refine ⟨fun value hcontains => ?_, fun key x hmem => (inspectArgument_returns.mp (h _ hmem)).2⟩
    obtain ⟨p, hp⟩ := mem_walk_of_contains hcontains ""
    exact (inspectArgument_returns.mp (h _ hp)).1 value rfl
  · intro h a ha
    refine inspectArgument_returns.mpr ⟨fun value hvalue => h.urls value ?_, h.excerpts a.1 a.2 ha⟩
    have hcontains := (mem_walk (.obj arguments) (p := a.1) (x := a.2) ha).2.1
    rwa [hvalue] at hcontains

theorem inspectToolCall_returns {arguments : Object} {forbiddenActions : List String} :
    (∃ r, inspectToolCall t armor arguments granted forbiddenActions = .ok r) ↔
      Screens t armor arguments granted forbiddenActions := by
  rw [← mapM_inspectArgument_returns]
  unfold inspectToolCall
  constructor
  · rintro ⟨r, hr⟩
    obtain ⟨findings, hfindings, -⟩ := bind_eq_ok.mp hr
    exact ⟨findings, hfindings⟩
  · rintro ⟨findings, hfindings⟩
    exact ⟨_, bind_eq_ok.mpr ⟨findings, hfindings, rfl⟩⟩

/-- The armor blocks the arguments exactly where their screening ends and something is found. -/
theorem blocks_iff :
    Blocks t armor arguments granted forbiddenActions ↔
      Screens t armor arguments granted forbiddenActions ∧
        Detected t armor arguments granted forbiddenActions := by
  rw [← mapM_inspectArgument_returns, ← detected_iff]
  unfold Blocks inspectToolCall
  constructor
  · rintro ⟨r, hr, hblocked⟩
    obtain ⟨findings, hfindings, hr⟩ := bind_eq_ok.mp hr
    cases hr
    refine ⟨⟨findings, hfindings⟩, (mapM_inspectArgument hfindings).mp fun hnone => ?_⟩
    rw [ArmorResult.blocked, hnone] at hblocked
    cases hblocked
  · rintro ⟨⟨findings, hfindings⟩, hfound⟩
    refine ⟨_, bind_eq_ok.mpr ⟨findings, hfindings, rfl⟩, ?_⟩
    rw [ArmorResult.blocked, if_neg ((mapM_inspectArgument hfindings).mpr hfound)]
    rfl

end Blocks

def asciiTables : ArmorTables where
  unicode := {
    lowercase := fun c => if PyString.isSpace c then [c] else [Url.lower c]
    cased := fun c => !PyString.isSpace c && latin c
    caseIgnorable := fun c => !PyString.isSpace c && among "'.:^_-" c
    lowercase_space := fun _ h => if_pos h
    cased_space := fun c h => by simp [h]
    caseIgnorable_space := fun c h => by simp [h] }
  alnum := latinOrArabic
  decimal := arabic
  digitValue c := c.toNat - 48
  encodes _ := true
  excerptDigest value := value
  accepts netloc := !netloc.contains '[' && !netloc.contains ']'
  conversions := Conversions.plain

def approvedArguments : Object := [("approved_by", .arr [.str "x"])]

theorem approvedArguments_allowed :
    (inspectToolCall asciiTables {} approvedArguments [] []).toOption.map ArmorResult.verdict =
      some .allow := by
  decide +kernel

end Governance
