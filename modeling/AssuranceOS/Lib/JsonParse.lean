/-
JSON values, their text, and reading it.

`Value.text` is what `json.dumps` writes with the separators `,` and `:` and without ASCII escaping;
`Value.sorted` puts the keys of every object in order.  Integers are exact, a float is given by its
literal, and an object is the list of its entries in insertion order; a `dict` has no key twice
(`Value.Distinct`).

`parse` is the grammar of `json.loads` for texts, and `loads` makes dictionaries of the objects, where
the last value of a key counts.  A lone surrogate, which a Lean string cannot hold, is refused.

* `parse_text` — reading what was written gives the value back;
* `text_injective` — so different values have different texts;
* `loads_text` — the round trip for values without repeated keys.
-/
import Mathlib.Data.List.Sort
import Mathlib.Data.String.Basic
import Mathlib.Data.List.TakeWhile
import Mathlib.Tactic.Common

namespace JsonText

/-! ### Number literals -/

/-- The characters of a number. -/
def isNumeric (c : Char) : Bool :=
  c.isDigit || c = '-' || c = '+' || c = '.' || c = 'e' || c = 'E'

/-- An exponent, or nothing. -/
def isExponent : List Char → Bool
  | [] => true
  | c :: cs =>
    (c = 'e' || c = 'E') &&
      let digits := match cs with
        | '+' :: ds => ds
        | '-' :: ds => ds
        | ds => ds
      digits ≠ [] && digits.all Char.isDigit

/-- A fraction, an exponent, or both. -/
def isFraction : List Char → Bool
  | '.' :: cs => cs.takeWhile Char.isDigit ≠ [] && isExponent (cs.dropWhile Char.isDigit)
  | cs => cs ≠ [] && isExponent cs

/-- Digits without a leading zero. -/
def isDigits (cs : List Char) : Bool :=
  cs = ['0'] || (cs ≠ [] && cs.all Char.isDigit && cs.head? ≠ some '0')

/-- The text without its sign. -/
def unsigned : List Char → List Char
  | '-' :: cs => cs
  | cs => cs

def isInteger (cs : List Char) : Bool :=
  isDigits (unsigned cs)

/-- A number that is not an integer literal. -/
def isReal (cs : List Char) : Bool :=
  isDigits ((unsigned cs).takeWhile Char.isDigit) &&
    isFraction ((unsigned cs).dropWhile Char.isDigit) && cs.all isNumeric

/-- The literals that are words. -/
def nan : List Char := ['N', 'a', 'N']

def infinity : List Char := ['I', 'n', 'f', 'i', 'n', 'i', 't', 'y']

/-- The literal of a float. -/
structure FloatLiteral where
  text : List Char
  valid : isReal text ∨ text = nan ∨ text = infinity ∨ text = '-' :: infinity

inductive Value where
  | null
  | bool (b : Bool)
  | int (n : ℤ)
  | float (literal : FloatLiteral)
  | str (s : String)
  | arr (items : List Value)
  | obj (entries : List (String × Value))

/-- `dict[str, Any]`. -/
abbrev Object := List (String × Value)

/-- One character of a string literal. -/
def escapeChar (c : Char) : List Char :=
  if c = '"' then ['\\', '"']
  else if c = '\\' then ['\\', '\\']
  else if c = '\n' then ['\\', 'n']
  else if c = '\r' then ['\\', 'r']
  else if c = '\t' then ['\\', 't']
  else if c.toNat = 0x0c then ['\\', 'f']
  else if c.toNat = 0x08 then ['\\', 'b']
  else if c.toNat < 0x20 then
    ['\\', 'u', '0', '0', Nat.digitChar (c.toNat / 16), Nat.digitChar (c.toNat % 16)]
  else [c]

/-- A string literal. -/
def quoted (s : String) : List Char :=
  '"' :: s.toList.flatMap escapeChar ++ ['"']

/-- An integer literal. -/
def intText (n : ℤ) : List Char :=
  (if n < 0 then ['-'] else []) ++ Nat.toDigits 10 n.natAbs

mutual

def Value.text : Value → List Char
  | .null => ['n', 'u', 'l', 'l']
  | .bool true => ['t', 'r', 'u', 'e']
  | .bool false => ['f', 'a', 'l', 's', 'e']
  | .int n => intText n
  | .float literal => literal.text
  | .str s => quoted s
  | .arr [] => ['[', ']']
  | .arr (v :: vs) => '[' :: v.text ++ itemsText vs
  | .obj [] => ['\x7b', '\x7d']
  | .obj (e :: es) => '\x7b' :: entryText e ++ entriesText es

/-- The items after the first one. -/
def itemsText : List Value → List Char
  | [] => [']']
  | v :: vs => ',' :: v.text ++ itemsText vs

/-- The entries after the first one. -/
def entriesText : List (String × Value) → List Char
  | [] => ['\x7d']
  | e :: es => ',' :: entryText e ++ entriesText es

def entryText : String × Value → List Char
  | (k, v) => quoted k ++ ':' :: v.text

end

mutual

/-- The keys of every object in order (`sort_keys`). -/
def Value.sorted : Value → Value
  | .arr items => .arr (sortedItems items)
  | .obj entries => .obj ((sortedEntries entries).insertionSort fun a b => a.1 ≤ b.1)
  | v => v

def sortedItems : List Value → List Value
  | [] => []
  | v :: vs => v.sorted :: sortedItems vs

def sortedEntries : List (String × Value) → List (String × Value)
  | [] => []
  | e :: es => sortedEntry e :: sortedEntries es

def sortedEntry : String × Value → String × Value
  | (k, v) => (k, v.sorted)

end

mutual

/-- No object has a key twice. -/
def Value.Distinct : Value → Prop
  | .arr items => ItemsDistinct items
  | .obj entries => (entries.map Prod.fst).Nodup ∧ EntriesDistinct entries
  | _ => True

def ItemsDistinct : List Value → Prop
  | [] => True
  | v :: vs => v.Distinct ∧ ItemsDistinct vs

def EntriesDistinct : List (String × Value) → Prop
  | [] => True
  | e :: es => EntryDistinct e ∧ EntriesDistinct es

def EntryDistinct : String × Value → Prop
  | (_, v) => v.Distinct

end

/-- `json.dumps(value, sort_keys=True, separators=(",", ":"), ensure_ascii=False)`. -/
def dumps (v : Value) : List Char :=
  v.sorted.text

def isBlank (c : Char) : Bool :=
  c = ' ' || c = '\t' || c = '\n' || c = '\r'

def skip (cs : List Char) : List Char :=
  cs.dropWhile isBlank

/-- The value of a hexadecimal digit. -/
def hexDigit? (c : Char) : Option Nat :=
  if c.isDigit then some (c.toNat - 48)
  else if 97 ≤ c.toNat ∧ c.toNat ≤ 102 then some (c.toNat - 87)
  else if 65 ≤ c.toNat ∧ c.toNat ≤ 70 then some (c.toNat - 55)
  else none

/-- Four hexadecimal digits. -/
def hex4? : List Char → Option (Nat × List Char)
  | a :: b :: c :: d :: cs => do
    let a ← hexDigit? a
    let b ← hexDigit? b
    let c ← hexDigit? c
    let d ← hexDigit? d
    return (((a * 16 + b) * 16 + c) * 16 + d, cs)
  | _ => none

/-- The escapes of one letter. -/
def unescape? (c : Char) : Option Char :=
  if c = '"' then some '"'
  else if c = '\\' then some '\\'
  else if c = '/' then some '/'
  else if c = 'n' then some '\n'
  else if c = 'r' then some '\r'
  else if c = 't' then some '\t'
  else if c = 'f' then some (Char.ofNat 0x0c)
  else if c = 'b' then some (Char.ofNat 0x08)
  else none

/-- An escape after its `u`; two of them make a character outside the first plane. -/
def unicode? (cs : List Char) : Option (Char × List Char) := do
  let (high, cs) ← hex4? cs
  if 0xd800 ≤ high ∧ high ≤ 0xdfff then
    guard (high ≤ 0xdbff ∧ cs.take 2 = ['\\', 'u'])
    let (low, cs) ← hex4? (cs.drop 2)
    guard (0xdc00 ≤ low ∧ low ≤ 0xdfff)
    return (Char.ofNat (0x10000 + (high - 0xd800) * 0x400 + (low - 0xdc00)), cs)
  else return (Char.ofNat high, cs)

/-- An escape after its backslash. -/
def escape? : List Char → Option (Char × List Char)
  | [] => none
  | c :: cs => if c = 'u' then unicode? cs else (unescape? c).map fun c => (c, cs)

/-- A string after its opening quote, with the rest of the text; every character takes a
unit of the fuel. -/
def stringBody : Nat → List Char → Option (List Char × List Char)
  | 0, _ => none
  | _ + 1, [] => none
  | fuel + 1, c :: cs =>
    if c = '"' then some ([], cs)
    else if c = '\\' then
      match escape? cs with
      | none => none
      | some (c, cs) => (stringBody fuel cs).map fun r => (c :: r.1, r.2)
    else if c.toNat < 0x20 then none
    else (stringBody fuel cs).map fun r => (c :: r.1, r.2)

/-- A string literal. -/
def string? : List Char → Option (String × List Char)
  | [] => none
  | c :: cs =>
    if c = '"' then (stringBody cs.length cs).map fun r => (String.ofList r.1, r.2) else none

/-- The integer of its literal. -/
def intOf (cs : List Char) : ℤ :=
  match cs with
  | '-' :: ds => -(Nat.ofDigitChars 10 ds 0)
  | ds => Nat.ofDigitChars 10 ds 0

/-- A value from the literal of a number. -/
def number? (cs : List Char) : Option Value :=
  if h : isReal cs then some (.float ⟨cs, Or.inl h⟩)
  else if isInteger cs then some (.int (intOf cs))
  else none

/-- The words, each with its value. -/
def words : List (List Char × Value) :=
  [(['n', 'u', 'l', 'l'], .null), (['t', 'r', 'u', 'e'], .bool true),
    (['f', 'a', 'l', 's', 'e'], .bool false), (nan, .float ⟨nan, by simp⟩),
    (infinity, .float ⟨infinity, by simp⟩), ('-' :: infinity, .float ⟨'-' :: infinity, by simp⟩)]

/-- A word or a number. -/
def literal? (cs : List Char) : Option (Value × List Char) :=
  match words.find? fun w => w.1.isPrefixOf cs with
  | some w => some (w.2, cs.drop w.1.length)
  | none => (number? (cs.takeWhile isNumeric)).map fun v => (v, cs.dropWhile isNumeric)

mutual

/-- A value at the head of the text; every bracket, item and entry takes a unit of the
fuel. -/
def value : Nat → List Char → Option (Value × List Char)
  | 0, _ => none
  | _ + 1, [] => none
  | fuel + 1, c :: cs =>
    if c = '"' then (string? (c :: cs)).map fun r => (.str r.1, r.2)
    else if c = '[' then
      if (skip cs).head? = some ']' then some (.arr [], (skip cs).tail)
      else (items fuel (skip cs)).map fun r => (.arr r.1, r.2)
    else if c = '\x7b' then
      if (skip cs).head? = some '\x7d' then some (.obj [], (skip cs).tail)
      else (entries fuel (skip cs)).map fun r => (.obj r.1, r.2)
    else literal? (c :: cs)

/-- The items of an array, up to its closing bracket. -/
def items : Nat → List Char → Option (List Value × List Char)
  | 0, _ => none
  | fuel + 1, cs => do
    let (v, cs) ← value fuel cs
    if (skip cs).head? = some ',' then
      let (vs, cs) ← items fuel (skip (skip cs).tail)
      return (v :: vs, cs)
    else
      guard ((skip cs).head? = some ']')
      return ([v], (skip cs).tail)

/-- The entries of an object, up to its closing bracket. -/
def entries : Nat → List Char → Option (List (String × Value) × List Char)
  | 0, _ => none
  | fuel + 1, cs => do
    let (k, cs) ← string? cs
    guard ((skip cs).head? = some ':')
    let (v, cs) ← value fuel (skip (skip cs).tail)
    if (skip cs).head? = some ',' then
      let (es, cs) ← entries fuel (skip (skip cs).tail)
      return ((k, v) :: es, cs)
    else
      guard ((skip cs).head? = some '\x7d')
      return ([(k, v)], (skip cs).tail)

end

/-- A whole text. -/
def parse (cs : List Char) : Option Value :=
  match value cs.length (skip cs) with
  | some (v, rest) => if skip rest = [] then some v else none
  | none => none

/-- `entries[key] = value`. -/
def assign (entries : Object) (key : String) (value : Value) : Object :=
  if key ∈ entries.map Prod.fst then
    entries.map fun e => if e.1 = key then (key, value) else e
  else entries ++ [(key, value)]

mutual

/-- A repeated key keeps its first place and its last value. -/
def Value.dict : Value → Value
  | .arr items => .arr (dictItems items)
  | .obj entries => .obj ((dictEntries entries).foldl (fun es e => assign es e.1 e.2) [])
  | v => v

def dictItems : List Value → List Value
  | [] => []
  | v :: vs => v.dict :: dictItems vs

def dictEntries : List (String × Value) → List (String × Value)
  | [] => []
  | e :: es => dictEntry e :: dictEntries es

def dictEntry : String × Value → String × Value
  | (k, v) => (k, v.dict)

end

/-- `json.loads`. -/
def loads (cs : List Char) : Option Value :=
  (parse cs).map Value.dict

theorem hexDigit?_digitChar : ∀ d < 16, hexDigit? (Nat.digitChar d) = some d := by
  decide

variable {c : Char} {cs rest : List Char} {v : Value} {es : Object}

/-- The escape of a control character. -/
theorem unicode?_control (hc : c.toNat < 0x20) (rest : List Char) :
    unicode? ('0' :: '0' :: Nat.digitChar (c.toNat / 16) :: Nat.digitChar (c.toNat % 16) :: rest) =
      some (c, rest) := by
  have hhigh := hexDigit?_digitChar (c.toNat / 16) (by omega)
  have hlow := hexDigit?_digitChar (c.toNat % 16) (by omega)
  have hzero : hexDigit? '0' = some 0 := rfl
  have hvalue : c.toNat / 16 * 16 + c.toNat % 16 = c.toNat := by omega
  have hplane : ¬ (0xd800 ≤ c.toNat ∧ c.toNat ≤ 0xdfff) := by omega
  simp [unicode?, hex4?, hzero, hhigh, hlow, hvalue, hplane, Char.ofNat_toNat]

theorem stringBody_escapeChar (fuel : Nat) (c : Char) (rest : List Char) :
    stringBody (fuel + 1) (escapeChar c ++ rest) =
      (stringBody fuel rest).map fun r => (c :: r.1, r.2) := by
  unfold escapeChar
  split
  · subst_vars; rfl
  split
  · subst_vars; rfl
  split
  · subst_vars; rfl
  split
  · subst_vars; rfl
  split
  · subst_vars; rfl
  split
  · rename_i h
    have hc : c = Char.ofNat 0x0c := by rw [← h, Char.ofNat_toNat]
    subst hc; rfl
  split
  · rename_i h
    have hc : c = Char.ofNat 0x08 := by rw [← h, Char.ofNat_toNat]
    subst hc; rfl
  split
  · rename_i hlt
    have hread := unicode?_control hlt rest
    simp [stringBody, escape?, hread]
  · rename_i hquote hback _ _ _ _ _ hlt
    simp [stringBody, hquote, hback, hlt]

theorem stringBody_flatMap (cs rest : List Char) : ∀ fuel, cs.length < fuel →
    stringBody fuel (cs.flatMap escapeChar ++ '"' :: rest) = some (cs, rest) := by
  induction cs with
  | nil =>
    intro fuel hfuel
    obtain ⟨n, rfl⟩ : ∃ n, fuel = n + 1 := ⟨fuel - 1, by simp at hfuel; omega⟩
    rfl
  | cons c cs ih =>
    intro fuel hfuel
    simp only [List.length_cons] at hfuel
    obtain ⟨n, rfl⟩ : ∃ n, fuel = n + 1 := ⟨fuel - 1, by omega⟩
    rw [List.flatMap_cons, List.append_assoc, stringBody_escapeChar, ih n (by omega)]
    rfl

theorem escapeChar_length_pos (c : Char) : 0 < (escapeChar c).length := by
  unfold escapeChar
  split_ifs <;> simp

theorem length_le_flatMap (cs : List Char) : cs.length ≤ (cs.flatMap escapeChar).length := by
  induction cs with
  | nil => simp
  | cons c cs ih =>
    have hc := escapeChar_length_pos c
    simp only [List.flatMap_cons, List.length_cons, List.length_append]
    omega

theorem string?_quoted (s : String) (rest : List Char) :
    string? (quoted s ++ rest) = some (s, rest) := by
  have hbody : stringBody (s.toList.flatMap escapeChar ++ '"' :: rest).length
      (s.toList.flatMap escapeChar ++ '"' :: rest) = some (s.toList, rest) := by
    refine stringBody_flatMap _ _ _ ?_
    have hle := length_le_flatMap s.toList
    simp only [List.length_append, List.length_cons]
    omega
  show string? ('"' :: (s.toList.flatMap escapeChar ++ ['"']) ++ rest) = _
  rw [List.cons_append, List.append_assoc]
  simp only [string?, ↓reduceIte]
  show (stringBody (s.toList.flatMap escapeChar ++ '"' :: rest).length
    (s.toList.flatMap escapeChar ++ '"' :: rest)).map _ = _
  rw [hbody]
  simp

/-! ### Numbers are read back -/

/-- What may follow a number. -/
def EndsNumber (rest : List Char) : Prop :=
  ∀ c ∈ rest.head?, ¬ isNumeric c

theorem takeWhile_numeric (hcs : ∀ c ∈ cs, isNumeric c) (hrest : EndsNumber rest) :
    (cs ++ rest).takeWhile isNumeric = cs := by
  rw [List.takeWhile_append_of_pos hcs]
  cases rest with
  | nil => simp
  | cons c rest => simp [hrest c rfl]

theorem dropWhile_numeric (hcs : ∀ c ∈ cs, isNumeric c) (hrest : EndsNumber rest) :
    (cs ++ rest).dropWhile isNumeric = rest := by
  rw [List.dropWhile_append_of_pos hcs]
  cases rest with
  | nil => simp
  | cons c rest => simp [hrest c rfl]

theorem digit_of_mem_toDigits {n : Nat} (h : c ∈ Nat.toDigits 10 n) : c.isDigit :=
  Nat.isDigit_of_mem_toDigits (by decide) (by decide) h

theorem head?_toDigits {n : Nat} (hn : n ≠ 0) : (Nat.toDigits 10 n).head? ≠ some '0' := by
  induction n using Nat.strong_induction_on with
  | _ n ih =>
    by_cases hlt : n < 10
    · have hdigit : ∀ d < 10, d ≠ 0 → Nat.digitChar d ≠ '0' := by decide
      rw [Nat.toDigits_of_lt_base hlt]
      simpa using hdigit n hlt hn
    · rw [Nat.toDigits_of_base_le (by decide) (by omega),
        List.head?_append_of_ne_nil _ Nat.toDigits_ne_nil]
      exact ih (n / 10) (by omega) (by omega)

theorem isDigits_toDigits (n : Nat) : isDigits (Nat.toDigits 10 n) := by
  by_cases hn : n = 0
  · subst hn
    rfl
  · have hall : ∀ c ∈ Nat.toDigits 10 n, c.isDigit := fun c => digit_of_mem_toDigits
    simp [isDigits, head?_toDigits hn, List.all_eq_true.mpr hall]

theorem unsigned_intText (n : ℤ) : unsigned (intText n) = Nat.toDigits 10 n.natAbs := by
  unfold intText
  split
  · rfl
  · rw [List.nil_append]
    unfold unsigned
    split
    · rename_i cs heq
      have hdigit := digit_of_mem_toDigits (c := '-') (n := n.natAbs) (by simp [heq])
      exact absurd hdigit (by decide)
    · rfl

theorem isNumeric_of_isDigit (h : c.isDigit) : isNumeric c := by
  simp [isNumeric, h]

theorem numeric_intText (n : ℤ) : ∀ c ∈ intText n, isNumeric c := by
  intro c hc
  rcases List.mem_append.mp hc with hsign | hdigits
  · split at hsign
    · rw [List.mem_singleton.mp hsign]
      rfl
    · exact absurd hsign List.not_mem_nil
  · exact isNumeric_of_isDigit (digit_of_mem_toDigits hdigits)

theorem intOf_intText (n : ℤ) : intOf (intText n) = n := by
  unfold intText
  split
  · rename_i hneg
    show -((Nat.ofDigitChars 10 (Nat.toDigits 10 n.natAbs) 0 : Nat) : ℤ) = n
    rw [Nat.ofDigitChars_ten_toDigits]
    omega
  · rename_i hpos
    rw [List.nil_append]
    unfold intOf
    split
    · rename_i ds heq
      have hdigit := digit_of_mem_toDigits (c := '-') (n := n.natAbs) (by simp [heq])
      exact absurd hdigit (by decide)
    · rw [Nat.ofDigitChars_ten_toDigits]
      omega

theorem number?_intText (n : ℤ) : number? (intText n) = some (.int n) := by
  have hdrop : (Nat.toDigits 10 n.natAbs).dropWhile Char.isDigit = [] := by
    rw [List.dropWhile_eq_nil_iff]
    exact fun c => digit_of_mem_toDigits
  have hreal : ¬ isReal (intText n) := by
    simp [isReal, unsigned_intText, hdrop, isFraction]
  have hinteger : isInteger (intText n) := by
    rw [isInteger, unsigned_intText]
    exact isDigits_toDigits _
  rw [number?, dif_neg hreal, if_pos hinteger, intOf_intText]

/-- A number begins with a digit, after its sign. -/
theorem head?_of_isDigits (h : isDigits (cs.takeWhile Char.isDigit)) :
    ∃ c ∈ cs.head?, c.isDigit := by
  cases cs with
  | nil => exact absurd h (by decide)
  | cons c cs =>
    refine ⟨c, rfl, ?_⟩
    by_contra hc
    rw [List.takeWhile_cons_of_neg hc] at h
    exact absurd h (by decide)

/-- No word begins like a number. -/
theorem words_find?_eq_none (h : ∃ c ∈ (unsigned cs).head?, c.isDigit) (rest : List Char) :
    (words.find? fun w => w.1.isPrefixOf (cs ++ rest)) = none := by
  obtain ⟨c, hc, hdigit⟩ := h
  have hne : ∀ d : Char, ¬ d.isDigit → d ≠ c := by
    rintro d hd rfl
    exact hd hdigit
  have hn := hne 'n' (by decide)
  have ht := hne 't' (by decide)
  have hf := hne 'f' (by decide)
  have hN := hne 'N' (by decide)
  have hI := hne 'I' (by decide)
  unfold unsigned at hc
  split at hc
  · rename_i ds
    cases ds with
    | nil => exact absurd hc (by simp)
    | cons d ds =>
      obtain rfl : d = c := by simpa using hc
      simp [words, nan, infinity, hI]
  · cases cs with
    | nil => exact absurd hc (by simp)
    | cons d ds =>
      obtain rfl : d = c := by simpa using hc
      have hminus := hne '-' (by decide)
      simp [words, nan, infinity, hn, ht, hf, hN, hI, hminus]

theorem literal?_number (hnumeric : ∀ c ∈ cs, isNumeric c)
    (hhead : ∃ c ∈ (unsigned cs).head?, c.isDigit) (hv : number? cs = some v)
    (hrest : EndsNumber rest) : literal? (cs ++ rest) = some (v, rest) := by
  rw [literal?, words_find?_eq_none hhead, takeWhile_numeric hnumeric hrest,
    dropWhile_numeric hnumeric hrest, hv]
  rfl

theorem head?_intText (n : ℤ) : ∃ c ∈ (unsigned (intText n)).head?, c.isDigit := by
  rw [unsigned_intText]
  cases hd : Nat.toDigits 10 n.natAbs with
  | nil => exact absurd hd Nat.toDigits_ne_nil
  | cons c cs => exact ⟨c, rfl, digit_of_mem_toDigits (n := n.natAbs) (by simp [hd])⟩

theorem literal?_intText (n : ℤ) (hrest : EndsNumber rest) :
    literal? (intText n ++ rest) = some (.int n, rest) :=
  literal?_number (numeric_intText n) (head?_intText n) (number?_intText n) hrest

theorem literal?_float (literal : FloatLiteral) (hrest : EndsNumber rest) :
    literal? (literal.text ++ rest) = some (.float literal, rest) := by
  obtain ⟨text, hvalid⟩ := literal
  by_cases hreal : isReal text
  · have hparts := hreal
    simp only [isReal, Bool.and_eq_true] at hparts
    refine literal?_number ?_ (head?_of_isDigits hparts.1.1) ?_ hrest
    · simpa using hparts.2
    · rw [number?, dif_pos hreal]
  · obtain rfl | rfl | rfl := hvalid.resolve_left hreal
    · rfl
    · rfl
    · rfl

/-! ### Values are read back -/

theorem skip_cons (hc : ¬ isBlank c) (cs : List Char) : skip (c :: cs) = c :: cs := by
  simp [skip, hc]

/-- A character that begins a number. -/
def BeginsNumber (c : Char) : Prop :=
  c = '-' ∨ c.isDigit

theorem number_head (h : ∃ c ∈ (unsigned cs).head?, c.isDigit) :
    ∃ c ds, cs = c :: ds ∧ BeginsNumber c := by
  obtain ⟨c, hc, hdigit⟩ := h
  unfold unsigned at hc
  split at hc
  · exact ⟨_, _, rfl, Or.inl rfl⟩
  · cases cs with
    | nil => exact absurd hc (by simp)
    | cons d ds =>
      obtain rfl : d = c := by simpa using hc
      exact ⟨d, ds, rfl, Or.inr hdigit⟩

theorem BeginsNumber.ne {d : Char} (h : BeginsNumber c) (hd : ¬ BeginsNumber d) : c ≠ d := by
  rintro rfl
  exact hd h

instance (c : Char) : Decidable (BeginsNumber c) :=
  inferInstanceAs (Decidable (c = '-' ∨ c.isDigit))

/-- A float begins like a number or like a word. -/
theorem float_head (literal : FloatLiteral) :
    ∃ c ds, literal.text = c :: ds ∧ (BeginsNumber c ∨ c = 'N' ∨ c = 'I') := by
  obtain ⟨text, hvalid⟩ := literal
  by_cases hreal : isReal text
  · have hparts := hreal
    simp only [isReal, Bool.and_eq_true] at hparts
    obtain ⟨c, ds, htext, hc⟩ := number_head (head?_of_isDigits hparts.1.1)
    exact ⟨c, ds, htext, Or.inl hc⟩
  · obtain rfl | rfl | rfl := hvalid.resolve_left hreal
    · exact ⟨_, _, rfl, Or.inr (Or.inl rfl)⟩
    · exact ⟨_, _, rfl, Or.inr (Or.inr rfl)⟩
    · exact ⟨_, _, rfl, Or.inl (Or.inl rfl)⟩

/-- A value does not begin with a blank or a closing bracket. -/
theorem text_head (v : Value) : ∃ c cs, v.text = c :: cs ∧ ¬ isBlank c ∧ c ≠ ']' := by
  have hnumber : ∀ {c : Char}, BeginsNumber c → ¬ isBlank c ∧ c ≠ ']' := by
    intro c hc
    refine ⟨?_, hc.ne (by decide)⟩
    simp [isBlank, hc.ne (d := ' ') (by decide), hc.ne (d := '\t') (by decide),
      hc.ne (d := '\n') (by decide), hc.ne (d := '\r') (by decide)]
  cases v with
  | null => exact ⟨_, _, rfl, by decide, by decide⟩
  | bool b => cases b <;> exact ⟨_, _, rfl, by decide, by decide⟩
  | int n =>
    obtain ⟨c, ds, htext, hc⟩ := number_head (head?_intText n)
    exact ⟨c, ds, htext, hnumber hc⟩
  | float literal =>
    obtain ⟨c, ds, htext, hc | rfl | rfl⟩ := float_head literal
    · exact ⟨c, ds, htext, hnumber hc⟩
    · exact ⟨_, ds, htext, by decide, by decide⟩
    · exact ⟨_, ds, htext, by decide, by decide⟩
  | str s => exact ⟨_, _, rfl, by decide, by decide⟩
  | arr items =>
    cases items <;> rw [Value.text] <;> exact ⟨_, _, rfl, by decide, by decide⟩
  | obj entries =>
    cases entries <;> rw [Value.text] <;> exact ⟨_, _, rfl, by decide, by decide⟩

theorem skip_text (v : Value) (rest : List Char) : skip (v.text ++ rest) = v.text ++ rest := by
  obtain ⟨c, cs, htext, hblank, -⟩ := text_head v
  rw [htext, List.cons_append, skip_cons hblank]

theorem text_length_pos (v : Value) : 0 < v.text.length := by
  obtain ⟨c, cs, htext, -⟩ := text_head v
  simp [htext]

theorem endsNumber_cons (hc : ¬ isNumeric c) (cs : List Char) :
    EndsNumber (c :: cs) := by
  simpa [EndsNumber] using hc

/-! One step of the grammar. -/

section Grammar

variable {n : Nat} {cs ds rest : List Char} {v : Value} {k : String}

theorem items_last (hv : value n cs = some (v, ']' :: rest)) :
    items (n + 1) cs = some ([v], rest) := by
  have hclose : skip (']' :: rest) = ']' :: rest := skip_cons (by decide) _
  simp [items, hv, hclose]

theorem items_more {vs : List Value} (hv : value n cs = some (v, ',' :: ds)) (hds : skip ds = ds)
    (hvs : items n ds = some (vs, rest)) : items (n + 1) cs = some (v :: vs, rest) := by
  have hcomma : skip (',' :: ds) = ',' :: ds := skip_cons (by decide) _
  simp [items, hv, hcomma, hds, hvs]

theorem entries_last (hk : string? cs = some (k, ':' :: ds)) (hds : skip ds = ds)
    (hv : value n ds = some (v, '\x7d' :: rest)) : entries (n + 1) cs = some ([(k, v)], rest) := by
  have hcolon : skip (':' :: ds) = ':' :: ds := skip_cons (by decide) _
  have hclose : skip ('\x7d' :: rest) = '\x7d' :: rest := skip_cons (by decide) _
  simp [entries, hk, hcolon, hds, hv, hclose]

theorem entries_more {es : List (String × Value)} {ts : List Char}
    (hk : string? cs = some (k, ':' :: ds)) (hds : skip ds = ds)
    (hv : value n ds = some (v, ',' :: ts)) (hts : skip ts = ts)
    (hes : entries n ts = some (es, rest)) : entries (n + 1) cs = some ((k, v) :: es, rest) := by
  have hcolon : skip (':' :: ds) = ':' :: ds := skip_cons (by decide) _
  have hcomma : skip (',' :: ts) = ',' :: ts := skip_cons (by decide) _
  simp [entries, hk, hcolon, hds, hv, hcomma, hts, hes]

theorem value_arr {vs : List Value} (hcs : skip cs = cs) (hopen : cs.head? ≠ some ']')
    (hvs : items n cs = some (vs, rest)) : value (n + 1) ('[' :: cs) = some (.arr vs, rest) := by
  simp [value, hcs, hopen, hvs]

theorem value_obj {es : List (String × Value)} (hcs : skip cs = cs)
    (hopen : cs.head? ≠ some '\x7d') (hes : entries n cs = some (es, rest)) :
    value (n + 1) ('\x7b' :: cs) = some (.obj es, rest) := by
  simp [value, hcs, hopen, hes]

/-- A number or a word is read as a literal. -/
theorem value_literal (hcs : literal? (cs ++ rest) = some (v, rest))
    (hhead : ∃ c ds, cs = c :: ds ∧ (BeginsNumber c ∨ c = 'N' ∨ c = 'I')) :
    value (n + 1) (cs ++ rest) = some (v, rest) := by
  obtain ⟨c, ds, rfl, hc⟩ := hhead
  have hne : ∀ d, ¬ (BeginsNumber d ∨ d = 'N' ∨ d = 'I') → c ≠ d := by
    rintro d hd rfl
    exact hd hc
  have hquote := hne '"' (by decide)
  have harr := hne '[' (by decide)
  have hobj := hne '\x7b' (by decide)
  rw [List.cons_append] at hcs ⊢
  simp only [value, hquote, harr, hobj, ↓reduceIte]
  exact hcs

end Grammar

theorem skip_quoted (s : String) (rest : List Char) : skip (quoted s ++ rest) = quoted s ++ rest :=
  skip_cons (by decide) _

theorem skip_entry (e : String × Value) (rest : List Char) :
    skip (entryText e ++ rest) = entryText e ++ rest := by
  rw [entryText, List.append_assoc, skip_quoted]

mutual

theorem value_text (v : Value) {rest : List Char} (hrest : EndsNumber rest) :
    ∀ fuel, v.text.length ≤ fuel → value fuel (v.text ++ rest) = some (v, rest) := by
  intro fuel hfuel
  have hpos := text_length_pos v
  obtain ⟨n, rfl⟩ : ∃ n, fuel = n + 1 := ⟨fuel - 1, by omega⟩
  match v with
  | .null => rfl
  | .bool true => rfl
  | .bool false => rfl
  | .int k =>
    obtain ⟨c, ds, htext, hc⟩ := number_head (head?_intText k)
    exact value_literal (literal?_intText k hrest) ⟨c, ds, htext, Or.inl hc⟩
  | .float literal =>
    exact value_literal (literal?_float literal hrest) (float_head literal)
  | .str s =>
    have hread := string?_quoted s rest
    show (string? (quoted s ++ rest)).map _ = _
    rw [hread]
    rfl
  | .arr [] => rfl
  | .arr (v :: vs) =>
    rw [Value.text] at hfuel ⊢
    simp only [List.length_append, List.length_cons] at hfuel
    have hread := @items_text v vs rest n (by omega)
    obtain ⟨c, cs, htext, hblank, hclose⟩ := text_head v
    rw [List.cons_append, List.cons_append, List.append_assoc]
    refine value_arr (skip_text v _) ?_ hread
    rw [htext]
    simpa using hclose
  | .obj [] => rfl
  | .obj (e :: es) =>
    rw [Value.text] at hfuel ⊢
    simp only [List.length_append, List.length_cons] at hfuel
    have hread := @entries_text e es rest n (by omega)
    rw [List.cons_append, List.cons_append, List.append_assoc]
    refine value_obj (skip_entry e _) ?_ hread
    rw [entryText, quoted]
    simp
termination_by fuel => fuel

theorem items_text (v : Value) (vs : List Value) {rest : List Char} :
    ∀ fuel, v.text.length + (itemsText vs).length ≤ fuel →
      items fuel (v.text ++ (itemsText vs ++ rest)) = some (v :: vs, rest) := by
  intro fuel hfuel
  have hpos := text_length_pos v
  obtain ⟨n, rfl⟩ : ∃ n, fuel = n + 1 := ⟨fuel - 1, by omega⟩
  match vs with
  | [] =>
    rw [itemsText] at hfuel ⊢
    simp only [List.length_cons, List.length_nil] at hfuel
    exact items_last (value_text v (endsNumber_cons (by decide) _) n (by omega))
  | w :: ws =>
    rw [itemsText] at hfuel ⊢
    simp only [List.length_append, List.length_cons] at hfuel
    have hrest := @items_text w ws rest n (by omega)
    rw [List.cons_append, List.cons_append, List.append_assoc]
    exact items_more (value_text v (endsNumber_cons (by decide) _) n (by omega))
      (skip_text w _) hrest
termination_by fuel => fuel

theorem entries_text (e : String × Value) (es : List (String × Value)) {rest : List Char} :
    ∀ fuel, (entryText e).length + (entriesText es).length ≤ fuel →
      entries fuel (entryText e ++ (entriesText es ++ rest)) = some (e :: es, rest) := by
  intro fuel hfuel
  obtain ⟨k, v⟩ := e
  rw [entryText] at hfuel ⊢
  simp only [List.length_append, List.length_cons] at hfuel
  obtain ⟨n, rfl⟩ : ∃ n, fuel = n + 1 := ⟨fuel - 1, by omega⟩
  rw [List.append_assoc, List.cons_append]
  match es with
  | [] =>
    rw [entriesText] at hfuel ⊢
    simp only [List.length_cons, List.length_nil] at hfuel
    exact entries_last (string?_quoted k _) (skip_text v _)
      (value_text v (endsNumber_cons (by decide) _) n (by omega))
  | e :: es =>
    rw [entriesText] at hfuel ⊢
    simp only [List.length_append, List.length_cons] at hfuel
    have hrest := @entries_text e es rest n (by omega)
    rw [List.cons_append, List.cons_append, List.append_assoc]
    exact entries_more (string?_quoted k _) (skip_text v _)
      (value_text v (endsNumber_cons (by decide) _) n (by omega)) (skip_entry e _) hrest
termination_by fuel => fuel

end

/-- **The round trip.** -/
theorem parse_text (v : Value) : parse v.text = some v := by
  have hskip := skip_text v []
  have hread := @value_text v [] (by simp [EndsNumber]) v.text.length le_rfl
  rw [List.append_nil] at hskip hread
  rw [parse, hskip, hread]
  rfl

theorem text_injective : Function.Injective Value.text := by
  intro v w h
  have hv := parse_text v
  rw [h, parse_text w] at hv
  exact (Option.some.inj hv).symm

theorem itemsDistinct_iff {vs : List Value} : ItemsDistinct vs ↔ ∀ v ∈ vs, v.Distinct := by
  induction vs with
  | nil => simp [ItemsDistinct]
  | cons v vs ih => simp [ItemsDistinct, ih]

theorem entriesDistinct_iff : EntriesDistinct es ↔ ∀ e ∈ es, e.2.Distinct := by
  induction es with
  | nil => simp [EntriesDistinct]
  | cons e es ih =>
    obtain ⟨k, v⟩ := e
    simp [EntriesDistinct, EntryDistinct, ih]

theorem assign_distinct {k : String} (hes : (Value.obj es).Distinct) (hv : v.Distinct) :
    (Value.obj (assign es k v)).Distinct := by
  obtain ⟨hkeys, hvalues⟩ := hes
  rw [entriesDistinct_iff] at hvalues
  unfold assign
  split
  · have hsame : (es.map fun e => if e.1 = k then (k, v) else e).map Prod.fst =
        es.map Prod.fst := by
      rw [List.map_map]
      refine List.map_congr_left fun e _ => ?_
      by_cases he : e.1 = k
      · simp [he]
      · simp [he]
    refine ⟨hsame ▸ hkeys, entriesDistinct_iff.mpr fun e he => ?_⟩
    obtain ⟨d, hd, rfl⟩ := List.mem_map.mp he
    by_cases hk : d.1 = k
    · rw [if_pos hk]
      exact hv
    · rw [if_neg hk]
      exact hvalues d hd
  · rename_i hfresh
    refine ⟨?_, entriesDistinct_iff.mpr fun e he => ?_⟩
    · rw [List.map_append, List.nodup_append]
      refine ⟨hkeys, List.nodup_singleton _, ?_⟩
      rintro a ha b hb rfl
      rw [List.map_singleton, List.mem_singleton] at hb
      exact hfresh (show (k, v).1 ∈ es.map Prod.fst from hb ▸ ha)
    · rcases List.mem_append.mp he with he | he
      · exact hvalues e he
      · rw [List.mem_singleton.mp he]
        exact hv

theorem foldl_assign_distinct : ∀ {start : Object},
    (Value.obj start).Distinct → EntriesDistinct es →
      (Value.obj (es.foldl (fun es e => assign es e.1 e.2) start)).Distinct := by
  induction es with
  | nil => exact fun hstart _ => hstart
  | cons e es ih =>
    intro start hstart hes
    rw [entriesDistinct_iff] at hes
    have he := hes e List.mem_cons_self
    have hrest := fun d hd => hes d (List.mem_cons_of_mem _ hd)
    exact ih (assign_distinct hstart he) (entriesDistinct_iff.mpr hrest)

theorem foldl_assign {es : Object} : ∀ {start : Object}, ((start ++ es).map Prod.fst).Nodup →
    es.foldl (fun es e => assign es e.1 e.2) start = start ++ es := by
  induction es with
  | nil => simp
  | cons e es ih =>
    intro start h
    have hfresh : e.1 ∉ start.map Prod.fst := by
      rw [List.map_append, List.nodup_append] at h
      exact fun hmem => h.2.2 _ hmem _ (by simp) rfl
    have happend : start ++ e :: es = (start ++ [e]) ++ es := by simp
    rw [List.foldl_cons, assign, if_neg hfresh, happend]
    exact ih (happend ▸ h)

mutual

/-- A value without repeated keys is what `loads` makes of it. -/
theorem dict_eq_self (v : Value) (h : v.Distinct) : v.dict = v := by
  match v with
  | .null | .bool _ | .int _ | .float _ | .str _ => rfl
  | .arr items => rw [Value.dict, dictItems_eq_self items h]
  | .obj entries =>
    rw [Value.dict, dictEntries_eq_self entries h.2]
    exact congrArg Value.obj (@foldl_assign _ [] h.1)

theorem dictItems_eq_self (vs : List Value) (h : ItemsDistinct vs) : dictItems vs = vs := by
  match vs with
  | [] => rfl
  | v :: vs => rw [dictItems, dict_eq_self v h.1, dictItems_eq_self vs h.2]

theorem dictEntries_eq_self (es : Object) (h : EntriesDistinct es) : dictEntries es = es := by
  match es with
  | [] => rfl
  | (k, v) :: es => rw [dictEntries, dictEntry, dict_eq_self v h.1, dictEntries_eq_self es h.2]

end

mutual

/-- No object that `loads` makes has a key twice. -/
theorem dict_distinct (v : Value) : v.dict.Distinct := by
  match v with
  | .null | .bool _ | .int _ | .float _ | .str _ => trivial
  | .arr items => exact dictItems_distinct items
  | .obj entries =>
    refine foldl_assign_distinct ?_ (dictEntries_distinct entries)
    exact ⟨List.nodup_nil, trivial⟩

theorem dictItems_distinct (vs : List Value) : ItemsDistinct (dictItems vs) := by
  match vs with
  | [] => trivial
  | v :: vs => exact ⟨dict_distinct v, dictItems_distinct vs⟩

theorem dictEntries_distinct (es : Object) : EntriesDistinct (dictEntries es) := by
  match es with
  | [] => trivial
  | (k, v) :: es => exact ⟨dict_distinct v, dictEntries_distinct es⟩

end

theorem loads_text (h : v.Distinct) : loads v.text = some v := by
  rw [loads, parse_text, Option.map_some, dict_eq_self v h]

theorem sortedEntries_eq (es : Object) :
    sortedEntries es = es.map fun e => (e.1, e.2.sorted) := by
  induction es with
  | nil => rfl
  | cons e es ih =>
    obtain ⟨k, v⟩ := e
    rw [sortedEntries, sortedEntry, ih, List.map_cons]

theorem sortedItems_eq (vs : List Value) : sortedItems vs = vs.map Value.sorted := by
  induction vs with
  | nil => rfl
  | cons v vs ih => rw [sortedItems, ih, List.map_cons]

end JsonText
