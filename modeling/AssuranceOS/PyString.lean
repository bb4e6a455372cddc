/-
The part of Python's `str` that the services use.

`isSpace` lists the code points for which `str.isspace` holds, which are the
ones `str.strip` removes; `isBlank s` is the recurring test `not s.strip()`,
and `truthy` is the truth value of an optional string in an `if`.

`lower` is `str.lower`: every code point is replaced by its full lower-case
mapping, and a capital sigma by the final form when it ends a word.  The
character tables are a parameter (`UnicodeData`); nothing is assumed of them
but that whitespace has no case.
-/
import Mathlib.Data.List.DropRight

namespace PyString

/-- `str.isspace` of a character. -/
def isSpace (c : Char) : Bool :=
  let n := c.toNat
  (9 ≤ n && n ≤ 13) || (28 ≤ n && n ≤ 32) || n == 0x85 || n == 0xa0 || n == 0x1680
    || (0x2000 ≤ n && n ≤ 0x200a) || n == 0x2028 || n == 0x2029 || n == 0x202f
    || n == 0x205f || n == 0x3000

/-- `not s.strip()`. -/
def isBlank (s : String) : Bool :=
  s.toList.all isSpace

/-- `bool(s)` for a `str | None`: `None` and `""` are false. -/
def truthy : Option String → Bool
  | none => false
  | some s => s ≠ ""

/-- `s.strip()`. -/
def strip (s : String) : String :=
  String.ofList ((s.toList.dropWhile isSpace).rdropWhile isSpace)

/-- `s.startswith(prefixes)` for a tuple of prefixes. -/
def startswith (s : String) (prefixes : List String) : Bool :=
  prefixes.any fun p => p.toList.isPrefixOf s.toList

/-- `s[:n]`. -/
def firstChars (n : Nat) (s : String) : String :=
  String.ofList (s.toList.take n)

theorem dropWhile_space {before core : List Char} (hbefore : ∀ c ∈ before, isSpace c)
    (hhead : ∀ c ∈ core.head?, isSpace c = false) :
    (before ++ core).dropWhile isSpace = core := by
  rw [List.dropWhile_append_of_pos hbefore]
  cases core with
  | nil => rfl
  | cons c core => rw [List.dropWhile_cons, hhead c rfl, if_neg (by simp)]

theorem strip_padded {before core after : List Char} (hbefore : ∀ c ∈ before, isSpace c)
    (hafter : ∀ c ∈ after, isSpace c) (hhead : ∀ c ∈ core.head?, isSpace c = false)
    (hlast : ∀ c ∈ core.getLast?, isSpace c = false) :
    strip (String.ofList (before ++ core ++ after)) = String.ofList core := by
  have hfront : (before ++ core ++ after).dropWhile isSpace = (core ++ after).dropWhile isSpace := by
    rw [List.append_assoc, List.dropWhile_append_of_pos hbefore]
  have hback : (core.reverse).head? = core.getLast? := List.head?_reverse
  unfold strip
  rw [String.toList_ofList, hfront]
  cases core with
  | nil =>
    have hnone : (after).dropWhile isSpace = [] := List.dropWhile_eq_nil_iff.mpr hafter
    rw [List.nil_append, hnone]
    rfl
  | cons c core =>
    rw [List.cons_append, List.dropWhile_cons, hhead c rfl, if_neg (by simp), List.rdropWhile,
      ← List.cons_append, List.reverse_append,
      dropWhile_space (fun d hd => hafter d (List.mem_reverse.mp hd)) (by rwa [hback]),
      List.reverse_reverse]
/-- The tables of the Unicode character database that `str.lower` reads. -/
structure UnicodeData where
  lowercase : Char → List Char
  cased : Char → Bool
  caseIgnorable : Char → Bool
  lowercase_space : ∀ c, isSpace c → lowercase c = [c]
  cased_space : ∀ c, isSpace c → cased c = false
  caseIgnorable_space : ∀ c, isSpace c → caseIgnorable c = false

def UnicodeData.beforeCased (u : UnicodeData) (cs : List Char) : Bool :=
  (cs.dropWhile u.caseIgnorable).head?.any u.cased

/-- Lower case of the rest of a string; `afterCased` says that the last code
point before it that is not case-ignorable is cased. -/
def lowerChars (u : UnicodeData) (afterCased : Bool) : List Char → List Char
  | [] => []
  | c :: cs =>
    (if c = 'Σ' then (if afterCased && !u.beforeCased cs then ['ς'] else ['σ'])
      else u.lowercase c) ++
    lowerChars u (if u.caseIgnorable c then afterCased else u.cased c) cs

/-- `s.lower()`. -/
def lower (u : UnicodeData) (s : String) : String :=
  String.ofList (lowerChars u false s.toList)

section Lower

variable {u : UnicodeData} {ws : List Char}

theorem beforeCased_append_space (hws : ∀ c ∈ ws, isSpace c) (cs : List Char) :
    u.beforeCased (cs ++ ws) = u.beforeCased cs := by
  unfold UnicodeData.beforeCased
  induction cs with
  | nil =>
    cases ws with
    | nil => rfl
    | cons w ws =>
      have hw := hws w List.mem_cons_self
      simp [u.caseIgnorable_space w hw, u.cased_space w hw]
  | cons c cs ih =>
    rw [List.cons_append, List.dropWhile_cons, List.dropWhile_cons]
    split
    · exact ih
    · rfl

theorem lowerChars_space (hws : ∀ c ∈ ws, isSpace c) (afterCased : Bool) :
    lowerChars u afterCased ws = ws := by
  induction ws generalizing afterCased with
  | nil => rfl
  | cons w ws ih =>
    have hw := hws w List.mem_cons_self
    have hsigma : w ≠ 'Σ' := by
      rintro rfl
      exact absurd hw (by decide)
    rw [lowerChars, if_neg hsigma, u.lowercase_space w hw,
      ih fun c hc => hws c (List.mem_cons_of_mem _ hc)]
    rfl

theorem lowerChars_append_space (hws : ∀ c ∈ ws, isSpace c) (cs : List Char)
    (afterCased : Bool) :
    lowerChars u afterCased (cs ++ ws) = lowerChars u afterCased cs ++ ws := by
  induction cs generalizing afterCased with
  | nil => exact lowerChars_space hws afterCased
  | cons c cs ih =>
    rw [List.cons_append, lowerChars, lowerChars, ih, beforeCased_append_space hws,
      List.append_assoc]

variable {s : String}

/-- A string that does not begin with whitespace begins, in lower case, with
its stripped form in lower case. -/
theorem lower_strip_isPrefix (hs : ∀ c, s.toList.head? = some c → ¬ isSpace c) :
    (lower u (strip s)).toList <+: (lower u s).toList := by
  have hdrop : s.toList.dropWhile isSpace = s.toList := by
    cases hl : s.toList with
    | nil => rfl
    | cons c cs =>
      have hc : isSpace c = false := by
        have := hs c (by rw [hl]; rfl)
        simpa using this
      rw [List.dropWhile_cons, hc]
      rfl
  have htail : s.toList.rdropWhile isSpace ++ s.toList.rtakeWhile isSpace = s.toList :=
    List.rdropWhile_append_rtakeWhile
  have hws : ∀ c ∈ s.toList.rtakeWhile isSpace, isSpace c := fun c hc =>
    List.mem_rtakeWhile_imp hc
  refine ⟨s.toList.rtakeWhile isSpace, ?_⟩
  simp only [lower, strip, hdrop, String.toList_ofList]
  rw [← lowerChars_append_space hws, htail]

/-- So, apart from leading whitespace, it makes no difference for a test of
prefixes whether a string is stripped first. -/
theorem startswith_lower_of_strip {prefixes : List String}
    (hs : ∀ c, s.toList.head? = some c → ¬ isSpace c)
    (h : startswith (lower u (strip s)) prefixes) : startswith (lower u s) prefixes := by
  obtain ⟨p, hp, hstart⟩ := List.any_eq_true.mp h
  refine List.any_eq_true.mpr ⟨p, hp, ?_⟩
  rw [List.isPrefixOf_iff_prefix] at hstart ⊢
  exact hstart.trans (lower_strip_isPrefix hs)

end Lower

def isUpperAscii (c : Char) : Bool :=
  65 ≤ c.toNat && c.toNat ≤ 90

/-- The tables for strings of ASCII characters, for concrete runs. -/
def asciiData : UnicodeData where
  lowercase c := if isUpperAscii c then [Char.ofNat (c.toNat + 32)] else [c]
  cased c := isUpperAscii c || (97 ≤ c.toNat && c.toNat ≤ 122)
  caseIgnorable c := [0x27, 0x2e, 0x3a, 0x5e, 0x60].contains c.toNat
  lowercase_space c hc := by
    have hupper : isUpperAscii c = false := by
      simp only [isSpace, isUpperAscii, Bool.or_eq_true, Bool.and_eq_true, decide_eq_true_eq,
        beq_iff_eq, Bool.and_eq_false_iff, decide_eq_false_iff_not] at hc ⊢
      omega
    rw [hupper]
    rfl
  cased_space c hc := by
    simp only [isSpace, isUpperAscii, Bool.or_eq_true, Bool.and_eq_true, decide_eq_true_eq,
      beq_iff_eq, Bool.or_eq_false_iff, Bool.and_eq_false_iff, decide_eq_false_iff_not] at hc ⊢
    omega
  caseIgnorable_space c hc := by
    simp only [isSpace, Bool.or_eq_true, Bool.and_eq_true, decide_eq_true_eq, beq_iff_eq] at hc
    have hout : c.toNat ∉ [0x27, 0x2e, 0x3a, 0x5e, 0x60] := by
      simp only [List.mem_cons, List.not_mem_nil, or_false]
      omega
    simpa using hout

end PyString
