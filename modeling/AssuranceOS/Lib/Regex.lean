/-
Regular expressions of Python's `re`, as far as a scan of a text needs them.

A pattern matches at a position in the order of its alternatives, a repetition takes as much as it
can first, and the first match counts.  `search`, `findall` and `sub` go through the text from the
left; the patterns have no groups of their own and match no empty text.
-/
import Mathlib.Data.List.Basic
import Mathlib.Tactic.Common

/-- A pattern; characters and words are predicates. -/
inductive Regex where
  | empty
  | char (p : Char → Bool)
  | seq (first second : Regex)
  | alt (first second : Regex)
  /-- between `least` and `most` times; without `most` as often as there are characters -/
  | times (r : Regex) (least : Nat) (most : Option Nat)
  /-- `\b` -/
  | boundary (word : Char → Bool)
  /-- `^` -/
  | start
  /-- `(?!r)` -/
  | notAhead (r : Regex)
  /-- `(?<!p)` -/
  | notBehind (p : Char → Bool)

namespace Regex

def sequence (rs : List Regex) : Regex := rs.foldr seq empty

def oneOf (rs : List Regex) : Regex := rs.foldr alt (char fun _ => false)

def literal (s : String) : Regex := sequence (s.toList.map fun c => char fun d => d = c)

/-- `r?` -/
def opt (r : Regex) : Regex := times r 0 (some 1)

/-- `r*` -/
def star (r : Regex) : Regex := times r 0 none

/-- `r+` -/
def plus (r : Regex) : Regex := times r 1 none

/-- `r{n}` -/
def exactly (n : Nat) (r : Regex) : Regex := times r n (some n)

/-- A lower-case ASCII letter or another character that has no case, with `re.I`. -/
def sameCase (c d : Char) : Bool :=
  d = c || (('a' ≤ c && c ≤ 'z') && (d.toNat + 32 = c.toNat ||
    (c = 'i' && (d.toNat = 0x130 || d.toNat = 0x131)) || (c = 's' && d.toNat = 0x17f) ||
    (c = 'k' && d.toNat = 0x212a)))

/-- A literal with `re.I`. -/
def word (s : String) : Regex := sequence (s.toList.map fun c => char (sameCase c))

/-- The character before a position, and what follows it. -/
abbrev Position := Option Char × List Char

/-- Between none and `n` rounds, the most first; a round that takes nothing ends the repetition. -/
def upTo (step : Position → List Position) : Nat → Position → List Position
  | 0, s => [s]
  | n + 1, s =>
    ((step s).filter fun t => t.2.length < s.2.length).flatMap (upTo step n) ++ [s]

def rounds (step : Position → List Position) : Nat → Position → List Position
  | 0, s => [s]
  | n + 1, s => (step s).flatMap (rounds step n)

/-- Where a match from the position can end, in the order in which they are tried. -/
def ends : Regex → Position → List Position
  | empty, s => [s]
  | char p, s =>
    match s.2 with
    | c :: cs => if p c then [(some c, cs)] else []
    | [] => []
  | seq first second, s => (ends first s).flatMap (ends second)
  | alt first second, s => ends first s ++ ends second s
  | times r least most, s => (rounds (ends r) least s).flatMap fun t =>
    upTo (ends r) ((most.map (· - least)).getD t.2.length) t
  | boundary word, s => if s.1.any word = s.2.head?.any word then [] else [s]
  | start, s => if s.1 = none then [s] else []
  | notAhead r, s => if (ends r s).isEmpty then [s] else []
  | notBehind p, s => if s.1.any p then [] else [s]

/-- The text as its characters and matches; a match takes at least one character, so that the
length is enough fuel. -/
def pieces (r : Regex) : Nat → Position → List (Char ⊕ List Char)
  | 0, _ => []
  | n + 1, (last, text) =>
    match text with
    | [] => []
    | c :: cs =>
      match (ends r (last, c :: cs)).head? with
      | some (last', rest) =>
        if rest.length ≤ cs.length then
          .inr ((c :: cs).take (cs.length + 1 - rest.length)) :: pieces r n (last', rest)
        else .inl c :: pieces r n (some c, cs)
      | none => .inl c :: pieces r n (some c, cs)

def scan (r : Regex) (text : String) : List (Char ⊕ List Char) :=
  pieces r text.toList.length (none, text.toList)

/-- `r.findall(text)`. -/
def findall (r : Regex) (text : String) : List String :=
  ((scan r text).filterMap Sum.getRight?).map String.ofList

/-- `r.search(text)`, as a truth value. -/
def search (r : Regex) (text : String) : Bool :=
  (findall r text).isEmpty = false

/-- `r.subn(repl, text)`; `repl` has no references to groups. -/
def sub (r : Regex) (repl text : String) : String × Nat :=
  (String.ofList ((scan r text).flatMap fun piece =>
      match piece with
      | .inl c => [c]
      | .inr _ => repl.toList),
    (findall r text).length)

end Regex
