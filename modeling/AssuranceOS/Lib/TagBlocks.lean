/-
Blocks between tags, removed in two passes.

A `TagSyntax` recognises the tags of a text.  A reader of the text keeps a stack of the tags that are
open (`outside`, `Nested`).  The passes look for single tags instead: `dropBlocks` removes each block
from an opening tag to the first closing tag of the same key, and `beforeOpening` cuts what is left at
its first opening tag.

* `lex_split` — the first closing tag of a key splits the tokens of a text;
* `outside_of_no_closing` — a block is not left before a closing tag of its key;
* `dropBlocks_inside` — what the first pass leaves of a text that begins inside a block begins with
  a part of that block;
* `strip_iff` — for nested tags the passes leave what is outside the blocks exactly when that has no
  opening tag itself, and what follows the first block with a block of its own key is blank.

The statements are about texts of distinct characters, such as characters with their positions.
-/
import Mathlib.Data.List.DropRight
import Mathlib.Data.List.Nodup

namespace TagBlocks

section Scan

variable {α β : Type}

/-- From the left, the pieces that `next?` finds, and single characters elsewhere. -/
def pieces (next? : List α → Option (β × List α)) : ℕ → List α → List (α ⊕ β)
  | 0, _ => []
  | _ + 1, [] => []
  | n + 1, c :: text =>
    match next? (c :: text) with
    | some (piece, rest) => .inr piece :: pieces next? n rest
    | none => .inl c :: pieces next? n text

def scan (next? : List α → Option (β × List α)) (text : List α) : List (α ⊕ β) :=
  pieces next? text.length text

/-- A piece takes at least one character. -/
def Takes (next? : List α → Option (β × List α)) : Prop :=
  ∀ text piece rest, next? text = some (piece, rest) → rest.length < text.length

variable {next? : List α → Option (β × List α)}
variable {text : List α}

theorem pieces_of_le (htakes : Takes next?) {n : ℕ} (h : text.length ≤ n) :
    pieces next? n text = scan next? text := by
  unfold scan
  induction n using Nat.strong_induction_on generalizing text with
  | _ n ih =>
    cases text with
    | nil => cases n <;> rfl
    | cons c text =>
      obtain ⟨n, rfl⟩ : ∃ m, n = m + 1 := ⟨n - 1, by simp at h; omega⟩
      simp only [List.length_cons, Nat.add_le_add_iff_right] at h
      rw [List.length_cons, pieces, pieces]
      cases hnext : next? (c :: text) with
      | none => simp only [ih n (Nat.lt_succ_self n) h]
      | some found =>
        obtain ⟨piece, rest⟩ := found
        have hrest : rest.length ≤ text.length := Nat.lt_succ_iff.mp (htakes _ _ _ hnext)
        rcases Nat.lt_or_ge text.length n with hlt | hge
        · simp only [ih n (Nat.lt_succ_self n) (hrest.trans h),
            ih text.length (Nat.lt_succ_of_lt hlt) hrest]
        · rw [Nat.le_antisymm h hge]

theorem scan_none {c : α} (h : next? (c :: text) = none) :
    scan next? (c :: text) = .inl c :: scan next? text := by
  unfold scan
  rw [List.length_cons, pieces, h]

theorem scan_some (htakes : Takes next?) {rest : List α} {piece : β}
    (h : next? text = some (piece, rest)) : scan next? text = .inr piece :: scan next? rest := by
  have hlt := htakes _ _ _ h
  cases text with
  | nil => simp at hlt
  | cons c text =>
    show pieces next? (text.length + 1) (c :: text) = _
    rw [pieces, h]
    simp only [pieces_of_le htakes (Nat.lt_succ_iff.mp hlt)]

end Scan

inductive Tag (κ : Type) where
  | opening (key : κ)
  | closing (key : κ)
  deriving DecidableEq

/-- A syntax of tags: each begins with a character that does not occur elsewhere in it, and ends
with one that is not blank. -/
structure TagSyntax (α κ : Type) where
  /-- The tag at the start of a text, and what follows it. -/
  tag? : List α → Option (Tag κ × List α)
  begins : α → Bool
  blank : α → Bool
  blank_of_begins : ∀ c, begins c = true → blank c = false
  tag?_eq_some : ∀ {text t rest}, tag? text = some (t, rest) → ∃ c mid last,
    text = c :: (mid ++ [last]) ++ rest ∧ begins c = true ∧
      (∀ d ∈ mid ++ [last], begins d = false) ∧ blank last = false
  tag?_append : ∀ {tag t rest}, tag? (tag ++ rest) = some (t, rest) →
    ∀ rest', tag? (tag ++ rest') = some (t, rest')

namespace TagSyntax

variable {α κ : Type} (S : TagSyntax α κ)

/-- The opening tag at the start of a text. -/
def opening? (text : List α) : Option (κ × List α) :=
  match S.tag? text with
  | some (.opening key, rest) => some (key, rest)
  | _ => none

/-- The first opening tag: the text before it, and the text after it. -/
def unterminated? : List α → Option (List α × List α)
  | [] => none
  | c :: text =>
    match S.opening? (c :: text) with
    | some (_, rest) => some ([], rest)
    | none => (unterminated? text).map fun found => (c :: found.1, found.2)

/-- The text up to its first opening tag. -/
def beforeOpening (text : List α) : List α :=
  match S.unterminated? text with
  | some found => found.1
  | none => text

/-- The text without blanks at its ends. -/
def strip (text : List α) : List α := (text.dropWhile S.blank).rdropWhile S.blank

variable {S}

/-- Where no tag begins there is none. -/
theorem tag?_of_not_begins {c : α} {text : List α} (h : S.begins c = false) :
    S.tag? (c :: text) = none := by
  rw [Option.eq_none_iff_forall_not_mem]
  rintro ⟨t, rest⟩ htag
  obtain ⟨c', mid, last, heq, hbegins, -⟩ := S.tag?_eq_some htag
  obtain ⟨rfl, -⟩ := List.cons.inj heq
  simp [h] at hbegins

theorem takes_tag? : Takes S.tag? := by
  intro text t rest htag
  obtain ⟨c, mid, last, rfl, -⟩ := S.tag?_eq_some htag
  simp
  omega

variable {text rest after before : List α} {t : Tag κ} {c : α}
variable {key : κ}

theorem opening?_eq_some :
    S.opening? text = some (key, rest) ↔ S.tag? text = some (.opening key, rest) := by
  unfold opening?
  split
  · rename_i key' rest' htag
    simp [htag]
  · rename_i hother
    refine iff_of_false nofun fun htag => ?_
    exact hother key rest htag

theorem opening?_of_tag? (h : S.tag? text = none) : S.opening? text = none := by
  unfold opening?
  rw [h]

/-- A tag stays where text is added. -/
theorem tag?_extend (h : S.tag? text = some (t, after)) (rest : List α) :
    S.tag? (text ++ rest) = some (t, after ++ rest) := by
  obtain ⟨c, mid, last, rfl, -⟩ := S.tag?_eq_some h
  rw [List.append_assoc]
  exact S.tag?_append h (after ++ rest)

theorem opening?_of_append {text rest : List α} (h : S.opening? (text ++ rest) = none) :
    S.opening? text = none := by
  rw [Option.eq_none_iff_forall_not_mem]
  rintro ⟨key, after⟩ hopening
  have hextend := opening?_eq_some.mpr (tag?_extend (opening?_eq_some.mp hopening) rest)
  rw [h] at hextend
  cases hextend

/-- A tag at the start of a text with more after it lies in the text, or ends in the rest. -/
theorem tag?_append_cases (h : S.tag? (c :: before ++ rest) = some (t, after)) :
    (∃ left, S.tag? (c :: before) = some (t, left)) ∨
      ∃ excess last, rest = excess ++ [last] ++ after ∧
        (∀ d ∈ excess ++ [last], S.begins d = false) ∧ S.blank last = false := by
  obtain ⟨c', mid, last, heq, -, hmid, hlast⟩ := S.tag?_eq_some h
  rcases List.append_eq_append_iff.mp heq with ⟨excess, htag, hrest⟩ | ⟨left, htext, hafter⟩
  · rcases List.eq_nil_or_concat excess with rfl | ⟨excess, last', rfl⟩
    · refine Or.inl ⟨[], ?_⟩
      rw [List.append_nil] at htag
      have hback := @TagSyntax.tag?_append _ _ S (c :: before) _ rest (by rw [h, hrest]; rfl) []
      rwa [List.append_nil] at hback
    · rw [List.concat_eq_append, List.cons_append, ← List.append_assoc] at htag
      obtain ⟨-, htail⟩ := List.cons.inj htag
      obtain ⟨hmid', hlast'⟩ := List.append_inj' htail rfl
      obtain rfl : last = last' := (List.cons.inj hlast').1
      refine Or.inr ⟨excess, last, by rw [hrest, List.concat_eq_append], fun d hd => hmid d ?_, hlast⟩
      rw [hmid', List.append_assoc]
      exact List.mem_append_right _ hd
  · refine Or.inl ⟨left, ?_⟩
    rw [htext]
    rw [heq] at h
    exact S.tag?_append h left

/-! ### The text before an opening tag -/

theorem beforeOpening_of_opening (h : S.opening? (c :: text) = some (key, rest)) :
    S.beforeOpening (c :: text) = [] := by
  unfold beforeOpening unterminated?
  rw [h]

theorem beforeOpening_cons (h : S.opening? (c :: text) = none) :
    S.beforeOpening (c :: text) = c :: S.beforeOpening text := by
  unfold beforeOpening
  rw [unterminated?, h]
  cases S.unterminated? text with
  | none => rfl
  | some found => rfl

/-- The text before the first opening tag begins the text. -/
theorem beforeOpening_front (text : List α) : S.beforeOpening text <+: text := by
  induction text with
  | nil => exact List.nil_prefix
  | cons c text ih =>
    cases h : S.opening? (c :: text) with
    | none =>
      rw [beforeOpening_cons h]
      exact List.cons_prefix_cons.mpr ⟨rfl, ih⟩
    | some found =>
      rw [beforeOpening_of_opening h]
      exact List.nil_prefix

theorem unterminated?_cons (h : S.opening? (c :: text) = none) :
    S.unterminated? (c :: text) = none ↔ S.unterminated? text = none := by
  rw [unterminated?, h]
  simp

theorem beforeOpening_plain {mid : List α} (hmid : ∀ d ∈ mid, S.begins d = false)
    (rest : List α) : S.beforeOpening (mid ++ rest) = mid ++ S.beforeOpening rest := by
  induction mid with
  | nil => rfl
  | cons d mid ih =>
    have hnone := @tag?_of_not_begins _ _ S d (mid ++ rest) (hmid d List.mem_cons_self)
    rw [List.cons_append, beforeOpening_cons (opening?_of_tag? hnone),
      ih fun e he => hmid e (List.mem_cons_of_mem _ he)]
    rfl

/-- The first opening tag of a text with more after it begins in the text, or after it. -/
theorem beforeOpening_append (before rest : List α) :
    (∃ c tail, before = S.beforeOpening (before ++ rest) ++ c :: tail ∧ S.begins c = true) ∨
      S.beforeOpening (before ++ rest) = before ++ S.beforeOpening rest := by
  induction before with
  | nil => exact Or.inr rfl
  | cons c before ih =>
    cases h : S.opening? (c :: (before ++ rest)) with
    | none =>
      rw [List.cons_append, beforeOpening_cons h]
      rcases ih with ⟨d, tail, heq, hbegins⟩ | heq
      · exact Or.inl ⟨d, tail, congrArg (c :: ·) heq, hbegins⟩
      · exact Or.inr (congrArg (c :: ·) heq)
    | some found =>
      obtain ⟨key, after⟩ := found
      obtain ⟨c', mid, last, heq, hbegins, -⟩ := S.tag?_eq_some (opening?_eq_some.mp h)
      obtain ⟨rfl, -⟩ := List.cons.inj heq
      refine Or.inl ⟨c, before, ?_, hbegins⟩
      rw [List.cons_append, beforeOpening_of_opening h]
      rfl

theorem unterminated?_of_beforeOpening {before rest : List α}
    (h : S.beforeOpening (before ++ rest) = before ++ S.beforeOpening rest) :
    S.unterminated? before = none := by
  induction before with
  | nil => rfl
  | cons c before ih =>
    cases hopening : S.opening? (c :: (before ++ rest)) with
    | none =>
      rw [List.cons_append, beforeOpening_cons hopening] at h
      rw [unterminated?_cons (@opening?_of_append _ _ _ (c :: before) _ hopening)]
      exact ih (List.cons.inj h).2
    | some found =>
      rw [List.cons_append, beforeOpening_of_opening hopening] at h
      cases h

/-- A text without an opening tag, before a rest that has nothing but blanks before its first
opening tag. -/
theorem beforeOpening_of_blank {before rest : List α} (hnone : S.unterminated? before = none)
    (hblank : ∀ c ∈ S.beforeOpening rest, S.blank c = true) :
    S.beforeOpening (before ++ rest) = before ++ S.beforeOpening rest := by
  induction before with
  | nil => rfl
  | cons c before ih =>
    have hfirst : S.opening? (c :: before) = none := by
      rw [unterminated?] at hnone
      split at hnone
      · cases hnone
      · assumption
    have hopening : S.opening? (c :: (before ++ rest)) = none := by
      rw [Option.eq_none_iff_forall_not_mem]
      rintro ⟨key, after⟩ hfound
      rcases tag?_append_cases (opening?_eq_some.mp hfound) with
        ⟨left, hin⟩ | ⟨excess, last, rfl, hover, hlast⟩
      · rw [opening?_eq_some.mpr hin] at hfirst
        cases hfirst
      · -- the tag would end before the first opening tag of the rest
        rw [beforeOpening_plain hover] at hblank
        have hcontra := hblank last (by simp)
        simp [hlast] at hcontra
    rw [List.cons_append, beforeOpening_cons hopening, ih ((unterminated?_cons hfirst).mp hnone)]
    rfl

theorem unterminated?_append_blank (hblank : ∀ c ∈ rest, S.blank c = true) :
    S.unterminated? (before ++ rest) = none ↔ S.unterminated? before = none := by
  have hnone : ∀ c ∈ rest, S.begins c = false := by
    intro c hc
    by_contra hbegins
    have hcontra := S.blank_of_begins c (by simpa using hbegins)
    simp [hblank c hc] at hcontra
  have hrest : S.beforeOpening rest = rest := by
    have hplain := beforeOpening_plain hnone []
    rw [List.append_nil] at hplain
    rw [hplain]
    exact List.append_nil _
  have hright : S.unterminated? rest = none := by
    refine @unterminated?_of_beforeOpening _ _ _ _ [] ?_
    rw [List.append_nil, hrest]
    exact (List.append_nil _).symm
  constructor
  · intro h
    induction before with
    | nil => rfl
    | cons c before ih =>
      have hopening : S.opening? (c :: before ++ rest) = none := by
        rw [List.cons_append, unterminated?] at h
        split at h
        · cases h
        · assumption
      rw [unterminated?_cons (opening?_of_append hopening)]
      exact ih ((unterminated?_cons hopening).mp h)
  · intro h
    have happend := @beforeOpening_of_blank _ _ _ _ rest h (by rwa [hrest])
    refine @unterminated?_of_beforeOpening _ _ _ _ [] ?_
    rw [List.append_nil, happend, hrest]
    exact (List.append_nil _).symm

/-- What is not blank stays. -/
theorem filter_strip (text : List α) :
    (S.strip text).filter (fun c => !S.blank c) = text.filter fun c => !S.blank c := by
  have hfront : ∀ l : List α, (l.dropWhile S.blank).filter (fun c => !S.blank c) =
      l.filter fun c => !S.blank c := by
    intro l
    have htaken : (l.takeWhile S.blank).filter (fun c => !S.blank c) = [] := by
      rw [List.filter_eq_nil_iff]
      intro c hc
      simp [List.mem_takeWhile_imp hc]
    conv_rhs => rw [← List.takeWhile_append_dropWhile (p := S.blank) (l := l)]
    rw [List.filter_append, htaken, List.nil_append]
  have hback : ∀ l : List α, (l.rdropWhile S.blank).filter (fun c => !S.blank c) =
      l.filter fun c => !S.blank c := by
    intro l
    have htaken : (l.rtakeWhile S.blank).filter (fun c => !S.blank c) = [] := by
      rw [List.filter_eq_nil_iff]
      intro c hc
      simp [List.mem_rtakeWhile_imp hc]
    conv_rhs => rw [← List.rdropWhile_append_rtakeWhile (p := S.blank) (l := l)]
    rw [List.filter_append, htaken, List.append_nil]
  unfold strip
  rw [hback, hfront]

theorem filter_eq_nil :
    (text.filter fun c => !S.blank c) = [] ↔ ∀ c ∈ text, S.blank c = true := by
  rw [List.filter_eq_nil_iff]
  simp

theorem strip_append_blank (hblank : ∀ c ∈ rest, S.blank c = true) :
    S.strip (before ++ rest) = S.strip before := by
  have hback : ∀ l : List α, (l ++ rest).rdropWhile S.blank = l.rdropWhile S.blank := by
    intro l
    rw [List.rdropWhile, List.reverse_append, List.dropWhile_append_of_pos]
    · rfl
    · exact fun c hc => hblank c (List.mem_reverse.mp hc)
  unfold strip
  rw [List.dropWhile_append]
  by_cases hall : (before.dropWhile S.blank).isEmpty
  · rw [if_pos hall, List.isEmpty_iff.mp hall, List.dropWhile_eq_nil_iff.mpr hblank]
  · rw [if_neg hall, hback]

/-- What is cut off at an opening tag in the text itself is missed. -/
theorem strip_ne_of_cut {kept before after tail : List α} {c : α}
    (hcut : before = kept ++ c :: tail) (hbegins : S.begins c = true) :
    S.strip kept ≠ S.strip (before ++ after) := by
  intro heq
  have hfilter := congrArg (fun l => (l.filter fun d => !S.blank d).length) heq
  simp only [filter_strip, hcut, List.filter_append, List.length_append,
    List.filter_cons_of_pos (p := fun d => !S.blank d) (a := c) (l := tail)
      (by simp [S.blank_of_begins c hbegins]), List.length_cons] at hfilter
  omega

/-- A text that goes on with an opening tag, or ends, is kept when it has none itself. -/
theorem strip_beforeOpening_iff {before rest : List α} (hrest : S.beforeOpening rest = []) :
    S.strip (S.beforeOpening (before ++ rest)) = S.strip before ↔
      S.unterminated? before = none := by
  constructor
  · intro heq
    rcases beforeOpening_append (S := S) before rest with ⟨c, tail, hcut, hbegins⟩ | hkept
    · rw [← List.append_nil before] at heq
      refine absurd ?_ (@strip_ne_of_cut _ _ _ _ _ [] _ _ hcut hbegins)
      rwa [List.append_nil] at heq ⊢
    · exact unterminated?_of_beforeOpening hkept
  · intro hnone
    rw [beforeOpening_of_blank hnone (by simp [hrest]), hrest, List.append_nil]

/-- A text that goes on inside a block, whose first character that counts is not among the
characters outside. -/
theorem strip_beforeOpening_inside_iff (hrest : ((∀ c ∈ rest, S.blank c = true) ∧ after = []) ∨
      ∃ front c tail, rest = front ++ c :: tail ∧ (∀ d ∈ front, S.blank d = true) ∧
        S.blank c = false ∧ c ∉ after) :
    S.strip (S.beforeOpening (before ++ rest)) = S.strip (before ++ after) ↔
      S.unterminated? (before ++ after) = none ∧
        (∀ c ∈ S.beforeOpening rest, S.blank c = true) ∧ ∀ c ∈ after, S.blank c = true := by
  constructor
  · intro heq
    rcases beforeOpening_append (S := S) before rest with ⟨c, tail, hcut, hbegins⟩ | hkept
    · exact absurd heq (strip_ne_of_cut hcut hbegins)
    · -- what counts of the rest is what counts of the text after
      rw [hkept] at heq
      have hcount := congrArg (List.filter fun c => !S.blank c) heq
      rw [filter_strip, filter_strip, List.filter_append, List.filter_append,
        List.append_cancel_left_eq] at hcount
      have hrestblank : ∀ c ∈ S.beforeOpening rest, S.blank c = true := by
        rcases hrest with ⟨hblank, -⟩ | ⟨front, c, tail, rfl, hfront, hc, hafter⟩
        · exact fun c hc => hblank c ((beforeOpening_front rest).subset hc)
        · obtain ⟨cut, hcut⟩ := beforeOpening_front (S := S) (front ++ c :: tail)
          rcases List.append_eq_append_iff.mp hcut with ⟨excess, hkeptfront, -⟩ | ⟨excess, hover, htail⟩
          · exact fun d hd => hfront d (hkeptfront ▸ List.mem_append_left _ hd)
          · cases excess with
            | nil =>
              rw [hover, List.append_nil]
              exact hfront
            | cons d excess =>
              -- the character would be outside
              obtain ⟨rfl, -⟩ := List.cons.inj htail
              have hmem : c ∈ after.filter fun d => !S.blank d := by
                rw [← hcount, hover]
                simp [hc]
              exact absurd (List.mem_of_mem_filter hmem) hafter
      have hafterblank : ∀ c ∈ after, S.blank c = true := by
        rw [← filter_eq_nil, ← hcount, filter_eq_nil]
        exact hrestblank
      exact ⟨(unterminated?_append_blank hafterblank).mpr (unterminated?_of_beforeOpening hkept),
        hrestblank, hafterblank⟩
  · rintro ⟨hnone, hrestblank, hafterblank⟩
    rw [beforeOpening_of_blank ((unterminated?_append_blank hafterblank).mp hnone) hrestblank,
      strip_append_blank hrestblank, strip_append_blank hafterblank]

variable (S) in
/-- Characters and tags, from the left. -/
def lex (text : List α) : List (α ⊕ Tag κ) := scan S.tag? text

theorem lex_tag (h : S.tag? text = some (t, rest)) :
    S.lex text = .inr t :: S.lex rest :=
  scan_some takes_tag? h

theorem lex_char (h : S.tag? (c :: text) = none) :
    S.lex (c :: text) = .inl c :: S.lex text :=
  scan_none h

/-- Texts are read from the left: the next character, or the next tag. -/
theorem induct {motive : List α → Prop} (nil : motive [])
    (char : ∀ c text, S.tag? (c :: text) = none → motive text → motive (c :: text))
    (tag : ∀ text t rest, S.tag? text = some (t, rest) →
      (∀ later, later.length < text.length → motive later) → motive text)
    (text : List α) : motive text := by
  induction hn : text.length using Nat.strong_induction_on generalizing text with
  | _ n ih =>
    subst hn
    cases htag : S.tag? text with
    | some found =>
      exact tag text found.1 found.2 htag fun later hlater => ih _ hlater later rfl
    | none =>
      cases text with
      | nil => exact nil
      | cons c text => exact char c text htag (ih _ (Nat.lt_succ_self _) text rfl)

end TagSyntax

variable {α κ : Type}

/-- The keys that are open after some tokens, the innermost first. -/
def stackAfter : List κ → List (α ⊕ Tag κ) → List κ
  | stack, [] => stack
  | stack, .inl _ :: tokens => stackAfter stack tokens
  | stack, .inr (.opening key) :: tokens => stackAfter (key :: stack) tokens
  | stack, .inr (.closing _) :: tokens => stackAfter stack.tail tokens

/-- The characters outside every block. -/
def outside : List κ → List (α ⊕ Tag κ) → List α
  | _, [] => []
  | stack, .inl c :: tokens => if stack.isEmpty then c :: outside stack tokens else outside stack tokens
  | stack, .inr (.opening key) :: tokens => outside (key :: stack) tokens
  | stack, .inr (.closing _) :: tokens => outside stack.tail tokens

/-- Each closing tag closes the innermost open block; blocks may be left open. -/
def Nested : List κ → List (α ⊕ Tag κ) → Prop
  | _, [] => True
  | stack, .inl _ :: tokens => Nested stack tokens
  | stack, .inr (.opening key) :: tokens => Nested (key :: stack) tokens
  | stack, .inr (.closing key) :: tokens => stack.head? = some key ∧ Nested stack.tail tokens

variable [DecidableEq κ]

instance decidableNested : ∀ (stack : List κ) (tokens : List (α ⊕ Tag κ)),
    Decidable (Nested stack tokens)
  | _, [] => isTrue trivial
  | stack, .inl _ :: tokens => decidableNested stack tokens
  | stack, .inr (.opening key) :: tokens => decidableNested (key :: stack) tokens
  | stack, .inr (.closing _) :: tokens =>
    have : Decidable (Nested stack.tail tokens) := decidableNested stack.tail tokens
    inferInstanceAs (Decidable (_ ∧ _))

/-- A block of the key opens among the tokens. -/
def hasOpening (key : κ) (tokens : List (α ⊕ Tag κ)) : Bool :=
  tokens.any fun
    | .inr tag => tag = .opening key
    | .inl _ => false

theorem hasOpening_iff {key : κ} {tokens : List (α ⊕ Tag κ)} :
    hasOpening key tokens = true ↔ .inr (.opening key) ∈ tokens := by
  unfold hasOpening
  rw [List.any_eq_true]
  constructor
  · rintro ⟨token, hmem, htoken⟩
    cases token with
    | inl c => cases htoken
    | inr tag =>
      rw [decide_eq_true_eq] at htoken
      rwa [htoken] at hmem
  · intro hmem
    exact ⟨_, hmem, by simp⟩

/-! ### The first pass -/

namespace TagSyntax

variable (S : TagSyntax α κ)

/-- The closing tag of a key at the start of a text. -/
def closing? (key : κ) (text : List α) : Option (List α) :=
  match S.tag? text with
  | some (.closing key', rest) => if key' = key then some rest else none
  | _ => none

/-- The text before the first closing tag of the key, and the text after it. -/
def split? (key : κ) : List α → Option (List α × List α)
  | [] => none
  | c :: text =>
    match S.closing? key (c :: text) with
    | some rest => some ([], rest)
    | none => (split? key text).map fun found => (c :: found.1, found.2)

/-- A block at the start of a text: what is inside it, and what follows it. -/
def block? (text : List α) : Option (List α × List α) :=
  (S.opening? text).bind fun found => S.split? found.1 found.2

/-- The blocks from the left. -/
def blocks (text : List α) : List (List α) :=
  (scan S.block? text).filterMap Sum.getRight?

/-- The text without its blocks. -/
def dropBlocks (text : List α) : List α :=
  (scan S.block? text).filterMap Sum.getLeft?

/-- An outermost block, up to the first closing tag of its key; without one it is the rest. -/
def outermost? (text : List α) : Option ((κ × Option (List α × List α)) × List α) :=
  (S.opening? text).map fun found =>
    match S.split? found.1 found.2 with
    | some (inside, rest) => ((found.1, some (inside, rest)), rest)
    | none => ((found.1, none), [])

/-- What follows the first closing tag of the first block that has a block of its own key in it,
with the keys that are still open there. -/
def overrun (text : List α) : Option (List κ × List α) :=
  (scan S.outermost? text).findSome? fun
    | .inr (key, some (inside, rest)) =>
      if hasOpening key (S.lex inside) then
        some ((stackAfter [key] (S.lex inside)).tail, rest)
      else none
    | _ => none

variable {S}
variable {text rest : List α} {key : κ}

theorem closing?_eq_some :
    S.closing? key text = some rest ↔ S.tag? text = some (.closing key, rest) := by
  unfold closing?
  split
  · rename_i key' rest' htag
    rw [htag]
    by_cases hkey : key' = key
    · simp [hkey]
    · simp [hkey]
  · rename_i hother
    refine iff_of_false nofun fun htag => ?_
    exact hother key rest htag

theorem closing?_of_tag? (h : S.tag? text = none) :
    S.closing? key text = none := by
  unfold closing?
  rw [h]

theorem split?_cons {c : α} (h : S.closing? key (c :: text) = none) :
    S.split? key (c :: text) = (S.split? key text).map fun found => (c :: found.1, found.2) := by
  rw [split?, h]

theorem split?_plain {mid : List α} (hmid : ∀ d ∈ mid, S.begins d = false) (rest : List α) :
    S.split? key (mid ++ rest) =
      (S.split? key rest).map fun found => (mid ++ found.1, found.2) := by
  induction mid with
  | nil => simp
  | cons d mid ih =>
    have hnone := @tag?_of_not_begins _ _ S d (mid ++ rest) (hmid d List.mem_cons_self)
    rw [List.cons_append, split?_cons (closing?_of_tag? hnone),
      ih fun e he => hmid e (List.mem_cons_of_mem _ he), Option.map_map]
    rfl

theorem split?_closing (htag : S.tag? text = some (.closing key, rest)) :
    S.split? key text = some ([], rest) := by
  obtain ⟨c, mid, last, rfl, -⟩ := S.tag?_eq_some htag
  show S.split? key (c :: (mid ++ [last] ++ rest)) = _
  rw [split?, show S.closing? key (c :: (mid ++ [last] ++ rest)) = some rest from
    closing?_eq_some.mpr htag]

/-- A text that begins with a tag, but not with the closing tag of the key. -/
theorem split?_tag {key : κ} {text rest : List α} {t : Tag κ}
    (htag : S.tag? text = some (t, rest)) (ht : t ≠ .closing key) :
    ∃ tag, text = tag ++ rest ∧ S.tag? (tag ++ rest) = some (t, rest) ∧
      S.split? key text = (S.split? key rest).map fun found => (tag ++ found.1, found.2) := by
  obtain ⟨c, mid, last, rfl, -, hmid, -⟩ := S.tag?_eq_some htag
  refine ⟨c :: (mid ++ [last]), rfl, htag, ?_⟩
  have hclosing : S.closing? key (c :: (mid ++ [last] ++ rest)) = none := by
    rw [Option.eq_none_iff_forall_not_mem]
    intro after hafter
    have hboth := htag.symm.trans (closing?_eq_some.mp hafter)
    simp only [Option.some_inj, Prod.mk.injEq] at hboth
    exact ht hboth.1
  rw [List.cons_append, split?_cons hclosing, split?_plain hmid, Option.map_map]
  rfl

/-- **The first closing tag** of the key splits a text and its tokens. -/
theorem lex_split {inside : List α} (h : S.split? key text = some (inside, rest)) :
    S.lex text = S.lex inside ++ .inr (.closing key) :: S.lex rest ∧
      .inr (.closing key) ∉ S.lex inside ∧ ∃ tag, tag ≠ [] ∧ text = inside ++ (tag ++ rest) := by
  induction text using S.induct generalizing inside with
  | nil => cases h
  | char c text hnone ih =>
    rw [split?_cons (closing?_of_tag? hnone)] at h
    obtain ⟨found, hfound, heq⟩ := Option.map_eq_some_iff.mp h
    obtain ⟨rfl, rfl⟩ := Prod.mk.inj heq
    obtain ⟨hlex, hnot, tag, htag, rfl⟩ := ih hfound
    have hinside : S.tag? (c :: found.1) = none := by
      rw [Option.eq_none_iff_forall_not_mem]
      rintro ⟨t, after⟩ hfirst
      have hextend := tag?_extend hfirst (tag ++ found.2)
      rw [List.cons_append, hnone] at hextend
      cases hextend
    rw [lex_char hnone, lex_char hinside, hlex]
    exact ⟨rfl, by simpa using hnot, tag, htag, rfl⟩
  | tag text t after htag ih =>
    by_cases ht : t = .closing key
    · -- the tag itself closes
      subst ht
      rw [split?_closing htag] at h
      obtain ⟨rfl, rfl⟩ := Prod.mk.inj (Option.some_inj.mp h)
      obtain ⟨c, mid, last, rfl, -⟩ := S.tag?_eq_some htag
      rw [lex_tag htag]
      exact ⟨rfl, List.not_mem_nil, _, List.cons_ne_nil _ _, rfl⟩
    · obtain ⟨tag, rfl, htag, hsplit⟩ := @split?_tag _ _ _ _ key _ _ _ htag ht
      rw [hsplit] at h
      obtain ⟨found, hfound, heq⟩ := Option.map_eq_some_iff.mp h
      obtain ⟨rfl, rfl⟩ := Prod.mk.inj heq
      obtain ⟨hlex, hnot, closing, hclosing, hafter⟩ := ih after (takes_tag? _ _ _ htag) hfound
      rw [lex_tag htag, lex_tag (S.tag?_append htag found.1), hlex]
      refine ⟨rfl, ?_, closing, hclosing, by rw [hafter, List.append_assoc]⟩
      simp only [List.mem_cons, Sum.inr.injEq, not_or]
      exact ⟨fun heq => ht heq.symm, hnot⟩

/-- Without a closing tag of the key there is none among the tokens. -/
theorem not_mem_lex (h : S.split? key text = none) :
    .inr (.closing key) ∉ S.lex text := by
  induction text using S.induct with
  | nil => exact List.not_mem_nil
  | char c text hnone ih =>
    rw [split?_cons (closing?_of_tag? hnone), Option.map_eq_none_iff] at h
    rw [lex_char hnone]
    simpa using ih h
  | tag text t after htag ih =>
    rw [lex_tag htag]
    by_cases ht : t = .closing key
    · subst ht
      rw [split?_closing htag] at h
      cases h
    · obtain ⟨tag, rfl, htag, hsplit⟩ := @split?_tag _ _ _ _ key _ _ _ htag ht
      rw [hsplit, Option.map_eq_none_iff] at h
      simp only [List.mem_cons, Sum.inr.injEq, not_or]
      exact ⟨fun heq => ht heq.symm, ih after (takes_tag? _ _ _ htag) h⟩

end TagSyntax

omit [DecidableEq κ] in
theorem outside_append (stack : List κ) (tokens tokens' : List (α ⊕ Tag κ)) :
    outside stack (tokens ++ tokens') =
      outside stack tokens ++ outside (stackAfter stack tokens) tokens' := by
  induction tokens generalizing stack with
  | nil => rfl
  | cons token tokens ih =>
    rcases token with c | key | key
    · rw [List.cons_append, outside, outside, ih, stackAfter]
      split <;> rfl
    · exact ih (key :: stack)
    · exact ih stack.tail

omit [DecidableEq κ] in
theorem nested_append (stack : List κ) (tokens tokens' : List (α ⊕ Tag κ)) :
    Nested stack (tokens ++ tokens') ↔
      Nested stack tokens ∧ Nested (stackAfter stack tokens) tokens' := by
  induction tokens generalizing stack with
  | nil => simp [Nested, stackAfter]
  | cons token tokens ih =>
    rcases token with c | key | key
    · exact ih stack
    · exact ih (key :: stack)
    · rw [List.cons_append, Nested, Nested, ih stack.tail, and_assoc]
      rfl

omit [DecidableEq κ] in
/-- **A block is not left** before a closing tag of its key; among the blocks that open in it is one
of its key exactly when such a tag opens. -/
theorem outside_of_no_closing {key : κ} {tokens : List (α ⊕ Tag κ)}
    (hclosing : .inr (.closing key) ∉ tokens) {inner stack : List κ}
    (h : Nested (inner ++ key :: stack) tokens) :
    outside (inner ++ key :: stack) tokens = [] ∧
      ∃ inner', stackAfter (inner ++ key :: stack) tokens = inner' ++ key :: stack ∧
        (key ∈ inner' ↔ key ∈ inner ∨ .inr (.opening key) ∈ tokens) := by
  induction tokens generalizing inner with
  | nil => exact ⟨by cases inner <;> rfl, inner, rfl, by simp⟩
  | cons token tokens ih =>
    have hrest : .inr (.closing key) ∉ tokens := fun hmem =>
      hclosing (List.mem_cons_of_mem _ hmem)
    rcases token with c | opened | closed
    · obtain ⟨hnone, inner', hstack, hiff⟩ := ih hrest h
      refine ⟨?_, inner', hstack, by simpa using hiff⟩
      rw [outside, if_neg (by simp)]
      exact hnone
    · obtain ⟨hnone, inner', hstack, hiff⟩ := @ih hrest (opened :: inner) h
      refine ⟨hnone, inner', hstack, ?_⟩
      rw [hiff]
      simp only [List.mem_cons, Sum.inr.injEq, Tag.opening.injEq]
      tauto
    · obtain ⟨hhead, hnested⟩ := h
      cases inner with
      | nil =>
        -- the innermost block is that of the key
        obtain rfl : key = closed := Option.some_inj.mp hhead
        exact absurd List.mem_cons_self hclosing
      | cons first inner =>
        obtain rfl : first = closed := Option.some_inj.mp hhead
        have hne : key ≠ first := by
          rintro rfl
          exact hclosing List.mem_cons_self
        obtain ⟨hnone, inner', hstack, hiff⟩ := @ih hrest inner hnested
        refine ⟨hnone, inner', hstack, ?_⟩
        rw [hiff]
        simp [hne]

/-! ### What the first pass leaves -/

namespace TagSyntax

variable {S : TagSyntax α κ}
variable {text rest inside after : List α} {key : κ}

theorem block?_of_opening (htag : S.tag? text = some (.opening key, rest))
    (hsplit : S.split? key rest = some (inside, after)) : S.block? text = some (inside, after) := by
  unfold block?
  rw [opening?_eq_some.mpr htag]
  exact hsplit

/-- A block has a tag at its start, and a rest in which its key is closed. -/
theorem block?_eq_some (h : S.block? text = some (inside, after)) :
    ∃ key rest, S.tag? text = some (.opening key, rest) ∧ S.split? key rest = some (inside, after) := by
  obtain ⟨⟨key, rest⟩, hopening, hsplit⟩ := Option.bind_eq_some_iff.mp h
  exact ⟨key, rest, opening?_eq_some.mp hopening, hsplit⟩

theorem block?_of_tag? (h : S.tag? text = none) : S.block? text = none := by
  unfold block?
  rw [opening?_of_tag? h]
  rfl

theorem length_of_split? (h : S.split? key text = some (inside, rest)) :
    rest.length < text.length := by
  obtain ⟨-, -, tag, htag, rfl⟩ := lex_split h
  have hpos := List.length_pos_iff.mpr htag
  simp
  omega

variable {t : Tag κ} {c : α} {stack : List κ}

theorem nodup_after (htag : S.tag? text = some (t, rest))
    (hsplit : S.split? key rest = some (inside, after)) (h : text.Nodup) : after.Nodup := by
  obtain ⟨-, -, tag, -, hrest⟩ := lex_split hsplit
  obtain ⟨c, mid, last, htext, -⟩ := S.tag?_eq_some htag
  rw [htext, hrest] at h
  exact h.of_append_right.of_append_right.of_append_right

theorem takes_block? : Takes S.block? := by
  intro text inside after h
  obtain ⟨key, rest, htag, hsplit⟩ := block?_eq_some h
  exact (length_of_split? hsplit).trans (takes_tag? _ _ _ htag)

theorem dropBlocks_block (h : S.block? text = some (inside, after)) :
    S.dropBlocks text = S.dropBlocks after := by
  unfold dropBlocks
  rw [scan_some takes_block? h]
  rfl

theorem dropBlocks_cons (h : S.block? (c :: text) = none) :
    S.dropBlocks (c :: text) = c :: S.dropBlocks text := by
  unfold dropBlocks
  rw [scan_none h]
  rfl

theorem dropBlocks_plain {mid : List α} (hmid : ∀ d ∈ mid, S.begins d = false) (rest : List α) :
    S.dropBlocks (mid ++ rest) = mid ++ S.dropBlocks rest := by
  induction mid with
  | nil => rfl
  | cons d mid ih =>
    have hnone := @tag?_of_not_begins _ _ S d (mid ++ rest) (hmid d List.mem_cons_self)
    rw [List.cons_append, dropBlocks_cons (block?_of_tag? hnone),
      ih fun e he => hmid e (List.mem_cons_of_mem _ he)]
    rfl

/-- A tag that begins no block stays. -/
theorem dropBlocks_tag (htag : S.tag? text = some (t, rest)) (hblock : S.block? text = none) :
    ∃ c tag, S.begins c = true ∧ text = c :: tag ++ rest ∧
      S.dropBlocks text = c :: tag ++ S.dropBlocks rest := by
  obtain ⟨c, mid, last, rfl, hbegins, hmid, -⟩ := S.tag?_eq_some htag
  refine ⟨c, mid ++ [last], hbegins, rfl, ?_⟩
  have hcons : S.dropBlocks (c :: (mid ++ [last] ++ rest)) = c :: S.dropBlocks (mid ++ [last] ++ rest) :=
    dropBlocks_cons hblock
  rw [dropBlocks_plain hmid] at hcons
  exact hcons

omit [DecidableEq κ] in
/-- What is outside is a part of the text. -/
theorem outside_lex_subset (stack : List κ) (text : List α) :
    ∀ c ∈ outside stack (S.lex text), c ∈ text := by
  induction text using S.induct generalizing stack with
  | nil =>
    intro c hc
    exact absurd hc List.not_mem_nil
  | char d text hnone ih =>
    intro c hc
    rw [lex_char hnone, outside] at hc
    split at hc
    · rcases List.mem_cons.mp hc with rfl | hc
      · exact List.mem_cons_self
      · exact List.mem_cons_of_mem _ (ih stack c hc)
    · exact List.mem_cons_of_mem _ (ih stack c hc)
  | tag text t rest htag ih =>
    intro c hc
    rw [lex_tag htag] at hc
    have hrest : c ∈ rest := by
      cases t with
      | opening key => exact ih rest (takes_tag? _ _ _ htag) (key :: stack) c hc
      | closing key => exact ih rest (takes_tag? _ _ _ htag) stack.tail c hc
    obtain ⟨d, mid, last, rfl, -⟩ := S.tag?_eq_some htag
    exact List.mem_append_right _ hrest

/-- The reader at the end of what the first pass takes for a block: at the end of the block, or
inside it where a block of its own key opens in it. -/
theorem nested_split (hsplit : S.split? key rest = some (inside, after))
    (h : Nested (key :: stack) (S.lex rest)) :
    ∃ inner, stackAfter (key :: stack) (S.lex inside) = inner ++ key :: stack ∧
      (hasOpening key (S.lex inside) = true ↔ inner ≠ []) ∧
      Nested (inner ++ key :: stack).tail (S.lex after) ∧
      outside (key :: stack) (S.lex rest) = outside (inner ++ key :: stack).tail (S.lex after) := by
  obtain ⟨hlex, hnot, -⟩ := lex_split hsplit
  rw [hlex, nested_append] at h
  obtain ⟨hnested, hhead, hafter⟩ := h
  obtain ⟨hnone, inner, hstack, hiff⟩ := @outside_of_no_closing _ _ _ _ hnot [] _ hnested
  rw [List.nil_append] at hstack hnone
  rw [hstack] at hhead hafter
  refine ⟨inner, hstack, ?_, hafter, ?_⟩
  · rw [hasOpening_iff]
    simp only [List.not_mem_nil, false_or] at hiff
    rw [← hiff]
    cases inner with
    | nil => simp
    | cons first inner =>
      obtain rfl : first = key := Option.some_inj.mp hhead
      simp
  · rw [hlex, outside_append, hnone, hstack]
    rfl

/-- **Inside a block** the first pass leaves a part of the block first, if anything that counts. -/
theorem dropBlocks_inside (hnodup : text.Nodup) (hopen : stack ≠ [])
    (h : Nested stack (S.lex text)) :
    ((∀ c ∈ S.dropBlocks text, S.blank c = true) ∧ outside stack (S.lex text) = []) ∨
      ∃ front c tail, S.dropBlocks text = front ++ c :: tail ∧ (∀ d ∈ front, S.blank d = true) ∧
        S.blank c = false ∧ c ∉ outside stack (S.lex text) := by
  induction text using S.induct generalizing stack with
  | nil => exact Or.inl ⟨fun c hc => absurd hc List.not_mem_nil, by cases stack <;> rfl⟩
  | char c text hnone ih =>
    obtain ⟨hc, hnodup⟩ := List.nodup_cons.mp hnodup
    rw [lex_char hnone] at h ⊢
    rw [dropBlocks_cons (block?_of_tag? hnone), outside, if_neg (by simpa using hopen)]
    by_cases hblank : S.blank c = true
    · rcases ih hnodup hopen h with ⟨hall, houtside⟩ | ⟨front, d, tail, heq, hfront, hd, hnot⟩
      · exact Or.inl ⟨List.forall_mem_cons.mpr ⟨hblank, hall⟩, houtside⟩
      · refine Or.inr ⟨c :: front, d, tail, congrArg (c :: ·) heq, ?_, hd, hnot⟩
        exact List.forall_mem_cons.mpr ⟨hblank, hfront⟩
    · refine Or.inr ⟨[], c, S.dropBlocks text, rfl, fun d hd => absurd hd List.not_mem_nil,
        by simpa using hblank, fun hmem => hc (outside_lex_subset _ _ c hmem)⟩
  | tag text t rest htag ih =>
    cases hblock : S.block? text with
    | none =>
      -- a tag that stays is a part of the block
      obtain ⟨c, tag, hbegins, rfl, hleft⟩ := dropBlocks_tag htag hblock
      refine Or.inr ⟨[], c, tag ++ S.dropBlocks rest, hleft, fun d hd => absurd hd List.not_mem_nil,
        S.blank_of_begins c hbegins, fun hmem => ?_⟩
      have hrest : c ∈ rest := by
        rw [lex_tag htag] at hmem
        cases t with
        | opening key => exact outside_lex_subset (key :: stack) rest c hmem
        | closing key => exact outside_lex_subset stack.tail rest c hmem
      exact (List.nodup_cons.mp hnodup).1 (List.mem_append_right _ hrest)
    | some found =>
      obtain ⟨inside, after⟩ := found
      obtain ⟨key, rest', htag', hsplit⟩ := block?_eq_some hblock
      obtain ⟨rfl, rfl⟩ := Prod.mk.inj (Option.some_inj.mp (htag.symm.trans htag'))
      rw [lex_tag htag] at h ⊢
      obtain ⟨inner, -, -, hnested, houtside⟩ := nested_split hsplit h
      have hshort := (length_of_split? hsplit).trans (takes_tag? _ _ _ htag)
      have hafter := nodup_after htag hsplit hnodup
      have hstill : (inner ++ key :: stack).tail ≠ [] := by
        cases inner with
        | nil => exact hopen
        | cons first inner => simp
      rw [dropBlocks_block hblock]
      show _ ∧ outside (key :: stack) (S.lex rest) = [] ∨ ∃ front c tail, _ ∧ _ ∧ _ ∧
        c ∉ outside (key :: stack) (S.lex rest)
      rw [houtside]
      exact ih after hshort hafter hstill hnested

theorem takes_outermost? : Takes S.outermost? := by
  intro text piece rest h
  obtain ⟨⟨key, inner⟩, hopening, heq⟩ := Option.map_eq_some_iff.mp h
  have htag := opening?_eq_some.mp hopening
  have hinner := takes_tag? _ _ _ htag
  cases hsplit : S.split? key inner with
  | none =>
    simp only [hsplit] at heq
    obtain ⟨-, rfl⟩ := Prod.mk.inj heq
    exact Nat.lt_of_le_of_lt (Nat.zero_le _) hinner
  | some found =>
    simp only [hsplit] at heq
    obtain ⟨-, rfl⟩ := Prod.mk.inj heq
    exact (length_of_split? hsplit).trans hinner

theorem overrun_cons (h : S.tag? (c :: text) = none) :
    S.overrun (c :: text) = S.overrun text := by
  unfold overrun
  rw [scan_none (by rw [outermost?, opening?_of_tag? h]; rfl)]
  rfl

theorem overrun_open (htag : S.tag? text = some (.opening key, rest))
    (hsplit : S.split? key rest = none) : S.overrun text = none := by
  have hpiece : S.outermost? text = some ((key, none), []) := by
    unfold outermost?
    rw [opening?_eq_some.mpr htag]
    simp [hsplit]
  unfold overrun
  rw [scan_some takes_outermost? hpiece]
  rfl

theorem overrun_block (htag : S.tag? text = some (.opening key, rest))
    (hsplit : S.split? key rest = some (inside, after)) :
    S.overrun text = if hasOpening key (S.lex inside) then
      some ((stackAfter [key] (S.lex inside)).tail, after) else S.overrun after := by
  have hpiece : S.outermost? text = some ((key, some (inside, after)), after) := by
    unfold outermost?
    rw [opening?_eq_some.mpr htag]
    simp [hsplit]
  unfold overrun
  rw [scan_some takes_outermost? hpiece, List.findSome?_cons]
  by_cases hopening : hasOpening key (S.lex inside) = true
  · simp [hopening]
  · simp [hopening]

/-- **The two passes** leave what is outside the blocks, after a text that is outside, exactly when
that has no opening tag itself, and after the first block with a block of its own key in it there is
nothing that counts: neither in what the first pass leaves up to an opening tag, nor outside. -/
theorem strip_iff (before : List α) (hnodup : text.Nodup) (h : Nested [] (S.lex text)) :
    S.strip (S.beforeOpening (before ++ S.dropBlocks text)) =
        S.strip (before ++ outside [] (S.lex text)) ↔
      S.unterminated? (before ++ outside [] (S.lex text)) = none ∧
        ∀ found ∈ S.overrun text,
          (∀ c ∈ S.beforeOpening (S.dropBlocks found.2), S.blank c = true) ∧
            ∀ c ∈ outside found.1 (S.lex found.2), S.blank c = true := by
  induction text using S.induct generalizing before with
  | nil =>
    have hnone : S.overrun [] = none := rfl
    have hend := @strip_beforeOpening_iff _ _ S before [] rfl
    rw [hnone]
    simpa [dropBlocks, scan, pieces, lex, outside] using hend
  | char c text hnone ih =>
    have hstep := ih (before ++ [c]) (List.nodup_cons.mp hnodup).2
      (by rw [lex_char hnone] at h; exact h)
    rw [List.append_assoc, List.append_assoc] at hstep
    rw [dropBlocks_cons (block?_of_tag? hnone), lex_char hnone, overrun_cons hnone]
    exact hstep
  | tag text t rest htag ih =>
    cases t with
    | closing key =>
      -- outside every block there is none to close
      rw [lex_tag htag] at h
      exact absurd h.1 nofun
    | opening key =>
      rw [lex_tag htag] at h ⊢
      show _ = S.strip (before ++ outside [key] (S.lex rest)) ↔
        S.unterminated? (before ++ outside [key] (S.lex rest)) = none ∧ _
      cases hsplit : S.split? key rest with
      | none =>
        -- the block is left open
        obtain ⟨hnone, -⟩ := @outside_of_no_closing _ _ _ _ (not_mem_lex hsplit) [] [] h
        have hblock : S.block? text = none := by
          unfold block?
          rw [opening?_eq_some.mpr htag]
          exact hsplit
        obtain ⟨c, tag, -, rfl, hleft⟩ := dropBlocks_tag htag hblock
        have hcut : S.beforeOpening (S.dropBlocks (c :: tag ++ rest)) = [] := by
          rw [hleft]
          exact beforeOpening_of_opening (opening?_eq_some.mpr (S.tag?_append htag _))
        rw [List.nil_append] at hnone
        rw [hnone, List.append_nil, strip_beforeOpening_iff hcut, overrun_open htag hsplit]
        simp
      | some found =>
        obtain ⟨inside, after⟩ := found
        obtain ⟨inner, hstack, hopening, hnested, houtside⟩ := nested_split hsplit h
        have hshort := (length_of_split? hsplit).trans (takes_tag? _ _ _ htag)
        have hafter := nodup_after htag hsplit hnodup
        rw [dropBlocks_block (block?_of_opening htag hsplit), overrun_block htag hsplit, houtside]
        cases inner with
        | nil =>
          rw [if_neg (by simp [hopening])]
          exact ih after hshort before hafter hnested
        | cons first inner =>
          rw [if_pos (hopening.mpr (List.cons_ne_nil _ _)), hstack]
          have hinside := dropBlocks_inside hafter (by simp) hnested
          rw [strip_beforeOpening_inside_iff hinside]
          simp

end TagSyntax

/-- The characters of one syntax are those of another with more to them. -/
structure Maps {α β κ : Type} (S : TagSyntax α κ) (S' : TagSyntax β κ) (f : α → β) : Prop where
  tag? : ∀ text, S'.tag? (text.map f) = (S.tag? text).map fun found => (found.1, found.2.map f)
  blank : ∀ c, S'.blank (f c) = S.blank c

namespace Maps

variable {β : Type} {S : TagSyntax α κ} {S' : TagSyntax β κ} {f : α → β} (h : Maps S S' f)
include h

omit [DecidableEq κ] in
theorem opening? (text : List α) :
    S'.opening? (text.map f) = (S.opening? text).map fun found => (found.1, found.2.map f) := by
  unfold TagSyntax.opening?
  rw [h.tag?]
  rcases S.tag? text with _ | ⟨key | key, rest⟩ <;> rfl

theorem closing? (key : κ) (text : List α) :
    S'.closing? key (text.map f) = (S.closing? key text).map (List.map f) := by
  unfold TagSyntax.closing?
  rw [h.tag?]
  rcases S.tag? text with _ | ⟨key' | key', rest⟩
  · rfl
  · rfl
  · show (if key' = key then some (rest.map f) else none) =
      (if key' = key then some rest else none).map (List.map f)
    split <;> rfl

theorem split? (key : κ) (text : List α) : S'.split? key (text.map f) =
    (S.split? key text).map fun found => (found.1.map f, found.2.map f) := by
  induction text with
  | nil => rfl
  | cons c text ih =>
    rw [List.map_cons, TagSyntax.split?, TagSyntax.split?, ← List.map_cons, h.closing?]
    cases S.closing? key (c :: text) with
    | some rest => rfl
    | none =>
      show (S'.split? key (text.map f)).map _ = _
      rw [ih, Option.map_map, Option.map_map]
      rfl

theorem block? (text : List α) : S'.block? (text.map f) =
    (S.block? text).map fun found => (found.1.map f, found.2.map f) := by
  unfold TagSyntax.block?
  rw [h.opening?]
  cases S.opening? text with
  | none => rfl
  | some found => exact h.split? found.1 found.2

theorem dropBlocks (text : List α) : S'.dropBlocks (text.map f) = (S.dropBlocks text).map f := by
  induction hn : text.length using Nat.strong_induction_on generalizing text with
  | _ n ih =>
    subst hn
    cases hblock : S.block? text with
    | some found =>
      have hblock' := h.block? text
      rw [hblock] at hblock'
      rw [TagSyntax.dropBlocks_block hblock, TagSyntax.dropBlocks_block hblock']
      exact ih _ (TagSyntax.takes_block? _ _ _ hblock) _ rfl
    | none =>
      cases text with
      | nil => rfl
      | cons c text =>
        have hblock' := h.block? (c :: text)
        rw [hblock] at hblock'
        rw [TagSyntax.dropBlocks_cons hblock, List.map_cons, TagSyntax.dropBlocks_cons hblock',
          ih _ (Nat.lt_succ_self _) text rfl]
        rfl

omit [DecidableEq κ] in
theorem beforeOpening (text : List α) :
    S'.beforeOpening (text.map f) = (S.beforeOpening text).map f := by
  induction text with
  | nil => rfl
  | cons c text ih =>
    have hopening := h.opening? (c :: text)
    cases hfound : S.opening? (c :: text) with
    | none =>
      rw [hfound] at hopening
      rw [TagSyntax.beforeOpening_cons hfound, List.map_cons, TagSyntax.beforeOpening_cons hopening,
        ih]
      rfl
    | some found =>
      rw [hfound] at hopening
      rw [TagSyntax.beforeOpening_of_opening hfound, List.map_cons,
        TagSyntax.beforeOpening_of_opening hopening]
      rfl

omit [DecidableEq κ] in
theorem strip (text : List α) : S'.strip (text.map f) = (S.strip text).map f := by
  have hblank : S'.blank ∘ f = S.blank := funext h.blank
  unfold TagSyntax.strip List.rdropWhile
  rw [List.dropWhile_map, hblank, ← List.map_reverse, List.dropWhile_map, hblank, List.map_reverse]

end Maps

end TagBlocks
