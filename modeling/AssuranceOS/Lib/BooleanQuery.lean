/-
Boolean query languages: clauses under `and`, `or`, `not` and parentheses.

The grammar is the usual one: alternatives of conjuncts, of which each is a clause, a negation
or a query in parentheses.  What a clause is, is the language's own: `terminal` reads one from
the front of the tokens.

* `query_of_primary` and `primary_lparen` — the grammar, freed from the fuel of the parser;
* `Conjuncts.holds_first` — a conjunction selects within its first conjunct;
* `lex_before` — a punctuation mark ends the text before it, unless it stands in a quotation;
* `lex_own` — the text of a word or a quotation is one token by itself.
-/
import Mathlib.Tactic.Common

namespace BooleanQuery

inductive Token where
  | lparen
  | rparen
  | comma
  | and
  | or
  | not
  /-- a word or a quotation, as it is written -/
  | operand (text : String)
  | keyword (text : String)
  deriving DecidableEq, Repr

mutual

inductive Expr (κ : Type) where
  | clause (c : κ)
  | not (e : Expr κ)
  | group (q : Alternatives κ)

inductive Alternatives (κ : Type) where
  | last (conjuncts : Conjuncts κ)
  | or (conjuncts : Conjuncts κ) (q : Alternatives κ)

inductive Conjuncts (κ : Type) where
  | last (e : Expr κ)
  | and (e : Expr κ) (conjuncts : Conjuncts κ)

end

variable {κ : Type}

/-- `e` before the first conjunct of the first alternative. -/
def Alternatives.and (e : Expr κ) : Alternatives κ → Alternatives κ
  | last conjuncts => last (.and e conjuncts)
  | or conjuncts q => or (.and e conjuncts) q

def Conjuncts.first : Conjuncts κ → Expr κ
  | last e => e
  | and e _ => e

/-- The clause alone, in any number of parentheses. -/
inductive Expr.Is (c : κ) : Expr κ → Prop
  | clause : Is c (clause c)
  | group {e : Expr κ} (h : Is c e) : Is c (group (.last (.last e)))

variable {c : κ} {q : Alternatives κ}

theorem Expr.Is.of_group (h : (Expr.group q).Is c) :
    ∃ e, q = .last (.last e) ∧ e.Is c := by
  cases h with
  | group h => exact ⟨_, rfl, h⟩

theorem Expr.Is.of_clause {d : κ} (h : (Expr.clause d).Is c) : d = c := by
  cases h
  rfl

/-- What a conjunct is put before is a conjunction if the whole is one. -/
theorem Alternatives.and_eq_last {e : Expr κ} {conjuncts : Conjuncts κ}
    (h : q.and e = .last conjuncts) : ∃ others, q = .last others := by
  cases q with
  | last others => exact ⟨others, rfl⟩
  | or others q => cases h

section Holds

variable (sat : κ → Prop) (negated : Expr κ → Prop)

mutual

/-- The query holds of an item of which the clauses `sat` hold; what the negation of an
expression selects is the language's own. -/
def Expr.Holds : Expr κ → Prop
  | .clause c => sat c
  | .not e => negated e
  | .group q => Alternatives.Holds q

def Alternatives.Holds : Alternatives κ → Prop
  | .last conjuncts => Conjuncts.Holds conjuncts
  | .or conjuncts q => Conjuncts.Holds conjuncts ∨ Alternatives.Holds q

def Conjuncts.Holds : Conjuncts κ → Prop
  | .last e => Expr.Holds e
  | .and e conjuncts => Expr.Holds e ∧ Conjuncts.Holds conjuncts

end

variable {sat negated}

theorem Conjuncts.holds_first {conjuncts : Conjuncts κ} (h : conjuncts.Holds sat negated) :
    conjuncts.first.Holds sat negated := by
  cases conjuncts with
  | last e => exact h
  | and e conjuncts => exact h.1

theorem Expr.Is.holds {c : κ} {e : Expr κ} (hc : e.Is c) (h : e.Holds sat negated) : sat c := by
  induction hc with
  | clause => exact h
  | group _ ih => exact ih h

end Holds

section Grammar

/-- What may follow a conjunct; `more` reads on after `and` and `or`. -/
def connect (more : List Token → Option (Alternatives κ × List Token)) (e : Expr κ) :
    List Token → Option (Alternatives κ × List Token)
  | .and :: ts => (more ts).map fun r => (r.1.and e, r.2)
  | .or :: ts => (more ts).map fun r => (.or (.last e) r.1, r.2)
  | ts => some (.last (.last e), ts)

/-- The query that was read, and its closing parenthesis. -/
def close : Option (Alternatives κ × List Token) → Option (Expr κ × List Token)
  | some (q, .rparen :: ts) => some (.group q, ts)
  | _ => none

variable (terminal : List Token → Option (κ × List Token))

mutual

/-- Alternatives of conjuncts from the front of the tokens, in `n` steps at most. -/
def alternatives : ℕ → List Token → Option (Alternatives κ × List Token)
  | 0, _ => none
  | n + 1, ts =>
    match expr n ts with
    | some (e, rest) => connect (alternatives n) e rest
    | none => none

/-- One conjunct. -/
def expr : ℕ → List Token → Option (Expr κ × List Token)
  | 0, _ => none
  | n + 1, .not :: ts => (expr n ts).map fun r => (.not r.1, r.2)
  | n + 1, .lparen :: ts => close (alternatives n ts)
  | _ + 1, ts => (terminal ts).map fun r => (.clause r.1, r.2)

end

/-- A query from the front of the tokens. -/
def query (ts : List Token) : Option (Alternatives κ × List Token) :=
  alternatives terminal (2 * ts.length + 1) ts

/-- A conjunct from the front of the tokens. -/
def primary (ts : List Token) : Option (Expr κ × List Token) :=
  expr terminal (2 * ts.length) ts

/-- Reading a clause takes tokens. -/
def Shortens : Prop := ∀ ts r, terminal ts = some r → r.2.length < ts.length

variable {terminal}
variable {e : Expr κ} {ts : List Token} {n : ℕ}
variable {more : List Token → Option (Alternatives κ × List Token)}
  {r : Alternatives κ × List Token} {rest : List Token} {t : Token}

theorem connect_mono {more' : List Token → Option (Alternatives κ × List Token)}
    (hmore : ∀ us q, us.length < ts.length → more us = some q →
      q.2.length < us.length ∧ more' us = some q)
    (h : connect more e ts = some r) : r.2.length ≤ ts.length ∧ connect more' e ts = some r := by
  unfold connect at h ⊢
  split at h
  · obtain ⟨q, hq, rfl⟩ := Option.map_eq_some_iff.mp h
    obtain ⟨hlength, hq'⟩ := hmore _ q (Nat.lt_succ_self _) hq
    refine ⟨?_, by simp [hq']⟩
    simp only [List.length_cons]
    omega
  · obtain ⟨q, hq, rfl⟩ := Option.map_eq_some_iff.mp h
    obtain ⟨hlength, hq'⟩ := hmore _ q (Nat.lt_succ_self _) hq
    refine ⟨?_, by simp [hq']⟩
    simp only [List.length_cons]
    omega
  · cases h
    exact ⟨Nat.le_refl _, rfl⟩

/-- What is read from a conjunct on begins with it, when it is a conjunction. -/
theorem connect_first {conjuncts : Conjuncts κ}
    (h : connect more e ts = some (.last conjuncts, rest)) :
    conjuncts.first = e := by
  unfold connect at h
  split at h
  · obtain ⟨⟨q, after⟩, -, heq⟩ := Option.map_eq_some_iff.mp h
    cases q with
    | last others =>
      cases heq
      rfl
    | or others q => cases heq
  · obtain ⟨⟨q, after⟩, -, heq⟩ := Option.map_eq_some_iff.mp h
    cases heq
  · cases h
    rfl

theorem close_eq_some {x : Option (Alternatives κ × List Token)} {r : Expr κ × List Token} :
    close x = some r ↔ ∃ q, x = some (q, .rparen :: r.2) ∧ r.1 = .group q := by
  unfold close
  split
  · rename_i q ts
    constructor
    · intro h
      cases h
      exact ⟨q, rfl, rfl⟩
    · rintro ⟨q', h, hr⟩
      cases h
      rw [← hr]
  · rename_i hnot
    constructor
    · intro h
      cases h
    · rintro ⟨q, rfl, -⟩
      exact absurd rfl (hnot q r.2)

theorem expr_not (n : ℕ) (ts : List Token) :
    expr terminal (n + 1) (.not :: ts) = (expr terminal n ts).map fun r => (.not r.1, r.2) := by
  rw [expr]

theorem expr_lparen (n : ℕ) (ts : List Token) :
    expr terminal (n + 1) (.lparen :: ts) = close (alternatives terminal n ts) := by
  rw [expr]

theorem expr_terminal (hnot : t ≠ .not) (hparen : t ≠ .lparen) :
    expr terminal (n + 1) (t :: ts) = (terminal (t :: ts)).map fun r => (.clause r.1, r.2) := by
  rw [expr]
  · rintro us heq
    exact hnot (List.cons.inj heq).1
  · rintro us heq
    exact hparen (List.cons.inj heq).1

/-- What is read takes tokens, and is read in any number of steps that the tokens need. -/
theorem steps_suffice (hshort : Shortens terminal) (n : ℕ) :
    (∀ ts r, alternatives terminal n ts = some r → r.2.length < ts.length ∧
      ∀ m, 2 * ts.length < m → alternatives terminal m ts = some r) ∧
    (∀ ts r, expr terminal n ts = some r → r.2.length < ts.length ∧
      ∀ m, 2 * ts.length ≤ m → expr terminal m ts = some r) := by
  induction n with
  | zero =>
    constructor
    · intro ts r h
      cases h
    · intro ts r h
      cases h
  | succ n ih =>
    obtain ⟨ihalternatives, ihexpr⟩ := ih
    constructor
    · intro ts r h
      rcases hexpr : expr terminal n ts with _ | ⟨e, rest⟩
      · rw [alternatives, hexpr] at h
        cases h
      rw [alternatives, hexpr] at h
      have hrest : rest.length < ts.length := (ihexpr ts _ hexpr).1
      have hsame := (ihexpr ts _ hexpr).2
      have hmore : ∀ m, 2 * ts.length ≤ m → r.2.length ≤ rest.length ∧
          connect (alternatives terminal m) e rest = some r := by
        intro m hm
        refine connect_mono (fun us q hus hq => ?_) h
        obtain ⟨hlength, hq'⟩ := ihalternatives us q hq
        exact ⟨hlength, hq' m (by omega)⟩
      refine ⟨Nat.lt_of_le_of_lt (hmore _ (Nat.le_refl _)).1 hrest, fun m hm => ?_⟩
      obtain ⟨k, rfl⟩ : ∃ k, m = k + 1 := ⟨m - 1, by omega⟩
      rw [alternatives, hsame k (by omega)]
      exact (hmore k (by omega)).2
    · intro ts r h
      rcases ts with _ | ⟨t, ts⟩
      · obtain ⟨c, hc, -⟩ := Option.map_eq_some_iff.mp h
        exact absurd (hshort [] c hc) (Nat.not_lt_zero _)
      by_cases hnot : t = .not
      · subst hnot
        rw [expr_not] at h
        obtain ⟨e, he, rfl⟩ := Option.map_eq_some_iff.mp h
        obtain ⟨hrest, hsame⟩ := ihexpr ts e he
        refine ⟨Nat.lt_succ_of_lt hrest, fun m hm => ?_⟩
        rw [List.length_cons] at hm
        obtain ⟨k, rfl⟩ : ∃ k, m = k + 1 := ⟨m - 1, by omega⟩
        rw [expr_not, hsame k (by omega)]
        rfl
      by_cases hparen : t = .lparen
      · subst hparen
        rw [expr_lparen] at h
        obtain ⟨q, hq, hr⟩ := close_eq_some.mp h
        obtain ⟨hrest, hsame⟩ := ihalternatives ts _ hq
        have hlength : r.2.length + 1 < ts.length := hrest
        refine ⟨?_, fun m hm => ?_⟩
        · rw [List.length_cons]
          omega
        rw [List.length_cons] at hm
        obtain ⟨k, rfl⟩ : ∃ k, m = k + 1 := ⟨m - 1, by omega⟩
        rw [expr_lparen, hsame k (by omega)]
        exact close_eq_some.mpr ⟨q, rfl, hr⟩
      · rw [expr_terminal hnot hparen] at h
        obtain ⟨c, hc, rfl⟩ := Option.map_eq_some_iff.mp h
        refine ⟨hshort _ c hc, fun m hm => ?_⟩
        rw [List.length_cons] at hm
        obtain ⟨k, rfl⟩ : ∃ k, m = k + 1 := ⟨m - 1, by omega⟩
        rw [expr_terminal hnot hparen, hc]
        rfl

theorem query_eq_some (hshort : Shortens terminal) (hn : 2 * ts.length < n) :
    alternatives terminal n ts = some r ↔ query terminal ts = some r := by
  constructor
  · intro h
    exact ((steps_suffice hshort n).1 ts r h).2 _ (Nat.lt_succ_self _)
  · intro h
    exact ((steps_suffice hshort _).1 ts r h).2 n hn

theorem primary_eq_some (hshort : Shortens terminal) {r : Expr κ × List Token}
    (hn : 2 * ts.length ≤ n) :
    expr terminal n ts = some r ↔ primary terminal ts = some r := by
  constructor
  · intro h
    exact ((steps_suffice hshort n).2 ts r h).2 _ (Nat.le_refl _)
  · intro h
    exact ((steps_suffice hshort _).2 ts r h).2 n hn

/-- A query is a conjunct and what is connected to it. -/
theorem query_of_primary (hshort : Shortens terminal) (h : primary terminal ts = some (e, rest)) :
    query terminal ts = connect (query terminal) e rest := by
  have hrest : rest.length < ts.length := ((steps_suffice hshort _).2 ts _ h).1
  have hunfold : query terminal ts = connect (alternatives terminal (2 * ts.length)) e rest := by
    rw [query, alternatives, (primary_eq_some hshort (Nat.le_refl _)).mpr h]
  rw [hunfold]
  -- both read on with as many steps as the rest needs
  ext r
  constructor
  · intro hr
    refine (connect_mono (fun us q hus hq => ?_) hr).2
    exact ⟨((steps_suffice hshort _).1 us q hq).1, (query_eq_some hshort (by omega)).mp hq⟩
  · intro hr
    refine (connect_mono (fun us q hus hq => ?_) hr).2
    exact ⟨((steps_suffice hshort _).1 us q hq).1, (query_eq_some hshort (by omega)).mpr hq⟩

theorem query_of_not_primary (h : primary terminal ts = none) : query terminal ts = none := by
  have hnone : expr terminal (2 * ts.length) ts = none := h
  rw [query, alternatives, hnone]

/-- A query in parentheses. -/
theorem primary_lparen (ts : List Token) :
    primary terminal (.lparen :: ts) = close (query terminal ts) :=
  expr_lparen _ ts

/-- A clause. -/
theorem primary_terminal (hnot : t ≠ .not) (hparen : t ≠ .lparen) :
    primary terminal (t :: ts) = (terminal (t :: ts)).map fun r => (.clause r.1, r.2) :=
  expr_terminal hnot hparen

end Grammar

/-! ### Tokens

Words are runs of characters of one class; punctuation marks stand for themselves; a quotation
runs to the next quotation mark of its kind without a backslash before it. -/

inductive CharClass where
  | space
  | mark (t : Token)
  | quote
  | run (k : ℕ)
  deriving DecidableEq

structure Alphabet where
  classOf : Char → CharClass
  word : ℕ → String → Token

/-- What the lexer is in the middle of. -/
inductive Mode where
  | between
  | run (k : ℕ) (text : List Char)
  | quotation (mark : Char) (text : List Char) (escaped : Bool)

def Mode.text : Mode → List Char
  | between => []
  | run _ text => text
  | quotation _ text _ => text

namespace Alphabet

variable (a : Alphabet)

/-- The character at the beginning of a token. -/
def start (c : Char) : List Token × Mode :=
  match a.classOf c with
  | .space => ([], .between)
  | .mark t => ([t], .between)
  | .quote => ([], .quotation c [c] false)
  | .run k => ([], .run k [c])

/-- The tokens that end at the character, and what it leaves the lexer in. -/
def advance : Mode → Char → List Token × Mode
  | .between, c => a.start c
  | .run k text, c =>
    if a.classOf c = .run k then ([], .run k (text ++ [c]))
    else (a.word k (String.ofList text) :: (a.start c).1, (a.start c).2)
  | .quotation mark text escaped, c =>
    if escaped = false ∧ c = mark then ([.operand (String.ofList (text ++ [c]))], .between)
    else ([], .quotation mark (text ++ [c]) (!escaped && c = '\\'))

def finish : Mode → Option (List Token)
  | .between => some []
  | .run k text => some [a.word k (String.ofList text)]
  | .quotation _ _ _ => none

def lexFrom : Mode → List Char → Option (List Token)
  | m, [] => a.finish m
  | m, c :: cs => (lexFrom (a.advance m c).2 cs).map ((a.advance m c).1 ++ ·)

/-- The tokens of a text; a quotation must be closed. -/
def lex (cs : List Char) : Option (List Token) := a.lexFrom .between cs

variable {a}
variable {m : Mode} {c : Char} {t : Token} {cs : List Char}
variable {tokens : List Token}

theorem advance_mark (hc : a.classOf c = .mark t) (hm : a.finish m = some tokens) :
    a.advance m c = (tokens ++ [t], .between) := by
  have hstart : a.start c = ([t], .between) := by
    rw [start, hc]
  cases m with
  | between =>
    cases hm
    exact hstart
  | run k text =>
    cases hm
    have hne : a.classOf c ≠ .run k := by
      rw [hc]
      intro heq
      cases heq
    rw [advance, if_neg hne, hstart]
    rfl
  | quotation mark text escaped => cases hm

/-- A punctuation mark ends the text before it. -/
theorem lexFrom_before (hc : a.classOf c = .mark t) (rest : List Char) :
    ∀ {cs : List Char} {m : Mode} {tokens : List Token}, a.lexFrom m cs = some tokens →
      a.lexFrom m (cs ++ c :: rest) = (a.lex rest).map fun ts => tokens ++ t :: ts := by
  intro cs
  induction cs with
  | nil =>
    intro m tokens h
    rw [List.nil_append, lexFrom, advance_mark hc h]
    refine Option.map_congr fun ts _ => ?_
    show (tokens ++ [t]) ++ ts = _
    rw [List.append_assoc, List.singleton_append]
  | cons d cs ih =>
    intro m tokens h
    obtain ⟨after, hafter, rfl⟩ := Option.map_eq_some_iff.mp h
    rw [List.cons_append, lexFrom, ih hafter, Option.map_map]
    refine Option.map_congr fun ts _ => ?_
    show (a.advance m d).1 ++ (after ++ t :: ts) = _
    rw [List.append_assoc]

theorem lex_before (hc : a.classOf c = .mark t) (h : a.lex cs = some tokens) (rest : List Char) :
    a.lex (cs ++ c :: rest) = (a.lex rest).map fun ts => tokens ++ t :: ts :=
  lexFrom_before hc rest h

variable (a) in
/-- A quotation was begun by a quotation mark. -/
def Quoting : Mode → Prop
  | .quotation mark _ _ => a.classOf mark = .quote
  | _ => True

theorem start_quoting (c : Char) : a.Quoting (a.start c).2 := by
  unfold start
  split
  · exact trivial
  · exact trivial
  · assumption
  · exact trivial

theorem advance_quoting (hm : a.Quoting m) (c : Char) :
    a.Quoting (a.advance m c).2 := by
  cases m with
  | between => exact start_quoting c
  | run k text =>
    rw [advance]
    split
    · exact trivial
    · exact start_quoting c
  | quotation mark text escaped =>
    rw [advance]
    split
    · exact trivial
    · exact hm

/-- A punctuation mark does not close a quotation. -/
theorem lexFrom_unfinished (hc : a.classOf c = .mark t) :
    ∀ {cs : List Char} {m : Mode}, a.Quoting m → a.lexFrom m cs = none →
      a.lexFrom m (cs ++ [c]) = none := by
  intro cs
  induction cs with
  | nil =>
    intro m hm h
    cases m with
    | between => cases h
    | run k text => cases h
    | quotation mark text escaped =>
      have hne : c ≠ mark := by
        rintro rfl
        have hquote : a.classOf c = .quote := hm
        rw [hc] at hquote
        cases hquote
      rw [List.nil_append, lexFrom, advance, if_neg fun h => hne h.2]
      rfl
  | cons d cs ih =>
    intro m hm h
    have hrest : a.lexFrom (a.advance m d).2 cs = none := Option.map_eq_none_iff.mp h
    rw [List.cons_append, lexFrom, ih (advance_quoting hm d) hrest]
    rfl

theorem lex_unfinished (hc : a.classOf c = .mark t) (h : a.lex cs = none) :
    a.lex (cs ++ [c]) = none :=
  lexFrom_unfinished hc (m := .between) trivial h

variable (a) in
/-- The lexer is where it would be if the text of the token were all that it has seen. -/
def Fresh (m : Mode) : Prop := ∀ rest, a.lex (m.text ++ rest) = a.lexFrom m rest

theorem fresh_between : a.Fresh .between := fun _ => rfl

/-- One more character of the token. -/
theorem Fresh.snoc {m' : Mode} (hm : a.Fresh m) (hadvance : a.advance m c = ([], m'))
    (htext : m'.text = m.text ++ [c]) : a.Fresh m' := by
  intro rest
  rw [htext, List.append_assoc, List.singleton_append, hm, lexFrom, hadvance]
  show Option.map id _ = _
  rw [Option.map_id, id]

theorem start_fresh (c : Char) : a.Fresh (a.start c).2 := by
  rcases hc : a.classOf c with _ | t | _ | k
  · rw [start, hc]
    exact fresh_between
  · rw [start, hc]
    exact fresh_between
  · refine fresh_between.snoc (c := c) ?_ ?_
    · rw [advance, start, hc]
    · rw [start, hc]
      rfl
  · refine fresh_between.snoc (c := c) ?_ ?_
    · rw [advance, start, hc]
    · rw [start, hc]
      rfl

/-- The token is one by itself, and a word or a quotation. -/
def Own (a : Alphabet) (t : Token) : Prop :=
  ∃ text, a.lex text = some [t] ∧
    (t = .operand (String.ofList text) ∨ ∃ k, t = a.word k (String.ofList text))

theorem Fresh.own_run {k : ℕ} {text : List Char} (hm : a.Fresh (.run k text)) :
    a.Own (a.word k (String.ofList text)) := by
  refine ⟨text, ?_, .inr ⟨k, rfl⟩⟩
  have h := hm []
  rwa [List.append_nil] at h

/-- What begins a token emits a punctuation mark, or nothing. -/
theorem start_own (c : Char) :
    (a.start c).1 = [] ∨ ∃ t, (a.start c).1 = [t] ∧ a.classOf c = .mark t := by
  rcases hc : a.classOf c with _ | t | _ | k
  · left
    rw [start, hc]
  · right
    refine ⟨t, ?_, rfl⟩
    rw [start, hc]
  · left
    rw [start, hc]
  · left
    rw [start, hc]

/-- The first token that a character ends is a punctuation mark, or one by itself. -/
theorem advance_own (hm : a.Fresh m) (c : Char) :
    ((a.advance m c).1 = [] ∧ a.Fresh (a.advance m c).2) ∨
      ∃ t ts, (a.advance m c).1 = t :: ts ∧ ((∃ d, a.classOf d = .mark t) ∨ a.Own t) := by
  cases m with
  | between =>
    rcases start_own (a := a) c with hnone | ⟨t, hmark, hc⟩
    · exact .inl ⟨hnone, start_fresh c⟩
    · exact .inr ⟨t, [], hmark, .inl ⟨c, hc⟩⟩
  | run k text =>
    by_cases hc : a.classOf c = .run k
    · left
      have hadvance : a.advance (.run k text) c = ([], .run k (text ++ [c])) := by
        rw [advance, if_pos hc]
      rw [hadvance]
      exact ⟨rfl, hm.snoc hadvance rfl⟩
    · right
      refine ⟨a.word k (String.ofList text), (a.start c).1, ?_, .inr hm.own_run⟩
      rw [advance, if_neg hc]
  | quotation mark text escaped =>
    by_cases hend : escaped = false ∧ c = mark
    · right
      have hadvance : a.advance (.quotation mark text escaped) c =
          ([.operand (String.ofList (text ++ [c]))], .between) := by
        rw [advance, if_pos hend]
      refine ⟨.operand (String.ofList (text ++ [c])), [], ?_, .inr ⟨text ++ [c], ?_, .inl rfl⟩⟩
      · rw [hadvance]
      · have h := hm [c]
        rwa [lexFrom, hadvance] at h
    · left
      have hadvance : a.advance (.quotation mark text escaped) c =
          ([], .quotation mark (text ++ [c]) (!escaped && c = '\\')) := by
        rw [advance, if_neg hend]
      rw [hadvance]
      exact ⟨rfl, hm.snoc hadvance rfl⟩

theorem lexFrom_own :
    ∀ {cs : List Char} {m : Mode} {ts : List Token}, a.Fresh m → a.lexFrom m cs = some (t :: ts) →
      (∃ c, a.classOf c = .mark t) ∨ a.Own t := by
  intro cs
  induction cs with
  | nil =>
    intro m ts hm h
    cases m with
    | between => cases h
    | run k text =>
      cases h
      exact .inr hm.own_run
    | quotation mark text escaped => cases h
  | cons c cs ih =>
    intro m ts hm h
    obtain ⟨after, hafter, heq⟩ := Option.map_eq_some_iff.mp h
    rcases advance_own hm c with ⟨hnone, hm'⟩ | ⟨t', ts', hfirst, hown⟩
    · rw [hnone, List.nil_append] at heq
      rw [heq] at hafter
      exact ih hm' hafter
    · rw [hfirst, List.cons_append] at heq
      cases heq
      exact hown

/-- The first token of a text is a punctuation mark, or one by itself. -/
theorem lex_own {ts : List Token} (h : a.lex cs = some (t :: ts)) :
    (∃ c, a.classOf c = .mark t) ∨ a.Own t :=
  lexFrom_own fresh_between h

end Alphabet

end BooleanQuery
