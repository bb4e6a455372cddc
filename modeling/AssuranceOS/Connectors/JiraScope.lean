/-
The scope of a Jira search.

The query language is the provider's own, so that its lexer, its clauses and what they select are
a parameter (`Jql`) with what its reference says of them: punctuation marks end the text before
them outside of quotations, a word or a quotation is one token wherever it stands, `and` binds
closer than `or`, and `project in (…)` selects within the projects that are named.

The text that is sent restricts the search to the granted projects exactly when every project of
the scope is one word or quotation, and the query of the request is blank or, in its parentheses,
has no `or` outside of them (`bounded_iff`): text with parentheses of its own can close those
that were put around it.
-/
import AssuranceOS.Connectors.Jira
import AssuranceOS.Lib.BooleanQuery

namespace Connectors.Jira

open JsonText Vault Checked BooleanQuery

def listed : List String → List Token
  | [] => []
  | [name] => [.operand name]
  | name :: next :: names => .operand name :: .comma :: listed (next :: names)

def markOf (c : Char) : Option Token :=
  if c = '(' then some .lparen
  else if c = ')' then some .rparen
  else if c = ',' then some .comma
  else none

/-- The query language, and what a query selects of the issues. -/
structure Jql where
  Clause : Type
  Issue : Type
  lex : List Char → Option (List Token)
  terminal : List Token → Option (Clause × List Token)
  /-- an `order by` clause -/
  sorting : List Token → Bool
  projectIn : List String → Clause
  sat : Clause → Issue → Prop
  negated : Expr Clause → Issue → Prop
  /-- the issue is in the project that the operand names -/
  inProject : String → Issue → Prop
  lex_nil : lex [] = some []
  lex_before : ∀ {c t}, markOf c = some t → ∀ {text tokens}, lex text = some tokens →
    ∀ rest, lex (text ++ c :: rest) = (lex rest).map fun ts => tokens ++ t :: ts
  lex_unfinished : ∀ {text}, lex text = none → lex (text ++ [')']) = none
  lex_operand : ∀ {text name ts}, lex text = some (.operand name :: ts) →
    lex name.toList = some [.operand name]
  lex_projectIn : lex "project in ".toList = some [.operand "project", .keyword "in"]
  lex_and : lex " AND ".toList = some [.and]
  terminal_shortens : Shortens terminal
  terminal_projectIn : ∀ {names rest}, names ≠ [] → (rest = [] ∨ rest.head? = some .rparen) →
    terminal (.operand "project" :: .keyword "in" :: .lparen :: (listed names ++ .rparen :: rest)) =
      some (projectIn names, rest)
  projectIn_terminal : ∀ {ts names rest},
    terminal (.operand "project" :: .keyword "in" :: .lparen :: ts) = some (projectIn names, rest) →
      names ≠ [] ∧ ts = listed names ++ .rparen :: rest
  sat_projectIn : ∀ {names issue}, sat (projectIn names) issue →
    ∃ name ∈ names, inProject name issue

namespace Jql

variable (q : Jql)

def parse (text : String) : Option (Alternatives q.Clause) :=
  match q.lex text.toList with
  | none => none
  | some ts =>
    match query q.terminal ts with
    | some (parsed, rest) => if rest = [] ∨ q.sorting rest then some parsed else none
    | none => none

/-- The text is a query, and the issue satisfies it. -/
def Selects (text : String) (issue : q.Issue) : Prop :=
  ∃ parsed ∈ q.parse text, parsed.Holds (fun c => q.sat c issue) fun e => q.negated e issue

/-- The text is one query, a conjunction whose first conjunct is the restriction to the
projects. -/
def Bounded (projects : List String) (text : String) : Prop :=
  ∃ conjuncts, q.parse text = some (.last conjuncts) ∧
    conjuncts.first.Is (q.projectIn projects)

/-- The text is one operand. -/
def IsOperand (name : String) : Prop := q.lex name.toList = some [.operand name]

/-- Within parentheses the text is one conjunction. -/
def IsConjunction (text : String) : Prop :=
  ∃ conjuncts, q.parse ("(" ++ text ++ ")") = some (.last conjuncts)

end Jql

def joined : List String → List Char
  | [] => []
  | [name] => name.toList
  | name :: next :: names => name.toList ++ ',' :: joined (next :: names)

theorem intercalate_toList : ∀ names : List String,
    (",".intercalate names).toList = joined names := by
  intro names
  match names with
  | [] => rfl
  | [name] => rw [String.intercalate_singleton, joined]
  | name :: next :: names =>
    have hnext : next :: names ≠ [] := List.cons_ne_nil _ _
    rw [String.intercalate_cons_of_ne_nil hnext, String.toList_append, String.toList_append,
      intercalate_toList (next :: names), joined, List.append_assoc]
    rfl

theorem boundedJql_toList (projects : List String) :
    (boundedJql projects).toList = "project in ".toList ++ '(' :: (joined projects ++ [')']) := by
  unfold boundedJql
  rw [String.toList_append, String.toList_append, intercalate_toList]
  have hfront : "project in (".toList = "project in ".toList ++ ['('] := by decide
  rw [hfront]
  simp

def enclosed (text : List Char) : List Char := '(' :: (text ++ [')'])

theorem jql_toList {projects : List String} {supplied : String} (h : supplied ≠ "") :
    (jql projects supplied).toList =
      '(' :: ("project in ".toList ++ '(' :: (joined projects ++ ')' :: (')' ::
        (" AND ".toList ++ enclosed supplied.toList)))) := by
  have hfront : ") AND (".toList = ')' :: (" AND ".toList ++ ['(']) := by decide
  have hopen : "(".toList = ['('] := by decide
  have hclose : ")".toList = [')'] := by decide
  rw [jql, if_neg h, String.toList_append, String.toList_append, String.toList_append,
    String.toList_append, boundedJql_toList, hfront, hopen, hclose]
  simp [enclosed]

section Lex

variable {q : Jql} {projects : List String}

theorem lex_listed (hnames : ∀ name ∈ projects, q.IsOperand name) (hne : projects ≠ [])
    (rest : List Char) :
    q.lex (joined projects ++ ')' :: rest) =
      (q.lex rest).map fun ts => listed projects ++ .rparen :: ts := by
  induction projects with
  | nil => exact absurd rfl hne
  | cons name names ih =>
    have hname := hnames name List.mem_cons_self
    cases names with
    | nil => exact q.lex_before rfl hname rest
    | cons next names =>
      have hrest := ih (fun n hn => hnames n (List.mem_cons_of_mem _ hn)) (List.cons_ne_nil _ _)
      rw [joined, List.append_assoc, List.cons_append, q.lex_before rfl hname, hrest,
        Option.map_map]
      rfl

theorem operands_of_lex (hne : projects ≠ []) {rest : List Char} {ts : List Token}
    (h : q.lex (joined projects ++ ')' :: rest) = some (listed projects ++ .rparen :: ts)) :
    ∀ name ∈ projects, q.IsOperand name := by
  induction projects with
  | nil => exact absurd rfl hne
  | cons name names ih =>
    cases names with
    | nil =>
      intro n hn
      rw [List.mem_singleton.mp hn]
      exact q.lex_operand h
    | cons next names =>
      have hname : q.IsOperand name := q.lex_operand h
      rw [joined, List.append_assoc, List.cons_append, q.lex_before rfl hname] at h
      obtain ⟨us, hus, heq⟩ := Option.map_eq_some_iff.mp h
      have hrest : us = listed (next :: names) ++ .rparen :: ts :=
        (List.cons.inj (List.cons.inj heq).2).2
      rw [hrest] at hus
      intro n hn
      rcases List.mem_cons.mp hn with rfl | hn
      · exact hname
      · exact ih (List.cons_ne_nil _ _) hus n hn

theorem lex_mark {c : Char} {t : Token} (hc : markOf c = some t) (rest : List Char) :
    q.lex (c :: rest) = (q.lex rest).map fun ts => t :: ts :=
  q.lex_before hc q.lex_nil rest

def restriction (ts : List Token) : List Token :=
  .operand "project" :: .keyword "in" :: .lparen :: ts

theorem lex_restriction (rest : List Char) :
    q.lex ("project in ".toList ++ '(' :: rest) = (q.lex rest).map restriction :=
  q.lex_before rfl q.lex_projectIn rest

end Lex

section Text

variable {q : Jql} {projects : List String}

def Jql.restricted (q : Jql) (projects : List String) : Expr q.Clause :=
  .clause (q.projectIn projects)

theorem primary_restriction (hne : projects ≠ []) {rest : List Token}
    (hrest : rest = [] ∨ rest.head? = some .rparen) :
    primary q.terminal (restriction (listed projects ++ .rparen :: rest)) =
      some (q.restricted projects, rest) := by
  rw [restriction, primary_terminal (by decide) (by decide), q.terminal_projectIn hne hrest]
  rfl

theorem query_restriction (hne : projects ≠ []) {rest : List Token}
    (hrest : rest = [] ∨ rest.head? = some .rparen) :
    query q.terminal (restriction (listed projects ++ .rparen :: rest)) =
      some (.last (.last (q.restricted projects)), rest) := by
  rw [query_of_primary q.terminal_shortens (primary_restriction hne hrest)]
  rcases hrest with rfl | hrest
  · rfl
  · rcases rest with _ | ⟨t, rest⟩
    · rfl
    · cases hrest
      rfl

theorem parse_boundedJql (hne : projects ≠ []) (hnames : ∀ name ∈ projects, q.IsOperand name) :
    q.parse (boundedJql projects) = some (.last (.last (q.restricted projects))) := by
  have hlex : q.lex (boundedJql projects).toList =
      some (restriction (listed projects ++ [.rparen])) := by
    rw [boundedJql_toList, lex_restriction, lex_listed hnames hne, q.lex_nil]
    rfl
  rw [Jql.parse, hlex]
  dsimp only
  rw [query_restriction hne (.inl rfl)]
  exact if_pos (.inl rfl)

theorem parse_jql (hne : projects ≠ []) (hnames : ∀ name ∈ projects, q.IsOperand name)
    {supplied : String} (h : supplied ≠ "") :
    q.parse (jql projects supplied) =
      (q.parse ("(" ++ supplied ++ ")")).map
        (Alternatives.and (.group (.last (.last (q.restricted projects))))) := by
  have henclosed : ("(" ++ supplied ++ ")").toList = enclosed supplied.toList := by
    rw [String.toList_append, String.toList_append]
    rfl
  have hlex : q.lex (jql projects supplied).toList =
      (q.lex (enclosed supplied.toList)).map fun ts =>
        .lparen :: restriction (listed projects ++ .rparen :: .rparen :: .and :: ts) := by
    have hand : q.lex (" AND ".toList ++ enclosed supplied.toList) =
        (q.lex (enclosed supplied.toList)).map fun ts => .and :: ts := by
      rw [enclosed, q.lex_before rfl q.lex_and, lex_mark rfl, Option.map_map]
      rfl
    rw [jql_toList h, lex_mark rfl, lex_restriction, lex_listed hnames hne, lex_mark rfl, hand,
      Option.map_map, Option.map_map, Option.map_map, Option.map_map]
    rfl
  rw [Jql.parse, Jql.parse, henclosed, hlex]
  rcases q.lex (enclosed supplied.toList) with _ | ts
  · rfl
  have hgroup : primary q.terminal
      (.lparen :: restriction (listed projects ++ .rparen :: .rparen :: .and :: ts)) =
        some (.group (.last (.last (q.restricted projects))), .and :: ts) := by
    rw [primary_lparen, query_restriction hne (.inr rfl)]
    rfl
  have hquery : query q.terminal
      (.lparen :: restriction (listed projects ++ .rparen :: .rparen :: .and :: ts)) =
        (query q.terminal ts).map fun r =>
          (r.1.and (.group (.last (.last (q.restricted projects)))), r.2) := by
    rw [query_of_primary q.terminal_shortens hgroup]
    rfl
  rw [Option.map_some]
  dsimp only
  rw [hquery]
  rcases query q.terminal ts with _ | ⟨parsed, rest⟩
  · rfl
  · rw [Option.map_some]
    dsimp only
    split
    · rfl
    · rfl

theorem operands_of_restriction (hne : projects ≠ []) {rest : List Char} {us after : List Token}
    {conjuncts : Conjuncts q.Clause} (hlex : q.lex (joined projects ++ ')' :: rest) = some us)
    (hquery : query q.terminal (restriction us) = some (.last conjuncts, after))
    (hfirst : conjuncts.first.Is (q.projectIn projects)) :
    ∀ name ∈ projects, q.IsOperand name := by
  rcases hprimary : primary q.terminal (restriction us) with _ | ⟨e, after'⟩
  · rw [query_of_not_primary hprimary] at hquery
    cases hquery
  rw [query_of_primary q.terminal_shortens hprimary] at hquery
  rw [connect_first hquery] at hfirst
  -- the first conjunct is the clause that begins with the restriction
  rw [restriction, primary_terminal (by decide) (by decide)] at hprimary
  obtain ⟨⟨c, after''⟩, hterminal, heq⟩ := Option.map_eq_some_iff.mp hprimary
  cases heq
  have hc : c = q.projectIn projects := hfirst.of_clause
  rw [hc] at hterminal
  obtain ⟨-, rfl⟩ := q.projectIn_terminal hterminal
  exact operands_of_lex hne hlex

theorem parse_eq_some {text : String} {parsed : Alternatives q.Clause}
    (h : q.parse text = some parsed) :
    ∃ ts rest, q.lex text.toList = some ts ∧ query q.terminal ts = some (parsed, rest) := by
  unfold Jql.parse at h
  split at h
  · cases h
  · rename_i ts hlex
    split at h
    · rename_i parsed' rest hquery
      split at h
      · cases h
        exact ⟨ts, rest, hlex, hquery⟩
      · cases h
    · cases h

theorem operands_of_bounded (hne : projects ≠ []) {supplied : String}
    (h : q.Bounded projects (jql projects supplied)) : ∀ name ∈ projects, q.IsOperand name := by
  obtain ⟨conjuncts, hparse, hfirst⟩ := h
  obtain ⟨ts, rest, hlex, hquery⟩ := parse_eq_some hparse
  by_cases hsupplied : supplied = ""
  · rw [jql, if_pos hsupplied, boundedJql_toList, lex_restriction] at hlex
    obtain ⟨us, hus, rfl⟩ := Option.map_eq_some_iff.mp hlex
    exact operands_of_restriction hne hus hquery hfirst
  · rw [jql_toList hsupplied, lex_mark rfl, lex_restriction, Option.map_map] at hlex
    obtain ⟨us, hus, rfl⟩ := Option.map_eq_some_iff.mp hlex
    change query q.terminal (.lparen :: restriction us) = _ at hquery
    rcases hprimary : primary q.terminal (.lparen :: restriction us) with _ | ⟨e, after⟩
    · rw [query_of_not_primary hprimary] at hquery
      cases hquery
    rw [query_of_primary q.terminal_shortens hprimary] at hquery
    rw [connect_first hquery] at hfirst
    -- the first conjunct is in parentheses, and the restriction is in them
    rw [primary_lparen] at hprimary
    obtain ⟨inner, hinner, heq⟩ := close_eq_some.mp hprimary
    change e = .group inner at heq
    subst heq
    obtain ⟨e, rfl, he⟩ := hfirst.of_group
    exact operands_of_restriction hne hus hinner he

/-- The text is bounded exactly when the projects are operands and the query of the request, in
its parentheses, is a conjunction. -/
theorem bounded_jql_iff (hne : projects ≠ []) {supplied : String} :
    q.Bounded projects (jql projects supplied) ↔
      (∀ name ∈ projects, q.IsOperand name) ∧ (supplied = "" ∨ q.IsConjunction supplied) := by
  constructor
  · rintro hbounded
    have hnames := operands_of_bounded hne hbounded
    obtain ⟨conjuncts, hparse, hfirst⟩ := hbounded
    refine ⟨hnames, ?_⟩
    by_cases hsupplied : supplied = ""
    · exact .inl hsupplied
    · rw [parse_jql hne hnames hsupplied] at hparse
      obtain ⟨parsed, hparsed, hand⟩ := Option.map_eq_some_iff.mp hparse
      obtain ⟨others, rfl⟩ := Alternatives.and_eq_last hand
      exact .inr ⟨others, hparsed⟩
  · rintro ⟨hnames, hsupplied⟩
    by_cases hblank : supplied = ""
    · refine ⟨.last (q.restricted projects), ?_, .clause⟩
      rw [jql, if_pos hblank, parse_boundedJql hne hnames]
    · obtain ⟨conjuncts, hparse⟩ := hsupplied.resolve_left hblank
      refine ⟨.and (.group (.last (.last (q.restricted projects)))) conjuncts, ?_, .group .clause⟩
      rw [parse_jql hne hnames hblank, hparse]
      rfl

theorem selects_of_bounded {text : String} (h : q.Bounded projects text) {issue : q.Issue}
    (hselects : q.Selects text issue) : ∃ name ∈ projects, q.inProject name issue := by
  obtain ⟨conjuncts, hparse, hfirst⟩ := h
  obtain ⟨parsed, hparsed, hholds⟩ := hselects
  rw [hparse] at hparsed
  cases hparsed
  exact q.sat_projectIn (hfirst.holds (Conjuncts.holds_first hholds))

end Text

/-! ### The granted projects -/

section Granted

variable {real : FloatLiteral → FloatValue} {grant : CollectionGrant}

/-- The selectors of the grant allow the project. -/
def Granted (real : FloatLiteral → FloatValue) (grant : CollectionGrant) (project : String) : Prop :=
  ∃ selector ∈ grant.resourceSelectors.entries.lookup "projects",
    selectorAllows real selector (.str project)

theorem selectorAllows_item {selector : Value} {projects : List String}
    (h : selectorAllows real selector (strings projects)) {project : String}
    (hproject : project ∈ projects) : selectorAllows real selector (.str project) := by
  cases selector with
  | str s =>
    simp only [strings, selectorAllows] at h ⊢
    rw [h, Bool.true_or]
  | arr items =>
    simp only [strings, selectorAllows] at h ⊢
    exact List.all_eq_true.mp h (.str project) (List.mem_map.mpr ⟨_, hproject, rfl⟩)
  | null => simp [strings, selectorAllows] at h
  | bool b => simp [strings, selectorAllows] at h
  | int n => simp [strings, selectorAllows] at h
  | float literal => simp [strings, selectorAllows] at h
  | obj entries => simp [strings, selectorAllows] at h

theorem granted_of_validate {connectorInstance : ConnectorInstance} {connector : Connector}
    {request : CollectionRequest} {now : Timestamp} (hscope : connector.scopeFor = scopeFor)
    (hvalid : validate real connectorInstance grant connector request now = .ok ()) :
    ∃ projects, projectsOf request = .ok projects ∧
      ∀ project ∈ projects, Granted real grant project := by
  unfold validate at hvalid
  iterate 7
    rw [require_bind_eq_ok] at hvalid
    replace hvalid := hvalid.2
  rw [bind_eq_ok, hscope] at hvalid
  obtain ⟨requested, hrequested, hpermitted⟩ := hvalid
  obtain ⟨projects, hprojects, rfl⟩ := map_eq_ok.mp hrequested
  have hdistinct : (Value.obj [("projects", strings projects)]).Distinct :=
    ⟨List.nodup_singleton _, strings_distinct projects, trivial⟩
  rw [dictOf_entries hdistinct, scopePermitted, require_bind_eq_ok] at hpermitted
  obtain ⟨⟨selector, hselector, hallows⟩, -⟩ := hpermitted
  exact ⟨projects, hprojects, fun project hproject =>
    ⟨selector, hselector, selectorAllows_item hallows hproject⟩⟩

theorem projectsOf_ne_nil {request : CollectionRequest} {projects : List String}
    (h : projectsOf request = .ok projects) : projects ≠ [] := by
  unfold projectsOf at h
  split at h
  · cases h
    exact List.cons_ne_nil _ _
  · split at h
    · cases h
      exact List.cons_ne_nil _ _
    · cases h

end Granted

/-- The query that is sent for an accepted request is bounded by its projects, all of them
granted, exactly when each is an operand and the query of the request is blank or a conjunction
in its parentheses; and then it selects within the granted projects. -/
theorem bounded_iff (q : Jql) (a : RestAdapter) (exchange : Exchange)
    {real : FloatLiteral → FloatValue} {connectorInstance : ConnectorInstance}
    {grant : CollectionGrant} {request : CollectionRequest} {now : Timestamp}
    (hvalid : validate real connectorInstance grant ((adapter a).connector exchange) request now =
      .ok ()) :
    ∃ projects, projectsOf request = .ok projects ∧
      (∀ project ∈ projects, Granted real grant project) ∧
      ∃ text, (∀ rounds checkpoint,
          (collectPages a rounds request checkpoint).Calls (SendsJql text)) ∧
        (q.Bounded projects text ↔
          (∀ project ∈ projects, q.IsOperand project) ∧
            (suppliedJql a.py request = "" ∨ q.IsConjunction (suppliedJql a.py request))) ∧
        (q.Bounded projects text → ∀ issue, q.Selects text issue →
          ∃ project, Granted real grant project ∧ q.inProject project issue) := by
  obtain ⟨projects, hprojects, hgranted⟩ := granted_of_validate rfl hvalid
  refine ⟨projects, hprojects, hgranted, jql projects (suppliedJql a.py request),
    collectPages_calls hprojects, bounded_jql_iff (projectsOf_ne_nil hprojects), ?_⟩
  intro hbounded issue hselects
  obtain ⟨project, hproject, hissue⟩ := selects_of_bounded hbounded hselects
  exact ⟨project, hgranted project hproject, hissue⟩

/-! ### Text that closes the parentheses around it

A small part of the query language: words and quotations, comparisons of a field with a value, and
lists. -/

/-- A project, or a comparison of a field with values. -/
inductive SimpleClause where
  | projectIn (names : List String)
  | test (field comparison : String) (values : List String)

structure SimpleIssue where
  project : String
  status : String

def simpleAlphabet : Alphabet where
  classOf c :=
    match markOf c with
    | some t => .mark t
    | none =>
      if c = ' ' then .space
      else if c.toNat = 34 ∨ c.toNat = 39 then .quote
      else if c.isAlphanum ∨ c = '_' ∨ c = '-' then .run 0
      else .run 1
  word k s :=
    if k ≠ 0 then .keyword s
    else if s = "AND" ∨ s = "and" then .and
    else if s = "OR" ∨ s = "or" then .or
    else if s = "NOT" ∨ s = "not" then .not
    else if s = "IN" ∨ s = "in" then .keyword "in"
    else .operand s

def operands : List Token → Option (List String × List Token)
  | .operand name :: .rparen :: ts => some ([name], ts)
  | .operand name :: .comma :: ts => (operands ts).map fun r => (name :: r.1, r.2)
  | _ => none

def simpleTerminal : List Token → Option (SimpleClause × List Token)
  | .operand field :: .keyword comparison :: .lparen :: ts =>
    (operands ts).map fun r =>
      (if field = "project" ∧ comparison = "in" then .projectIn r.1
        else .test field comparison r.1, r.2)
  | .operand field :: .keyword comparison :: .operand value :: ts =>
    some (.test field comparison [value], ts)
  | _ => none

def SimpleClause.Sat : SimpleClause → SimpleIssue → Prop
  | .projectIn names, issue => issue.project ∈ names
  | .test field _ values, issue =>
    (if field = "project" then issue.project else issue.status) ∈ values

theorem operands_listed : ∀ {names : List String}, names ≠ [] → ∀ rest,
    operands (listed names ++ .rparen :: rest) = some (names, rest) := by
  intro names
  induction names with
  | nil => exact fun h => absurd rfl h
  | cons name names ih =>
    intro _ rest
    cases names with
    | nil => rfl
    | cons next names =>
      rw [listed, List.cons_append, List.cons_append, operands, ih (List.cons_ne_nil _ _)]
      rfl

theorem operands_eq_some (ts : List Token) : ∀ {names rest},
    operands ts = some (names, rest) → names ≠ [] ∧ ts = listed names ++ .rparen :: rest := by
  induction ts using operands.induct with
  | case1 name ts =>
    intro names rest h
    cases h
    exact ⟨List.cons_ne_nil _ _, rfl⟩
  | case2 name ts ih =>
    intro names rest h
    rw [operands] at h
    obtain ⟨⟨others, after⟩, hothers, heq⟩ := Option.map_eq_some_iff.mp h
    cases heq
    obtain ⟨hne, rfl⟩ := ih hothers
    refine ⟨List.cons_ne_nil _ _, ?_⟩
    cases others with
    | nil => exact absurd rfl hne
    | cons next others => rfl
  | case3 ts h1 h2 =>
    intro names rest h
    rw [operands] at h
    · cases h
    · exact h1
    · exact h2

theorem simple_mark {c : Char} {t : Token} (h : markOf c = some t) :
    simpleAlphabet.classOf c = .mark t := by
  show (match markOf c with
    | some t => CharClass.mark t
    | none => _) = _
  rw [h]

theorem simple_before {c : Char} {t : Token} (h : markOf c = some t) {text : List Char}
    {tokens : List Token} (htext : simpleAlphabet.lex text = some tokens) (rest : List Char) :
    simpleAlphabet.lex (text ++ c :: rest) =
      (simpleAlphabet.lex rest).map fun ts => tokens ++ t :: ts :=
  Alphabet.lex_before (simple_mark h) htext rest

theorem simple_unfinished {text : List Char} (h : simpleAlphabet.lex text = none) :
    simpleAlphabet.lex (text ++ [')']) = none :=
  Alphabet.lex_unfinished (t := .rparen) (simple_mark rfl) h

theorem simple_word {k : ℕ} {s name : String} (h : Token.operand name = simpleAlphabet.word k s) :
    name = s := by
  unfold simpleAlphabet at h
  dsimp only at h
  iterate 5
    split at h
    · cases h
  cases h
  rfl

theorem simple_operand {text : List Char} {name : String} {ts : List Token}
    (h : simpleAlphabet.lex text = some (.operand name :: ts)) :
    simpleAlphabet.lex name.toList = some [.operand name] := by
  rcases Alphabet.lex_own h with ⟨c, hc⟩ | ⟨own, hown, hname⟩
  · -- no punctuation mark and no other character is an operand
    unfold simpleAlphabet at hc
    dsimp only at hc
    unfold markOf at hc
    split at hc
    · rename_i t hmark
      cases hc
      split at hmark
      · cases hmark
      · split at hmark
        · cases hmark
        · split at hmark
          · cases hmark
          · cases hmark
    · split at hc
      · cases hc
      · split at hc
        · cases hc
        · split at hc
          · cases hc
          · cases hc
  · have hsame : name = String.ofList own := by
      rcases hname with hname | ⟨k, hname⟩
      · cases hname
        rfl
      · exact simple_word hname
    rw [hsame, String.toList_ofList, ← hsame]
    exact hown

theorem simple_shortens : Shortens simpleTerminal := by
  intro ts r h
  unfold simpleTerminal at h
  split at h
  · rename_i ts'
    obtain ⟨⟨names, rest⟩, hnames, rfl⟩ := Option.map_eq_some_iff.mp h
    obtain ⟨-, rfl⟩ := operands_eq_some ts' hnames
    simp only [List.length_cons, List.length_append]
    omega
  · cases h
    simp only [List.length_cons]
    omega
  · cases h

theorem simple_terminal_projectIn {names : List String} {rest : List Token} (h : names ≠ [])
    (_ : rest = [] ∨ rest.head? = some .rparen) :
    simpleTerminal (.operand "project" :: .keyword "in" :: .lparen ::
      (listed names ++ .rparen :: rest)) = some (.projectIn names, rest) := by
  rw [simpleTerminal, operands_listed h]
  rfl

theorem simple_projectIn_terminal {ts rest : List Token} {names : List String}
    (h : simpleTerminal (.operand "project" :: .keyword "in" :: .lparen :: ts) =
      some (.projectIn names, rest)) : names ≠ [] ∧ ts = listed names ++ .rparen :: rest := by
  rw [simpleTerminal] at h
  obtain ⟨⟨others, after⟩, hothers, heq⟩ := Option.map_eq_some_iff.mp h
  cases heq
  exact operands_eq_some ts hothers

theorem simple_sat {names : List String} {issue : SimpleIssue}
    (h : (SimpleClause.projectIn names).Sat issue) : ∃ name ∈ names, issue.project = name :=
  ⟨issue.project, h, rfl⟩

theorem simple_lex_projectIn :
    simpleAlphabet.lex "project in ".toList = some [.operand "project", .keyword "in"] := by
  decide +kernel

theorem simple_lex_and : simpleAlphabet.lex " AND ".toList = some [.and] := by
  decide +kernel

theorem simple_lex_nil : simpleAlphabet.lex [] = some [] := rfl

def simpleJql : Jql where
  Clause := SimpleClause
  Issue := SimpleIssue
  lex := simpleAlphabet.lex
  terminal := simpleTerminal
  sorting _ := false
  projectIn := .projectIn
  sat := SimpleClause.Sat
  negated _ _ := False
  inProject name issue := issue.project = name
  lex_nil := simple_lex_nil
  lex_before := simple_before
  lex_unfinished := simple_unfinished
  lex_operand := simple_operand
  lex_projectIn := simple_lex_projectIn
  lex_and := simple_lex_and
  terminal_shortens := simple_shortens
  terminal_projectIn := simple_terminal_projectIn
  projectIn_terminal := simple_projectIn_terminal
  sat_projectIn := simple_sat

/-- What `str` makes of text alone. -/
def simpleRuntime : Runtime where
  conversions := Conversions.plain
  acceptsNetloc _ := true
  unquote s := s
  upper s := s
  fromIsoFormat _ := none
  sha256 _ := ""

def simpleAdapter : RestAdapter where
  py := simpleRuntime
  instanceUrl := "https://jira.example"
  credential := []

def simpleRequest (query : String) : CollectionRequest where
  stream := "issues"
  scope := dictOf [("projects", strings ["FIN"])]
  parameters := dictOf [("jql", .str query)]

def simpleInstance : ConnectorInstance where
  connectorInstanceId := "cin_1"
  tenantId := "t"
  connectorKey := "jira"
  connectorType := "jira"
  displayName := "Jira"
  status := .active

def simpleGrant : CollectionGrant where
  grantId := "cgr_1"
  tenantId := "t"
  connectorInstanceId := "cin_1"
  grantKey := "jira"
  purpose := "change control"
  status := .active
  readOnly := true
  allowedStreams := ["issues"]
  resourceSelectors := dictOf [("projects", strings ["FIN"])]
  createdAt := 0

def simpleExchange : Exchange where
  rounds := 1
  checkedAt := 0
  health := []
  responses := []

theorem simple_scope_distinct : (Value.obj [("projects", strings ["FIN"])]).Distinct :=
  ⟨List.nodup_singleton _, strings_distinct ["FIN"], trivial⟩

theorem simple_projectsOf (query : String) : projectsOf (simpleRequest query) = .ok ["FIN"] := by
  unfold projectsOf CollectionRequest.scopeValue simpleRequest
  rw [dictOf_entries simple_scope_distinct]
  rfl

theorem simple_selectors : simpleGrant.resourceSelectors.entries = [("projects", strings ["FIN"])] :=
  dictOf_entries simple_scope_distinct

theorem simple_validate (query : String) :
    validate (fun _ => .nan) simpleInstance simpleGrant
      ((adapter simpleAdapter).connector simpleExchange) (simpleRequest query) 0 = .ok () := by
  have hscope : ((adapter simpleAdapter).connector simpleExchange).scopeFor (simpleRequest query) =
      .ok (dictOf [("projects", strings ["FIN"])]) := by
    have hsame : ((adapter simpleAdapter).connector simpleExchange).scopeFor = scopeFor := rfl
    rw [hsame, scopeFor, simple_projectsOf]
    rfl
  unfold validate
  refine require_bind_eq_ok.mpr ⟨rfl, require_bind_eq_ok.mpr ⟨rfl, ?_⟩⟩
  refine require_bind_eq_ok.mpr ⟨rfl, require_bind_eq_ok.mpr ⟨?_, ?_⟩⟩
  · intro expiresAt h
    cases h
  refine require_bind_eq_ok.mpr ⟨rfl, require_bind_eq_ok.mpr ⟨List.mem_cons_self, ?_⟩⟩
  refine require_bind_eq_ok.mpr ⟨List.mem_cons_self, bind_eq_ok.mpr ⟨_, hscope, ?_⟩⟩
  rw [dictOf_entries simple_scope_distinct, simple_selectors, scopePermitted, require_bind_eq_ok]
  refine ⟨⟨strings ["FIN"], rfl, ?_⟩, rfl⟩
  simp [strings, selectorAllows]

def simpleQuery : String := "status = Done"

theorem simple_supplied {query : String} {cs : List Char} (hchars : query = String.ofList cs)
    (hstrip : (cs.dropWhile PyString.isSpace).rdropWhile PyString.isSpace = cs) :
    suppliedJql simpleRuntime (simpleRequest query) = query := by
  have hget : get (simpleRequest query).parameters.entries "jql" = .str query := by
    have hdistinct : (Value.obj [("jql", .str query)]).Distinct :=
      ⟨List.nodup_singleton _, trivial, trivial⟩
    rw [simpleRequest, dictOf_entries hdistinct]
    rfl
  have htext : simpleRuntime.str (simpleRuntime.or (.str query) (.str "")) = query := by
    by_cases hempty : query = ""
    · subst hempty
      rfl
    · have htruthy : simpleRuntime.conversions.truthy (.str query) = true := by
        simp [JsonText.Conversions.truthy, hempty]
      rw [Runtime.or, if_pos htruthy]
      rfl
  rw [suppliedJql, hget, htext, PyString.strip, hchars, String.toList_ofList, hstrip]

theorem simple_isConjunction : simpleJql.IsConjunction simpleQuery := by
  have hlex : simpleJql.lex ("(" ++ simpleQuery ++ ")").toList =
      some [.lparen, .operand "status", .keyword "=", .operand "Done", .rparen] := by
    decide +kernel
  refine ⟨.last (.group (.last (.last (.clause (.test "status" "=" ["Done"]))))), ?_⟩
  rw [Jql.parse, hlex]
  rfl

/-- The search for the issues of a granted project that are done is bounded. -/
theorem bounded_sample : ∃ text,
    (∀ rounds checkpoint,
      (collectPages simpleAdapter rounds (simpleRequest simpleQuery) checkpoint).Calls
        (SendsJql text)) ∧
      simpleJql.Bounded ["FIN"] text := by
  obtain ⟨projects, hprojects, -, text, hsends, hbounded, -⟩ :=
    bounded_iff simpleJql simpleAdapter simpleExchange (simple_validate simpleQuery)
  rw [simple_projectsOf] at hprojects
  cases hprojects
  refine ⟨text, hsends, hbounded.mpr ⟨?_, .inr ?_⟩⟩
  · intro project hproject
    rw [List.mem_singleton.mp hproject]
    show simpleAlphabet.lex "FIN".toList = some [.operand "FIN"]
    decide +kernel
  · show simpleJql.IsConjunction (suppliedJql simpleRuntime (simpleRequest simpleQuery))
    have hchars : simpleQuery = String.ofList
        ['s', 't', 'a', 't', 'u', 's', ' ', '=', ' ', 'D', 'o', 'n', 'e'] := rfl
    rw [simple_supplied hchars (by decide)]
    exact simple_isConjunction

/-- Parentheses that close those of the adapter, and an alternative behind them. -/
def escapingQuery : String := "status = Done) OR (project = SECRET"

theorem escaping_parse : simpleJql.parse (jql ["FIN"] escapingQuery) =
    some (.or
      (.and (.group (.last (.last (.clause (.projectIn ["FIN"])))))
        (.last (.group (.last (.last (.clause (.test "status" "=" ["Done"])))))))
      (.last (.last (.group (.last (.last (.clause (.test "project" "=" ["SECRET"])))))))) := by
  have hlex : simpleJql.lex (jql ["FIN"] escapingQuery).toList =
      some (.lparen :: restriction (listed ["FIN"] ++ [.rparen, .rparen, .and, .lparen,
        .operand "status", .keyword "=", .operand "Done", .rparen, .or, .lparen,
        .operand "project", .keyword "=", .operand "SECRET", .rparen])) := by
    decide +kernel
  rw [Jql.parse, hlex]
  rfl

/-- The request is accepted, and its search is not bounded: it selects an issue of a project that
is not granted. -/
theorem escaping_not_bounded :
    validate (fun _ => .nan) simpleInstance simpleGrant
        ((adapter simpleAdapter).connector simpleExchange) (simpleRequest escapingQuery) 0 = .ok () ∧
      ∃ text, (∀ rounds checkpoint,
          (collectPages simpleAdapter rounds (simpleRequest escapingQuery) checkpoint).Calls
            (SendsJql text)) ∧
        ¬ simpleJql.Bounded ["FIN"] text ∧
        ∃ issue, simpleJql.Selects text issue ∧
          ∀ project, Granted (fun _ => .nan) simpleGrant project →
            ¬ simpleJql.inProject project issue := by
  have hsupplied : suppliedJql simpleRuntime (simpleRequest escapingQuery) = escapingQuery := by
    have hchars : escapingQuery = String.ofList
        ['s', 't', 'a', 't', 'u', 's', ' ', '=', ' ', 'D', 'o', 'n', 'e', ')', ' ', 'O', 'R',
          ' ', '(', 'p', 'r', 'o', 'j', 'e', 'c', 't', ' ', '=', ' ', 'S', 'E', 'C', 'R', 'E',
          'T'] := rfl
    exact simple_supplied hchars (by decide)
  refine ⟨simple_validate escapingQuery, jql ["FIN"] escapingQuery, ?_, ?_,
    { project := "SECRET", status := "Open" }, ⟨_, escaping_parse, .inr ?_⟩, ?_⟩
  · intro rounds checkpoint
    have hsends := collectPages_calls (a := simpleAdapter) (simple_projectsOf escapingQuery) rounds
      checkpoint
    change (collectPages simpleAdapter rounds (simpleRequest escapingQuery) checkpoint).Calls
      (SendsJql (jql ["FIN"] (suppliedJql simpleRuntime (simpleRequest escapingQuery)))) at hsends
    rwa [hsupplied] at hsends
  · rintro ⟨conjuncts, hparse, -⟩
    rw [escaping_parse] at hparse
    cases hparse
  · exact List.mem_cons_self
  · rintro project ⟨selector, hselector, hallows⟩ hissue
    rw [simple_selectors] at hselector
    cases hselector
    change "SECRET" = project at hissue
    subst hissue
    simp [strings, selectorAllows, oneObject] at hallows

end Connectors.Jira
