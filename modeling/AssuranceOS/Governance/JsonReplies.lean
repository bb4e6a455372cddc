/-
The object of a reply (`extract_json_object` in `governance/models_client.py`).

A reply holds a text of the object, within prose that has neither braces nor backticks, or as the
body of a code block (`Placement`).  The object is read from the first code block of the reply, and
without one from the first opening brace to the last closing one; a block that is no object leaves
the whole reply to be read.  A string of the object can hold a code block itself:

* `searchBlock_prose` — within prose, the blocks of the reply are those of the object's text;
* `fencedBody_within`, `fencedBody_whole` — a block ends at the first brace that a fence follows;
* `extractJsonObject_iff` — when the object of the reply comes back.
-/
import AssuranceOS.Governance.OutputScreening
import AssuranceOS.Lib.JsonPrefix

namespace Governance

open JsonText PyString

/-- A text of the object, without blanks around it. -/
structure ObjectText (o : Object) where
  text : List Char
  loads_text : loads text = some (.obj o)
  opens : text.head? = some '\x7b'
  closes : text.getLast? = some '\x7d'

/-- Prose without braces and backticks. -/
structure Prose where
  text : List Char
  plain : ∀ c ∈ text, c ≠ '\x7b' ∧ c ≠ '\x7d' ∧ c ≠ '`'

/-- Whitespace. -/
structure Blanks where
  text : List Char
  space : ∀ c ∈ text, isSpace c

def Prose.none : Prose := ⟨[], by simp⟩

def fence : List Char := ['`', '`', '`']

/-- Where the text of the object stands in the reply. -/
inductive Placement where
  | prose (before after : Prose)
  /-- the body of one code block, which may be marked as JSON -/
  | block (before : Prose) (marked : Bool) (lead trail : Blanks) (after : Prose)

def Placement.alone : Placement := .prose .none .none

/-- The reply in which the text `cs` of the object is placed so. -/
def Placement.reply (cs : List Char) : Placement → List Char
  | .prose before after => before.text ++ (cs ++ after.text)
  | .block before marked lead trail after =>
    before.text ++ (fence ++ ((if marked then ['j', 's', 'o', 'n'] else []) ++
      (lead.text ++ (cs ++ (trail.text ++ (fence ++ after.text))))))

/-- A closing brace of the text that a fence of the text follows. -/
def EndsBlock (cs : List Char) : Prop :=
  ∃ front gap back, cs = front ++ '\x7d' :: (gap ++ (fence ++ back)) ∧ ∀ c ∈ gap, isSpace c

/-- When the object is read from the reply. -/
def Placement.Recovers {o : Object} (s : ObjectText o) : Placement → Prop
  | .prose before after => ∀ block, searchBlock s.text = some block →
      loads block = some (.obj o) ∨
        loads block = none ∧ (∀ c ∈ before.text, isSpace c) ∧ ∀ c ∈ after.text, isSpace c
  | .block _ _ _ _ _ => ¬ EndsBlock s.text

/-! ### Code blocks -/

variable {cs block : List Char} {c : Char} {o : Object}
variable {rest before a x : List Char}

theorem prefix_append_brace {front : List Char} (hfront : '\x7d' ∉ front) :
    front <+: cs ++ '\x7d' :: rest ↔ front <+: cs := by
  induction front generalizing cs with
  | nil => simp
  | cons c front ih =>
    simp only [List.mem_cons, not_or] at hfront
    cases cs with
    | nil => simp [List.cons_prefix_cons, Ne.symm hfront.1]
    | cons d cs => simp only [List.cons_append, List.cons_prefix_cons, ih hfront.2]

theorem dropWhile_space_brace (cs rest : List Char) :
    (cs ++ '\x7d' :: rest).dropWhile isSpace = cs.dropWhile isSpace ++ '\x7d' :: rest := by
  induction cs with
  | nil => rfl
  | cons c cs ih =>
    by_cases hc : isSpace c
    · rw [List.cons_append, List.dropWhile_cons_of_pos hc, List.dropWhile_cons_of_pos hc, ih]
    · rw [List.cons_append, List.dropWhile_cons_of_neg hc, List.dropWhile_cons_of_neg hc,
        List.cons_append]

theorem fence_follows_iff (cs rest : List Char) :
    ['`', '`', '`'] <+: (cs ++ '\x7d' :: rest).dropWhile isSpace ↔
      ['`', '`', '`'] <+: cs.dropWhile isSpace := by
  rw [dropWhile_space_brace]
  exact prefix_append_brace (by decide)

theorem exists_gap (h : ['`', '`', '`'] <+: cs.dropWhile isSpace) :
    ∃ gap back, cs = gap ++ (fence ++ back) ∧ ∀ c ∈ gap, isSpace c := by
  obtain ⟨back, hback⟩ := h
  refine ⟨cs.takeWhile isSpace, back, ?_, fun c hc => List.mem_takeWhile_imp hc⟩
  rw [fence, hback, List.takeWhile_append_dropWhile]

theorem fencedBody_whole {body : List Char} (hnone : ¬ EndsBlock (body ++ ['\x7d']))
    (hrest : fence <+: rest.dropWhile isSpace) :
    fencedBody (body ++ '\x7d' :: rest) = some (body ++ ['\x7d']) := by
  induction body with
  | nil => exact if_pos ⟨rfl, hrest⟩
  | cons c body ih =>
    have hgoes : ¬ (c = '\x7d' ∧ ['`', '`', '`'] <+: (body ++ '\x7d' :: rest).dropWhile isSpace) := by
      rintro ⟨rfl, hfence⟩
      obtain ⟨gap, back, rfl, hgap⟩ := exists_gap ((fence_follows_iff body rest).mp hfence)
      exact hnone ⟨[], gap, back ++ ['\x7d'], by simp, hgap⟩
    have hinner : ¬ EndsBlock (body ++ ['\x7d']) := by
      rintro ⟨front, gap, back, heq, hgap⟩
      exact hnone ⟨c :: front, gap, back, by rw [List.cons_append, heq, List.cons_append], hgap⟩
    rw [List.cons_append, fencedBody, if_neg hgoes, ih hinner]
    rfl

theorem fencedBody_within {front gap back : List Char} (hgap : ∀ c ∈ gap, isSpace c) :
    ∃ body more, fencedBody (front ++ '\x7d' :: (gap ++ (fence ++ back))) = some body ∧
      body ++ more = front ++ ['\x7d'] := by
  induction front with
  | nil =>
    have hfence : ['`', '`', '`'] <+: (gap ++ (fence ++ back)).dropWhile isSpace := by
      rw [List.dropWhile_append_of_pos hgap]
      exact ⟨back, rfl⟩
    exact ⟨['\x7d'], [], if_pos ⟨rfl, hfence⟩, rfl⟩
  | cons c front ih =>
    rw [List.cons_append, fencedBody]
    by_cases hends : c = '\x7d' ∧
        ['`', '`', '`'] <+: (front ++ '\x7d' :: (gap ++ (fence ++ back))).dropWhile isSpace
    · rw [if_pos hends]
      exact ⟨[c], front ++ ['\x7d'], rfl, rfl⟩
    · rw [if_neg hends]
      obtain ⟨body, more, hbody, hmore⟩ := ih
      exact ⟨c :: body, more, by rw [hbody]; rfl, by rw [List.cons_append, hmore, List.cons_append]⟩

theorem not_fence_of_plain (h : ∀ c ∈ cs, c ≠ '`') :
    ¬ ['`', '`', '`'] <+: cs := by
  rintro ⟨rest, rfl⟩
  exact h '`' (by simp) rfl

theorem fencedBody_of_plain (h : ∀ c ∈ cs, c ≠ '\x7d') : fencedBody cs = none := by
  induction cs with
  | nil => rfl
  | cons c cs ih =>
    have hc := h c List.mem_cons_self
    rw [fencedBody, if_neg fun hends => hc hends.1, ih fun d hd => h d (List.mem_cons_of_mem _ hd)]
    rfl

theorem searchBlock_append (h : ∀ c ∈ before, c ≠ '`') (cs : List Char) :
    searchBlock (before ++ cs) = searchBlock cs := by
  induction before with
  | nil => rfl
  | cons c before ih =>
    have hc : ¬ ['`', '`', '`'] <+: c :: (before ++ cs) := by
      rintro ⟨rest, heq⟩
      exact h c List.mem_cons_self (List.cons.inj heq).1.symm
    rw [List.cons_append, searchBlock, fencedBlock, if_neg hc]
    exact ih fun d hd => h d (List.mem_cons_of_mem _ hd)

section

variable (after : Prose)

theorem Prose.no_backtick : ∀ c ∈ after.text, c ≠ '`' := fun c hc => (after.plain c hc).2.2

theorem fencedBody_prose (cs : List Char) :
    fencedBody (cs ++ '\x7d' :: after.text) = fencedBody (cs ++ ['\x7d']) := by
  induction cs with
  | nil =>
    have hspace : ∀ c ∈ after.text.dropWhile isSpace, c ≠ '`' := fun c hc =>
      after.no_backtick c ((List.dropWhile_sublist _).subset hc)
    have hgoes : ¬ ('\x7d' = '\x7d' ∧ ['`', '`', '`'] <+: after.text.dropWhile isSpace) :=
      fun hends => not_fence_of_plain hspace hends.2
    rw [List.nil_append, fencedBody, if_neg hgoes,
      fencedBody_of_plain fun c hc => (after.plain c hc).2.1]
    rfl
  | cons c cs ih =>
    have hfence := (fence_follows_iff cs after.text).trans (fence_follows_iff cs []).symm
    simp only [List.cons_append, fencedBody, hfence, ih]

/-- What stands behind the mark of a block is read alike. -/
theorem markedBody_prose (es : List Char) :
    (match (es ++ '\x7d' :: after.text).dropWhile isSpace with
      | '\x7b' :: body => (fencedBody body).map ('\x7b' :: ·)
      | _ => none) =
    match (es ++ ['\x7d']).dropWhile isSpace with
      | '\x7b' :: body => (fencedBody body).map ('\x7b' :: ·)
      | _ => none := by
  rw [dropWhile_space_brace, dropWhile_space_brace]
  cases es.dropWhile isSpace with
  | nil => rfl
  | cons c es =>
    by_cases hc : c = '\x7b'
    · subst hc
      simp only [List.cons_append, fencedBody_prose]
    · simp [hc]

theorem fencedBlock_prose (cs : List Char) :
    fencedBlock (cs ++ '\x7d' :: after.text) = fencedBlock (cs ++ ['\x7d']) := by
  have hfence : ∀ rest, ['`', '`', '`'] <+: cs ++ '\x7d' :: rest ↔ ['`', '`', '`'] <+: cs :=
    fun rest => prefix_append_brace (by decide)
  by_cases hopens : ['`', '`', '`'] <+: cs
  · obtain ⟨ds, rfl⟩ := hopens
    have hmark : ∀ rest, ['j', 's', 'o', 'n'] <+: ds ++ '\x7d' :: rest ↔ ['j', 's', 'o', 'n'] <+: ds :=
      fun rest => prefix_append_brace (by decide)
    simp only [fencedBlock, (hfence _).mpr ⟨ds, rfl⟩, ↓reduceIte]
    by_cases hmarked : ['j', 's', 'o', 'n'] <+: ds
    · obtain ⟨es, rfl⟩ := hmarked
      have hdrop : ∀ rest, (['`', '`', '`'] ++ (['j', 's', 'o', 'n'] ++ es) ++ '\x7d' :: rest).drop 3 =
          ['j', 's', 'o', 'n'] ++ es ++ '\x7d' :: rest := fun rest => rfl
      have hskip : ∀ rest, (['j', 's', 'o', 'n'] ++ es ++ '\x7d' :: rest).drop 4 = es ++ '\x7d' :: rest :=
        fun rest => rfl
      simp only [hdrop, (hmark _).mpr ⟨es, rfl⟩, ↓reduceIte, hskip]
      exact markedBody_prose after es
    · have hdrop : ∀ rest, (['`', '`', '`'] ++ ds ++ '\x7d' :: rest).drop 3 = ds ++ '\x7d' :: rest :=
        fun rest => rfl
      simp only [hdrop, if_neg (mt (hmark _).mp hmarked)]
      exact markedBody_prose after ds
  · rw [fencedBlock, if_neg (mt (hfence _).mp hopens), fencedBlock, if_neg (mt (hfence _).mp hopens)]

theorem searchBlock_of_plain (h : ∀ c ∈ cs, c ≠ '`') : searchBlock cs = none := by
  rw [← List.append_nil cs, searchBlock_append h]
  rfl

theorem searchBlock_prose (cs : List Char) :
    searchBlock (cs ++ '\x7d' :: after.text) = searchBlock (cs ++ ['\x7d']) := by
  induction cs with
  | nil =>
    rw [List.nil_append, List.nil_append, searchBlock_of_plain, searchBlock_of_plain]
    · simp
    · simpa using after.no_backtick
  | cons c cs ih =>
    have hhere := fencedBlock_prose after (c :: cs)
    rw [List.cons_append, List.cons_append] at hhere
    rw [List.cons_append, List.cons_append, searchBlock, searchBlock, hhere, ih]

end

theorem fencedBlock_brace (h : fencedBlock cs = some block) :
    ∃ body, block = '\x7b' :: body := by
  unfold fencedBlock at h
  split at h
  · dsimp only at h
    split at h
    · obtain ⟨body, -, rfl⟩ := Option.map_eq_some_iff.mp h
      exact ⟨body, rfl⟩
    · cases h
  · cases h

theorem searchBlock_brace (h : searchBlock cs = some block) :
    ∃ body, block = '\x7b' :: body := by
  induction cs with
  | nil => cases h
  | cons c cs ih =>
    rw [searchBlock] at h
    cases hhere : fencedBlock (c :: cs) with
    | none =>
      rw [hhere] at h
      exact ih h
    | some found =>
      rw [hhere] at h
      obtain rfl := Option.some.inj h
      exact fencedBlock_brace hhere

theorem split_unique {α : Type} {c : α} {a b x y : List α} (ha : c ∉ a) (hb : c ∉ b)
    (h : a ++ c :: x = b ++ c :: y) : a = b := by
  induction a generalizing b with
  | nil =>
    cases b with
    | nil => rfl
    | cons d b =>
      obtain ⟨rfl, -⟩ := List.cons.inj h
      exact absurd List.mem_cons_self hb
  | cons d a ih =>
    cases b with
    | nil =>
      obtain ⟨rfl, -⟩ := List.cons.inj h
      exact absurd List.mem_cons_self ha
    | cons e b =>
      simp only [List.mem_cons, not_or] at ha hb
      obtain ⟨rfl, htail⟩ := List.cons.inj h
      rw [ih ha.2 hb.2 htail]

theorem exists_strip (cs : List Char) : ∃ lead core trail, cs = lead ++ (core ++ trail) ∧
    (∀ c ∈ lead, isSpace c) ∧ (∀ c ∈ trail, isSpace c) ∧ strip (String.ofList cs) = String.ofList core ∧
      (∀ c ∈ core.head?, ¬ isSpace c) ∧ ∀ c ∈ core.getLast?, ¬ isSpace c := by
  have hfront : cs.takeWhile isSpace ++ cs.dropWhile isSpace = cs := List.takeWhile_append_dropWhile
  have hback : (cs.dropWhile isSpace).rdropWhile isSpace ++ (cs.dropWhile isSpace).rtakeWhile isSpace =
      cs.dropWhile isSpace := List.rdropWhile_append_rtakeWhile
  refine ⟨cs.takeWhile isSpace, (cs.dropWhile isSpace).rdropWhile isSpace,
    (cs.dropWhile isSpace).rtakeWhile isSpace, by rw [hback, hfront],
    fun c hc => List.mem_takeWhile_imp hc, fun c hc => List.mem_rtakeWhile_imp hc, ?_, ?_, ?_⟩
  · rw [strip, String.toList_ofList]
  · intro c hc hspace
    have hhead := List.head?_dropWhile_not isSpace cs
    obtain ⟨rest, hrest⟩ := List.rdropWhile_prefix isSpace (l := cs.dropWhile isSpace)
    have hne : (cs.dropWhile isSpace).rdropWhile isSpace ≠ [] := by
      intro hnil
      simp [hnil] at hc
    rw [← hrest, List.head?_append_of_ne_nil _ hne, Option.mem_def.mp hc] at hhead
    exact absurd hspace (by simpa using hhead)
  · intro c hc
    have hne : (cs.dropWhile isSpace).rdropWhile isSpace ≠ [] := by
      intro hnil
      simp [hnil] at hc
    have hlast := List.rdropWhile_last_not isSpace _ hne
    rw [List.getLast?_eq_getLast_of_ne_nil hne, Option.mem_some_iff] at hc
    rwa [← hc]

theorem isSpace_of_isBlank (h : JsonText.isBlank c) : isSpace c := by
  simp only [JsonText.isBlank, Bool.or_eq_true, decide_eq_true_eq] at h
  rcases h with ((rfl | rfl) | rfl) | rfl <;> rfl

theorem strip_obj (h : loads (strip (String.ofList cs)).toList = some (.obj o)) :
    ∃ lead core trail, (∀ c ∈ lead, isSpace c) ∧ (∀ c ∈ trail, isSpace c) ∧
      cs = lead ++ '\x7b' :: (core ++ '\x7d' :: trail) := by
  obtain ⟨lead, core, trail, rfl, hlead, htrail, hstrip, hhead, hlast⟩ := exists_strip cs
  rw [hstrip, String.toList_ofList] at h
  obtain ⟨body, rest, hskip, hrest⟩ := loads_obj h
  have hcore : core = '\x7b' :: (body ++ '\x7d' :: rest) := by
    cases core with
    | nil => cases hskip
    | cons c core =>
      have hc : ¬ JsonText.isBlank c := fun hblank => hhead c rfl (isSpace_of_isBlank hblank)
      rwa [skip_cons hc] at hskip
  have hnone : rest = [] := by
    by_contra hne
    have hmem : rest.getLast hne ∈ core.getLast? := by
      rw [hcore, ← List.cons_append, List.getLast?_append_of_ne_nil _ (by simp),
        List.getLast?_cons_of_ne_nil hne, List.getLast?_eq_getLast_of_ne_nil hne]
      rfl
    exact hlast _ hmem (isSpace_of_isBlank (hrest _ (List.getLast_mem hne)))
  subst hnone
  exact ⟨lead, body, trail, hlead, htrail, by rw [hcore]; simp⟩

theorem brace_not_space (hc : c = '\x7b' ∨ c = '\x7d') (h : ∀ d ∈ cs, isSpace d) : c ∉ cs := by
  intro hmem
  have hspace := h c hmem
  rcases hc with rfl | rfl <;> exact absurd hspace (by decide)

theorem space_before_of_strip (ha : '\x7b' ∉ a)
    (h : loads (strip (String.ofList (a ++ '\x7b' :: x))).toList = some (.obj o)) :
    ∀ c ∈ a, isSpace c := by
  obtain ⟨lead, core, trail, hlead, -, heq⟩ := strip_obj h
  rw [split_unique ha (brace_not_space (Or.inl rfl) hlead) heq]
  exact hlead

theorem space_after_of_strip {b : List Char} (hb : '\x7d' ∉ b)
    (h : loads (strip (String.ofList (x ++ '\x7d' :: b))).toList = some (.obj o)) :
    ∀ c ∈ b, isSpace c := by
  obtain ⟨lead, core, trail, -, htrail, heq⟩ := strip_obj h
  have hreverse : b.reverse ++ '\x7d' :: x.reverse =
      trail.reverse ++ '\x7d' :: (core.reverse ++ '\x7b' :: lead.reverse) := by
    simpa using congrArg List.reverse heq
  have hsame := split_unique (by simpa using hb)
    (by simpa using brace_not_space (Or.inr rfl) htrail) hreverse
  rw [List.reverse_inj.mp hsame]
  exact htrail

/-! ### The object of the reply -/

theorem dropWhile_ne_append (ha : c ∉ a) (x : List Char) :
    (a ++ c :: x).dropWhile (fun d => d ≠ c) = c :: x := by
  rw [List.dropWhile_append_of_pos]
  · simp
  · intro d hd
    simpa using fun heq : d = c => ha (heq ▸ hd)

theorem bareObject_between {after : List Char} (hbefore : '\x7b' ∉ before) (hafter : '\x7d' ∉ after)
    (body : List Char) :
    bareObject (before ++ '\x7b' :: (body ++ '\x7d' :: after)) =
      some ('\x7b' :: (body ++ ['\x7d'])) := by
  have hback : ('\x7b' :: (body ++ '\x7d' :: after)).rdropWhile (fun c => c ≠ '\x7d') =
      '\x7b' :: (body ++ ['\x7d']) := by
    have hreverse := dropWhile_ne_append (c := '\x7d') (a := after.reverse) (by simpa using hafter)
      (body.reverse ++ ['\x7b'])
    have hmirror : ('\x7b' :: (body ++ '\x7d' :: after)).reverse =
        after.reverse ++ '\x7d' :: (body.reverse ++ ['\x7b']) := by simp
    rw [List.rdropWhile, hmirror, hreverse]
    simp
  rw [bareObject, dropWhile_ne_append hbefore, hback, if_neg (by simp)]

theorem ObjectText.exists_body (s : ObjectText o) :
    ∃ body, s.text = '\x7b' :: (body ++ ['\x7d']) := by
  obtain ⟨text, -, hopens, hcloses⟩ := s
  cases text with
  | nil => cases hopens
  | cons c cs =>
    obtain rfl : c = '\x7b' := by simpa using hopens
    cases hcs : cs.reverse with
    | nil =>
      rw [List.reverse_eq_nil_iff.mp hcs] at hcloses
      simp at hcloses
    | cons d ds =>
      have hsplit : cs = ds.reverse ++ [d] := by
        rw [← List.reverse_cons, ← hcs, List.reverse_reverse]
      subst hsplit
      obtain rfl : d = '\x7d' := by
        rw [← List.cons_append, List.getLast?_concat] at hcloses
        exact Option.some.inj hcloses
      exact ⟨ds.reverse, rfl⟩

section

variable {I W : Type} {rt : GovernedAgentRuntime I W} {o : Object}

theorem extractJsonObject_found (hloads : ∀ cs, rt.loads cs = .ok (loads cs)) {cs blob : List Char}
    {found : Object} (hne : cs ≠ [])
    (hblob : ((searchBlock cs).orElse fun _ => bareObject cs) = some blob)
    (hfound : loads blob = some (.obj found)) :
    rt.extractJsonObject (String.ofList cs) = .ok (some found) := by
  have htext : String.ofList cs ≠ "" := by
    intro heq
    exact hne (by simpa using congrArg String.toList heq)
  rw [GovernedAgentRuntime.extractJsonObject, if_neg htext, String.toList_ofList, hblob]
  simp only [hloads, hfound]
  rfl

theorem extractJsonObject_unread (hloads : ∀ cs, rt.loads cs = .ok (loads cs)) {blob : List Char}
    (hne : cs ≠ []) (hblob : ((searchBlock cs).orElse fun _ => bareObject cs) = some blob)
    (hnone : loads blob = none) :
    rt.extractJsonObject (String.ofList cs) = .ok (some o) ↔
      loads (strip (String.ofList cs)).toList = some (.obj o) := by
  have htext : String.ofList cs ≠ "" := by
    intro heq
    exact hne (by simpa using congrArg String.toList heq)
  have hwhole : rt.extractJsonObject (String.ofList cs) =
      .ok ((loads (strip (String.ofList cs)).toList).bind asObject) := by
    rw [GovernedAgentRuntime.extractJsonObject, if_neg htext, String.toList_ofList, hblob]
    simp only [hloads, hnone]
    rfl
  rw [hwhole]
  cases loads (strip (String.ofList cs)).toList with
  | none => simp
  | some v => cases v <;> simp [asObject]

theorem extractJsonObject_prose (hloads : ∀ cs, rt.loads cs = .ok (loads cs)) (s : ObjectText o)
    (before after : Prose) :
    rt.extractJsonObject (String.ofList ((Placement.prose before after).reply s.text)) =
      .ok (some o) ↔ (Placement.prose before after).Recovers s := by
  obtain ⟨body, hbody⟩ := s.exists_body
  have hbefore : '\x7b' ∉ before.text := fun hmem => (before.plain _ hmem).1 rfl
  have hafter : '\x7d' ∉ after.text := fun hmem => (after.plain _ hmem).2.1 rfl
  have hreply : (Placement.prose before after).reply s.text =
      before.text ++ '\x7b' :: (body ++ '\x7d' :: after.text) := by
    simp [Placement.reply, hbody]
  have hne : before.text ++ '\x7b' :: (body ++ '\x7d' :: after.text) ≠ [] := by simp
  have hsearch : searchBlock (before.text ++ '\x7b' :: (body ++ '\x7d' :: after.text)) =
      searchBlock s.text := by
    rw [searchBlock_append before.no_backtick, hbody, ← List.cons_append, searchBlock_prose,
      List.cons_append]
  rw [hreply]
  cases hblock : searchBlock s.text with
  | none =>
    -- the braces of the object are the first and the last ones of the reply
    have hfound := extractJsonObject_found hloads hne
      (by rw [hsearch, hblock]; exact bareObject_between hbefore hafter body)
      (hbody ▸ s.loads_text)
    rw [hfound]
    simp [Placement.Recovers, hblock]
  | some block =>
    have hblob : ((searchBlock (before.text ++ '\x7b' :: (body ++ '\x7d' :: after.text))).orElse
        fun _ => bareObject (before.text ++ '\x7b' :: (body ++ '\x7d' :: after.text))) = some block := by
      rw [hsearch, hblock]
      rfl
    obtain ⟨inner, rfl⟩ := searchBlock_brace hblock
    cases hread : loads ('\x7b' :: inner) with
    | some v =>
      -- a block of its own, which is an object
      obtain ⟨found, rfl⟩ := loads_brace hread
      have hfound := extractJsonObject_found hloads hne hblob hread
      rw [hfound]
      simp [Placement.Recovers, hblock, hread]
    | none =>
      -- a block that is none: the reply is read as a whole
      rw [extractJsonObject_unread hloads hne hblob hread]
      have hrecovers : (Placement.prose before after).Recovers s ↔
          (∀ c ∈ before.text, isSpace c) ∧ ∀ c ∈ after.text, isSpace c := by
        simp [Placement.Recovers, hblock, hread]
      rw [hrecovers]
      constructor
      · intro hwhole
        refine ⟨space_before_of_strip hbefore hwhole, space_after_of_strip (x := before.text ++
          '\x7b' :: body) hafter (o := o) ?_⟩
        rwa [List.append_assoc, List.cons_append]
      · rintro ⟨hlead, htrail⟩
        have hpadded := @strip_padded _ s.text _ hlead htrail
          (by rw [s.opens]; rintro _ ⟨⟩; decide) (by rw [s.closes]; rintro _ ⟨⟩; decide)
        have htext : before.text ++ '\x7b' :: (body ++ '\x7d' :: after.text) =
            before.text ++ s.text ++ after.text := by simp [hbody]
        rw [htext, hpadded, String.toList_ofList, s.loads_text]

theorem fencedBlock_fence (marked : Bool) (lead : Blanks) (x : List Char) :
    fencedBlock (fence ++ ((if marked then ['j', 's', 'o', 'n'] else []) ++
      (lead.text ++ '\x7b' :: x))) = (fencedBody x).map ('\x7b' :: ·) := by
  have hdrop : (lead.text ++ '\x7b' :: x).dropWhile isSpace = '\x7b' :: x :=
    dropWhile_space lead.space (by rintro _ ⟨⟩; decide)
  have hunmarked : ¬ ['j', 's', 'o', 'n'] <+: lead.text ++ '\x7b' :: x := by
    rintro ⟨rest, heq⟩
    cases hlead : lead.text with
    | nil =>
      rw [hlead] at heq
      exact absurd (List.cons.inj heq).1 (by decide)
    | cons c cs =>
      rw [hlead] at heq
      have hspace := lead.space c (hlead ▸ List.mem_cons_self)
      rw [← (List.cons.inj heq).1] at hspace
      exact absurd hspace (by decide)
  cases marked with
  | false =>
    have hfence : ['`', '`', '`'] <+: fence ++ (lead.text ++ '\x7b' :: x) := ⟨_, rfl⟩
    have hrest : (fence ++ (lead.text ++ '\x7b' :: x)).drop 3 = lead.text ++ '\x7b' :: x := rfl
    simp only [Bool.false_eq_true, ↓reduceIte, List.nil_append, fencedBlock, hfence, hrest,
      if_neg hunmarked, hdrop]
  | true =>
    have hfence : ['`', '`', '`'] <+: fence ++ (['j', 's', 'o', 'n'] ++ (lead.text ++ '\x7b' :: x)) :=
      ⟨_, rfl⟩
    have hrest : (fence ++ (['j', 's', 'o', 'n'] ++ (lead.text ++ '\x7b' :: x))).drop 3 =
        ['j', 's', 'o', 'n'] ++ (lead.text ++ '\x7b' :: x) := rfl
    have hmark : ['j', 's', 'o', 'n'] <+: ['j', 's', 'o', 'n'] ++ (lead.text ++ '\x7b' :: x) := ⟨_, rfl⟩
    have hbehind : (['j', 's', 'o', 'n'] ++ (lead.text ++ '\x7b' :: x)).drop 4 =
        lead.text ++ '\x7b' :: x := rfl
    simp only [↓reduceIte, fencedBlock, hfence, hrest, hmark, hbehind, hdrop]

theorem extractJsonObject_block (hloads : ∀ cs, rt.loads cs = .ok (loads cs)) (s : ObjectText o)
    (before : Prose) (marked : Bool) (lead trail : Blanks) (after : Prose) :
    rt.extractJsonObject (String.ofList
        ((Placement.block before marked lead trail after).reply s.text)) = .ok (some o) ↔
      (Placement.block before marked lead trail after).Recovers s := by
  obtain ⟨body, hbody⟩ := s.exists_body
  -- the reply, at the opening brace of the object
  set mark := if marked then ['j', 's', 'o', 'n'] else []
  set ends := trail.text ++ (fence ++ after.text)
  set opening := before.text ++ (fence ++ (mark ++ lead.text))
  have hreply : (Placement.block before marked lead trail after).reply s.text =
      opening ++ '\x7b' :: (body ++ '\x7d' :: ends) := by
    simp [Placement.reply, hbody, mark, ends, opening]
  have hne : opening ++ '\x7b' :: (body ++ '\x7d' :: ends) ≠ [] := by simp
  have hbacktick : '`' ∈ opening := by simp [opening, fence]
  have hbrace : '\x7b' ∉ opening := by
    have hbefore : '\x7b' ∉ before.text := fun hmem => (before.plain _ hmem).1 rfl
    have hlead : '\x7b' ∉ lead.text := brace_not_space (Or.inl rfl) lead.space
    cases marked <;> simp [opening, fence, mark, hbefore, hlead]
  have hsearch : ∀ block, fencedBody (body ++ '\x7d' :: ends) = some block →
      ((searchBlock (opening ++ '\x7b' :: (body ++ '\x7d' :: ends))).orElse fun _ =>
        bareObject (opening ++ '\x7b' :: (body ++ '\x7d' :: ends))) = some ('\x7b' :: block) := by
    intro block hblock
    have hfence := fencedBlock_fence marked lead (body ++ '\x7d' :: ends)
    rw [hblock, Option.map_some] at hfence
    have hopening : opening ++ '\x7b' :: (body ++ '\x7d' :: ends) =
        before.text ++ (fence ++ (mark ++ (lead.text ++ '\x7b' :: (body ++ '\x7d' :: ends)))) := by
      simp [opening]
    rw [hopening, searchBlock_append before.no_backtick]
    show ((fencedBlock (fence ++ (mark ++ (lead.text ++ '\x7b' :: (body ++ '\x7d' :: ends))))).orElse
      fun _ => searchBlock _).orElse _ = _
    rw [hfence]
    rfl
  rw [hreply]
  by_cases hends : EndsBlock s.text
  · -- the block ends too early, and neither it nor the reply is an object
    refine iff_of_false ?_ (fun hrecovers => hrecovers hends)
    obtain ⟨front, gap, back, heq, hgap⟩ := hends
    obtain ⟨front, rfl⟩ : ∃ ds, front = '\x7b' :: ds := by
      rw [hbody] at heq
      cases front with
      | nil => exact absurd (List.cons.inj heq).1 (by decide)
      | cons c ds => exact ⟨ds, by rw [← (List.cons.inj heq).1]⟩
    have hinner : body ++ ['\x7d'] = front ++ '\x7d' :: (gap ++ (fence ++ back)) := by
      rw [hbody] at heq
      exact (List.cons.inj heq).2
    have hwhole : body ++ '\x7d' :: ends = front ++ '\x7d' :: (gap ++ (fence ++ (back ++ ends))) := by
      have happend := congrArg (· ++ ends) hinner
      simpa using happend
    obtain ⟨block, more, hblock, hmore⟩ := @fencedBody_within front _ (back ++ ends) hgap
    rw [← hwhole] at hblock
    have hnone : loads ('\x7b' :: block) = none := by
      cases hread : loads ('\x7b' :: block) with
      | none => rfl
      | some v =>
        have htext : s.text = '\x7b' :: (block ++ (more ++ (gap ++ (fence ++ back)))) := by
          rw [heq, ← List.append_assoc block, hmore]
          simp
        have hblank := loads_append hread (htext ▸ s.loads_text) '`' (by simp [fence])
        exact absurd hblank (by decide)
    rw [extractJsonObject_unread hloads hne (hsearch block hblock) hnone]
    intro hread
    exact absurd (space_before_of_strip hbrace hread '`' hbacktick) (by decide)
  · have hbodyends : ¬ EndsBlock (body ++ ['\x7d']) := by
      rintro ⟨front, gap, back, heq, hgap⟩
      exact hends ⟨'\x7b' :: front, gap, back, by rw [hbody, heq, List.cons_append], hgap⟩
    have hfence : fence <+: ends.dropWhile isSpace := by
      rw [List.dropWhile_append_of_pos trail.space]
      exact ⟨after.text, rfl⟩
    have hfound := extractJsonObject_found hloads hne
      (hsearch _ (fencedBody_whole hbodyends hfence)) (hbody ▸ s.loads_text)
    exact iff_of_true hfound hends

end

theorem fencedBlock_fenced (h : fencedBlock cs = some block) : fence <+: cs := by
  unfold fencedBlock at h
  split at h
  · assumption
  · cases h

theorem searchBlock_fenced (h : searchBlock cs = some block) :
    fence <:+: cs := by
  induction cs with
  | nil => cases h
  | cons c cs ih =>
    rw [searchBlock] at h
    cases hhere : fencedBlock (c :: cs) with
    | none =>
      rw [hhere] at h
      exact (ih h).trans (List.suffix_cons c cs).isInfix
    | some found => exact (fencedBlock_fenced hhere).isInfix

theorem recovers_of_not_fenced {s : ObjectText o} (h : ¬ fence <:+: s.text)
    (placement : Placement) : placement.Recovers s := by
  cases placement with
  | prose before after => exact fun block hblock => absurd (searchBlock_fenced hblock) h
  | block before marked lead trail after =>
    rintro ⟨front, gap, back, heq, -⟩
    exact h ⟨front ++ '\x7d' :: gap, back, by rw [heq]; simp⟩

theorem getLast?_entriesText (es : Object) : (entriesText es).getLast? = some '\x7d' := by
  induction es with
  | nil => rfl
  | cons e es ih =>
    have hne : entriesText es ≠ [] := by
      intro hnil
      rw [hnil] at ih
      cases ih
    rw [entriesText, List.getLast?_append_of_ne_nil _ hne, ih]

def canonicalText (o : Object) (h : (Value.obj o).Distinct) : ObjectText o where
  text := (Value.obj o).text
  loads_text := loads_text h
  opens := by cases o <;> rw [Value.text] <;> rfl
  closes := by
    cases o with
    | nil => rfl
    | cons e es =>
      have hlast := getLast?_entriesText es
      have hne : entriesText es ≠ [] := by
        intro hnil
        rw [hnil] at hlast
        cases hlast
      rw [Value.text, List.getLast?_append_of_ne_nil _ hne, hlast]

def plainObject : Object := [("a", .int 1)]

theorem plainObject_distinct : (Value.obj plainObject).Distinct :=
  ⟨List.nodup_singleton _, trivial, trivial⟩

/-- **The object of the reply.** -/
theorem extractJsonObject_iff {I W : Type} {rt : GovernedAgentRuntime I W} {o : Object}
    (hloads : ∀ cs, rt.loads cs = .ok (loads cs)) (s : ObjectText o) (placement : Placement) :
    rt.extractJsonObject (String.ofList (placement.reply s.text)) = .ok (some o) ↔
      placement.Recovers s := by
  cases placement with
  | prose before after => exact extractJsonObject_prose hloads s before after
  | block before marked lead trail after =>
    exact extractJsonObject_block hloads s before marked lead trail after

def introduction : Prose where
  text := "The result:\n".toList
  plain := by simp

def lineEnd : Blanks where
  text := ['\n']
  space c hc := by
    rw [List.mem_singleton.mp hc]
    rfl

/-- It comes back where it stands alone, and from a block that is marked as JSON. -/
theorem plainObject_recovered :
    (sampleRuntime "").extractJsonObject (String.ofList
        (Placement.alone.reply (canonicalText plainObject plainObject_distinct).text)) =
      .ok (some plainObject) ∧
    (sampleRuntime "").extractJsonObject (String.ofList
        ((Placement.block introduction true lineEnd lineEnd .none).reply
          (canonicalText plainObject plainObject_distinct).text)) = .ok (some plainObject) :=
  have hfenced := recovers_of_not_fenced (by decide +kernel)
  ⟨(@extractJsonObject_iff _ _ (sampleRuntime "") _ (fun _ => rfl) _ _).mpr (hfenced _),
    (@extractJsonObject_iff _ _ (sampleRuntime "") _ (fun _ => rfl) _ _).mpr (hfenced _)⟩

def quotingObject : Object := [("a", .str "```\x7b\x7d```")]

theorem quotingObject_distinct : (Value.obj quotingObject).Distinct :=
  ⟨List.nodup_singleton _, trivial, trivial⟩

/-- The block in the string is taken for the reply. -/
theorem quoted_block_returned : ¬ ∀ (o : Object) (s : ObjectText o) (placement : Placement),
    (sampleRuntime "").extractJsonObject (String.ofList (placement.reply s.text)) =
      .ok (some o) := by
  intro h
  have hreturned := h _ (canonicalText quotingObject quotingObject_distinct) .alone
  have hblock : ((searchBlock (Placement.alone.reply (Value.obj quotingObject).text)).orElse fun _ =>
      bareObject (Placement.alone.reply (Value.obj quotingObject).text)) = some ['\x7b', '\x7d'] := by
    decide +kernel
  have hfound := @extractJsonObject_found _ _ (sampleRuntime "") (fun _ => rfl) _ _ []
    (by decide +kernel) hblock rfl
  rw [show (canonicalText quotingObject quotingObject_distinct).text =
    (Value.obj quotingObject).text from rfl, hfound] at hreturned
  cases hreturned

end Governance
