/-
Links of a paged answer (`connectors/pagination.py`).

A provider names the next page in a `Link` header, `<target>; rel="name"` for each link and a
comma between them (`renderLinkHeader`).  `parse_link_header` splits the header at every comma and
each part at every semicolon, also within a target or a name.

* `parseLinkHeader_render_iff` — the parser gives the links back exactly when no target and no
  name has a comma or a semicolon and no name begins or ends with a quotation mark.
-/
import AssuranceOS.Connectors.Rest

namespace Connectors

/-- An entry of a `Link` header. -/
structure Link where
  relation : String
  target : String
  deriving DecidableEq, Repr

/-- `<target>` -/
def Link.bracketed (link : Link) : List Char := '<' :: (link.target.toList ++ ['>'])

/-- `rel="name"` -/
def Link.parameter (link : Link) : List Char :=
  "rel=".toList ++ '"' :: (link.relation.toList ++ ['"'])

def Link.chars (link : Link) : List Char := link.bracketed ++ ';' :: ' ' :: link.parameter

/-- The parts of the header; all but the first have the gap that follows a comma. -/
def headerParts (gap : List Char) : List Link → List (List Char)
  | [] => []
  | link :: links => link.chars :: links.map fun l => gap ++ l.chars

/-- A `Link` header of these links, with the blanks `gap` around its parts. -/
def renderLinkHeader (gap : List Char) (links : List Link) : String :=
  String.ofList ([','].intercalate (headerParts gap links))

/-- A link as the entry of a dictionary. -/
def Link.entry (link : Link) : String × String := (link.relation, link.target)

def Unsplit (text : String) : Prop := ',' ∉ text.toList ∧ ';' ∉ text.toList

/-- A relation and a target without what the parser splits at or takes off. -/
structure Separable (e : String × String) : Prop where
  relation : Unsplit e.1
  target : Unsplit e.2
  head_unquoted : e.1.toList.head? ≠ some '"'
  last_unquoted : e.1.toList.getLast? ≠ some '"'

theorem mem_of_mem_splitOn {sep : Char} : ∀ {cs piece : List Char}, piece ∈ cs.splitOn sep →
    ∀ c ∈ piece, c ∈ cs ∧ c ≠ sep := by
  intro cs
  induction cs with
  | nil =>
    intro piece hpiece c hc
    rw [List.splitOn_nil, List.mem_singleton] at hpiece
    rw [hpiece] at hc
    exact absurd hc List.not_mem_nil
  | cons d cs ih =>
    intro piece hpiece c hc
    rw [List.splitOn_cons_eq_if_modifyHead] at hpiece
    split at hpiece
    · rcases List.mem_cons.mp hpiece with rfl | hpiece
      · exact absurd hc List.not_mem_nil
      · obtain ⟨hmem, hne⟩ := ih hpiece c hc
        exact ⟨List.mem_cons_of_mem _ hmem, hne⟩
    · rename_i hsep
      cases hsplit : cs.splitOn sep with
      | nil => exact absurd hsplit (List.splitOn_ne_nil _ _)
      | cons first rest =>
        rw [hsplit, List.modifyHead_cons] at hpiece
        rcases List.mem_cons.mp hpiece with rfl | hpiece
        · rcases List.mem_cons.mp hc with rfl | hc
          · exact ⟨List.mem_cons_self, by simpa using hsep⟩
          · obtain ⟨hmem, hne⟩ := ih (hsplit ▸ List.mem_cons_self) c hc
            exact ⟨List.mem_cons_of_mem _ hmem, hne⟩
        · obtain ⟨hmem, hne⟩ := ih (hsplit ▸ List.mem_cons_of_mem _ hpiece) c hc
          exact ⟨List.mem_cons_of_mem _ hmem, hne⟩

theorem eq_or_mem_of_mem_put {α : Type} {entries : List (String × α)} {key : String} {value : α}
    {e : String × α} (h : e ∈ put entries key value) : e = (key, value) ∨ e ∈ entries := by
  unfold put at h
  split at h
  · obtain ⟨e', he', heq⟩ := List.mem_map.mp h
    split at heq
    · exact Or.inl heq.symm
    · exact Or.inr (heq ▸ he')
  · rcases List.mem_append.mp h with h | h
    · exact Or.inr h
    · exact Or.inl (List.mem_singleton.mp h)

variable {s : String} {c : Char}

theorem mem_of_mem_strip (h : c ∈ (PyString.strip s).toList) :
    c ∈ s.toList := by
  unfold PyString.strip at h
  rw [String.toList_ofList] at h
  exact (List.dropWhile_suffix _).subset ((List.rdropWhile_prefix _ _).subset h)

theorem Unsplit.mono {t : String} (h : Unsplit s) (hsub : ∀ c ∈ t.toList, c ∈ s.toList) :
    Unsplit t :=
  ⟨fun hc => h.1 (hsub _ hc), fun hc => h.2 (hsub _ hc)⟩

def unquote (cs : List Char) : List Char :=
  (cs.dropWhile fun c => decide (c = '"')).rdropWhile fun c => decide (c = '"')

theorem mem_of_mem_unquote {cs : List Char} (h : c ∈ unquote cs) : c ∈ cs :=
  (List.dropWhile_suffix _).subset ((List.rdropWhile_prefix _ _).subset h)

theorem unquote_last (cs : List Char) : (unquote cs).getLast? ≠ some '"' := by
  intro h
  have hne : unquote cs ≠ [] := by
    rintro hnil
    rw [hnil] at h
    cases h
  rw [List.getLast?_eq_some_getLast hne, Option.some.injEq] at h
  have hlast : ¬ decide ((unquote cs).getLast hne = '"') := List.rdropWhile_last_not _ _ hne
  exact hlast (by rw [h]; rfl)

theorem unquote_head (cs : List Char) : (unquote cs).head? ≠ some '"' := by
  intro h
  obtain ⟨rest, hrest⟩ := List.rdropWhile_prefix (fun c => decide (c = '"'))
    (cs.dropWhile fun c => decide (c = '"'))
  have hfirst : (cs.dropWhile fun c => decide (c = '"')).head? = some '"' := by
    rw [← hrest, List.head?_append]
    show (unquote cs).head?.or _ = _
    rw [h]
    rfl
  have hnot := List.head?_dropWhile_not (fun c => decide (c = '"')) cs
  rw [hfirst] at hnot
  simp at hnot

theorem linksOf_separable {links : List (String × String)} {part : String}
    (hlinks : ∀ e ∈ links, Separable e) (hpart : ',' ∉ part.toList) :
    ∀ e ∈ Runtime.linksOf links part, Separable e := by
  have hpieces : ∀ piece ∈ (splitText ';' part).map PyString.strip, Unsplit piece := by
    intro piece hpiece
    obtain ⟨s, hs, rfl⟩ := List.mem_map.mp hpiece
    obtain ⟨cs, hcs, rfl⟩ := List.mem_map.mp hs
    have hchars : ∀ c ∈ (PyString.strip (String.ofList cs)).toList, c ∈ part.toList ∧ c ≠ ';' := by
      intro c hc
      have hmem := mem_of_mem_strip hc
      rw [String.toList_ofList] at hmem
      exact mem_of_mem_splitOn hcs c hmem
    exact ⟨fun hc => hpart (hchars _ hc).1, fun hc => (hchars _ hc).2 rfl⟩
  unfold Runtime.linksOf
  split
  · exact hlinks
  · rename_i target sections hsplit
    rw [hsplit] at hpieces
    split
    · have htarget : Unsplit (String.ofList target.toList.tail.dropLast) := by
        refine (hpieces target List.mem_cons_self).mono fun c hc => ?_
        rw [String.toList_ofList] at hc
        exact List.mem_of_mem_tail (List.dropLast_subset _ hc)
      replace hpieces := fun piece hpiece => hpieces piece (List.mem_cons_of_mem target hpiece)
      clear hsplit
      -- one section after the other
      induction sections generalizing links with
      | nil => exact hlinks
      | cons piece sections ih =>
        rw [List.foldl_cons]
        refine ih ?_ fun other hother => hpieces other (List.mem_cons_of_mem _ hother)
        split
        · intro e he
          rcases eq_or_mem_of_mem_put he with rfl | he
          · refine ⟨(hpieces piece List.mem_cons_self).mono fun c hc => ?_, htarget, ?_, ?_⟩
            · rw [String.toList_ofList] at hc
              exact List.mem_of_mem_drop (mem_of_mem_unquote hc)
            · rw [String.toList_ofList]
              exact unquote_head _
            · rw [String.toList_ofList]
              exact unquote_last _
          · exact hlinks e he
        · exact hlinks
    · exact hlinks

/-- **What the parser returns** has nothing in it that splits a header. -/
theorem parseLinkHeader_separable (header : Option String) :
    ∀ e ∈ Runtime.parseLinkHeader header, Separable e := by
  unfold Runtime.parseLinkHeader
  split
  · exact fun e he => absurd he List.not_mem_nil
  · rename_i value
    split
    · exact fun e he => absurd he List.not_mem_nil
    · have hparts : ∀ part ∈ splitText ',' value, ',' ∉ part.toList := by
        intro part hpart hc
        obtain ⟨cs, hcs, rfl⟩ := List.mem_map.mp hpart
        rw [String.toList_ofList] at hc
        exact (mem_of_mem_splitOn hcs _ hc).2 rfl
      refine List.foldlRecOn (motive := fun links => ∀ e ∈ links, Separable e) (splitText ',' value)
        Runtime.linksOf (fun e he => absurd he List.not_mem_nil) ?_
      exact fun links hlinks part hpart => linksOf_separable hlinks (hparts part hpart)

/-! ### Reading a header back -/

section RoundTrip

variable {gap : List Char} {link : Link} {links : List Link}

theorem splitOn_chars (hgap : ∀ c ∈ gap, PyString.isSpace c) (h : Separable link.entry) :
    (gap ++ link.chars).splitOn ';' = [gap ++ link.bracketed, ' ' :: link.parameter] := by
  have hfirst : ';' ∉ gap ++ link.bracketed := by
    intro hmem
    simp only [Link.bracketed, List.mem_append, List.mem_cons, List.not_mem_nil, or_false] at hmem
    rcases hmem with hmem | hmem | hmem | hmem
    · exact absurd (hgap _ hmem) (by decide)
    · exact absurd hmem (by decide)
    · exact h.target.2 hmem
    · exact absurd hmem (by decide)
  have hsecond : ';' ∉ ' ' :: link.parameter := by
    intro hmem
    simp only [Link.parameter, List.mem_append, List.mem_cons, List.not_mem_nil, or_false] at hmem
    rcases hmem with hmem | hmem | hmem | hmem | hmem
    · exact absurd hmem (by decide)
    · exact absurd hmem (by decide)
    · exact absurd hmem (by decide)
    · exact h.relation.2 hmem
    · exact absurd hmem (by decide)
  unfold Link.chars
  rw [← List.append_assoc, List.splitOn_append_cons_self_of_not_mem hfirst,
    List.splitOn_eq_singleton hsecond]

theorem comma_notMem_chars (hgap : ∀ c ∈ gap, PyString.isSpace c) (h : Separable link.entry) :
    ',' ∉ gap ++ link.chars := by
  intro hmem
  simp only [Link.chars, Link.bracketed, Link.parameter, List.mem_append, List.mem_cons,
    List.not_mem_nil, or_false] at hmem
  rcases hmem with hmem | (hmem | hmem | hmem) | hmem | hmem | hmem | hmem | hmem | hmem
  · exact absurd (hgap _ hmem) (by decide)
  · exact absurd hmem (by decide)
  · exact h.target.1 hmem
  · exact absurd hmem (by decide)
  · exact absurd hmem (by decide)
  · exact absurd hmem (by decide)
  · exact absurd hmem (by decide)
  · exact absurd hmem (by decide)
  · exact h.relation.1 hmem
  · exact absurd hmem (by decide)

theorem unquote_quoted {cs : List Char} (hhead : cs.head? ≠ some '"')
    (hlast : cs.getLast? ≠ some '"') : unquote ('"' :: (cs ++ ['"'])) = cs := by
  unfold unquote
  rw [List.dropWhile_cons, if_pos (by decide)]
  cases cs with
  | nil => rfl
  | cons c cs =>
    have hc : c ≠ '"' := fun heq => hhead (by rw [heq]; rfl)
    rw [List.cons_append, List.dropWhile_cons, if_neg (by simpa using hc), ← List.cons_append,
      List.rdropWhile_concat_pos _ _ _ (by decide), List.rdropWhile_eq_self_iff]
    intro hne hq
    rw [List.getLast?_eq_some_getLast hne] at hlast
    exact hlast (by simpa using hq)

theorem Link.bracketed_last (link : Link) : link.bracketed.getLast? = some '>' := by
  rw [Link.bracketed, ← List.cons_append, List.getLast?_concat]

theorem Link.parameter_last (link : Link) : link.parameter.getLast? = some '"' := by
  rw [Link.parameter, ← List.cons_append, ← List.append_assoc, List.getLast?_concat]

variable {entries : List (String × String)}

theorem linksOf_chars (hgap : ∀ c ∈ gap, PyString.isSpace c) (h : Separable link.entry) :
    Runtime.linksOf entries (String.ofList (gap ++ link.chars)) =
      put entries link.relation link.target := by
  have htarget : PyString.strip (String.ofList (gap ++ link.bracketed)) =
      String.ofList link.bracketed := by
    have hstrip := @PyString.strip_padded gap link.bracketed [] hgap (by simp)
      (by simp [Link.bracketed]; decide) (by rw [link.bracketed_last]; simp; decide)
    rwa [List.append_nil] at hstrip
  have hparameter : PyString.strip (String.ofList (' ' :: link.parameter)) =
      String.ofList link.parameter := by
    have hstrip := @PyString.strip_padded [' '] link.parameter [] (by simp; decide) (by simp)
      (by simp [Link.parameter]; decide) (by rw [link.parameter_last]; simp; decide)
    rwa [List.append_nil] at hstrip
  have hsections : (splitText ';' (String.ofList (gap ++ link.chars))).map PyString.strip =
      [String.ofList link.bracketed, String.ofList link.parameter] := by
    unfold splitText
    rw [String.toList_ofList, splitOn_chars hgap h, List.map_cons, List.map_cons, List.map_cons,
      List.map_cons, htarget, hparameter]
    rfl
  have hbrackets : (String.ofList link.bracketed).toList.head? = some '<' ∧
      (String.ofList link.bracketed).toList.getLast? = some '>' := by
    rw [String.toList_ofList]
    exact ⟨rfl, link.bracketed_last⟩
  have hinner : (String.ofList link.bracketed).toList.tail.dropLast = link.target.toList := by
    rw [String.toList_ofList, Link.bracketed, List.tail_cons, List.dropLast_concat]
  have hrel : PyString.startswith (String.ofList link.parameter) ["rel="] = true := by
    have hchars : (String.ofList link.parameter).toList =
        "rel=".toList ++ '"' :: (link.relation.toList ++ ['"']) := String.toList_ofList
    unfold PyString.startswith
    rw [List.any_cons, Bool.or_eq_true, List.isPrefixOf_iff_prefix, hchars]
    exact Or.inl ⟨_, rfl⟩
  have hname : unquote ((String.ofList link.parameter).toList.drop 4) = link.relation.toList := by
    rw [String.toList_ofList]
    exact unquote_quoted h.head_unquoted h.last_unquoted
  unfold Runtime.linksOf
  rw [hsections]
  dsimp only
  rw [if_pos hbrackets, List.foldl_cons, List.foldl_nil, if_pos hrel, hinner]
  show put entries (String.ofList (unquote _)) _ = _
  rw [hname, String.ofList_toList, String.ofList_toList]

theorem put_of_not_mem {α : Type} {entries : List (String × α)} {key : String} {value : α}
    (h : key ∉ entries.map Prod.fst) : put entries key value = entries ++ [(key, value)] := by
  unfold put
  rw [if_neg]
  simpa using h

theorem foldl_linksOf (hgap : ∀ c ∈ gap, PyString.isSpace c)
    (h : ∀ link ∈ links, Separable link.entry)
    (hdistinct : (entries.map Prod.fst ++ links.map Link.relation).Nodup) :
    (links.map fun link => String.ofList (gap ++ link.chars)).foldl Runtime.linksOf entries =
      entries ++ links.map Link.entry := by
  induction links generalizing entries with
  | nil => simp
  | cons link links ih =>
    have hnew : link.relation ∉ entries.map Prod.fst := by
      rw [List.map_cons] at hdistinct
      exact fun hmem => (List.nodup_append.mp hdistinct).2.2 _ hmem _ List.mem_cons_self rfl
    rw [List.map_cons, List.foldl_cons, linksOf_chars hgap (h link List.mem_cons_self),
      put_of_not_mem hnew, ih fun other hother => h other (List.mem_cons_of_mem _ hother)]
    · simp [Link.entry]
    · simpa using hdistinct

theorem parseLinkHeader_render (hgap : ∀ c ∈ gap, PyString.isSpace c)
    (hdistinct : (links.map Link.relation).Nodup) (h : ∀ link ∈ links, Separable link.entry) :
    Runtime.parseLinkHeader (some (renderLinkHeader gap links)) = links.map Link.entry := by
  cases links with
  | nil => rfl
  | cons link links =>
    have hlink := h link List.mem_cons_self
    have hrest := fun other hother => h other (List.mem_cons_of_mem link hother)
    have hsplit : splitText ',' (renderLinkHeader gap (link :: links)) =
        String.ofList ([] ++ link.chars) ::
          links.map fun link => String.ofList (gap ++ link.chars) := by
      have hcomma : ∀ part ∈ headerParts gap (link :: links), ',' ∉ part := by
        intro part hpart
        rcases List.mem_cons.mp hpart with rfl | hpart
        · exact @comma_notMem_chars [] _ (by simp) hlink
        · obtain ⟨other, hother, rfl⟩ := List.mem_map.mp hpart
          exact comma_notMem_chars hgap (hrest other hother)
      unfold splitText renderLinkHeader
      rw [String.toList_ofList, List.splitOn_intercalate _ hcomma (by simp [headerParts])]
      simp [headerParts]
    have hne : renderLinkHeader gap (link :: links) ≠ "" := by
      intro hempty
      rw [hempty] at hsplit
      have hone : splitText ',' "" = [""] := by decide
      have hfirst := congrArg String.toList (List.cons.inj (hone.symm.trans hsplit)).1
      rw [String.toList_ofList] at hfirst
      exact absurd hfirst (by simp [Link.chars, Link.bracketed])
    unfold Runtime.parseLinkHeader
    dsimp only
    rw [if_neg hne, hsplit, List.foldl_cons, linksOf_chars (by simp) hlink,
      put_of_not_mem (by simp), List.nil_append]
    exact foldl_linksOf hgap hrest (by simpa using hdistinct)

/-- **Links are read back** exactly when nothing in them splits the header and no relation has a
quotation mark at an end. -/
theorem parseLinkHeader_render_iff (hgap : ∀ c ∈ gap, PyString.isSpace c)
    (hdistinct : (links.map Link.relation).Nodup) :
    (∀ relation, (Runtime.parseLinkHeader (some (renderLinkHeader gap links))).lookup relation =
      (links.map Link.entry).lookup relation) ↔ ∀ link ∈ links, Separable link.entry := by
  constructor
  · intro h link hlink
    have hkeys : ((links.map Link.entry).map Prod.fst).Nodup := by
      rw [List.map_map]
      exact hdistinct
    have hfound : (links.map Link.entry).lookup link.relation = some link.target :=
      JsonText.lookup_of_mem hkeys (List.mem_map_of_mem hlink)
    exact parseLinkHeader_separable _ _ (JsonText.mem_of_lookup ((h link.relation).trans hfound))
  · intro h relation
    rw [parseLinkHeader_render hgap hdistinct h]

end RoundTrip

def labelledLinks : List Link :=
  [{ relation := "next", target := "https://api.github.com/repositories/1/issues?labels=bug,audit&page=3" },
    { relation := "prev", target := "https://api.github.com/repositories/1/issues?page=1" }]

/-- The next page is lost where its address has a comma. -/
theorem labelled_next_lost :
    (labelledLinks.map Link.relation).Nodup ∧
    (∀ link ∈ labelledLinks, '<' ∉ link.target.toList ∧ '>' ∉ link.target.toList) ∧
    (labelledLinks.map Link.entry).lookup "next" =
      some "https://api.github.com/repositories/1/issues?labels=bug,audit&page=3" ∧
    (Runtime.parseLinkHeader (some (renderLinkHeader [' '] labelledLinks))).lookup "next" = none ∧
    (Runtime.parseLinkHeader (some (renderLinkHeader [' '] labelledLinks))).lookup "prev" =
      some "https://api.github.com/repositories/1/issues?page=1" := by
  decide +kernel

def pagedLinks : List Link :=
  [{ relation := "next", target := "https://api.github.com/organizations/1/repos?page=2" },
    { relation := "last", target := "https://api.github.com/organizations/1/repos?page=9" }]

theorem paged_next_read :
    (Runtime.parseLinkHeader (some (renderLinkHeader [' '] pagedLinks))).lookup "next" =
      some "https://api.github.com/organizations/1/repos?page=2" := by
  have hall : ∀ link ∈ pagedLinks, Unsplit link.relation ∧ Unsplit link.target ∧
      link.relation.toList.head? ≠ some '"' ∧ link.relation.toList.getLast? ≠ some '"' := by
    unfold Unsplit
    decide +kernel
  refine (parseLinkHeader_render_iff (by simp; decide) (by decide)).mpr (fun link hlink => ?_) "next"
  obtain ⟨hrelation, htarget, hhead, hlast⟩ := hall link hlink
  exact ⟨hrelation, htarget, hhead, hlast⟩

end Connectors
