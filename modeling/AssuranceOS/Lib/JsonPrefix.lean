/-
What a reader of JSON has read.

A reader takes a front of its text and leaves the rest, and what follows the front changes nothing
of what is read (`string?_front`, `value_front`, `entries_front`); only a number reads on.  So the
text of an object is closed in itself:

* `loads_obj` — it begins with a brace and ends with one, blanks apart;
* `loads_brace` — a text that begins with a brace is the text of an object or of nothing;
* `loads_append` — no text of an object is the beginning of another one, blanks apart.
-/
import AssuranceOS.Lib.JsonParse

namespace JsonText

/-- The blanks before a token, which more text behind the token does not change. -/
theorem skip_front {cs front rest : List Char} (h : skip cs = front ++ rest) (hne : front ≠ []) :
    ∃ blanks, cs = blanks ++ (front ++ rest) ∧ (∀ c ∈ blanks, isBlank c) ∧
      ∀ more, skip (blanks ++ (front ++ more)) = front ++ more := by
  obtain ⟨c, cs', rfl⟩ := List.exists_cons_of_ne_nil hne
  have hsplit : cs.takeWhile isBlank ++ skip cs = cs := List.takeWhile_append_dropWhile
  have hblanks : ∀ d ∈ cs.takeWhile isBlank, isBlank d := fun d hd => List.mem_takeWhile_imp hd
  have hc : ¬ isBlank c := by
    have hhead := List.head?_dropWhile_not isBlank cs
    unfold skip at h
    simpa [h] using hhead
  refine ⟨cs.takeWhile isBlank, by rw [← h, hsplit], hblanks, fun more => ?_⟩
  rw [skip, List.dropWhile_append_of_pos hblanks, List.cons_append]
  exact skip_cons hc _

variable {cs rest : List Char} {n : ℕ} {v : Value}

theorem endsNumber_blanks {blanks : List Char} (hblanks : ∀ c ∈ blanks, isBlank c)
    (hcs : EndsNumber cs) : EndsNumber (blanks ++ cs) := by
  cases blanks with
  | nil => exact hcs
  | cons c blanks =>
    refine endsNumber_cons ?_ _
    have hc := hblanks c List.mem_cons_self
    simp only [isBlank, Bool.or_eq_true, decide_eq_true_eq] at hc
    rcases hc with ((rfl | rfl) | rfl) | rfl <;> decide

/-! ### What one step reads -/

section

variable {n : ℕ} {cs rest : List Char}
variable {vs : List Value} {es : List (String × Value)} {k : String} {us ts : List Char}

theorem items_cases (h : items (n + 1) cs = some (vs, rest)) :
    ∃ v ds, value n cs = some (v, ds) ∧
      ((∃ es ws, skip ds = ',' :: es ∧ items n (skip es) = some (ws, rest) ∧ vs = v :: ws) ∨
        skip ds = ']' :: rest ∧ vs = [v]) := by
  rw [items] at h
  obtain ⟨⟨v, ds⟩, hv, h⟩ := Option.bind_eq_some_iff.mp h
  refine ⟨v, ds, hv, ?_⟩
  cases hds : skip ds with
  | nil => simp [hds] at h
  | cons c es =>
    by_cases hcomma : c = ','
    · subst hcomma
      simp only [hds, List.head?_cons, ↓reduceIte, List.tail_cons] at h
      obtain ⟨⟨ws, us⟩, hws, h⟩ := Option.bind_eq_some_iff.mp h
      obtain ⟨rfl, rfl⟩ := Prod.mk.inj (Option.some.inj h)
      exact Or.inl ⟨es, ws, rfl, hws, rfl⟩
    · by_cases hclose : c = ']'
      · subst hclose
        obtain ⟨rfl, rfl⟩ : [v] = vs ∧ es = rest := by simpa [hds] using h
        exact Or.inr ⟨rfl, rfl⟩
      · simp [hds, hcomma, hclose] at h

theorem entries_cases (h : entries (n + 1) cs = some (es, rest)) :
    ∃ k ds us v ts, string? cs = some (k, ds) ∧ skip ds = ':' :: us ∧
      value n (skip us) = some (v, ts) ∧
        ((∃ ws fs, skip ts = ',' :: ws ∧ entries n (skip ws) = some (fs, rest) ∧
            es = (k, v) :: fs) ∨
          skip ts = '\x7d' :: rest ∧ es = [(k, v)]) := by
  rw [entries] at h
  obtain ⟨⟨k, ds⟩, hk, h⟩ := Option.bind_eq_some_iff.mp h
  obtain ⟨_, hcolon, h⟩ := Option.bind_eq_some_iff.mp h
  obtain ⟨⟨v, ts⟩, hv, h⟩ := Option.bind_eq_some_iff.mp h
  have hcolon : (skip ds).head? = some ':' := by
    by_contra hne
    simp [hne] at hcolon
  obtain ⟨us, hus⟩ : ∃ us, skip ds = ':' :: us := by
    cases hd : skip ds with
    | nil => simp [hd] at hcolon
    | cons c us =>
      obtain rfl : c = ':' := by simpa [hd] using hcolon
      exact ⟨us, rfl⟩
  rw [hus, List.tail_cons] at hv
  refine ⟨k, ds, us, v, ts, hk, hus, hv, ?_⟩
  cases hts : skip ts with
  | nil => simp [hts] at h
  | cons c ws =>
    by_cases hcomma : c = ','
    · subst hcomma
      simp only [hts, List.head?_cons, ↓reduceIte, List.tail_cons] at h
      obtain ⟨⟨fs, xs⟩, hfs, h⟩ := Option.bind_eq_some_iff.mp h
      obtain ⟨rfl, rfl⟩ := Prod.mk.inj (Option.some.inj h)
      exact Or.inl ⟨ws, fs, rfl, hfs, rfl⟩
    · by_cases hclose : c = '\x7d'
      · subst hclose
        obtain ⟨rfl, rfl⟩ : [(k, v)] = es ∧ ws = rest := by simpa [hts] using h
        exact Or.inr ⟨rfl, rfl⟩
      · simp [hts, hcomma, hclose] at h

/-- An array is empty or has items. -/
theorem value_arr_cases {v : Value} (h : value (n + 1) ('[' :: cs) = some (v, rest)) :
    (skip cs = ']' :: rest ∧ v = .arr []) ∨
      ((skip cs).head? ≠ some ']' ∧ ∃ vs, items n (skip cs) = some (vs, rest) ∧ v = .arr vs) := by
  have hquote : ('[' = '"') = False := by decide
  simp only [value, hquote, ↓reduceIte] at h
  cases hs : skip cs with
  | nil =>
    rw [hs] at h
    obtain ⟨⟨vs, ds⟩, hvs, heq⟩ := Option.map_eq_some_iff.mp h
    obtain ⟨rfl, rfl⟩ := Prod.mk.inj heq
    exact Or.inr ⟨by simp, vs, hvs, rfl⟩
  | cons c ds =>
    by_cases hclose : c = ']'
    · subst hclose
      simp only [hs, List.head?_cons, ↓reduceIte, List.tail_cons, Option.some.injEq,
        Prod.mk.injEq] at h
      exact Or.inl ⟨by rw [h.2], h.1.symm⟩
    · have hne : (c :: ds).head? ≠ some ']' := by simpa using hclose
      rw [hs, if_neg hne] at h
      obtain ⟨⟨vs, us⟩, hvs, heq⟩ := Option.map_eq_some_iff.mp h
      obtain ⟨rfl, rfl⟩ := Prod.mk.inj heq
      exact Or.inr ⟨hne, vs, hvs, rfl⟩

variable {v : Value} {ds : List Char}

/-- An object is empty or has entries. -/
theorem value_obj_cases (h : value (n + 1) ('\x7b' :: cs) = some (v, rest)) :
    (skip cs = '\x7d' :: rest ∧ v = .obj []) ∨
      ((skip cs).head? ≠ some '\x7d' ∧
        ∃ es, entries n (skip cs) = some (es, rest) ∧ v = .obj es) := by
  have hquote : ('\x7b' = '"') = False := by decide
  have harr : ('\x7b' = '[') = False := by decide
  simp only [value, hquote, harr, ↓reduceIte] at h
  cases hs : skip cs with
  | nil =>
    rw [hs] at h
    obtain ⟨⟨es, ds⟩, hes, heq⟩ := Option.map_eq_some_iff.mp h
    obtain ⟨rfl, rfl⟩ := Prod.mk.inj heq
    exact Or.inr ⟨by simp, es, hes, rfl⟩
  | cons c ds =>
    by_cases hclose : c = '\x7d'
    · subst hclose
      simp only [hs, List.head?_cons, ↓reduceIte, List.tail_cons, Option.some.injEq,
        Prod.mk.injEq] at h
      exact Or.inl ⟨by rw [h.2], h.1.symm⟩
    · have hne : (c :: ds).head? ≠ some '\x7d' := by simpa using hclose
      rw [hs, if_neg hne] at h
      obtain ⟨⟨es, us⟩, hes, heq⟩ := Option.map_eq_some_iff.mp h
      obtain ⟨rfl, rfl⟩ := Prod.mk.inj heq
      exact Or.inr ⟨hne, es, hes, rfl⟩

/-- What begins with neither a quote nor a bracket is a literal. -/
theorem value_eq_literal? {c : Char} (hquote : c ≠ '"') (harr : c ≠ '[') (hobj : c ≠ '\x7b') :
    value (n + 1) (c :: cs) = literal? (c :: cs) := by
  simp only [value, hquote, harr, hobj, ↓reduceIte]

theorem items_read_last {v : Value} {ds : List Char} (hv : value n cs = some (v, ds))
    (hds : skip ds = ']' :: rest) : items (n + 1) cs = some ([v], rest) := by
  simp [items, hv, hds]

theorem items_read_more {es : List Char} (hv : value n cs = some (v, ds))
    (hds : skip ds = ',' :: es) (hvs : items n (skip es) = some (vs, rest)) :
    items (n + 1) cs = some (v :: vs, rest) := by
  simp [items, hv, hds, hvs]

theorem entries_read_last (hk : string? cs = some (k, ds)) (hds : skip ds = ':' :: us)
    (hv : value n (skip us) = some (v, ts)) (hts : skip ts = '\x7d' :: rest) :
    entries (n + 1) cs = some ([(k, v)], rest) := by
  simp [entries, hk, hds, hv, hts]

theorem entries_read_more {ws : List Char} (hk : string? cs = some (k, ds))
    (hds : skip ds = ':' :: us) (hv : value n (skip us) = some (v, ts)) (hts : skip ts = ',' :: ws)
    (hes : entries n (skip ws) = some (es, rest)) :
    entries (n + 1) cs = some ((k, v) :: es, rest) := by
  simp [entries, hk, hds, hv, hts, hes]

theorem value_quote : value (n + 1) ('"' :: cs) =
    (string? ('"' :: cs)).map fun r => (.str r.1, r.2) := by
  simp only [value, ↓reduceIte]

end

theorem hex4?_front (h : hex4? cs = some (n, rest)) :
    ∃ front, cs = front ++ rest ∧ ∀ more, hex4? (front ++ more) = some (n, more) := by
  unfold hex4? at h
  split at h
  · rename_i a b c d ds
    simp only [Option.bind_eq_bind, Option.bind_eq_some_iff, Option.pure_def, Option.some.injEq,
      Prod.mk.injEq] at h
    obtain ⟨x, hx, y, hy, z, hz, w, hw, rfl, rfl⟩ := h
    exact ⟨[a, b, c, d], rfl, fun more => by simp [hex4?, hx, hy, hz, hw]⟩
  · cases h

variable {c : Char} {o : Object}

theorem unicode?_front (h : unicode? cs = some (c, rest)) :
    ∃ front, cs = front ++ rest ∧ ∀ more, unicode? (front ++ more) = some (c, more) := by
  unfold unicode? at h
  obtain ⟨⟨high, ds⟩, hhigh, hrest⟩ := Option.bind_eq_some_iff.mp h
  clear h
  dsimp only at hrest
  obtain ⟨front, rfl, hfront⟩ := hex4?_front hhigh
  by_cases hpair : 0xd800 ≤ high ∧ high ≤ 0xdfff
  · -- the second escape of a pair
    rw [if_pos hpair] at hrest
    obtain ⟨_, hguard, hsecond⟩ := Option.bind_eq_some_iff.mp hrest
    obtain ⟨hlimit, htake⟩ : high ≤ 0xdbff ∧ ds.take 2 = ['\\', 'u'] := by
      by_contra hne
      simp [guard, hne] at hguard
    obtain ⟨⟨low, es⟩, hlow, hvalue⟩ := Option.bind_eq_some_iff.mp hsecond
    dsimp only at hvalue
    have hrange : 0xdc00 ≤ low ∧ low ≤ 0xdfff := by
      by_contra hne
      simp [guard, hne] at hvalue
    obtain ⟨back, hback, hmore⟩ := hex4?_front hlow
    obtain ⟨rfl, rfl⟩ : Char.ofNat (0x10000 + (high - 0xd800) * 0x400 + (low - 0xdc00)) = c ∧
        es = rest := by simpa [guard, hrange] using hvalue
    have hds : ds = '\\' :: 'u' :: (back ++ es) := by
      rw [← hback, ← List.take_append_drop 2 ds, htake]
      rfl
    refine ⟨front ++ '\\' :: 'u' :: back, by simp [hds], fun more => ?_⟩
    have hread := hfront ('\\' :: 'u' :: (back ++ more))
    rw [List.append_assoc]
    unfold unicode?
    simp [hread, hpair, hlimit, hmore, hrange, guard]
  · rw [if_neg hpair] at hrest
    obtain ⟨rfl, rfl⟩ := Prod.mk.inj (Option.some.inj hrest)
    refine ⟨front, rfl, fun more => ?_⟩
    unfold unicode?
    simp only [hfront, Option.bind_eq_bind, Option.bind_some, if_neg hpair]
    rfl

theorem escape?_front (h : escape? cs = some (c, rest)) :
    ∃ front, cs = front ++ rest ∧ ∀ more, escape? (front ++ more) = some (c, more) := by
  cases cs with
  | nil => cases h
  | cons d ds =>
    by_cases hd : d = 'u'
    · subst hd
      obtain ⟨front, rfl, hfront⟩ := unicode?_front (by simpa [escape?] using h)
      exact ⟨'u' :: front, rfl, fun more => by simp [escape?, hfront]⟩
    · simp only [escape?, hd, ↓reduceIte] at h
      obtain ⟨e, he, heq⟩ := Option.map_eq_some_iff.mp h
      obtain ⟨rfl, rfl⟩ := Prod.mk.inj heq
      exact ⟨[d], rfl, fun more => by simp [escape?, hd, he]⟩

/-- A character of the literal needs one unit of the fuel. -/
theorem stringBody_front : ∀ {cs s rest : List Char}, stringBody n cs = some (s, rest) →
    ∃ front, cs = front ++ rest ∧
      ∀ m, front.length ≤ m → ∀ more, stringBody m (front ++ more) = some (s, more) := by
  induction n with
  | zero => exact fun h => absurd h (by simp [stringBody])
  | succ n ih =>
    intro cs s rest h
    cases cs with
    | nil => exact absurd h (by simp [stringBody])
    | cons c cs =>
      -- what is read behind the first character needs one unit less
      have hless : ∀ {k m : ℕ}, k + 1 ≤ m → ∃ l, m = l + 1 ∧ k ≤ l :=
        fun {k m} hk => ⟨m - 1, by omega, by omega⟩
      rw [stringBody] at h
      by_cases hquote : c = '"'
      · rw [if_pos hquote] at h
        obtain ⟨rfl, rfl⟩ := Prod.mk.inj (Option.some.inj h)
        refine ⟨[c], rfl, fun m hm more => ?_⟩
        obtain ⟨l, rfl, -⟩ := hless hm
        simp [stringBody, hquote]
      · rw [if_neg hquote] at h
        by_cases hback : c = '\\'
        · rw [if_pos hback] at h
          cases hescape : escape? cs with
          | none => simp [hescape] at h
          | some r =>
            obtain ⟨d, ds⟩ := r
            simp only [hescape] at h
            obtain ⟨⟨t, us⟩, ht, heq⟩ := Option.map_eq_some_iff.mp h
            obtain ⟨rfl, rfl⟩ := Prod.mk.inj heq
            obtain ⟨front, rfl, hfront⟩ := escape?_front hescape
            obtain ⟨back, rfl, hbody⟩ := ih ht
            refine ⟨c :: front ++ back, by simp, fun m hm more => ?_⟩
            simp only [List.cons_append, List.length_cons, List.length_append] at hm
            obtain ⟨l, rfl, hl⟩ := hless hm
            have hread := hbody l (by omega) more
            simp only [List.cons_append, List.append_assoc, stringBody, hback, ↓reduceIte,
              hfront, hread]
            rfl
        · rw [if_neg hback] at h
          by_cases hcontrol : c.toNat < 0x20
          · rw [if_pos hcontrol] at h
            cases h
          · rw [if_neg hcontrol] at h
            obtain ⟨⟨t, us⟩, ht, heq⟩ := Option.map_eq_some_iff.mp h
            obtain ⟨rfl, rfl⟩ := Prod.mk.inj heq
            obtain ⟨front, rfl, hbody⟩ := ih ht
            refine ⟨c :: front, rfl, fun m hm more => ?_⟩
            obtain ⟨l, rfl, hl⟩ := hless hm
            have hread := hbody l hl more
            simp only [List.cons_append, stringBody, hquote, hback, hcontrol, ↓reduceIte, hread]
            rfl

theorem string?_front {s : String} (h : string? cs = some (s, rest)) :
    ∃ front, cs = front ++ rest ∧ ∀ more, string? (front ++ more) = some (s, more) := by
  cases cs with
  | nil => cases h
  | cons c cs =>
    by_cases hquote : c = '"'
    · subst hquote
      simp only [string?, ↓reduceIte] at h
      obtain ⟨⟨t, us⟩, ht, heq⟩ := Option.map_eq_some_iff.mp h
      obtain ⟨rfl, rfl⟩ := Prod.mk.inj heq
      obtain ⟨front, rfl, hfront⟩ := stringBody_front ht
      refine ⟨'"' :: front, rfl, fun more => ?_⟩
      have hread := hfront (front ++ more).length (by simp) more
      simp only [List.cons_append, string?, ↓reduceIte, hread]
      rfl
    · simp [string?, hquote] at h

theorem head_of_isDigits (h : isDigits cs) : ∃ c ∈ cs.head?, c.isDigit := by
  cases cs with
  | nil => exact absurd h (by decide)
  | cons c cs =>
    refine ⟨c, rfl, ?_⟩
    simp only [isDigits, Bool.or_eq_true, decide_eq_true_eq, Bool.and_eq_true, List.all_cons] at h
    rcases h with h | h
    · obtain ⟨rfl, -⟩ := List.cons.inj h
      decide
    · exact h.1.2.1

theorem head_of_number? (h : number? cs = some v) :
    ∃ c ∈ (unsigned cs).head?, c.isDigit := by
  unfold number? at h
  split at h
  · rename_i hreal
    simp only [isReal, Bool.and_eq_true] at hreal
    exact head?_of_isDigits hreal.1.1
  · split at h
    · rename_i hinteger
      exact head_of_isDigits hinteger
    · cases h

/-- A number reads on over the characters of numbers. -/
theorem literal?_front (h : literal? cs = some (v, rest)) :
    ∃ front, cs = front ++ rest ∧
      ∀ more, EndsNumber more → literal? (front ++ more) = some (v, more) := by
  unfold literal? at h
  split at h
  · rename_i w hw
    obtain ⟨rfl, rfl⟩ := Prod.mk.inj (Option.some.inj h)
    have hmem := List.mem_of_find?_eq_some hw
    have hprefix : w.1 <+: cs := by simpa using List.find?_some hw
    obtain ⟨back, rfl⟩ := hprefix
    refine ⟨w.1, by simp, fun more _ => ?_⟩
    simp only [words, List.mem_cons, List.not_mem_nil, or_false] at hmem
    rcases hmem with rfl | rfl | rfl | rfl | rfl | rfl <;> rfl
  · obtain ⟨u, hu, heq⟩ := Option.map_eq_some_iff.mp h
    obtain ⟨rfl, rfl⟩ := Prod.mk.inj heq
    refine ⟨cs.takeWhile isNumeric, List.takeWhile_append_dropWhile.symm, fun more hmore => ?_⟩
    exact literal?_number (fun c hc => List.mem_takeWhile_imp hc) (head_of_number? hu) hu hmore

theorem literal?_ne_obj (cs rest : List Char) (es : List (String × Value)) :
    literal? cs ≠ some (.obj es, rest) := by
  intro h
  unfold literal? at h
  split at h
  · rename_i w hw
    have hmem := List.mem_of_find?_eq_some hw
    obtain ⟨hobj, -⟩ := Prod.mk.inj (Option.some.inj h)
    simp only [words, List.mem_cons, List.not_mem_nil, or_false] at hmem
    rcases hmem with rfl | rfl | rfl | rfl | rfl | rfl <;> cases hobj
  · obtain ⟨u, hu, heq⟩ := Option.map_eq_some_iff.mp h
    obtain ⟨rfl, -⟩ := Prod.mk.inj heq
    unfold number? at hu
    split_ifs at hu <;> cases hu

theorem exists_pred_of_lt {m : ℕ} (h : n + 1 ≤ m) : ∃ l, m = l + 1 ∧ n ≤ l :=
  ⟨m - 1, by omega, by omega⟩

/-- What is read of an object ends with its closing brace, where its entries do. -/
theorem value_obj_front (hentries : ∀ {es}, entries n (skip cs) = some (es, rest) →
      ∃ body, skip cs = body ++ '\x7d' :: rest ∧
        ∀ m, n ≤ m → ∀ more, entries m (body ++ '\x7d' :: more) = some (es, more))
    (h : value (n + 1) ('\x7b' :: cs) = some (v, rest)) :
    ∃ es body, v = .obj es ∧ cs = body ++ '\x7d' :: rest ∧
      ∀ m, n + 1 ≤ m → ∀ more, value m ('\x7b' :: (body ++ '\x7d' :: more)) = some (v, more) := by
  rcases value_obj_cases h with ⟨hclose, rfl⟩ | ⟨hopen, es, hes, rfl⟩
  · obtain ⟨blanks, hcs, -, hskip⟩ := @skip_front _ ['\x7d'] _ hclose (by simp)
    refine ⟨[], blanks, rfl, hcs, fun m hm more => ?_⟩
    obtain ⟨l, rfl, -⟩ := exists_pred_of_lt hm
    have hread := hskip more
    rw [List.singleton_append] at hread
    simp [value, hread]
  · obtain ⟨body, hbody, hread⟩ := hentries hes
    have hne : body ++ ['\x7d'] ≠ [] := by simp
    rw [← List.singleton_append, ← List.append_assoc] at hbody
    obtain ⟨blanks, hcs, -, hskip⟩ := skip_front hbody hne
    refine ⟨es, blanks ++ body, rfl, by simp [hcs], fun m hm more => ?_⟩
    obtain ⟨l, rfl, hl⟩ := exists_pred_of_lt hm
    have hfound : skip (blanks ++ body ++ '\x7d' :: more) = body ++ '\x7d' :: more := by
      simpa using hskip more
    have hhead : (body ++ '\x7d' :: more).head? ≠ some '\x7d' := by
      rw [hbody, List.head?_append_of_ne_nil _ hne] at hopen
      rwa [← List.singleton_append, ← List.append_assoc, List.head?_append_of_ne_nil _ hne]
    simp only [value, hfound, if_neg hhead, hread l hl]
    rfl

mutual

/-- What is read of a value is read before any text, unless the text reads on a number. -/
theorem value_front {n : ℕ} {cs rest : List Char} {v : Value}
    (h : value n cs = some (v, rest)) : ∃ front, cs = front ++ rest ∧ front ≠ [] ∧
      ∀ m, n ≤ m → ∀ more, EndsNumber more → value m (front ++ more) = some (v, more) := by
  match n, cs with
  | 0, _ => exact absurd h (by simp [value])
  | n + 1, [] => exact absurd h (by simp [value])
  | n + 1, c :: cs =>
    by_cases hquote : c = '"'
    · subst hquote
      rw [value_quote] at h
      obtain ⟨⟨s, us⟩, hs, heq⟩ := Option.map_eq_some_iff.mp h
      obtain ⟨rfl, rfl⟩ := Prod.mk.inj heq
      obtain ⟨front, hsplit, hfront⟩ := string?_front hs
      obtain ⟨ds, rfl⟩ : ∃ ds, front = '"' :: ds := by
        cases front with
        | nil => exact absurd (hfront []) (by simp [string?])
        | cons d ds => exact ⟨ds, by rw [(List.cons.inj hsplit).1]⟩
      refine ⟨'"' :: ds, hsplit, by simp, fun m hm more _ => ?_⟩
      obtain ⟨l, rfl, -⟩ := exists_pred_of_lt hm
      rw [List.cons_append, value_quote, ← List.cons_append, hfront]
      rfl
    · by_cases harr : c = '['
      · subst harr
        rcases value_arr_cases h with ⟨hclose, rfl⟩ | ⟨hopen, vs, hvs, rfl⟩
        · obtain ⟨blanks, hcs, -, hskip⟩ := @skip_front _ [']'] _ hclose (by simp)
          refine ⟨'[' :: (blanks ++ [']']), by simp [hcs], by simp, fun m hm more _ => ?_⟩
          obtain ⟨l, rfl, -⟩ := exists_pred_of_lt hm
          have hread := hskip more
          simp only [List.cons_append, List.append_assoc, List.nil_append] at hread ⊢
          simp [value, hread]
        · obtain ⟨body, hbody, hne, hitems⟩ := items_front hvs
          obtain ⟨blanks, hcs, -, hskip⟩ := skip_front hbody hne
          refine ⟨'[' :: (blanks ++ body), by simp [hcs], by simp, fun m hm more _ => ?_⟩
          obtain ⟨l, rfl, hl⟩ := exists_pred_of_lt hm
          have hhead : (body ++ more).head? ≠ some ']' := by
            rw [List.head?_append_of_ne_nil _ hne]
            rwa [hbody, List.head?_append_of_ne_nil _ hne] at hopen
          have hfound := hskip more
          rw [List.cons_append, List.append_assoc]
          simp only [value, hfound, if_neg hhead, hitems l hl]
          rfl
      · by_cases hobj : c = '\x7b'
        · subst hobj
          obtain ⟨es, body, rfl, rfl, hread⟩ := value_obj_front (fun hes => entries_front hes) h
          refine ⟨'\x7b' :: (body ++ ['\x7d']), by simp, by simp, fun m hm more _ => ?_⟩
          simpa using hread m hm more
        · rw [value_eq_literal? hquote harr hobj] at h
          obtain ⟨front, hsplit, hfront⟩ := literal?_front h
          obtain ⟨ds, rfl⟩ : ∃ ds, front = c :: ds := by
            cases front with
            | nil =>
              have hnone : literal? [] = none := by decide
              exact absurd (hfront [] (by simp [EndsNumber])) (by simp [hnone])
            | cons d ds => exact ⟨ds, by rw [(List.cons.inj hsplit).1]⟩
          refine ⟨c :: ds, hsplit, by simp, fun m hm more hmore => ?_⟩
          obtain ⟨l, rfl, -⟩ := exists_pred_of_lt hm
          rw [List.cons_append, value_eq_literal? hquote harr hobj, ← List.cons_append,
            hfront more hmore]

/-- The items of an array are read up to its closing bracket. -/
theorem items_front {n : ℕ} {cs rest : List Char} {vs : List Value}
    (h : items n cs = some (vs, rest)) : ∃ front, cs = front ++ rest ∧ front ≠ [] ∧
      ∀ m, n ≤ m → ∀ more, items m (front ++ more) = some (vs, more) := by
  match n with
  | 0 => exact absurd h (by simp [items])
  | n + 1 =>
    obtain ⟨v, ds, hv, hds⟩ := items_cases h
    obtain ⟨front, rfl, hne, hfront⟩ := value_front hv
    rcases hds with ⟨es, ws, hcomma, hws, rfl⟩ | ⟨hclose, rfl⟩
    · obtain ⟨body, hbody, hbodyne, hitems⟩ := items_front hws
      obtain ⟨blanks, rfl, hblanks, hskip⟩ := @skip_front _ [','] _ hcomma (by simp)
      obtain ⟨gap, rfl, -, hgap⟩ := skip_front hbody hbodyne
      refine ⟨front ++ (blanks ++ ',' :: (gap ++ body)), by simp, by simp, fun m hm more => ?_⟩
      obtain ⟨l, rfl, hl⟩ := exists_pred_of_lt hm
      have hread := hfront l hl (blanks ++ ',' :: (gap ++ (body ++ more)))
        (endsNumber_blanks hblanks (endsNumber_cons (by decide) _))
      have hrest := hitems l hl more
      rw [← hgap more] at hrest
      simp only [List.append_assoc, List.cons_append]
      exact items_read_more hread (hskip _) hrest
    · obtain ⟨blanks, rfl, hblanks, hskip⟩ := @skip_front _ [']'] _ hclose (by simp)
      refine ⟨front ++ (blanks ++ [']']), by simp, by simp, fun m hm more => ?_⟩
      obtain ⟨l, rfl, hl⟩ := exists_pred_of_lt hm
      have hread := hfront l hl (blanks ++ ([']'] ++ more))
        (endsNumber_blanks hblanks (endsNumber_cons (by decide) _))
      simp only [List.append_assoc]
      exact items_read_last hread (hskip more)

/-- The entries of an object are read up to its closing brace. -/
theorem entries_front {n : ℕ} {cs rest : List Char} {es : List (String × Value)}
    (h : entries n cs = some (es, rest)) : ∃ body, cs = body ++ '\x7d' :: rest ∧
      ∀ m, n ≤ m → ∀ more, entries m (body ++ '\x7d' :: more) = some (es, more) := by
  match n with
  | 0 => exact absurd h (by simp [entries])
  | n + 1 =>
    obtain ⟨k, ds, us, v, ts, hk, hcolon, hv, hts⟩ := entries_cases h
    obtain ⟨key, rfl, hkey⟩ := string?_front hk
    obtain ⟨front, hfront, hne, hvalue⟩ := value_front hv
    obtain ⟨blanks, rfl, -, hblanks⟩ := @skip_front _ [':'] _ hcolon (by simp)
    obtain ⟨gap, rfl, -, hgap⟩ := skip_front hfront hne
    rcases hts with ⟨ws, fs, hcomma, hfs, rfl⟩ | ⟨hclose, rfl⟩
    · obtain ⟨body, hbody, hentries⟩ := entries_front hfs
      rw [← List.singleton_append, ← List.append_assoc] at hbody
      obtain ⟨before, rfl, hbefore, hskip⟩ := @skip_front _ [','] _ hcomma (by simp)
      obtain ⟨lead, rfl, -, hlead⟩ := skip_front hbody (by simp)
      refine ⟨key ++ (blanks ++ ':' :: (gap ++ (front ++ (before ++ ',' :: (lead ++ body))))),
        by simp, fun m hm more => ?_⟩
      obtain ⟨l, rfl, hl⟩ := exists_pred_of_lt hm
      have hread := hvalue l hl (before ++ ',' :: (lead ++ (body ++ ['\x7d'] ++ more)))
        (endsNumber_blanks hbefore (endsNumber_cons (by decide) _))
      have hrest := hentries l hl more
      rw [← List.singleton_append, ← List.append_assoc, ← hlead more] at hrest
      rw [← hgap] at hread
      have htext := entries_read_more (hkey _) (hblanks _) hread (hskip _) hrest
      simpa using htext
    · obtain ⟨before, rfl, hbefore, hskip⟩ := @skip_front _ ['\x7d'] _ hclose (by simp)
      refine ⟨key ++ (blanks ++ ':' :: (gap ++ (front ++ before))), by simp, fun m hm more => ?_⟩
      obtain ⟨l, rfl, hl⟩ := exists_pred_of_lt hm
      have hread := hvalue l hl (before ++ ['\x7d'] ++ more)
        (by rw [List.append_assoc]; exact endsNumber_blanks hbefore (endsNumber_cons (by decide) _))
      rw [← hgap, List.append_assoc] at hread
      have htext := entries_read_last (hkey _) (hblanks _) hread (hskip _)
      simpa using htext

end

/-- An object is read from an opening brace, up to its closing one. -/
theorem value_obj_closed {es : List (String × Value)} (h : value n cs = some (.obj es, rest)) :
    ∃ body, cs = '\x7b' :: (body ++ '\x7d' :: rest) := by
  match n, cs with
  | 0, _ => exact absurd h (by simp [value])
  | n + 1, [] => exact absurd h (by simp [value])
  | n + 1, c :: cs =>
    by_cases hquote : c = '"'
    · subst hquote
      rw [value_quote] at h
      obtain ⟨_, _, heq⟩ := Option.map_eq_some_iff.mp h
      exact nomatch (Prod.mk.inj heq).1
    · by_cases harr : c = '['
      · subst harr
        rcases value_arr_cases h with ⟨_, hv⟩ | ⟨_, _, _, hv⟩ <;> exact nomatch hv
      · by_cases hobj : c = '\x7b'
        · subst hobj
          obtain ⟨_, body, -, rfl, -⟩ := value_obj_front (fun hes => entries_front hes) h
          exact ⟨body, rfl⟩
        · rw [value_eq_literal? hquote harr hobj] at h
          exact absurd h (literal?_ne_obj _ _ _)

theorem dict_eq_obj (h : v.dict = .obj o) : ∃ es, v = .obj es := by
  cases v with
  | obj es => exact ⟨es, rfl⟩
  | null | bool _ | int _ | float _ | str _ | arr _ => simp [Value.dict] at h

theorem skip_eq_nil : skip cs = [] ↔ ∀ c ∈ cs, isBlank c :=
  List.dropWhile_eq_nil_iff

/-- The text of an object, without the blanks around it. -/
theorem loads_obj (h : loads cs = some (.obj o)) :
    ∃ body rest, skip cs = '\x7b' :: (body ++ '\x7d' :: rest) ∧ ∀ c ∈ rest, isBlank c := by
  obtain ⟨v, hv, hdict⟩ := Option.map_eq_some_iff.mp h
  obtain ⟨es, rfl⟩ := dict_eq_obj hdict
  unfold parse at hv
  split at hv
  · rename_i u rest hvalue
    split at hv
    · rename_i hrest
      obtain rfl := Option.some.inj hv
      obtain ⟨body, hbody⟩ := value_obj_closed hvalue
      exact ⟨body, rest, hbody, skip_eq_nil.mp hrest⟩
    · cases hv
  · cases hv

/-- A text that begins with a brace is the text of an object, or of nothing. -/
theorem loads_brace (h : loads ('\x7b' :: cs) = some v) :
    ∃ o, v = .obj o := by
  obtain ⟨u, hu, rfl⟩ := Option.map_eq_some_iff.mp h
  have hskip : skip ('\x7b' :: cs) = '\x7b' :: cs := skip_cons (by decide) _
  rw [parse, hskip, List.length_cons] at hu
  split at hu
  · rename_i w rest hvalue
    obtain ⟨es, -, rfl, -⟩ := value_obj_front (fun hes => entries_front hes) hvalue
    split at hu
    · obtain rfl := Option.some.inj hu
      exact ⟨_, rfl⟩
    · cases hu
  · cases hu

/-- Nothing but blanks makes of the text of an object another one. -/
theorem loads_append {more : List Char} {w : Value} (h : loads ('\x7b' :: cs) = some v)
    (hmore : loads ('\x7b' :: (cs ++ more)) = some w) : ∀ c ∈ more, isBlank c := by
  obtain ⟨u, hu, -⟩ := Option.map_eq_some_iff.mp h
  obtain ⟨x, hx, -⟩ := Option.map_eq_some_iff.mp hmore
  have hskip : ∀ ds, skip ('\x7b' :: ds) = '\x7b' :: ds := fun ds => skip_cons (by decide) _
  rw [parse, hskip, List.length_cons] at hu hx
  split at hu
  · rename_i y rest hvalue
    obtain ⟨es, body, -, rfl, hread⟩ := value_obj_front (fun hes => entries_front hes) hvalue
    have hlonger : value ((body ++ '\x7d' :: rest ++ more).length + 1)
        ('\x7b' :: (body ++ '\x7d' :: rest ++ more)) = some (y, rest ++ more) := by
      rw [List.append_assoc, List.cons_append]
      refine hread _ ?_ (rest ++ more)
      simp only [List.length_append, List.length_cons]
      omega
    simp only [hlonger] at hx
    split at hx
    · rename_i hblank
      exact fun c hc => skip_eq_nil.mp hblank c (List.mem_append_right _ hc)
    · cases hx
  · cases hu

end JsonText
