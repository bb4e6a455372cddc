/-
URLs as Python's `urllib.parse` takes them apart and joins them.

`urlsplit` refuses an authority that the checks on brackets and on Unicode refuse, which are a
parameter; what stands after a `;` stays in the path.  The origin of a URL is its scheme, its
host and its port.

* `origin_urlunsplit` — what is put together from parts has the origin of the parts;
* `origin_append_slashes` — the slashes at the end of a base are no part of its origin;
* `origin_urljoin` — a path that begins with a plain segment stays at the origin of the base.
-/
import Mathlib.Data.List.DropRight
import Mathlib.Tactic.Common

namespace Url

/-- A control character or a blank, which are removed from the front. -/
def isControlOrSpace (c : Char) : Bool := c.toNat ≤ 32

/-- No tab and no line break; those are removed wherever they stand. -/
def isSafe (c : Char) : Bool := c.toNat ≠ 9 && c.toNat ≠ 10 && c.toNat ≠ 13

def isUpper (c : Char) : Bool := 65 ≤ c.toNat && c.toNat ≤ 90

def isLetter (c : Char) : Bool := isUpper c || (97 ≤ c.toNat && c.toNat ≤ 122)

/-- `scheme_chars`: letters, digits, plus, minus and the full stop. -/
def isSchemeChar (c : Char) : Bool :=
  isLetter c || (48 ≤ c.toNat && c.toNat ≤ 57) || c.toNat = 43 || c.toNat = 45 || c.toNat = 46

/-- What ends an authority. -/
def isDelimiter (c : Char) : Bool := c = '/' || c = '?' || c = '#'

/-- The lower case of a letter. -/
def lower (c : Char) : Char := if isUpper c then Char.ofNat (c.toNat + 32) else c

structure SplitResult where
  scheme : List Char
  netloc : List Char
  path : List Char
  query : List Char
  fragment : List Char

def clean (url : List Char) : List Char :=
  (url.dropWhile isControlOrSpace).filter isSafe

/-- The scheme at the front of a URL, in lower case, and what follows its colon. -/
def splitScheme (url : List Char) : Option (List Char × List Char) :=
  let scheme := url.takeWhile fun c => c ≠ ':'
  match url.dropWhile fun c => c ≠ ':' with
  | _ :: rest =>
    if scheme.head?.any isLetter ∧ scheme.all isSchemeChar then some (scheme.map lower, rest)
    else none
  | [] => none

/-- The authority at the front of a URL whose scheme is gone. -/
def splitNetloc : List Char → List Char × List Char
  | '/' :: '/' :: url =>
    (url.takeWhile fun c => !isDelimiter c, url.dropWhile fun c => !isDelimiter c)
  | url => ([], url)

/-- `url.split(mark, 1)`; the second part is empty where there is no mark. -/
def splitAt (mark : Char) (url : List Char) : List Char × List Char :=
  (url.takeWhile fun c => c ≠ mark, (url.dropWhile fun c => c ≠ mark).tail)

section Split

variable (accepts : List Char → Bool)

/-- `urlsplit(url, scheme)`. -/
def urlsplit (url scheme : List Char) : Option SplitResult :=
  let (scheme, url) := (splitScheme (clean url)).getD (scheme, clean url)
  let (netloc, url) := splitNetloc url
  let (url, fragment) := splitAt '#' url
  let (path, query) := splitAt '?' url
  if accepts netloc then some { scheme, netloc, path, query, fragment } else none

end Split

def usesRelative : List String :=
  ["", "ftp", "http", "gopher", "nntp", "imap", "wais", "file", "https", "shttp", "mms",
    "prospero", "rtsp", "rtsps", "rtspu", "sftp", "svn", "svn+ssh", "ws", "wss"]

def usesNetloc : List String :=
  ["", "ftp", "http", "gopher", "nntp", "telnet", "imap", "wais", "file", "mms", "https", "shttp",
    "snews", "prospero", "rtsp", "rtsps", "rtspu", "rsync", "svn", "svn+ssh", "sftp", "nfs", "git",
    "git+ssh", "ws", "wss"]

/-- The authority and the path. -/
def hierarchy (parts : SplitResult) : List Char :=
  if parts.netloc ≠ [] then
    '/' :: '/' :: parts.netloc ++
      (if parts.path = [] ∨ parts.path.head? = some '/' then parts.path else '/' :: parts.path)
  else if parts.path.take 2 = ['/', '/'] ∨ (parts.scheme ≠ [] ∧ String.ofList parts.scheme ∈ usesNetloc ∧
      (parts.path = [] ∨ parts.path.head? = some '/')) then
    '/' :: '/' :: parts.path
  else parts.path

/-- `urlunsplit(parts)`. -/
def urlunsplit (parts : SplitResult) : List Char :=
  (if parts.scheme = [] then [] else parts.scheme ++ [':']) ++ hierarchy parts ++
    (if parts.query = [] then [] else '?' :: parts.query) ++
    (if parts.fragment = [] then [] else '#' :: parts.fragment)

/-- The segments of a relative path at a base; empty ones in between are dropped. -/
def segments (base path : List Char) : List (List Char) :=
  if path.head? = some '/' then path.splitOn '/'
  else
    let parts := base.splitOn '/'
    let parts := if parts.getLast? = some [] then parts else parts.dropLast
    match parts ++ path.splitOn '/' with
    | [] => []
    | [segment] => [segment]
    | first :: rest => first :: rest.dropLast.filter (fun s => s ≠ []) ++ rest.getLast?.toList

/-- The segments without `.` and `..`. -/
def resolve (segments : List (List Char)) : List (List Char) :=
  let resolved := segments.foldl (fun resolved segment =>
    if segment = ['.', '.'] then resolved.dropLast
    else if segment = ['.'] then resolved
    else resolved ++ [segment]) []
  if segments.getLast? = some ['.', '.'] ∨ segments.getLast? = some ['.'] then resolved ++ [[]]
  else resolved

def resolvePath (base path : List Char) : List Char :=
  match ['/'].intercalate (resolve (segments base path)) with
  | [] => ['/']
  | path => path

section Join

variable (accepts : List Char → Bool)

/-- `urljoin(base, url)`; a URL that cannot be taken apart raises. -/
def urljoin (base url : List Char) : Option (List Char) :=
  if base = [] then some url
  else if url = [] then some base
  else do
    let b ← urlsplit accepts base []
    let u ← urlsplit accepts url b.scheme
    if u.scheme ≠ b.scheme ∨ String.ofList u.scheme ∉ usesRelative then return url
    else if String.ofList u.scheme ∈ usesNetloc ∧ u.netloc ≠ [] then return urlunsplit u
    else
      let netloc := if String.ofList u.scheme ∈ usesNetloc then b.netloc else u.netloc
      if u.path = [] then
        let query := if u.query = [] then b.query else u.query
        return urlunsplit { u with netloc := netloc, path := b.path, query := query }
      else return urlunsplit { u with netloc := netloc, path := resolvePath b.path u.path }

end Join

structure Origin where
  scheme : List Char
  host : List Char
  port : Option ℕ
  deriving DecidableEq, Repr

/-- What follows the last `@` of an authority. -/
def hostinfo (netloc : List Char) : List Char := netloc.rtakeWhile fun c => c ≠ '@'

/-- The host and the text of the port. -/
def hostAndPort (netloc : List Char) : List Char × List Char :=
  match (hostinfo netloc).dropWhile fun c => c ≠ '[' with
  | _ :: bracketed =>
    (bracketed.takeWhile fun c => c ≠ ']',
      (splitAt ':' (splitAt ']' bracketed).2).2)
  | [] => splitAt ':' (hostinfo netloc)

/-- The port that a scheme stands for. -/
def defaultPort (scheme : List Char) : Option ℕ :=
  if scheme = "http".toList then some 80 else if scheme = "https".toList then some 443 else none

def digitsValue (digits : List Char) : ℕ := digits.foldl (fun n c => 10 * n + (c.toNat - 48)) 0

/-- The origin of the parts of a URL: none without a scheme, a host and a port that is one. -/
def originOf (scheme netloc : List Char) : Option Origin :=
  let (host, port) := hostAndPort netloc
  if scheme = [] ∨ host = [] then none
  else if port = [] then some { scheme, host := host.map lower, port := defaultPort scheme }
  else if port.all Char.isDigit ∧ digitsValue port < 65536 then
    some { scheme, host := host.map lower, port := some (digitsValue port) }
  else none

/-- Where a request for the URL goes. -/
def origin (accepts : List Char → Bool) (url : List Char) : Option Origin :=
  (urlsplit accepts url []).bind fun parts => originOf parts.scheme parts.netloc

/-! ### Facts about characters -/

variable {c : Char} {scheme rest netloc : List Char}

theorem isLetter_not_control (h : isLetter c) : isControlOrSpace c = false := by
  simp only [isLetter, isUpper, isControlOrSpace, Bool.or_eq_true, Bool.and_eq_true,
    decide_eq_true_eq, decide_eq_false_iff_not] at h ⊢
  omega

theorem isSchemeChar_safe (h : isSchemeChar c) : isSafe c := by
  simp only [isSchemeChar, isLetter, isUpper, isSafe, Bool.or_eq_true, Bool.and_eq_true,
    decide_eq_true_eq] at h ⊢
  omega

theorem isSchemeChar_ne_colon (h : isSchemeChar c) : c ≠ ':' := by
  rintro rfl
  exact absurd h (by decide)

theorem isDelimiter_safe (h : isDelimiter c) : isSafe c := by
  simp only [isDelimiter, Bool.or_eq_true, decide_eq_true_eq] at h
  rcases h with (rfl | rfl) | rfl
  · rfl
  · rfl
  · rfl

theorem lower_toNat (h : isUpper c) : (lower c).toNat = c.toNat + 32 := by
  have hupper := h
  simp only [isUpper, Bool.and_eq_true, decide_eq_true_eq] at h
  have hvalid : (c.toNat + 32).isValidChar := .inl (by omega)
  rw [lower, if_pos hupper, Char.ofNat, dif_pos hvalid]
  rfl

theorem lower_of_not_upper (h : ¬ isUpper c) : lower c = c := if_neg h

theorem isLetter_lower (h : isLetter c) : isLetter (lower c) := by
  by_cases hupper : isUpper c
  · have hc := lower_toNat hupper
    simp only [isUpper, Bool.and_eq_true, decide_eq_true_eq] at hupper
    simp only [isLetter, isUpper, Bool.or_eq_true, Bool.and_eq_true, decide_eq_true_eq]
    omega
  · rwa [lower_of_not_upper hupper]

theorem isSchemeChar_lower (h : isSchemeChar c) : isSchemeChar (lower c) := by
  by_cases hupper : isUpper c
  · have hletter := isLetter_lower (c := c) (by simp [isLetter, hupper])
    simp [isSchemeChar, hletter]
  · rwa [lower_of_not_upper hupper]

theorem lower_lower (c : Char) : lower (lower c) = lower c := by
  by_cases hupper : isUpper c
  · have hc := lower_toNat hupper
    refine lower_of_not_upper ?_
    simp only [isUpper, Bool.and_eq_true, decide_eq_true_eq] at hupper ⊢
    omega
  · rw [lower_of_not_upper hupper, lower_of_not_upper hupper]

/-- A scheme as `urlsplit` gives it. -/
structure IsScheme (scheme : List Char) : Prop where
  letter : scheme.head?.any isLetter
  chars : ∀ c ∈ scheme, isSchemeChar c
  lowered : scheme.map lower = scheme

/-- An authority as `urlsplit` gives it. -/
structure IsNetloc (netloc : List Char) : Prop where
  safe : ∀ c ∈ netloc, isSafe c
  ends : ∀ c ∈ netloc, isDelimiter c = false

/-- What may follow an authority. -/
def Ends (url : List Char) : Prop := ∀ c ∈ url.head?, isDelimiter c

theorem splitScheme_of_isScheme (h : IsScheme scheme) :
    splitScheme (scheme ++ ':' :: rest) = some (scheme, rest) := by
  have hpast : ∀ c ∈ scheme, (decide (c ≠ ':')) = true := by
    intro c hc
    simpa using isSchemeChar_ne_colon (h.chars c hc)
  have htake : (scheme ++ ':' :: rest).takeWhile (fun c => c ≠ ':') = scheme := by
    rw [List.takeWhile_append_of_pos hpast, List.takeWhile_cons_of_neg (by simp), List.append_nil]
  have hdrop : (scheme ++ ':' :: rest).dropWhile (fun c => c ≠ ':') = ':' :: rest := by
    rw [List.dropWhile_append_of_pos hpast, List.dropWhile_cons_of_neg (by simp)]
  unfold splitScheme
  rw [htake, hdrop]
  show (if _ then some (scheme.map lower, rest) else none) = _
  rw [if_pos ⟨h.letter, List.all_eq_true.mpr h.chars⟩, h.lowered]

/-- The text of a URL with an authority. -/
def written (scheme netloc rest : List Char) : List Char :=
  scheme ++ ':' :: '/' :: '/' :: (netloc ++ rest)

theorem clean_written (hscheme : IsScheme scheme) (hnetloc : IsNetloc netloc) (rest : List Char) :
    clean (written scheme netloc rest) =
      written scheme netloc (rest.filter isSafe) := by
  have hfilter : ∀ cs : List Char, (∀ c ∈ cs, isSafe c) →
      cs.filter (isSafe) = cs := by
    intro cs hcs
    exact List.filter_eq_self.mpr hcs
  have hkept := hfilter scheme fun c hc => isSchemeChar_safe (hscheme.chars c hc)
  have hletter := hscheme.letter
  unfold clean written
  rcases scheme with _ | ⟨c, scheme⟩
  · cases hletter
  have hc : isControlOrSpace c = false := isLetter_not_control hletter
  rw [List.cons_append, List.dropWhile_cons_of_neg (by simp [hc]), ← List.cons_append,
    List.filter_append, hkept]
  have hcolon : isSafe ':' := rfl
  have hslash : isSafe '/' := rfl
  rw [List.filter_cons_of_pos hcolon, List.filter_cons_of_pos hslash,
    List.filter_cons_of_pos hslash, List.filter_append, hfilter netloc hnetloc.safe]

theorem splitNetloc_of_ends (hnetloc : IsNetloc netloc) (hrest : Ends rest) :
    splitNetloc ('/' :: '/' :: (netloc ++ rest)) = (netloc, rest) := by
  have hpast : ∀ c ∈ netloc, (!isDelimiter c) = true := by
    intro c hc
    simp [hnetloc.ends c hc]
  have hstop : rest.takeWhile (fun c => !isDelimiter c) = [] ∧
      rest.dropWhile (fun c => !isDelimiter c) = rest := by
    rcases rest with _ | ⟨c, rest⟩
    · exact ⟨rfl, rfl⟩
    · have hc : isDelimiter c := hrest c rfl
      simp [hc]
  show ((netloc ++ rest).takeWhile (fun c => !isDelimiter c),
    (netloc ++ rest).dropWhile fun c => !isDelimiter c) = _
  rw [List.takeWhile_append_of_pos hpast, List.dropWhile_append_of_pos hpast, hstop.1, hstop.2,
    List.append_nil]

/-- What is put together from parts has the origin of the parts. -/
theorem origin_written {accepts : List Char → Bool} (hscheme : IsScheme scheme)
    (hnetloc : IsNetloc netloc) (hrest : Ends rest) :
    origin accepts (written scheme netloc rest) =
      if accepts netloc then originOf scheme netloc else none := by
  have hends : Ends (rest.filter isSafe) := by
    rcases rest with _ | ⟨c, rest⟩
    · exact hrest
    · have hc : isDelimiter c := hrest c rfl
      intro d hd
      rw [List.filter_cons_of_pos (isDelimiter_safe hc)] at hd
      cases hd
      exact hc
  have hsplit : splitScheme (clean (written scheme netloc rest)) =
      some (scheme, '/' :: '/' :: (netloc ++ rest.filter isSafe)) := by
    rw [clean_written hscheme hnetloc]
    exact splitScheme_of_isScheme hscheme
  unfold origin urlsplit
  rw [hsplit]
  simp only [Option.getD_some, splitNetloc_of_ends hnetloc hends]
  split
  · rfl
  · rfl

/-! ### The parts of what was taken apart -/

section Parts

variable {accepts : List Char → Bool}
variable {url scheme : List Char}

theorem clean_safe : ∀ c ∈ clean url, isSafe c :=
  fun _ hc => (List.mem_filter.mp hc).2

theorem splitScheme_eq_some (h : splitScheme url = some (scheme, rest)) :
    IsScheme scheme ∧ ∀ c ∈ rest, c ∈ url := by
  unfold splitScheme at h
  rcases hdrop : url.dropWhile fun c => c ≠ ':' with _ | ⟨d, after⟩
  · rw [hdrop] at h
    cases h
  rw [hdrop] at h
  dsimp only at h
  split at h
  · rename_i hchars
    cases h
    refine ⟨⟨?_, ?_, ?_⟩, ?_⟩
    · have hletter := hchars.1
      rcases hscheme : url.takeWhile fun c => c ≠ ':' with _ | ⟨c, cs⟩
      · rw [hscheme] at hletter
        cases hletter
      · rw [hscheme] at hletter
        exact isLetter_lower hletter
    · intro c hc
      obtain ⟨d, hd, rfl⟩ := List.mem_map.mp hc
      exact isSchemeChar_lower (List.all_eq_true.mp hchars.2 d hd)
    · rw [List.map_map]
      exact List.map_congr_left fun c _ => lower_lower c
    · intro c hc
      have hmem : c ∈ url.dropWhile fun c => c ≠ ':' := by
        rw [hdrop]
        exact List.mem_cons_of_mem _ hc
      exact (List.dropWhile_sublist _).mem hmem
  · cases h

theorem splitNetloc_isNetloc (h : ∀ c ∈ url, isSafe c) :
    IsNetloc (splitNetloc url).1 := by
  unfold splitNetloc
  split
  · rename_i after
    constructor
    · intro c hc
      have hmem := (List.takeWhile_sublist _).mem hc
      exact h c (List.mem_cons_of_mem _ (List.mem_cons_of_mem _ hmem))
    · intro c hc
      simpa using List.mem_takeWhile_imp hc
  · constructor
    · intro c hc
      exact absurd hc List.not_mem_nil
    · intro c hc
      exact absurd hc List.not_mem_nil

/-- The scheme and the authority of a URL. -/
def front (url scheme : List Char) : List Char × List Char :=
  let r := (splitScheme (clean url)).getD (scheme, clean url)
  (r.1, (splitNetloc r.2).1)

theorem urlsplit_eq_some {parts : SplitResult} (h : urlsplit accepts url scheme = some parts) :
    front url scheme = (parts.scheme, parts.netloc) ∧ accepts parts.netloc := by
  unfold urlsplit at h
  dsimp only at h
  split at h
  · rename_i haccepts
    cases h
    exact ⟨rfl, haccepts⟩
  · cases h

theorem origin_eq (url : List Char) :
    origin accepts url =
      if accepts (front url []).2 then originOf (front url []).1 (front url []).2 else none := by
  unfold origin urlsplit front
  dsimp only
  split
  · rfl
  · rfl

theorem front_isNetloc (url scheme : List Char) : IsNetloc (front url scheme).2 := by
  unfold front
  rcases hsplit : splitScheme (clean url) with _ | ⟨s, rest⟩
  · exact splitNetloc_isNetloc clean_safe
  · exact splitNetloc_isNetloc fun c hc => clean_safe c ((splitScheme_eq_some hsplit).2 c hc)

theorem front_isScheme (url : List Char) :
    (front url []).1 = [] ∨ IsScheme (front url []).1 := by
  unfold front
  rcases hsplit : splitScheme (clean url) with _ | ⟨s, rest⟩
  · exact .inl rfl
  · exact .inr (splitScheme_eq_some hsplit).1

theorem originOf_eq_some {o : Origin} (h : originOf scheme netloc = some o) :
    scheme ≠ [] ∧ netloc ≠ [] := by
  constructor
  · rintro rfl
    simp [originOf] at h
  · rintro rfl
    simp [originOf, hostAndPort, hostinfo, splitAt] at h

end Parts

section Slashes

variable {accepts : List Char → Bool} {slashes : List Char}

theorem clean_append_slashes (hslashes : ∀ c ∈ slashes, c = '/') (url : List Char) :
    clean (url ++ slashes) = clean url ++ slashes := by
  have hkept : slashes.filter isSafe = slashes := by
    rw [List.filter_eq_self]
    intro c hc
    rw [hslashes c hc]
    rfl
  have hdropped : slashes.dropWhile isControlOrSpace = slashes := by
    rcases slashes with _ | ⟨c, slashes⟩
    · rfl
    · rw [hslashes c List.mem_cons_self]
      rfl
  unfold clean
  rw [List.dropWhile_append]
  split
  · rename_i hall
    rw [List.isEmpty_iff.mp hall, hdropped, hkept]
    rfl
  · rw [List.filter_append, hkept]

theorem splitScheme_append_slashes (hslashes : ∀ c ∈ slashes, c = '/') (url : List Char) :
    splitScheme (url ++ slashes) = (splitScheme url).map fun r => (r.1, r.2 ++ slashes) := by
  have hpast : ∀ c ∈ slashes, (decide (c ≠ ':')) = true := by
    intro c hc
    rw [hslashes c hc]
    rfl
  have hnone : slashes.dropWhile (fun c => c ≠ ':') = [] := List.dropWhile_eq_nil_iff.mpr hpast
  unfold splitScheme
  rw [List.dropWhile_append, List.takeWhile_append]
  rcases hdrop : url.dropWhile fun c => c ≠ ':' with _ | ⟨d, after⟩
  · rw [List.isEmpty_nil, if_pos rfl, hnone]
    rfl
  · have hlength : (url.takeWhile fun c => c ≠ ':').length ≠ url.length := by
      intro heq
      have hsplit := congrArg List.length (List.takeWhile_append_dropWhile
        (p := fun c => decide (c ≠ ':')) (l := url))
      rw [List.length_append, heq, hdrop, List.length_cons] at hsplit
      omega
    rw [if_neg hlength]
    simp only [List.isEmpty_cons, Bool.false_eq_true, if_false, List.cons_append]
    split
    · rfl
    · rfl

theorem splitNetloc_fst (url : List Char) :
    (splitNetloc url).1 =
      if url.take 2 = ['/', '/'] then (url.drop 2).takeWhile fun c => !isDelimiter c else [] := by
  unfold splitNetloc
  split
  · rfl
  · rename_i hnot
    rw [if_neg]
    intro htake
    refine hnot (url.drop 2) ?_
    rw [← List.take_append_drop 2 url, htake]
    rfl

theorem splitNetloc_append_slashes (hslashes : ∀ c ∈ slashes, c = '/') (url : List Char) :
    (splitNetloc (url ++ slashes)).1 = (splitNetloc url).1 := by
  have hstop : ∀ n, (slashes.drop n).takeWhile (fun c => !isDelimiter c) = [] := by
    intro n
    rcases hdrop : slashes.drop n with _ | ⟨c, rest⟩
    · rfl
    · have hc : c ∈ slashes.drop n := by
        rw [hdrop]
        exact List.mem_cons_self
      rw [hslashes c (List.mem_of_mem_drop hc)]
      rfl
  rw [splitNetloc_fst, splitNetloc_fst]
  by_cases hlength : 2 ≤ url.length
  · rw [List.take_append_of_le_length hlength, List.drop_append_of_le_length hlength]
    have hsame : (url.drop 2 ++ slashes).takeWhile (fun c => !isDelimiter c) =
        (url.drop 2).takeWhile fun c => !isDelimiter c := by
      have h := hstop 0
      rw [List.drop_zero] at h
      rw [List.takeWhile_append, h, List.append_nil]
      split
      · rename_i hall
        exact (List.takeWhile_prefix _).eq_of_length hall |>.symm
      · rfl
    rw [hsame]
  · -- an authority begins with two slashes; here nothing but slashes can follow them
    have hshort : url.take 2 ≠ ['/', '/'] := by
      intro htake
      have h := congrArg List.length htake
      rw [List.length_take] at h
      have htwo : (['/', '/'] : List Char).length = 2 := rfl
      omega
    have hdrop : (url ++ slashes).drop 2 = slashes.drop (2 - url.length) := by
      rw [List.drop_append, List.drop_eq_nil_of_le (by omega), List.nil_append]
    rw [if_neg hshort, hdrop, hstop]
    split
    · rfl
    · rfl

/-- The slashes at the end of a URL are no part of its origin. -/
theorem origin_append_slashes (hslashes : ∀ c ∈ slashes, c = '/') (url : List Char) :
    origin accepts (url ++ slashes) = origin accepts url := by
  have hnone : ∀ netloc, originOf [] netloc = none := by
    intro netloc
    simp [originOf]
  rw [origin_eq, origin_eq]
  unfold front
  rw [clean_append_slashes hslashes, splitScheme_append_slashes hslashes]
  rcases splitScheme (clean url) with _ | ⟨s, rest⟩
  · simp [hnone]
  · simp [splitNetloc_append_slashes hslashes]

end Slashes

/-- A character of a plain segment. -/
def isPlain (c : Char) : Bool := isSchemeChar c || c = '_'

/-- The path begins with a plain segment. -/
structure StartsPlain (path segment rest : List Char) : Prop where
  split : path = segment ++ rest
  plain : ∀ c ∈ segment, isPlain c
  nonempty : segment ≠ []
  slash : ∀ c ∈ rest.head?, c = '/'

section Joining

variable {accepts : List Char → Bool}

theorem isPlain_ne {d : Char} (h : isPlain c) (hd : isPlain d = false) : c ≠ d := by
  rintro rfl
  rw [hd] at h
  cases h

theorem isPlain_kept (h : isPlain c) : isSafe c ∧ isControlOrSpace c = false := by
  simp only [isPlain, isSchemeChar, isLetter, isUpper, isSafe, isControlOrSpace, Bool.or_eq_true,
    Bool.and_eq_true, decide_eq_true_eq, decide_eq_false_iff_not] at h ⊢
  rcases h with h | rfl
  · omega
  · decide

/-- A path that begins with a plain segment has no scheme and no authority. -/
theorem StartsPlain.front {path segment rest : List Char} (h : StartsPlain path segment rest)
    (scheme : List Char) : front path scheme = (scheme, []) := by
  obtain ⟨rfl, hplain, hnonempty, hslash⟩ := h
  have hslash' : ∀ c ∈ (rest.filter isSafe).head?, c = '/' := by
    rcases rest with _ | ⟨c, rest⟩
    · exact hslash
    · have hc : c = '/' := hslash c rfl
      subst hc
      intro d hd
      cases hd
      rfl
  have hclean : clean (segment ++ rest) = segment ++ rest.filter isSafe := by
    rcases segment with _ | ⟨c, segment⟩
    · exact absurd rfl hnonempty
    have hc := (isPlain_kept (hplain c List.mem_cons_self)).2
    have hkept : (c :: segment).filter isSafe = c :: segment :=
      List.filter_eq_self.mpr fun d hd => (isPlain_kept (hplain d hd)).1
    unfold clean
    rw [List.cons_append, List.dropWhile_cons_of_neg (by simp [hc]), ← List.cons_append,
      List.filter_append, hkept]
  have hpast : ∀ c ∈ segment, (decide (c ≠ ':')) = true := by
    intro c hc
    exact decide_eq_true (isPlain_ne (hplain c hc) (by decide))
  -- before a colon stands the slash that ends the segment
  have hscheme : splitScheme (segment ++ rest.filter isSafe) = none := by
    unfold splitScheme
    rw [List.dropWhile_append_of_pos hpast, List.takeWhile_append_of_pos hpast]
    rcases hrest : rest.filter isSafe with _ | ⟨d, after⟩
    · rfl
    · have hd : d = '/' := hslash' d (by rw [hrest]; rfl)
      subst hd
      split
      · rw [if_neg]
        rintro ⟨-, hall⟩
        have hbad := List.all_eq_true.mp hall '/' (by simp)
        exact absurd hbad (by decide)
      · rfl
  have hnetloc : (splitNetloc (segment ++ rest.filter isSafe)).1 = [] := by
    rw [splitNetloc_fst, if_neg]
    rcases segment with _ | ⟨c, segment⟩
    · exact absurd rfl hnonempty
    intro htake
    have hc : c = '/' := (List.cons.inj htake).1
    exact isPlain_ne (hplain c List.mem_cons_self) (by decide) hc
  unfold Url.front
  rw [hclean, hscheme]
  show (scheme, (splitNetloc (segment ++ rest.filter isSafe)).1) = _
  rw [hnetloc]

variable {path segment : List Char}

/-- Nor has the path behind a slash. -/
theorem origin_rooted (h : StartsPlain path segment rest) :
    origin accepts ('/' :: path) = none := by
  have hsplit := h.split
  rcases segment with _ | ⟨c, segment⟩
  · exact absurd rfl h.nonempty
  have hc := isPlain_kept (h.plain c List.mem_cons_self)
  have hplain : c ≠ '/' := isPlain_ne (h.plain c List.mem_cons_self) (by decide)
  have hclean : clean ('/' :: path) = '/' :: c :: (segment ++ rest).filter isSafe := by
    unfold clean
    rw [List.dropWhile_cons_of_neg (by decide), hsplit, List.cons_append,
      List.filter_cons_of_pos (by decide), List.filter_cons_of_pos hc.1]
  have hscheme : splitScheme ('/' :: c :: (segment ++ rest).filter isSafe) = none := by
    unfold splitScheme
    split
    · rw [if_neg]
      rintro ⟨hletter, -⟩
      rw [List.takeWhile_cons_of_pos (by decide)] at hletter
      have hslash : isLetter '/' := hletter
      exact absurd hslash (by decide)
    · rfl
  have hfront : Url.front ('/' :: path) [] = ([], []) := by
    unfold Url.front
    rw [hclean, hscheme]
    show ([], (splitNetloc _).1) = _
    rw [splitNetloc_fst, if_neg]
    intro htake
    exact hplain (List.cons.inj (List.cons.inj htake).2).1
  rw [origin_eq, hfront]
  split
  · simp [originOf]
  · rfl

theorem ends_marks (query fragment : List Char) :
    Ends ((if query = [] then [] else '?' :: query) ++
      (if fragment = [] then [] else '#' :: fragment)) := by
  intro d hd
  by_cases hquery : query = []
  · by_cases hfragment : fragment = []
    · rw [if_pos hquery, if_pos hfragment] at hd
      cases hd
    · rw [if_pos hquery, if_neg hfragment] at hd
      cases hd
      rfl
  · rw [if_neg hquery] at hd
    cases hd
    rfl

theorem origin_urlunsplit {parts : SplitResult} (hscheme : IsScheme parts.scheme)
    (hnetloc : IsNetloc parts.netloc) (hnonempty : parts.netloc ≠ []) :
    origin accepts (urlunsplit parts) =
      if accepts parts.netloc then originOf parts.scheme parts.netloc else none := by
  have hne : parts.scheme ≠ [] := by
    intro hnil
    have hletter := hscheme.letter
    rw [hnil] at hletter
    cases hletter
  obtain ⟨rest, hrest, hends⟩ : ∃ rest, urlunsplit parts =
      written parts.scheme parts.netloc rest ∧ Ends rest := by
    refine ⟨(if parts.path = [] ∨ parts.path.head? = some '/' then parts.path
        else '/' :: parts.path) ++ ((if parts.query = [] then [] else '?' :: parts.query) ++
        (if parts.fragment = [] then [] else '#' :: parts.fragment)), ?_, ?_⟩
    · unfold urlunsplit hierarchy written
      rw [if_neg hne, if_pos hnonempty]
      simp only [List.append_assoc, List.cons_append, List.nil_append]
    · by_cases hpath : parts.path = []
      · rw [if_pos (.inl hpath), hpath]
        exact ends_marks parts.query parts.fragment
      · intro d hd
        have hslash : d = '/' := by
          split at hd
          · rename_i hcase
            have hhead := hcase.resolve_left hpath
            rw [List.head?_append, hhead] at hd
            cases hd
            rfl
          · cases hd
            rfl
        rw [hslash]
        rfl
  rw [hrest, origin_written hscheme hnetloc hends]

/-- Every scheme of `usesRelative` may have an authority. -/
theorem usesNetloc_of_usesRelative : ∀ scheme ∈ usesRelative, scheme ∈ usesNetloc := by
  decide

/-- At its base, a path that begins with a plain segment leads to no origin but that of the
base. -/
theorem origin_urljoin {base url : List Char} {o o' : Origin}
    (hpath : StartsPlain path segment rest) (hbase : origin accepts base = some o)
    (hjoin : urljoin accepts base path = some url) (hurl : origin accepts url = some o') :
    o' = o := by
  have hbase' := hbase
  rw [origin_eq] at hbase'
  split at hbase'
  swap
  · cases hbase'
  obtain ⟨hscheme, hnetloc⟩ := originOf_eq_some hbase'
  have hne : base ≠ [] := by
    rintro rfl
    exact hscheme rfl
  have hne' : path ≠ [] := by
    rintro rfl
    exact hpath.nonempty (List.append_eq_nil_iff.mp hpath.split.symm).1
  have hpathFront := fun scheme => hpath.front scheme
  rw [urljoin, if_neg hne, if_neg hne'] at hjoin
  obtain ⟨b, hb, hjoin⟩ := Option.bind_eq_some_iff.mp hjoin
  obtain ⟨u, hu, hjoin⟩ := Option.bind_eq_some_iff.mp hjoin
  obtain ⟨hbfront, -⟩ := urlsplit_eq_some hb
  obtain ⟨hufront, -⟩ := urlsplit_eq_some hu
  rw [hpathFront] at hufront
  obtain ⟨hus, hun⟩ := Prod.mk.inj hufront
  split at hjoin
  · -- a scheme that is not joined: the path alone, which has no origin
    cases hjoin
    rw [origin_eq, hpathFront] at hurl
    split at hurl
    · exact absurd rfl (originOf_eq_some hurl).1
    · cases hurl
  · rename_i hjoined
    rw [not_or, not_not, not_not] at hjoined
    have hscheme' : IsScheme u.scheme := by
      have h := (front_isScheme base).resolve_left hscheme
      rw [hbfront] at h
      rwa [← hus]
    have hnetloc' : IsNetloc b.netloc := by
      have h := front_isNetloc base []
      rwa [hbfront] at h
    have hnonempty : b.netloc ≠ [] := by
      rwa [hbfront] at hnetloc
    -- the parts differ in what stands after the authority
    have hparts : ∃ parts : SplitResult, urlunsplit parts = url ∧ parts.scheme = u.scheme ∧
        parts.netloc = b.netloc := by
      rw [if_neg (fun h => h.2 hun.symm)] at hjoin
      rw [if_pos (usesNetloc_of_usesRelative _ hjoined.2)] at hjoin
      dsimp only at hjoin
      split at hjoin
      · exact ⟨_, Option.some.inj hjoin, rfl, rfl⟩
      · exact ⟨_, Option.some.inj hjoin, rfl, rfl⟩
    obtain ⟨parts, rfl, hps, hpn⟩ := hparts
    rw [origin_urlunsplit (by rwa [hps]) (by rwa [hpn]) (by rwa [hpn]), hps, hpn] at hurl
    split at hurl
    · rw [hbfront] at hbase'
      change originOf b.scheme b.netloc = some o at hbase'
      rw [hus, hurl] at hbase'
      exact Option.some.inj hbase'
    · cases hurl

end Joining

end Url
