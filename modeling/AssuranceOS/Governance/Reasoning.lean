/-
The reasoning in a model's reply (`split_reasoning`).

A reply is searched for `<name>…</name>` with the shortest content, and what is left of it is cut at
the first opening tag.  Blocks of one name can lie in each other, and the first closing tag of a name
then ends the outer block for the search.

* `splitReasoning_iff` — for nested tags the answer is what lies outside every block exactly when
  that text read together opens no block, and what follows the first block with a block of its own
  name is blank.

The characters of a reply are told apart by their positions, so that a character of the answer is
known to be that of the reply.
-/
import AssuranceOS.Lib.Regex
import AssuranceOS.Lib.TagBlocks
import AssuranceOS.PyString

namespace Governance

open TagBlocks

/-- `_THINK_TAGS`. -/
def thinkTags : List (List Char) :=
  ["think".toList, "thinking".toList, "reasoning".toList]

/-- The case in which `\1` compares the letters of a name with `re.I`. -/
def foldCase (c : Char) : Char :=
  if c.toNat = 0x130 then 'i'
  else if c.toNat = 0x212a then 'k'
  else if PyString.isUpperAscii c then Char.ofNat (c.toNat + 32)
  else c

section Syntax

variable {α : Type} (char : α → Char)

def isNamed (body : List α) (name : List Char) : Bool :=
  (name.length ≤ body.length && (name.zip body).all fun e => Regex.sameCase e.1 (char e.2)) &&
    (body.drop name.length).all fun c => PyString.isSpace (char c)

/-- `(think|thinking|reasoning)\s*>` at the start of a text; the key is what `\1` compares. -/
def tagName? (text : List α) : Option (List Char × List α) :=
  let body := text.takeWhile fun c => char c ≠ '>'
  match text.dropWhile (fun c => char c ≠ '>') with
  | [] => none
  | _ :: rest => (thinkTags.find? (isNamed char body)).map fun name =>
      ((body.take name.length).map (foldCase ∘ char), rest)

def thinkTag? : List α → Option (Tag (List Char) × List α)
  | [] => none
  | c :: text =>
    if char c = '<' then
      match text with
      | [] => none
      | d :: rest =>
        if char d = '/' then (tagName? char rest).map fun found => (.closing found.1, found.2)
        else (tagName? char (d :: rest)).map fun found => (.opening found.1, found.2)
    else none

variable {name : List Char} {body rest text : List α}

theorem sameCase_ne (hname : name ∈ thinkTags) {c d : Char} (hc : c ∈ name)
    (h : Regex.sameCase c d = true) : d ≠ '<' := by
  rintro rfl
  have hall : (thinkTags.all fun name => name.all fun c => !Regex.sameCase c '<') = true := by
    decide
  have hnot := List.all_eq_true.mp (List.all_eq_true.mp hall name hname) c hc
  simp [h] at hnot

theorem exists_mem_zip {d : α} (hd : d ∈ body.take name.length) :
    ∃ c ∈ name, (c, d) ∈ name.zip body := by
  induction name generalizing body with
  | nil => simp at hd
  | cons c name ih =>
    cases body with
    | nil => simp at hd
    | cons e body =>
      rw [List.length_cons, List.take_succ_cons] at hd
      rcases List.mem_cons.mp hd with rfl | hd
      · exact ⟨c, List.mem_cons_self, List.mem_cons_self⟩
      · obtain ⟨c', hc', hmem⟩ := ih hd
        exact ⟨c', List.mem_cons_of_mem _ hc', List.mem_cons_of_mem _ hmem⟩

theorem tagName?_append {last : α} (hbody : ∀ d ∈ body, char d ≠ '>') (hlast : char last = '>') :
    tagName? char (body ++ last :: rest) =
      (thinkTags.find? (isNamed char body)).map fun name =>
        ((body.take name.length).map (foldCase ∘ char), rest) := by
  have htake : (body ++ last :: rest).takeWhile (fun c => char c ≠ '>') = body := by
    rw [List.takeWhile_append_of_pos (by simpa using hbody), List.takeWhile_cons]
    simp [hlast]
  have hdrop : (body ++ last :: rest).dropWhile (fun c => char c ≠ '>') = last :: rest := by
    rw [List.dropWhile_append_of_pos (by simpa using hbody), List.dropWhile_cons]
    simp [hlast]
  unfold tagName?
  simp only [htake, hdrop]

theorem tagName?_eq_some {key : List Char} (h : tagName? char text = some (key, rest)) :
    ∃ body last, text = body ++ last :: rest ∧ char last = '>' ∧ (∀ d ∈ body, char d ≠ '<') ∧
      ∀ rest', tagName? char (body ++ last :: rest') = some (key, rest') := by
  set body := text.takeWhile fun c => char c ≠ '>' with hbody
  have hplain : ∀ d ∈ body, char d ≠ '>' := fun d hd => by simpa using List.mem_takeWhile_imp hd
  have htext : body ++ text.dropWhile (fun c => char c ≠ '>') = text :=
    List.takeWhile_append_dropWhile
  cases hdrop : text.dropWhile fun c => char c ≠ '>' with
  | nil =>
    unfold tagName? at h
    simp only [hdrop] at h
    cases h
  | cons last after =>
    have hlast : char last = '>' := by
      have hhead := List.head?_dropWhile_not (fun c => decide (char c ≠ '>')) text
      rw [hdrop] at hhead
      simpa using hhead
    rw [hdrop] at htext
    rw [← htext, tagName?_append char hplain hlast] at h
    obtain ⟨name, hname, heq⟩ := Option.map_eq_some_iff.mp h
    obtain ⟨rfl, rfl⟩ := Prod.mk.inj heq
    refine ⟨body, last, htext.symm, hlast, fun d hd => ?_, fun rest' => ?_⟩
    · -- a letter of the name, or whitespace
      have hnamed := List.find?_some hname
      unfold isNamed at hnamed
      simp only [Bool.and_eq_true, decide_eq_true_eq, List.all_eq_true] at hnamed
      obtain ⟨⟨hlength, hletters⟩, hspace⟩ := hnamed
      rw [← List.take_append_drop name.length body] at hd
      rcases List.mem_append.mp hd with hd | hd
      · obtain ⟨c, hc, hmem⟩ := exists_mem_zip hd
        exact sameCase_ne (List.mem_of_find?_eq_some hname) hc (hletters _ hmem)
      · intro hopens
        have hcontra := hspace d hd
        rw [hopens] at hcontra
        exact absurd hcontra (by decide)
    · rw [tagName?_append char hplain hlast, hname]
      rfl

/-- What is read of a tag begins with `<`, which does not come again, and ends with `>`. -/
theorem thinkTag?_eq_some {t : Tag (List Char)} (h : thinkTag? char text = some (t, rest)) :
    ∃ c mid last, text = c :: (mid ++ [last]) ++ rest ∧ char c = '<' ∧ char last = '>' ∧
      (∀ d ∈ mid, char d ≠ '<') ∧
      ∀ rest', thinkTag? char (c :: (mid ++ [last]) ++ rest') = some (t, rest') := by
  unfold thinkTag? at h
  split at h
  · cases h
  · rename_i c text
    split at h
    · rename_i hopens
      split at h
      · cases h
      · rename_i d after
        split at h
        · rename_i hslash
          obtain ⟨found, hfound, heq⟩ := Option.map_eq_some_iff.mp h
          obtain ⟨rfl, rfl⟩ := Prod.mk.inj heq
          obtain ⟨body, last, rfl, hlast, hbody, hrest⟩ := tagName?_eq_some char hfound
          refine ⟨c, d :: body, last, by simp, hopens, hlast, ?_, fun rest' => ?_⟩
          · rw [List.forall_mem_cons]
            exact ⟨by rw [hslash]; decide, hbody⟩
          · have happend : c :: (d :: body ++ [last]) ++ rest' = c :: d :: (body ++ last :: rest') := by
              simp
            rw [happend, thinkTag?, if_pos hopens, if_pos hslash, hrest rest']
            rfl
        · rename_i hslash
          obtain ⟨found, hfound, heq⟩ := Option.map_eq_some_iff.mp h
          obtain ⟨rfl, rfl⟩ := Prod.mk.inj heq
          obtain ⟨body, last, htext, hlast, hbody, hrest⟩ := tagName?_eq_some char hfound
          refine ⟨c, body, last, by simp [htext], hopens, hlast, hbody, fun rest' => ?_⟩
          have hfirst := hrest rest'
          cases body with
          | nil =>
            obtain ⟨rfl, -⟩ := List.cons.inj htext
            show thinkTag? char (c :: d :: rest') = _
            rw [List.nil_append] at hfirst
            rw [thinkTag?, if_pos hopens, if_neg hslash, hfirst]
            rfl
          | cons e body =>
            obtain ⟨rfl, -⟩ := List.cons.inj htext
            have happend : c :: (d :: body ++ [last]) ++ rest' =
                c :: d :: (body ++ last :: rest') := by simp
            rw [List.cons_append] at hfirst
            rw [happend, thinkTag?, if_pos hopens, if_neg hslash, hfirst]
            rfl
    · cases h

def reasoningTags : TagSyntax α (List Char) where
  tag? := thinkTag? char
  begins c := char c = '<'
  blank c := PyString.isSpace (char c)
  blank_of_begins c h := by
    rw [decide_eq_true_eq] at h
    rw [h]
    decide
  tag?_eq_some {text t rest} h := by
    obtain ⟨c, mid, last, rfl, hopens, hlast, hmid, -⟩ := thinkTag?_eq_some char h
    refine ⟨c, mid, last, rfl, by simpa using hopens, fun d hd => ?_, by rw [hlast]; decide⟩
    rcases List.mem_append.mp hd with hd | hd
    · simpa using hmid d hd
    · rw [List.mem_singleton.mp hd, hlast]
      decide
  tag?_append {tag t rest} h rest' := by
    obtain ⟨c, mid, last, heq, -, -, -, hrest⟩ := thinkTag?_eq_some char h
    obtain rfl := List.append_cancel_right heq
    exact hrest rest'

end Syntax

/-- `"\n".join(part.strip() for part in parts).strip()`. -/
def joinParts (parts : List (List Char)) : String :=
  PyString.strip ("\n".intercalate (parts.map fun part => PyString.strip (String.ofList part)))

/-- `split_reasoning`: the answer and the reasoning. -/
def splitReasoning (text : String) : String × String :=
  if text = "" then ("", "")
  else
    let parts := (reasoningTags id).blocks text.toList
    let answer := (reasoningTags id).dropBlocks text.toList
    match (reasoningTags id).unterminated? answer with
    | some (before, inside) => (PyString.strip (String.ofList before), joinParts (parts ++ [inside]))
    | none => (PyString.strip (String.ofList answer), joinParts parts)

/-! ### The characters of the answer -/

def marked (text : String) : List (Char × ℕ) := text.toList.zipIdx

/-- The tags of reasoning, over characters that carry their positions. -/
abbrev markedTags : TagSyntax (Char × ℕ) (List Char) := reasoningTags Prod.fst

/-- What `split_reasoning` leaves as the answer, with the positions of its characters. -/
def answerCharacters (text : String) : List (Char × ℕ) :=
  markedTags.strip (markedTags.beforeOpening (markedTags.dropBlocks (marked text)))

/-- What stands outside of all reasoning blocks. -/
def outsideCharacters (text : String) : List (Char × ℕ) :=
  outside [] (markedTags.lex (marked text))

/-- Every closing tag closes the innermost open block; blocks can be left open. -/
def WellNested (text : String) : Prop := Nested [] (markedTags.lex (marked text))

/-- The outside text read together opens no block; and where the first closing tag of a block's name
does not end the block, what the search leaves after it is blank up to the next opening tag, and so
is the outside text. -/
structure Separable (text : String) : Prop where
  closed : markedTags.unterminated? (outsideCharacters text) = none
  blank : ∀ found ∈ markedTags.overrun (marked text),
    (∀ c ∈ markedTags.beforeOpening (markedTags.dropBlocks found.2),
        PyString.isSpace c.1 = true) ∧
      ∀ c ∈ outside found.1 (markedTags.lex found.2), PyString.isSpace c.1 = true

section Maps

variable {α : Type} (char : α → Char)

theorem isNamed_map (body : List α) (name : List Char) :
    isNamed id (body.map char) name = isNamed char body name := by
  unfold isNamed
  rw [List.length_map, List.zip_map_right, List.all_map, ← List.map_drop, List.all_map]
  rfl

theorem tagName?_map (text : List α) : tagName? id (text.map char) =
    (tagName? char text).map fun found => (found.1, found.2.map char) := by
  have htake : (text.map char).takeWhile (fun c => id c ≠ '>') =
      (text.takeWhile fun c => char c ≠ '>').map char := List.takeWhile_map ..
  have hdrop : (text.map char).dropWhile (fun c => id c ≠ '>') =
      (text.dropWhile fun c => char c ≠ '>').map char := List.dropWhile_map ..
  have hnamed : isNamed id ((text.takeWhile fun c => char c ≠ '>').map char) =
      isNamed char (text.takeWhile fun c => char c ≠ '>') := funext fun name =>
    isNamed_map char _ name
  unfold tagName?
  simp only [htake, hdrop, hnamed]
  cases text.dropWhile fun c => char c ≠ '>' with
  | nil => rfl
  | cons last rest =>
    simp only [List.map_cons, Option.map_map, ← List.map_take, List.map_map]
    rfl

theorem maps_reasoningTags : Maps (reasoningTags char) (reasoningTags id) char where
  blank _ := rfl
  tag? text := by
    show thinkTag? id (text.map char) = (thinkTag? char text).map _
    rcases text with _ | ⟨c, _ | ⟨d, rest⟩⟩
    · rfl
    · show thinkTag? id [char c] = _
      rw [thinkTag?, thinkTag?]
      by_cases hopens : char c = '<'
      · rw [if_pos hopens, if_pos (show id (char c) = '<' from hopens)]
        rfl
      · rw [if_neg hopens, if_neg (show ¬ id (char c) = '<' from hopens)]
        rfl
    · show thinkTag? id (char c :: char d :: rest.map char) = _
      rw [thinkTag?, thinkTag?]
      by_cases hopens : char c = '<'
      · rw [if_pos hopens, if_pos (show id (char c) = '<' from hopens)]
        by_cases hslash : char d = '/'
        · rw [if_pos hslash, if_pos (show id (char d) = '/' from hslash), tagName?_map,
            Option.map_map, Option.map_map]
          rfl
        · rw [if_neg hslash, if_neg (show ¬ id (char d) = '/' from hslash), ← List.map_cons,
            tagName?_map, Option.map_map, Option.map_map]
          rfl
      · rw [if_neg hopens, if_neg (show ¬ id (char c) = '<' from hopens)]
        rfl

end Maps

theorem answer_eq (text : String) :
    (splitReasoning text).1.toList = (answerCharacters text).map Prod.fst := by
  have hmaps := maps_reasoningTags (Prod.fst : Char × ℕ → Char)
  have hmarked : (marked text).map Prod.fst = text.toList := List.zipIdx_map_fst 0 _
  have hstrip : ∀ l : List Char, (PyString.strip (String.ofList l)).toList =
      (reasoningTags id).strip l := by
    intro l
    unfold PyString.strip
    rw [String.toList_ofList, String.toList_ofList]
    rfl
  have hkept : (answerCharacters text).map Prod.fst = (reasoningTags id).strip
      ((reasoningTags id).beforeOpening ((reasoningTags id).dropBlocks text.toList)) := by
    rw [← hmarked, hmaps.dropBlocks, hmaps.beforeOpening, hmaps.strip]
    rfl
  rw [hkept]
  unfold splitReasoning
  split
  · rename_i hempty
    rw [hempty]
    rfl
  · show (match (reasoningTags id).unterminated? _ with
      | some (before, inside) => (_, _)
      | none => (_, _) : String × String).1.toList = _
    unfold TagSyntax.beforeOpening
    cases (reasoningTags id).unterminated? ((reasoningTags id).dropBlocks text.toList) with
    | none => exact hstrip _
    | some found => exact hstrip _

/-- **The answer** is the text outside every block, trimmed, exactly when the reply is separable. -/
theorem splitReasoning_iff {text : String} (h : WellNested text) :
    (splitReasoning text).1.toList = (answerCharacters text).map Prod.fst ∧
      (answerCharacters text = markedTags.strip (outsideCharacters text) ↔ Separable text) := by
  refine ⟨answer_eq text, ?_⟩
  have hnodup : (marked text).Nodup := by
    refine List.Nodup.of_map Prod.snd ?_
    rw [marked, List.zipIdx_map_snd]
    exact List.nodup_range'
  have hboth := TagSyntax.strip_iff (S := markedTags) [] hnodup h
  rw [List.nil_append, List.nil_append] at hboth
  unfold answerCharacters outsideCharacters
  rw [hboth]
  exact ⟨fun ⟨hclosed, hblank⟩ => ⟨hclosed, hblank⟩, fun ⟨hclosed, hblank⟩ => ⟨hclosed, hblank⟩⟩

/-- Reasoning within reasoning of another name, and a block that the budget cut off. -/
theorem nested_reply_split : answerCharacters "a<think>b<Thinking >c</thinking></THINK>d<think>e" =
    markedTags.strip (outsideCharacters "a<think>b<Thinking >c</thinking></THINK>d<think>e") := by
  have h : WellNested "a<think>b<Thinking >c</thinking></THINK>d<think>e" := by
    unfold WellNested
    decide +kernel
  refine (splitReasoning_iff h).2.mpr ⟨by decide +kernel, ?_⟩
  have hnone : markedTags.overrun (marked "a<think>b<Thinking >c</thinking></THINK>d<think>e") =
      none := by decide +kernel
  rw [hnone]
  exact nofun

/-- A block in a block of its own name: what follows the first closing tag is taken for the answer. -/
theorem rehearsed_answer_kept : WellNested "<think>a<think>b</think>c</think>d" ∧
    answerCharacters "<think>a<think>b</think>c</think>d" ≠
      markedTags.strip (outsideCharacters "<think>a<think>b</think>c</think>d") ∧
    (splitReasoning "<think>a<think>b</think>c</think>d").1 = "c</think>d" := by
  refine ⟨?_, by decide +kernel, by decide +kernel⟩
  unfold WellNested
  decide +kernel

end Governance
