/-
Logs that are read stream by stream.

A log is a list of events, each in one stream.  A reader that receives the
events in some other order collects them by stream, sorts every stream and
reads one stream after the other (`streams`).  If the log orders every stream
strictly and the key of an event determines its stream, the reader sees the
events of each key in the order of the log (`filter_flatten_streams`), and so
whatever depends on the events of one key comes out the same
(`observe_foldl`).
-/
import Mathlib.Data.List.Pairwise
import Mathlib.Data.List.Sort

namespace EventLog

variable {α σ κ : Type*} [DecidableEq σ] [DecidableEq κ]

section Streams

variable (stream : α → σ) (le : α → α → Prop) [DecidableRel le]

/-- The streams in the order of their first event, each sorted. -/
def streams (events : List α) : List (List α) :=
  (events.map stream).eraseDups.map fun s =>
    (events.filter fun e => stream e = s).insertionSort le

end Streams

theorem nodup_eraseDups (l : List σ) : l.eraseDups.Nodup := by
  -- dropping the copies of the head makes the tail no longer, so the induction is on the length
  induction hn : l.length using Nat.strong_induction_on generalizing l with
  | _ n ih =>
    cases l with
    | nil => exact List.nodup_nil
    | cons a l =>
      have hlt : (l.filter fun b => !b == a).length < n := by
        have hle := List.length_filter_le (fun b => !b == a) l
        simp only [List.length_cons] at hn
        omega
      rw [List.eraseDups_cons]
      refine List.nodup_cons.mpr ⟨fun hmem => ?_, ih _ hlt _ rfl⟩
      have hne := (List.mem_filter.mp (List.mem_eraseDups.mp hmem)).2
      simp at hne

/-- Only one of the pieces is not empty. -/
theorem flatten_map_ite {l : List σ} (hn : l.Nodup) (s : σ) (x : List α) :
    (l.map fun i => if i = s then x else []).flatten = if s ∈ l then x else [] := by
  induction l with
  | nil => simp
  | cons a l ih =>
    rw [List.nodup_cons] at hn
    rw [List.map_cons, List.flatten_cons, ih hn.2]
    by_cases ha : a = s
    · subst ha
      simp [hn.1]
    · simp [ha, Ne.symm ha]

section Reader

variable {stream : α → σ} {le : α → α → Prop} [DecidableRel le] [Std.Total le] [IsTrans α le]
  {log events : List α}

/-- Sorting the events of a stream restores the order of the log. -/
theorem insertionSort_eq_filter (hperm : events.Perm log)
    (hstrict : log.Pairwise fun a b => stream a = stream b → le a b ∧ ¬ le b a) (s : σ) :
    (events.filter fun e => stream e = s).insertionSort le = log.filter fun e => stream e = s := by
  have hpair : (log.filter fun e => stream e = s).Pairwise fun a b => le a b ∧ ¬ le b a := by
    rw [List.pairwise_filter]
    refine hstrict.imp fun {a b} hab ha hb => hab ?_
    rw [of_decide_eq_true ha, of_decide_eq_true hb]
  -- two events of the stream that precede each other are the same
  have hanti : ∀ a ∈ log.filter fun e => stream e = s, ∀ b ∈ log.filter fun e => stream e = s,
      le a b → le b a → a = b := by
    intro a ha b hb hab hba
    by_contra hne
    have hsymm : (log.filter fun e => stream e = s).Pairwise fun a b => ¬ (le a b ∧ le b a) :=
      hpair.imp fun h hc => h.2 hc.2
    have : Std.Symm fun a b => ¬ (le a b ∧ le b a) := ⟨fun _ _ h hc => h ⟨hc.2, hc.1⟩⟩
    exact hsymm.forall ha hb hne ⟨hab, hba⟩
  have hsort := (List.perm_insertionSort le (events.filter fun e => stream e = s)).trans
    (hperm.filter fun e => stream e = s)
  have hsame : ∀ a b, a ∈ (events.filter fun e => stream e = s).insertionSort le →
      b ∈ log.filter (fun e => stream e = s) → le a b → le b a → a = b :=
    fun a b ha hb => hanti a (hsort.mem_iff.mp ha) b hb
  exact List.Perm.eq_of_pairwise hsame (List.pairwise_insertionSort le _) (hpair.imp And.left)
    hsort

/-- **The reader sees the events of each key in the order of the log.** -/
theorem filter_flatten_streams (hperm : events.Perm log)
    (hstrict : log.Pairwise fun a b => stream a = stream b → le a b ∧ ¬ le b a)
    {key : α → κ} {home : κ → σ} (hhome : ∀ e ∈ log, stream e = home (key e)) (k : κ) :
    (streams stream le events).flatten.filter (fun e => key e = k)
      = log.filter fun e => key e = k := by
  have hpiece : ∀ s, ((log.filter fun e => stream e = s).filter fun e => key e = k)
      = if s = home k then log.filter fun e => key e = k else [] := by
    intro s
    rw [List.filter_filter]
    by_cases hs : s = home k
    · rw [if_pos hs]
      refine List.filter_congr fun e he => ?_
      by_cases hk : key e = k
      · simp [hk, hs, hhome e he]
      · simp [hk]
    · rw [if_neg hs, List.filter_eq_nil_iff]
      intro e he hc
      simp only [Bool.and_eq_true, decide_eq_true_eq] at hc
      exact hs (by rw [← hc.2, hhome e he, hc.1])
  have hpieces : (streams stream le events).map (List.filter fun e => key e = k)
      = (events.map stream).eraseDups.map fun s =>
        if s = home k then log.filter fun e => key e = k else [] := by
    unfold streams
    rw [List.map_map]
    refine List.map_congr_left fun s _ => ?_
    rw [Function.comp_apply, insertionSort_eq_filter hperm hstrict, hpiece]
  rw [List.filter_flatten, hpieces, flatten_map_ite (nodup_eraseDups _)]
  split
  · rfl
  · rename_i hnone
    -- no event of the log is in the stream of the key
    symm
    rw [List.filter_eq_nil_iff]
    intro e he hc
    refine hnone (List.mem_eraseDups.mpr (List.mem_map.mpr ⟨e, hperm.mem_iff.mpr he, ?_⟩))
    rw [hhome e he, of_decide_eq_true hc]

end Reader

/-- One more event. -/
theorem foldl_filter_concat {ω : Type*} (track : ω → α → ω) (p : α → Bool) (log : List α) (e : α)
    (o : ω) : ((log ++ [e]).filter p).foldl track o
      = if p e then track ((log.filter p).foldl track o) e else (log.filter p).foldl track o := by
  rw [List.filter_append, List.foldl_append]
  by_cases he : p e
  · rw [if_pos he, List.filter_cons_of_pos he]
    rfl
  · rw [if_neg he, List.filter_cons_of_neg he]
    rfl

/-- What only the events of key `k` change depends on these events only. -/
theorem observe_foldl {π ω : Type*} {advance : π → α → π} (observe : π → ω) {track : ω → α → ω}
    {key : α → κ} {k : κ} (log : List α)
    (h : ∀ e ∈ log, ∀ p, observe (advance p e)
      = if key e = k then track (observe p) e else observe p) (p : π) :
    observe (log.foldl advance p) = (log.filter fun e => key e = k).foldl track (observe p) := by
  induction log generalizing p with
  | nil => rfl
  | cons e log ih =>
    have hrest := ih (fun e' he' => h e' (List.mem_cons_of_mem _ he')) (advance p e)
    rw [List.foldl_cons, hrest, h e List.mem_cons_self p]
    by_cases hk : key e = k
    · rw [if_pos hk, List.filter_cons_of_pos (by simp [hk]), List.foldl_cons]
    · rw [if_neg hk, List.filter_cons_of_neg (by simp [hk])]

end EventLog
