import Galley.Page
import Galley.Proofs.Pool
import Galley.Proofs.Segmenter.Account
import Mathlib.Data.List.Nodup

/-!
This module contains where the words of a page end up: a segmenter only ever adds to its finished
words, and a collector has put each of them away exactly once, in the order in which they were
drawn.
-/

namespace Galley

variable {α : Type} [Scalar α]

namespace Word

omit [Scalar α] in
/-- Words by their numbers on the page. -/
def sortByOrder (words : List (Word α)) : List (Word α) :=
  words.mergeSort fun v w => v.order ≤ w.order

omit [Scalar α] in
theorem sortByOrder_eq_of_perm {words stored : List (Word α)} {n : Nat}
    (hperm : stored.Perm words) (horders : words.map Word.order = List.range n)
    : sortByOrder stored = words := by
  have hincreasing : words.Pairwise fun v w => v.order < w.order := by
    rw [← List.pairwise_map, horders]
    exact List.pairwise_lt_range
  have hdistinct : (words.map Word.order).Nodup := by
    rw [horders]
    exact List.nodup_range
  have hsorted : (sortByOrder stored).Pairwise fun v w => v.order ≤ w.order := by
    apply List.Pairwise.imp of_decide_eq_true
    apply List.pairwise_mergeSort
    . simp only [decide_eq_true_iff]
      omega
    . simp only [Bool.or_eq_true, decide_eq_true_iff]
      omega
  have hsame : (sortByOrder stored).Perm words := (List.mergeSort_perm _ _).trans hperm
  apply List.Perm.eq_of_pairwise _ hsorted (hincreasing.imp Nat.le_of_lt) hsame
  intro v w hv hw hvw hwv
  exact List.inj_on_of_nodup_map hdistinct (hsame.mem_iff.mp hv) hw (Nat.le_antisymm hvw hwv)

end Word

namespace Segmenter

section Finished

variable (settings : Settings α) (s : Segmenter α) (g : Glyph α)

theorem finished_suffix_close : s.finished <:+ s.close.finished := by
  unfold close
  split
  . exact List.suffix_rfl
  . split
    . exact List.suffix_rfl
    . exact List.suffix_cons _ _

theorem finished_suffix_separate : s.finished <:+ (s.separate settings g).finished := by
  unfold separate
  split
  . exact List.suffix_rfl
  . simp only
    split
    . exact s.finished_suffix_close
    . exact List.suffix_rfl

theorem finished_suffix_accept : s.finished <:+ (s.accept settings g).finished := by
  have hseparate := s.finished_suffix_separate settings g
  rw [accept_eq]
  split
  . exact hseparate.trans (finished_suffix_close _)
  . exact hseparate

theorem finished_suffix_push (page : Box α)
    : s.finished <:+ (s.push page settings g).finished := by
  rw [push_eq_meet]
  generalize s.tally.note _ _ = noted
  cases fateAt page settings s.tally.tiny g with
  | accepted => exact finished_suffix_accept settings (s.withTally noted) g
  | blank => exact (s.withTally noted).finished_suffix_close
  | _ => exact List.suffix_rfl

end Finished

omit [Scalar α] in
/-- The later words are those of the earlier state and what was finished since. -/
theorem words_append_finishedSince {s earlier : Segmenter α} (hs : s.Sound)
    (hearlier : earlier.Sound) (h : earlier.finished <:+ s.finished)
    : earlier.words ++ s.finishedSince earlier = s.words := by
  have hlength : ∀ {t : Segmenter α}, t.Sound → t.finished.length = t.tally.words := by
    intro t ht
    have hcount := congrArg List.length ht.orders
    unfold words at hcount
    rw [List.length_map, List.length_reverse, List.length_range] at hcount
    exact hcount
  obtain ⟨new, hnew⟩ := h
  have hcount : s.tally.words - earlier.tally.words = new.length := by
    rw [← hlength hs, ← hlength hearlier, ← hnew, List.length_append]
    omega
  unfold finishedSince words
  rw [hcount, ← hnew, List.take_left, List.reverse_append]

end Segmenter

namespace WordStore

theorem foldl_put_of_streamOrder {settings : Settings α} (h : settings.streamOrder = true)
    (store : WordStore α) (words : List (Word α))
    : words.foldl (put settings) store
        =
      { store with latest := words.reverse ++ store.latest } := by
  induction words generalizing store with
  | nil => rfl
  | cons w rest ih =>
    rw [List.foldl_cons, ih]
    simp [put, h]

theorem foldl_put_of_not_streamOrder {settings : Settings α} (h : settings.streamOrder = false)
    (store : WordStore α) (words : List (Word α))
    : words.foldl (put settings) store
        =
      { store with pools := words.foldl Pools.add store.pools } := by
  induction words generalizing store with
  | nil => rfl
  | cons w rest ih =>
    rw [List.foldl_cons, ih]
    simp [put, h]

end WordStore

namespace Collector

omit [Scalar α] in
theorem exists_warn_eq (settings : Settings α) (c : Collector α) (w : Warning)
    : ∃ warnings, c.warn settings w = { c with warnings := warnings } := by
  unfold warn
  split
  . exact ⟨_, rfl⟩
  . exact ⟨c.warnings, rfl⟩

omit [Scalar α] in
theorem exists_checkLimit_eq (settings : Settings α) (c : Collector α)
    : ∃ reported warnings,
        c.checkLimit settings = { c with limitReported := reported, warnings := warnings } := by
  unfold checkLimit
  split
  . obtain ⟨warnings, hwarn⟩ :=
      exists_warn_eq settings { c with limitReported := true } (.tinyGlyphs settings.tinyLimit)
    exact ⟨true, warnings, hwarn⟩
  . exact ⟨c.limitReported, c.warnings, rfl⟩

/-- Every finished word has been put away, one after the other. -/
structure Filed (settings : Settings α) (c : Collector α) : Prop where
  sound : c.segmenter.Sound
  store : c.store = c.segmenter.words.foldl (WordStore.put settings) (.empty settings.bucketHeight)

namespace Filed

variable {settings : Settings α} {c : Collector α}

theorem empty (settings : Settings α) : Filed settings (.empty settings) where
  sound := Segmenter.Sound.empty
  store := by rfl

theorem advance (h : c.Filed settings) {s : Segmenter α} (hs : s.Sound)
    (hfinished : c.segmenter.finished <:+ s.finished) : (c.advance settings s).Filed settings where
  sound := hs
  store := by
    unfold Collector.advance
    rw [← Segmenter.words_append_finishedSince hs h.sound hfinished, List.foldl_append, ← h.store]

theorem close (h : c.Filed settings) : (c.advance settings c.segmenter.close).Filed settings := by
  apply h.advance
  . exact h.sound.close
  . apply Segmenter.finished_suffix_close

theorem accept (h : c.Filed settings) (page : Box α) (event : Content.Event α)
    : (c.accept page settings event).Filed settings := by
  cases event with
  | glyph g =>
    have hadvance : (c.advance settings (c.segmenter.push page settings g)).Filed settings := by
      apply h.advance
      . exact h.sound.push page settings g
      . apply Segmenter.finished_suffix_push
    obtain ⟨reported, warnings, hcheck⟩ :=
      exists_checkLimit_eq settings (c.advance settings (c.segmenter.push page settings g))
    rw [Collector.accept, hcheck]
    exact ⟨hadvance.sound, hadvance.store⟩
  | textEnd => exact h.close
  | warning w =>
    obtain ⟨warnings, hwarn⟩ := exists_warn_eq settings c w
    rw [Collector.accept, hwarn]
    exact ⟨h.sound, h.store⟩

theorem foldl_accept (h : c.Filed settings) (page : Box α) (events : List (Content.Event α))
    : (events.foldl (Collector.accept page settings) c).Filed settings := by
  induction events generalizing c with
  | nil => exact h
  | cons event rest ih => exact ih (h.accept page event)

end Filed
end Collector

namespace Page

omit [Scalar α] in
/-- The words of a page in the order in which they were drawn, wherever they are kept. -/
def drawn (p : Page α) : List (Word α) :=
  if p.settings.streamOrder then p.store.stream else Word.sortByOrder p.store.pools.words

section Stream

variable {p : Page α} (h : p.settings.streamOrder = true)

include h

theorem words_of_streamOrder : p.words = p.drawn := by
  unfold words drawn
  rw [if_pos h, if_pos h]

theorem plainText_of_streamOrder : p.plainText = Rendering.stream p.settings p.drawn := by
  unfold plainText drawn
  rw [if_pos h, if_pos h]

end Stream

section Pooled

variable {p : Page α} (h : p.settings.streamOrder = false)

include h

theorem words_of_not_streamOrder
    : p.words = p.pools.readingOrder p.settings.lineOptions := by
  unfold words pools
  rw [h]
  rfl

theorem plainText_of_not_streamOrder : p.plainText = Rendering.plain p.settings p.pools := by
  unfold plainText pools
  rw [h]
  rfl

end Pooled

/-- A page whose store was filled with these words, one after the other. -/
structure Holds (p : Page α) (words : List (Word α)) : Prop where
  store : p.store = words.foldl (WordStore.put p.settings) (.empty p.settings.bucketHeight)
  orders : words.map Word.order = List.range words.length

namespace Holds

variable {p : Page α} {words : List (Word α)}

theorem pools_eq (h : p.Holds words) : p.pools = .ofWords p.settings.bucketHeight words := by
  unfold pools
  rw [h.store]
  split
  . next hstream =>
    rw [WordStore.foldl_put_of_streamOrder hstream]
    simp [WordStore.stream, WordStore.empty]
  . next hstream =>
    rw [WordStore.foldl_put_of_not_streamOrder (by simpa using hstream)]
    rfl

theorem words_pools_perm (h : p.Holds words) : p.pools.words.Perm words := by
  rw [h.pools_eq]
  apply Pools.words_ofWords_perm

theorem sortByOrder_pools (h : p.Holds words) : Word.sortByOrder p.pools.words = words :=
  Word.sortByOrder_eq_of_perm h.words_pools_perm h.orders

theorem stream_eq (h : p.Holds words) (hstream : p.settings.streamOrder = true)
    : p.store.stream = words := by
  rw [h.store, WordStore.foldl_put_of_streamOrder hstream]
  simp [WordStore.stream, WordStore.empty]

theorem drawn_eq (h : p.Holds words) : p.drawn = words := by
  unfold drawn
  split
  . next hstream => exact h.stream_eq hstream
  . next hstream =>
    have hsorted := h.sortByOrder_pools
    unfold pools at hsorted
    rw [if_neg hstream] at hsorted
    exact hsorted

end Holds
end Page
end Galley
