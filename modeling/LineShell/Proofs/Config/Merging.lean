import LineShell.Config.Basic
import LineShell.Proofs.Shell.Registration
import Mathlib.Data.List.Basic
import Mathlib.Tactic.Common

/-!
# Lists of an overlay

An overlay takes items out of a list and adds others.

**Adding.**  Items are added one at a time, and each is looked for in what has been put together so
far.  What is added in the end are the items that were not there to begin with, each once, in the
order in which they first come up (`Additions`).  Adding one item keeps this
(`Additions.exists_addItem`), so adding a list does.

**Again.**  An item that an overlay both takes out and adds moves to the end each time, so the list
can change when the same overlay is merged in again.  Its items do not, and they are all that the
registry looks at.
-/

namespace LineShell

/-! ## Adding -/

/-- What adding some items to a list adds to it. -/
structure Additions (kept added fresh : List Text) : Prop where
  mem_iff : ∀ x, x ∈ fresh ↔ x ∈ added ∧ x ∉ kept
  /-- The items stand in the order in which they first come up. -/
  inOrder : fresh.Pairwise fun x y => added.idxOf x < added.idxOf y

namespace Additions

variable {kept added fresh : List Text}

lemma nodup (h : Additions kept added fresh) : fresh.Nodup := by
  refine h.inOrder.imp ?_
  rintro x y hlt rfl
  exact Nat.lt_irrefl _ hlt

/-- Items that come later leave the order of those before them. -/
lemma inOrder_append (h : Additions kept added fresh) (more : List Text) :
    fresh.Pairwise fun x y => (added ++ more).idxOf x < (added ++ more).idxOf y := by
  refine h.inOrder.imp_of_mem ?_
  intro x y hx hy hlt
  rw [List.idxOf_append_of_mem ((h.mem_iff x).mp hx).1,
    List.idxOf_append_of_mem ((h.mem_iff y).mp hy).1]
  exact hlt

/-- **One more item** is added behind the others, unless it is there. -/
lemma exists_addItem (h : Additions kept added fresh) (x : Text) :
    ∃ fresh', addItem (kept ++ fresh) x = kept ++ fresh' ∧
      Additions kept (added ++ [x]) fresh' := by
  by_cases hx : x ∈ kept ++ fresh
  · refine ⟨fresh, by simp [addItem, List.mem_append.mp hx], fun y => ?_, h.inOrder_append [x]⟩
    rw [h.mem_iff y, List.mem_append, List.mem_singleton]
    refine ⟨fun hy => ⟨.inl hy.1, hy.2⟩, fun hy => ⟨hy.1.elim id ?_, hy.2⟩⟩
    -- the item is not among those that are kept, so it has been added before
    rintro rfl
    exact ((h.mem_iff y).mp ((List.mem_append.mp hx).resolve_left hy.2)).1
  · rw [List.mem_append, not_or] at hx
    have hnew : x ∉ added := fun hmem => hx.2 ((h.mem_iff x).mpr ⟨hmem, hx.1⟩)
    refine ⟨fresh ++ [x], by simp [addItem, hx], fun y => ?_, ?_⟩
    · simp only [List.mem_append, List.mem_singleton, h.mem_iff y]
      refine ⟨?_, fun hy => hy.1.imp (⟨·, hy.2⟩) id⟩
      rintro (hy | rfl)
      · exact ⟨.inl hy.1, hy.2⟩
      · exact ⟨.inr rfl, hx.1⟩
    · refine List.pairwise_append.mpr ⟨h.inOrder_append [x], List.pairwise_singleton _ _, ?_⟩
      intro y hy z hz
      obtain rfl := List.mem_singleton.mp hz
      have hy' := ((h.mem_iff y).mp hy).1
      rw [List.idxOf_append_of_mem hy', List.idxOf_append_of_notMem hnew]
      exact Nat.lt_add_right _ (List.idxOf_lt_length_of_mem hy')

end Additions

/-- **Adding a list** adds what is new of it. -/
lemma exists_additions (kept added : List Text) :
    ∃ fresh, added.foldl addItem kept = kept ++ fresh ∧ Additions kept added fresh := by
  -- the items are added from the first on, so the induction is on the last one
  induction added using List.reverseRecOn with
  | nil => exact ⟨[], by simp, by simp, .nil⟩
  | append_singleton added x ih =>
      obtain ⟨fresh, heq, hfresh⟩ := ih
      rw [List.foldl_append, heq]
      exact hfresh.exists_addItem x

/-! ## Merging -/

section

variable {base added removed : List Text} {replaced : Bool} {x : Text}

lemma mergeList_false : mergeList base added removed false =
    added.foldl addItem (base.filter (· ∉ removed)) := by
  simp [mergeList]

lemma mem_mergeList : x ∈ mergeList base added removed false ↔
    x ∈ base ∧ x ∉ removed ∨ x ∈ added := by
  obtain ⟨fresh, heq, hfresh⟩ := exists_additions (base.filter (· ∉ removed)) added
  rw [mergeList_false, heq, List.mem_append, hfresh.mem_iff]
  simp only [List.mem_filter, decide_eq_true_eq]
  tauto

lemma nodup_mergeList (h : base.Nodup) : (mergeList base added removed false).Nodup := by
  obtain ⟨fresh, heq, hfresh⟩ := exists_additions (base.filter (· ∉ removed)) added
  rw [mergeList_false, heq]
  refine List.nodup_append.mpr ⟨h.filter _, hfresh.nodup, ?_⟩
  rintro y hy z hz rfl
  exact ((hfresh.mem_iff y).mp hz).2 hy

/-- Merging the same lists again leaves the items. -/
lemma mem_mergeList_mergeList :
    x ∈ mergeList (mergeList base added removed replaced) added removed replaced ↔
      x ∈ mergeList base added removed replaced := by
  cases replaced with
  | true => rfl
  | false =>
      rw [mem_mergeList, mem_mergeList]
      tauto

end

lemma Config.mark_apply_apply (c : Config) (o : Overlay) :
    ((c.apply o).apply o).apps.mark = (c.apply o).apps.mark := by
  simp only [Config.apply]
  cases o.apps.mark <;> rfl

/-- **Merging a list** keeps the items of the base that are not removed, in their order, and puts
    behind them the added items that are not among these, each once, in the order in which they
    first come up; a list that replaces the base is taken as it is.  Merging the same overlay in
    again leaves which builtins are disabled, and so the registry. -/
theorem mergeList_merges (base added removed : List Text) :
    let kept := base.filter (· ∉ removed)
    let merged := mergeList base added removed false
    (∃ fresh, merged = kept ++ fresh ∧ (∀ x, x ∈ fresh ↔ x ∈ added ∧ x ∉ kept) ∧ fresh.Nodup ∧
      fresh.Pairwise fun x y => added.idxOf x < added.idxOf y) ∧
    (∀ x, x ∈ merged ↔ x ∈ base ∧ x ∉ removed ∨ x ∈ added) ∧
    (base.Nodup → merged.Nodup) ∧
    mergeList base added removed true = added ∧
    (∀ replaced x, x ∈ mergeList (mergeList base added removed replaced) added removed replaced ↔
      x ∈ mergeList base added removed replaced) ∧
    ∀ (c : Config) (o : Overlay),
      (∀ x, x ∈ ((c.apply o).apply o).apps.disabled ↔ x ∈ (c.apply o).apps.disabled) ∧
      Registry.ofConfig ((c.apply o).apply o).apps = Registry.ofConfig (c.apply o).apps := by
  intro kept merged
  refine ⟨?_, fun x => mem_mergeList, nodup_mergeList, rfl, fun replaced x =>
    mem_mergeList_mergeList, fun c o => ⟨fun x => mem_mergeList_mergeList, ?_⟩⟩
  · obtain ⟨fresh, heq, hfresh⟩ := exists_additions kept added
    exact ⟨fresh, mergeList_false.trans heq, hfresh.mem_iff, hfresh.nodup, hfresh.inOrder⟩
  · exact Registry.ofConfig_congr (c.mark_apply_apply o) fun b => mem_mergeList_mergeList

/-- An item that is added and removed at once stays, and moves to the end when the overlay is
    merged in again. -/
theorem mergeList_merges_moving :
    let base := ["cut".toList, "find".toList]
    let added := ["find".toList, "ls".toList, "cut".toList, "find".toList]
    let removed := ["find".toList]
    let once := mergeList base added removed false
    let twice := mergeList once added removed false
    once = ["cut".toList, "find".toList, "ls".toList] ∧
      twice = ["cut".toList, "ls".toList, "find".toList] ∧
      once.Nodup ∧ ∀ x, x ∈ twice ↔ x ∈ once := by
  intro base added removed once twice
  obtain ⟨_, _, hnodup, _, hagain, _⟩ := mergeList_merges base added removed
  exact ⟨by decide, by decide, hnodup (by decide), hagain false⟩

end LineShell
