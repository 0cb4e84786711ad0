import StyleValue.Diagnostic.Cut
import StyleValue.Proofs.Diagnostic.Window
import Mathlib.Algebra.Order.Ring.Abs
import Mathlib.Data.List.Forall2

/-!
# Which lines a snippet shows

A snippet can be cut out of a text whatever the offending line and the context are: they may be
negative or beyond the end of the text.  What it shows is a window of the lines
(`Snippet.ofSource_eq`): those at most `context` lines away from the offending one, with their
numbers, in order and without gaps (`Snippet.cut_isWindow`).
-/

namespace StyleValue

/-- Steps that all succeed give the list of their results. -/
theorem mapM_eq_ok_of_forall₂ {α β ε : Type} {f : α → Except ε β} {as : List α} {bs : List β}
    (h : List.Forall₂ (fun a b => f a = .ok b) as bs) :
  as.mapM f = .ok bs
  := by
  induction h with
  | nil => rfl
  | cons first _ ih =>
      rw [List.mapM_cons, first, ih]
      rfl

namespace Snippet

/-! ### Lines by their indices -/

theorem length_indices (first stop : Int) :
  (indices first stop).length = (stop - first).toNat
  := by
  rw [indices, List.length_map, List.length_range]

theorem getElem_indices {first stop : Int} {i : Nat} (h : i < (indices first stop).length) :
  (indices first stop)[i] = first + i
  := by
  simp only [indices, List.getElem_map, List.getElem_range]

/-! ### Windows -/

section

variable {lines : List String} {errorLine context : Int}

theorem length_window :
  (window lines errorLine context).length
    = (stopIndex lines.length errorLine context - firstIndex errorLine context).toNat
  := by
  have start := firstIndex_nonneg errorLine context
  have last := stopIndex_le lines.length errorLine context
  rw [window, List.length_take, List.length_drop, length_numbered]
  omega

/-- A window shows the lines of the text from the first index on. -/
theorem exists_getElem_window {i : Nat} (h : i < (window lines errorLine context).length) :
  ∃ content, lines[(firstIndex errorLine context).toNat + i]? = some content
    ∧ (window lines errorLine context)[i] = (firstIndex errorLine context + i + 1, content)
  := by
  have start := Int.toNat_of_nonneg (firstIndex_nonneg errorLine context)
  rw [length_window] at h
  have last := stopIndex_le lines.length errorLine context
  have inside : (firstIndex errorLine context).toNat + i < lines.length := by omega
  have here := List.getElem?_eq_getElem inside
  have shown : (window lines errorLine context)[i]?
      = some (firstIndex errorLine context + i + 1,
          lines[(firstIndex errorLine context).toNat + i]) := by
    rw [window, List.getElem?_take_of_lt h, List.getElem?_drop, getElem?_numbered, here,
      Option.map_some, Int.natCast_add, start]
  obtain ⟨_, atPlace⟩ := List.getElem?_eq_some_iff.mp shown
  exact ⟨_, here, atPlace⟩

/-- The numbers of a window are those that are not too far away. -/
theorem lt_length_window_iff {i : Nat} :
  i < (window lines errorLine context).length
    ↔ firstIndex errorLine context + i + 1 ≤ lines.length
      ∧ |firstIndex errorLine context + i + 1 - errorLine| ≤ context
  := by
  rw [length_window, stopIndex, abs_le]
  simp only [firstIndex]
  omega

theorem mem_window_iff {n : Int} {content : String} :
  (n, content) ∈ window lines errorLine context
    ↔ 1 ≤ n ∧ n ≤ lines.length ∧ |n - errorLine| ≤ context
      ∧ lines[(n - 1).toNat]? = some content
  := by
  have start := firstIndex_nonneg errorLine context
  have place (i : Nat) : (firstIndex errorLine context + i + 1 - 1).toNat
      = (firstIndex errorLine context).toNat + i := by omega
  rw [List.mem_iff_getElem]
  constructor
  · rintro ⟨i, inside, shown⟩
    obtain ⟨_, here, shown'⟩ := exists_getElem_window inside
    obtain ⟨rfl, rfl⟩ := Prod.mk.inj (shown'.symm.trans shown)
    obtain ⟨last, near⟩ := lt_length_window_iff.mp inside
    rw [← place] at here
    exact ⟨by omega, last, near, here⟩
  · rintro ⟨first, last, near, here⟩
    have above : firstIndex errorLine context + 1 ≤ n := by
      rw [abs_le] at near
      rw [firstIndex]
      omega
    obtain ⟨i, rfl⟩ := Int.le.dest above
    rw [Int.add_right_comm] at last near here ⊢
    have inside := lt_length_window_iff.mpr ⟨last, near⟩
    obtain ⟨_, here', shown⟩ := exists_getElem_window inside
    rw [← place, here, Option.some.injEq] at here'
    rw [← here'] at shown
    exact ⟨i, inside, shown⟩

end

/-- The numbered lines that are at most `context` lines away from a line. -/
structure IsWindow (lines : List String) (errorLine context : Int) (shown : List (Int × String)) :
    Prop where
  mem_iff (n : Int) (content : String) :
    (n, content) ∈ shown
      ↔ 1 ≤ n ∧ n ≤ lines.length ∧ |n - errorLine| ≤ context
        ∧ lines[(n - 1).toNat]? = some content
  /-- They stand in order, one after the other. -/
  consecutive : (shown.map Prod.fst).IsChain fun m n => n = m + 1

theorem isWindow_window (lines : List String) (errorLine context : Int) :
  IsWindow lines errorLine context (window lines errorLine context)
  where
  mem_iff _ _ := mem_window_iff
  consecutive := by
    apply List.isChain_iff_getElem.mpr
    intro i inside
    rw [List.length_map] at inside
    obtain ⟨_, -, shown⟩ := exists_getElem_window (Nat.lt_of_succ_lt inside)
    obtain ⟨_, -, next⟩ := exists_getElem_window inside
    rw [List.getElem_map, List.getElem_map, shown, next]
    simp only
    omega

/-! ### Cutting -/

/-- The lines at the indices of a window, with their numbers. -/
theorem mapM_numberedAt_indices (lines : List String) (errorLine context : Int) :
  (indices (firstIndex errorLine context) (stopIndex lines.length errorLine context)).mapM
      (numberedAt lines)
    = .ok (window lines errorLine context)
  := by
  have start := firstIndex_nonneg errorLine context
  apply mapM_eq_ok_of_forall₂
  apply List.forall₂_iff_get.mpr
  constructor
  · rw [length_indices, length_window]
  · intro i _ inside
    obtain ⟨content, here, shown⟩ := exists_getElem_window inside
    have place : firstIndex errorLine context + i
        = ((firstIndex errorLine context).toNat + i : Nat) := by omega
    simp only [List.get_eq_getElem, getElem_indices, shown]
    rw [place, numberedAt, lineAt_natCast here]
    rfl

theorem cut_eq_ok (source : String) (errorLine context : Int) (column : Option Int) :
  cut source errorLine context column
    = .ok ⟨window (Text.lines source) errorLine context, errorLine, column⟩
  := by
  rw [cut, mapM_numberedAt_indices]
  rfl

/-- The snippet of a text shows a window of its lines. -/
theorem ofSource_eq (source : String) (errorLine context : Int) (column : Option Int) :
  ofSource source errorLine context column
    = ⟨window (Text.lines source) errorLine context, errorLine, column⟩
  := ofSource_eq_of_cut (cut_eq_ok source errorLine context column)

/-- Cutting a snippet out of a text never fails.  The snippet shows the lines of the text that are
at most `context` lines away from the offending one. -/
theorem cut_isWindow (source : String) (errorLine context : Int) (column : Option Int) :
  ∃ shown, cut source errorLine context column = .ok ⟨shown, errorLine, column⟩
    ∧ IsWindow (Text.lines source) errorLine context shown
  := ⟨_, cut_eq_ok source errorLine context column, isWindow_window _ _ _⟩

end Snippet

end StyleValue
