import StyleValue.Diagnostic.Snippet
import StyleValue.Text.Lines

/-!
# Cutting a snippet out of a text

`Snippet.cut` takes the lines around an offending one out of a text one by one, by their indices.
An index is counted from zero, or back from the end if it is negative, and may lie outside the
lines; a line that is missing is reported.  None is missing, since the indices are cut off at both
ends of the text, and so there is a snippet around every line (`Snippet.ofSource`).
-/

namespace StyleValue

/-- There is no line at an index. -/
structure MissingLine where
  index : Int
  deriving DecidableEq

/-- Steps that all succeed succeed together. -/
theorem exists_mapM {α β ε : Type} {f : α → Except ε β} {as : List α}
    (h : ∀ a ∈ as, ∃ b, f a = .ok b) :
  ∃ bs, as.mapM f = .ok bs
  := by
  induction as with
  | nil => exact ⟨[], rfl⟩
  | cons a rest ih =>
      obtain ⟨b, first⟩ := h a List.mem_cons_self
      obtain ⟨bs, others⟩ := ih fun a' inRest => h a' (.tail a inRest)
      refine ⟨b :: bs, ?_⟩
      rw [List.mapM_cons, first, others]
      rfl

namespace Snippet

/-- The line at an index, counted back from the end of the lines if it is negative. -/
def lineAt (lines : List String) (index : Int) : Except MissingLine String :=
  let place := if index < 0 then index + lines.length else index
  match if place < 0 then none else lines[place.toNat]? with
  | some content => .ok content
  | none => .error ⟨index⟩

/-- The line at an index with its number, counted from one. -/
def numberedAt (lines : List String) (index : Int) : Except MissingLine (Int × String) := do
  return (index + 1, ← lineAt lines index)

/-- The index of the first line of a window. -/
def firstIndex (errorLine context : Int) : Int := max 0 (errorLine - 1 - context)

/-- The index behind that of the last line of a window. -/
def stopIndex (count : Nat) (errorLine context : Int) : Int :=
  min (count : Int) (errorLine + context)

/-- The indices from `first` on that are less than `stop`. -/
def indices (first stop : Int) : List Int :=
  (List.range (stop - first).toNat).map fun i : Nat => first + i

/-- The snippet of a text around one of its lines, put together line by line. -/
def cut (source : String) (errorLine context : Int) (column : Option Int) :
    Except MissingLine Snippet := do
  let lines := Text.lines source
  let chosen := indices (firstIndex errorLine context) (stopIndex lines.length errorLine context)
  let shown ← chosen.mapM (numberedAt lines)
  return ⟨shown, errorLine, column⟩

/-! ### No line is missing -/

theorem lineAt_natCast {lines : List String} {i : Nat} {content : String}
    (h : lines[i]? = some content) :
  lineAt lines i = .ok content
  := by
  have counted : ¬ (i : Int) < 0 := by omega
  simp only [lineAt, if_neg counted, Int.toNat_natCast, h]

theorem mem_indices {first stop i : Int} (h : i ∈ indices first stop) :
  first ≤ i ∧ i < stop
  := by
  obtain ⟨k, below, rfl⟩ := List.mem_map.mp h
  rw [List.mem_range] at below
  omega

theorem firstIndex_nonneg (errorLine context : Int) :
  0 ≤ firstIndex errorLine context
  := Int.le_max_left _ _

theorem stopIndex_le (count : Nat) (errorLine context : Int) :
  stopIndex count errorLine context ≤ count
  := Int.min_le_left _ _

/-- All indices of a window are those of lines. -/
theorem exists_numberedAt {lines : List String} {errorLine context i : Int}
    (h : i ∈ indices (firstIndex errorLine context) (stopIndex lines.length errorLine context)) :
  ∃ line, numberedAt lines i = .ok line
  := by
  obtain ⟨above, below⟩ := mem_indices h
  have first := firstIndex_nonneg errorLine context
  have last := stopIndex_le lines.length errorLine context
  obtain ⟨k, rfl⟩ := Int.eq_ofNat_of_zero_le (Int.le_trans first above)
  have here := List.getElem?_eq_getElem (l := lines) (i := k) (by omega)
  rw [numberedAt, lineAt_natCast here]
  exact ⟨_, rfl⟩

theorem exists_cut (source : String) (errorLine context : Int) (column : Option Int) :
  ∃ snippet, cut source errorLine context column = .ok snippet
  := by
  have found : ∀ i ∈ indices (firstIndex errorLine context)
        (stopIndex (Text.lines source).length errorLine context),
      ∃ line, numberedAt (Text.lines source) i = .ok line := fun _ => exists_numberedAt
  obtain ⟨shown, all⟩ := exists_mapM found
  rw [cut, all]
  exact ⟨_, rfl⟩

theorem isSome_toOption_cut (source : String) (errorLine context : Int) (column : Option Int) :
  (cut source errorLine context column).toOption.isSome
  := by
  obtain ⟨snippet, found⟩ := exists_cut source errorLine context column
  rw [found]
  rfl

/-- The snippet of a text around one of its lines. -/
def ofSource (source : String) (errorLine context : Int) (column : Option Int) : Snippet :=
  (cut source errorLine context column).toOption.get
    (isSome_toOption_cut source errorLine context column)

theorem ofSource_eq_of_cut {source : String} {errorLine context : Int} {column : Option Int}
    {snippet : Snippet} (h : cut source errorLine context column = .ok snippet) :
  ofSource source errorLine context column = snippet
  := by
  simp only [ofSource, h]
  rfl

end Snippet

end StyleValue
