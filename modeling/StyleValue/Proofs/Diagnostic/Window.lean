import StyleValue.Diagnostic.Cut
import Mathlib.Data.List.Basic

/-!
# Windows of lines

The window around a line that exists is made of the lines before it, the line itself and the lines
after it, as many to either side as the context has and the text allows (`Snippet.window_around`).
-/

namespace StyleValue

/-- The part of a list from `context` items before an item to as many after it. -/
theorem take_drop_around {α : Type} {l : List α} {k : Nat} {a : α} (h : l[k]? = some a)
    (context : Nat) :
  (l.drop (k - context)).take (min l.length (k + 1 + context) - (k - context))
    = (l.take k).drop (k - context) ++ a :: (l.drop (k + 1)).take context
  := by
  obtain ⟨inside, here⟩ := List.getElem?_eq_some_iff.mp h
  have split : l.drop (k - context)
      = (l.take k).drop (k - context) ++ a :: l.drop (k + 1) := by
    have whole : l.take k ++ a :: l.drop (k + 1) = l := by
      rw [← here, ← List.drop_eq_getElem_cons, List.take_append_drop]
    conv_lhs => rw [← whole]
    apply List.drop_append_of_le_length
    rw [List.length_take]
    omega
  have before : ((l.take k).drop (k - context)).length = k - (k - context) := by
    rw [List.length_drop, List.length_take]
    omega
  have after : min l.length (k + 1 + context) - (k - context) - (k - (k - context))
      = min context (l.drop (k + 1)).length + 1 := by
    rw [List.length_drop]
    omega
  rw [split, List.take_append, before, after, List.take_succ_cons, ← List.take_eq_take_min]
  congr 1
  apply List.take_of_length_le
  rw [before]
  omega

namespace Snippet

/-- The lines with their numbers, counted from one. -/
def numbered (lines : List String) : List (Int × String) :=
  lines.zipIdx.map fun (content, i) => ((i : Int) + 1, content)

theorem getElem?_numbered (lines : List String) (i : Nat) :
  (numbered lines)[i]? = lines[i]?.map fun content => ((i : Int) + 1, content)
  := by
  rw [numbered, List.getElem?_map, List.getElem?_zipIdx, Option.map_map]
  simp only [Function.comp_def, Nat.zero_add]

theorem length_numbered (lines : List String) :
  (numbered lines).length = lines.length
  := by
  rw [numbered, List.length_map, List.length_zipIdx]

/-- The numbered lines that are at most `context` lines away from `errorLine`. -/
def window (lines : List String) (errorLine context : Int) : List (Int × String) :=
  ((numbered lines).drop (firstIndex errorLine context).toNat).take
    (stopIndex lines.length errorLine context - firstIndex errorLine context).toNat

/-- The lines before line `k + 1`, at most as many as the context has. -/
def above (lines : List String) (k context : Nat) : List (Int × String) :=
  ((numbered lines).take k).drop (k - context)

/-- The lines after line `k + 1`, at most as many as the context has. -/
def below (lines : List String) (k context : Nat) : List (Int × String) :=
  ((numbered lines).drop (k + 1)).take context

/-- The lines around line `k + 1`. -/
theorem window_around {lines : List String} {k : Nat} {content : String}
    (h : lines[k]? = some content) (context : Nat) :
  window lines ((k : Int) + 1) context
    = above lines k context ++ ((k : Int) + 1, content) :: below lines k context
  := by
  have here : (numbered lines)[k]? = some ((k : Int) + 1, content) := by
    rw [getElem?_numbered, h, Option.map_some]
  rw [above, below, ← take_drop_around here context, length_numbered, window,
    firstIndex, stopIndex]
  congr 2 <;> omega

theorem length_below (lines : List String) (k context : Nat) :
  (below lines k context).length = min context (lines.length - (k + 1))
  := by
  rw [below, List.length_take, List.length_drop, length_numbered]

/-- The lines before line `k + 1` have smaller numbers. -/
theorem fst_lt_of_mem_above {lines : List String} {k context : Nat} {line : Int × String}
    (h : line ∈ above lines k context) :
  line.1 < (k : Int) + 1
  := by
  obtain ⟨i, before, at_i⟩ := List.mem_take_iff_getElem.mp (List.mem_of_mem_drop h)
  have here := List.getElem?_eq_getElem (l := numbered lines) (i := i) (by omega)
  rw [getElem?_numbered] at here
  obtain ⟨content, -, numbered⟩ := Option.map_eq_some_iff.mp here
  rw [← at_i, ← numbered]
  simp only
  omega

/-- The lines after line `k + 1` have greater numbers. -/
theorem lt_fst_of_mem_below {lines : List String} {k context : Nat} {line : Int × String}
    (h : line ∈ below lines k context) :
  (k : Int) + 1 < line.1
  := by
  obtain ⟨i, at_i⟩ := List.mem_iff_getElem?.mp (List.mem_of_mem_take h)
  rw [List.getElem?_drop, getElem?_numbered] at at_i
  obtain ⟨content, -, rfl⟩ := Option.map_eq_some_iff.mp at_i
  simp only
  omega

/-- A window shows lines of the text. -/
theorem snd_mem_of_mem_window {lines : List String} {errorLine context : Int}
    {line : Int × String} (h : line ∈ window lines errorLine context) :
  line.2 ∈ lines
  := by
  have numbered := List.mem_of_mem_drop (List.mem_of_mem_take h)
  obtain ⟨⟨content, i⟩, here, rfl⟩ := List.mem_map.mp numbered
  exact List.fst_mem_of_mem_zipIdx here

end Snippet

end StyleValue
