import StyleValue.Proofs.Operator.Expression

/-!
# Sums of words

A `Phrase` is built with sums from words and quoted strings.  Of two summands the leading one is the
left one, unless only the right one is quoted, and the sum is the leading summand with the text of
both (`Word.perform_withContent`).  So the value of a phrase is its leader for being quoted, with
the texts of all leaves one after the other, however the phrase is bracketed
(`Phrase.evaluate_joins`).
-/

namespace StyleValue

/-- A word, bare or quoted. -/
structure Word where
  loc : Option Location
  quoted : Bool
  content : String

namespace Word

/-- A bare word is an identifier, and a quoted one a string. -/
def role (quoted : Bool) : TextRole := if quoted then .string else .identifier

/-- The word with another text, as a node. -/
def withContent (w : Word) (content : String) : Node := .text w.loc (role w.quoted) content

def node (w : Word) : Node := w.withContent w.content

/-- Of two words the left one, unless only the right one is quoted. -/
def leading (v w : Word) : Word :=
  if w.quoted ∧ ¬ v.quoted then w else v

/-- Adding two words gives the leading one the texts of both. -/
theorem perform_withContent (v w : Word) (s t : String) :
  perform "+" (v.withContent s) (w.withContent t) = .ok ((v.leading w).withContent (s ++ t))
  := by
  obtain ⟨l, quoted, _⟩ := v
  obtain ⟨l', quoted', _⟩ := w
  cases quoted <;> cases quoted' <;> rfl

end Word

/-- Sums of words. -/
abbrev Phrase : Type := Expression Unit Word

namespace Phrase

/-- The value of a phrase, found sum by sum. -/
def evaluate (e : Phrase) : Except Failure Node := e.eval (fun _ => "+") Word.node

/-- The texts of all leaves from left to right. -/
def text (e : Phrase) : String := String.join (e.leaves.map Word.content)

/-- The leftmost quoted word, or else the leftmost word. -/
def lead (e : Phrase) : Word := e.leader Word.quoted

section

variable (left right : Phrase)

theorem text_operation :
  text (.operation () left right) = text left ++ text right
  := by
  rw [text, Expression.leaves, List.map_append, String.join_append, text, text]

theorem lead_operation :
  lead (.operation () left right) = (lead left).leading (lead right)
  := left.leader_operation Word.quoted () right

end

/-- The value of a phrase is its leader with the texts of all leaves. -/
theorem evaluate_lead (e : Phrase) :
  evaluate e = .ok ((lead e).withContent (text e))
  := by
  induction e with
  | leaf w =>
      have content : text (.leaf w) = w.content := by
        rw [text, Expression.leaves, List.map_singleton, String.join_cons, String.join_nil,
          String.append_empty]
      rw [content, lead, Expression.leader_leaf]
      rfl
  | operation operator left right ihl ihr =>
      have step : evaluate (.operation operator left right)
          = (evaluate left >>= fun a => evaluate right >>= fun b => perform "+" a b) := rfl
      rw [step, ihl, ihr, lead_operation, text_operation]
      apply Word.perform_withContent

/-- A phrase is a string if a word in it is quoted and an identifier otherwise, with the texts of
its words one after the other, at the location of the leftmost quoted word, or else of the leftmost
word.  So its value depends on the sequence of its words only. -/
theorem evaluate_joins :
  (∀ e : Phrase, evaluate e
      = .ok (.text ((e.leaves.find? Word.quoted).getD e.first).loc
          (if e.leaves.any Word.quoted then .string else .identifier)
          (String.join (e.leaves.map Word.content))))
    ∧ ∀ e e' : Phrase, e.leaves = e'.leaves → evaluate e = evaluate e'
  := by
  constructor
  · intro e
    have quoted : e.leaves.any Word.quoted = (lead e).quoted := by
      rw [Bool.eq_iff_iff, List.any_eq_true]
      apply (e.leader_iff Word.quoted).symm
    rw [evaluate_lead, quoted]
    rfl
  · intro e e' same
    have first : lead e = lead e' := Expression.leader_congr Word.quoted same
    rw [evaluate_lead, evaluate_lead, first, text, same, text]

/-- A bare word, a quoted one and another bare one, bracketed in two ways. -/
theorem evaluate_joins_bracketed :
  (.operation () (.operation () (.leaf ⟨none, false, "a"⟩) (.leaf ⟨some ⟨1, 2, none⟩, true, "b"⟩))
        (.leaf ⟨none, false, "c"⟩) : Phrase).leaves
      = (.operation () (.leaf ⟨none, false, "a"⟩) (.operation ()
        (.leaf ⟨some ⟨1, 2, none⟩, true, "b"⟩) (.leaf ⟨none, false, "c"⟩)) : Phrase).leaves
    ∧ evaluate (.operation () (.operation () (.leaf ⟨none, false, "a"⟩)
          (.leaf ⟨some ⟨1, 2, none⟩, true, "b"⟩)) (.leaf ⟨none, false, "c"⟩))
      = evaluate (.operation () (.leaf ⟨none, false, "a"⟩) (.operation ()
          (.leaf ⟨some ⟨1, 2, none⟩, true, "b"⟩) (.leaf ⟨none, false, "c"⟩)))
  := ⟨rfl, evaluate_joins.2 _ _ rfl⟩

end Phrase

end StyleValue
