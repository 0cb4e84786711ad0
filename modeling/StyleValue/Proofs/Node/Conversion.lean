import StyleValue.Node.Conversion
import StyleValue.Node.Equality
import StyleValue.Node.Items
import StyleValue.Proofs.Node.Within
import StyleValue.Proofs.Number.Fixed
import StyleValue.Proofs.Number.Steps

/-!
# Conversions without an answer

The number and the truth of a node are always told.  Its text is refused when a plain number would
lose all its digits.  Its items, and the list made of it, are refused when it is a range whose
bounds do not say where to step (`Node.IsUnsteppable`), and they are never finished when the steps
do not reach the end (`Node.IsEndless`).  There are no other ways to be left without an answer
(`Node.conversions_answer`).
-/

namespace StyleValue

/-- Every number that a walk comes by, on its way from the first number to the last or one step
beyond it, lies before its end. -/
def Number.IsEndless (first last : Number) (exclusive : Bool) : Prop :=
  let stop := if exclusive then last else (Direction.between first last).next last
  let way := Direction.between first stop
  ∀ k, way.isBefore (way.next^[k] first) stop

theorem Number.span_eq_error_iff {first last : Number} {exclusive : Bool} {e : RangeError} :
  first.span last exclusive = .error e ↔ e = .endless ∧ first.IsEndless last exclusive
  := by
  rw [span, IsEndless, ← Direction.walk?_eq_none_iff]
  split
  next numbers walked =>
    rw [walked]
    simp
  next endless =>
    rw [endless]
    simp [eq_comm]

namespace Node

/-! ### Bounds -/

/-- The number that a node counts as in a bound. -/
def steppingNumber? (n : Node) : Option Number := n.payload?.bind Payload.toNumber?

/-- Both bounds count as numbers.  Texts are good for bounds only if there is no step to make: when
they are the same and the end is left out. -/
inductive AreBounds : Node → Node → Bool → Prop where
  | numbers {start stop : Node} {exclusive : Bool} {a b : Number}
      (first : start.steppingNumber? = some a) (last : stop.steppingNumber? = some b) :
      AreBounds start stop exclusive
  | texts {start stop : Node} {content : String} (first : start.payload? = some (.text content))
      (last : stop.payload? = some (.text content)) : AreBounds start stop true

theorem bound_eq_number_iff {n : Node} {x : Number} :
  n.bound = .ok (.number x) ↔ n.steppingNumber? = some x
  := by
  rcases n with _ | _ | ⟨_, _ | _⟩ | _ | ⟨_, _ | _⟩ | ⟨_, _ | _⟩ | _ | _ <;>
    simp [bound, steppingNumber?, payload?, Payload.toNumber?, Flag.payload, Flag.toNumber]

theorem bound_eq_text_iff {n : Node} {content : String} :
  n.bound = .ok (.text content) ↔ n.payload? = some (.text content)
  := by
  rcases n with _ | _ | ⟨_, _ | _⟩ | _ | ⟨_, _ | _⟩ | ⟨_, _ | _⟩ | _ | _ <;>
    simp [bound, payload?, Flag.payload]

theorem bound_ne_endless (n : Node) :
  n.bound ≠ .error .endless
  := by
  rcases n with _ | _ | _ | _ | ⟨_, _ | _⟩ | ⟨_, _ | _⟩ | _ | _ <;> rintro ⟨⟩

theorem areBounds_iff {start stop : Node} {exclusive : Bool} :
  AreBounds start stop exclusive
    ↔ (∃ a b, start.bound = .ok (.number a) ∧ stop.bound = .ok (.number b))
      ∨ exclusive ∧ ∃ content, start.bound = .ok (.text content) ∧ stop.bound = .ok (.text content)
  := by
  simp only [bound_eq_number_iff, bound_eq_text_iff]
  constructor
  · rintro (⟨first, last⟩ | ⟨first, last⟩)
    · exact Or.inl ⟨_, _, first, last⟩
    · exact Or.inr ⟨rfl, _, first, last⟩
  · rintro (⟨a, b, first, last⟩ | ⟨exclusive, content, first, last⟩)
    · exact .numbers first last
    · cases exclusive
      exact .texts first last

/-! ### Items -/

/-- A range whose bounds do not say where to step. -/
def IsUnsteppable : Node → Prop
  | .range _ start stop exclusive => ¬ AreBounds start stop exclusive
  | _ => False

/-- A range between numbers whose steps never reach the end. -/
def IsEndless : Node → Prop
  | .range _ start stop exclusive => ∃ a b, start.steppingNumber? = some a
      ∧ stop.steppingNumber? = some b ∧ a.IsEndless b exclusive
  | _ => False

theorem IsEndless.not_isUnsteppable {n : Node} (h : n.IsEndless) :
  ¬ n.IsUnsteppable
  := by
  cases n with
  | range loc start stop exclusive =>
      obtain ⟨a, b, first, last, -⟩ := h
      intro unsteppable
      exact unsteppable (.numbers first last)
  | _ => cases h

end Node

/-- A conversion is refused: it fails, instead of going on for ever. -/
def Refused {α : Type} (r : Except RangeError α) : Prop := ∃ e, r = .error e ∧ e ≠ .endless

/-- What a conversion that enumerates the items of a node ends in, and when. -/
inductive Enumeration {α : Type} (n : Node) : Except RangeError α → Prop where
  | refused {e : RangeError} (unsteppable : n.IsUnsteppable) (ends : e ≠ .endless) :
      Enumeration n (.error e)
  | endless (endless : n.IsEndless) : Enumeration n (.error .endless)
  | answer (a : α) (steppable : ¬ n.IsUnsteppable) (ends : ¬ n.IsEndless) : Enumeration n (.ok a)

namespace Enumeration

variable {α β : Type} {n : Node} {r : Except RangeError α}

theorem map (f : α → β) (h : Enumeration n r) :
  Enumeration n (f <$> r)
  := by
  cases h with
  | refused unsteppable ends => exact .refused unsteppable ends
  | endless endless => exact .endless endless
  | answer a steppable ends => exact .answer (f a) steppable ends

theorem refused_iff (h : Enumeration n r) :
  Refused r ↔ n.IsUnsteppable
  := by
  cases h with
  | refused unsteppable ends => exact ⟨fun _ => unsteppable, fun _ => ⟨_, rfl, ends⟩⟩
  | endless endless =>
      constructor
      · rintro ⟨_, ⟨⟩, ends⟩
        exact absurd rfl ends
      · intro unsteppable
        exact absurd unsteppable endless.not_isUnsteppable
  | answer a steppable =>
      constructor
      · rintro ⟨_, ⟨⟩, -⟩
      · intro unsteppable
        exact absurd unsteppable steppable

theorem eq_endless_iff (h : Enumeration n r) :
  r = .error .endless ↔ n.IsEndless
  := by
  cases h with
  | refused unsteppable ends =>
      constructor
      · rintro ⟨⟩
        exact absurd rfl ends
      · intro endless
        exact absurd unsteppable endless.not_isUnsteppable
  | endless endless => exact ⟨fun _ => endless, fun _ => rfl⟩
  | answer a steppable ends =>
      constructor
      · rintro ⟨⟩
      · intro endless
        exact absurd endless ends

end Enumeration

namespace Node

section

variable {loc : Option Location} {start stop : Node} {exclusive : Bool}

/-- A range between numbers goes on for ever, or it has an end. -/
theorem enumeration_span {a b : Number} (first : start.steppingNumber? = some a)
    (last : stop.steppingNumber? = some b) :
  Enumeration (.range loc start stop exclusive) (a.span b exclusive)
  := by
  cases walked : a.span b exclusive with
  | error e =>
      obtain ⟨rfl, endless⟩ := Number.span_eq_error_iff.mp walked
      exact .endless ⟨a, b, first, last, endless⟩
  | ok numbers =>
      apply Enumeration.answer
      · intro unsteppable
        apply unsteppable (.numbers first last)
      · rintro ⟨a', b', first', last', endless⟩
        obtain rfl := Option.some.inj (first.symm.trans first')
        obtain rfl := Option.some.inj (last.symm.trans last')
        rw [Number.span_eq_error_iff.mpr ⟨rfl, endless⟩] at walked
        cases walked

/-- Texts are the bounds of the empty range only. -/
theorem enumeration_texts {content content' : String} (first : start.bound = .ok (.text content))
    (last : stop.bound = .ok (.text content')) :
  Enumeration (.range loc start stop exclusive)
    (if exclusive ∧ content = content' then .ok ([] : List Node) else .error .unsteppable)
  := by
  have bounds := @areBounds_iff start stop exclusive
  split
  next same =>
    obtain ⟨excluded, rfl⟩ := same
    apply Enumeration.answer
    · intro unsteppable
      exact unsteppable (bounds.mpr (Or.inr ⟨excluded, content, first, last⟩))
    · rintro ⟨a, b, first', -⟩
      rw [← bound_eq_number_iff, first] at first'
      cases first'
  next different =>
    apply Enumeration.refused
    · rw [IsUnsteppable, bounds, first, last]
      rintro (⟨a, b, ⟨⟩, -⟩ | ⟨excluded, _, ⟨⟩, ⟨⟩⟩)
      exact different ⟨excluded, rfl⟩
    · rintro ⟨⟩

theorem enumeration_expand :
  Enumeration (.range loc start stop exclusive) (start.expand stop exclusive)
  := by
  have bounds := @areBounds_iff start stop exclusive
  rw [expand]
  cases first : start.bound with
  | error e =>
      apply Enumeration.refused
      · rw [IsUnsteppable, bounds, first]
        simp
      · rintro rfl
        apply bound_ne_endless start first
  | ok p =>
      cases last : stop.bound with
      | error e =>
          apply Enumeration.refused
          · rw [IsUnsteppable, bounds, last]
            simp
          · rintro rfl
            apply bound_ne_endless stop last
      | ok q =>
          have mixed (h : ¬ AreBounds start stop exclusive) :
              Enumeration (.range loc start stop exclusive)
                (.error .incomparable : Except RangeError (List Node)) := .refused h nofun
          rw [bounds, first, last] at mixed
          cases p with
          | number a =>
              cases q with
              | number b =>
                  apply Enumeration.map
                  apply enumeration_span
                  · apply bound_eq_number_iff.mp first
                  · apply bound_eq_number_iff.mp last
              | text t => apply mixed; simp
              | composite => apply mixed; simp
          | text s =>
              cases q with
              | number b => apply mixed; simp
              | text t => exact enumeration_texts first last
              | composite => apply mixed; simp
          | composite => apply mixed; simp

end

theorem enumeration_items (n : Node) :
  Enumeration n n.items
  := by
  cases n with
  | range loc start stop exclusive => apply enumeration_expand
  | _ => apply Enumeration.answer _ <;> rintro ⟨⟩

theorem enumeration_toList? (config : Config) (separator : Option String) (n : Node) :
  Enumeration n (n.toList? config separator)
  := by
  cases n with
  | range loc start stop exclusive => exact enumeration_expand.map _
  | _ => apply Enumeration.answer _ <;> rintro ⟨⟩

end Node

/-! ### Texts -/

/-- The number has digits, and rounding leaves none of them. -/
def Number.IsTooCoarse (precision : Int) (x : Number) : Prop :=
  precision ≤ -400 ∧ ∃ negative units h, x = .float (.finite negative units h)

theorem Number.fixedText?_isOk_iff (precision : Int) (x : Number) :
  (∃ text, x.fixedText? precision = .ok text) ↔ ¬ x.IsTooCoarse precision
  := by
  rw [IsTooCoarse]
  rcases x with n | _ | negative | ⟨negative, units, h⟩
  · simp [fixedText?]
  · simp [fixedText?]
  · simp [fixedText?]
  · constructor
    · rintro ⟨text, written⟩ ⟨coarse, -⟩
      rw [fixedText?_of_le coarse] at written
      cases written
    · intro fine
      have finer : -400 < precision :=
        Int.not_le.mp fun coarse => fine ⟨coarse, negative, units, h, rfl⟩
      have value : (float (.finite negative units h)).value? = some _ := rfl
      obtain ⟨text, written, -⟩ := exists_isWritten_float value finer
      exact ⟨text, written⟩

namespace Node

/-- The node is a plain number that loses all its digits. -/
def IsTooCoarse (config : Config) : Node → Prop
  | .quantity _ .plain amount => amount.IsTooCoarse config.precision
  | _ => False

theorem toText?_isOk_iff (config : Config) (n : Node) :
  (∃ text, n.toText? config = .ok text) ↔ ¬ n.IsTooCoarse config
  := by
  rcases n with ⟨loc, _ | _ | _, amount⟩ | ⟨loc, _ | _ | _, content⟩ | _ | _ | _ | _ | _ | _
  case quantity.plain =>
    rw [IsTooCoarse, ← Number.fixedText?_isOk_iff, toText?]
    cases amount.fixedText? config.precision <;> simp
  all_goals simp [toText?, IsTooCoarse]

/-! ### All conversions -/

/-- Conversions fail for ranges between bounds that do not say where to step, and for texts of
numbers of which no digits are left.  They go on for ever for ranges whose steps do not reach the
end.  In all other cases they have an answer. -/
theorem conversions_answer (config : Config) (separator : Option String) (n : Node) :
  ((∃ text, n.toText? config = .ok text) ↔ ¬ n.IsTooCoarse config)
    ∧ (Refused n.items ↔ n.IsUnsteppable)
    ∧ (Refused (n.toList? config separator) ↔ n.IsUnsteppable)
    ∧ (n.items = .error .endless ↔ n.IsEndless)
    ∧ (n.toList? config separator = .error .endless ↔ n.IsEndless)
  := by
  have items := enumeration_items n
  have list := enumeration_toList? config separator n
  exact ⟨toText?_isOk_iff config n, items.refused_iff, list.refused_iff, items.eq_endless_iff,
    list.eq_endless_iff⟩

/-- No step leads from nothing to a number, though all amounts are finite. -/
theorem not_forall_conversions_answer :
  ¬ ∀ (config : Config) (separator : Option String) (n : Node),
    0 ≤ config.precision → n.IsWellFormed → n.IsFinite →
      (∃ text, n.toText? config = .ok text) ∧ ¬ Refused n.items
        ∧ ¬ Refused (n.toList? config separator)
  := by
  intro answers
  have answer := answers .default none
    (.range none (.null none) (.quantity none .plain (.int 3)) false) (by decide) (by decide)
    (by decide)
  obtain ⟨-, items, -⟩ := answer
  apply items
  exact ⟨.absentBound, rfl, nofun⟩

end Node

end StyleValue
