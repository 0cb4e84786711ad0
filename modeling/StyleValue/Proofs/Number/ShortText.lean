import StyleValue.Node.Conversion
import StyleValue.Node.Equality
import StyleValue.Proofs.Decimal.Shortest
import StyleValue.Proofs.Decimal.Text
import StyleValue.Proofs.Number.Fixed

/-!
# Shortest texts tell numbers apart

A finite number is written with a decimal (`Number.WrittenWith`): a whole number with itself, and
any other number with the shortest decimal that reads back, which is never whole.  The value of the
decimal can be told from the text, and the place of the number from that value.  So two numbers
have the same shortest text exactly when they are equal (`Number.shortText_distinguishes`).
-/

namespace StyleValue

/-! ### Forms of a number -/

namespace Number

/-- All forms of a number have the same shortest text. -/
theorem shortText_canonical (x : Number) :
  x.canonical.shortText = x.shortText
  := by
  rcases x with n | _ | negative | ⟨negative, units, h⟩
  · rfl
  · rfl
  · rfl
  · rw [canonical]
    cases whole : (Binary64.finite negative units h).toInt? with
    | some n => simp only [shortText, whole]
    | none => rfl

theorem shortText_eq_of_position? {a b : Number} (h : a.position? = b.position?) :
  a.shortText = b.shortText
  := by
  rw [← shortText_canonical, canonical_eq_iff.mpr h, shortText_canonical]

end Number

/-- Where the value of a decimal is whole, so is what it reads back as. -/
theorem Decimal.unitsPerOne_dvd_units {d : Decimal} {n : Int} (whole : d.value = n) :
  Binary64.unitsPerOne ∣ d.units
  := by
  have same : |d.value| = |(ofInt n).value| := by rw [whole, value_ofInt]
  rw [units_eq_of_abs_value_eq same]
  apply unitsPerOne_dvd_units_ofInt

/-- The sign of a decimal with digits can be told from its value. -/
theorem Decimal.negative_eq_of_value_eq {d d' : Decimal} (h : d.digits ≠ 0) (h' : d'.digits ≠ 0)
    (same : d.value = d'.value) :
  d.negative = d'.negative
  := by
  have minus := (d.numeral fun _ => h).negative_iff
  have minus' := (d'.numeral fun _ => h').negative_iff
  rw [value_numeral] at minus minus'
  rw [← same] at minus'
  rw [Bool.eq_iff_iff]
  apply minus.trans minus'.symm

namespace Number

/-! ### The decimal of a number -/

/-- The decimal that a finite number is written with: a whole number itself, and the shortest
decimal of any other number. -/
inductive WrittenWith : Number → Decimal → Prop where
  | whole {x : Number} {n : Int}
      (place : x.position? = some (.units (n * Binary64.unitsPerOne))) :
      WrittenWith x (.ofInt n)
  | fraction {negative : Bool} {units : Nat} {h : Binary64.Representable units}
      (rest : ¬ Binary64.unitsPerOne ∣ units) :
      WrittenWith (.float (.finite negative units h)) (Binary64.shortest negative units)

namespace WrittenWith

variable {x y : Number} {d d' : Decimal}

/-- Zero is written without a minus. -/
theorem digits_ne_zero (h : x.WrittenWith d) :
  d.negative → d.digits ≠ 0
  := by
  cases h with
  | whole => apply Decimal.digits_ofInt_ne_zero
  | @fraction negative units h rest =>
      intro
      apply Binary64.digits_shortest_ne_zero negative h
      rintro rfl
      apply rest (Nat.dvd_zero _)

/-- The place of a number can be told from the value of its decimal. -/
theorem position?_eq (hx : x.WrittenWith d) (hy : y.WrittenWith d') (same : d.value = d'.value) :
  x.position? = y.position?
  := by
  have whole {negative : Bool} {units : Nat} (h : Binary64.Representable units) {n : Int}
      (value : (Binary64.shortest negative units).value = n) : Binary64.unitsPerOne ∣ units := by
    rw [← Binary64.units_shortest negative h]
    apply Decimal.unitsPerOne_dvd_units value
  cases hx with
  | @whole _ m place =>
      cases hy with
      | @whole _ n place' =>
          rw [Decimal.value_ofInt, Decimal.value_ofInt, Int.cast_inj] at same
          rw [place, place', same]
      | @fraction _ _ h' rest =>
          rw [Decimal.value_ofInt] at same
          exact absurd (whole h' same.symm) rest
  | @fraction negative units h rest =>
      cases hy with
      | whole =>
          rw [Decimal.value_ofInt] at same
          exact absurd (whole h same) rest
      | @fraction negative' units' h' rest' =>
          have magnitude := Decimal.units_eq_of_abs_value_eq (congrArg abs same)
          rw [Binary64.units_shortest _ h, Binary64.units_shortest _ h'] at magnitude
          have nonzero : units ≠ 0 := by
            rintro rfl
            apply rest (Nat.dvd_zero _)
          have sign := Decimal.negative_eq_of_value_eq
            (Binary64.digits_shortest_ne_zero negative h nonzero)
            (Binary64.digits_shortest_ne_zero negative' h' (magnitude ▸ nonzero)) same
          rw [Binary64.negative_shortest, Binary64.negative_shortest] at sign
          subst magnitude sign
          rfl

end WrittenWith

/-! ### The text of a number -/

/-- The numbers without digits, by their texts and places. -/
def nonFinite : List (String × Option Position) :=
  [("NaN", none), ("Infinity", some .top), ("-Infinity", some .bottom)]

/-- A number is written with its decimal, or it has no digits. -/
theorem shortText_cases (x : Number) :
  (∃ d, x.WrittenWith d ∧ d.IsText x.shortText) ∨ (x.shortText, x.position?) ∈ nonFinite
  := by
  rcases x with n | _ | ⟨_ | _⟩ | ⟨negative, units, h⟩
  · left
    exact ⟨.ofInt n, .whole rfl, Or.inl rfl⟩
  · right
    decide
  · right
    decide
  · right
    decide
  · left
    cases whole : (Binary64.finite negative units h).toInt? with
    | some n =>
        refine ⟨.ofInt n, .whole (Binary64.toInt?_eq_some_iff.mp whole), Or.inl ?_⟩
        simp only [shortText, whole]
    | none =>
        have rest : ¬ Binary64.unitsPerOne ∣ units := by
          intro divides
          rw [Binary64.toInt?, if_pos (Nat.mod_eq_zero_of_dvd divides)] at whole
          cases whole
        refine ⟨_, .fraction rest, ?_⟩
        simp only [shortText, whole, Binary64.literal, Option.isSome_none, Bool.false_eq_true,
          if_false, String.append_empty]
        split
        · exact Or.inl rfl
        · exact Or.inr rfl

/-- The text of a decimal has digits. -/
theorem WrittenWith.notMem_nonFinite {x : Number} {d : Decimal} {text : String}
    {place : Option Position} (h : x.WrittenWith d) (written : d.IsText text) :
  (text, place) ∉ nonFinite
  := by
  have letters : ∀ t ∈ nonFinite, 'e' ∉ t.1.toList
      ∧ ∃ c ∈ t.1.toList, c.isDigit = false ∧ c ≠ '-' ∧ c ≠ '.' := by
    simp [nonFinite]
  intro mem
  obtain ⟨exponent, c, here, digit, minus, point⟩ := letters _ mem
  rcases written with rfl | rfl
  · rw [Decimal.isDigit_of_mem_plain h.digits_ne_zero here minus point] at digit
    cases digit
  · exact exponent d.mem_scientific

/-- Numbers have the same shortest text exactly when they lie at one place or are not numbers. -/
theorem shortText_eq_iff {a b : Number} :
  a.shortText = b.shortText ↔ a.position? = b.position?
  := by
  constructor
  · intro same
    rcases a.shortText_cases with ⟨d, shown, written⟩ | none
    · rcases b.shortText_cases with ⟨d', shown', written'⟩ | none'
      · rw [← same] at written'
        apply shown.position?_eq shown'
        apply Decimal.value_eq_of_isText shown.digits_ne_zero shown'.digits_ne_zero written written'
      · rw [← same] at none'
        exact absurd none' (shown.notMem_nonFinite written)
    · rcases b.shortText_cases with ⟨d', shown', written'⟩ | none'
      · rw [← same] at written'
        exact absurd none (shown'.notMem_nonFinite written')
      · have places : ∀ s ∈ nonFinite, ∀ t ∈ nonFinite, s.1 = t.1 → s.2 = t.2 := by decide
        apply places _ none _ none' same
  · apply shortText_eq_of_position?

end Number

/-! ### Texts of quantities -/

namespace Node

/-- Percentages, or dimensions of one unit, have the same text exactly when their amounts lie at one
place or are not numbers. -/
theorem toText?_quantity_eq_iff
    (config : Config) {l l' : Option Location} {m : Measure} {a b : Number}
    (measured : m ≠ .plain) :
  (quantity l m a).toText? config = (quantity l' m b).toText? config
    ↔ a.position? = b.position?
  := by
  have written (l : Option Location) (a : Number) :
      (quantity l m a).toText? config = .ok (some (quantityText m a)) := by
    cases m with
    | plain => exact absurd rfl measured
    | _ => rfl
  rw [written, written, Except.ok.injEq, Option.some.injEq, quantityText, quantityText,
    String.append_left_inj, Number.shortText_eq_iff]

end Node

/-- Unless neither of them is a number, two numbers have the same shortest text exactly when they
are equal, and so have two percentages, or two dimensions of one unit. -/
theorem Number.shortText_distinguishes :
  (∀ a b : Number, ¬ (a.isNaN ∧ b.isNaN) → (a.shortText = b.shortText ↔ a.equals b))
    ∧ ∀ (config : Config) (l l' : Option Location) (m : Measure) (a b : Number), m ≠ .plain →
      ¬ (a.isNaN ∧ b.isNaN) →
      ((Node.quantity l m a).toText? config = (Node.quantity l' m b).toText? config
        ↔ (Node.quantity l m a).equal (.quantity l' m b))
  := by
  have equal_iff {a b : Number} (number : ¬ (a.isNaN ∧ b.isNaN)) :
      a.position? = b.position? ↔ a.equals b := by
    rw [position?_eq_iff]
    apply or_iff_left number
  constructor
  · intro a b number
    rw [shortText_eq_iff, equal_iff number]
  · intro config l l' m a b measured number
    rw [Node.toText?_quantity_eq_iff config measured, equal_iff number, Node.equal,
      decide_eq_true rfl, Bool.true_and]

/-- The floating-point number nearest to 10²³ is another number, and a negative zero is zero. -/
theorem Number.shortText_distinguishes_nearest :
  (¬ ((int 100000000000000000000000).isNaN ∧ (float (.ofBits 0x44b52d02c7e14af6)).isNaN)
      ∧ (int 100000000000000000000000).shortText
        ≠ (float (.ofBits 0x44b52d02c7e14af6)).shortText)
    ∧ Measure.percent ≠ .plain
      ∧ ¬ ((float (.ofBits 0x8000000000000000)).isNaN ∧ (int 0).isNaN)
      ∧ (Node.quantity none .percent (.float (.ofBits 0x8000000000000000))).toText? .default
        = (Node.quantity none .percent (.int 0)).toText? .default
  := by
  have number : ¬ ((int 100000000000000000000000).isNaN
      ∧ (float (.ofBits 0x44b52d02c7e14af6)).isNaN) := by
    decide +kernel
  have zero : ¬ ((float (.ofBits 0x8000000000000000)).isNaN ∧ (int 0).isNaN) := by
    decide +kernel
  refine ⟨⟨number, ?_⟩, nofun, zero, ?_⟩
  · rw [ne_eq, shortText_distinguishes.1 _ _ number]
    decide +kernel
  · rw [shortText_distinguishes.2 .default none none .percent _ _ nofun zero]
    decide +kernel

end StyleValue
