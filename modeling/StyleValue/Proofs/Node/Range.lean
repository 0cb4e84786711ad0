import StyleValue.Node.Children
import StyleValue.Proofs.Node.Conversion
import StyleValue.Proofs.Number.Reach
import StyleValue.Proofs.Number.Value

/-!
# Ranges of quantities

The items of a range between two quantities are copies of the first one, with the numbers of the
span between their amounts (`Node.items_range`).  Between whole amounts these are all the whole
numbers from one to the other (`Node.items_range_int`).  Between any finite amounts a whole distance
apart, an inclusive range that ends leads from one to the other under a condition on the step beyond
the last of them, and always when both are less than 2⁵³ (`Node.items_range_leads`).
-/

namespace StyleValue

theorem Number.eq_of_span {first last a : Number} {exclusive : Bool} {rest : List Number}
    (h : first.span last exclusive = .ok (a :: rest)) :
  a = first
  := by
  simp only [span] at h
  split at h
  next walked =>
    cases h
    exact (Direction.walk?_eq_some_cons_iff.mp walked).1
  next => cases h

namespace Node

theorem items_range (loc loc₁ loc₂ : Option Location) (measure measure' : Measure)
    (first last : Number) (exclusive : Bool) :
  (range loc (.quantity loc₁ measure first) (.quantity loc₂ measure' last) exclusive).items
    = (first.span last exclusive).map (List.map (quantity loc₁ measure))
  := by
  have spread : (range loc (.quantity loc₁ measure first) (.quantity loc₂ measure' last)
      exclusive).items = (first.span last exclusive).map (quantity loc₁ measure first).shapedLike :=
    rfl
  rw [spread]
  cases spanned : first.span last exclusive with
  | error e => rfl
  | ok numbers =>
      cases numbers with
      | nil => rfl
      | cons a rest =>
          obtain rfl := Number.eq_of_span spanned
          rfl

/-- A range between whole amounts has one item for each whole number from the first to the last, the
latter left out when it is exclusive: the first bound with that number as its amount. -/
theorem items_range_int (loc loc₁ loc₂ : Option Location) (measure measure' : Measure) (a b : Int)
    (exclusive : Bool) :
  (range loc (.quantity loc₁ measure (.int a)) (.quantity loc₂ measure' (.int b)) exclusive).items
      = .ok ((List.range ((b - a).natAbs + if exclusive then 0 else 1)).map
        fun k : Nat => .quantity loc₁ measure (.int (a + k * if a ≤ b then 1 else -1)))
    ∧ ∀ n : Int, (quantity loc₁ measure (.int a)).withValue (.ofNumber (.int n))
      = .ok (.quantity loc₁ measure (.int n))
  := by
  constructor
  · rw [items_range, Number.span_int, Except.map, List.map_map]
    rfl
  · intro n
    rfl

/-- An inclusive range between finite amounts a whole distance apart, if it ends, leads from one to
the other exactly when the latter can be reached and stepped over.  It ends, and leads there, if both
are less than 2⁵³. -/
theorem items_range_leads (loc loc₁ loc₂ : Option Location) (measure measure' : Measure)
    {x y : Number} {v w : Rat} (hx : x.value? = some v) (hy : y.value? = some w) {k : Int}
    (apart : w - v = k) :
  ((range loc (.quantity loc₁ measure x) (.quantity loc₂ measure' y) false).items
        = .error .endless
      ∨ ∃ numbers, (range loc (.quantity loc₁ measure x) (.quantity loc₂ measure' y) false).items
          = .ok (numbers.map (quantity loc₁ measure))
        ∧ (Number.LeadFromTo numbers x y ↔ x.StepsOver y))
    ∧ (|v| < 2 ^ 53 → |w| < 2 ^ 53 → ∃ numbers,
      (range loc (.quantity loc₁ measure x) (.quantity loc₂ measure' y) false).items
          = .ok (numbers.map (quantity loc₁ measure))
        ∧ Number.LeadFromTo numbers x y)
  := by
  obtain ⟨m, start, hv⟩ := Number.value?_eq_some_iff.mp hx
  obtain ⟨n, place, hw⟩ := Number.value?_eq_some_iff.mp hy
  have whole : (Binary64.unitsPerOne : Int) ∣ n - m := by
    rw [Number.dvd_sub_of_value hv hw apart]
    apply Int.dvd_mul_left
  rw [items_range]
  constructor
  · cases spanned : x.span y false with
    | error e =>
        obtain ⟨rfl, -⟩ := Number.span_eq_error_iff.mp spanned
        exact Or.inl rfl
    | ok numbers =>
        exact Or.inr ⟨numbers, rfl, Number.leadFromTo_span_iff start place whole spanned⟩
  · intro hv' hw'
    have hm := Number.natAbs_lt_of_abs_lt hv' hv
    have hn := Number.natAbs_lt_of_abs_lt hw' hw
    obtain ⟨numbers, spanned⟩ := Number.exists_span_of_small start place whole hm hn
    rw [spanned]
    refine ⟨numbers, rfl, (Number.leadFromTo_span_iff start place whole spanned).mpr ?_⟩
    apply Number.stepsOver_of_small start place whole hn

/-- The range from the whole number 3 down to the floating-point number 1. -/
theorem items_range_leads_down :
  (Number.int 3).value? = some 3 ∧ (Number.float .one).value? = some 1
    ∧ ∃ numbers, (range none (.quantity none .plain (.int 3))
        (.quantity none .percent (.float .one)) false).items
          = .ok (numbers.map (quantity none .plain))
      ∧ Number.LeadFromTo numbers (.int 3) (.float .one)
  := by
  have first : (Number.int 3).value? = some 3 := Number.value?_int 3
  have last : (Number.float .one).value? = some 1 :=
    Number.value?_eq_some_iff.mpr ⟨_, Binary64.position?_one, one_mul _⟩
  have leads := items_range_leads none none none .plain .percent first last (k := -2) (by norm_num)
  exact ⟨first, last, leads.2 (by norm_num) (by norm_num)⟩

/-- One more than 2⁵³ is rounded back, so that the range from 2⁵³ to itself has no items. -/
theorem items_range_short :
  (Number.float (.ofQuotient false (2 ^ 53) 1)).value? = some (2 ^ 53)
    ∧ (range none (.quantity none .plain (.float (.ofQuotient false (2 ^ 53) 1)))
      (.quantity none .plain (.float (.ofQuotient false (2 ^ 53) 1))) false).items = .ok []
  := by
  have place : (Number.float (.ofQuotient false (2 ^ 53) 1)).position?
      = some (.units (2 ^ 53 * Binary64.unitsPerOne)) := by
    rw [Number.position?, Binary64.position?_ofQuotient_whole false (Nat.le_refl _)]
    rfl
  constructor
  · have value := Number.value?_of_whole place
    push_cast at value
    exact value
  · have back : Binary64.nearest (2 ^ 53 * Binary64.unitsPerOne + Direction.up.stride)
        = 2 ^ 53 * Binary64.unitsPerOne := by
      decide +kernel
    have next := Direction.position?_next_of_float (d := .up) place
    rw [back] at next
    have none : (Number.float (.ofQuotient false (2 ^ 53) 1)).span
        (.float (.ofQuotient false (2 ^ 53) 1)) false = .ok [] := by
      apply (Number.span_false_eq_ok_iff place place).mpr
      rw [Direction.between_eq place place, if_pos (Int.le_refl _)]
      apply Direction.walk?_of_not_isBefore
      rw [Direction.isBefore_units_iff place next, Direction.lead_self]
      exact Int.lt_irrefl 0
    rw [items_range, none]
    rfl

end Node

end StyleValue
