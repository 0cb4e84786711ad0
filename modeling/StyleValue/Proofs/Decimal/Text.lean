import StyleValue.Proofs.Decimal.Numeral

/-!
# Decimals told from their texts

A numeral can be told from its text (`Numeral.eq_of_text_eq`), and so can a decimal from its
scientific text (`Decimal.eq_of_scientific_eq`).  Only the latter shows an exponent, so what is
written in one of the two ways has one value only (`Decimal.value_eq_of_isText`).
-/

namespace StyleValue

/-! ### Parts of a text -/

theorem isDigit_of_mem_toDigits (n : Nat) :
  ∀ c ∈ Nat.toDigits 10 n, c.isDigit
  := fun _ => Nat.isDigit_of_mem_toDigits (by decide) (by decide)

/-- A character that is no digit does not stand among digits. -/
theorem notMem_of_isDigit {c : Char} {digits : List Char} (h : ∀ d ∈ digits, d.isDigit)
    (other : c.isDigit = false) :
  c ∉ digits
  := by
  intro mem
  rw [h c mem] at other
  cases other

/-- A minus can be told from what stands after it. -/
theorem eq_of_minus_append_eq {b b' : Bool} {l l' : List Char} (h : '-' ∉ l) (h' : '-' ∉ l')
    (same : (if b then ['-'] else []) ++ l = (if b' then ['-'] else []) ++ l') :
  b = b' ∧ l = l'
  := by
  cases b <;> cases b'
  · exact ⟨rfl, same⟩
  · change l = '-' :: l' at same
    rw [same] at h
    exact absurd List.mem_cons_self h
  · change '-' :: l = l' at same
    rw [← same] at h'
    exact absurd List.mem_cons_self h'
  · exact ⟨rfl, List.tail_eq_of_cons_eq same⟩

/-- The digits on the two sides of a point can be told from each other. -/
theorem eq_of_append_point_eq {w w' f f' : List Char} (hw : '.' ∉ w) (hw' : '.' ∉ w') (hf : '.' ∉ f)
    (same : w ++ (if f = [] then [] else '.' :: f) = w' ++ (if f' = [] then [] else '.' :: f')) :
  w = w' ∧ f = f'
  := by
  have point (v g : List Char) : '.' ∈ v ++ '.' :: g :=
    List.mem_append_right v List.mem_cons_self
  split at same <;> split at same
  next none none' =>
    rw [List.append_nil, List.append_nil] at same
    exact ⟨same, none.trans none'.symm⟩
  next =>
    rw [List.append_nil] at same
    rw [same] at hw
    exact absurd (point w' f') hw
  next =>
    rw [List.append_nil] at same
    rw [← same] at hw'
    exact absurd (point w f) hw'
  next =>
    obtain ⟨whole, -, fraction⟩ := (List.append_cons_inj_of_notMem hw hf).mp same
    exact ⟨whole, fraction⟩

/-! ### Numerals -/

namespace Numeral

/-- A numeral is written with digits, a minus and a point. -/
theorem isDigit_of_mem_text {n : Numeral} {c : Char} (h : c ∈ n.text.toList) (minus : c ≠ '-')
    (point : c ≠ '.') :
  c.isDigit
  := by
  rw [text, String.toList_ofList, List.append_assoc, List.mem_append, List.mem_append] at h
  rcases h with mem | mem | mem
  · split at mem
    · exact absurd (List.mem_singleton.mp mem) minus
    · cases mem
  · apply n.whole_digits c mem
  · split at mem
    · cases mem
    · rcases List.mem_cons.mp mem with same | mem
      · exact absurd same point
      · apply n.fraction_digits c mem

/-- A numeral can be told from its text. -/
theorem eq_of_text_eq {m n : Numeral} (h : m.text = n.text) :
  m = n
  := by
  have whole {c : Char} (hc : c.isDigit = false) (n : Numeral) : c ∉ n.whole :=
    notMem_of_isDigit n.whole_digits hc
  have fraction {c : Char} (hc : c.isDigit = false) (n : Numeral) : c ∉ n.fraction :=
    notMem_of_isDigit n.fraction_digits hc
  have minus (n : Numeral) :
      '-' ∉ n.whole ++ (if n.fraction = [] then [] else '.' :: n.fraction) := by
    split <;> simp [whole (c := '-') rfl n, fraction (c := '-') rfl n]
  have same := String.ofList_inj.mp h
  rw [List.append_assoc, List.append_assoc] at same
  obtain ⟨negative, rest⟩ := eq_of_minus_append_eq (minus m) (minus n) same
  obtain ⟨left, right⟩ :=
    eq_of_append_point_eq (whole rfl m) (whole rfl n) (fraction rfl m) rest
  apply Numeral.ext negative left right

end Numeral

namespace Decimal

/-! ### Scientific texts -/

theorem isDigit_of_mem_significand {digits : List Char} (h : ∀ c ∈ digits, c.isDigit) {c : Char}
    (mem : c ∈ significand digits) (point : c ≠ '.') :
  c.isDigit
  := by
  match digits with
  | [] => cases mem
  | [first] => apply h c mem
  | first :: second :: rest =>
      rw [significand, List.mem_cons, List.mem_cons] at mem
      apply h c
      rw [List.mem_cons]
      exact mem.imp_right fun other => other.resolve_left point

/-- The digits stay when the point among them is left out. -/
theorem filter_significand {digits : List Char} (h : ∀ c ∈ digits, c.isDigit) :
  (significand digits).filter Char.isDigit = digits
  := by
  have same := List.filter_eq_self.mpr h
  match digits with
  | [] => rfl
  | [first] => exact same
  | first :: second :: rest =>
      have digit := h first List.mem_cons_self
      rw [List.filter_cons_of_pos digit] at same
      rw [significand, List.filter_cons_of_pos digit, List.filter_cons_of_neg (by decide), same]

/-- An exponent as it is written, with a sign and at least two digits. -/
def exponentText (e : Int) : List Char :=
  (if e < 0 then '-' else '+') ::
    ((if (Nat.toDigits 10 e.natAbs).length < 2 then ['0'] else []) ++ Nat.toDigits 10 e.natAbs)

theorem isDigit_of_mem_exponentText {e : Int} {c : Char} (h : c ∈ exponentText e) (minus : c ≠ '-')
    (plus : c ≠ '+') :
  c.isDigit
  := by
  rw [exponentText, List.mem_cons, List.mem_append] at h
  rcases h with sign | zero | digit
  · split at sign
    · exact absurd sign minus
    · exact absurd sign plus
  · split at zero
    · rw [List.mem_singleton.mp zero]
      rfl
    · cases zero
  · apply isDigit_of_mem_toDigits _ c digit

/-- A zero before the digits does not change what they stand for. -/
theorem ofDigitChars_padded (n : Nat) :
  Nat.ofDigitChars 10
      ((if (Nat.toDigits 10 n).length < 2 then ['0'] else []) ++ Nat.toDigits 10 n) 0
    = n
  := by
  split
  · rw [List.singleton_append, Nat.ofDigitChars_cons]
    apply Nat.ofDigitChars_ten_toDigits
  · apply Nat.ofDigitChars_ten_toDigits

theorem eq_of_exponentText_eq {e e' : Int} (h : exponentText e = exponentText e') :
  e = e'
  := by
  obtain ⟨sign, digits⟩ := List.cons_eq_cons.mp h
  have magnitude := congrArg (Nat.ofDigitChars 10 · 0) digits
  simp only [ofDigitChars_padded] at magnitude
  split at sign <;> split at sign
  · omega
  · cases sign
  · cases sign
  · omega

theorem toList_scientific (d : Decimal) :
  d.scientific.toList
    = (d.sign ++ significand (Nat.toDigits 10 d.digits))
      ++ 'e' :: exponentText (d.pointPosition - 1)
  := by
  simp only [scientific, exponentText, String.toList_ofList, List.append_assoc, List.cons_append]

/-- A scientific text shows an exponent. -/
theorem mem_scientific (d : Decimal) :
  'e' ∈ d.scientific.toList
  := by
  rw [toList_scientific]
  apply List.mem_append_right _ List.mem_cons_self

/-- A decimal can be told from its scientific text. -/
theorem eq_of_scientific_eq {d d' : Decimal} (h : d.scientific = d'.scientific) :
  d = d'
  := by
  have notMem {c : Char} (hc : c.isDigit = false) (point : c ≠ '.') (d : Decimal) :
      c ∉ significand (Nat.toDigits 10 d.digits) := by
    intro mem
    rw [isDigit_of_mem_significand (isDigit_of_mem_toDigits _) mem point] at hc
    cases hc
  have front : 'e' ∉ d.sign ++ significand (Nat.toDigits 10 d.digits) := by
    rw [List.mem_append, sign]
    rintro (mem | mem)
    · split at mem <;> simp at mem
    · apply notMem rfl (by decide) d mem
  have back : 'e' ∉ exponentText (d.pointPosition - 1) := by
    intro mem
    cases isDigit_of_mem_exponentText mem (by decide) (by decide)
  have same := congrArg String.toList h
  rw [toList_scientific, toList_scientific, List.append_cons_inj_of_notMem front back] at same
  obtain ⟨left, -, right⟩ := same
  obtain ⟨negative, significand⟩ := eq_of_minus_append_eq (notMem rfl (by decide) d)
    (notMem rfl (by decide) d') left
  have digits : d.digits = d'.digits := by
    have written := congrArg (List.filter Char.isDigit) significand
    rw [filter_significand (isDigit_of_mem_toDigits _),
      filter_significand (isDigit_of_mem_toDigits _)] at written
    rw [← Nat.ofDigitChars_ten_toDigits (n := d.digits), written, Nat.ofDigitChars_ten_toDigits]
  have exponent : d.exponent = d'.exponent := by
    have written := eq_of_exponentText_eq right
    rw [pointPosition, pointPosition, digits] at written
    omega
  calc d
    _ = ⟨d.negative, d.digits, d.exponent⟩ := rfl
    _ = d' := by rw [negative, digits, exponent]

/-! ### Both ways of writing -/

/-- The text of the decimal in one of the two ways of writing it. -/
def IsText (d : Decimal) (text : String) : Prop := text = d.plain ∨ text = d.scientific

section

variable {d d' : Decimal} (h : d.negative → d.digits ≠ 0) (h' : d'.negative → d'.digits ≠ 0)

include h

theorem isDigit_of_mem_plain {c : Char} (mem : c ∈ d.plain.toList) (minus : c ≠ '-')
    (point : c ≠ '.') :
  c.isDigit
  := by
  rw [← d.text_numeral h] at mem
  apply Numeral.isDigit_of_mem_text mem minus point

/-- A plain text shows no exponent. -/
theorem plain_ne_scientific :
  d.plain ≠ d'.scientific
  := by
  intro same
  have mem := d'.mem_scientific
  rw [← same] at mem
  cases isDigit_of_mem_plain h mem (by decide) (by decide)

include h'

/-- The value of a decimal can be told from its text. -/
theorem value_eq_of_isText {text : String} (written : d.IsText text) (written' : d'.IsText text) :
  d.value = d'.value
  := by
  rcases written with rfl | rfl
  · rcases written' with same | same
    · rw [← d.text_numeral h, ← d'.text_numeral h'] at same
      rw [← d.value_numeral h, ← d'.value_numeral h', Numeral.eq_of_text_eq same]
    · exact absurd same (plain_ne_scientific h)
  · rcases written' with same | same
    · exact absurd same.symm (plain_ne_scientific h')
    · rw [eq_of_scientific_eq same]

end

end Decimal

end StyleValue
