import StyleValue.Proofs.Operator.Rules

/-!
# Sums of texts

A sum with a word or a quoted string in it is a text.  `Node.written?` says how an operand is
written; the text of the sum is that of the left operand and then that of the right one, whichever
rule applies (`Rule.combine_written`).  Adding operands to a quoted string one by one therefore
writes them behind it in their order (`foldlM_add_written`).
-/

namespace StyleValue

/-- The kinds that can be added to a quoted string. -/
def Kind.isWritten (kind : Kind) : Bool :=
  kind.isNumeric || kind.isWord || kind = .boolean

namespace Node

/-- How a node is written into a text: an amount in its shortest form with what it counts, a truth
value by its name, and a text as it is. -/
def written? : Node → Option String
  | .quantity _ .plain amount => some amount.shortText
  | .quantity _ .percent amount => some (amount.shortText ++ "%")
  | .quantity _ (.unit u) amount => some (amount.shortText ++ u.suffix)
  | .text _ .identifier content => some content
  | .text _ .string content => some content
  | .boolean _ (.truth b) => some (if b then "true" else "false")
  | .boolean _ (.number x) => some x.shortText
  | _ => none

/-! ### Operands as they are written -/

/-- A scalar of a plain kind is written by writing its payload. -/
theorem written?_of_isPlain {n : Node} (h : n.kind.isPlain) :
  ∃ p, n.payload? = some p ∧ n.written? = some p.render
  := by
  cases n with
  | quantity _ measure amount =>
      cases measure with
      | plain => exact ⟨.number amount, rfl, rfl⟩
      | percent => cases h
      | unit u => cases h
  | text _ role content =>
      cases role with
      | identifier => exact ⟨.text content, rfl, rfl⟩
      | string => exact ⟨.text content, rfl, rfl⟩
      | separator => cases h
  | boolean _ flag => cases flag <;> exact ⟨_, rfl, rfl⟩
  | _ => cases h

/-- A percentage or dimension is written with its measure. -/
theorem written?_of_ne_plain
    {loc : Option Location} {measure : Measure} {amount : Number} (h : measure ≠ .plain) :
  (quantity loc measure amount).written? = some (quantityText measure amount)
  := by
  cases measure with
  | plain => exact absurd rfl h
  | percent => rfl
  | unit u => rfl

section

variable {loc : Option Location} {role : TextRole} {content : String}

theorem written?_text (word : role.kind.isWord) :
  (text loc role content).written? = some content
  := by
  cases role with
  | separator => cases word
  | _ => rfl

theorem toText?_text (config : Config) (word : role.kind.isWord) :
  (text loc role content).toText? config = .ok (some content)
  := by
  cases role with
  | separator => cases word
  | _ => rfl

end

end Node

/-! ### Sums of two operands -/

theorem Measure.isWord_kind (m : Measure) :
  m.kind.isWord = false
  := by
  cases m <;> rfl

/-- A rule for a word or a quoted string writes its operands one after the other. -/
theorem Rule.combine_written {rule : Rule} {left right : Node} (fits : rule.Fits left right)
    (word : left.kind.isWord ∨ right.kind.isWord) :
  ∃ n s t, rule.combine left right = .ok n ∧ left.written? = some s ∧ right.written? = some t
    ∧ ∀ config, n.toText? config = .ok (some (s ++ t))
  := by
  cases fits with
  | @quantities _ _ _ m _ _ m' _ =>
      exfalso
      rcases word with word | word
      · exact absurd word (by simp [Node.kind, m.isWord_kind])
      · exact absurd word (by simp [Node.kind, m'.isWord_kind])
  | behindText isWord plain =>
      obtain ⟨p, payload, written⟩ := Node.written?_of_isPlain plain
      exact ⟨_, _, _, combine_behindText payload, Node.written?_text isWord, written,
        fun config => Node.toText?_text config isWord⟩
  | beforeText plain isWord =>
      obtain ⟨p, payload, written⟩ := Node.written?_of_isPlain plain
      exact ⟨_, _, _, combine_beforeText payload, written, Node.written?_text isWord,
        fun config => Node.toText?_text config isWord⟩
  | unit => exact ⟨_, _, _, rfl, rfl, rfl, fun _ => rfl⟩
  | quantityBehind isWord measured =>
      exact ⟨_, _, _, rfl, Node.written?_text isWord, Node.written?_of_ne_plain measured,
        fun config => Node.toText?_text config isWord⟩
  | quantityBefore measured isWord =>
      exact ⟨_, _, _, rfl, Node.written?_of_ne_plain measured, Node.written?_text isWord,
        fun config => Node.toText?_text config isWord⟩

theorem perform_add_written {left right : Node}
    (supported : (Rule.find? left.kind "+" right.kind).isSome)
    (word : left.kind.isWord ∨ right.kind.isWord) :
  ∃ n s t, perform "+" left right = .ok n ∧ left.written? = some s ∧ right.written? = some t
    ∧ ∀ config, n.toText? config = .ok (some (s ++ t))
  := by
  change (Rule.find? left.kind Operator.add.symbol right.kind).isSome at supported
  rw [Rule.find?_symbol, Option.isSome_map] at supported
  obtain ⟨shape, listed⟩ := Option.isSome_iff_exists.mp supported
  have performed : perform "+" left right = Rule.combine ⟨.add, shape⟩ left right := by
    apply Eq.trans (perform_symbol .add left right)
    rw [listed]
    rfl
  rw [performed]
  apply Rule.combine_written _ word
  apply Rule.fits_of_suits (Rule.suits_of_shape? listed)

/-! ### Sums of many operands -/

/-- Adding to a quoted string writes the other operand behind it. -/
theorem perform_add_string
    (loc : Option Location) (content : String) {n : Node} (h : n.kind.isWritten) :
  ∃ t, n.written? = some t
    ∧ perform "+" (.text loc .string content) n = .ok (.text loc .string (content ++ t))
  := by
  cases n with
  | quantity _ measure amount => cases measure <;> exact ⟨_, rfl, rfl⟩
  | text _ role _ =>
      cases role with
      | separator => cases h
      | _ => exact ⟨_, rfl, rfl⟩
  | boolean _ flag => cases flag <;> exact ⟨_, rfl, rfl⟩
  | _ => cases h

/-- Adding operands to a quoted string from left to right writes them behind it in their order. -/
theorem foldlM_add_written
    (loc : Option Location) (content : String) (operands : List Node)
    (h : ∀ n ∈ operands, n.kind.isWritten) :
  ∃ texts, operands.mapM Node.written? = some texts
    ∧ operands.foldlM (perform "+") (.text loc .string content)
      = .ok (.text loc .string (content ++ String.join texts))
  := by
  induction operands generalizing content with
  | nil =>
      use [], rfl
      rw [String.join_nil, String.append_empty]
      rfl
  | cons n rest ih =>
      obtain ⟨first, others⟩ := List.forall_mem_cons.mp h
      obtain ⟨t, written, added⟩ := perform_add_string loc content first
      obtain ⟨texts, writtenRest, addedRest⟩ := ih (content ++ t) others
      use t :: texts
      constructor
      · rw [List.mapM_cons, written, writtenRest]
        rfl
      · rw [List.foldlM_cons, added, String.join_cons, ← String.append_assoc]
        apply addedRest

/-- A sum with a word or a quoted string in it writes its operands one after the other; a number and
a word make a dimension, which is written in the same way.  Sums from left to right that start with
a quoted string write all their operands behind it. -/
theorem sums_write_operands :
  (∀ left right : Node, (Rule.find? left.kind "+" right.kind).isSome →
      left.kind.isWord ∨ right.kind.isWord →
      ∃ n s t, perform "+" left right = .ok n ∧ left.written? = some s ∧ right.written? = some t
        ∧ ∀ config, n.toText? config = .ok (some (s ++ t)))
    ∧ (∀ (loc loc' : Option Location) (amount : Number) (unit : String),
      perform "+" (.quantity loc .plain amount) (.text loc' .identifier unit)
        = .ok (.quantity loc (.unit (.named unit)) amount))
    ∧ ∀ (loc : Option Location) (content : String) (operands : List Node),
      (∀ n ∈ operands, n.kind.isWritten) →
      ∃ texts, operands.mapM Node.written? = some texts
        ∧ operands.foldlM (perform "+") (.text loc .string content)
          = .ok (.text loc .string (content ++ String.join texts))
  := by
  refine ⟨?_, ?_, foldlM_add_written⟩
  · intro left right
    apply perform_add_written
  · intros
    rfl

/-- A percentage before a string, and a string followed by a negative zero, half an em and a truth
value. -/
theorem sums_write_negative_zero :
  (∃ n s t, perform "+" (.quantity none .percent (.int 5)) (.text none .string "a") = .ok n
      ∧ (Node.quantity none .percent (.int 5)).written? = some s
      ∧ (Node.text none .string "a").written? = some t
      ∧ ∀ config, n.toText? config = .ok (some (s ++ t)))
    ∧ List.foldlM (perform "+") (.text (some ⟨1, 2, none⟩) .string "a")
        [.quantity none .plain (.float (.ofBits 0x8000000000000000)),
          .quantity none (.unit (.named "em")) (.float (.ofBits 0x3fe0000000000000)),
          .boolean none (.truth true)]
      = .ok (.text (some ⟨1, 2, none⟩) .string "a00.5emtrue")
  := by
  constructor
  · apply sums_write_operands.1
    · rfl
    · exact Or.inr rfl
  · obtain ⟨texts, written, added⟩ := sums_write_operands.2.2 (some ⟨1, 2, none⟩) "a"
      [.quantity none .plain (.float (.ofBits 0x8000000000000000)),
        .quantity none (.unit (.named "em")) (.float (.ofBits 0x3fe0000000000000)),
        .boolean none (.truth true)]
      (by decide)
    have concrete : texts = ["0", "0.5em", "true"] := by
      apply Option.some.inj
      rw [← written]
      decide +kernel
    rw [added, concrete]
    rfl

end StyleValue
