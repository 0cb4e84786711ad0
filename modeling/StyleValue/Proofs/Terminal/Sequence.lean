import StyleValue.Proofs.Terminal.Strip
import Mathlib.Data.List.Infix
import Mathlib.Data.List.TakeWhile
import Mathlib.Tactic.Use

/-!
# Escape sequences in what is left of a text

`IsSequence` says which texts are escape sequences.  A text is scanned for them from left to right:
those that it has are taken out, and all other characters are kept (`isLeft_iff`).

What is left may still have a sequence.  An escape character that begins none is kept, and begins one
when those behind it are gone, as in `ESC` `ESC` `[0m` `[0m`, of which `ESC` `[0m` is left.
`stripsSequences` says that there is no other way for a sequence to be left over.
-/

namespace StyleValue.Terminal

/-! ### Sequences -/

/-- An escape sequence: an escape character with a single character, or with a bracket, parameters,
intermediate characters and a final one. -/
inductive IsSequence : List Char → Prop
  | single {c : Char} (h : '@' ≤ c ∧ c ≤ 'Z' ∨ '\\' ≤ c ∧ c ≤ '_') : IsSequence [escape, c]
  | control {parameters intermediates : List Char} {final : Char}
      (hparameters : ∀ c ∈ parameters, '0' ≤ c ∧ c ≤ '?')
      (hintermediates : ∀ c ∈ intermediates, ' ' ≤ c ∧ c ≤ '/')
      (hfinal : '@' ≤ final ∧ final ≤ '~') :
      IsSequence (escape :: '[' :: (parameters ++ intermediates ++ [final]))

theorem char_le_iff {c d : Char} :
  c ≤ d ↔ c.toNat ≤ d.toNat
  := Iff.rfl

theorem char_lt_iff {c d : Char} :
  c < d ↔ c.toNat < d.toNat
  := Iff.rfl

theorem isBetween_iff {first last c : Char} :
  isBetween first last c ↔ first ≤ c ∧ c ≤ last
  := by
  simp only [isBetween, Bool.and_eq_true, decide_eq_true_eq]

theorem isSingle_iff {c : Char} :
  isSingle c ↔ '@' ≤ c ∧ c ≤ 'Z' ∨ '\\' ≤ c ∧ c ≤ '_'
  := by
  simp only [isSingle, Bool.and_eq_true, isBetween_iff, bne_iff_ne, ne_eq, ← Char.toNat_inj,
    char_le_iff, Char.reduceToNat]
  omega

/-- Ranges that lie apart have no character in common. -/
theorem isBetween_eq_false {first last first' last' c : Char} (h : isBetween first last c)
    (apart : last < first' ∨ last' < first) :
  isBetween first' last' c = false
  := by
  rw [isBetween_iff] at h
  rw [← Bool.not_eq_true, isBetween_iff]
  simp only [char_le_iff, char_lt_iff] at h apart ⊢
  omega

theorem dropWhile_append {p : Char → Bool} {cs rest : List Char} (all : ∀ c ∈ cs, p c)
    (stops : ∀ c ∈ rest.head?, p c = false) :
  (cs ++ rest).dropWhile p = rest
  := by
  rw [List.dropWhile_append_of_pos all]
  cases rest with
  | nil => rfl
  | cons c rest => rw [List.dropWhile_cons, stops c rfl, if_neg Bool.false_ne_true]

/-- The scanner reads a control sequence to its end. -/
theorem afterControl?_of_parts {parameters intermediates : List Char} {final : Char}
    (hparameters : ∀ c ∈ parameters, isParameter c)
    (hintermediates : ∀ c ∈ intermediates, isIntermediate c) (hfinal : isFinal final)
    (rest : List Char) :
  afterControl? (parameters ++ (intermediates ++ final :: rest)) = some rest
  := by
  have afterParameters : (parameters ++ (intermediates ++ final :: rest)).dropWhile isParameter
      = intermediates ++ final :: rest := by
    apply dropWhile_append hparameters
    intro c first
    cases intermediates with
    | nil =>
        obtain rfl := Option.some.inj first
        exact isBetween_eq_false hfinal (Or.inr (by decide))
    | cons d intermediates =>
        obtain rfl := Option.some.inj first
        exact isBetween_eq_false (hintermediates d List.mem_cons_self) (Or.inl (by decide))
  have afterIntermediates : (intermediates ++ final :: rest).dropWhile isIntermediate
      = final :: rest := by
    apply dropWhile_append hintermediates
    intro c first
    obtain rfl := Option.some.inj first
    exact isBetween_eq_false hfinal (Or.inr (by decide))
  simp only [afterControl?, afterParameters, afterIntermediates, if_pos hfinal]

theorem exists_parts_of_afterControl? {cs rest : List Char} (h : afterControl? cs = some rest) :
  ∃ parameters intermediates final, (∀ c ∈ parameters, isParameter c)
    ∧ (∀ c ∈ intermediates, isIntermediate c) ∧ isFinal final
    ∧ cs = parameters ++ (intermediates ++ final :: rest)
  := by
  rw [afterControl?] at h
  split at h
  next final tail left =>
    split at h
    next isLast =>
      obtain rfl := Option.some.inj h
      use cs.takeWhile isParameter, (cs.dropWhile isParameter).takeWhile isIntermediate, final
      refine ⟨fun _ => List.mem_takeWhile_imp, fun _ => List.mem_takeWhile_imp, isLast, ?_⟩
      rw [← left, List.takeWhile_append_dropWhile, List.takeWhile_append_dropWhile]
    next => contradiction
  next => contradiction

/-- The scanner reads a sequence behind its escape character to its end. -/
theorem afterEscape?_of_isSequence {s : List Char} (h : IsSequence (escape :: s)) (rest : List Char) :
  afterEscape? (s ++ rest) = some rest
  := by
  cases h with
  | @single c range =>
      have single := isSingle_iff.mpr range
      have other : c ≠ '[' := by
        rintro rfl
        revert single
        decide
      rw [List.singleton_append, afterEscape?, if_neg other, if_pos single]
  | @control parameters intermediates final hparameters hintermediates hfinal =>
      rw [List.cons_append, afterEscape?, if_pos rfl, List.append_assoc, List.append_assoc]
      apply afterControl?_of_parts
      · intro d mem
        exact isBetween_iff.mpr (hparameters d mem)
      · intro d mem
        exact isBetween_iff.mpr (hintermediates d mem)
      · exact isBetween_iff.mpr hfinal

theorem exists_isSequence_of_afterEscape? {cs rest : List Char} (h : afterEscape? cs = some rest) :
  ∃ s, IsSequence (escape :: s) ∧ cs = s ++ rest
  := by
  rw [afterEscape?.eq_def] at h
  split at h
  next => contradiction
  next c tail =>
    split at h
    next bracket =>
      obtain ⟨parameters, intermediates, final, hparameters, hintermediates, hfinal, rfl⟩ :=
        exists_parts_of_afterControl? h
      use '[' :: (parameters ++ intermediates ++ [final])
      constructor
      · apply IsSequence.control
        · intro d mem
          exact isBetween_iff.mp (hparameters d mem)
        · intro d mem
          exact isBetween_iff.mp (hintermediates d mem)
        · exact isBetween_iff.mp hfinal
      · simp only [bracket, List.cons_append, List.append_assoc, List.nil_append]
    next =>
      split at h
      next single =>
        obtain rfl := Option.some.inj h
        exact ⟨[c], .single (isSingle_iff.mp single), rfl⟩
      next => contradiction

/-- What the scanner finds behind an escape character is what is left after a sequence. -/
theorem afterEscape?_eq_some_iff {cs rest : List Char} :
  afterEscape? cs = some rest ↔ ∃ s, IsSequence (escape :: s) ∧ cs = s ++ rest
  := by
  constructor
  · apply exists_isSequence_of_afterEscape?
  · rintro ⟨s, sequence, rfl⟩
    apply afterEscape?_of_isSequence sequence

theorem IsSequence.exists_cons {s : List Char} (h : IsSequence s) :
  ∃ tail, s = escape :: tail
  := by
  cases h with
  | single => exact ⟨_, rfl⟩
  | control => exact ⟨_, rfl⟩

/-- The only escape character of a sequence is its first one. -/
theorem escape_notMem_of_isSequence {s : List Char} (h : IsSequence (escape :: s)) :
  escape ∉ s
  := by
  have visible : ∀ c ∈ s, ' ' ≤ c := by
    cases h with
    | single range =>
        rw [List.forall_mem_singleton]
        simp only [char_le_iff, Char.reduceToNat] at range ⊢
        omega
    | control hparameters hintermediates hfinal =>
        simp only [List.forall_mem_cons, List.forall_mem_append, char_le_iff, Char.reduceToNat]
          at hparameters hintermediates hfinal ⊢
        refine ⟨by decide, ⟨fun c mem => ?_, fun c mem => (hintermediates c mem).1⟩, ?_, ?_⟩
        · have range := hparameters c mem
          omega
        · omega
        · simp
  intro mem
  exact absurd (visible escape mem) (by decide)

/-! ### Texts with sequences -/

/-- The text begins with a sequence. -/
def BeginsSequence (text : List Char) : Prop := ∃ s, IsSequence s ∧ s <+: text

/-- There is a sequence somewhere in the text. -/
def HasSequence (text : List Char) : Prop := ∃ s, IsSequence s ∧ s <:+: text

theorem beginsSequence_escape_iff {cs : List Char} :
  BeginsSequence (escape :: cs) ↔ ∃ rest, afterEscape? cs = some rest
  := by
  constructor
  · rintro ⟨s, sequence, rest, joined⟩
    obtain ⟨tail, rfl⟩ := sequence.exists_cons
    obtain ⟨-, rfl⟩ := List.cons.inj joined
    exact ⟨rest, afterEscape?_eq_some_iff.mpr ⟨tail, sequence, rfl⟩⟩
  · rintro ⟨rest, found⟩
    obtain ⟨s, sequence, rfl⟩ := afterEscape?_eq_some_iff.mp found
    exact ⟨_, sequence, List.prefix_append _ _⟩

theorem not_beginsSequence_escape_iff {cs : List Char} :
  ¬ BeginsSequence (escape :: cs) ↔ afterEscape? cs = none
  := by
  rw [beginsSequence_escape_iff, not_exists]
  exact Option.eq_none_iff_forall_ne_some.symm

theorem not_beginsSequence_of_ne {c : Char} (h : c ≠ escape) (cs : List Char) :
  ¬ BeginsSequence (c :: cs)
  := by
  rintro ⟨s, sequence, rest, joined⟩
  obtain ⟨tail, rfl⟩ := sequence.exists_cons
  obtain ⟨rfl, -⟩ := List.cons.inj joined
  exact h rfl

theorem not_hasSequence_nil :
  ¬ HasSequence []
  := by
  rintro ⟨s, sequence, inside⟩
  obtain ⟨tail, rfl⟩ := sequence.exists_cons
  cases List.infix_nil.mp inside

theorem hasSequence_cons_iff {c : Char} {cs : List Char} :
  HasSequence (c :: cs) ↔ BeginsSequence (c :: cs) ∨ HasSequence cs
  := by
  simp only [HasSequence, BeginsSequence, List.infix_cons_iff, and_or_left, exists_or]

/-! ### What is taken out -/

theorem stripped_sequence_append {s : List Char} (h : IsSequence s) (rest : List Char) :
  stripped (s ++ rest) = stripped rest
  := by
  obtain ⟨tail, rfl⟩ := h.exists_cons
  apply stripped_escape_of_some
  apply afterEscape?_of_isSequence h

theorem stripped_cons_of_not_beginsSequence {c : Char} {cs : List Char}
    (h : ¬ BeginsSequence (c :: cs)) :
  stripped (c :: cs) = c :: stripped cs
  := by
  by_cases isEscape : c = escape
  · rw [isEscape] at h ⊢
    apply stripped_escape_of_none
    apply not_beginsSequence_escape_iff.mp h
  · apply stripped_cons_of_ne isEscape

/-- `left` is what is left of a text that is read from left to right when sequences are taken out and
other characters are kept. -/
inductive IsLeft : (text left : List Char) → Prop
  | nil : IsLeft [] []
  | sequence {s text left : List Char} (taken : IsSequence s) (others : IsLeft text left) :
      IsLeft (s ++ text) left
  | character {c : Char} {text left : List Char} (kept : ¬ BeginsSequence (c :: text))
      (others : IsLeft text left) : IsLeft (c :: text) (c :: left)

theorem isLeft_stripped (text : List Char) :
  IsLeft text (stripped text)
  := by
  induction text using stripped.induct with
  | case1 =>
      rw [stripped]
      exact .nil
  | case2 cs tail found _ ih =>
      obtain ⟨s, sequence, rfl⟩ := afterEscape?_eq_some_iff.mp found
      rw [stripped_escape_of_some found]
      exact .sequence sequence ih
  | case3 cs missing ih =>
      rw [stripped_escape_of_none missing]
      exact .character (not_beginsSequence_escape_iff.mpr missing) ih
  | case4 c cs different ih =>
      rw [stripped_cons_of_ne different]
      exact .character (not_beginsSequence_of_ne different cs) ih

/-- There is one way to read a text so. -/
theorem isLeft_iff {text left : List Char} :
  IsLeft text left ↔ left = stripped text
  := by
  constructor
  · intro h
    induction h with
    | nil => rw [stripped]
    | sequence taken _ ih => rw [stripped_sequence_append taken, ih]
    | character kept _ ih => rw [stripped_cons_of_not_beginsSequence kept, ih]
  · rintro rfl
    apply isLeft_stripped

theorem IsLeft.length_le {text left : List Char} (h : IsLeft text left) :
  left.length ≤ text.length
  := by
  induction h with
  | nil => exact le_rfl
  | sequence _ _ ih =>
      rw [List.length_append]
      omega
  | character _ _ ih =>
      rw [List.length_cons, List.length_cons]
      omega

/-- Texts without sequences are left as they are, and no others. -/
theorem stripped_eq_self_iff {text : List Char} :
  stripped text = text ↔ ¬ HasSequence text
  := by
  constructor
  · rintro same ⟨s, sequence, before, rest, rfl⟩
    obtain ⟨tail, rfl⟩ := sequence.exists_cons
    have split : stripped (before ++ (escape :: tail) ++ rest)
        = stripped before ++ stripped rest := by
      rw [List.append_assoc, List.cons_append, stripped_append interrupts_escape,
        ← List.cons_append, stripped_sequence_append sequence]
    have fewerBefore := (isLeft_stripped before).length_le
    have fewerBehind := (isLeft_stripped rest).length_le
    have shorter := congrArg List.length (split.symm.trans same)
    simp only [List.length_append, List.length_cons] at shorter
    omega
  · intro free
    induction text with
    | nil => rw [stripped]
    | cons c cs ih =>
        rw [hasSequence_cons_iff, not_or] at free
        obtain ⟨none, others⟩ := free
        rw [stripped_cons_of_not_beginsSequence none, ih others]

/-! ### What is left over -/

/-- Some escape character of the text begins no sequence, but begins one when the text behind it is
stripped. -/
def JoinsSequence (text : List Char) : Prop :=
  ∃ before rest, text = before ++ escape :: rest
    ∧ ¬ BeginsSequence (escape :: rest) ∧ BeginsSequence (escape :: stripped rest)

theorem JoinsSequence.append {text : List Char} (h : JoinsSequence text) (start : List Char) :
  JoinsSequence (start ++ text)
  := by
  obtain ⟨before, rest, rfl, kept, joined⟩ := h
  use start ++ before, rest
  rw [List.append_assoc]
  exact ⟨rfl, kept, joined⟩

theorem joinsSequence_of_hasSequence {text left : List Char} (h : IsLeft text left)
    (remaining : HasSequence left) :
  JoinsSequence text
  := by
  induction h with
  | nil => exact absurd remaining not_hasSequence_nil
  | sequence _ _ ih => exact (ih remaining).append _
  | @character c text left kept others ih =>
      rcases hasSequence_cons_iff.mp remaining with first | later
      · by_cases isEscape : c = escape
        · rw [isEscape] at kept first ⊢
          rw [isLeft_iff.mp others] at first
          exact ⟨[], text, rfl, kept, first⟩
        · exact absurd first (not_beginsSequence_of_ne isEscape left)
      · exact (ih later).append [c]

theorem hasSequence_stripped_iff {text : List Char} :
  HasSequence (stripped text) ↔ JoinsSequence text
  := by
  constructor
  · apply joinsSequence_of_hasSequence (isLeft_stripped text)
  · rintro ⟨before, rest, rfl, kept, s, sequence, first⟩
    rw [stripped_append interrupts_escape, stripped_cons_of_not_beginsSequence kept]
    exact ⟨s, sequence, first.isInfix.trans (List.suffix_append _ _).isInfix⟩

/-- The text is the start of a sequence that goes on. -/
def IsUnfinished (text : List Char) : Prop :=
  text ≠ [] ∧ ∃ missing, missing ≠ [] ∧ IsSequence (text ++ missing)

/-- Somewhere in the text an unfinished sequence is followed by a sequence. -/
def HasInterrupted (text : List Char) : Prop :=
  ∃ start s, IsUnfinished start ∧ IsSequence s ∧ start ++ s <:+: text

/-- Where other characters follow when a text is stripped, a sequence has been taken out. -/
theorem beginsSequence_of_prefix_stripped {cs tail : List Char} (shown : cs ≠ [])
    (plain : escape ∉ cs) (h : cs <+: stripped (escape :: tail)) :
  BeginsSequence (escape :: tail)
  := by
  by_contra kept
  rw [stripped_cons_of_not_beginsSequence kept] at h
  obtain ⟨c, cs, rfl⟩ := List.exists_cons_of_ne_nil shown
  obtain ⟨rfl, -⟩ := List.cons_prefix_cons.mp h
  exact plain List.mem_cons_self

/-- A sequence is joined where another one interrupts it. -/
theorem JoinsSequence.hasInterrupted {text : List Char} (h : JoinsSequence text) :
  HasInterrupted text
  := by
  obtain ⟨before, rest, rfl, kept, s, sequence, first⟩ := h
  obtain ⟨s, rfl⟩ := sequence.exists_cons
  rw [List.prefix_cons_inj] at first
  have incomplete : ¬ s <+: rest := by
    intro complete
    exact kept ⟨escape :: s, sequence, (List.prefix_cons_inj escape).mpr complete⟩
  -- Up to the next escape character everything is kept, so the sequence reaches beyond it.
  by_cases others : escape ∈ rest
  · obtain ⟨plain, tail, rfl, free⟩ := List.eq_append_cons_of_mem others
    rw [stripped_append_of_not_mem free] at first
    rcases List.prefix_or_prefix_of_prefix first (List.prefix_append plain _)
      with within | ⟨missing, rfl⟩
    · exact absurd (within.trans (List.prefix_append _ _)) incomplete
    · rw [List.prefix_append_right_inj] at first
      have more : missing ≠ [] := by
        rintro rfl
        rw [List.append_nil] at incomplete
        exact incomplete (List.prefix_append _ _)
      have plainMissing : escape ∉ missing := by
        intro mem
        exact escape_notMem_of_isSequence sequence (List.mem_append_right _ mem)
      obtain ⟨s, interrupting, behind⟩ := beginsSequence_of_prefix_stripped more plainMissing first
      refine ⟨escape :: plain, s, ⟨List.cons_ne_nil _ _, missing, more, sequence⟩, interrupting, ?_⟩
      apply List.IsInfix.trans _ (List.suffix_append before _).isInfix
      apply List.IsPrefix.isInfix
      rw [← List.cons_append, List.prefix_append_right_inj]
      exact behind
  · rw [← List.append_nil rest, stripped_append_of_not_mem others, stripped, List.append_nil] at first
    exact absurd first incomplete

theorem toList_strip (text : String) :
  (strip text).toList = stripped text.toList
  := by
  rw [strip, String.toList_ofList]

theorem strip_eq_self_iff {text : String} :
  strip text = text ↔ ¬ HasSequence text.toList
  := by
  rw [← String.toList_inj, toList_strip]
  apply stripped_eq_self_iff

/-- What `strip` takes out of a text and what it leaves. -/
structure StripsSequences (text : String) : Prop where
  /-- The text is read from left to right.  Its sequences are taken out, and nothing else. -/
  isLeft : IsLeft text.toList (strip text).toList
  /-- What is left is stripped of nothing more when there is no sequence in it, and only then. -/
  again_iff : strip (strip text) = strip text ↔ ¬ HasSequence (strip text).toList
  /-- A sequence is left over where it is joined from characters on both sides of others. -/
  hasSequence_iff : HasSequence (strip text).toList ↔ JoinsSequence text.toList
  /-- So there is none when no unfinished sequence is followed by another one. -/
  interrupted : HasSequence (strip text).toList → HasInterrupted text.toList

theorem stripsSequences (text : String) :
  StripsSequences text
  where
  isLeft := by
    rw [toList_strip]
    apply isLeft_stripped
  again_iff := strip_eq_self_iff
  hasSequence_iff := by
    rw [toList_strip]
    apply hasSequence_stripped_iff
  interrupted := by
    rw [toList_strip]
    intro remaining
    exact (hasSequence_stripped_iff.mp remaining).hasInterrupted

/-- A sequence that another one interrupts is left over. -/
theorem strip_interrupted :
  strip "\x1b\x1b[0m[0m" = "\x1b[0m"
  := by cbv

theorem not_forall_strip_sequenceFree :
  (¬ ∀ text, ¬ HasSequence (strip text).toList) ∧ ¬ ∀ text, strip (strip text) = strip text
  := by
  have again : strip "\x1b[0m" = "" := by cbv
  have changed : strip (strip "\x1b\x1b[0m[0m") ≠ strip "\x1b\x1b[0m[0m" := by
    rw [strip_interrupted, again]
    decide
  constructor
  · intro none
    apply changed
    apply strip_eq_self_iff.mpr
    apply none
  · intro same
    exact changed (same _)

end StyleValue.Terminal
