import StyleValue.Proofs.Number.Span

/-!
# On the way to a place

A walk keeps what every step keeps, and it ends when its steps lead beyond the end.  Between
floating-point numbers a whole distance apart, the steps lead through places at whole distances and
do not miss the end (`Direction.IsOnWay.next`), as long as they come nearer to it.  They do so
between numbers less than 2⁵³ (`Direction.IsOnWay.gap_next_lt`).
-/

namespace StyleValue

namespace Direction

/-! ### Walks -/

section

variable {d : Direction} {a stop : Number}

theorem walk?_eq_some_nil_iff :
  d.walk? a stop = some [] ↔ ¬ d.isBefore a stop
  := by
  constructor
  · intro walked before
    rw [walk?, if_pos before] at walked
    split at walked <;> simp at walked
  · apply walk?_of_not_isBefore

theorem walk?_eq_some_cons_iff {b : Number} {rest : List Number} :
  d.walk? a stop = some (b :: rest) ↔ b = a ∧ d.isBefore a stop
    ∧ d.gap (d.next a) stop < d.gap a stop ∧ d.walk? (d.next a) stop = some rest
  := by
  rw [walk?]
  split
  next before =>
    split
    next nearer =>
      simp [before, nearer, eq_comm, and_comm]
    next stuck => simp [stuck]
  next after => simp [after]

/-- What every step keeps is true of all numbers of a walk, and all of them lie before its end. -/
theorem forall_mem_of_walk? (P : Number → Prop) (closed : ∀ a, P a → P (d.next a)) (h : P a)
    {numbers : List Number} (walked : d.walk? a stop = some numbers) :
  ∀ b ∈ numbers, P b ∧ d.isBefore b stop
  := by
  induction numbers generalizing a with
  | nil => simp
  | cons b rest ih =>
      obtain ⟨rfl, before, -, walked⟩ := walk?_eq_some_cons_iff.mp walked
      rw [List.forall_mem_cons]
      exact ⟨⟨h, before⟩, ih (closed _ h) walked⟩

/-- A walk that keeps to numbers before its end until it comes by a goal, from which the next step
leads to the end, has the goal as its last number. -/
theorem getLast?_of_walk? (P goal : Number → Prop) (before : ∀ a, P a → d.isBefore a stop)
    (closed : ∀ a, P a → ¬ goal a → P (d.next a))
    (ends : ∀ a, P a → goal a → d.gap (d.next a) stop < d.gap a stop →
      ¬ d.isBefore (d.next a) stop)
    (h : P a) {numbers : List Number} (walked : d.walk? a stop = some numbers) :
  ∃ b, numbers.getLast? = some b ∧ goal b
  := by
  induction numbers generalizing a with
  | nil => exact absurd (before a h) (walk?_eq_some_nil_iff.mp walked)
  | cons b rest ih =>
      obtain ⟨rfl, -, nearer, walked⟩ := walk?_eq_some_cons_iff.mp walked
      by_cases reached : goal b
      · have done := walk?_of_not_isBefore (ends b h reached nearer)
        obtain rfl := Option.some.inj (done.symm.trans walked)
        exact ⟨b, rfl, reached⟩
      · obtain ⟨c, last, goal⟩ := ih (closed b h reached) walked
        refine ⟨c, ?_, goal⟩
        rw [List.getLast?_cons, last]
        rfl

/-- A walk that comes nearer to its end with every step up to a goal, from which the next step leads
to the end, is not endless. -/
theorem exists_walk? (P goal : Number → Prop) (closed : ∀ a, P a → ¬ goal a → P (d.next a))
    (nearer : ∀ a, P a → d.gap (d.next a) stop < d.gap a stop)
    (ends : ∀ a, P a → goal a → ¬ d.isBefore (d.next a) stop) (h : P a) :
  ∃ numbers, d.walk? a stop = some numbers
  := by
  fun_induction walk? d a stop with
  | case1 a before _ ih =>
      by_cases reached : goal a
      · rw [walk?_of_not_isBefore (ends a h reached)]
        exact ⟨_, rfl⟩
      · obtain ⟨rest, walked⟩ := ih (closed a h reached)
        rw [walked]
        exact ⟨_, rfl⟩
  | case2 a before stuck => exact absurd (nearer a h) stuck
  | case3 a after => exact ⟨_, rfl⟩

end

/-! ### Steps between floating-point numbers -/

section

variable {d : Direction} {m n : Int}

theorem lead_self (d : Direction) (m : Int) :
  d.lead m m = 0
  := by
  cases d <;> rw [lead, Int.sub_self]

/-- The lead to a place is that to any other place and on from there. -/
theorem lead_add_lead (d : Direction) (l m n : Int) :
  d.lead l m + d.lead m n = d.lead l n
  := by
  cases d <;> rw [lead, lead, lead] <;> omega

theorem dvd_add_stride (d : Direction) (n : Int) :
  (Binary64.unitsPerOne : Int) ∣ n * Binary64.unitsPerOne + d.stride
  := by
  rw [stride_eq, ← Int.add_mul]
  apply Int.dvd_mul_left

theorem next_float (d : Direction) (x : Binary64) :
  ∃ y, d.next (.float x) = .float y
  := by
  cases d <;> exact ⟨_, rfl⟩

theorem position?_next_of_float {x : Binary64}
    (place : (Number.float x).position? = some (.units n)) :
  (d.next (.float x)).position? = some (.units (Binary64.nearest (n + d.stride)))
  := by
  obtain ⟨y, step, place'⟩ := position?_next_float d place
  rw [step]
  exact place'

theorem exists_position?_next_whole (d : Direction) {a : Number}
    (place : a.position? = some (.units (n * Binary64.unitsPerOne))) :
  ∃ c : Int, (d.next a).position? = some (.units (c * Binary64.unitsPerOne))
  := by
  cases a with
  | int b =>
      rw [next_int]
      exact ⟨_, Number.position?_int _⟩
  | float x =>
      obtain ⟨c, product⟩ := Binary64.unitsPerOne_dvd_nearest (dvd_add_stride d n)
      rw [position?_next_of_float place, product, Int.mul_comm]
      exact ⟨c, rfl⟩

theorem unitsPerOne_le_lead (apart : (Binary64.unitsPerOne : Int) ∣ n - m)
    (ahead : 0 < d.lead m n) :
  Binary64.unitsPerOne ≤ d.lead m n
  := by
  apply Int.le_of_dvd ahead
  cases d with
  | up => apply apart
  | down =>
      rw [lead, ← neg_sub]
      apply Int.dvd_neg.mpr apart

/-- Rounding does not lead beyond a number of the format. -/
theorem lead_nearest_nonneg (hn : Binary64.Representable n.natAbs) (h : 0 ≤ d.lead m n) :
  0 ≤ d.lead (Binary64.nearest m) n
  := by
  have exact := Binary64.nearest_of_representable hn
  cases d with
  | up =>
      rw [lead] at h ⊢
      have mono := Binary64.nearest_mono (show m ≤ n by omega)
      omega
  | down =>
      rw [lead] at h ⊢
      have mono := Binary64.nearest_mono (show n ≤ m by omega)
      omega

/-- Floating-point numbers between two places, at whole distances from the second. -/
def IsOnWay (d : Direction) (m n : Int) (a : Number) : Prop :=
  (∃ x, a = .float x) ∧ ∃ l, a.position? = some (.units l) ∧ 0 ≤ d.lead m l ∧ 0 ≤ d.lead l n
    ∧ (Binary64.unitsPerOne : Int) ∣ n - l

theorem isOnWay_self {x : Binary64} (place : (Number.float x).position? = some (.units m))
    (ahead : 0 ≤ d.lead m n) (apart : (Binary64.unitsPerOne : Int) ∣ n - m) :
  d.IsOnWay m n (.float x)
  := by
  refine ⟨⟨x, rfl⟩, m, place, ?_, ahead, apart⟩
  rw [lead_self]

/-- A step towards a number of the format, at a whole distance from it, does not miss it. -/
theorem IsOnWay.next {a : Number} (h : d.IsOnWay m n a) (hn : Binary64.Representable n.natAbs)
    (different : a.position? ≠ some (.units n)) :
  d.IsOnWay m n (d.next a)
  := by
  obtain ⟨⟨x, rfl⟩, l, place, behind, ahead, apart⟩ := h
  have hl := Binary64.representable_of_position? place
  have far : Binary64.unitsPerOne ≤ d.lead l n := by
    apply unitsPerOne_le_lead apart
    have elsewhere : l ≠ n := by
      rintro rfl
      apply different place
    cases d <;> simp only [lead] at ahead ⊢ <;> omega
  have beyond : 0 ≤ d.lead (l + d.stride) n := by
    rw [lead_add_stride]
    omega
  have step : (Binary64.unitsPerOne : Int) ∣ l + d.stride - l := by
    rw [add_sub_cancel_left, stride_eq]
    apply Int.dvd_mul_left
  have between : (l + d.stride).natAbs ≤ l.natAbs ∨ (l + d.stride).natAbs ≤ n.natAbs := by
    cases d <;> simp only [lead, stride] at far ⊢ <;> omega
  refine ⟨next_float d x, _, position?_next_of_float place, ?_, lead_nearest_nonneg hn beyond, ?_⟩
  · have forward := lead_nearest_le (d := d) n hl
    have total := lead_add_lead d m l n
    have total' := lead_add_lead d m (Binary64.nearest (l + d.stride)) n
    omega
  · rw [← sub_sub_sub_cancel_right n _ l]
    apply Int.dvd_sub apart
    apply Binary64.dvd_nearest_sub hl hn apart step between

/-- The numbers on the way to a place come before all that lies beyond it. -/
theorem IsOnWay.isBefore {a stop : Number} {s : Int} (h : d.IsOnWay m n a)
    (place : stop.position? = some (.units s)) (beyond : 0 < d.lead n s) :
  d.isBefore a stop
  := by
  obtain ⟨-, l, place', -, ahead, -⟩ := h
  have total := lead_add_lead d l n s
  rw [isBefore_units_iff place' place]
  omega

/-- A step that comes nearer to one step beyond a place, from a floating-point number there, does
not stop short of that. -/
theorem not_isBefore_next {a b : Number} (float : ∃ x, a = .float x)
    (ha : a.position? = some (.units n)) (hb : b.position? = some (.units n))
    (nearer : d.gap (d.next a) (d.next b) < d.gap a (d.next b)) :
  ¬ d.isBefore (d.next a) (d.next b)
  := by
  obtain ⟨x, rfl⟩ := float
  have ha' := position?_next_of_float (d := d) ha
  cases b with
  | float y =>
      rw [isBefore_units_iff ha' (position?_next_of_float hb)]
      cases d <;> simp [lead]
  | int b =>
      cases hb
      have hb' := position?_next_int d b
      rw [gap_of_position? ha hb', gap_of_position? ha' hb'] at nearer
      rw [isBefore_units_iff ha' hb']
      intro short
      have whole := dvd_add_stride d b
      have far := unitsPerOne_le_lead (Int.dvd_sub whole (Binary64.unitsPerOne_dvd_nearest whole))
        short
      cases d <;> simp only [lead, stride] at nearer far <;> omega

/-! ### Steps between small numbers -/

theorem lead_nearest_pos (d : Direction) (h : m.natAbs < 2 ^ 53 * Binary64.unitsPerOne) :
  0 < d.lead m (Binary64.nearest (m + d.stride))
  := by
  cases d with
  | up =>
      have forward := Binary64.lt_nearest_add h
      rw [lead, stride]
      omega
  | down =>
      rw [← Int.natAbs_neg] at h
      have forward := Binary64.lt_nearest_add h
      rw [lead, stride, ← Int.neg_neg (m + _), Int.neg_add, Int.neg_neg, Binary64.nearest_neg]
      omega

/-- A step from a small number leads on. -/
theorem exists_position?_next_beyond (d : Direction) {a : Number}
    (place : a.position? = some (.units m)) (h : m.natAbs < 2 ^ 53 * Binary64.unitsPerOne) :
  ∃ s, (d.next a).position? = some (.units s) ∧ 0 < d.lead m s
  := by
  cases a with
  | float x => exact ⟨_, position?_next_of_float place, lead_nearest_pos d h⟩
  | int n =>
      cases place
      have positive := Binary64.unitsPerOne_pos
      refine ⟨_, position?_next_int d n, ?_⟩
      cases d <;> simp only [lead, stride] <;> omega

theorem IsOnWay.gap_next_lt {a stop : Number} {s : Int} (h : d.IsOnWay m n a)
    (place : stop.position? = some (.units s)) (beyond : 0 < d.lead n s)
    (hm : m.natAbs < 2 ^ 53 * Binary64.unitsPerOne)
    (hn : n.natAbs < 2 ^ 53 * Binary64.unitsPerOne) :
  d.gap (d.next a) stop < d.gap a stop
  := by
  obtain ⟨-, l, place', behind, ahead, -⟩ := h
  have small : l.natAbs < 2 ^ 53 * Binary64.unitsPerOne := by
    cases d <;> simp only [lead] at behind ahead <;> omega
  obtain ⟨t, stepped, forward⟩ := exists_position?_next_beyond d place' small
  have total := lead_add_lead d l n s
  have total' := lead_add_lead d l t s
  rw [gap_of_position? stepped place, gap_of_position? place' place]
  omega

end

end Direction

end StyleValue
