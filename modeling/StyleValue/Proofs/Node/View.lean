import Mathlib.Data.Set.List
import StyleValue.Proofs.Node.Children
import StyleValue.Proofs.Node.Forget

/-!
# Children as a view

The children of a node are a view of it through which it can be changed.  `Kind.layout?` says of
which sorts the children of a kind are and how many there may be.  `Node.withChildren` reads nothing
but the bare form of a node (`Node.withChildren_bare`), which is what is left of it without all that
its children show.  So a node shows the children that it is given, the rest of it stays, and of two
changes the second one counts (`Node.withChildren_isView`).
-/

namespace StyleValue

/-! ### Layouts -/

/-- The sorts of values that nodes have as children. -/
inductive ChildSort where
  | number
  | text
  | truth
  | node

/-- The values of each sort. -/
inductive ChildSort.Has : ChildSort → Value → Prop where
  | number (x : Number) : Has number (.payload (.number x))
  | text (content : String) : Has text (.payload (.text content))
  | truth (b : Bool) : Has truth (.payload (.truth b))
  | node (n : Node) : Has node (.node n)

/-- Of which sorts children are, place by place, and how many there may be. -/
structure Layout where
  sortAt : Nat → ChildSort
  fewest : Nat
  /-- Without a bound if this is `none`. -/
  most : Option Nat

namespace Layout

/-- One child, of the given sort. -/
def single (sort : ChildSort) : Layout := ⟨fun _ => sort, 1, some 1⟩

/-- Nodes as children. -/
def nodes (fewest : Nat) (most : Option Nat) : Layout := ⟨fun _ => .node, fewest, most⟩

/-- The layout has a place for a child at the given index. -/
def HasPlace (layout : Layout) (i : Nat) : Prop := ∀ most ∈ layout.most, i < most

instance (layout : Layout) (i : Nat) : Decidable (layout.HasPlace i) :=
  inferInstanceAs (Decidable (∀ most ∈ layout.most, i < most))

/-- Each child that has a place is of the sort of its place. -/
def Suits (layout : Layout) (children : List Value) : Prop :=
  ∀ i v, children[i]? = some v → layout.HasPlace i → (layout.sortAt i).Has v

/-- There may be that many children. -/
def Allows (layout : Layout) (count : Nat) : Prop :=
  layout.fewest ≤ count ∧ ∀ most ∈ layout.most, count ≤ most

/-- The children that have a place. -/
def placed (layout : Layout) (children : List Value) : List Value :=
  match layout.most with
  | none => children
  | some most => children.take most

theorem placed_of_allows {layout : Layout} {children : List Value}
    (h : layout.Allows children.length) :
  layout.placed children = children
  := by
  rw [placed]
  split
  next => rfl
  next most bound =>
    apply List.take_of_length_le
    apply h.2 most bound

theorem Suits.first {layout : Layout} {children : List Value} (h : layout.Suits children)
    (enough : 1 ≤ children.length) (place : layout.HasPlace 0) :
  ∃ v rest, children = v :: rest ∧ (layout.sortAt 0).Has v
  := by
  obtain ⟨v, rest, rfl⟩ := List.exists_cons_of_length_pos enough
  exact ⟨v, rest, rfl, h 0 v rfl place⟩

theorem Suits.firstTwo {layout : Layout} {children : List Value} (h : layout.Suits children)
    (enough : 2 ≤ children.length) (place : layout.HasPlace 1) :
  ∃ v w rest, children = v :: w :: rest ∧ (layout.sortAt 0).Has v ∧ (layout.sortAt 1).Has w
  := by
  obtain ⟨v, others, rfl, first⟩ :=
    h.first (Nat.le_of_succ_le enough) fun most bound => Nat.lt_of_succ_lt (place most bound)
  obtain ⟨w, rest, rfl⟩ := List.exists_cons_of_length_pos (Nat.le_of_succ_le_succ enough)
  exact ⟨v, w, rest, rfl, first, h 1 w rfl place⟩

/-- Nodes without a bound are the images of some list of nodes. -/
theorem Suits.nodes {fewest : Nat} {children : List Value}
    (h : (nodes fewest none).Suits children) :
  ∃ items : List Node, children = items.map .node
  := by
  have all : children ∈ Set.range (List.map Value.node) := by
    rw [Set.range_list_map]
    intro v mem
    obtain ⟨i, here⟩ := List.mem_iff_getElem?.mp mem
    cases (h i v here nofun : ChildSort.node.Has v) with
    | node n => exact ⟨n, rfl⟩
  obtain ⟨items, rfl⟩ := all
  exact ⟨items, rfl⟩

end Layout

/-- The layout of the children of each kind; null has no children. -/
def Kind.layout? : Kind → Option Layout
  | number => some (.single .number)
  | percentage => some (.single .number)
  | dimension => some ⟨fun i => if i = 0 then .number else .text, 2, some 2⟩
  | identifier => some (.single .text)
  | string => some (.single .text)
  | separator => some (.single .text)
  | boolean => some (.single .truth)
  | null => none
  | list => some (.nodes 0 none)
  | argumentList => some (.nodes 0 none)
  | range => some (.nodes 2 (some 2))
  | attributeSelector => some (.nodes 1 (some 2))

namespace Node

/-- Enough children of the right sorts make a node that shows them. -/
theorem exists_ofChildren? {n : Node} {layout : Layout} {children : List Value}
    (kind : n.kind.layout? = some layout) (suits : layout.Suits children)
    (enough : layout.fewest ≤ children.length) :
  ∃ m, n.ofChildren? children = some m ∧ m.children? = some (layout.placed children)
  := by
  cases n with
  | quantity loc measure amount =>
      cases measure with
      | unit u =>
          obtain rfl := Option.some.inj kind
          obtain ⟨_, _, rest, rfl, ⟨x⟩, ⟨name⟩⟩ := suits.firstTwo enough (by decide)
          exact ⟨_, rfl, rfl⟩
      | _ =>
          obtain rfl := Option.some.inj kind
          obtain ⟨_, rest, rfl, ⟨x⟩⟩ := suits.first enough (by decide)
          exact ⟨_, rfl, rfl⟩
  | text loc role content =>
      have single : Kind.layout? (text loc role content).kind = some (.single .text) := by
        cases role <;> rfl
      obtain rfl := Option.some.inj (single.symm.trans kind)
      obtain ⟨_, rest, rfl, ⟨s⟩⟩ := suits.first enough (by decide)
      exact ⟨_, rfl, rfl⟩
  | boolean loc flag =>
      obtain rfl := Option.some.inj kind
      obtain ⟨_, rest, rfl, ⟨b⟩⟩ := suits.first enough (by decide)
      exact ⟨_, rfl, rfl⟩
  | null => cases kind
  | list loc items =>
      obtain rfl := Option.some.inj kind
      obtain ⟨items', rfl⟩ := suits.nodes
      rw [ofChildren?, Value.mapM_toNode?_map_node]
      exact ⟨_, rfl, rfl⟩
  | argumentList loc items =>
      obtain rfl := Option.some.inj kind
      obtain ⟨items', rfl⟩ := suits.nodes
      rw [ofChildren?, Value.mapM_toNode?_map_node]
      exact ⟨_, rfl, rfl⟩
  | range loc start stop exclusive =>
      obtain rfl := Option.some.inj kind
      obtain ⟨_, _, rest, rfl, ⟨start'⟩, ⟨stop'⟩⟩ := suits.firstTwo enough (by decide)
      exact ⟨_, rfl, rfl⟩
  | attributeSelector loc name value operator =>
      obtain rfl := Option.some.inj kind
      obtain ⟨_, others, rfl, ⟨name'⟩⟩ := suits.first enough (by decide)
      -- without a second child there is no value, and the view has one child again
      cases others with
      | nil => exact ⟨_, rfl, rfl⟩
      | cons w rest =>
          obtain ⟨value'⟩ := suits 1 w rfl (by decide)
          exact ⟨_, rfl, rfl⟩

/-! ### Bare nodes -/

/-- A range leaves its end out. -/
def isExclusive : Node → Bool
  | .range _ _ _ exclusive => exclusive
  | _ => false

/-- The operator of an attribute selector, if it has one. -/
def operator? : Node → Option String
  | .attributeSelector _ _ _ operator => operator
  | _ => none

/-- The node without what its children show. -/
def bare : Node → Node
  | .quantity loc (.unit _) _ => .quantity loc (.unit .absent) (.int 0)
  | .quantity loc measure _ => .quantity loc measure (.int 0)
  | .text loc role _ => .text loc role ""
  | .boolean loc _ => .boolean loc (.truth false)
  | .null loc => .null loc
  | .list loc _ => .list loc []
  | .argumentList loc _ => .argumentList loc []
  | .range loc _ _ exclusive => .range loc blank blank exclusive
  | .attributeSelector loc _ _ operator => .attributeSelector loc blank none operator

theorem unshown_bare (n : Node) :
  n.bare.kind = n.kind ∧ n.bare.loc = n.loc ∧ n.bare.isExclusive = n.isExclusive
    ∧ n.bare.operator? = n.operator?
  := by
  cases n with
  | quantity _ measure _ => cases measure <;> exact ⟨rfl, rfl, rfl, rfl⟩
  | _ => exact ⟨rfl, rfl, rfl, rfl⟩

theorem fewestChildren_bare (n : Node) :
  n.bare.fewestChildren = n.fewestChildren
  := by
  cases n with
  | quantity _ measure _ => cases measure <;> rfl
  | _ => rfl

theorem ofChildren?_bare (n : Node) (children : List Value) :
  n.bare.ofChildren? children = n.ofChildren? children
  := by
  cases n with
  | quantity loc measure amount =>
      cases measure with
      | unit u => rcases children with _ | ⟨⟨_ | _ | _⟩ | _ | _ | _, _ | ⟨v, rest⟩⟩ <;> rfl
      | _ => rcases children with _ | ⟨⟨_ | _ | _⟩ | _ | _ | _, rest⟩ <;> rfl
  | text => rcases children with _ | ⟨⟨_ | _ | _⟩ | _ | _ | _, rest⟩ <;> rfl
  | boolean => rcases children with _ | ⟨⟨_ | _ | _⟩ | _ | _ | _, rest⟩ <;> rfl
  | range => rcases children with _ | ⟨_ | _ | _ | _, _ | ⟨_ | _ | _ | _, rest⟩⟩ <;> rfl
  | attributeSelector =>
      rcases children with _ | ⟨_ | _ | _ | _, _ | ⟨_ | _ | _ | _, rest⟩⟩ <;> rfl
  | _ => rfl

/-- Giving a node children depends on its bare form only. -/
theorem withChildren_bare (n : Node) (children : List Value) :
  n.bare.withChildren children = n.withChildren children
  := by
  rw [withChildren, withChildren, fewestChildren_bare, ofChildren?_bare]

theorem bare_of_ofChildren? {m n : Node} {children : List Value}
    (h : n.ofChildren? children = some m) :
  m.bare = n.bare
  := by
  revert h
  fun_cases ofChildren? n children with
  -- a unit and the items of lists are read back from the children
  | case1 | case8 | case9 =>
      intro h
      obtain ⟨_, -, rfl⟩ := Option.map_eq_some_iff.mp h
      rfl
  -- children that do not fit
  | case2 | case14 => rintro ⟨⟩
  | case3 loc measure =>
      rintro ⟨⟩
      cases measure <;> rfl
  | _ =>
      rintro ⟨⟩
      rfl

theorem withChildren_eq_ok_iff {m n : Node} {children : List Value} :
  n.withChildren children = .ok m
    ↔ n.fewestChildren ≤ children.length ∧ n.ofChildren? children = some m
  := by
  rw [withChildren]
  split
  next few => simp [Nat.not_le.mpr few]
  next enough => cases n.ofChildren? children <;> simp [Nat.le_of_not_lt enough]

theorem withChildren_eq_tooFewChildren_iff {n : Node} {children : List Value} :
  n.withChildren children = .error .tooFewChildren ↔ children.length < n.fewestChildren
  := by
  rw [withChildren]
  split
  next few => simp [few]
  next enough => cases n.ofChildren? children <;> simp [Nat.le_of_not_lt enough]

theorem fewestChildren_of_layout? {n : Node} {layout : Layout}
    (kind : n.kind.layout? = some layout) :
  n.fewestChildren = layout.fewest
  := by
  cases n with
  | quantity _ measure _ => cases measure <;> cases kind <;> rfl
  | text _ role _ => cases role <;> cases kind <;> rfl
  | _ => cases kind <;> rfl

/-! ### The view -/

/-- The children of a node are a view of it.  They come in a list, so it does not matter which sort
of sequence they are taken from. -/
structure IsView (n : Node) (layout : Layout) : Prop where
  /-- A node that is given its own children is the same node. -/
  restores : ∃ own, n.children? = some own ∧ n.withChildren own = .ok n
  /-- A node that is given children of its layout shows them. -/
  shows : ∀ children, layout.Suits children → layout.Allows children.length →
    ∃ m, n.withChildren children = .ok m ∧ m.children? = some children
  /-- What children do not show stays. -/
  keeps : ∀ children m, n.withChildren children = .ok m →
    m.kind = n.kind ∧ m.loc = n.loc ∧ m.isExclusive = n.isExclusive ∧ m.operator? = n.operator?
  /-- Children that are given first do not matter. -/
  overwrites : ∀ first m, n.withChildren first = .ok m →
    ∀ second, m.withChildren second = n.withChildren second
  /-- A node refuses too few children, of whatever sorts. -/
  refuses_iff : ∀ children,
    n.withChildren children = .error .tooFewChildren ↔ children.length < layout.fewest
  /-- It takes enough of the right sorts, also more than have a place. -/
  takes_iff : ∀ children, layout.Suits children →
    ((∃ m, n.withChildren children = .ok m) ↔ layout.fewest ≤ children.length)

theorem exists_children? {n : Node} {layout : Layout} (kind : n.kind.layout? = some layout) :
  ∃ own, n.children? = some own
  := by
  cases n with
  | quantity _ measure _ => cases measure <;> exact ⟨_, rfl⟩
  | attributeSelector _ _ value _ => cases value <;> exact ⟨_, rfl⟩
  | null => cases kind
  | _ => exact ⟨_, rfl⟩

theorem exists_withChildren {n : Node} {layout : Layout} {children : List Value}
    (kind : n.kind.layout? = some layout) (suits : layout.Suits children)
    (enough : layout.fewest ≤ children.length) :
  ∃ m, n.withChildren children = .ok m ∧ m.children? = some (layout.placed children)
  := by
  obtain ⟨m, made, shown⟩ := exists_ofChildren? kind suits enough
  rw [← fewestChildren_of_layout? kind] at enough
  exact ⟨m, withChildren_eq_ok_iff.mpr ⟨enough, made⟩, shown⟩

section

variable {m n : Node} {children : List Value} (given : n.withChildren children = .ok m)

include given

theorem bare_of_withChildren :
  m.bare = n.bare
  := bare_of_ofChildren? (withChildren_eq_ok_iff.mp given).2

theorem unshown_of_withChildren :
  m.kind = n.kind ∧ m.loc = n.loc ∧ m.isExclusive = n.isExclusive ∧ m.operator? = n.operator?
  := by
  have own := unshown_bare n
  obtain ⟨kind, loc, exclusive, operator⟩ := unshown_bare m
  rw [← bare_of_withChildren given, kind, loc, exclusive, operator] at own
  exact own

/-- Of two changes the second one counts. -/
theorem withChildren_of_withChildren (second : List Value) :
  m.withChildren second = n.withChildren second
  := by
  rw [← withChildren_bare m, bare_of_withChildren given, withChildren_bare]

end

/-- The children of every kind but null are a view of its nodes.  Null has none, and stays when it
is given some. -/
theorem withChildren_isView :
  (∀ (n : Node) (layout : Layout), n.kind.layout? = some layout → IsView n layout)
    ∧ ∀ (loc : Option Location) (children : List Value),
      (null loc).children? = none ∧ (null loc).withChildren children = .ok (null loc)
  := by
  apply And.intro _ fun _ _ => ⟨rfl, rfl⟩
  intro n layout kind
  have fewest := fewestChildren_of_layout? kind
  constructor
  case restores =>
    obtain ⟨own, shown⟩ := exists_children? kind
    exact ⟨own, shown, withChildren_of_children? shown⟩
  case shows =>
    intro children suits allowed
    obtain ⟨m, given, shown⟩ := exists_withChildren kind suits allowed.1
    rw [Layout.placed_of_allows allowed] at shown
    exact ⟨m, given, shown⟩
  case keeps =>
    intro children m given
    apply unshown_of_withChildren given
  case overwrites =>
    intro first m given
    apply withChildren_of_withChildren given
  case refuses_iff =>
    intro children
    rw [withChildren_eq_tooFewChildren_iff, fewest]
  case takes_iff =>
    intro children suits
    constructor
    · rintro ⟨m, given⟩
      rw [← fewest]
      apply (withChildren_eq_ok_iff.mp given).1
    · intro enough
      obtain ⟨m, given, -⟩ := exists_withChildren kind suits enough
      exact ⟨m, given⟩

/-- An attribute selector may be given a name with a value or a name alone. -/
theorem withChildren_isView_selector :
  (attributeSelector none (text none .identifier "href") (some (text none .string "#"))
      (some "^=")).kind.layout? = some (.nodes 1 (some 2))
    ∧ IsView (attributeSelector none (text none .identifier "href") (some (text none .string "#"))
        (some "^=")) (.nodes 1 (some 2))
  := ⟨rfl, withChildren_isView.1 _ _ rfl⟩

end Node

end StyleValue
