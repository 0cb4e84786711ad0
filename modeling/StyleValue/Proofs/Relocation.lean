import StyleValue.Node.Equality
import StyleValue.Node.Items
import StyleValue.Operator.Perform
import StyleValue.Proofs.Node.Rebuild

/-!
# Locations are only carried along

Relocating a value replaces the location of every node in it, at every depth, by its image under a
function.  An operation commutes with relocation: on relocated operands it has the relocated result,
or fails in the same way with the blame relocated.  What does not contain nodes, such as the text or
the truth of a node or an equality of two values, does not change at all.  So no operation inspects
a location, makes one up or loses one.
-/

namespace StyleValue

/-! ### Relocated values -/

mutual

/-- The node with its location and those of all nodes inside it replaced. -/
def Node.relocate (f : Option Location → Option Location) : Node → Node
  | .quantity loc measure amount => .quantity (f loc) measure amount
  | .text loc role content => .text (f loc) role content
  | .boolean loc flag => .boolean (f loc) flag
  | .null loc => .null (f loc)
  | .list loc items => .list (f loc) (Node.relocateAll f items)
  | .argumentList loc items => .argumentList (f loc) (Node.relocateAll f items)
  | .range loc start stop exclusive =>
      .range (f loc) (start.relocate f) (stop.relocate f) exclusive
  | .attributeSelector loc name value operator =>
      .attributeSelector (f loc) (name.relocate f) (Node.relocateOption f value) operator

/-- The nodes relocated. -/
def Node.relocateAll (f : Option Location → Option Location) : List Node → List Node
  | [] => []
  | n :: rest => n.relocate f :: Node.relocateAll f rest

/-- The node relocated, if there is one. -/
def Node.relocateOption (f : Option Location → Option Location) : Option Node → Option Node
  | none => none
  | some n => some (n.relocate f)

end

mutual

/-- The value with the locations of all nodes in it replaced. -/
def Value.relocate (f : Option Location → Option Location) : Value → Value
  | .payload p => .payload p
  | .absent => .absent
  | .node n => .node (n.relocate f)
  | .sequence form items => .sequence form (Value.relocateAll f items)

/-- The values relocated. -/
def Value.relocateAll (f : Option Location → Option Location) : List Value → List Value
  | [] => []
  | v :: rest => v.relocate f :: Value.relocateAll f rest

end

/-- The failure with the blame relocated; its code and operation, and so its message, stay. -/
def Failure.relocate (f : Option Location → Option Location) : Failure → Failure
  | .operation e => .operation { e with loc := f e.loc }
  | .arithmetic e => .arithmetic e
  | .shape e => .shape e

/-- What an operation ends in, relocated. -/
def relocateResult (f : Option Location → Option Location) :
    Except Failure Node → Except Failure Node
  | .ok n => .ok (n.relocate f)
  | .error e => .error (e.relocate f)

section

variable (f : Option Location → Option Location)

namespace Node

theorem relocateAll_eq_map (nodes : List Node) :
  relocateAll f nodes = nodes.map (relocate f)
  := by
  induction nodes with
  | nil => rfl
  | cons n rest ih => rw [relocateAll, ih, List.map_cons]

@[simp]
theorem kind_relocate (n : Node) :
  (n.relocate f).kind = n.kind
  := by
  cases n <;> rfl

@[simp]
theorem loc_relocate (n : Node) :
  (n.relocate f).loc = f n.loc
  := by
  cases n <;> rfl

@[simp]
theorem payload?_relocate (n : Node) :
  (n.relocate f).payload? = n.payload?
  := by
  cases n <;> rfl

end Node

theorem Value.relocateAll_eq_map (values : List Value) :
  relocateAll f values = values.map (relocate f)
  := by
  induction values with
  | nil => rfl
  | cons v rest ih => rw [relocateAll, ih, List.map_cons]

/-! ### Operations -/

theorem Node.carrying_relocate (n : Node) (p : Payload) :
  (n.relocate f).carrying p = relocateResult f (n.carrying p)
  := by
  cases n <;> cases p <;> rfl

namespace Operator

theorem onNodes_relocate (operator : Operator) (left right : Node) :
  operator.onNodes (left.relocate f) (right.relocate f) = operator.onNodes left right
  := by
  simp only [onNodes, Node.operand, Node.payload?_relocate]

theorem relocate_of_onPayloads
    {operator : Operator} {p q : Payload} {e : Failure} (h : operator.onPayloads p q = .error e) :
  e.relocate f = e
  := by
  unfold onPayloads at h
  split at h
  · split at h <;> cases h
    rfl
  · cases h
  · cases h
  · cases h
    rfl

/-- Combining payloads blames nobody. -/
theorem relocate_of_onNodes
    {operator : Operator} {left right : Node} {e : Failure}
    (h : operator.onNodes left right = .error e) :
  e.relocate f = e
  := by
  simp only [onNodes, Node.operand] at h
  cases leftPayload : left.payload? with
  | none =>
      rw [leftPayload] at h
      cases h
      rfl
  | some p =>
      cases rightPayload : right.payload? with
      | none =>
          rw [leftPayload, rightPayload] at h
          cases h
          rfl
      | some q =>
          rw [leftPayload, rightPayload] at h
          apply relocate_of_onPayloads f h

/-- What is made of the payloads of two nodes is relocated when it is made at a relocated place. -/
theorem bind_onNodes_relocate
    (operator : Operator) (left right : Node) {make make' : Payload → Except Failure Node}
    (h : ∀ p, make' p = relocateResult f (make p)) :
  (operator.onNodes (left.relocate f) (right.relocate f) >>= make')
    = relocateResult f (operator.onNodes left right >>= make)
  := by
  rw [onNodes_relocate]
  cases result : operator.onNodes left right with
  | ok p => apply h
  | error e =>
      change Except.error e = Except.error (e.relocate f)
      rw [relocate_of_onNodes f result]

end Operator

namespace Rule

theorem combine_relocate (rule : Rule) (left right : Node) :
  rule.combine (left.relocate f) (right.relocate f) = relocateResult f (rule.combine left right)
  := by
  obtain ⟨operator, shape⟩ := rule
  cases shape with
  | ontoLeft =>
      apply Operator.bind_onNodes_relocate
      apply Node.carrying_relocate
  | ontoRight =>
      apply Operator.bind_onNodes_relocate
      apply Node.carrying_relocate
  | withoutUnits =>
      apply Operator.bind_onNodes_relocate
      intro p
      rw [Node.loc_relocate]
      cases p <;> rfl
  | withUnit => cases left <;> cases right <;> rfl
  | appendRendered => cases left <;> cases right <;> rfl
  | prependRendered => cases left <;> cases right <;> rfl

theorem apply_relocate (rule : Rule) (left right : Node) :
  rule.apply (left.relocate f) (right.relocate f) = relocateResult f (rule.apply left right)
  := by
  simp only [apply, Operation.of, Node.payload?_relocate, Node.kind_relocate, Node.loc_relocate]
  cases rule.operator.zeroDivisor? with
  | none => apply combine_relocate
  | some code =>
      simp only
      split
      · rfl
      · apply combine_relocate

end Rule

theorem perform_relocate (symbol : String) (left right : Node) :
  perform symbol (left.relocate f) (right.relocate f) = relocateResult f (perform symbol left right)
  := by
  simp only [perform, Operation.of, Node.kind_relocate, Node.loc_relocate]
  cases Rule.find? left.kind symbol right.kind with
  | none => rfl
  | some rule => apply Rule.apply_relocate

/-! ### Opposites -/

namespace Node

mutual

theorem opposite_relocate (swap : String → String) :
    ∀ n : Node, (n.relocate f).opposite swap = (n.opposite swap).relocate f
  | .quantity .. => rfl
  | .text _ .identifier _ => rfl
  | .text _ .string _ => rfl
  | .text _ .separator _ => rfl
  | .boolean .. => rfl
  | .null _ => rfl
  | .list loc items => by
      rw [relocate, opposite, oppositeItems_relocate swap items]
      rfl
  | .argumentList .. => rfl
  | .range .. => rfl
  | .attributeSelector .. => rfl

theorem oppositeItems_relocate (swap : String → String) :
    ∀ nodes : List Node,
      oppositeItems swap (relocateAll f nodes) = relocateAll f (oppositeItems swap nodes)
  | [] => rfl
  | item :: rest => by
      rw [relocateAll, oppositeItems, opposite_relocate swap item, keepSeparator_relocate swap rest]
      rfl

theorem keepSeparator_relocate (swap : String → String) :
    ∀ nodes : List Node,
      keepSeparator swap (relocateAll f nodes) = relocateAll f (keepSeparator swap nodes)
  | [] => rfl
  | separator :: rest => by
      rw [relocateAll, keepSeparator, oppositeItems_relocate swap rest]
      rfl

end

end Node

/-! ### Items -/

theorem evens_map {α β : Type} (g : α → β) :
    ∀ l : List α, evens (l.map g) = (evens l).map g
  | [] => rfl
  | [_] => rfl
  | a :: _ :: rest => by
      rw [List.map_cons, List.map_cons, evens, evens_map g rest]
      rfl

theorem intersperse_map {α β : Type} (g : α → β) (separator : α) :
    ∀ l : List α, (l.map g).intersperse (g separator) = (l.intersperse separator).map g
  | [] => rfl
  | [_] => rfl
  | a :: b :: rest => by
      rw [List.map_cons, List.map_cons, List.intersperse_cons_cons, List.intersperse_cons_cons,
        ← List.map_cons, intersperse_map g separator (b :: rest)]
      rfl

namespace Node

theorem bound_relocate (n : Node) :
  (n.relocate f).bound = n.bound
  := by
  cases n with
  | list _ items => cases items <;> rfl
  | argumentList _ items => cases items <;> rfl
  | _ => rfl

theorem withNumber_relocate (n : Node) (x : Number) :
  (n.relocate f).withNumber x = (n.withNumber x).relocate f
  := by
  cases n <;> rfl

theorem shapedLike_relocate (start : Node) (numbers : List Number) :
  (start.relocate f).shapedLike numbers = (start.shapedLike numbers).map (relocate f)
  := by
  cases numbers with
  | nil => rfl
  | cons x rest =>
      rw [shapedLike, shapedLike, List.map_cons, List.map_map]
      congr 2
      funext y
      apply withNumber_relocate

theorem expand_relocate (start stop : Node) (exclusive : Bool) :
  (start.relocate f).expand (stop.relocate f) exclusive
    = (start.expand stop exclusive).map (List.map (relocate f))
  := by
  rw [expand, expand, bound_relocate, bound_relocate]
  cases start.bound with
  | error e => rfl
  | ok first =>
      cases stop.bound with
      | error e => rfl
      | ok last =>
          rcases first with a | s | _ <;> rcases last with b | t | _ <;> try rfl
          · change (start.relocate f).shapedLike <$> a.span b exclusive
              = (start.shapedLike <$> a.span b exclusive).map (List.map (relocate f))
            cases a.span b exclusive with
            | error e => rfl
            | ok numbers => exact congrArg Except.ok (shapedLike_relocate f start numbers)
          · simp only [bind, Except.bind]
            split <;> rfl

theorem items_relocate (n : Node) :
  (n.relocate f).items = n.items.map (List.map (relocate f))
  := by
  cases n with
  | list loc nodes =>
      rw [relocate, items, relocateAll_eq_map, evens_map]
      rfl
  | range loc start stop exclusive => apply expand_relocate
  | _ => rfl

theorem separated_relocate (loc : Option Location) (separator : String) (nodes : List Node) :
  separated (f loc) separator (nodes.map (relocate f)) = (separated loc separator nodes).relocate f
  := by
  rw [separated, separated, relocate, relocateAll_eq_map, ← intersperse_map]
  rfl

theorem toList?_relocate (config : Config) (separator : Option String) (n : Node) :
  (n.relocate f).toList? config separator
    = (n.toList? config separator).map (Option.map (relocate f))
  := by
  cases n with
  | range loc start stop exclusive =>
      simp only [relocate, toList?, expand_relocate]
      cases start.expand stop exclusive with
      | error e => rfl
      | ok nodes =>
          change Except.ok (some (separated (f loc) _ (nodes.map (relocate f)))) = _
          rw [separated_relocate]
          rfl
  | argumentList loc nodes =>
      simp only [relocate, toList?, relocateAll_eq_map, separated_relocate]
      rfl
  | _ => rfl

end Node

/-! ### Children -/

namespace Value

theorem toUnitPart?_relocate (v : Value) :
  (v.relocate f).toUnitPart? = v.toUnitPart?
  := by
  cases v <;> rfl

theorem toUnit?_relocate (v : Value) :
  (v.relocate f).toUnit? = v.toUnit?
  := by
  cases v with
  | sequence form items =>
      cases form with
      | list =>
          rw [relocate, toUnit?, toUnit?, relocateAll_eq_map, List.mapM_map]
          congr 2
          funext v
          apply toUnitPart?_relocate
      | tuple => rfl
  | _ => rfl

theorem mapM_toNode?_relocate (values : List Value) :
  (values.map (relocate f)).mapM toNode? = (values.mapM toNode?).map (List.map (Node.relocate f))
  := by
  induction values with
  | nil => rfl
  | cons v rest ih =>
      rw [List.map_cons, List.mapM_cons, List.mapM_cons, ih]
      cases v with
      | node n => cases rest.mapM toNode? <;> rfl
      | _ => rfl

end Value

namespace Node

theorem fewestChildren_relocate (n : Node) :
  (n.relocate f).fewestChildren = n.fewestChildren
  := by
  cases n with
  | quantity _ measure _ => cases measure <;> rfl
  | _ => rfl

/-- What is made of children that are all nodes. -/
theorem map_toNode?_relocate
    {make make' : List Node → Node}
    (h : ∀ nodes, make' (nodes.map (relocate f)) = (make nodes).relocate f)
    (children : List Value) :
  ((children.map (Value.relocate f)).mapM Value.toNode?).map make'
    = ((children.mapM Value.toNode?).map make).map (relocate f)
  := by
  rw [Value.mapM_toNode?_relocate, Option.map_map, Option.map_map]
  congr 1
  funext nodes
  apply h

theorem ofChildren?_relocate (n : Node) (children : List Value) :
  (n.relocate f).ofChildren? (children.map (Value.relocate f))
    = (n.ofChildren? children).map (relocate f)
  := by
  cases n with
  | list loc items =>
      apply map_toNode?_relocate
      intro nodes
      rw [relocate, relocateAll_eq_map]
  | argumentList loc items =>
      apply map_toNode?_relocate
      intro nodes
      rw [relocate, relocateAll_eq_map]
  | null loc => rfl
  | quantity loc measure amount =>
      cases measure with
      | plain => rcases children with _ | ⟨⟨_ | _ | _⟩ | _ | _ | _, rest⟩ <;> rfl
      | percent => rcases children with _ | ⟨⟨_ | _ | _⟩ | _ | _ | _, rest⟩ <;> rfl
      | unit u =>
          rcases children with _ | ⟨⟨x | _ | _⟩ | _ | _ | _, _ | ⟨v, rest⟩⟩ <;> try rfl
          change (v.relocate f).toUnit?.map (fun u => quantity (f loc) (.unit u) x)
            = (v.toUnit?.map fun u => quantity loc (.unit u) x).map (relocate f)
          rw [Value.toUnit?_relocate, Option.map_map]
          rfl
  | text loc role content =>
      rcases children with _ | ⟨⟨_ | _ | _⟩ | _ | _ | _, rest⟩ <;> rfl
  | boolean loc flag =>
      rcases children with _ | ⟨⟨_ | _ | _⟩ | _ | _ | _, rest⟩ <;> rfl
  | range loc start stop exclusive =>
      rcases children with _ | ⟨_ | _ | _ | _, _ | ⟨_ | _ | _ | _, rest⟩⟩ <;> rfl
  | attributeSelector loc name value operator =>
      rcases children with _ | ⟨_ | _ | _ | _, _ | ⟨_ | _ | _ | _, rest⟩⟩ <;> rfl

theorem withChildren_relocate (n : Node) (children : List Value) :
  (n.relocate f).withChildren (children.map (Value.relocate f))
    = (n.withChildren children).map (relocate f)
  := by
  rw [withChildren, withChildren, List.length_map, fewestChildren_relocate, ofChildren?_relocate]
  split
  · rfl
  · cases n.ofChildren? children <;> rfl

end Node

/-! ### Rebuilding -/

namespace Value

/-- What carries no nodes is not changed. -/
theorem relocate_ofUnit (u : UnitOfMeasure) :
  (ofUnit u).relocate f = ofUnit u
  := by
  cases u with
  | compound parts =>
      rw [ofUnit, relocate, relocateAll_eq_map, List.map_map]
      congr 2
      funext part
      cases part <;> rfl
  | _ => rfl

end Value

theorem Node.children?_relocate (n : Node) :
  (n.relocate f).children? = n.children?.map (List.map (Value.relocate f))
  := by
  have ofNodes (nodes : List Node) :
      (relocateAll f nodes).map Value.node = (nodes.map Value.node).map (Value.relocate f) := by
    rw [relocateAll_eq_map, List.map_map, List.map_map]
    rfl
  cases n with
  | quantity loc measure amount =>
      cases measure with
      | unit u =>
          change some [Value.ofNumber amount, Value.ofUnit u]
            = some [Value.ofNumber amount, (Value.ofUnit u).relocate f]
          rw [Value.relocate_ofUnit]
      | _ => rfl
  | list loc items => exact congrArg some (ofNodes items)
  | argumentList loc items => exact congrArg some (ofNodes items)
  | attributeSelector loc name value operator => cases value <;> rfl
  | _ => rfl

namespace Value

/-- Values that are each built in the same way after relocation are all built in the same way. -/
theorem mapM_relocate {ε : Type} {build : Value → Except ε Value} {values : List Value}
    (h : ∀ v ∈ values, build (v.relocate f) = (build v).map (relocate f)) :
  (values.map (relocate f)).mapM build = (values.mapM build).map (List.map (relocate f))
  := by
  induction values with
  | nil => rfl
  | cons v rest ih =>
      rw [List.map_cons, List.mapM_cons, List.mapM_cons, h v List.mem_cons_self,
        ih fun w inRest => h w (.tail v inRest)]
      cases build v with
      | error e => rfl
      | ok built => cases rest.mapM build <;> rfl

theorem rebuild_relocate (deep : Bool) (v : Value) :
  (v.relocate f).rebuild deep = (v.rebuild deep).map (relocate f)
  := by
  induction v using rebuild.induct with
  | case1 p =>
      rw [relocate, rebuild]
      rfl
  | case2 =>
      rw [relocate, rebuild]
      rfl
  | case3 form items ih =>
      rw [relocate, relocateAll_eq_map, rebuild_sequence, rebuild_sequence, mapM_relocate f ih]
      cases items.mapM (rebuild deep) with
      | error e => rfl
      | ok rebuilt =>
          change Except.ok (sequence form (rebuilt.map (relocate f)))
            = .ok (sequence form (relocateAll f rebuilt))
          rw [relocateAll_eq_map]
  | case4 n childless =>
      have still : (n.relocate f).children? = none := by
        rw [Node.children?_relocate, childless]
        rfl
      rw [relocate, rebuild_childless deep still, rebuild_childless deep childless]
      rfl
  | case5 n children taken ih =>
      have still : (n.relocate f).children? = some (children.map (relocate f)) := by
        rw [Node.children?_relocate, taken]
        rfl
      have parts :
          (if deep then (children.map (relocate f)).mapM (rebuild deep)
              else .ok (children.map (relocate f)))
            = (if deep then children.mapM (rebuild deep) else .ok children).map
                (List.map (relocate f)) := by
        cases deep with
        | false => rfl
        | true => exact mapM_relocate f ih
      rw [relocate, rebuild_node deep still, rebuild_node deep taken, parts]
      cases if deep then children.mapM (rebuild deep) else .ok children with
      | error e => rfl
      | ok rebuilt =>
          change ((n.relocate f).withChildren (rebuilt.map (relocate f))).map node
            = ((n.withChildren rebuilt).map node).map (relocate f)
          rw [Node.withChildren_relocate]
          cases n.withChildren rebuilt <;> rfl

end Value

namespace Node

/-! ### Conversions and equality -/

theorem toText?_relocate (config : Config) (n : Node) :
  (n.relocate f).toText? config = n.toText? config
  := by
  cases n with
  | quantity _ measure _ => cases measure <;> rfl
  | text _ role _ => cases role <;> rfl
  | _ => rfl

theorem toNumber?_relocate (n : Node) :
  (n.relocate f).toNumber? = n.toNumber?
  := by
  cases n <;> rfl

theorem truth_relocate (n : Node) :
  (n.relocate f).truth = n.truth
  := by
  cases n with
  | text _ role _ => cases role <;> rfl
  | _ => rfl

mutual

theorem equal_relocate :
    ∀ a b : Node, (a.relocate f).equal (b.relocate f) = a.equal b
  | .quantity .., b => by cases b <;> rfl
  | .text .., b => by cases b <;> rfl
  | .boolean .., b => by cases b <;> rfl
  | .null _, b => by cases b <;> rfl
  | .list _ items, b => by
      cases b with
      | list _ items' => apply equalAll_relocate items items'
      | _ => rfl
  | .argumentList _ items, b => by
      cases b with
      | argumentList _ items' => apply equalAll_relocate items items'
      | _ => rfl
  | .range .., b => by cases b <;> rfl
  | .attributeSelector .., b => by cases b <;> rfl

theorem equalAll_relocate :
    ∀ as bs : List Node, equalAll (relocateAll f as) (relocateAll f bs) = equalAll as bs
  | [], [] => rfl
  | [], _ :: _ => rfl
  | _ :: _, [] => rfl
  | a :: as, b :: bs => by
      rw [relocateAll, relocateAll, equalAll, equalAll, equal_relocate a b, equalAll_relocate as bs]

end

end Node

namespace Value

mutual

theorem equal_relocate :
    ∀ v w : Value, (v.relocate f).equal (w.relocate f) = v.equal w
  | .payload _, w => by cases w <;> rfl
  | .absent, w => by cases w <;> rfl
  | .node a, w => by
      cases w with
      | node b => apply Node.equal_relocate
      | _ => rfl
  | .sequence _ items, w => by
      cases w with
      | sequence _ items' => apply equalAll_relocate items items'
      | _ => rfl

theorem equalAll_relocate :
    ∀ vs ws : List Value, equalAll (relocateAll f vs) (relocateAll f ws) = equalAll vs ws
  | [], [] => rfl
  | [], _ :: _ => rfl
  | _ :: _, [] => rfl
  | v :: vs, w :: ws => by
      rw [relocateAll, relocateAll, equalAll, equalAll, equal_relocate v w, equalAll_relocate vs ws]

end

end Value

end

/-! ### All operations together -/

/-- Operations do not interpret locations: on values relocated along `f` they do as on the values
themselves. -/
structure CarriesLocations (f : Option Location → Option Location) : Prop where
  /-- An operation has the relocated result, or fails with the relocated blame. -/
  perform (symbol : String) (left right : Node) :
    perform symbol (left.relocate f) (right.relocate f)
      = relocateResult f (perform symbol left right)
  /-- A value is rebuilt with the locations that it has, or is refused as before. -/
  rebuild (deep : Bool) (v : Value) :
    (v.relocate f).rebuild deep = (v.rebuild deep).map (Value.relocate f)
  opposite (swap : String → String) (n : Node) :
    (n.relocate f).opposite swap = (n.opposite swap).relocate f
  items (n : Node) : (n.relocate f).items = n.items.map (List.map (Node.relocate f))
  toList? (config : Config) (separator : Option String) (n : Node) :
    (n.relocate f).toList? config separator
      = (n.toList? config separator).map (Option.map (Node.relocate f))
  /-- A node given relocated children is the relocated node with the children. -/
  withChildren (n : Node) (children : List Value) :
    (n.relocate f).withChildren (children.map (Value.relocate f))
      = (n.withChildren children).map (Node.relocate f)
  /-- Conversions do not change. -/
  toText? (config : Config) (n : Node) : (n.relocate f).toText? config = n.toText? config
  toNumber? (n : Node) : (n.relocate f).toNumber? = n.toNumber?
  truth (n : Node) : (n.relocate f).truth = n.truth
  /-- Neither does equality. -/
  equal (v w : Value) : (v.relocate f).equal (w.relocate f) = v.equal w

theorem carriesLocations (f : Option Location → Option Location) :
  CarriesLocations f
  where
  perform := perform_relocate f
  rebuild := Value.rebuild_relocate f
  opposite := Node.opposite_relocate f
  items := Node.items_relocate f
  toList? := Node.toList?_relocate f
  withChildren := Node.withChildren_relocate f
  toText? := Node.toText?_relocate f
  toNumber? := Node.toNumber?_relocate f
  truth := Node.truth_relocate f
  equal := Value.equal_relocate f

end StyleValue
