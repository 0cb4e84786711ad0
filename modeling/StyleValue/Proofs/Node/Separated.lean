import StyleValue.Node.Items

/-!
# Lists with separators

A list made of a range or of arguments holds their items at the even positions and separators at
the odd ones (`Node.IsSeparated`).  Putting separators between items and taking the items out again
are inverse to each other (`evens_intersperse`).  So a list has the items of what it was made of,
and making a list of it once more changes nothing.
-/

namespace StyleValue

/-! ### Putting in and taking out -/

/-- The items are what stands at the even positions. -/
theorem getElem?_evens {α : Type} :
    ∀ (l : List α) (i : Nat), (evens l)[i]? = l[2 * i]?
  | [], _ => rfl
  | [_], 0 => rfl
  | [_], _ + 1 => rfl
  | _ :: _ :: _, 0 => rfl
  | _ :: _ :: rest, i + 1 => by
      rw [evens, List.getElem?_cons_succ, getElem?_evens rest i, Nat.mul_succ,
        List.getElem?_cons_succ, List.getElem?_cons_succ]

/-- Separators between items leave the items at the even positions. -/
theorem evens_intersperse {α : Type} (separator : α) (items : List α) :
  evens (items.intersperse separator) = items
  := by
  apply List.ext_getElem?
  intro i
  rw [getElem?_evens, List.getElem?_intersperse_two_mul]

namespace Node

/-- What a list is made of: the arguments of an argument list, and the items of any other node. -/
def members : Node → Except RangeError (List Node)
  | .argumentList _ arguments => .ok arguments
  | n => n.items

/-- The text between neighbours in a list made of a node: the given one, or else the configured
one. -/
def separatorText (config : Config) (separator : Option String) (n : Node) : String :=
  separator.getD (if n.kind = .range then config.rangeSeparator else config.argumentSeparator)

/-- The children of a list that holds the items with a separator between neighbours. -/
structure IsSeparated (loc : Option Location) (separator : String) (items children : List Node) :
    Prop where
  /-- There is one separator less than there are items, and none without an item. -/
  length : children.length = 2 * items.length - 1
  items : evens children = items
  separators (i : Nat) (child : Node) (odd : i % 2 = 1) (at_odd : children[i]? = some child) :
    child = .text loc .separator separator

theorem isSeparated_intersperse (loc : Option Location) (separator : String) (items : List Node) :
  IsSeparated loc separator items (items.intersperse (.text loc .separator separator))
  where
  length := List.length_intersperse
  items := evens_intersperse _ items
  separators i child odd at_odd := by
    rw [List.getElem?_intersperse, if_neg (by omega)] at at_odd
    split at at_odd
    next => exact (Option.some.inj at_odd).symm
    next => cases at_odd

/-! ### Lists made of nodes -/

/-- What a list that is made of a node has to do with it. -/
structure IsListing (config : Config) (separator : Option String) (n list : Node) : Prop where
  /-- The items of the list are what the node holds. -/
  items : list.items = n.members
  /-- A list is taken as it is. -/
  same (isList : n.kind = .list) : list = n
  /-- Any other node is spread out, at its own location. -/
  separated (isSpread : n.kind ≠ .list) : ∃ items children, n.members = .ok items
    ∧ list = .list n.loc children
    ∧ IsSeparated n.loc (n.separatorText config separator) items children
  /-- A list made of the list is the list itself. -/
  stable (config' : Config) (separator' : Option String) :
    list.toList? config' separator' = .ok (some list)

/-- Spreading items out at the location of a node with its separator. -/
theorem isListing_separated {config : Config} {separator : Option String} {n : Node}
    {items : List Node} (held : n.members = .ok items) (spread : n.kind ≠ .list) :
  IsListing config separator n (separated n.loc (n.separatorText config separator) items)
  where
  items := by
    rw [held, separated, Node.items, evens_intersperse]
  same isList := absurd isList spread
  separated _ := ⟨items, _, held, rfl, isSeparated_intersperse n.loc _ items⟩
  stable _ _ := rfl

/-- Making a list fails for a range only, with the error that leaves the range without items. -/
theorem toList?_eq_error_iff (config : Config) (separator : Option String) (n : Node)
    (e : RangeError) :
  n.toList? config separator = .error e ↔ n.kind = .range ∧ n.items = .error e
  := by
  cases n with
  | range loc start stop exclusive =>
      rw [toList?, items]
      cases start.expand stop exclusive with
      | error e' =>
          constructor
          · rintro ⟨⟩
            exact ⟨rfl, rfl⟩
          · rintro ⟨-, ⟨⟩⟩
            rfl
      | ok nodes =>
          constructor
          · rintro ⟨⟩
          · rintro ⟨-, ⟨⟩⟩
  | quantity _ measure _ => cases measure <;> simp [toList?, kind, Measure.kind]
  | text _ role _ => cases role <;> simp [toList?, kind, TextRole.kind]
  | _ => simp [toList?, kind]

/-- A list is made of whatever holds members. -/
theorem exists_isListing
    (config : Config) (separator : Option String) {n : Node} {items : List Node}
    (held : n.members = .ok items)
    (h : n.kind = .list ∨ n.kind = .range ∨ n.kind = .argumentList) :
  ∃ list, n.toList? config separator = .ok (some list) ∧ IsListing config separator n list
  := by
  cases n with
  | list loc nodes =>
      refine ⟨_, rfl, rfl, fun _ => rfl, ?_, fun _ _ => rfl⟩
      intro spread
      exact absurd rfl spread
  | range loc start stop exclusive =>
      have expanded : start.expand stop exclusive = .ok items := held
      refine ⟨_, ?_, isListing_separated held nofun⟩
      rw [toList?, expanded]
      rfl
  | argumentList loc arguments =>
      cases held
      exact ⟨_, rfl, isListing_separated rfl nofun⟩
  | quantity _ measure _ => cases measure <;> simp [kind, Measure.kind] at h
  | text _ role _ => cases role <;> simp [kind, TextRole.kind] at h
  | _ => simp [kind] at h

/-- A node without members is a range. -/
theorem kind_of_members {n : Node} {e : RangeError} (h : n.members = .error e) :
  n.kind = .range ∧ n.items = .error e
  := by
  cases n with
  | range => exact ⟨rfl, h⟩
  | _ => cases h

/-- Making a list fails for a range without items only, with the error of the range.  In all other
cases the list holds the items of the range, the arguments or the items of the list, and it is its
own list. -/
theorem toList?_lists (config : Config) (separator : Option String) (n : Node)
    (h : n.kind = .list ∨ n.kind = .range ∨ n.kind = .argumentList) :
  (∀ e, n.toList? config separator = .error e ↔ n.kind = .range ∧ n.items = .error e)
    ∧ ((∃ e, n.kind = .range ∧ n.items = .error e)
      ∨ ∃ list, n.toList? config separator = .ok (some list) ∧ IsListing config separator n list)
  := by
  apply And.intro (toList?_eq_error_iff config separator n)
  cases held : n.members with
  | error e => exact Or.inl ⟨e, kind_of_members held⟩
  | ok items => exact Or.inr (exists_isListing config separator held h)

/-- Arguments that are a separator and an empty list, with the empty text between them. -/
theorem toList?_lists_separator :
  (argumentList (some ⟨1, 2, none⟩) [.text none .separator ",", .list none []]).kind
      = .argumentList
    ∧ ∃ list,
      (argumentList (some ⟨1, 2, none⟩) [.text none .separator ",", .list none []]).toList? .default
        (some "") = .ok (some list)
      ∧ IsListing .default (some "")
        (argumentList (some ⟨1, 2, none⟩) [.text none .separator ",", .list none []]) list
  := by
  apply And.intro rfl
  apply Or.resolve_left (toList?_lists .default (some "") _ (Or.inr (Or.inr rfl))).2
  rintro ⟨e, ⟨⟩, -⟩

end Node

end StyleValue
