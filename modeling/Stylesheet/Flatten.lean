/-
  Stylesheet.Flatten
  ──────────────────
  **FLATTENING A STYLE TREE.**

  The tree is walked depth first, in the order of its entries.  On the way
  down the selectors join with a space and the conditions of grouping rules
  merge; what has been collected is the *scope* of an entry.  An entry
  either opens a block, whose entries are then visited in a larger scope,
  or makes one placement.  The first entry that does neither ends the walk
  with a fault.

      visit   — one entry: a block to go into, a placement, or a fault
      walk    — all entries below a scope, and their placements
      flatten — a whole tree, and its sheet
-/
import Stylesheet.Condition
import Stylesheet.Placement
import Stylesheet.Traced

namespace Stylesheet

/-! ## §1. Scopes. -/

/-- What the keys above an entry amount to. -/
structure Scope where
  /-- The selectors, joined; empty when there is none. -/
  selector : String := ""
  /-- The merged key of the grouping rules, if there is one. -/
  condition : Option String := none
  /-- The keys themselves, from the root down. -/
  path : List String := []
  deriving Repr, DecidableEq

namespace Scope

/-- The scope of the entries of a whole tree. -/
def root : Scope := {}

/-- A selector below a selector. -/
def selectorBelow (selector key : String) : String :=
  if selector.isEmpty then key else selector ++ " " ++ key

/-- The path of an entry with the given key. -/
def pathOf (scope : Scope) (key : String) : List String :=
  scope.path ++ [key]

/-- The scope below a selector. -/
def below (scope : Scope) (key : String) : Scope where
  selector := selectorBelow scope.selector key
  condition := scope.condition
  path := scope.pathOf key

/-- The scope below a grouping rule, when the conditions merge into
`merged`. -/
def under (scope : Scope) (key merged : String) : Scope where
  selector := scope.selector
  condition := some merged
  path := scope.pathOf key

/-- Whether no selector and no grouping rule stands above. -/
def isTop (scope : Scope) : Bool :=
  scope.selector.isEmpty && scope.condition.isNone

end Scope

/-! ## §2. Values of properties and flat rules. -/

/-- What a value sets a property to: a scalar is one value, a list or a
tuple of scalars is several. -/
def PropertyValue.ofValue? : Value → Option PropertyValue
  | .scalar value => some (.single value)
  | .list items | .tuple items => (Value.scalars? items).map .repeated
  | _ => none

/-- The fault of a value that sets a property to nothing. -/
def Fault.ofPropertyValue (key : String) : Value → Fault
  | .list _ | .tuple _ => .repeatedValue key
  | value => .propertyValue key value

/-- The declaration that an entry of a flat rule's block makes.  The name of
an entry that makes none is written into the place of the fault. -/
def flatDeclaration (key : String) (path : List String) (name value : Value) :
    Traced (String × PropertyValue) :=
  match name.text?, PropertyValue.ofValue? value with
  | some name, some value => pure (name, value)
  | _, _ => do .fail (some (path ++ [← .print name])) (.flatDeclaration key)

/-- The item that the value of a flat rule stands for. -/
def flatItem (key : String) (path : List String) (kind : AtRule.Kind) (value : Value) :
    Traced Item :=
  match kind, value with
  | .block, .map entries => do
      let declarations ← entries.mapM fun (name, value) => flatDeclaration key path name value
      return .block (Declarations.ofList declarations)
  | .block, value => .fail (some path) (.notDeclarationBlock key value)
  | _, .scalar value => pure (.statement value)
  | _, value => .fail (some path) (.notSingleValue key value)

/-! ## §3. One entry. -/

/-- What an entry amounts to. -/
inductive Visit where
  /-- A block, whose entries have this scope. -/
  | opens (scope : Scope)
  /-- A leaf. -/
  | places (placement : Placement)

/-- The kind of the at-rule that a key is. -/
def ruleKind (key : String) : Traced AtRule.Kind :=
  match (AtRule.parse? key).bind AtRule.known? with
  | some kind => pure kind
  | none => do
      .note (.unknownAtRule key)
      return .statement

/-- The key that is active below a grouping rule. -/
def conditionBelow (scope : Scope) (key : String) : Traced String :=
  match Condition.merge scope.condition key with
  | .error error => .fail (some (scope.pathOf key)) (.unmergeable error)
  | .ok merged => do
      match scope.condition with
      | some active => .note (.mergedCondition active key merged)
      | none => pure ()
      return merged

/-- Visit an entry whose key is an at-rule. -/
def visitAtRule (scope : Scope) (key : String) (value : Value) : Traced Visit := do
  let path := scope.pathOf key
  match ← ruleKind key, value with
  | .group, .map _ => return .opens (scope.under key (← conditionBelow scope key))
  | .group, value => .fail (some path) (.groupNotBlock key value)
  | kind, value =>
      if scope.isTop then return .places (.flatRule key (← flatItem key path kind value))
      else .fail (some path) (.nestedFlatRule key)

/-- Visit an entry whose key is a property. -/
def visitProperty (scope : Scope) (key : String) (value : Value) : Traced Visit :=
  let path := some (scope.pathOf key)
  if scope.selector.isEmpty then .fail path (.looseProperty key)
  else
    match PropertyValue.ofValue? value with
    | some set =>
        pure (.places (.declaration scope.condition scope.selector (Property.ofKey key) set))
    | none => .fail path (.ofPropertyValue key value)

/-- Visit an entry.  A key that is no text is written into the message of its
fault. -/
def visit (scope : Scope) (key value : Value) : Traced Visit :=
  match key.text? with
  | none => do
      .ifWritable key.isWritable ()
      .fail (some scope.path) (.keyNotText key)
  | some key =>
      if AtRule.isKey key then visitAtRule scope key value
      else
        match value with
        | .map _ => pure (.opens (scope.below key))
        | value => visitProperty scope key value

/-! ## §4. Whole trees. -/

mutual

/-- The placements of an entry and of all below it. -/
def walkEntry (scope : Scope) (key : Value) : Value → Traced (List Placement)
  | .map entries => do
      match ← visit scope key (.map entries) with
      | .opens inner => walk inner entries
      | .places placement => return [placement]
  | value => do
      match ← visit scope key value with
      | .opens _ => return []
      | .places placement => return [placement]

/-- The placements of entries in a scope. -/
def walk (scope : Scope) : List (Value × Value) → Traced (List Placement)
  | [] => return []
  | (key, value) :: rest => do
      let here ← walkEntry scope key value
      let after ← walk scope rest
      return here ++ after

end

/-- The placements of a tree. -/
def placements : Value → Traced (List Placement)
  | .map entries => walk .root entries
  | tree => .fail none (.treeNotMapping tree)

/-- **The sheet of a tree.** -/
def flatten (tree : Value) : Traced Sheet := do
  let sheet := Sheet.ofPlacements (← placements tree)
  .note (.flattened sheet.size)
  return sheet

end Stylesheet
