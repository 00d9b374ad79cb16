/-
  Stylesheet.Proofs.Nesting
  ─────────────────────────
  **NESTING IS A WAY OF WRITING.**

  An entry of a style block can be nested otherwise without a change to the
  sheet: two grouping rules around a block may be merged into one, two
  selectors around it joined into one, and a selector and a grouping rule may
  change places.  This holds wherever the entry stands, since all that a walk
  takes from the keys above is the selector and the condition that they come
  to; the keys themselves only say where a fault is.

  Main statements:
    * `fault_walk_of_alike` — a walk goes by selector and condition;
    * `fault_walkEntry_of_renested` — an entry that is nested otherwise;
    * `fault_walk_of_renestedIn` — the same at any place below a scope;
    * `flatten_renested` — and in a tree.
-/
import Stylesheet.Proofs.Leaf
import Stylesheet.Proofs.Merging
import Stylesheet.Proofs.Outcome

namespace Stylesheet

open AtRule Condition

/-! ## §1. Scopes that differ in their paths. -/

/-- Two scopes are alike when they differ in nothing but their paths. -/
structure Scope.Alike (scope other : Scope) : Prop where
  /-- The selectors are the same. -/
  selector : scope.selector = other.selector
  /-- The conditions are the same. -/
  condition : scope.condition = other.condition

namespace Scope.Alike

variable {scope other : Scope}

theorem isTop (h : scope.Alike other) (htop : scope.isTop = true) : other.isTop = true := by
  rw [isTop_iff] at htop ⊢
  rw [← h.selector, ← h.condition]
  exact htop

theorem below (h : scope.Alike other) (key : String) : (scope.below key).Alike (other.below key) where
  selector := congrArg (selectorBelow · key) h.selector
  condition := h.condition

theorem under (h : scope.Alike other) (key otherKey merged : String) :
    (scope.under key merged).Alike (other.under otherKey merged) where
  selector := h.selector
  condition := rfl

end Scope.Alike

section Alike

variable {scope other inner : Scope} {key value : Value}

/-- An entry opens alike blocks in alike scopes. -/
theorem Fits.opens_of_alike (h : scope.Alike other) (fits : Fits scope key value (.opens inner)) :
    ∃ inner', Fits other key value (.opens inner') ∧ inner.Alike inner' := by
  cases fits with
  | selector hkey => exact ⟨_, .selector hkey, h.below _⟩
  | group hkey hmerge =>
      rw [h.condition] at hmerge
      exact ⟨_, .group hkey hmerge, h.under _ _ _⟩

/-- An entry makes the same placement in alike scopes. -/
theorem Fits.places_of_alike (h : scope.Alike other) {placement : Placement}
    (fits : Fits scope key value (.places placement)) : Fits other key value (.places placement) := by
  cases fits with
  | statement hkey hkind htop => exact .statement hkey hkind (h.isTop htop)
  | declarations hkey hkind htop hentries => exact .declarations hkey hkind (h.isTop htop) hentries
  | property hkey hvalue hselector hset =>
      rw [h.selector] at hselector ⊢
      rw [h.condition]
      exact .property hkey hvalue hselector hset

/-- An entry has the same fault in alike scopes, at another place perhaps. -/
theorem Violation.of_alike (h : scope.Alike other) {family : Family}
    {path : Option (List String)} {fault : Fault} (violation : Violation scope key value family path fault) :
    ∃ path', Violation other key value family path' fault := by
  cases violation with
  | keyNotText hkey hwritable => exact ⟨_, .keyNotText hkey hwritable⟩
  | keyTooLong hkey hlong => exact ⟨_, .keyTooLong hkey hlong⟩
  | groupNotBlock hkey hvalue => exact ⟨_, .groupNotBlock hkey hvalue⟩
  | differentNames hkey hactive houter hinner hne =>
      rw [h.condition] at hactive
      exact ⟨_, .differentNames hkey hactive houter hinner hne⟩
  | nestedFlatRule hkey hkind hnested =>
      rw [h.selector, h.condition] at hnested
      exact ⟨_, .nestedFlatRule hkey hkind hnested⟩
  | notSingleValue hkey hkind htop hvalue =>
      rw [h.selector, h.condition] at htop
      exact ⟨_, .notSingleValue hkey hkind htop hvalue⟩
  | notDeclarationBlock hkey hkind htop hvalue =>
      rw [h.selector, h.condition] at htop
      exact ⟨_, .notDeclarationBlock hkey hkind htop hvalue⟩
  | flatDeclaration hkey hkind htop hbefore hbad hwritable =>
      rw [h.selector, h.condition] at htop
      exact ⟨_, .flatDeclaration hkey hkind htop hbefore hbad hwritable⟩
  | nameTooLong hkey hkind htop hbefore hbad hlong =>
      rw [h.selector, h.condition] at htop
      exact ⟨_, .nameTooLong hkey hkind htop hbefore hbad hlong⟩
  | looseProperty hkey hvalue hselector =>
      rw [h.selector] at hselector
      exact ⟨_, .looseProperty hkey hvalue hselector⟩
  | propertyValue hkey hvalue hselector hbad =>
      rw [h.selector] at hselector
      exact ⟨_, .propertyValue hkey hvalue hselector hbad⟩

end Alike

/-! ## §2. Walks in alike scopes. -/

/-- Walks over the same entries keep step in alike scopes, places apart. -/
theorem keepsStep_alike : KeepsStep LocatedFault.fault Scope.Alike id id where
  map := by
    intro entries
    show Value.map entries = .map (entries.map id)
    rw [List.map_id]
  opens := fun h fits => fits.opens_of_alike h
  places := fun h fits => fits.places_of_alike h
  violation := by
    intro scope other key value family path fault h violation
    obtain ⟨path', violation'⟩ := violation.of_alike h
    exact ⟨family, path', fault, violation', rfl⟩

/-- **A walk goes by selector and condition.** -/
theorem fault_walk_of_alike {scope other : Scope} (hscope : scope.Valid) (h : scope.Alike other)
    (entries : List (Value × Value)) :
    (walk other entries).told LocatedFault.fault = (walk scope entries).told LocatedFault.fault := by
  have step := keepsStep_alike.told_walk hscope h entries
  rw [show (fun e : Value × Value => (e.1, id e.2)) = id from rfl, List.map_id, List.map_id_fun] at step
  rw [step]
  cases (walk scope entries).told LocatedFault.fault <;> rfl

/-! ## §3. An entry that is nested otherwise. -/

namespace Scope

/-- Below a selector that is not empty, selectors are joined with a space. -/
theorem selectorBelow_of_ne {outer : String} (hne : outer ≠ "") (inner : String) :
    selectorBelow outer inner = outer ++ " " ++ inner := by
  have named : ¬outer.isEmpty = true := by simpa using hne
  unfold selectorBelow
  exact if_neg named

/-- A selector below two selectors is one below both, joined. -/
theorem selectorBelow_selectorBelow {outer : String} (hne : outer ≠ "") (selector inner : String) :
    selectorBelow (selectorBelow selector outer) inner
      = selectorBelow selector (outer ++ " " ++ inner) := by
  by_cases hs : selector = ""
  · subst hs
    exact selectorBelow_of_ne hne inner
  · have joined : selector ++ " " ++ outer ≠ "" := by simp [hne]
    rw [selectorBelow_of_ne hs, selectorBelow_of_ne joined, selectorBelow_of_ne hs]
    simp only [String.append_assoc]

end Scope

/-- **Two ways of nesting one block.** -/
inductive Renested : Value × Value → Value × Value → Prop where
  /-- Two grouping rules, merged into one.  They merge just when they have the
  same name. -/
  | merged {outer inner key : String} {block} (houter : IsGroup outer) (hinner : IsGroup inner)
      (hkey : merge (some outer) inner = .ok key) :
      Renested (.text outer, .map [(.text inner, .map block)]) (.text key, .map block)
  /-- Two selectors, joined into one. -/
  | joined {outer inner : String} {block} (hne : outer ≠ "") (houter : isKey outer = false)
      (hinner : isKey inner = false) :
      Renested (.text outer, .map [(.text inner, .map block)])
        (.text (outer ++ " " ++ inner), .map block)
  /-- A selector and a grouping rule, which change places. -/
  | exchanged {selector rule : String} {block} (hselector : isKey selector = false)
      (hrule : IsGroup rule) :
      Renested (.text selector, .map [(.text rule, .map block)])
        (.text rule, .map [(.text selector, .map block)])

/-- The entries of a style block before and after one entry, there or in a
style block further down, is nested otherwise.  A key opens a style block
unless it is a flat rule. -/
inductive RenestedIn : List (Value × Value) → List (Value × Value) → Prop where
  /-- The first entry is nested otherwise. -/
  | here {e e' rest} (h : Renested e e') : RenestedIn (e :: rest) (e' :: rest)
  /-- An entry after the first. -/
  | later {e rest rest'} (h : RenestedIn rest rest') : RenestedIn (e :: rest) (e :: rest')
  /-- An entry in the block that the first opens. -/
  | inside {key : String} {block block' rest} (hkey : ¬IsFlat key) (h : RenestedIn block block') :
      RenestedIn ((.text key, .map block) :: rest) ((.text key, .map block') :: rest)

/-! ## §4. Walks over entries that are nested otherwise. -/

section Walks

variable {scope : Scope} {outer inner key : String}

/-- Two grouping rules around a block, and one that they merge into. -/
theorem fault_walkEntry_merged (hscope : scope.Valid) (houter : IsGroup outer)
    (hinner : IsGroup inner) (hkey : merge (some outer) inner = .ok key)
    (block : List (Value × Value)) :
    (walkEntry scope (.text key) (.map block)).told LocatedFault.fault
      = (walkEntry scope (.text outer) (.map [(.text inner, .map block)])).told
          LocatedFault.fault := by
  have group : IsGroup key := isGroup_of_merge hinner hkey
  rw [told_walkEntry_group _ group, told_walkEntry_group _ houter,
    merge_merge hscope.condition houter hinner hkey]
  cases hmerge : merge scope.condition outer with
  | error error => rfl
  | ok merged =>
      have valid : (scope.under outer merged).Valid := Scope.valid_under hscope houter hmerge
      have entered : (Except.ok merged >>= fun active => merge (some active) inner)
          = merge (some merged) inner := rfl
      have active : (scope.under outer merged).condition = some merged := rfl
      rw [entered]
      show _ = (walk (scope.under outer merged) [(.text inner, .map block)]).told _
      -- the inner key is merged with the same active key on both sides
      rw [told_walk_singleton, told_walkEntry_group _ hinner, active]
      cases hboth : merge (some merged) inner with
      | error error => rfl
      | ok both =>
          have alike : ((scope.under outer merged).under inner both).Alike (scope.under key both) :=
            ⟨rfl, rfl⟩
          exact fault_walk_of_alike (Scope.valid_under valid hinner hboth) alike block

/-- Two selectors around a block, and one that they join to. -/
theorem fault_walkEntry_joined (hscope : scope.Valid) (hne : outer ≠ "")
    (houter : isKey outer = false) (hinner : isKey inner = false) (block : List (Value × Value)) :
    (walkEntry scope (.text (outer ++ " " ++ inner)) (.map block)).told LocatedFault.fault
      = (walkEntry scope (.text outer) (.map [(.text inner, .map block)])).told
          LocatedFault.fault := by
  have selector : isKey (outer ++ " " ++ inner) = false := by
    rw [← Scope.selectorBelow_of_ne hne]
    exact Scope.isKey_selectorBelow houter hinner
  have alike : ((scope.below outer).below inner).Alike (scope.below (outer ++ " " ++ inner)) :=
    ⟨Scope.selectorBelow_selectorBelow hne scope.selector inner, rfl⟩
  rw [told_walkEntry_of_opens _ (.selector selector), told_walkEntry_of_opens _ (.selector houter),
    told_walk_singleton, told_walkEntry_of_opens _ (.selector hinner)]
  exact fault_walk_of_alike (Scope.valid_below (Scope.valid_below hscope houter) hinner) alike block

/-- A selector around a grouping rule, and the other way round. -/
theorem fault_walkEntry_exchanged (hscope : scope.Valid) {selector rule : String}
    (hselector : isKey selector = false) (hrule : IsGroup rule) (block : List (Value × Value)) :
    (walkEntry scope (.text rule) (.map [(.text selector, .map block)])).told LocatedFault.fault
      = (walkEntry scope (.text selector) (.map [(.text rule, .map block)])).told
          LocatedFault.fault := by
  -- the selector does not change the condition that the rule is merged with
  have active : (scope.below selector).condition = scope.condition := rfl
  rw [told_walkEntry_group _ hrule, told_walkEntry_of_opens _ (.selector hselector),
    told_walk_singleton, told_walkEntry_group _ hrule, active]
  cases hmerge : merge scope.condition rule with
  | error error => rfl
  | ok merged =>
      show (walk (scope.under rule merged) [(.text selector, .map block)]).told _ = _
      rw [told_walk_singleton, told_walkEntry_of_opens _ (.selector hselector)]
      have alike : ((scope.below selector).under rule merged).Alike
          ((scope.under rule merged).below selector) := ⟨rfl, rfl⟩
      exact fault_walk_of_alike
        (Scope.valid_under (Scope.valid_below hscope hselector) hrule hmerge) alike block

/-- **An entry that is nested otherwise comes to the same.** -/
theorem fault_walkEntry_of_renested (hscope : scope.Valid) {e e' : Value × Value}
    (h : Renested e e') :
    (walkEntry scope e'.1 e'.2).told LocatedFault.fault
      = (walkEntry scope e.1 e.2).told LocatedFault.fault := by
  cases h with
  | merged houter hinner hkey => exact fault_walkEntry_merged hscope houter hinner hkey _
  | joined hne houter hinner => exact fault_walkEntry_joined hscope hne houter hinner _
  | exchanged hselector hrule => exact fault_walkEntry_exchanged hscope hselector hrule _

end Walks

/-- **So do the entries of a block around it.** -/
theorem fault_walk_of_renestedIn {entries entries' : List (Value × Value)}
    (h : RenestedIn entries entries') :
    ∀ scope : Scope, scope.Valid → (walk scope entries').told LocatedFault.fault
      = (walk scope entries).told LocatedFault.fault := by
  induction h with
  | here h =>
      intro scope hscope
      rw [told_walk_cons, told_walk_cons, fault_walkEntry_of_renested hscope h]
  | later _ ih =>
      intro scope hscope
      rw [told_walk_cons, told_walk_cons, ih scope hscope]
  | @inside key block block' rest hkey _ ih =>
      intro scope hscope
      rw [told_walk_cons, told_walk_cons]
      have first : (walkEntry scope (.text key) (.map block')).told LocatedFault.fault
          = (walkEntry scope (.text key) (.map block)).told LocatedFault.fault := by
        cases hat : isKey key with
        | false =>
            rw [told_walkEntry_of_opens _ (.selector hat), told_walkEntry_of_opens _ (.selector hat)]
            exact ih _ (Scope.valid_below hscope hat)
        | true =>
            have group : IsGroup key := ⟨hat, by_contra fun other => hkey ⟨hat, other⟩⟩
            rw [told_walkEntry_group _ group, told_walkEntry_group _ group]
            cases hmerge : merge scope.condition key with
            | error error => rfl
            | ok merged => exact ih _ (Scope.valid_under hscope group hmerge)
      rw [first]

/-! ## §5. Trees. -/

theorem fault_flatten_of_renestedIn {entries entries' : List (Value × Value)}
    (h : RenestedIn entries entries') :
    (flatten (.map entries')).told LocatedFault.fault
      = (flatten (.map entries)).told LocatedFault.fault := by
  rw [told_flatten_map, told_flatten_map, fault_walk_of_renestedIn h .root Scope.valid_root]

/-- **Nesting is a way of writing.**  When one entry of a style block, at any
place in a tree, is nested otherwise, the tree has the same sheet; or it
fails as before, with the same fault, at another place perhaps. -/
theorem flatten_renested {entries entries' : List (Value × Value)}
    (h : RenestedIn entries entries') :
    (∀ sheet, (flatten (.map entries')).result = .ok sheet
        ↔ (flatten (.map entries)).result = .ok sheet)
      ∧ ∀ fault, (∃ path, (flatten (.map entries')).result = .error ⟨fault, path⟩)
        ↔ ∃ path, (flatten (.map entries)).result = .error ⟨fault, path⟩ := by
  have same := fault_flatten_of_renestedIn h
  -- what is told of a tree without the place is its sheet, or its fault
  have told : ∀ entries : List (Value × Value), ∀ fault,
      (flatten (.map entries)).told LocatedFault.fault = .error fault
        ↔ ∃ path, (flatten (.map entries)).result = .error ⟨fault, path⟩ := by
    intro entries fault
    rw [Traced.told_eq_error_iff]
    constructor
    · intro given
      obtain ⟨error, herror, rfl⟩ := given
      exact ⟨error.path, herror⟩
    · intro given
      obtain ⟨path, hpath⟩ := given
      exact ⟨⟨fault, path⟩, hpath, rfl⟩
  refine ⟨fun sheet => ?_, fun fault => ?_⟩
  · rw [← Traced.told_eq_ok_iff LocatedFault.fault, same, Traced.told_eq_ok_iff]
  · rw [← told, same, told]

/-- A block below a selector and two grouping rules. -/
def twoRules : List (Value × Value) :=
  [("top", .map []), ("p", .map [("@media screen", .map [("@Media (min-width: 1px)", .map
    [("a", .map [("color", "red")])])])])]

/-- The same with the rules merged. -/
def mergedRules : List (Value × Value) :=
  [("top", .map []), ("p", .map [("@media screen and (min-width: 1px)", .map
    [("a", .map [("color", "red")])])])]

theorem flatten_renested_twoRules :
    RenestedIn twoRules mergedRules
      ∧ ∃ sheet, (flatten (.map twoRules)).result = .ok sheet
        ∧ (flatten (.map mergedRules)).result = .ok sheet := by
  have merged : merge (some "@media screen") "@Media (min-width: 1px)"
      = .ok "@media screen and (min-width: 1px)" := by decide +kernel
  have renested : RenestedIn twoRules mergedRules :=
    .later (.inside (by decide) (.here (.merged (by decide +kernel) (by decide +kernel) merged)))
  obtain ⟨sheet, accepted⟩ :=
    Traced.exists_result_of_isSome (x := flatten (.map twoRules)) (by decide +kernel)
  exact ⟨renested, sheet, accepted, ((flatten_renested renested).1 sheet).mpr accepted⟩

end Stylesheet
