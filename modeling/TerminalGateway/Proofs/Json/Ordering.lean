import TerminalGateway.Json.Tree
import TerminalGateway.Proofs.Json.Members

/-!
# Ordered values

A text may hold the members of an object in any order and a name more than once.  In the value that
is read from it the names of every object ascend, so each name stands there once.

Main definitions:

- `Value.IsAscending`: the names of members ascend.
- `Value.IsOrdered`: so do the names in every object of a value.

Main results:

- Theorem `Value.IsAscending.set`: a member is set in its place.
- Theorem `Value.isOrdered_of_read?`: a value that is read from a text is ordered.
-/

namespace TerminalGateway.Json

namespace Value

/-- The names of members ascend, so that each stands once. -/
def IsAscending (members : List (String × Value)) : Prop :=
  members.Pairwise fun member later => member.1 < later.1

/-- In every object of a value, however deep, the names of the members ascend. -/
inductive IsOrdered : Value → Prop where
  | null : IsOrdered .null
  | bool (value : Bool) : IsOrdered (.bool value)
  | number (value : Number) : IsOrdered (.number value)
  | string (value : String) : IsOrdered (.string value)
  | array {items : List Value} (hitems : ∀ item ∈ items, IsOrdered item) : IsOrdered (.array items)
  | object {members : List (String × Value)} (hnames : IsAscending members)
      (hmembers : ∀ member ∈ members, IsOrdered member.2) : IsOrdered (.object members)

variable {members : List (String × Value)}

/-! ## Members -/

/-- A member is set in its place. -/
theorem IsAscending.set (h : IsAscending members) (name : String) (value : Value) :
    IsAscending (set name value members) := by
  induction members with
  | nil => exact List.pairwise_singleton _ _
  | cons first rest ih =>
      obtain ⟨hfirst, hrest⟩ := List.pairwise_cons.mp h
      obtain ⟨held, kept⟩ := first
      unfold Value.set
      split
      · rename_i heq
        subst heq
        exact List.pairwise_cons.mpr ⟨hfirst, hrest⟩
      split
      · rename_i hlt
        refine List.pairwise_cons.mpr ⟨?_, h⟩
        intro later hlater
        rcases List.mem_cons.mp hlater with rfl | hmem
        · exact hlt
        · exact String.lt_trans hlt (hfirst later hmem)
      · rename_i hne hle
        have hlt : held < name := by
          apply String.not_le.mp
          intro hreverse
          exact hne (String.le_antisymm hreverse (String.not_lt.mp hle))
        refine List.pairwise_cons.mpr ⟨?_, ih hrest⟩
        intro later hlater
        rcases mem_of_mem_set hlater with rfl | hmem
        · exact hlt
        · exact hfirst later hmem

theorem IsAscending.foldl_set {held : List (String × Value)} (h : IsAscending held)
    (members : List (String × Value)) :
    IsAscending (members.foldl (fun held member => Value.set member.1 member.2 held) held) := by
  induction members generalizing held with
  | nil => exact h
  | cons first rest ih => exact ih (h.set first.1 first.2)

/-- An object of ordered values is ordered, in whatever order its members came. -/
theorem isOrdered_ofMembers (h : ∀ member ∈ members, member.2.IsOrdered) :
    (ofMembers members).IsOrdered := by
  obtain ⟨held, hheld, hordered⟩ := forall_ofMembers h
  have hnames : IsAscending held := by
    cases hheld
    exact IsAscending.foldl_set .nil members
  rw [hheld]
  exact .object hnames hordered

theorem IsOrdered.of_mem (h : (Value.object members).IsOrdered) {member : String × Value}
    (hmem : member ∈ members) : member.2.IsOrdered := by
  cases h with
  | object hnames hmembers => exact hmembers member hmem

theorem IsOrdered.isAscending (h : (Value.object members).IsOrdered) : IsAscending members := by
  cases h with
  | object hnames hmembers => exact hnames

/-- Whatever stands in an ordered object is ordered. -/
theorem IsOrdered.get? {value held : Value} (h : value.IsOrdered) {name : String}
    (hget : value.get? name = some held) : held.IsOrdered := by
  cases h with
  | object hnames hmembers =>
      obtain ⟨before, after, rfl, -⟩ := List.lookup_eq_some_iff.mp hget
      exact hmembers (name, held) (by simp)
  | _ => cases hget

end Value

/-! ## Reading -/

namespace Tree

mutual

/-- The value of a tree is ordered. -/
theorem isOrdered_value? (depth : Nat) (tree : Tree) {value : Value}
    (h : tree.value? depth = some value) : value.IsOrdered := by
  cases tree with
  | null =>
      cases h
      exact .null
  | bool value =>
      cases h
      exact .bool value
  | number numeral =>
      rw [value?, Option.map_eq_some_iff] at h
      obtain ⟨number, -, rfl⟩ := h
      exact .number number
  | string pieces =>
      rw [value?, Option.map_eq_some_iff] at h
      obtain ⟨text, -, rfl⟩ := h
      exact .string text
  | array items =>
      cases depth with
      | zero => cases h
      | succ depth =>
          rw [value?, Option.map_eq_some_iff] at h
          obtain ⟨values, hvalues, rfl⟩ := h
          exact .array (isOrdered_values? depth items hvalues)
  | object members =>
      cases depth with
      | zero => cases h
      | succ depth =>
          rw [value?, Option.map_eq_some_iff] at h
          obtain ⟨values, hvalues, rfl⟩ := h
          exact Value.isOrdered_ofMembers (isOrdered_namedValues? depth members hvalues)

theorem isOrdered_values? (depth : Nat) (items : List Tree) {values : List Value}
    (h : values? depth items = some values) : ∀ value ∈ values, value.IsOrdered := by
  cases items with
  | nil =>
      cases h
      simp
  | cons first rest =>
      simp only [values?, Option.bind_eq_bind, Option.bind_eq_some_iff] at h
      obtain ⟨value, hvalue, later, hlater, hvalues⟩ := h
      cases hvalues
      intro other hother
      rcases List.mem_cons.mp hother with rfl | hmem
      · exact isOrdered_value? depth first hvalue
      · exact isOrdered_values? depth rest hlater other hmem

theorem isOrdered_namedValues? (depth : Nat) (members : List (List Piece × Tree))
    {values : List (String × Value)} (h : namedValues? depth members = some values) :
    ∀ member ∈ values, member.2.IsOrdered := by
  cases members with
  | nil =>
      cases h
      simp
  | cons first rest =>
      obtain ⟨pieces, tree⟩ := first
      simp only [namedValues?, Option.bind_eq_bind, Option.bind_eq_some_iff] at h
      obtain ⟨name, -, value, hvalue, later, hlater, hvalues⟩ := h
      cases hvalues
      intro other hother
      rcases List.mem_cons.mp hother with rfl | hmem
      · exact isOrdered_value? depth tree hvalue
      · exact isOrdered_namedValues? depth rest hlater other hmem

end

end Tree

/-- A value that is read from a text is ordered. -/
theorem Value.isOrdered_of_read? {cs : List Char} {value : Value}
    (h : Value.read? cs = some value) : value.IsOrdered := by
  obtain ⟨tree, -, htree⟩ := Option.bind_eq_some_iff.mp h
  exact Tree.isOrdered_value? Tree.maxDepth tree htree

end TerminalGateway.Json
