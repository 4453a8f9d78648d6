import TerminalGateway.Proofs.Json.Members
import TerminalGateway.Proofs.Json.Numbers
import TerminalGateway.Proofs.Json.Reading

/-!
# Flat objects come back from their texts

An object whose members have no parts of their own is read back whatever numbers it has: each member
is found under its name with the string or the numeral that was written.

Main definitions:

- `Value.leaf`: the tree that a value without parts is read as.
- `Value.IsLeaf`: it is read as that wherever it stands.
- `WritesNumber`: a text is an object with a number that denotes a value.

Main results:

- Theorem `Value.read?_flat`: a flat object is read back.
- Theorem `writesNumber_of_get?`: the number under a name denotes what was written.
-/

namespace TerminalGateway.Json

variable {depth : Nat} {rest : List Char}

/-- The first character of a numeral is a digit or a minus sign. -/
theorem spelling_eq_cons {n : Numeral} (h : n.IsPlain) :
    ∃ c cs, n.spelling = c :: cs ∧ (c.isDigit = true ∨ c = '-') := by
  rcases List.exists_cons_of_ne_nil h.whole.1 with ⟨d, ds, hwhole⟩
  have hd : d.isDigit = true := h.whole.2 d (hwhole ▸ List.mem_cons_self)
  unfold Numeral.spelling
  rw [hwhole]
  cases n.negative with
  | true => exact ⟨_, _, rfl, .inr rfl⟩
  | false => exact ⟨_, _, rfl, .inl hd⟩

/-- A numeral is read as a tree wherever it stands. -/
theorem readTree_spelling {n : Numeral} (h : n.IsPlain) (hrest : IsBehind rest) :
    readTree (depth + 1) (n.spelling ++ rest) = some (.number n, rest) := by
  have hread := readNumeral_spelling h hrest
  rcases spelling_eq_cons h with ⟨c, cs, hcons, hc⟩
  rw [hcons, List.cons_append] at hread ⊢
  exact readTree_numeral hc hread

namespace Value

/-- The tree that a value without parts is read as. -/
def leaf : Value → Tree
  | number value =>
      match readNumeral value.text.toList with
      | some (n, _) => .number n
      | none => .null
  | value => value.tree

/-- A value is read as its leaf wherever it stands. -/
def IsLeaf (value : Value) : Prop :=
  ∀ depth rest, IsBehind rest →
    readTree (depth + 1) (value.toChars ++ rest) = some (value.leaf, rest)

theorem isLeaf_string (s : String) : (string s).IsLeaf :=
  fun _ _ _ => readTree_quote s _

/-- A number that denotes something is read as a numeral of it. -/
theorem leaf_number {number : Number} {n : Numeral} (h : n.IsPlain)
    (htext : number.text.toList = n.spelling) : (Value.number number).leaf = .number n := by
  have hread := readNumeral_spelling h isBehind_nil
  rw [List.append_nil] at hread
  rw [leaf, htext, hread]

theorem isLeaf_number {number : Number} {value : Rat} (h : number.Denotes value) :
    (Value.number number).IsLeaf := by
  rcases h with ⟨n, hplain, htext, -⟩
  intro depth rest hrest
  rw [leaf_number hplain htext, toChars, htext]
  exact readTree_spelling hplain hrest

/-- The members of a flat object are read up to what stands behind it. -/
theorem readMembers_flat : ∀ (first : String × Value) (members : List (String × Value))
    (depth : Nat) (rest : List Char), first.2.IsLeaf → (∀ member ∈ members, member.2.IsLeaf) →
    members.length + 2 ≤ depth →
    readMembers depth
        (quote first.1 ++ ':' :: (first.2.toChars ++ (membersToChars members ++ rest))) =
      some ((first :: members).map fun member => (piecesOf member.1, member.2.leaf), rest)
  | first, [], depth + 2, rest, hfirst, _, _ =>
      readMembers_last first.1 (hfirst depth _ (isBehind_brace rest))
  | first, second :: members, depth + 2, rest, hfirst, hmembers, hdepth => by
      rw [List.length_cons] at hdepth
      rw [membersToChars, List.cons_append, List.append_assoc, List.cons_append, List.append_assoc]
      exact readMembers_comma first.1 (hfirst depth _ (isBehind_comma _))
        (readMembers_flat second members (depth + 1) rest
          (hmembers second List.mem_cons_self)
          (fun member hmember => hmembers member (List.mem_cons_of_mem _ hmember)) (by omega))

theorem length_le_membersToChars (members : List (String × Value)) :
    members.length ≤ (membersToChars members).length := by
  induction members with
  | nil => exact Nat.zero_le _
  | cons member members ih =>
      simp only [membersToChars, List.length_cons, List.length_append]
      omega

/-- A flat object is read back. -/
theorem read?_flat {members : List (String × Value)} (h : ∀ member ∈ members, member.2.IsLeaf) :
    Tree.read? (object members).text.toList =
      some (.object (members.map fun member => (piecesOf member.1, member.2.leaf))) := by
  cases members with
  | nil => rfl
  | cons first members =>
      have hlength := length_le_membersToChars members
      have hmembers := readMembers_flat first members
        (2 * (object (first :: members)).toChars.length + 1) [] (h first List.mem_cons_self)
        (fun member hmember => h member (List.mem_cons_of_mem _ hmember))
        (by simp only [toChars, List.length_cons, List.length_append]; omega)
      rw [List.append_nil] at hmembers
      have hread : readTree (2 * (object (first :: members)).toChars.length + 2)
          (object (first :: members)).toChars = _ := readTree_object first.1 hmembers
      rw [Tree.read?, text, String.toList_ofList, hread]
      rfl

/-- The leaf of a member is found under the pieces of its name. -/
theorem lookup_leaf (members : List (String × Value)) (name : String) :
    (members.map fun member => (piecesOf member.1, member.2.leaf)).lookup (piecesOf name) =
      (members.lookup name).map leaf := by
  induction members with
  | nil => rfl
  | cons member members ih =>
      rw [List.map_cons, List.lookup_cons, List.lookup_cons, ih]
      by_cases hname : name = member.1
      · rw [hname, beq_self_eq_true, beq_self_eq_true]
        rfl
      · have hpieces : piecesOf name ≠ piecesOf member.1 := by
          intro heq
          have htext := congrArg pieceText? heq
          rw [pieceText?_piecesOf, pieceText?_piecesOf] at htext
          exact hname (Option.some.inj htext)
        rw [beq_false_of_ne hname, beq_false_of_ne hpieces]

end Value

/-- A text is an object with a number under a name, which denotes a value. -/
def WritesNumber (text name : String) (value : Rat) : Prop :=
  ∃ members n, Tree.read? text.toList = some (.object members) ∧
    members.lookup (piecesOf name) = some (.number n) ∧ n.value = value

theorem writesNumber_of_get? {request : Value} {members : List (String × Value)}
    (hobject : request = .object members) (hleaves : ∀ member ∈ members, member.2.IsLeaf)
    {name : String} {number : Number} (hget : request.get? name = some (.number number))
    {value : Rat} (h : number.Denotes value) : WritesNumber request.text name value := by
  rcases h with ⟨n, hplain, htext, hvalue⟩
  subst hobject
  refine ⟨_, n, Value.read?_flat hleaves, ?_, hvalue⟩
  rw [Value.lookup_leaf, show members.lookup name = _ from hget, Option.map_some,
    Value.leaf_number hplain htext]

/-- One value is denoted under a name. -/
theorem WritesNumber.unique {text name : String} {first second : Rat}
    (hfirst : WritesNumber text name first) (hsecond : WritesNumber text name second) :
    first = second := by
  rcases hfirst with ⟨members, n, hread, hlookup, rfl⟩
  rcases hsecond with ⟨others, m, hother, hotherLookup, rfl⟩
  injection hread.symm.trans hother with htree
  injection htree with hmembers
  subst hmembers
  injection hlookup.symm.trans hotherLookup with hnumber
  injection hnumber with hnumeral
  rw [hnumeral]

end TerminalGateway.Json
