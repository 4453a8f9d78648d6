import TerminalGateway.Json.Record
import TerminalGateway.Proofs.Json.Spelling

/-!
# Values and records come back from their texts

The compact text of a value is read as the tree of the value, and a record that is written as an
object is found again under the names of its fields.  Binary numbers are left out: no record is
written with one.

Main definitions:

- `Value.tree`: the tree that the text of a value is read as.
- `Value.IsExact`: a value without binary numbers.
- `Record.written`: the fields of a written object.

Main results:

- Theorem `Value.readTree_toChars`: a value is read up to what stands behind it.
- Theorem `Value.read?_text`: the text of a value is read as its tree.
- Theorem `Record.ofTree?_tree`: a written object is a record of its members.
-/

namespace TerminalGateway.Json

variable {depth : Nat} {rest more cs : List Char} {item : Tree} {items : List Tree}
  {members : List (List Piece × Tree)}

/-! ## Reading step by step -/

theorem skipSpace_cons {c : Char} (hc : isSpace c = false) (rest : List Char) :
    skipSpace (c :: rest) = c :: rest :=
  List.dropWhile_cons_of_neg (by simp [hc])

theorem skipSpace_quote (name : String) (rest : List Char) :
    skipSpace (Value.quote name ++ rest) = Value.quote name ++ rest :=
  skipSpace_cons rfl _

/-- What begins with a digit or a minus sign is read as a numeral. -/
theorem readTree_numeral {c : Char} {numeral : Numeral} (hc : c.isDigit = true ∨ c = '-')
    (hread : readNumeral (c :: cs) = some (numeral, rest)) :
    readTree (depth + 1) (c :: cs) = some (.number numeral, rest) := by
  have hother (other : Char) (h : other.isDigit = false ∧ other ≠ '-') : c ≠ other := by
    rintro rfl
    rcases hc with hdigit | hminus
    · exact absurd hdigit (by simp [h.1])
    · exact h.2 hminus
  have hspace : isSpace c = false := by
    simp [isSpace, hother ' ' (by decide), hother '\t' (by decide), hother '\n' (by decide),
      hother '\r' (by decide)]
  simp [readTree, skipSpace_cons hspace, hother 'n' (by decide), hother 't' (by decide),
    hother 'f' (by decide), hother '"' (by decide), hother '[' (by decide),
    hother '\x7b' (by decide), hread]

theorem readTree_number (value : Int) (hrest : IsBehind rest) :
    readTree (depth + 1) (value.repr.toList ++ rest)
      = some (.number (Numeral.ofInt value), rest) := by
  have hread := readNumeral_repr value hrest
  rcases intRepr_eq_cons value with ⟨c, cs, hcons, hc⟩
  rw [hcons, List.cons_append] at hread ⊢
  exact readTree_numeral hc hread

theorem readTree_quote (s : String) (rest : List Char) :
    readTree (depth + 1) (Value.quote s ++ rest) = some (.string (piecesOf s), rest) := by
  rw [readTree, skipSpace_quote]
  simp [Value.quote, readPieces_quote]

/-- No value begins with the end of an array. -/
theorem readTree_bracket (h : skipSpace cs = ']' :: rest) : readTree depth cs = none := by
  cases depth with
  | zero => rfl
  | succ depth =>
      rw [readTree, h]
      rfl

theorem readTree_array (hbracket : ∀ rest, skipSpace cs ≠ ']' :: rest)
    (hitems : readItems depth cs = some (items, rest)) :
    readTree (depth + 1) ('[' :: cs) = some (.array items, rest) := by
  have hskip : skipSpace ('[' :: cs) = '[' :: cs := skipSpace_cons rfl cs
  -- `hbracket` rules out the branch for an array without items
  simp only [readTree, hskip, hitems]
  rfl

theorem readItems_last (hitem : readTree depth cs = some (item, ']' :: rest)) :
    readItems (depth + 1) cs = some ([item], rest) := by
  rw [readItems, hitem]
  rfl

theorem readItems_comma (hitem : readTree depth cs = some (item, ',' :: more))
    (hitems : readItems depth more = some (items, rest)) :
    readItems (depth + 1) cs = some (item :: items, rest) := by
  have hskip : skipSpace (',' :: more) = ',' :: more := skipSpace_cons rfl more
  simp [readItems, hitem, hskip, hitems]

theorem readTree_object (name : String)
    (hmembers : readMembers depth (Value.quote name ++ more) = some (members, rest)) :
    readTree (depth + 1) ('\x7b' :: (Value.quote name ++ more))
      = some (.object members, rest) := by
  have hskip (cs : List Char) : skipSpace ('\x7b' :: cs) = '\x7b' :: cs := skipSpace_cons rfl cs
  simp only [readTree, hskip, skipSpace_quote]
  simp only [Value.quote, List.cons_append] at hmembers ⊢
  rw [hmembers]
  rfl

theorem readMembers_last (name : String)
    (hitem : readTree depth cs = some (item, '\x7d' :: rest)) :
    readMembers (depth + 1) (Value.quote name ++ ':' :: cs)
      = some ([(piecesOf name, item)], rest) := by
  rw [readMembers, skipSpace_quote]
  simp [Value.quote, readPieces_quote, skipSpace_cons, isSpace, hitem]

theorem readMembers_comma (name : String)
    (hitem : readTree depth cs = some (item, ',' :: more))
    (hmembers : readMembers depth more = some (members, rest)) :
    readMembers (depth + 1) (Value.quote name ++ ':' :: cs)
      = some ((piecesOf name, item) :: members, rest) := by
  rw [readMembers, skipSpace_quote]
  simp [Value.quote, readPieces_quote, skipSpace_cons, isSpace, hitem, hmembers]

/-! ## Values -/

namespace Value

mutual

/-- The tree that the text of a value is read as.  Binary numbers, which are written in many
forms, are not described. -/
def tree : Value → Tree
  | null => .null
  | bool value => .bool value
  | number (.whole value) => .number (Numeral.ofInt value)
  | number (.real _) => .null
  | string value => .string (piecesOf value)
  | array items => .array (itemTrees items)
  | object members => .object (memberTrees members)

/-- The trees of items. -/
def itemTrees : List Value → List Tree
  | [] => []
  | first :: rest => first.tree :: itemTrees rest

/-- The trees of members behind the pieces of their names. -/
def memberTrees : List (String × Value) → List (List Piece × Tree)
  | [] => []
  | (name, first) :: rest => (piecesOf name, first.tree) :: memberTrees rest

end

mutual

/-- A value without binary numbers. -/
def IsExact : Value → Prop
  | number (.real _) => False
  | array items => ItemsExact items
  | object members => MembersExact members
  | _ => True

/-- Items without binary numbers. -/
def ItemsExact : List Value → Prop
  | [] => True
  | first :: rest => first.IsExact ∧ ItemsExact rest

/-- Members without binary numbers. -/
def MembersExact : List (String × Value) → Prop
  | [] => True
  | (_, first) :: rest => first.IsExact ∧ MembersExact rest

end

theorem itemTrees_eq_map (items : List Value) : itemTrees items = items.map tree := by
  induction items with
  | nil => rfl
  | cons first items ih => rw [itemTrees, ih, List.map_cons]

theorem memberTrees_eq_map (members : List (String × Value)) :
    memberTrees members = members.map fun member => (piecesOf member.1, member.2.tree) := by
  induction members with
  | nil => rfl
  | cons member members ih => rw [memberTrees, ih, List.map_cons]

@[simp]
theorem isExact_string (s : String) : (string s).IsExact :=
  trivial

@[simp]
theorem isExact_ofInt (value : Int) : (ofInt value).IsExact :=
  trivial

@[simp]
theorem isExact_ofOption {α : Type} {write : α → Value} {o : Option α} :
    (ofOption write o).IsExact ↔ ∀ a ∈ o, (write a).IsExact := by
  cases o <;> simp [ofOption, IsExact]

@[simp]
theorem isExact_array {items : List Value} :
    (array items).IsExact ↔ ∀ value ∈ items, value.IsExact := by
  rw [IsExact]
  induction items with
  | nil => simp [ItemsExact]
  | cons first items ih => rw [ItemsExact, ih, List.forall_mem_cons]

@[simp]
theorem isExact_object {members : List (String × Value)} :
    (object members).IsExact ↔ ∀ member ∈ members, member.2.IsExact := by
  rw [IsExact]
  induction members with
  | nil => simp [MembersExact]
  | cons member members ih => rw [MembersExact, ih, List.forall_mem_cons]

/-- What is left of an array may stand behind an item. -/
theorem isBehind_itemsToChars (items : List Value) (rest : List Char) :
    IsBehind (itemsToChars items ++ rest) := by
  cases items with
  | nil => exact isBehind_bracket _
  | cons first items => exact isBehind_comma _

theorem toChars_pos {v : Value} (h : v.IsExact) : 0 < v.toChars.length := by
  cases v with
  | null => decide
  | bool value => cases value <;> decide
  | number value =>
      cases value with
      | whole value =>
          rcases intRepr_eq_cons value with ⟨c, cs, hcons, -⟩
          rw [toChars, Number.text, hcons]
          exact Nat.succ_pos _
      | real value => exact absurd h (by simp [IsExact])
  | string value => exact Nat.succ_pos _
  | array items => cases items <;> exact Nat.succ_pos _
  | object members => cases members <;> exact Nat.succ_pos _

mutual

/-- A value is read up to what stands behind it.  Every nested call takes one from the bound and
is made behind a character, or for an item that is followed by one. -/
theorem readTree_toChars : ∀ (v : Value) (depth : Nat) (rest : List Char), v.IsExact →
    2 * v.toChars.length ≤ depth → IsBehind rest →
    readTree depth (v.toChars ++ rest) = some (v.tree, rest)
  | v, 0, rest, hexact, hdepth, _ => by
      have hpos := toChars_pos hexact
      omega
  | null, depth + 1, rest, _, _, _ => rfl
  | bool true, depth + 1, rest, _, _, _ => rfl
  | bool false, depth + 1, rest, _, _, _ => rfl
  | number (.whole value), depth + 1, rest, _, _, hrest => readTree_number value hrest
  | string value, depth + 1, rest, _, _, _ => readTree_quote value rest
  | array [], depth + 1, rest, _, _, _ => rfl
  | array (first :: items), depth + 1, rest, hexact, hdepth, hrest => by
      rw [toChars, List.length_cons, List.length_append] at hdepth
      rw [toChars, List.cons_append, List.append_assoc]
      have hfirst := readTree_toChars first depth (itemsToChars items ++ rest) hexact.1 (by omega)
        (isBehind_itemsToChars items rest)
      refine readTree_array (fun more hbracket => ?_)
        (readItems_toChars first items depth rest hexact.1 hexact.2 (by omega))
      rw [readTree_bracket hbracket] at hfirst
      exact absurd hfirst (by simp)
  | object [], depth + 1, rest, _, _, _ => rfl
  | object ((name, first) :: members), depth + 1, rest, hexact, hdepth, hrest => by
      simp only [toChars, List.length_cons, List.length_append] at hdepth
      rw [toChars, List.cons_append, List.append_assoc, List.cons_append, List.append_assoc]
      exact readTree_object name
        (readMembers_toChars name first members depth rest hexact.1 hexact.2 (by omega))

/-- The items of an array are read up to what stands behind its end. -/
theorem readItems_toChars : ∀ (first : Value) (items : List Value) (depth : Nat)
    (rest : List Char), first.IsExact → ItemsExact items →
    2 * (first.toChars.length + (itemsToChars items).length) + 1 ≤ depth →
    readItems depth (first.toChars ++ (itemsToChars items ++ rest))
      = some (first.tree :: itemTrees items, rest)
  | first, [], depth + 1, rest, hfirst, _, hdepth =>
      readItems_last (readTree_toChars first depth _ hfirst (by omega) (isBehind_bracket _))
  | first, second :: items, depth + 1, rest, hfirst, hitems, hdepth => by
      rw [itemsToChars, List.length_cons, List.length_append] at hdepth
      rw [itemsToChars, List.cons_append, List.append_assoc]
      exact readItems_comma (readTree_toChars first depth _ hfirst (by omega) (isBehind_comma _))
        (readItems_toChars second items depth rest hitems.1 hitems.2 (by omega))

/-- The members of an object are read up to what stands behind its end. -/
theorem readMembers_toChars : ∀ (name : String) (first : Value) (members : List (String × Value))
    (depth : Nat) (rest : List Char), first.IsExact → MembersExact members →
    2 * (first.toChars.length + (membersToChars members).length) + 1 ≤ depth →
    readMembers depth (quote name ++ ':' :: (first.toChars ++ (membersToChars members ++ rest)))
      = some ((piecesOf name, first.tree) :: memberTrees members, rest)
  | name, first, [], depth + 1, rest, hfirst, _, hdepth =>
      readMembers_last name (readTree_toChars first depth _ hfirst (by omega) (isBehind_brace _))
  | name, first, (key, second) :: members, depth + 1, rest, hfirst, hmembers, hdepth => by
      simp only [membersToChars, List.length_cons, List.length_append] at hdepth
      rw [membersToChars, List.cons_append, List.append_assoc, List.cons_append, List.append_assoc]
      exact readMembers_comma name
        (readTree_toChars first depth _ hfirst (by omega) (isBehind_comma _))
        (readMembers_toChars key second members depth rest hmembers.1 hmembers.2 (by omega))

end

/-- The text of a value is read as its tree. -/
theorem read?_text {v : Value} (h : v.IsExact) : Tree.read? v.text.toList = some v.tree := by
  have hread := readTree_toChars v (2 * v.toChars.length + 2) [] h (by omega) isBehind_nil
  rw [List.append_nil] at hread
  rw [Tree.read?, text, String.toList_ofList, hread]
  rfl

end Value

/-! ## Simple contents -/

@[simp]
theorem Tree.text?_tree (s : String) : (Value.string s).tree.text? = some s :=
  pieceText?_piecesOf s

theorem Tree.int?_tree {low high value : Int} (hlow : low ≤ value) (hhigh : value < high)
    (hsigned : -(Number.signedLimit64 : Int) ≤ value) (hfits : value < Number.limit64) :
    (Value.ofInt value).tree.int? low high = some value := by
  have hnumber : (Value.ofInt value).tree.number? = some (.whole value) :=
    Numeral.number?_ofInt hsigned hfits
  simp only [Tree.int?, hnumber]
  rw [if_pos ⟨hlow, hhigh⟩]

theorem Tree.variant?_tree (s : String) : (Value.string s).tree.variant? = some (s, none) := by
  rw [Value.tree, Tree.variant?, pieceText?_piecesOf]
  rfl

theorem Tree.variant?_member (name : String) (value : Value) :
    (Value.object [(name, value)]).tree.variant? = some (name, some value.tree) := by
  rw [Value.tree, Value.memberTrees, Value.memberTrees, Tree.variant?, pieceText?_piecesOf]
  rfl

theorem Tree.unitVariant?_tree (s : String) : (Value.string s).tree.unitVariant? = some s := by
  rw [Tree.unitVariant?, Tree.variant?_tree]

theorem Tree.nullable?_of_ne_null {α : Type} {read : Tree → Option α} {tree : Tree}
    (h : tree ≠ .null) : tree.nullable? read = (read tree).map some := by
  cases tree <;> first | exact absurd rfl h | rfl

/-- An optional value comes back if a value does that is there. -/
theorem Tree.nullable?_tree {α : Type} {write : α → Value} {read : Tree → Option α} {f : α → α}
    {o : Option α} (hread : ∀ a ∈ o, read (write a).tree = some (f a)) (hnull : read .null = none) :
    (Value.ofOption write o).tree.nullable? read = some (o.map f) := by
  cases o with
  | none => rfl
  | some a =>
      have hread := hread a rfl
      have hne : (write a).tree ≠ .null := by
        intro hwritten
        rw [hwritten, hnull] at hread
        exact absurd hread (by simp)
      rw [Value.ofOption, nullable?_of_ne_null hne, hread]
      rfl

theorem Tree.nullable?_tree_self {α : Type} {write : α → Value} {read : Tree → Option α}
    {o : Option α} (hread : ∀ a ∈ o, read (write a).tree = some a) (hnull : read .null = none) :
    (Value.ofOption write o).tree.nullable? read = some o := by
  rw [nullable?_tree (f := id) hread hnull, Option.map_id_fun, id]

/-- A list comes back if every item does. -/
theorem Tree.list?_tree {α : Type} {write : α → Value} {read : Tree → Option α} {f : α → α}
    (hread : ∀ a, read (write a).tree = some (f a)) (as : List α) :
    (Value.array (as.map write)).tree.list? read = some (as.map f) := by
  rw [Value.tree, Value.itemTrees_eq_map, Tree.list?]
  induction as with
  | nil => rfl
  | cons a as ih =>
      rw [List.map_cons, List.map_cons, List.mapM_cons, hread, ih]
      rfl

/-! ## Records -/

namespace Record

/-- The fields of an object with the given members. -/
def written (members : List (String × Value)) : Record :=
  ⟨false, members.map fun member => (member.1, some member.2.tree)⟩

theorem namedMembers?_memberTrees (members : List (String × Value)) :
    namedMembers? (Value.memberTrees members)
      = some (members.map fun member => (member.1, member.2.tree)) := by
  rw [namedMembers?, Value.memberTrees_eq_map]
  induction members with
  | nil => rfl
  | cons member members ih =>
      rw [List.map_cons, List.mapM_cons, pieceText?_piecesOf, ih]
      rfl

/-- Distinct names are found with the member they stand for. -/
theorem lookup_of_mem {α : Type} {members : List (String × α)}
    (hdistinct : (members.map Prod.fst).eraseDups = members.map Prod.fst) {name : String} {a : α}
    (hmember : (name, a) ∈ members) : members.lookup name = some a := by
  induction members with
  | nil => exact absurd hmember (by simp)
  | cons member members ih =>
      rw [List.map_cons, List.eraseDups_cons, List.cons.injEq] at hdistinct
      have hother : ∀ other ∈ members.map Prod.fst, other ≠ member.1 := by
        intro other h
        rw [← hdistinct.2, List.mem_eraseDups, List.mem_filter] at h
        simpa using h.2
      rw [List.filter_eq_self.mpr (by simpa using hother)] at hdistinct
      rcases List.mem_cons.mp hmember with heq | hmember
      · rw [← heq, List.lookup_cons_self]
      · have hne := hother name (List.mem_map_of_mem hmember)
        rw [List.lookup_cons, beq_false_of_ne hne]
        exact ih hdistinct.2 hmember

/-- A written object is a record of its members. -/
theorem ofTree?_tree {members : List (String × Value)} {names : List String}
    (hnames : members.map Prod.fst = names) (hdistinct : names.eraseDups = names) :
    ofTree? names (Value.object members).tree = some (written members) := by
  subst hnames
  have hnames : (members.map fun member => (member.1, member.2.tree)).map Prod.fst
      = members.map Prod.fst := by
    rw [List.map_map]
    rfl
  have hknown : (members.map Prod.fst).filter (members.map Prod.fst).contains
      = members.map Prod.fst := by simp
  have hfields : (members.map Prod.fst).map (fun name =>
        (name, (members.map fun member => (member.1, member.2.tree)).lookup name))
      = members.map fun member => (member.1, some member.2.tree) := by
    rw [List.map_map]
    refine List.map_congr_left fun member hmember => ?_
    have htree := List.mem_map_of_mem (f := fun member => (member.1, member.2.tree)) hmember
    exact congrArg (Prod.mk member.1) (lookup_of_mem (by rwa [hnames]) htree)
  rw [Value.tree, ofTree?, namedMembers?_memberTrees]
  dsimp only [Option.bind_eq_bind, Option.bind_some]
  rw [hnames, hknown, hdistinct, if_neg (by simp), hfields]
  rfl

@[simp]
theorem field?_written_cons (name key : String) (value : Value)
    (members : List (String × Value)) :
    (written ((key, value) :: members)).field? name
      = if name = key then some value.tree else (written members).field? name := by
  simp only [field?, written, List.map_cons, List.lookup_cons]
  by_cases h : name = key
  · rw [if_pos h, beq_iff_eq.mpr h]
    rfl
  · rw [if_neg h, beq_false_of_ne h]

/-- A field that must be there is found in an object that has it. -/
@[simp]
theorem required_written {α : Type} (members : List (String × Value)) (name : String)
    (read : Tree → Option α) :
    (written members).required name read = ((written members).field? name).bind read :=
  rfl

/-- A field that may be null is taken to be null in an object without it. -/
@[simp]
theorem optional_written {α : Type} (members : List (String × Value)) (name : String)
    (read : Tree → Option α) :
    (written members).optional name read
      = (((written members).field? name).getD .null).nullable? read := by
  unfold optional
  cases (written members).field? name <;> rfl

end Record

end TerminalGateway.Json
