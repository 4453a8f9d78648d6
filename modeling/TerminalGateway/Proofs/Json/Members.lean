import TerminalGateway.Json.Value

/-!
# Members of written objects

An object is written with its members in the order of their names.  Each is found under its name,
and whatever holds of all that was put into an object holds of its members.

Main results:

- Theorem `get?_ofMembers`: of several members with one name the last one counts.
- Theorem `forall_ofMembers`: what holds of all that was put in holds of the members.
-/

namespace TerminalGateway.Json.Value

/-- Only the first member with a name is found under it. -/
theorem lookup_cons_ite (name : String) (value : Value) (rest : List (String × Value))
    (other : String) :
    ((name, value) :: rest).lookup other =
      if other = name then some value else rest.lookup other := by
  rw [List.lookup_cons]
  by_cases hname : other = name
  · rw [if_pos hname, beq_iff_eq.mpr hname]
  · rw [if_neg hname, beq_eq_false_iff_ne.mpr hname]

/-- A member that is set is the one that is found under its name. -/
theorem lookup_set (name : String) (value : Value) (members : List (String × Value))
    (other : String) :
    (set name value members).lookup other =
      if other = name then some value else members.lookup other := by
  induction members with
  | nil => exact lookup_cons_ite name value [] other
  | cons member rest ih =>
      rcases member with ⟨held, kept⟩
      unfold set
      split
      · rename_i hheld
        subst hheld
        simp only [lookup_cons_ite]
        by_cases hname : other = name <;> simp [hname]
      split
      · exact lookup_cons_ite name value _ other
      · rename_i hheld _
        rw [lookup_cons_ite, lookup_cons_ite, ih]
        by_cases hname : other = name
        · subst hname
          rw [if_neg hheld, if_pos rfl, if_pos rfl]
        · rw [if_neg hname, if_neg hname]

/-- Of several members with one name the last one counts. -/
theorem get?_ofMembers (members : List (String × Value)) (name : String) :
    (ofMembers members).get? name = members.reverse.lookup name := by
  have hfold : ∀ held : List (String × Value),
      (members.foldl (fun held member => set member.1 member.2 held) held).lookup name =
        (members.reverse.lookup name).or (held.lookup name) := by
    induction members with
    | nil => exact fun held => rfl
    | cons member rest ih =>
        intro held
        have hlast : [member].lookup name = if name = member.1 then some member.2 else none :=
          lookup_cons_ite member.1 member.2 [] name
        rw [List.foldl_cons, ih, lookup_set, List.reverse_cons, List.lookup_append, Option.or_assoc,
          hlast]
        congr 1
        split <;> rfl
  exact (hfold []).trans Option.or_none

theorem mem_of_mem_set {name : String} {value : Value} {members : List (String × Value)}
    {member : String × Value} (h : member ∈ set name value members) :
    member = (name, value) ∨ member ∈ members := by
  induction members with
  | nil => exact .inl (List.mem_singleton.mp h)
  | cons first rest ih =>
      rcases first with ⟨held, kept⟩
      unfold set at h
      split at h
      · exact (List.mem_cons.mp h).imp_right (List.mem_cons_of_mem _)
      split at h
      · exact List.mem_cons.mp h
      · rcases List.mem_cons.mp h with hfirst | hrest
        · exact .inr (List.mem_cons.mpr (.inl hfirst))
        · exact (ih hrest).imp_right (List.mem_cons_of_mem _)

/-- What holds of all that was put into an object holds of its members. -/
theorem forall_ofMembers {property : Value → Prop} {members : List (String × Value)}
    (h : ∀ member ∈ members, property member.2) :
    ∃ held, ofMembers members = .object held ∧ ∀ member ∈ held, property member.2 := by
  have hfold : ∀ held : List (String × Value), (∀ member ∈ held, property member.2) →
      ∀ member ∈ members.foldl (fun held member => set member.1 member.2 held) held,
        property member.2 := by
    induction members with
    | nil => exact fun held hheld => hheld
    | cons first rest ih =>
        intro held hheld
        apply ih fun member hmember => h member (List.mem_cons_of_mem _ hmember)
        intro member hmember
        rcases mem_of_mem_set hmember with rfl | hmember
        · exact h first List.mem_cons_self
        · exact hheld member hmember
  exact ⟨_, rfl, hfold [] fun member hmember => nomatch hmember⟩

end TerminalGateway.Json.Value
