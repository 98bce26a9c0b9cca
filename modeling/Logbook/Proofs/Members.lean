/-
Names in tables and objects.  Main statement: `Members.ofList_eq_self`, in a table to which every
name is written once the members stand as they came.
-/
import Logbook.Members
import Mathlib.Data.List.Nodup

namespace Logbook

namespace Members

variable {α : Type} {members : Members α} {name : String} {value : α}

theorem get?_eq_none_iff :
    members.get? name = none ↔ name ∉ members.map Prod.fst := by
  induction members with
  | nil => simp [Members.get?]
  | cons member rest ih =>
      obtain ⟨first, value⟩ := member
      by_cases hname : first = name
      · simp [Members.get?, hname]
      · simp [Members.get?, hname, ih, Ne.symm hname]

theorem map_fst_put (members : Members α) (name : String) (value : α) :
    (members.put name value).map Prod.fst =
      if name ∈ members.map Prod.fst then members.map Prod.fst
      else members.map Prod.fst ++ [name] := by
  induction members with
  | nil => simp [Members.put]
  | cons member rest ih =>
      obtain ⟨first, held⟩ := member
      by_cases hname : first = name
      · simp [Members.put, hname]
      · simp only [Members.put, if_neg hname, List.map_cons, ih, List.mem_cons, Ne.symm hname,
          false_or]
        split <;> rfl

/-- Behind a removal a name has no value, and the other names have theirs. -/
theorem get?_filter_ne (members : Members α) (name other : String) :
    get? (members.filter (·.1 != name)) other =
      if other = name then none else members.get? other := by
  induction members with
  | nil => simp [get?]
  | cons member rest ih =>
      obtain ⟨first, value⟩ := member
      by_cases hfirst : first = name
      · subst hfirst
        rw [List.filter_cons_of_neg (by simp), ih, get?]
        by_cases hother : other = first
        · simp [hother]
        · rw [if_neg hother, if_neg hother, if_neg (Ne.symm hother)]
      · rw [List.filter_cons_of_pos (by simpa using hfirst), get?, get?, ih]
        by_cases hother : first = other
        · subst hother
          simp [hfirst]
        · rw [if_neg hother, if_neg hother]

theorem mem_of_get? (h : members.get? name = some value) : (name, value) ∈ members := by
  induction members with
  | nil => simp [get?] at h
  | cons member rest ih =>
      obtain ⟨first, held⟩ := member
      by_cases hname : first = name
      · simp_all [get?]
      · simp only [get?, if_neg hname] at h
        exact List.mem_cons_of_mem _ (ih h)

/-- Where no name comes twice, each member is found. -/
theorem get?_eq_some_iff (h : (members.map Prod.fst).Nodup) :
    members.get? name = some value ↔ (name, value) ∈ members := by
  refine ⟨mem_of_get?, fun hmem => ?_⟩
  induction members with
  | nil => simp at hmem
  | cons member rest ih =>
      obtain ⟨first, held⟩ := member
      obtain ⟨hnew, hrest⟩ := List.nodup_cons.mp h
      rcases List.mem_cons.mp hmem with heq | hlater
      · obtain ⟨rfl, rfl⟩ := Prod.mk.inj heq
        rw [get?, if_pos rfl]
      · have hne : first ≠ name := by
          rintro rfl
          exact hnew (List.mem_map.mpr ⟨_, hlater, rfl⟩)
        rw [get?, if_neg hne]
        exact ih hrest hlater

/-- Where no name comes twice, the order of the members does not matter. -/
theorem get?_perm {members' : Members α} (hperm : members.Perm members')
    (h : (members.map Prod.fst).Nodup) (name : String) :
    members.get? name = members'.get? name := by
  have h' := (hperm.map Prod.fst).nodup_iff.mp h
  apply Option.ext
  intro value
  rw [get?_eq_some_iff h, get?_eq_some_iff h', hperm.mem_iff]

theorem eq_or_mem_of_mem_put {member : String × α} (h : member ∈ members.put name value) :
    member.2 = value ∨ member ∈ members := by
  induction members with
  | nil => simp_all [put]
  | cons first rest ih =>
      obtain ⟨other, held⟩ := first
      by_cases hname : other = name
      · simp only [put, if_pos hname, List.mem_cons] at h ⊢
        rcases h with rfl | h
        · exact Or.inl rfl
        · exact Or.inr (Or.inr h)
      · simp only [put, if_neg hname, List.mem_cons] at h ⊢
        rcases h with rfl | h
        · exact Or.inr (Or.inl rfl)
        · exact (ih h).imp_right Or.inr

theorem put_of_not_mem (h : name ∉ members.map Prod.fst) :
    members.put name value = members ++ [(name, value)] := by
  induction members with
  | nil => rfl
  | cons member rest ih =>
      obtain ⟨first, held⟩ := member
      obtain ⟨hne, hrest⟩ : name ≠ first ∧ name ∉ rest.map Prod.fst := by simpa using h
      rw [put, if_neg hne.symm, ih hrest]
      rfl

/-- Where no name comes twice, the members are written as they stand. -/
theorem ofList_eq_self {list : List (String × α)} (h : (list.map Prod.fst).Nodup) :
    ofList list = list := by
  have hfold : ∀ members : Members α, ((members ++ list).map Prod.fst).Nodup →
      list.foldl (fun members member => members.put member.1 member.2) members =
        members ++ list := by
    clear h
    induction list with
    | nil => exact fun members _ => (List.append_nil members).symm
    | cons member rest ih =>
        intro members h
        have hnew : member.1 ∉ members.map Prod.fst := by
          rw [List.map_append, List.map_cons, List.nodup_append] at h
          exact fun hmem => h.2.2 _ hmem _ List.mem_cons_self rfl
        rw [List.foldl_cons, put_of_not_mem hnew, ih _ (by simpa using h)]
        simp
  exact hfold [] h

end Members

end Logbook
