/-
This file keeps an index from elements to their groups in step with the member lists of the groups.
-/

import Mathlib.Data.List.Nodup

namespace AppSvr.Grouping

variable {Element Group : Type*} {index : Element → Option Group}
  {members : Group → Option (List Element)}

/-- The index names exactly the group that lists the element, once. -/
structure IsGrouping (index : Element → Option Group) (members : Group → Option (List Element)) :
    Prop where
  mem_iff : ∀ element group, index element = some group ↔
    ∃ list, members group = some list ∧ element ∈ list
  nodup : ∀ group list, members group = some list → list.Nodup

theorem IsGrouping.empty : IsGrouping (fun _ : Element => none) (fun _ : Group => none) where
  mem_iff := by simp
  nodup := by simp

/-- A listed element is indexed. -/
theorem IsGrouping.index_eq (grouping : IsGrouping index members) {element : Element}
    {group : Group} {list : List Element} (found : members group = some list)
    (member : element ∈ list) : index element = some group :=
  (grouping.mem_iff element group).mpr ⟨list, found, member⟩

/-- An element that is not indexed is not listed. -/
theorem IsGrouping.notMem (grouping : IsGrouping index members) {element : Element}
    (free : index element = none) {group : Group} {list : List Element}
    (found : members group = some list) : element ∉ list := by
  intro member
  rw [grouping.index_eq found member] at free
  cases free

/-- An indexed element is in no other group. -/
theorem IsGrouping.unique (grouping : IsGrouping index members) {element : Element}
    {group other : Group} {list : List Element} (indexed : index element = some group)
    (found : members other = some list) (member : element ∈ list) : other = group := by
  have same := grouping.index_eq found member
  rw [indexed] at same
  exact (Option.some.inj same).symm

section Change

variable [DecidableEq Group]

/-- The other groups keep their lists when one list changes. -/
theorem IsGrouping.nodup_update (grouping : IsGrouping index members) {group : Group}
    {entry : Option (List Element)} (distinct : ∀ list ∈ entry, list.Nodup) (other : Group)
    (list : List Element) (found : Function.update members group entry other = some list) :
    list.Nodup := by
  by_cases same : other = group
  · rw [same, Function.update_self] at found
    exact distinct list found
  · rw [Function.update_of_ne same] at found
    exact grouping.nodup other list found

/-- A new group starts without elements. -/
theorem IsGrouping.found (grouping : IsGrouping index members) {group : Group}
    (free : members group = none) :
    IsGrouping index (Function.update members group (some [])) where
  mem_iff element other := by
    rw [grouping.mem_iff]
    by_cases same : other = group
    · simp [same, free]
    · rw [Function.update_of_ne same]
  nodup := grouping.nodup_update (by simp)

/-- A group without elements is dropped. -/
theorem IsGrouping.drop (grouping : IsGrouping index members) {group : Group}
    (found : members group = some []) :
    IsGrouping index (Function.update members group none) where
  mem_iff element other := by
    rw [grouping.mem_iff]
    by_cases same : other = group
    · simp [same, found]
    · rw [Function.update_of_ne same]
  nodup := grouping.nodup_update (by simp)

variable [DecidableEq Element]

/-- An element without a group joins one. -/
theorem IsGrouping.join (grouping : IsGrouping index members) {element : Element} {group : Group}
    {list : List Element} (free : index element = none) (found : members group = some list) :
    IsGrouping (Function.update index element (some group))
      (Function.update members group (some (list ++ [element]))) where
  mem_iff other group' := by
    by_cases same : other = element <;> by_cases sameGroup : group' = group
    · simp [same, sameGroup]
    · rw [same, Function.update_self, Function.update_of_ne sameGroup]
      refine ⟨fun chosen => absurd (Option.some.inj chosen).symm sameGroup, ?_⟩
      rintro ⟨list', found', member⟩
      exact absurd member (grouping.notMem free found')
    · rw [Function.update_of_ne same, sameGroup, Function.update_self, grouping.mem_iff]
      simp [found, same]
    · rw [Function.update_of_ne same, Function.update_of_ne sameGroup, grouping.mem_iff]
  nodup := by
    refine grouping.nodup_update fun list' same => ?_
    obtain rfl := Option.some.inj same
    have fresh := grouping.notMem free found
    rw [← List.concat_eq_append]
    exact List.Nodup.concat fresh (grouping.nodup group list found)

/-- A member leaves its group. -/
theorem IsGrouping.leave (grouping : IsGrouping index members) {element : Element} {group : Group}
    {list : List Element} (found : members group = some list) (member : element ∈ list) :
    IsGrouping (Function.update index element none)
      (Function.update members group (some (list.erase element))) where
  mem_iff other group' := by
    have distinct := grouping.nodup group list found
    by_cases same : other = element <;> by_cases sameGroup : group' = group
    · simp [same, sameGroup, distinct.mem_erase_iff]
    · rw [same, Function.update_self, Function.update_of_ne sameGroup]
      refine ⟨nofun, ?_⟩
      rintro ⟨list', found', member'⟩
      exact absurd (grouping.unique (grouping.index_eq found member) found' member') sameGroup
    · rw [Function.update_of_ne same, sameGroup, Function.update_self, grouping.mem_iff]
      simp [found, distinct.mem_erase_iff, same]
    · rw [Function.update_of_ne same, Function.update_of_ne sameGroup, grouping.mem_iff]
  nodup := by
    refine grouping.nodup_update fun list' same => ?_
    obtain rfl := Option.some.inj same
    exact (grouping.nodup group list found).erase element

end Change

end AppSvr.Grouping
