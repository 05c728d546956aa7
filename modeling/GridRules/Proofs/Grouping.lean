import GridRules.Cells
import Mathlib.Data.List.Induction

/-!
# Groups of keyed items

The groups of a list hold exactly its items, and no group is empty. They come about item by item:
each one joins the group of its key or begins a group behind the others. So items that are given in
increasing order are in increasing order within each group, and the groups stand in the order of
their first items.
-/

namespace GridRules

variable {κ α : Type} [DecidableEq κ] {items : List (κ × α)}

theorem mem_grouped_iff {key : κ} {group : List α} :
    (key, group) ∈ grouped items ↔ key ∈ items.map Prod.fst ∧ group = itemsOf key items := by
  simp only [grouped, List.mem_map (f := fun key => (key, itemsOf key items)), Prod.mk.injEq,
    List.mem_eraseDups]
  constructor
  · rintro ⟨other, hmem, rfl, rfl⟩
    exact ⟨hmem, rfl⟩
  · rintro ⟨hmem, rfl⟩
    exact ⟨key, hmem, rfl, rfl⟩

/-- An item is in the group of its key. -/
theorem exists_mem_grouped {key : κ} {a : α} :
    (∃ group, (key, group) ∈ grouped items ∧ a ∈ group) ↔ (key, a) ∈ items := by
  simp only [mem_grouped_iff]
  constructor
  · rintro ⟨group, ⟨-, rfl⟩, ha⟩
    exact mem_itemsOf.1 ha
  · intro h
    exact ⟨_, ⟨List.mem_map_of_mem h, rfl⟩, mem_itemsOf.2 h⟩

theorem ne_nil_of_mem_grouped {key : κ} {group : List α} (h : (key, group) ∈ grouped items) :
    group ≠ [] := by
  obtain ⟨hkey, rfl⟩ := mem_grouped_iff.1 h
  obtain ⟨⟨_, a⟩, hmem, rfl⟩ := List.mem_map.1 hkey
  exact List.ne_nil_of_mem (mem_itemsOf.2 hmem)

theorem mem_of_mem_grouped {key : κ} {group : List α} (h : (key, group) ∈ grouped items) {a : α}
    (ha : a ∈ group) : (key, a) ∈ items :=
  exists_mem_grouped.1 ⟨group, h, ha⟩

/-! ### Items one after the other -/

/-- The groups after one more item. It joins the group of its key; if there is none, it begins one
behind the others. -/
def insertItem : List (κ × List α) → κ × α → List (κ × List α)
  | [], item => [(item.1, [item.2])]
  | group :: groups, item =>
    if group.1 = item.1 then (group.1, group.2 ++ [item.2]) :: groups
    else group :: insertItem groups item

/-- One more item changes one group at its end, or adds one group at the end. -/
theorem insertItem_cases (groups : List (κ × List α)) (item : κ × α) :
    (∃ front group back, groups = front ++ (item.1, group) :: back ∧
      insertItem groups item = front ++ (item.1, group ++ [item.2]) :: back) ∨
    (item.1 ∉ groups.map Prod.fst ∧ insertItem groups item = groups ++ [(item.1, [item.2])]) := by
  induction groups with
  | nil => exact .inr ⟨by simp, rfl⟩
  | cons first groups ih =>
      by_cases hfirst : first.1 = item.1
      · exact .inl ⟨[], first.2, groups, by rw [← hfirst]; rfl, by simp [insertItem, hfirst]⟩
      · rcases ih with ⟨front, group, back, rfl, hinsert⟩ | ⟨hkey, hinsert⟩
        · exact .inl ⟨first :: front, group, back, rfl, by simp [insertItem, hfirst, hinsert]⟩
        · exact .inr ⟨by simpa [Ne.symm hfirst] using hkey, by simp [insertItem, hfirst, hinsert]⟩

theorem eraseDups_concat (keys : List κ) (key : κ) :
    (keys ++ [key]).eraseDups = keys.eraseDups ++ if key ∈ keys then [] else [key] := by
  rw [List.eraseDups_append]
  by_cases hkey : key ∈ keys <;> simp [List.removeAll, hkey, List.eraseDups_cons]

theorem nodup_eraseDups (keys : List κ) : keys.eraseDups.Nodup := by
  induction keys using List.reverseRecOn with
  | nil => simp
  | append_singleton keys key ih =>
      rw [eraseDups_concat]
      by_cases hkey : key ∈ keys
      · simpa [hkey] using ih
      · have hne : ∀ other ∈ keys, key ≠ other := fun other hmem heq => hkey (heq ▸ hmem)
        simpa [hkey, List.nodup_append, eq_comm] using ⟨ih, hne⟩

theorem itemsOf_concat (key : κ) (items : List (κ × α)) (item : κ × α) :
    itemsOf key (items ++ [item]) =
      itemsOf key items ++ if key = item.1 then [item.2] else [] := by
  by_cases hkey : key = item.1
  · simp [itemsOf, hkey]
  · simp [itemsOf, hkey, Ne.symm hkey]

/-- Among groups of different keys one more item is added to one group at most. -/
theorem insertItem_map {keys : List κ} (h : keys.Nodup) (group : κ → List α) (item : κ × α) :
    insertItem (keys.map fun key => (key, group key)) item =
      (keys.map fun key => (key, group key ++ if key = item.1 then [item.2] else [])) ++
        if item.1 ∈ keys then [] else [(item.1, [item.2])] := by
  induction keys with
  | nil => rfl
  | cons first keys ih =>
      obtain ⟨hfirst, hkeys⟩ := List.nodup_cons.1 h
      by_cases hitem : first = item.1
      · subst hitem
        have hothers : ∀ key ∈ keys, key ≠ item.1 := fun key hmem heq => hfirst (heq ▸ hmem)
        simpa [insertItem] using hothers
      · simp [insertItem, hitem, Ne.symm hitem, ih hkeys]

theorem itemsOf_eq_nil {key : κ} (h : key ∉ items.map Prod.fst) : itemsOf key items = [] :=
  List.eq_nil_iff_forall_not_mem.2 fun _ ha => h (List.mem_map_of_mem (mem_itemsOf.1 ha))

theorem grouped_concat (items : List (κ × α)) (item : κ × α) :
    grouped (items ++ [item]) = insertItem (grouped items) item := by
  simp only [grouped, insertItem_map (nodup_eraseDups _), List.map_append, List.map_cons,
    List.map_nil, eraseDups_concat, itemsOf_concat, List.mem_eraseDups]
  by_cases hkey : item.1 ∈ items.map Prod.fst
  · simp only [if_pos hkey, List.map_nil]
  · simp [if_neg hkey, itemsOf_eq_nil hkey]

/-- Grouping takes the items in their order. -/
theorem grouped_eq_foldl (items : List (κ × α)) : grouped items = items.foldl insertItem [] := by
  induction items using List.reverseRecOn with
  | nil => rfl
  | append_singleton items item ih =>
      rw [grouped_concat, ih, List.foldl_append]
      rfl

/-! ### Items in increasing order -/

/-- Groups into which increasing members fall: each key has one, none is empty, the members of a
group are in increasing order, and so are the first ones of the groups. -/
structure IsOrdered (before : α → α → Prop) (members : List α) (groups : List (κ × List α)) :
    Prop where
  keys : (groups.map Prod.fst).Nodup
  nonempty : ∀ group ∈ groups, group.2 ≠ []
  within : ∀ group ∈ groups, group.2.Pairwise before
  firsts : (groups.filterMap fun group => group.2.head?).Pairwise before
  perm : (groups.flatMap Prod.snd).Perm members

section Steps

omit [DecidableEq κ]

variable {before : α → α → Prop} {members : List α} {groups : List (κ × List α)}

theorem IsOrdered.nil : IsOrdered before [] ([] : List (κ × List α)) where
  keys := .nil
  nonempty := by simp
  within := by simp
  firsts := .nil
  perm := .nil

theorem IsOrdered.mem_of_mem (h : IsOrdered before members groups) {group : κ × List α}
    (hgroup : group ∈ groups) {a : α} (ha : a ∈ group.2) : a ∈ members :=
  h.perm.mem_iff.1 (List.mem_flatMap_of_mem hgroup ha)

/-- A member behind all others keeps the order when it joins a group. -/
theorem IsOrdered.joins {key : κ} {group : List α} {front back : List (κ × List α)}
    (h : IsOrdered before members (front ++ (key, group) :: back)) {a : α}
    (ha : ∀ b ∈ members, before b a) :
    IsOrdered before (members ++ [a]) (front ++ (key, group ++ [a]) :: back) where
  keys := by simpa using h.keys
  nonempty := by
    obtain ⟨hfront, hrest⟩ := List.forall_mem_append.1 h.nonempty
    obtain ⟨-, hback⟩ := List.forall_mem_cons.1 hrest
    exact List.forall_mem_append.2 ⟨hfront, List.forall_mem_cons.2 ⟨by simp, hback⟩⟩
  within := by
    obtain ⟨hfront, hrest⟩ := List.forall_mem_append.1 h.within
    obtain ⟨hgroup, hback⟩ := List.forall_mem_cons.1 hrest
    refine List.forall_mem_append.2 ⟨hfront, List.forall_mem_cons.2 ⟨?_, hback⟩⟩
    refine List.pairwise_append.2 ⟨hgroup, List.pairwise_singleton _ _, ?_⟩
    intro b hb c hc
    obtain rfl := List.mem_singleton.1 hc
    exact ha b (h.mem_of_mem (List.mem_append_right front List.mem_cons_self) hb)
  firsts := by
    -- The group is not empty, so its first member stays the first.
    obtain ⟨first, rest, rfl⟩ := List.exists_cons_of_ne_nil (h.nonempty (key, group) (by simp))
    simpa using h.firsts
  perm := by
    have hend : ([a] ++ back.flatMap Prod.snd).Perm (back.flatMap Prod.snd ++ [a]) :=
      List.perm_append_comm
    have hperm := h.perm.append_right [a]
    simp only [List.flatMap_append, List.flatMap_cons, List.append_assoc] at hperm ⊢
    exact ((hend.append_left group).append_left _).trans hperm

/-- A member behind all others keeps the order when it begins a group. -/
theorem IsOrdered.begins (h : IsOrdered before members groups) {key : κ}
    (hkey : key ∉ groups.map Prod.fst) {a : α} (ha : ∀ b ∈ members, before b a) :
    IsOrdered before (members ++ [a]) (groups ++ [(key, [a])]) where
  keys := by
    rw [List.map_append]
    refine List.nodup_append.2 ⟨h.keys, by simp, ?_⟩
    intro other hother new hnew heq
    obtain rfl : new = key := by simpa using hnew
    exact hkey (heq ▸ hother)
  nonempty := by simpa [or_imp, forall_and] using h.nonempty
  within := by simpa [or_imp, forall_and] using h.within
  firsts := by
    rw [List.filterMap_append, List.pairwise_append]
    refine ⟨h.firsts, by simp, ?_⟩
    intro b hb c hc
    obtain ⟨group, hgroup, hhead⟩ := List.mem_filterMap.1 hb
    obtain rfl : c = a := by simpa using hc
    exact ha b (h.mem_of_mem hgroup (List.mem_of_mem_head? hhead))
  perm := by simpa using h.perm.append_right [a]

end Steps

/-- Items in increasing order fall into groups one after the other. -/
theorem IsOrdered.concat {before : α → α → Prop} {members : List α} {groups : List (κ × List α)}
    (h : IsOrdered before members groups) {item : κ × α}
    (hitem : ∀ a ∈ members, before a item.2) :
    IsOrdered before (members ++ [item.2]) (insertItem groups item) := by
  rcases insertItem_cases groups item with ⟨front, group, back, rfl, hinsert⟩ | ⟨hkey, hinsert⟩
  · rw [hinsert]
    exact h.joins hitem
  · rw [hinsert]
    exact h.begins hkey hitem

/-- Items in increasing order keep it in their groups, and it is the order of the groups. -/
theorem isOrdered_grouped {before : α → α → Prop} (h : (items.map Prod.snd).Pairwise before) :
    IsOrdered before (items.map Prod.snd) (grouped items) := by
  rw [grouped_eq_foldl]
  induction items using List.reverseRecOn with
  | nil => exact .nil
  | append_singleton items item ih =>
      rw [List.map_append, List.pairwise_append] at h
      rw [List.map_append, List.foldl_append]
      exact (ih h.1).concat fun a ha => h.2.2 a ha item.2 (by simp)

end GridRules
