import BookmarkSync.Proofs.Json.Written

/-!
# `BookmarkSync.Proofs.Json.Order` — members and their keys

An object that was read from a text has its members in the order of their keys, and no key twice. What is
under a key is then told by looking it up, and where the text did not repeat a key itself, nothing is lost:
the members of the value are looked up like those of the text (`lookup_sorted`).
-/

namespace BookmarkSync.Json

open BookmarkSync.Text (Symbol)

/-! ## Looking up keys -/

section Lookup

variable {α β : Type} {k : String} {ms : List (String × α)}

/-- A key is looked up in vain if no member has it. -/
theorem lookup_eq_none_iff : ms.lookup k = none ↔ k ∉ ms.map Prod.fst := by
  rw [List.lookup_eq_none_iff]
  constructor
  · intro h hmem
    obtain ⟨m, hm, rfl⟩ := List.mem_map.mp hmem
    simpa using h m hm
  · intro h m hm
    simp only [bne_iff_ne, ne_eq]
    rintro rfl
    exact h (List.mem_map_of_mem hm)

/-- A member hides none with another key. -/
theorem lookup_cons_of_ne {k' : String} (h : k ≠ k') (v : α) : ((k', v) :: ms).lookup k = ms.lookup k := by
  rw [List.lookup_cons, beq_false_of_ne h]

/-- Values can be changed before they are looked up, or afterwards. -/
theorem lookup_map (f : α → β) (k : String) (ms : List (String × α)) :
    (ms.map fun m => (m.1, f m.2)).lookup k = (ms.lookup k).map f := by
  induction ms with
  | nil => rfl
  | cons m ms ih =>
    obtain ⟨k', v⟩ := m
    by_cases h : k = k'
    · subst h
      simp
    · rw [List.map_cons, lookup_cons_of_ne h, lookup_cons_of_ne h, ih]

/-- What is looked up is a member. -/
theorem mem_of_lookup {v : α} (h : ms.lookup k = some v) : (k, v) ∈ ms := by
  obtain ⟨front, back, rfl, -⟩ := List.lookup_eq_some_iff.mp h
  exact List.mem_append_right _ List.mem_cons_self

end Lookup

namespace Value

/-! ## Members in order -/

/-- The members stand in the order of their keys, and no key stands there twice. -/
def Ascending {α : Type} (ms : List (String × α)) : Prop := ms.Pairwise fun m n => m.1 < n.1

/-- Keys that ascend do not repeat. -/
theorem Ascending.nodup {α : Type} {ms : List (String × α)} (h : Ascending ms) : (ms.map Prod.fst).Nodup := by
  rw [List.Nodup, List.pairwise_map]
  refine List.Pairwise.imp ?_ h
  intro m n hlt heq
  rw [heq] at hlt
  exact String.lt_irrefl _ hlt

/-- Among members in order, what is found first is found under the least key. -/
theorem Ascending.findSome?_eq_some_iff {α β : Type} {ms : List (String × α)} (h : Ascending ms)
    {f : String × α → Option β} {b : β} :
    ms.findSome? f = some b ↔ ∃ m ∈ ms, f m = some b ∧ ∀ n ∈ ms, f n ≠ none → m.1 ≤ n.1 := by
  rw [List.findSome?_eq_some_iff]
  constructor
  · -- what stands before the first hit has none, and what stands after it has a larger key
    rintro ⟨front, m, back, rfl, hm, hfront⟩
    refine ⟨m, by simp, hm, ?_⟩
    have hback := List.pairwise_cons.mp (List.pairwise_append.mp h).2.1
    intro n hn hfound
    rcases List.mem_append.mp hn with hn | hn
    · exact absurd (hfront n hn) hfound
    · rcases List.mem_cons.mp hn with rfl | hn
      · exact String.le_refl _
      · exact String.not_lt.mp (String.lt_asymm (hback.1 n hn))
  · rintro ⟨m, hm, hfound, hleast⟩
    obtain ⟨front, back, rfl⟩ := List.append_of_mem hm
    refine ⟨front, m, back, rfl, hfound, ?_⟩
    intro n hn
    have hlt : n.1 < m.1 := (List.pairwise_append.mp h).2.2 n hn m List.mem_cons_self
    refine Decidable.byContradiction fun hne => ?_
    exact String.not_lt.mpr (hleast n (List.mem_append_left _ hn) (by simpa using hne)) hlt

section Members

variable {k : String} {v : Value} {ms : List (String × Value)}

/-- A member that is set is found, and all others as before. -/
theorem lookup_setMember (k' : String) :
    (setMember k v ms).lookup k' = if k' = k then some v else ms.lookup k' := by
  induction ms with
  | nil =>
    by_cases h : k' = k
    · simp [setMember, h]
    · rw [setMember, lookup_cons_of_ne h, if_neg h]
  | cons m ms ih =>
    obtain ⟨l, w⟩ := m
    rw [setMember]
    -- a smaller key goes in front, an equal one is replaced, and a larger one is passed by
    split
    · by_cases h : k' = k
      · simp [h]
      · rw [lookup_cons_of_ne h, if_neg h]
    · split
      · next heq =>
        subst heq
        by_cases h : k' = k
        · simp [h]
        · rw [lookup_cons_of_ne h, if_neg h, lookup_cons_of_ne h]
      · next hne =>
        by_cases hl : k' = l
        · subst hl
          rw [if_neg (Ne.symm hne)]
          simp
        · rw [lookup_cons_of_ne hl, lookup_cons_of_ne hl, ih]

/-- Setting a member brings no other one in. -/
theorem mem_setMember {m : String × Value} (h : m ∈ setMember k v ms) : m = (k, v) ∨ m ∈ ms := by
  induction ms with
  | nil => exact .inl (List.mem_singleton.mp h)
  | cons n ms ih =>
    rw [setMember] at h
    split at h
    · exact List.mem_cons.mp h
    · split at h
      · rcases List.mem_cons.mp h with rfl | h
        · exact .inl rfl
        · exact .inr (List.mem_cons_of_mem _ h)
      · rcases List.mem_cons.mp h with rfl | h
        · exact .inr List.mem_cons_self
        · exact (ih h).imp_right (List.mem_cons_of_mem _)

/-- A member is set where its key belongs. -/
theorem ascending_setMember (h : Ascending ms) : Ascending (setMember k v ms) := by
  induction ms with
  | nil => exact List.pairwise_singleton _ _
  | cons n ms ih =>
    obtain ⟨l, w⟩ := n
    obtain ⟨hfirst, hrest⟩ := List.pairwise_cons.mp h
    rw [setMember]
    split
    · next hlt =>
      refine List.pairwise_cons.mpr ⟨?_, h⟩
      intro m hm
      rcases List.mem_cons.mp hm with rfl | hm
      · exact hlt
      · exact String.lt_trans hlt (hfirst m hm)
    · next hnot =>
      split
      · next heq =>
        subst heq
        exact List.pairwise_cons.mpr ⟨hfirst, hrest⟩
      · next hne =>
        -- neither smaller nor equal, so the new key goes further back
        have hlt : l < k := by
          refine Decidable.byContradiction fun hnot' => hne ?_
          exact String.le_antisymm (String.not_lt.mp hnot') (String.not_lt.mp hnot)
        refine List.pairwise_cons.mpr ⟨?_, ih hrest⟩
        intro m hm
        rcases mem_setMember hm with rfl | hm
        · exact hlt
        · exact hfirst m hm

/-- Members that are set one after the other stay in order. -/
theorem ascending_foldl (new : List (String × Value)) (h : Ascending ms) :
    Ascending (new.foldl (fun acc m => setMember m.1 m.2 acc) ms) := by
  induction new generalizing ms with
  | nil => exact h
  | cons m new ih => exact ih (ascending_setMember h)

/-- So members that are set one after the other end up in the order of their keys. -/
theorem ascending_sorted (ms : List (String × Value)) : Ascending (sorted ms) := ascending_foldl ms .nil

/-- Sorting makes up no member. -/
theorem mem_foldl {new : List (String × Value)} {m : String × Value}
    (h : m ∈ new.foldl (fun acc m => setMember m.1 m.2 acc) ms) : m ∈ new ∨ m ∈ ms := by
  induction new generalizing ms with
  | nil => exact .inr h
  | cons n new ih =>
    rcases ih h with h | h
    · exact .inl (List.mem_cons_of_mem n h)
    · rcases mem_setMember h with rfl | h
      · exact .inl List.mem_cons_self
      · exact .inr h

theorem mem_of_mem_sorted {m : String × Value} (h : m ∈ sorted ms) : m ∈ ms :=
  (mem_foldl h).resolve_right List.not_mem_nil

/-- If no key repeats, each of the members is found after they are set, and hides what was there. -/
theorem lookup_foldl {new : List (String × Value)} (hnodup : (new.map Prod.fst).Nodup) (k : String) :
    (new.foldl (fun acc m => setMember m.1 m.2 acc) ms).lookup k = (new.lookup k).or (ms.lookup k) := by
  induction new generalizing ms with
  | nil => rfl
  | cons m new ih =>
    obtain ⟨l, w⟩ := m
    rw [List.map_cons, List.nodup_cons] at hnodup
    rw [List.foldl_cons, ih hnodup.2, lookup_setMember]
    by_cases h : k = l
    · -- a key that comes only once keeps what was set for it
      subst h
      rw [lookup_eq_none_iff.mpr hnodup.1]
      simp
    · rw [if_neg h, lookup_cons_of_ne h]

/-- **Where no key repeats, members are found in order as they were out of order.** -/
theorem lookup_sorted (hnodup : (ms.map Prod.fst).Nodup) (k : String) : (sorted ms).lookup k = ms.lookup k := by
  rw [sorted, lookup_foldl hnodup]
  exact Option.or_none

end Members

/-! ## Values with all members in order -/

/-- The members of every object in the value stand in the order of their keys. -/
inductive InKeyOrder : Value → Prop
  | null : InKeyOrder .null
  | bool (b : Bool) : InKeyOrder (.bool b)
  | number (n : Number) : InKeyOrder (.number n)
  | text (s : String) : InKeyOrder (.text s)
  | list {vs : List Value} (h : ∀ v ∈ vs, InKeyOrder v) : InKeyOrder (.list vs)
  | object {ms : List (String × Value)} (hkeys : Ascending ms) (h : ∀ m ∈ ms, InKeyOrder m.2) :
      InKeyOrder (.object ms)

/-- In a value in order the members of an object ascend, and what is inside is in order itself. -/
theorem InKeyOrder.ascending {ms : List (String × Value)} (h : (Value.object ms).InKeyOrder) :
    Ascending ms := by
  cases h with
  | object hkeys h => exact hkeys

theorem InKeyOrder.items {vs : List Value} (h : (Value.list vs).InKeyOrder) : ∀ v ∈ vs, v.InKeyOrder := by
  cases h with
  | list h => exact h

/-- Members are put in order one by one, before they are sorted. -/
theorem membersInOrder_eq_map (ms : List (String × Value)) :
    membersInOrder ms = ms.map fun m => (m.1, m.2.inOrder) := by
  induction ms with
  | nil => rfl
  | cons m ms ih => rw [membersInOrder, ih, List.map_cons]

/-- **Putting a value in order leaves it in order**, down to the innermost objects. -/
theorem inKeyOrder_inOrder (v : Value) : v.inOrder.InKeyOrder := by
  induction v using Value.induction with
  | null => exact .null
  | bool b => exact .bool b
  | number n => exact .number n
  | text s => exact .text s
  | list vs ih =>
    rw [inOrder, itemsInOrder_eq_map]
    exact .list (List.forall_mem_map.mpr ih)
  | object ms ih =>
    rw [inOrder, membersInOrder_eq_map]
    refine .object (ascending_sorted _) ?_
    intro m hm
    obtain ⟨n, hn, rfl⟩ := List.mem_map.mp (mem_of_mem_sorted hm)
    exact ih n hn

/-- **What a text writes has its members in order.** -/
theorem inKeyOrder_of_parse {s : String} {v : Value} (h : parse s = .ok v) : v.InKeyOrder := by
  obtain ⟨w, -, rfl⟩ := exists_written_of_parse h
  exact inKeyOrder_inOrder w

end Value

/-! ## Texts that repeat no key -/

namespace Tree

/-- No object in the tree has two members of one key, whichever way the keys are spelled. -/
inductive RepeatsNoKey : Tree → Prop
  | null : RepeatsNoKey .null
  | bool (b : Bool) : RepeatsNoKey (.bool b)
  | number (n : Lexeme Number) : RepeatsNoKey (.number n)
  | text (t : Lexeme String) : RepeatsNoKey (.text t)
  | list {items : List Tree} {close : Close} (h : ∀ t ∈ items, RepeatsNoKey t) :
      RepeatsNoKey (.list items close)
  | object {members : List (Lexeme String × Tree)} {close : Close}
      (hkeys : (members.map fun m => m.1.value).Pairwise (· ≠ ·)) (h : ∀ m ∈ members, RepeatsNoKey m.2) :
      RepeatsNoKey (.object members close)
  | fault (f : Fault) : RepeatsNoKey (.fault f)

/-- A tree repeats no key if none of its parts does, and its own keys do not repeat. -/
theorem repeatsNoKey_list_iff {vs : List Value} :
    (Value.list vs).tree.RepeatsNoKey ↔ ∀ v ∈ vs, v.tree.RepeatsNoKey := by
  rw [Value.tree, Value.trees_eq_map]
  constructor
  · intro h
    cases h with
    | list h => exact List.forall_mem_map.mp h
  · exact fun h => .list (List.forall_mem_map.mpr h)

theorem repeatsNoKey_object_iff {ms : List (String × Value)} :
    (Value.object ms).tree.RepeatsNoKey ↔ (ms.map Prod.fst).Nodup ∧ ∀ m ∈ ms, m.2.tree.RepeatsNoKey := by
  have hkeys : ((ms.map fun m => (Lexeme.ofValue m.1, m.2.tree)).map fun m => m.1.value).Pairwise (· ≠ ·) ↔
      (ms.map Prod.fst).Nodup := by
    rw [List.map_map, List.Nodup, List.pairwise_map, List.pairwise_map]
    simp [Lexeme.ofValue]
  rw [Value.tree, Value.memberTrees_eq_map]
  constructor
  · intro h
    cases h with
    | object hspelled h => exact ⟨hkeys.mp hspelled, fun m hm => h _ (List.mem_map_of_mem hm)⟩
  · rintro ⟨hnodup, h⟩
    refine .object (hkeys.mpr hnodup) fun m hm => ?_
    obtain ⟨n, hn, rfl⟩ := List.mem_map.mp hm
    exact h n hn

/-- A reader passes over a written value without fault. -/
theorem skip_tree (v : Value) : skip v.tree = .ok () := by
  -- the items' own induction is nested in that of the list, and likewise for the members
  induction v using Value.induction with
  | null | bool | number | text =>
    unfold Value.tree skip
    rfl
  | list vs ih =>
    have hitems : skipItems (Value.trees vs) = .ok () := by
      induction vs with
      | nil => rfl
      | cons v vs ihvs =>
        rw [List.forall_mem_cons] at ih
        simp only [Value.trees, skipItems, ih.1, ihvs ih.2, bind, Except.bind]
    simp only [Value.tree, skip, hitems, bind, Except.bind]
    rfl
  | object ms ih =>
    have hmembers : skipMembers (Value.memberTrees ms) = .ok () := by
      induction ms with
      | nil => rfl
      | cons m ms ihms =>
        obtain ⟨k, v⟩ := m
        rw [List.forall_mem_cons] at ih
        have hkey : (Lexeme.ofValue k).skip = .ok () := rfl
        simp only [Value.memberTrees, skipMembers, hkey, ih.1, ihms ih.2, bind, Except.bind]
    simp only [Value.tree, skip, hmembers, bind, Except.bind]
    rfl

end Tree

end BookmarkSync.Json
