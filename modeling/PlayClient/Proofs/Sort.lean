set_option autoImplicit false

namespace PlayClient.Sort

variable {α κ : Type}

-- A merge sort leaves the items of a class as they stand when it finds no
-- two of them out of order.
theorem merge_sort_filter (le : α → α → Bool) (trans : ∀ a b c, le a b = true → le b c = true → le a c = true)
    (total : ∀ a b, (le a b || le b a) = true) (inClass : α → Bool) (items : List α)
    (tied : ∀ a ∈ items, ∀ b ∈ items, inClass a = true → inClass b = true → le a b = true) :
    (items.mergeSort le).filter inClass = items.filter inClass := by
  have ordered : (items.filter inClass).Pairwise (fun a b => le a b = true) := by
    apply List.pairwise_of_forall_mem_list
    intro a left b right
    obtain ⟨memberA, classA⟩ := List.mem_filter.mp left
    obtain ⟨memberB, classB⟩ := List.mem_filter.mp right
    exact tied a memberA b memberB classA classB
  have kept : (items.filter inClass).Sublist (items.mergeSort le) :=
    List.sublist_mergeSort trans total ordered List.filter_sublist
  have inside : (items.filter inClass).Sublist ((items.mergeSort le).filter inClass) := by
    simpa using kept.filter inClass
  have count := ((List.mergeSort_perm items le).filter inClass).length_eq
  exact (inside.eq_of_length count.symm).symm

section Unique

variable [BEq κ] [LawfulBEq κ] (key : α → κ)

def SameClasses (left right : List α) : Prop :=
  ∀ k, left.filter (fun item => key item == k) = right.filter (fun item => key item == k)

theorem same_classes_mem (left right : List α) (same : SameClasses key left right) (item : α)
    (member : item ∈ left) : item ∈ right := by
  have inClass : item ∈ left.filter (fun other => key other == key item) :=
    List.mem_filter.mpr ⟨member, beq_self_eq_true _⟩
  rw [same (key item)] at inClass
  exact (List.mem_filter.mp inClass).1

theorem same_classes_tail (a b : α) (left right : List α) (same : SameClasses key (a :: left) (b :: right))
    (keys : key a = key b) : a = b ∧ SameClasses key left right := by
  have heads : a = b := by
    have here := same (key b)
    simp only [List.filter_cons, keys, beq_self_eq_true, if_true] at here
    exact (List.cons.inj here).1
  refine ⟨heads, ?_⟩
  intro k
  have here := same k
  subst heads
  cases hit : key a == k with
  | true =>
      simp only [List.filter_cons, hit, if_true] at here
      exact (List.cons.inj here).2
  | false => simpa only [List.filter_cons, hit, Bool.false_eq_true, if_false] using here

-- Where no key comes twice, an item has its class to itself, wherever it stands.
theorem distinct_same_classes (left right : List α) (perm : left.Perm right) (distinct : (left.map key).Nodup) :
    SameClasses key left right := by
  intro k
  have matched := perm.filter (fun item => key item == k)
  have alone : ((left.filter fun item => key item == k).map key).Nodup :=
    distinct.sublist (List.filter_sublist.map key)
  have inClass : ∀ item ∈ left.filter (fun item => key item == k), key item = k :=
    fun item member => eq_of_beq (List.mem_filter.mp member).2
  generalize left.filter (fun item => key item == k) = chosen at matched alone inClass
  match chosen with
  | [] => exact matched.nil_eq
  | [only] => exact List.singleton_perm.mp matched
  | first :: second :: rest =>
      have firstKey := inClass first List.mem_cons_self
      have secondKey := inClass second (List.mem_cons_of_mem first List.mem_cons_self)
      simp [firstKey, secondKey] at alone

-- Equal items cannot be told apart, so an order has no say where items are their own keys.
theorem perm_same_classes [BEq α] [LawfulBEq α] (left right : List α) (perm : left.Perm right) :
    SameClasses id left right := by
  intro k
  show left.filter (· == k) = right.filter (· == k)
  rw [List.filter_beq, List.filter_beq, perm.count_eq]

-- Sorted lists are equal when they agree on each class of items of one key.
theorem sorted_unique (before : κ → κ → Prop) (antisymm : ∀ a b, before a b → before b a → a = b)
    (left right : List α) (leftSorted : left.Pairwise (fun a b => before (key a) (key b)))
    (rightSorted : right.Pairwise (fun a b => before (key a) (key b))) (same : SameClasses key left right) :
    left = right := by
  induction left generalizing right with
  | nil =>
      have empty : ∀ item, item ∉ right := by
        intro item member
        exact absurd (same_classes_mem key right [] (fun k => (same k).symm) item member) List.not_mem_nil
      exact (List.eq_nil_iff_forall_not_mem.mpr empty).symm
  | cons a rest ih =>
      cases right with
      | nil => exact absurd (same_classes_mem key _ _ same a List.mem_cons_self) List.not_mem_nil
      | cons b others =>
          rw [List.pairwise_cons] at leftSorted rightSorted
          have keys : key a = key b := by
            rcases List.mem_cons.mp (same_classes_mem key _ _ same a List.mem_cons_self) with equal | late
            · rw [equal]
            rcases List.mem_cons.mp (same_classes_mem key _ _ (fun k => (same k).symm) b List.mem_cons_self)
              with equal | later
            · rw [equal]
            · exact antisymm _ _ (leftSorted.1 b later) (rightSorted.1 a late)
          obtain ⟨heads, tails⟩ := same_classes_tail key a b rest others same keys
          rw [heads, ih others leftSorted.2 rightSorted.2 tails]

end Unique

/-! ## Neighbours -/

def DirectlyBefore (a b : α) (items : List α) : Prop := ∃ front back, items = front ++ a :: b :: back

-- Two items of an ordered list meet exactly when nothing else in it comes between them.
theorem directly_before_iff (before : α → α → Prop) (antisymm : ∀ a b, before a b → before b a → a = b)
    (items : List α) (ordered : items.Pairwise before) (a b : α) (left : a ∈ items) (right : b ∈ items)
    (less : before a b) (apart : a ≠ b) :
    DirectlyBefore a b items ↔ ∀ c ∈ items, before a c → before c b → c = a ∨ c = b := by
  constructor
  · rintro ⟨front, back, split⟩ c member above below
    rw [split, List.pairwise_append, List.pairwise_cons, List.pairwise_cons] at ordered
    obtain ⟨-, ⟨-, after, -⟩, across⟩ := ordered
    simp only [split, List.mem_append, List.mem_cons] at member
    rcases member with early | same | same | late
    · exact Or.inl (antisymm c a (across c early a List.mem_cons_self) above)
    · exact Or.inl same
    · exact Or.inr same
    · exact Or.inr (antisymm c b below (after c late))
  · intro alone
    -- The item in front of the first `b` comes after `a` or is `a`, and it is not `b`.
    obtain ⟨front, back, split, first⟩ := List.eq_append_cons_of_mem right
    rw [split, List.pairwise_append] at ordered
    obtain ⟨inner, outer, across⟩ := ordered
    have early : a ∈ front := by
      rw [split, List.mem_append, List.mem_cons] at left
      rcases left with early | same | late
      · exact early
      · exact absurd same apart
      · exact absurd (antisymm a b less ((List.pairwise_cons.mp outer).1 a late)) apart
    obtain ⟨start, c, last⟩ := (List.eq_nil_or_concat front).resolve_left (List.ne_nil_of_mem early)
    rw [List.concat_eq_append] at last
    subst last
    rw [List.pairwise_append] at inner
    have found : c = a := by
      rcases List.mem_append.mp early with earlier | same
      · have above := inner.2.2 a earlier c List.mem_cons_self
        have below := across c (by simp) b List.mem_cons_self
        exact (alone c (by simp [split]) above below).resolve_right (fun same => first (by simp [same]))
      · exact (List.mem_singleton.mp same).symm
    exact ⟨start, back, by rw [split, found, List.append_assoc]; rfl⟩

end PlayClient.Sort
