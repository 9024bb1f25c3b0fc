import Mathlib.Data.List.Forall2

/-!
# Related lists

Two runs of one computation are compared list by list: the items at equal places are related
(`List.Forall₂`). The lemmas here say what a filter, a look-up or a map makes of related lists, and
that lists made item by item from related lists are related again. Lists whose items stand in another
order, or not equally often, can still be matched item by item (`Matched`). Lists that are made of one
list in two ways are equal if no item makes a difference. The last part is about lists that are made by
steps which may fail.
-/

namespace AccountAudit

variable {α β γ δ : Type} {r : α → β → Prop} {as : List α} {bs : List β}

/-- Lists made item by item from related lists are related. -/
theorem forall₂_square {s : α → γ → Prop} {t : β → δ → Prop} {q : γ → δ → Prop}
    (step : ∀ a b c d, r a b → s a c → t b d → q c d) {cs : List γ} {ds : List δ}
    (hr : List.Forall₂ r as bs) (hs : List.Forall₂ s as cs) (ht : List.Forall₂ t bs ds) :
    List.Forall₂ q cs ds := by
  -- The three relations have one shape, so the induction on one takes the others apart.
  induction hr generalizing cs ds with
  | nil =>
    cases hs
    cases ht
    exact .nil
  | cons head _ ih =>
    cases hs with
    | cons hs hss =>
      cases ht with
      | cons ht hts => exact .cons (step _ _ _ _ head hs ht) (ih hss hts)

theorem exists_left_of_forall₂ (h : List.Forall₂ r as bs) {b : β} (member : b ∈ bs) :
    ∃ a ∈ as, r a b := by
  induction h with
  | nil => cases member
  | cons head _ ih =>
    rcases List.mem_cons.1 member with rfl | member
    · exact ⟨_, List.mem_cons_self, head⟩
    · rcases ih member with ⟨a, inside, related⟩
      exact ⟨a, List.mem_cons_of_mem _ inside, related⟩

theorem exists_right_of_forall₂ (h : List.Forall₂ r as bs) {a : α} (member : a ∈ as) :
    ∃ b ∈ bs, r a b :=
  exists_left_of_forall₂ h.flip member

theorem map_eq_of_forall₂ (h : List.Forall₂ r as bs) {f : α → γ} {g : β → γ}
    (same : ∀ a b, r a b → g b = f a) : bs.map g = as.map f := by
  induction h with
  | nil => rfl
  | cons head _ ih => rw [List.map_cons, List.map_cons, same _ _ head, ih]

theorem filterMap_eq_of_forall₂ (h : List.Forall₂ r as bs) {f : α → Option γ} {g : β → Option γ}
    (same : ∀ a b, r a b → g b = f a) : bs.filterMap g = as.filterMap f := by
  induction h with
  | nil => rfl
  | cons head _ ih => rw [List.filterMap_cons, List.filterMap_cons, same _ _ head, ih]

theorem flatMap_zip_of_forall₂ (h : List.Forall₂ r as bs) {f : α × β → List γ} {g : α → List γ}
    (same : ∀ a b, r a b → f (a, b) = g a) : (as.zip bs).flatMap f = as.flatMap g := by
  induction h with
  | nil => rfl
  | cons head _ ih =>
    rw [List.zip_cons_cons, List.flatMap_cons, List.flatMap_cons, same _ _ head, ih]

theorem any_eq_of_forall₂ (h : List.Forall₂ r as bs) {p : α → Bool} {q : β → Bool}
    (same : ∀ a b, r a b → q b = p a) : bs.any q = as.any p := by
  induction h with
  | nil => rfl
  | cons head _ ih => rw [List.any_cons, List.any_cons, same _ _ head, ih]

theorem forall₂_filter (h : List.Forall₂ r as bs) {p : α → Bool} {q : β → Bool}
    (same : ∀ a b, r a b → q b = p a) : List.Forall₂ r (as.filter p) (bs.filter q) := by
  induction h with
  | nil => exact .nil
  | @cons a b _ _ head _ ih =>
    rw [List.filter_cons, List.filter_cons, same a b head]
    split
    · exact .cons head ih
    · exact ih

theorem rel_find? (h : List.Forall₂ r as bs) {p : α → Bool} {q : β → Bool}
    (same : ∀ a b, r a b → q b = p a) : Option.Rel r (as.find? p) (bs.find? q) := by
  induction h with
  | nil => exact .none
  | @cons a b _ _ head _ ih =>
    rw [List.find?_cons, List.find?_cons, same a b head]
    split
    · exact .some head
    · exact ih

/-- What is made of the chosen items of one list is made of the chosen items of a related one. -/
theorem mem_map_filter_of_forall₂ (h : List.Forall₂ r as bs) {p : α → Bool} {q : β → Bool}
    {f : α → γ} {g : β → γ} (step : ∀ a b, r a b → q b = true → p a = true ∧ g b = f a) {c : γ}
    (member : c ∈ (bs.filter q).map g) : c ∈ (as.filter p).map f := by
  rcases List.mem_map.1 member with ⟨b, chosen, rfl⟩
  rcases List.mem_filter.1 chosen with ⟨inside, holds⟩
  rcases exists_left_of_forall₂ h inside with ⟨a, inside', related⟩
  rcases step a b related holds with ⟨holds', same⟩
  exact List.mem_map.2 ⟨a, List.mem_filter.2 ⟨inside', holds'⟩, same.symm⟩

theorem mem_filterMap_of_forall₂ (h : List.Forall₂ r as bs) {f : α → Option γ} {g : β → Option γ}
    (step : ∀ a b c, r a b → g b = some c → f a = some c) {c : γ} (member : c ∈ bs.filterMap g) :
    c ∈ as.filterMap f := by
  rcases List.mem_filterMap.1 member with ⟨b, inside, found⟩
  rcases exists_left_of_forall₂ h inside with ⟨a, inside', related⟩
  exact List.mem_filterMap.2 ⟨a, inside', step a b c related found⟩

theorem exists_left_of_rel {a? : Option α} {b? : Option β} (h : Option.Rel r a? b?) {b : β}
    (found : b? = some b) : ∃ a, a? = some a ∧ r a b := by
  cases h with
  | none => cases found
  | some related =>
    obtain rfl := Option.some.inj found
    exact ⟨_, rfl, related⟩

theorem exists_right_of_rel {a? : Option α} {b? : Option β} (h : Option.Rel r a? b?) {a : α}
    (found : a? = some a) : ∃ b, b? = some b ∧ r a b := by
  cases h with
  | none => cases found
  | some related =>
    obtain rfl := Option.some.inj found
    exact ⟨_, rfl, related⟩

theorem rel_cases {a? : Option α} {b? : Option β} (h : Option.Rel r a? b?) :
    (a? = none ∧ b? = none) ∨ ∃ a b, a? = some a ∧ b? = some b ∧ r a b := by
  cases h with
  | none => exact .inl ⟨rfl, rfl⟩
  | some related => exact .inr ⟨_, _, rfl, rfl, related⟩

theorem eq_none_of_rel {a? : Option α} {b? : Option β} (h : Option.Rel r a? b?)
    (absent : a? = none) : b? = none := by
  rcases rel_cases h with ⟨-, none⟩ | ⟨a, -, found, -⟩
  · exact none
  · simp [absent] at found

theorem any_eq_of_rel {a? : Option α} {b? : Option β} (h : Option.Rel r a? b?) {p : α → Bool}
    {q : β → Bool} (same : ∀ a b, r a b → q b = p a) : b?.any q = a?.any p := by
  cases h with
  | none => rfl
  | some related => exact same _ _ related

theorem isSome_eq_of_rel {a? : Option α} {b? : Option β} (h : Option.Rel r a? b?) :
    b?.isSome = a?.isSome := by
  cases h <;> rfl

theorem rel_getElem? (h : List.Forall₂ r as bs) (index : Nat) :
    Option.Rel r as[index]? bs[index]? := by
  induction h generalizing index with
  | nil => exact .none
  | cons head _ ih =>
    cases index with
    | zero => exact .some head
    | succ index => exact ih index

/-- What is made of the chosen items of a list. -/
theorem map_filter_eq_filterMap (p : α → Bool) (f : α → β) (items : List α) :
    (items.filter p).map f = items.filterMap fun a => if p a then some (f a) else none := by
  rw [← List.filterMap_eq_map, List.filterMap_filter]
  rfl

/-- The same is made of items that are changed, if it is made of each of them. -/
theorem filterMap_map_eq {change : α → β} {f : α → Option γ} {g : β → Option γ}
    (same : ∀ a, g (change a) = f a) (items : List α) :
    (items.map change).filterMap g = items.filterMap f := by
  rw [List.filterMap_map, show g ∘ change = f from funext same]

theorem map_filter_map_eq {change : α → β} {p : α → Bool} {q : β → Bool} {f : α → γ} {g : β → γ}
    (chosen : ∀ a, q (change a) = p a) (same : ∀ a, g (change a) = f a) (items : List α) :
    ((items.map change).filter q).map g = (items.filter p).map f := by
  rw [List.filter_map, List.map_map, show q ∘ change = p from funext chosen,
    show g ∘ change = f from funext same]

/-- In a list without repetitions an item is found at the only place where it stands. -/
theorem idxOf?_eq_some_iff [BEq α] [LawfulBEq α] {items : List α} (distinct : items.Nodup) {a : α}
    {i : Nat} : items.idxOf? a = some i ↔ items[i]? = some a := by
  rw [List.idxOf?_eq_some_iff, List.getElem?_eq_some_iff]
  constructor
  · rintro ⟨inRange, here, -⟩
    exact ⟨inRange, here⟩
  · rintro ⟨inRange, here⟩
    refine ⟨inRange, here, fun j earlier same => ?_⟩
    have sameIndex := (List.getElem_inj distinct).1 (same.trans here.symm)
    omega

/-- What is made of the items of one list in two ways. -/
theorem forall₂_filterMap_of_mem {items : List γ} {f : γ → Option α} {g : γ → Option β}
    (related : ∀ c ∈ items, Option.Rel r (f c) (g c)) :
    List.Forall₂ r (items.filterMap f) (items.filterMap g) := by
  refine List.rel_filterMap (R := fun c c' => c' = c ∧ c ∈ items) ?_
    (List.forall₂_same.2 fun c inside => ⟨rfl, inside⟩)
  rintro c _ ⟨rfl, inside⟩
  exact related _ inside

theorem forall₂_filterMap_of_rel {items : List γ} {f : γ → Option α} {g : γ → Option β}
    (related : ∀ c, Option.Rel r (f c) (g c)) :
    List.Forall₂ r (items.filterMap f) (items.filterMap g) :=
  forall₂_filterMap_of_mem fun c _ => related c

/-- The first item with some key stands where the key stands among all keys. -/
theorem find?_eq_bind_idxOf? [BEq β] (key : α → β) (b : β) (items : List α) :
    items.find? (fun a => key a == b) = ((items.map key).idxOf? b).bind (items[·]?) := by
  induction items with
  | nil => rfl
  | cons a rest ih =>
    rw [List.find?_cons, List.map_cons, List.idxOf?_cons]
    cases key a == b with
    | true => rfl
    | false =>
      rw [ih]
      cases (rest.map key).idxOf? b <;> rfl

/-! ## Lists made of one list in two ways -/

section TwoWays

variable {items : List α} {a : α}

/-- If only one item makes a difference, it is that item that decides whether the results differ. -/
theorem flatMap_eq_flatMap_iff {f g : α → List β} (distinct : items.Nodup) (inside : a ∈ items)
    (others : ∀ b ∈ items, b ≠ a → g b = f b) :
    items.flatMap g = items.flatMap f ↔ g a = f a := by
  rcases List.append_of_mem inside with ⟨front, back, rfl⟩
  rw [List.nodup_append, List.nodup_cons] at distinct
  rcases distinct with ⟨-, ⟨behind, -⟩, before⟩
  have frontSame : front.flatMap g = front.flatMap f := by
    refine List.flatMap_congr fun b member => others b (List.mem_append_left _ member) ?_
    exact before b member a List.mem_cons_self
  have backSame : back.flatMap g = back.flatMap f := by
    refine List.flatMap_congr fun b member => others b ?_ ?_
    · exact List.mem_append_right _ (List.mem_cons_of_mem _ member)
    · rintro rfl
      exact behind member
  rw [List.flatMap_append, List.flatMap_append, List.flatMap_cons, List.flatMap_cons, frontSame,
    backSame, List.append_cancel_left_eq, List.append_cancel_right_eq]

theorem filterMap_eq_filterMap_iff {f g : α → Option β} (distinct : items.Nodup)
    (inside : a ∈ items) (others : ∀ b ∈ items, b ≠ a → g b = f b) :
    items.filterMap g = items.filterMap f ↔ g a = f a := by
  rw [List.filterMap_eq_flatMap_toList, List.filterMap_eq_flatMap_toList,
    flatMap_eq_flatMap_iff distinct inside fun b member other => by rw [others b member other]]
  cases g a <;> cases f a <;> simp

/-- If a property tells the first parts from the second ones, equal lists have equal parts. -/
theorem append_eq_append_iff_of_all {p : α → Bool} {front front' back back' : List α}
    (first : ∀ a ∈ front, p a = false) (first' : ∀ a ∈ front', p a = false)
    (second : ∀ a ∈ back, p a = true) (second' : ∀ a ∈ back', p a = true) :
    front' ++ back' = front ++ back ↔ front' = front ∧ back' = back := by
  have behind : ∀ {as bs : List α}, (∀ a ∈ as, p a = false) → (∀ a ∈ bs, p a = true) →
      (as ++ bs).filter p = bs := by
    intro as bs none all
    have dropped : as.filter p = [] := List.filter_eq_nil_iff.2 fun a inside => by
      simp [none a inside]
    rw [List.filter_append, dropped, List.filter_eq_self.2 all, List.nil_append]
  constructor
  · intro same
    have parts : back' = back := by
      rw [← behind first' second', same, behind first second]
    subst parts
    exact ⟨List.append_cancel_right same, rfl⟩
  · rintro ⟨rfl, rfl⟩
    rfl

/-- The first place of an item cuts a list into the part in front of it and the part behind it. -/
theorem eq_of_append_cons {a : α} {front front' back back' : List α} (first : a ∉ front)
    (first' : a ∉ front') (same : front ++ a :: back = front' ++ a :: back') :
    front = front' ∧ back = back' := by
  induction front generalizing front' with
  | nil =>
    cases front' with
    | nil => exact ⟨rfl, (List.cons.inj same).2⟩
    | cons b rest => exact absurd ((List.cons.inj same).1 ▸ List.mem_cons_self) first'
  | cons b front ih =>
    rw [List.mem_cons, not_or] at first
    cases front' with
    | nil => exact absurd (List.cons.inj same).1.symm first.1
    | cons b' front' =>
      rw [List.mem_cons, not_or] at first'
      obtain ⟨rfl, rest⟩ := List.cons.inj same
      rcases ih first.2 first'.2 rest with ⟨rfl, rfl⟩
      exact ⟨rfl, rfl⟩

end TwoWays

/-! ## Matched lists -/

/-- Every item of each of the lists is related to some item of the other one. -/
structure Matched (r : α → β → Prop) (as : List α) (bs : List β) : Prop where
  right : ∀ a ∈ as, ∃ b ∈ bs, r a b
  left : ∀ b ∈ bs, ∃ a ∈ as, r a b

theorem matched_of_forall₂ (h : List.Forall₂ r as bs) : Matched r as bs :=
  ⟨fun _ => exists_right_of_forall₂ h, fun _ => exists_left_of_forall₂ h⟩

/-- A list is matched by what is made of its items. -/
theorem matched_map (f : α → β) (as : List α) : Matched (fun a b => b = f a) as (as.map f) :=
  ⟨fun a inside => ⟨f a, List.mem_map_of_mem inside, rfl⟩, fun _ inside =>
    (List.mem_map.1 inside).imp fun _ both => ⟨both.1, both.2.symm⟩⟩

namespace Matched

theorem mem_iff {as bs : List α} (h : Matched Eq as bs) (a : α) : a ∈ bs ↔ a ∈ as := by
  constructor
  · intro inside
    rcases h.left a inside with ⟨_, inside', rfl⟩
    exact inside'
  · intro inside
    rcases h.right a inside with ⟨_, inside', rfl⟩
    exact inside'

theorem any_eq (h : Matched r as bs) {p : α → Bool} {q : β → Bool}
    (same : ∀ a b, r a b → q b = p a) : bs.any q = as.any p := by
  rw [Bool.eq_iff_iff, List.any_eq_true, List.any_eq_true]
  constructor
  · rintro ⟨b, inside, holds⟩
    rcases h.left b inside with ⟨a, inside', related⟩
    exact ⟨a, inside', same a b related ▸ holds⟩
  · rintro ⟨a, inside, holds⟩
    rcases h.right a inside with ⟨b, inside', related⟩
    exact ⟨b, inside', (same a b related).trans holds⟩

theorem isEmpty_eq (h : Matched r as bs) : bs.isEmpty = as.isEmpty := by
  rw [Bool.eq_iff_iff, List.isEmpty_iff, List.isEmpty_iff, List.eq_nil_iff_forall_not_mem,
    List.eq_nil_iff_forall_not_mem]
  constructor
  · intro none a inside
    rcases h.right a inside with ⟨b, inside', -⟩
    exact none b inside'
  · intro none b inside
    rcases h.left b inside with ⟨a, inside', -⟩
    exact none a inside'

theorem imp {s : α → β → Prop} (h : Matched r as bs) (step : ∀ a b, r a b → s a b) :
    Matched s as bs :=
  ⟨fun a inside => (h.right a inside).imp fun _ both => ⟨both.1, step _ _ both.2⟩,
    fun b inside => (h.left b inside).imp fun _ both => ⟨both.1, step _ _ both.2⟩⟩

theorem append {as' : List α} {bs' : List β} (h : Matched r as bs) (h' : Matched r as' bs') :
    Matched r (as ++ as') (bs ++ bs') := by
  constructor
  · intro a inside
    rcases List.mem_append.1 inside with first | second
    · exact (h.right a first).imp fun _ both => ⟨List.mem_append_left _ both.1, both.2⟩
    · exact (h'.right a second).imp fun _ both => ⟨List.mem_append_right _ both.1, both.2⟩
  · intro b inside
    rcases List.mem_append.1 inside with first | second
    · exact (h.left b first).imp fun _ both => ⟨List.mem_append_left _ both.1, both.2⟩
    · exact (h'.left b second).imp fun _ both => ⟨List.mem_append_right _ both.1, both.2⟩

theorem flatMap {s : γ → δ → Prop} (h : Matched r as bs) {f : α → List γ} {g : β → List δ}
    (step : ∀ a b, r a b → Matched s (f a) (g b)) : Matched s (as.flatMap f) (bs.flatMap g) := by
  constructor
  · intro c inside
    rcases List.mem_flatMap.1 inside with ⟨a, inside, made⟩
    rcases h.right a inside with ⟨b, inside', related⟩
    rcases (step a b related).right c made with ⟨d, made', both⟩
    exact ⟨d, List.mem_flatMap.2 ⟨b, inside', made'⟩, both⟩
  · intro d inside
    rcases List.mem_flatMap.1 inside with ⟨b, inside, made⟩
    rcases h.left b inside with ⟨a, inside', related⟩
    rcases (step a b related).left d made with ⟨c, made', both⟩
    exact ⟨c, List.mem_flatMap.2 ⟨a, inside', made'⟩, both⟩

theorem filterMap {s : γ → δ → Prop} (h : Matched r as bs) {f : α → Option γ} {g : β → Option δ}
    (step : ∀ a b, r a b → Option.Rel s (f a) (g b)) :
    Matched s (as.filterMap f) (bs.filterMap g) := by
  constructor
  · intro c inside
    rcases List.mem_filterMap.1 inside with ⟨a, inside, made⟩
    rcases h.right a inside with ⟨b, inside', related⟩
    rcases exists_right_of_rel (step a b related) made with ⟨d, made', both⟩
    exact ⟨d, List.mem_filterMap.2 ⟨b, inside', made'⟩, both⟩
  · intro d inside
    rcases List.mem_filterMap.1 inside with ⟨b, inside, made⟩
    rcases h.left b inside with ⟨a, inside', related⟩
    rcases exists_left_of_rel (step a b related) made with ⟨c, made', both⟩
    exact ⟨c, List.mem_filterMap.2 ⟨a, inside', made'⟩, both⟩

theorem map {s : γ → δ → Prop} (h : Matched r as bs) {f : α → γ} {g : β → δ}
    (step : ∀ a b, r a b → s (f a) (g b)) : Matched s (as.map f) (bs.map g) := by
  rw [← List.filterMap_eq_map, ← List.filterMap_eq_map]
  exact h.filterMap fun a b related => .some (step a b related)

theorem filter (h : Matched r as bs) {p : α → Bool} {q : β → Bool}
    (same : ∀ a b, r a b → q b = p a) : Matched r (as.filter p) (bs.filter q) := by
  constructor
  · intro a inside
    rcases List.mem_filter.1 inside with ⟨inside, holds⟩
    rcases h.right a inside with ⟨b, inside', related⟩
    exact ⟨b, List.mem_filter.2 ⟨inside', (same a b related).trans holds⟩, related⟩
  · intro b inside
    rcases List.mem_filter.1 inside with ⟨inside, holds⟩
    rcases h.left b inside with ⟨a, inside', related⟩
    exact ⟨a, List.mem_filter.2 ⟨inside', (same a b related).symm.trans holds⟩, related⟩

/-- The same is made of matched items. -/
theorem filterMap_eq (h : Matched r as bs) {f : α → Option γ} {g : β → Option γ}
    (same : ∀ a b, r a b → g b = f a) : Matched Eq (as.filterMap f) (bs.filterMap g) := by
  refine h.filterMap fun a b related => ?_
  rw [same a b related]
  cases f a with
  | none => exact .none
  | some c => exact .some rfl

/-- The same is made of matched items that are chosen. -/
theorem map_filter_eq (h : Matched r as bs) {p : α → Bool} {q : β → Bool} {f : α → γ} {g : β → γ}
    (chosen : ∀ a b, r a b → q b = p a) (same : ∀ a b, r a b → g b = f a) :
    Matched Eq ((as.filter p).map f) ((bs.filter q).map g) :=
  (h.filter chosen).map fun a b related => (same a b related).symm

end Matched

/-! ## Lists made by steps that can fail -/

variable {ε : Type}

theorem not_exists_ok {made : Except ε α} {failure : ε} (failed : made = .error failure) :
    ¬ ∃ a, made = .ok a := by
  simp [failed]

theorem toOption_eq_some_iff {made : Except ε α} {a : α} :
    made.toOption = some a ↔ made = .ok a := by
  cases made <;> simp [Except.toOption]

theorem map_eq_ok_iff {f : α → β} {made : Except ε α} {b : β} :
    made.map f = .ok b ↔ ∃ a, made = .ok a ∧ f a = b := by
  cases made <;> simp [Except.map]

theorem exists_map_iff {f : α → β} {made : Except ε α} :
    (∃ b, made.map f = .ok b) ↔ ∃ a, made = .ok a := by
  simp [map_eq_ok_iff]

/-- A list is made if each of its items is. -/
theorem exists_mapM_iff {f : α → Except ε β} {as : List α} :
    (∃ bs, as.mapM f = .ok bs) ↔ ∀ a ∈ as, ∃ b, f a = .ok b := by
  induction as with
  | nil => simp [pure, Except.pure]
  | cons a rest ih =>
    rw [List.forall_mem_cons, ← ih, List.mapM_cons]
    cases f a with
    | error failure => simp [bind, Except.bind]
    | ok b =>
      cases rest.mapM f with
      | error failure => simp [bind, Except.bind]
      | ok bs => simp [bind, Except.bind, pure, Except.pure]

/-- The items of a list that is made are those that are made of its items. -/
theorem forall₂_of_mapM {f : α → Except ε β} {as : List α} {bs : List β}
    (made : as.mapM f = .ok bs) : List.Forall₂ (fun a b => f a = .ok b) as bs := by
  induction as generalizing bs with
  | nil =>
    obtain rfl := Except.ok.inj made
    exact .nil
  | cons a rest ih =>
    rw [List.mapM_cons] at made
    cases first : f a with
    | error failure => simp [first, bind, Except.bind] at made
    | ok b =>
      cases others : rest.mapM f with
      | error failure => simp [first, others, bind, Except.bind] at made
      | ok more =>
        obtain rfl : b :: more = bs := by
          simpa [first, others, bind, Except.bind, pure, Except.pure] using made
        exact .cons first (ih others)

/-- If a list is not made, it is because one of its items is not. -/
theorem exists_error_of_mapM {f : α → Except ε β} {as : List α} {failure : ε}
    (failed : as.mapM f = .error failure) : ∃ a ∈ as, f a = .error failure := by
  induction as with
  | nil => cases failed
  | cons a rest ih =>
    rw [List.mapM_cons] at failed
    cases first : f a with
    | error other =>
      obtain rfl : other = failure := by simpa [first, bind, Except.bind] using failed
      exact ⟨a, List.mem_cons_self, first⟩
    | ok b =>
      cases others : rest.mapM f with
      | error other =>
        obtain rfl : other = failure := by simpa [first, others, bind, Except.bind] using failed
        rcases ih others with ⟨c, member, fails⟩
        exact ⟨c, List.mem_cons_of_mem a member, fails⟩
      | ok bs => simp [first, others, bind, Except.bind, pure, Except.pure] at failed

/-- Failures can be renamed item by item. -/
theorem mapM_mapError {ε' : Type} (rename : ε → ε') (f : α → Except ε β) (as : List α) :
    as.mapM (fun a => (f a).mapError rename) = (as.mapM f).mapError rename := by
  induction as with
  | nil => rfl
  | cons a rest ih =>
    rw [List.mapM_cons, List.mapM_cons, ih]
    cases f a with
    | error failure => rfl
    | ok b => cases rest.mapM f <;> rfl

/-- Two runs fail in the same way, or both give a result and the results are related. -/
inductive Agree (r : α → β → Prop) : Except ε α → Except ε β → Prop where
  | error (failure : ε) : Agree r (.error failure) (.error failure)
  | ok {a : α} {b : β} (related : r a b) : Agree r (.ok a) (.ok b)

namespace Agree

variable {made : Except ε α} {made' : Except ε β}

theorem refl {r : α → α → Prop} (same : ∀ a, r a a) (made : Except ε α) : Agree r made made := by
  cases made with
  | error failure => exact .error failure
  | ok a => exact .ok (same a)

theorem map {s : γ → δ → Prop} {f : α → γ} {g : β → δ} (h : Agree r made made')
    (step : ∀ a b, r a b → s (f a) (g b)) : Agree s (made.map f) (made'.map g) := by
  cases h with
  | error failure => exact .error failure
  | ok related => exact .ok (step _ _ related)

theorem exists_ok (h : Agree r made made') {b : β} (found : made' = .ok b) :
    ∃ a, made = .ok a ∧ r a b := by
  subst found
  cases h with
  | ok related => exact ⟨_, rfl, related⟩

/-- The first item that fails is at the same place in both lists. -/
theorem mapM {q : γ → δ → Prop} {f : α → Except ε γ} {g : β → Except ε δ}
    (h : List.Forall₂ (fun a b => Agree q (f a) (g b)) as bs) :
    Agree (List.Forall₂ q) (as.mapM f) (bs.mapM g) := by
  induction h with
  | nil => exact .ok .nil
  | @cons a b as bs first _ ih =>
    rw [List.mapM_cons, List.mapM_cons]
    generalize f a = made, g b = made' at first
    cases first with
    | error failure => exact .error failure
    | ok related =>
      generalize as.mapM f = others, bs.mapM g = others' at ih
      cases ih with
      | error failure => exact .error failure
      | ok others => exact .ok (.cons related others)

end Agree

section Steps

variable {items : List α}

/-- Steps that do not fail are those of a function. -/
theorem mapM_eq_ok {f : α → Except ε β} {g : α → β} (each : ∀ a ∈ items, f a = .ok (g a)) :
    items.mapM f = .ok (items.map g) := by
  induction items with
  | nil => rfl
  | cons a rest ih =>
    rw [List.forall_mem_cons] at each
    rw [List.mapM_cons, each.1, ih each.2]
    rfl

theorem filterMapM_eq_ok {f : α → Except ε (Option β)} {g : α → Option β}
    (each : ∀ a ∈ items, f a = .ok (g a)) : items.filterMapM f = .ok (items.filterMap g) := by
  induction items with
  | nil => rfl
  | cons a rest ih =>
    rw [List.forall_mem_cons] at each
    rw [List.filterMapM_cons, each.1, ih each.2]
    cases found : g a with
    | none => rw [List.filterMap_cons_none found]; rfl
    | some b => rw [List.filterMap_cons_some found]; rfl

theorem anyM_eq_ok {p : α → Except ε Bool} {q : α → Bool} (each : ∀ a ∈ items, p a = .ok (q a)) :
    items.anyM p = .ok (items.any q) := by
  induction items with
  | nil => rfl
  | cons a rest ih =>
    rw [List.forall_mem_cons] at each
    rw [List.anyM_cons, each.1, ih each.2, List.any_cons]
    cases q a <;> rfl

theorem findM?_eq_ok {p : α → Except ε Bool} {q : α → Bool}
    (each : ∀ a ∈ items, p a = .ok (q a)) : items.findM? p = .ok (items.find? q) := by
  induction items with
  | nil => rfl
  | cons a rest ih =>
    rw [List.forall_mem_cons] at each
    rw [List.findM?, each.1, ih each.2, List.find?_cons]
    cases q a <;> rfl

end Steps

end AccountAudit
