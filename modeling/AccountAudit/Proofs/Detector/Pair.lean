import AccountAudit.Proofs.Assoc
import AccountAudit.Proofs.Detector.GuardMonotone

/-!
# Pairs of accounts that may be one

The findings about duplicate accounts come group by group, and each lists the pairs of its group that
are not known to differ. Whether two accounts are listed somewhere depends on the two accounts only
(`exists_uncovered_iff`): both are eligible and of one type, and nothing tells that they differ.
-/

namespace AccountAudit
namespace DuplicateAccounts

variable {handler : HandlerFacts} {a b : AccountFact}

/-! ## Pairs of a list -/

theorem mem_of_mem_pairs {α : Type} {items : List α} {x y : α} (h : (x, y) ∈ pairs items) :
    x ∈ items ∧ y ∈ items := by
  induction items with
  | nil => cases h
  | cons first rest ih =>
    rcases List.mem_append.1 h with opened | later
    · rcases List.mem_map.1 opened with ⟨second, inside, same⟩
      obtain ⟨rfl, rfl⟩ := Prod.mk.inj same
      exact ⟨List.mem_cons_self, List.mem_cons_of_mem _ inside⟩
    · exact (ih later).imp (List.mem_cons_of_mem _) (List.mem_cons_of_mem _)

/-- Two members of a list form a pair in one order or the other. -/
theorem mem_pairs_or {α : Type} {items : List α} {x y : α} (first : x ∈ items) (second : y ∈ items)
    (distinct : x ≠ y) : (x, y) ∈ pairs items ∨ (y, x) ∈ pairs items := by
  induction items with
  | nil => cases first
  | cons item rest ih =>
    rw [pairs, List.mem_append, List.mem_append]
    rcases List.mem_cons.1 first with rfl | first' <;> rcases List.mem_cons.1 second with rfl | second'
    · exact absurd rfl distinct
    · exact .inl (.inl (List.mem_map_of_mem second'))
    · exact .inr (.inl (List.mem_map_of_mem first'))
    · exact (ih first' second').imp .inr .inr

theorem ne_of_mem_pairs {α : Type} {items : List α} {x y : α} (distinct : items.Nodup)
    (h : (x, y) ∈ pairs items) : x ≠ y := by
  induction items with
  | nil => cases h
  | cons first rest ih =>
    rw [List.nodup_cons] at distinct
    rcases List.mem_append.1 h with opened | later
    · rcases List.mem_map.1 opened with ⟨second, inside, same⟩
      obtain ⟨rfl, rfl⟩ := Prod.mk.inj same
      rintro rfl
      exact distinct.1 inside
    · exact ih distinct.2 later

theorem one_lt_length {α : Type} {items : List α} {x y : α} (first : x ∈ items) (second : y ∈ items)
    (distinct : x ≠ y) : 1 < items.length := by
  rcases items with - | ⟨item, - | ⟨other, rest⟩⟩
  · cases first
  · rw [List.mem_singleton] at first second
    exact absurd (first.trans second.symm) distinct
  · simp

/-! ## Groups -/

/-- The outer and the inner type of an account. -/
def typeOf (account : AccountFact) : String × Option String :=
  (account.typeKind, account.innerType)

/-- The eligible accounts of a type. -/
def ofType (handler : HandlerFacts) (type : String × Option String) : List AccountFact :=
  handler.accounts.filter fun account => isEligible account && typeOf account = type

theorem mem_ofType {type : String × Option String} :
    a ∈ ofType handler type ↔ a ∈ handler.accounts ∧ isEligible a = true ∧ typeOf a = type := by
  simp [ofType]

/-- A group consists of all eligible accounts of a type. -/
theorem mem_groups {group : List AccountFact} :
    group ∈ groups handler ↔ 1 < group.length ∧ ∃ type, group = ofType handler type := by
  have typed : ∀ type, Assoc.valuesOf type ((handler.accounts.filter isEligible).map fun account =>
      ((account.typeKind, account.innerType), account)) = ofType handler type := by
    intro type
    rw [Assoc.valuesOf, List.filter_map, List.map_map, List.filter_filter, ofType]
    refine (List.map_id' _).trans (List.filter_congr fun account _ => ?_)
    rw [Bool.and_comm]
    rfl
  rw [groups, List.mem_filter, decide_eq_true_eq, List.mem_map, and_comm]
  refine and_congr_right fun several => ?_
  have nonempty : group ≠ [] := by
    rintro rfl
    simp at several
  constructor
  · rintro ⟨⟨type, group⟩, member, rfl⟩
    exact ⟨type, ((Assoc.mem_gather nonempty).1 member).trans (typed type)⟩
  · rintro ⟨type, rfl⟩
    exact ⟨(type, _), (Assoc.mem_gather nonempty).2 (typed type).symm, rfl⟩

/-! ## Findings -/

/-- A finding is made for each group in which a pair is uncovered. -/
theorem mem_scan_iff {f : Finding} :
    f ∈ scan handler ↔ ∃ first rest, first :: rest ∈ groups handler ∧
      uncovered handler (first :: rest) ≠ [] ∧
      f = finding handler first ((first :: rest).map AccountFact.name)
        (uncovered handler (first :: rest)) := by
  rw [scan, List.mem_filterMap]
  constructor
  · rintro ⟨group, member, found⟩
    have bare : uncovered handler group ≠ [] := by
      intro covered
      rw [groupFinding?_eq_none handler group covered] at found
      cases found
    cases group with
    | nil => exact absurd rfl bare
    | cons first rest =>
      rw [groupFinding?_cons handler first rest bare] at found
      exact ⟨first, rest, member, bare, (Option.some.inj found).symm⟩
  · rintro ⟨first, rest, member, bare, rfl⟩
    exact ⟨first :: rest, member, groupFinding?_cons handler first rest bare⟩

/-- The pairs that findings list are the uncovered pairs of the groups. -/
theorem exists_listed_iff {pair : Value} :
    (∃ f ∈ scan handler, pair ∈ f.uncoveredPairs) ↔
      ∃ a b, (∃ group ∈ groups handler, (a, b) ∈ uncovered handler group) ∧
        pair = .texts [a.name, b.name] := by
  constructor
  · rintro ⟨f, member, listed⟩
    rcases mem_scan_iff.1 member with ⟨first, rest, inside, -, rfl⟩
    rw [uncoveredPairs_finding] at listed
    rcases List.mem_map.1 listed with ⟨⟨a, b⟩, bare, rfl⟩
    exact ⟨a, b, ⟨_, inside, bare⟩, rfl⟩
  · rintro ⟨a, b, ⟨group, inside, bare⟩, rfl⟩
    cases group with
    | nil => cases bare
    | cons first rest =>
      refine ⟨_, mem_scan_iff.2 ⟨first, rest, inside, List.ne_nil_of_mem bare, rfl⟩, ?_⟩
      rw [uncoveredPairs_finding]
      exact List.mem_map.2 ⟨(a, b), bare, rfl⟩

/-! ## Two accounts -/

/-- Nothing tells that two accounts of one type differ. -/
structure Confusable (handler : HandlerFacts) (a b : AccountFact) : Prop where
  first : a ∈ handler.accounts
  second : b ∈ handler.accounts
  eligible : isEligible a = true
  eligible' : isEligible b = true
  type : typeOf a = typeOf b
  bare : areDistinct handler a b = false

theorem areDistinct_comm (handler : HandlerFacts) (a b : AccountFact) :
    areDistinct handler a b = areDistinct handler b a := by
  have swapped : ∀ ev, requiresDistinct ev a b = requiresDistinct ev b a := by
    intro ev
    rw [requiresDistinct, requiresDistinct, Bool.and_right_comm]
  simp only [areDistinct, swapped, Bool.or_comm (handler.possiblyGuarded a)]

theorem Confusable.symm (h : Confusable handler a b) : Confusable handler b a :=
  ⟨h.second, h.first, h.eligible', h.eligible, h.type.symm, areDistinct_comm handler a b ▸ h.bare⟩

theorem confusable_of_uncovered {group : List AccountFact} (inside : group ∈ groups handler)
    (bare : (a, b) ∈ uncovered handler group) : Confusable handler a b := by
  obtain ⟨-, type, rfl⟩ := mem_groups.1 inside
  rcases List.mem_filter.1 bare with ⟨pair, open'⟩
  rcases mem_of_mem_pairs pair with ⟨first, second⟩
  rcases mem_ofType.1 first with ⟨first, eligible, typed⟩
  rcases mem_ofType.1 second with ⟨second, eligible', typed'⟩
  exact ⟨first, second, eligible, eligible', typed.trans typed'.symm, by simpa using open'⟩

theorem ne_of_uncovered (distinct : handler.accounts.Nodup) {group : List AccountFact}
    (inside : group ∈ groups handler) (bare : (a, b) ∈ uncovered handler group) : a ≠ b := by
  obtain ⟨-, type, rfl⟩ := mem_groups.1 inside
  exact ne_of_mem_pairs (distinct.filter _) (List.mem_filter.1 bare).1

/-- Two accounts are an uncovered pair of some group, in one order or the other, if nothing tells that
they differ. -/
theorem exists_uncovered_iff (distinct : handler.accounts.Nodup) :
    ((∃ group ∈ groups handler, (a, b) ∈ uncovered handler group) ∨
      ∃ group ∈ groups handler, (b, a) ∈ uncovered handler group) ↔
    a ≠ b ∧ Confusable handler a b := by
  constructor
  · rintro (⟨group, inside, bare⟩ | ⟨group, inside, bare⟩)
    · exact ⟨ne_of_uncovered distinct inside bare, confusable_of_uncovered inside bare⟩
    · exact ⟨(ne_of_uncovered distinct inside bare).symm, (confusable_of_uncovered inside bare).symm⟩
  · rintro ⟨different, confusable⟩
    have first : a ∈ ofType handler (typeOf a) :=
      mem_ofType.2 ⟨confusable.first, confusable.eligible, rfl⟩
    have second : b ∈ ofType handler (typeOf a) :=
      mem_ofType.2 ⟨confusable.second, confusable.eligible', confusable.type.symm⟩
    have group : ofType handler (typeOf a) ∈ groups handler :=
      mem_groups.2 ⟨one_lt_length first second different, _, rfl⟩
    rcases mem_pairs_or first second different with pair | pair
    · exact .inl ⟨_, group, List.mem_filter.2 ⟨pair, by simpa using confusable.bare⟩⟩
    · exact .inr ⟨_, group, List.mem_filter.2 ⟨pair, by simpa using confusable.symm.bare⟩⟩

end DuplicateAccounts
end AccountAudit
