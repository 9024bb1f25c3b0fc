import AccountAudit.Proofs.Detector.Conservative
import AccountAudit.Proofs.Flag.Creation

/-!
# Denied creation and duplicate accounts

The detector about duplicate accounts leaves accounts out that are created, and to it an account that
denies a creation is created. Without the denying attribute the account may join the accounts of its
type. Then the group may come to stand at another place, but a group without uncovered pairs is not
reported, before or after, so the findings differ only if some pair of the joined group is uncovered
(`DuplicateAccounts.Sees`).
-/

namespace AccountAudit

variable {handler handler' : HandlerFacts} {account account' : AccountFact} {kind : String}

namespace DuplicateAccounts

/-- The account counts as created because of the flag. Without it there would be a group with the
account in it, in which some pair is uncovered. -/
structure Sees (handler : HandlerFacts) (account : AccountFact) (kind : String) : Prop where
  creates : kind ∈ AccountKind.creation
  eligible : isEligible (account.without kind) = true
  bare : uncovered handler (ofType (handler.without account.name kind) (typeOf account)) ≠ []

/-! ### Groups that stay -/

theorem areDistinct_of_loses (h : handler.Loses kind handler') {a b a' b' : AccountFact}
    (first : a.Loses kind a') (second : b.Loses kind b') :
    areDistinct handler' a' b' = areDistinct handler a b := by
  simp only [areDistinct, requiresDistinct, h.possiblyGuarded first, h.possiblyGuarded second,
    h.evidence, first.index, second.index]

theorem uncovered_of_loses (h : handler.Loses kind handler') {group group' : List AccountFact}
    (related : List.Forall₂ (AccountFact.Loses kind) group group') :
    List.Forall₂ (fun pair pair' => pair.1.Loses kind pair'.1 ∧ pair.2.Loses kind pair'.2)
      (uncovered handler group) (uncovered handler' group') := by
  refine forall₂_filter (pairs_related related) fun pair pair' both => ?_
  exact congrArg not (areDistinct_of_loses h both.1 both.2)

theorem uncovered_eq_of_loses (h : handler.Loses kind handler') :
    uncovered handler' = uncovered handler := by
  funext group
  refine List.filter_congr fun pair _ => ?_
  exact congrArg not (areDistinct_of_loses h .kept .kept)

theorem groupFinding?_of_loses (h : handler.Loses kind handler') {group group' : List AccountFact}
    (related : List.Forall₂ (AccountFact.Loses kind) group group') :
    groupFinding? handler' group' = groupFinding? handler group := by
  have bare := uncovered_of_loses h related
  by_cases covered : uncovered handler group = []
  · have covered' : uncovered handler' group' = [] := by
      rw [covered] at bare
      exact List.forall₂_nil_left_iff.1 bare
    rw [groupFinding?_eq_none _ _ covered, groupFinding?_eq_none _ _ covered']
  · have open' : uncovered handler' group' ≠ [] := by
      intro covered'
      rw [covered'] at bare
      exact covered (List.forall₂_nil_right_iff.1 bare)
    have names : group'.map AccountFact.name = group.map AccountFact.name :=
      map_eq_of_forall₂ related fun _ _ lost => lost.name
    -- Of the accounts of a pair the finding has the names, in its message and in its metadata.
    have listed : ∀ {α : Type} (f : String → String → α),
        (uncovered handler' group').map (fun pair => f pair.1.name pair.2.name) =
          (uncovered handler group).map fun pair => f pair.1.name pair.2.name := by
      intro α f
      refine map_eq_of_forall₂ bare fun pair pair' both => ?_
      rw [both.1.name, both.2.name]
    cases related with
    | nil => exact absurd rfl covered
    | cons head tail =>
      rw [groupFinding?_cons _ _ _ open', groupFinding?_cons _ _ _ covered, names]
      have messages := listed fun a b => "`" ++ a ++ " != " ++ b ++ "`"
      have values := listed fun a b => Value.texts [a, b]
      simp only [finding, h.name, head.typeTag, head.location, messages, values]

/-- If no account becomes eligible, the same is found. -/
theorem scan_of_eligible (h : handler.Denies account kind)
    (same : isEligible (account.without kind) = isEligible account) :
    scan (handler.without account.name kind) = scan handler := by
  have accounts : List.Forall₂
      (fun other other' => other.Loses kind other' ∧ isEligible other' = isEligible other)
      handler.accounts (handler.without account.name kind).accounts := by
    refine List.forall₂_map_right_iff.2 (List.forall₂_same.2 fun other inside => ?_)
    by_cases here : other = account
    · subst here
      rw [HandlerFacts.Denies.withoutAt_self]
      exact ⟨.lost h.off, same⟩
    · rw [h.withoutAt_of_ne inside here]
      exact ⟨.kept, rfl⟩
  refine filterMap_eq_of_forall₂ (forall₂_groups accounts (fun _ _ both => both.2)
    fun _ _ both => ⟨both.1.typeKind, both.1.innerType⟩) fun group group' related => ?_
  exact groupFinding?_of_loses h.loses (related.imp fun _ _ both => both.1)

/-! ### A group with one more account -/

/-- The eligible accounts with their types. -/
def typed (handler : HandlerFacts) : List ((String × Option String) × AccountFact) :=
  (handler.accounts.filter isEligible).map fun account => (typeOf account, account)

/-- The finding about the accounts of a type. -/
def typeFinding? (handler : HandlerFacts) (entry : (String × Option String) × List AccountFact) :
    Option Finding :=
  if 1 < entry.2.length then groupFinding? handler entry.2 else none

theorem scan_eq_gather (handler : HandlerFacts) :
    scan handler = (Assoc.gather (typed handler)).filterMap (typeFinding? handler) := by
  rw [scan, groups, List.filter_map, List.filterMap_map, List.filterMap_filter]
  refine List.filterMap_congr fun entry _ => ?_
  rw [typeFinding?]
  exact if_congr (by simp) rfl rfl

theorem valuesOf_typed (type : String × Option String) :
    Assoc.valuesOf type (typed handler) = ofType handler type := by
  rw [Assoc.valuesOf, typed, List.filter_map, List.map_map, List.filter_filter, ofType]
  refine (List.map_id' _).trans (List.filter_congr fun account _ => ?_)
  rw [Bool.and_comm]
  rfl

/-- A type without an uncovered pair may be left out. -/
theorem scan_eq_without {type : String × Option String}
    (covered : uncovered handler (ofType handler type) = []) :
    scan handler =
      (Assoc.gather (Assoc.without type (typed handler))).filterMap (typeFinding? handler) := by
  rw [scan_eq_gather, ← Assoc.without_gather, Assoc.without, List.filterMap_filter]
  refine List.filterMap_congr fun entry inside => ?_
  rcases entry with ⟨key, group⟩
  by_cases here : key = type
  · subst here
    have none : typeFinding? handler (key, group) = none := by
      rw [typeFinding?]
      split
      · rename_i several
        have nonempty : group ≠ [] := by
          rintro rfl
          simp at several
        have whole := (Assoc.mem_gather nonempty).1 inside
        rw [valuesOf_typed] at whole
        exact groupFinding?_eq_none handler group (whole ▸ covered)
      · rfl
    simp [none]
  · simp [here]

theorem mem_ofType_without (h : handler.Denies account kind) (apart : isEligible account = false)
    {other : AccountFact} {type : String × Option String} (inside : other ∈ ofType handler type) :
    other ∈ ofType (handler.without account.name kind) type := by
  rcases mem_ofType.1 inside with ⟨present, eligible, typed⟩
  have ne : other ≠ account := by
    rintro rfl
    simp [apart] at eligible
  refine mem_ofType.2 ⟨?_, eligible, typed⟩
  rw [← h.withoutAt_of_ne present ne]
  exact List.mem_map_of_mem present

theorem uncovered_eq_nil_of_more {more : List AccountFact} {fewer : List AccountFact}
    (distinct : fewer.Nodup) (among : ∀ other ∈ fewer, other ∈ more)
    (covered : uncovered handler more = []) : uncovered handler fewer = [] := by
  refine List.filter_eq_nil_iff.2 fun ⟨a, b⟩ pair => ?_
  have ne : a ≠ b := ne_of_mem_pairs distinct pair
  rcases mem_of_mem_pairs pair with ⟨first, second⟩
  have all : ∀ {a b : AccountFact}, (a, b) ∈ pairs more → areDistinct handler a b = true := by
    intro a b inside
    have none := List.filter_eq_nil_iff.1 covered (a, b) inside
    simpa using none
  -- The two accounts are a pair of the longer list, in one order or the other.
  rcases mem_pairs_or (among a first) (among b second) ne with pair | pair
  · simp [all pair]
  · simp [areDistinct_comm handler a b, all pair]

/-- An account that becomes eligible without an uncovered pair changes nothing. -/
theorem scan_of_covered (h : handler.Denies account kind) (apart : isEligible account = false)
    (covered : uncovered handler (ofType (handler.without account.name kind) (typeOf account)) = []) :
    scan (handler.without account.name kind) = scan handler := by
  have finding_eq : typeFinding? (handler.without account.name kind) = typeFinding? handler := by
    funext entry
    rw [typeFinding?, typeFinding?, groupFinding?_of_loses h.loses
      (List.forall₂_same.2 fun _ _ => .kept)]
  have distinct : (ofType handler (typeOf account)).Nodup := h.names.of_map.filter _
  have before : uncovered handler (ofType handler (typeOf account)) = [] :=
    uncovered_eq_nil_of_more distinct (fun _ => mem_ofType_without h apart) covered
  -- Apart from the type of the account the tables are the same.
  have others : ∀ handler : HandlerFacts, Assoc.without (typeOf account) (typed handler) =
      handler.accounts.filterMap fun other =>
        if isEligible other && typeOf other != typeOf account then some (typeOf other, other)
        else none := by
    intro handler
    rw [Assoc.without, typed, List.filter_map, List.filter_filter, map_filter_eq_filterMap]
    refine List.filterMap_congr fun other _ => ?_
    rw [Bool.and_comm]
    rfl
  have tables : Assoc.without (typeOf account) (typed (handler.without account.name kind)) =
      Assoc.without (typeOf account) (typed handler) := by
    rw [others, others, h.filterMap_eq_iff]
    have typeKept : typeOf (account.without kind) = typeOf account := rfl
    simp [typeKept]
  rw [scan_eq_without before, scan_eq_without (uncovered_eq_of_loses h.loses ▸ covered), finding_eq,
    tables]

theorem one_lt_length_of_uncovered {group : List AccountFact} (bare : uncovered handler group ≠ []) :
    1 < group.length := by
  rcases group with - | ⟨a, - | ⟨b, rest⟩⟩
  · exact absurd rfl bare
  · exact absurd rfl bare
  · simp

theorem listed_params (first : AccountFact) (names : List String)
    (bare : List (AccountFact × AccountFact)) :
    (finding handler first names bare).listed "params" = names.map .text :=
  rfl

/-- A finding names eligible accounts of the handler. -/
theorem exists_of_mem_listed {f : Finding} (member : f ∈ scan handler) {name : String}
    (named : .text name ∈ f.listed "params") :
    ∃ other ∈ handler.accounts, isEligible other = true ∧ other.name = name := by
  rcases mem_scan_iff.1 member with ⟨first, rest, inside, -, rfl⟩
  rw [listed_params] at named
  have listed : name ∈ (first :: rest).map AccountFact.name := by simpa using named
  rcases List.mem_map.1 listed with ⟨other, among, same⟩
  obtain ⟨-, type, whole⟩ := mem_groups.1 inside
  rw [whole] at among
  rcases mem_ofType.1 among with ⟨present, eligible, -⟩
  exact ⟨other, present, eligible, same⟩

/-- An account that becomes eligible with an uncovered pair in its group is named in a finding, and it
was named in none before. -/
theorem scan_ne_of_uncovered (h : handler.Denies account kind) (apart : isEligible account = false)
    (eligible : isEligible (account.without kind) = true)
    (bare : uncovered handler (ofType (handler.without account.name kind) (typeOf account)) ≠ []) :
    scan (handler.without account.name kind) ≠ scan handler := by
  intro same
  have among : account.without kind ∈
      ofType (handler.without account.name kind) (typeOf account) := by
    refine mem_ofType.2 ⟨?_, eligible, rfl⟩
    rw [← HandlerFacts.Denies.withoutAt_self]
    exact List.mem_map_of_mem h.inside
  have inside := mem_groups.2 ⟨one_lt_length_of_uncovered bare, _, rfl⟩
  rw [← uncovered_eq_of_loses h.loses] at bare
  generalize ofType (handler.without account.name kind) (typeOf account) = group at *
  cases group with
  | nil => cases among
  | cons first rest =>
    have member := mem_scan_iff.2 ⟨first, rest, inside, bare, rfl⟩
    rw [same] at member
    have named : Value.text account.name ∈ (finding (handler.without account.name kind) first
        ((first :: rest).map AccountFact.name)
        (uncovered (handler.without account.name kind) (first :: rest))).listed "params" := by
      rw [listed_params]
      have listed : account.name ∈ (first :: rest).map AccountFact.name :=
        List.mem_map.2 ⟨_, among, rfl⟩
      simpa using listed
    rcases exists_of_mem_listed member named with ⟨other, present, eligible', name⟩
    obtain rfl := h.eq_of_name present name
    simp [apart] at eligible'

theorem scan_without_iff (h : handler.Denies account kind) :
    scan (handler.without account.name kind) = scan handler ↔ ¬ Sees handler account kind := by
  by_cases creates : kind ∈ AccountKind.creation
  · have apart : isEligible account = false := by
      simp [isEligible, AccountKind.isCreated_of_isOff h.off creates]
    cases eligible : isEligible (account.without kind) with
    | false =>
      refine iff_of_true (scan_of_eligible h (eligible.trans apart.symm)) fun sees => ?_
      simpa [eligible] using sees.eligible
    | true =>
      by_cases covered :
          uncovered handler (ofType (handler.without account.name kind) (typeOf account)) = []
      · exact iff_of_true (scan_of_covered h apart covered) fun sees => sees.bare covered
      · exact iff_of_false (scan_ne_of_uncovered h apart eligible covered)
          (not_not_intro ⟨creates, eligible, covered⟩)
  · have same : isEligible (account.without kind) = isEligible account := by
      rw [isEligible, AccountKind.isCreated_without creates]
      rfl
    exact iff_of_true (scan_of_eligible h same) fun sees => creates sees.creates

end DuplicateAccounts

end AccountAudit
