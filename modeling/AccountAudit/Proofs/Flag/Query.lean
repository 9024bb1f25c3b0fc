import AccountAudit.Guard
import AccountAudit.Proofs.Flag.Extraction
import Mathlib.Data.List.Nodup

/-!
# Guards do not see flags that are not set

Facts from which a flag that is not set was taken away are related to the facts as they were
(`HandlerFacts.Loses`). Every query about guards gives the same answer on both: a flag that is not set
mentions nothing, is understood, and is no `constraint`. What can tell the two apart is only to ask
whether an account has an attribute of the kind at all.
-/

namespace AccountAudit

/-! ## Accounts -/

/-- The account as it was, or without a flag that was not set. -/
inductive AccountFact.Loses (kind : String) (account : AccountFact) : AccountFact → Prop where
  | kept : Loses kind account account
  | lost (off : account.IsOff kind) : Loses kind account (account.without kind)

namespace AccountFact

variable {account account' : AccountFact} {kind : String}

theorem attr?_without {other : String} (ne : other ≠ kind) :
    (account.without kind).attr? other = account.attr? other :=
  Assoc.lookup_without ne _

theorem has_without {other : String} (ne : other ≠ kind) :
    (account.without kind).has other = account.has other := by
  rw [has, attr?_without ne, has]

theorem has_without_self (account : AccountFact) (kind : String) :
    (account.without kind).has kind = false := by
  rw [has, attr?, without, Assoc.lookup_without_self]
  rfl

theorem IsOff.has (off : account.IsOff kind) : account.has kind = true := by
  rcases List.mem_map.1 off.given with ⟨⟨k, value⟩, inside, rfl⟩
  rw [AccountFact.has, attr?]
  cases found : account.attributes.lookup k with
  | none => simpa using List.lookup_eq_none_iff.1 found _ inside
  | some value => rfl

namespace Loses

theorem index (h : account.Loses kind account') : account'.index = account.index := by
  cases h <;> rfl

theorem name (h : account.Loses kind account') : account'.name = account.name := by
  cases h <;> rfl

theorem typeTag (h : account.Loses kind account') : account'.typeTag = account.typeTag := by
  cases h <;> rfl

theorem typeKind (h : account.Loses kind account') : account'.typeKind = account.typeKind := by
  cases h <;> rfl

theorem innerType (h : account.Loses kind account') : account'.innerType = account.innerType := by
  cases h <;> rfl

theorem isMut (h : account.Loses kind account') : account'.isMut = account.isMut := by
  cases h <;> rfl

theorem isSigner (h : account.Loses kind account') : account'.isSigner = account.isSigner := by
  cases h <;> rfl

theorem location (h : account.Loses kind account') : account'.location = account.location := by
  cases h <;> rfl

theorem attr?_eq (h : account.Loses kind account') (other : String)
    (noFlag : other ∉ Resolved.flagKinds) : account'.attr? other = account.attr? other := by
  cases h with
  | kept => rfl
  | lost off =>
    apply attr?_without
    rintro rfl
    exact noFlag off.flag

theorem has_eq (h : account.Loses kind account') (other : String)
    (noFlag : other ∉ Resolved.flagKinds) : account'.has other = account.has other := by
  rw [has, h.attr?_eq other noFlag, has]

/-- What an account has that was not understood. -/
theorem unknown (h : account.Loses kind account') :
    account'.attributes.filter (·.2.isUnknown) = account.attributes.filter (·.2.isUnknown) := by
  cases h with
  | kept => rfl
  | lost off => exact unknown_without off

theorem touches (h : account.Loses kind account') (ev : Evidence) (segments : List String) :
    ev.touches account' segments = ev.touches account segments := by
  simp only [Evidence.touches, h.name]

end Loses
end AccountFact

/-! ## Handlers -/

namespace HandlerFacts

/-- The handler, some of whose accounts may have lost a flag that was not set. -/
structure Loses (kind : String) (handler handler' : HandlerFacts) : Prop where
  same : handler' = { handler with accounts := handler'.accounts }
  accounts : List.Forall₂ (AccountFact.Loses kind) handler.accounts handler'.accounts

theorem Loses.refl (kind : String) (handler : HandlerFacts) : handler.Loses kind handler where
  same := rfl
  accounts := List.forall₂_same.2 fun _ _ => .kept

theorem loses_without {handler : HandlerFacts} {name kind : String}
    (off : ∀ account ∈ handler.accounts, account.name = name → account.IsOff kind) :
    handler.Loses kind (handler.without name kind) where
  same := rfl
  accounts := by
    refine List.forall₂_map_right_iff.2 (List.forall₂_same.2 fun account inside => ?_)
    unfold AccountFact.withoutAt
    split
    · rename_i here
      exact .lost (off account inside here)
    · exact .kept

namespace Loses

variable {handler handler' : HandlerFacts} {account account' : AccountFact} {kind : String}

theorem name (h : handler.Loses kind handler') : handler'.name = handler.name := by
  rw [h.same]

theorem args (h : handler.Loses kind handler') : handler'.args = handler.args := by
  rw [h.same]

theorem invokes (h : handler.Loses kind handler') : handler'.invokes = handler.invokes := by
  rw [h.same]

theorem arithmetic (h : handler.Loses kind handler') : handler'.arithmetic = handler.arithmetic := by
  rw [h.same]

theorem checks (h : handler.Loses kind handler') : handler'.checks = handler.checks := by
  rw [h.same]

theorem calls (h : handler.Loses kind handler') : handler'.calls = handler.calls := by
  rw [h.same]

theorem assignments (h : handler.Loses kind handler') :
    handler'.assignments = handler.assignments := by
  rw [h.same]

theorem checksBefore (h : handler.Loses kind handler') (seq : Nat) :
    handler'.checksBefore seq = handler.checksBefore seq := by
  rw [HandlerFacts.checksBefore, h.checks, HandlerFacts.checksBefore]

theorem callsNamed (h : handler.Loses kind handler') (names : List String) :
    handler'.callsNamed names = handler.callsNamed names := by
  rw [HandlerFacts.callsNamed, h.calls, HandlerFacts.callsNamed]

/-! ### Accounts of a handler -/

theorem account? (h : handler.Loses kind handler') (index : Nat) :
    Option.Rel (AccountFact.Loses kind) (handler.account? index) (handler'.account? index) :=
  rel_getElem? h.accounts index

theorem accountNamed? (h : handler.Loses kind handler') (name : String) :
    Option.Rel (AccountFact.Loses kind) (handler.accountNamed? name) (handler'.accountNamed? name) :=
  rel_find? h.accounts fun _ _ related => by rw [related.name]

theorem signers (h : handler.Loses kind handler') :
    List.Forall₂ (AccountFact.Loses kind) handler.signers handler'.signers :=
  forall₂_filter h.accounts fun _ _ related => related.isSigner

theorem signerIndices (h : handler.Loses kind handler') :
    handler'.signers.map AccountFact.index = handler.signers.map AccountFact.index :=
  map_eq_of_forall₂ h.signers fun _ _ related => related.index

theorem signerNames (h : handler.Loses kind handler') :
    handler'.signers.map AccountFact.name = handler.signers.map AccountFact.name :=
  map_eq_of_forall₂ h.signers fun _ _ related => related.name

/-! ### Guards -/

/-- A `constraint` is no flag, so none is lost. -/
theorem constraintEvidence (h : handler.Loses kind handler') :
    handler'.constraints.map (fun (_, value) => Evidence.ofConstraint value) =
      handler.constraints.map fun (_, value) => Evidence.ofConstraint value := by
  have split : ∀ facts : HandlerFacts,
      facts.constraints.map (fun (_, value) => Evidence.ofConstraint value) =
        facts.accounts.filterMap fun account =>
          (account.attr? "constraint").map Evidence.ofConstraint := by
    intro facts
    rw [HandlerFacts.constraints, List.map_filterMap]
    simp only [Option.map_map, Function.comp_def]
  rw [split, split]
  refine filterMap_eq_of_forall₂ h.accounts fun account account' related => ?_
  rw [related.attr?_eq "constraint" (by decide)]

theorem evidence (h : handler.Loses kind handler') : handler'.evidence = handler.evidence := by
  rw [HandlerFacts.evidence, h.constraintEvidence, h.checks, HandlerFacts.evidence]

theorem evidenceBefore (h : handler.Loses kind handler') (seq : Nat) :
    handler'.evidenceBefore seq = handler.evidenceBefore seq := by
  rw [HandlerFacts.evidenceBefore, h.constraintEvidence, h.checksBefore, HandlerFacts.evidenceBefore]

theorem links (h : handler.Loses kind handler') : handler'.links = handler.links := by
  funext index others ops
  rw [HandlerFacts.links, h.evidence, HandlerFacts.links]

/-- What was not understood is not lost, so it may still guard what it did. -/
theorem possiblyGuarded (h : handler.Loses kind handler') (related : account.Loses kind account') :
    handler'.possiblyGuarded account' = handler.possiblyGuarded account := by
  have own : account'.unresolvedKinds = account.unresolvedKinds := by
    rw [AccountFact.unresolvedKinds, related.unknown, AccountFact.unresolvedKinds]
  have mentioned : (handler'.accounts.any fun other => other.attributes.any fun entry =>
        entry.2.isUnknown && entry.2.refs.contains account.index) =
      handler.accounts.any fun other => other.attributes.any fun entry =>
        entry.2.isUnknown && entry.2.refs.contains account.index := by
    refine any_eq_of_forall₂ h.accounts fun other other' lost => ?_
    have among : ∀ facts : AccountFact, (facts.attributes.any fun entry =>
        entry.2.isUnknown && entry.2.refs.contains account.index) =
          (facts.attributes.filter (·.2.isUnknown)).any (·.2.refs.contains account.index) := by
      intro facts
      rw [List.any_filter]
    rw [among, among, lost.unknown]
  rw [HandlerFacts.possiblyGuarded, own, related.index, mentioned, h.checks,
    HandlerFacts.possiblyGuarded]

end Loses

/-! ### One account that denies a flag -/

/-- The account is one of the handler's and says that a flag is not set; as in every extracted handler,
names and positions tell accounts apart. -/
structure Denies (handler : HandlerFacts) (account : AccountFact) (kind : String) : Prop where
  inside : account ∈ handler.accounts
  off : account.IsOff kind
  names : (handler.accounts.map AccountFact.name).Nodup
  positions : ∀ other ∈ handler.accounts, handler.account? other.index = some other

namespace Denies

variable {handler : HandlerFacts} {account : AccountFact} {kind : String}

theorem eq_of_name (h : handler.Denies account kind) {other : AccountFact}
    (inside : other ∈ handler.accounts) (same : other.name = account.name) : other = account :=
  List.inj_on_of_nodup_map h.names inside h.inside same

theorem loses (h : handler.Denies account kind) :
    handler.Loses kind (handler.without account.name kind) :=
  loses_without fun _ inside same => h.eq_of_name inside same ▸ h.off

theorem withoutAt_self (account : AccountFact) (kind : String) :
    account.withoutAt account.name kind = account.without kind :=
  if_pos rfl

theorem withoutAt_of_ne (h : handler.Denies account kind) {other : AccountFact}
    (inside : other ∈ handler.accounts) (ne : other ≠ account) :
    other.withoutAt account.name kind = other :=
  if_neg fun same => ne (h.eq_of_name inside same)

theorem account?_self (h : handler.Denies account kind) :
    (handler.without account.name kind).account? account.index = some (account.without kind) := by
  have here : handler.accounts[account.index]? = some account := h.positions account h.inside
  rw [HandlerFacts.account?, HandlerFacts.without, List.getElem?_map, here, Option.map_some,
    withoutAt_self]

theorem account?_of_ne (h : handler.Denies account kind) {index : Nat} (ne : index ≠ account.index) :
    (handler.without account.name kind).account? index = handler.account? index := by
  rw [HandlerFacts.account?, HandlerFacts.without, List.getElem?_map, HandlerFacts.account?]
  cases found : handler.accounts[index]? with
  | none => rfl
  | some other =>
    have inside := List.mem_of_getElem? found
    -- The other account stands at another position, so it is another account.
    have different : other ≠ account := by
      rintro rfl
      have distinct : handler.accounts.Nodup := h.names.of_map
      have here : handler.accounts[other.index]? = some other := h.positions other inside
      have inRange := (List.getElem?_eq_some_iff.1 found).1
      exact ne ((List.getElem?_inj inRange distinct).1 (found.trans here.symm))
    rw [Option.map_some, h.withoutAt_of_ne inside different]

/-- What is made of the accounts one by one changes if what is made of the one account does. -/
theorem filterMap_eq_iff {α : Type} (h : handler.Denies account kind) (f : AccountFact → Option α) :
    (handler.without account.name kind).accounts.filterMap f = handler.accounts.filterMap f ↔
      f (account.without kind) = f account := by
  have distinct : handler.accounts.Nodup := h.names.of_map
  have others : ∀ other ∈ handler.accounts, other ≠ account →
      f (other.withoutAt account.name kind) = f other := by
    intro other inside ne
    rw [h.withoutAt_of_ne inside ne]
  rw [HandlerFacts.without, List.filterMap_map, ← withoutAt_self]
  exact filterMap_eq_filterMap_iff distinct h.inside others

end Denies
end HandlerFacts
end AccountAudit
