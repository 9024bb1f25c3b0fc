import AccountAudit.Detector.Builtin
import AccountAudit.Proofs.Flag.Query

/-!
# Denied creation

Three built-in detectors ask whether an account has an attribute of a kind that creates it. An attribute
that denies such a kind is there as well as one that states it, so to them the account counts as created.
This module says of two of these detectors when this matters, that is, when the findings differ from
those on the account without the attribute: of the one about missing signers (`SignerAuthorization.Sees`)
and of the one about initialization (`Reinitialization.Sees`).
-/

namespace AccountAudit

variable {handler handler' : HandlerFacts} {account account' : AccountFact} {kind : String}

/-! ## Creation -/

namespace AccountKind

theorem isCreated_of_isOff (off : account.IsOff kind) (creates : kind ∈ creation) :
    isCreated account = true :=
  List.any_eq_true.2 ⟨kind, creates, off.has⟩

theorem isCreated_without (other : kind ∉ creation) :
    isCreated (account.without kind) = isCreated account := by
  have kept : ∀ k ∈ creation, (account.without kind).has k = account.has k := by
    intro k inside
    apply AccountFact.has_without
    rintro rfl
    exact other inside
  simp only [isCreated, creation, List.any_cons, List.any_nil, kept "init" (by decide),
    kept "init_if_needed" (by decide), kept "zero" (by decide)]

end AccountKind

/-! ## Missing signer authorization -/

namespace SignerAuthorization

variable {facts : FactBase}

/-- The account counts as created because of the flag, and would be reported without it. -/
structure Sees (facts : FactBase) (handler : HandlerFacts) (account : AccountFact) (kind : String) :
    Prop where
  creates : kind ∈ AccountKind.creation
  reported : reports facts handler (account.without kind) = true

theorem isGuarded_of_loses (h : handler.Loses kind handler') (related : account.Loses kind account') :
    isGuarded handler' account' = isGuarded handler account := by
  simp only [isGuarded, namesSigner, h.signerIndices, h.evidence, h.links, related.index,
    related.touches, related.attr?_eq "has_one" (by decide)]

theorem scan_eq_of_loses (h : handler.Loses kind handler') :
    scan facts handler' = handler'.accounts.filterMap fun account =>
      if reports facts handler account then some (finding handler account) else none := by
  have reported : reports facts handler' = reports facts handler := by
    funext account
    rw [reports, isGuarded_of_loses h .kept, h.possiblyGuarded .kept, reports]
  have said : finding handler' = finding handler := by
    funext account
    simp only [finding, h.name, h.signerNames]
  rw [scan, reported, said, map_filter_eq_filterMap]

theorem reports_without (off : account.IsOff kind) (other : kind ∉ AccountKind.creation) :
    reports facts handler (account.without kind) = reports facts handler account := by
  have related : account.Loses kind (account.without kind) := .lost off
  have candidate : isCandidate facts (account.without kind) = isCandidate facts account := by
    simp only [isCandidate, dataNamesAuthority, related.isSigner, related.isMut, related.typeKind,
      related.name, related.innerType, AccountKind.isCreated_without other]
  rw [reports, candidate, isGuarded_of_loses (.refl kind handler) related,
    (HandlerFacts.Loses.refl kind handler).possiblyGuarded related, reports]

theorem reports_of_isOff (off : account.IsOff kind) (creates : kind ∈ AccountKind.creation) :
    reports facts handler account = false := by
  simp [reports, isCandidate, AccountKind.isCreated_of_isOff off creates]

theorem scan_without_iff (h : handler.Denies account kind) :
    scan facts (handler.without account.name kind) = scan facts handler ↔
      ¬ Sees facts handler account kind := by
  rw [scan_eq_of_loses h.loses, scan_eq_of_loses (.refl kind handler), h.filterMap_eq_iff]
  -- The finding itself does not depend on attributes, so it is a question of reporting.
  have said : finding handler (account.without kind) = finding handler account := rfl
  rw [said]
  by_cases creates : kind ∈ AccountKind.creation
  · rw [reports_of_isOff h.off creates]
    cases reported : reports facts handler (account.without kind) with
    | false =>
      refine iff_of_true rfl fun sees => ?_
      simpa [reported] using sees.reported
    | true => exact iff_of_false (by simp) (not_not_intro ⟨creates, reported⟩)
  · rw [reports_without h.off creates]
    exact iff_of_true rfl fun sees => creates sees.creates

end SignerAuthorization

/-! ## Repeated and front-run initialization -/

namespace Reinitialization

/-- The flag counts as a creation: it gives a finding about the creation, or hides one about another
way to initialize the account. -/
inductive Sees (handler : HandlerFacts) (account : AccountFact) (kind : String) : Prop where
  /-- A flag that denies that the account is initialized if needed is taken for one that says so. -/
  | needed (denied : kind = "init_if_needed") (unchecked : flagMayBeChecked handler account = false)
  /-- A flag that denies that the account is initialized is taken for one that says so. -/
  | global (denied : kind = "init") (alone : account.has "init_if_needed" = false)
      (found : singletonFinding? handler account ≠ none)
  /-- A flag is asked first, which keeps the one about initialization from being asked. -/
  | first (denied : kind = "init_if_needed") (created : account.has "init" = true)
      (found : singletonFinding? handler account ≠ none)
  /-- An account that is written by hand counts as created. -/
  | rewritten (location : Location) (creates : kind ∈ AccountKind.creation)
      (initializer : isInitializer handler = true)
      (writes : (account.index, location) ∈ written handler)
      (existing : isExisting (account.without kind) = true)
      (unchecked : flagMayBeChecked handler account = false)

/-! ### What is asked of guards -/

theorem flagMayBeChecked_of_loses (h : handler.Loses kind handler')
    (related : account.Loses kind account') :
    flagMayBeChecked handler' account' = flagMayBeChecked handler account := by
  simp only [flagMayBeChecked, h.evidence, related.touches, h.possiblyGuarded related]

theorem hasAuthority_of_loses (h : handler.Loses kind handler') :
    hasAuthority handler' = hasAuthority handler := by
  have addressed : (handler'.signers.any fun signer => (signer.attr? "address").any (!·.isUnknown)) =
      handler.signers.any fun signer => (signer.attr? "address").any (!·.isUnknown) := by
    refine any_eq_of_forall₂ h.signers fun signer signer' related => ?_
    rw [related.attr?_eq "address" (by decide)]
  simp only [hasAuthority, h.signerIndices, h.evidence, addressed]

theorem ifNeededFinding?_of_loses (h : handler.Loses kind handler')
    (related : account.Loses kind account') :
    ifNeededFinding? handler' account' = ifNeededFinding? handler account := by
  simp only [ifNeededFinding?, flagMayBeChecked_of_loses h related, h.name, related.name,
    related.location]

theorem singletonFinding?_of_loses (h : handler.Loses kind handler')
    (related : account.Loses kind account') :
    singletonFinding? handler' account' = singletonFinding? handler account := by
  have seeds : hasConstantSeeds account' = hasConstantSeeds account := by
    rw [hasConstantSeeds, related.attr?_eq "seeds" (by decide), hasConstantSeeds]
  simp only [singletonFinding?, seeds, h.possiblyGuarded related, hasAuthority_of_loses h, h.name,
    related.name, related.location]

/-! ### Patterns -/

/-- The pattern that a finding names. -/
def pattern (f : Finding) : Option Value :=
  f.metadata.lookup "pattern"

theorem pattern_of_ifNeeded {f : Finding} (found : ifNeededFinding? handler account = some f) :
    pattern f = some (.text "init_if_needed") := by
  unfold ifNeededFinding? at found
  split at found
  · cases found
  · obtain rfl := Option.some.inj found
    rfl

theorem pattern_of_singleton {f : Finding} (found : singletonFinding? handler account = some f) :
    pattern f = some (.text "global_singleton") := by
  unfold singletonFinding? at found
  split at found
  · obtain rfl := Option.some.inj found
    rfl
  · cases found

theorem pattern_of_rewrite {location : Location} {f : Finding}
    (found : rewriteFinding? handler account location = some f) :
    pattern f = some (.text "manual_initializer") := by
  unfold rewriteFinding? at found
  split at found
  · obtain rfl := Option.some.inj found
    rfl
  · cases found

/-- A finding about an initializer that is written by hand. -/
def isRewrite (f : Finding) : Bool :=
  decide (pattern f = some (.text "manual_initializer"))

theorem isRewrite_of_creation {f : Finding} (found : creationFinding? handler account = some f) :
    isRewrite f = false := by
  unfold creationFinding? at found
  split at found
  · rw [isRewrite, pattern_of_ifNeeded found]
    decide
  · split at found
    · rw [isRewrite, pattern_of_singleton found]
      decide
    · cases found

theorem isRewrite_of_mem_rewriteFindings {f : Finding} (member : f ∈ rewriteFindings handler) :
    isRewrite f = true := by
  unfold rewriteFindings at member
  split at member
  · rcases List.mem_filterMap.1 member with ⟨⟨index, location⟩, -, found⟩
    rcases Option.bind_eq_some_iff.1 found with ⟨account, -, found⟩
    exact decide_eq_true (pattern_of_rewrite found)
  · cases member

/-- The findings change if those about creation change, or those about rewriting. -/
theorem scan_eq_scan_iff : scan handler' = scan handler ↔
    handler'.accounts.filterMap (creationFinding? handler') =
      handler.accounts.filterMap (creationFinding? handler) ∧
    rewriteFindings handler' = rewriteFindings handler := by
  have created : ∀ facts : HandlerFacts, ∀ f ∈ facts.accounts.filterMap (creationFinding? facts),
      isRewrite f = false := by
    intro facts f member
    rcases List.mem_filterMap.1 member with ⟨account, -, found⟩
    exact isRewrite_of_creation found
  have rewritten : ∀ facts : HandlerFacts, ∀ f ∈ rewriteFindings facts, isRewrite f = true :=
    fun _ _ => isRewrite_of_mem_rewriteFindings
  exact append_eq_append_iff_of_all (created handler) (created handler') (rewritten handler)
    (rewritten handler')

/-! ### Creation -/

theorem creationFinding?_of_loses (h : handler.Loses kind handler') :
    creationFinding? handler' = creationFinding? handler := by
  funext account
  rw [creationFinding?, ifNeededFinding?_of_loses h .kept, singletonFinding?_of_loses h .kept,
    creationFinding?]

theorem ifNeededFinding?_eq_none :
    ifNeededFinding? handler account = none ↔ flagMayBeChecked handler account = true := by
  unfold ifNeededFinding?
  split <;> simp_all

/-- A finding about a global account is none about a second initialization. -/
theorem singletonFinding?_eq_ifNeededFinding? :
    singletonFinding? handler account = ifNeededFinding? handler account ↔
      ifNeededFinding? handler account = none ∧ singletonFinding? handler account = none := by
  constructor
  · intro same
    cases found : singletonFinding? handler account with
    | none => exact ⟨same ▸ found, rfl⟩
    | some f =>
      have patterns := pattern_of_ifNeeded (same ▸ found)
      rw [pattern_of_singleton found] at patterns
      exact absurd patterns (by decide)
  · rintro ⟨first, second⟩
    rw [first, second]

/-- What is found about the creation of an account that denies a flag, if the flag is taken away. -/
theorem creationFinding?_without_iff (off : account.IsOff kind) :
    creationFinding? handler (account.without kind) = creationFinding? handler account ↔
      ¬ (kind = "init_if_needed" ∧ flagMayBeChecked handler account = false ∨
        kind = "init" ∧ account.has "init_if_needed" = false ∧
          singletonFinding? handler account ≠ none ∨
        kind = "init_if_needed" ∧ account.has "init" = true ∧
          singletonFinding? handler account ≠ none) := by
  have related : account.Loses kind (account.without kind) := .lost off
  have needed := ifNeededFinding?_of_loses (.refl kind handler) related
  have single := singletonFinding?_of_loses (.refl kind handler) related
  have present := off.has
  have absent := AccountFact.has_without_self account kind
  rw [creationFinding?, creationFinding?, needed, single]
  by_cases ifNeeded : kind = "init_if_needed"
  · subst ifNeeded
    have kept : (account.without "init_if_needed").has "init" = account.has "init" :=
      AccountFact.has_without (by decide)
    have unchecked : flagMayBeChecked handler account = false ↔
        ¬ ifNeededFinding? handler account = none := by
      rw [ifNeededFinding?_eq_none, Bool.not_eq_true]
    rw [present, absent, kept, unchecked]
    -- Now the attribute behind it is asked, if there is one.
    cases created : account.has "init" with
    | false => simp [@eq_comm _ none]
    | true => simpa using singletonFinding?_eq_ifNeededFinding?
  · have kept : (account.without kind).has "init_if_needed" = account.has "init_if_needed" :=
      AccountFact.has_without (Ne.symm ifNeeded)
    rw [kept]
    by_cases init : kind = "init"
    · subst init
      rw [present, absent]
      cases account.has "init_if_needed" with
      | false => simp [@eq_comm _ none]
      | true => simp
    · have same : (account.without kind).has "init" = account.has "init" :=
        AccountFact.has_without (Ne.symm init)
      simp [same, ifNeeded, init]

/-! ### Initializers written by hand -/

theorem nodup_keys_written (handler : HandlerFacts) :
    ((written handler).map Prod.fst).Nodup := by
  refine Assoc.nodup_keys_filterMap (fun entry made found => ?_) (Assoc.nodup_keys_gather _)
  rcases Option.map_eq_some_iff.1 found with ⟨location, -, rfl⟩
  rfl

theorem rewriteFinding?_of_loses (h : handler.Loses kind handler') :
    rewriteFinding? handler' = rewriteFinding? handler := by
  funext account location
  rw [rewriteFinding?, flagMayBeChecked_of_loses h .kept, h.name, rewriteFinding?]

theorem rewriteFinding?_without_iff (off : account.IsOff kind) (location : Location) :
    rewriteFinding? handler (account.without kind) location =
        rewriteFinding? handler account location ↔
      ¬ (kind ∈ AccountKind.creation ∧ isExisting (account.without kind) = true ∧
        flagMayBeChecked handler account = false) := by
  have checked := flagMayBeChecked_of_loses (.refl kind handler) (.lost off)
  by_cases creates : kind ∈ AccountKind.creation
  · -- As it is the account counts as created, so it is not reported.
    have created : isExisting account = false := by
      simp [isExisting, AccountKind.isCreated_of_isOff off creates]
    rw [rewriteFinding?, rewriteFinding?, checked, created]
    cases isExisting (account.without kind) <;> cases flagMayBeChecked handler account <;>
      simp [creates]
  · have existing : isExisting (account.without kind) = isExisting account := by
      rw [isExisting, AccountKind.isCreated_without creates]
      rfl
    rw [rewriteFinding?, checked, existing]
    exact iff_of_true rfl fun both => creates both.1

theorem rewriteFindings_without_iff (h : handler.Denies account kind) :
    rewriteFindings (handler.without account.name kind) = rewriteFindings handler ↔
      ¬ ∃ location, (account.index, location) ∈ written handler ∧ isInitializer handler = true ∧
        kind ∈ AccountKind.creation ∧ isExisting (account.without kind) = true ∧
        flagMayBeChecked handler account = false := by
  have places : written (handler.without account.name kind) = written handler := rfl
  have initializer : isInitializer (handler.without account.name kind) = isInitializer handler := rfl
  have others : ∀ place ∈ written handler, place.1 ≠ account.index →
      ((handler.without account.name kind).account? place.1).bind
          (rewriteFinding? handler · place.2) =
        (handler.account? place.1).bind (rewriteFinding? handler · place.2) := by
    intro place _ ne
    rw [h.account?_of_ne ne]
  rw [rewriteFindings, rewriteFindings, places, initializer, rewriteFinding?_of_loses h.loses]
  by_cases init : isInitializer handler = true
  · rw [if_pos init, if_pos init]
    by_cases writes : ∃ location, (account.index, location) ∈ written handler
    · rcases writes with ⟨location, writes⟩
      -- The account is written at one place, and there it decides.
      have only : ∀ place ∈ written handler, place.1 = account.index →
          place = (account.index, location) := fun place inside same =>
        List.inj_on_of_nodup_map (nodup_keys_written handler) inside writes same
      have decided := filterMap_eq_filterMap_iff (nodup_keys_written handler).of_map writes
        fun place inside ne => others place inside fun same => ne (only place inside same)
      rw [decided, h.account?_self, h.positions account h.inside]
      refine (rewriteFinding?_without_iff h.off location).trans (not_congr ⟨?_, ?_⟩)
      · rintro ⟨creates, existing, unchecked⟩
        exact ⟨location, writes, init, creates, existing, unchecked⟩
      · rintro ⟨-, -, -, rest⟩
        exact rest
    · refine iff_of_true (List.filterMap_congr fun place inside => others place inside ?_) ?_
      · intro same
        exact writes ⟨place.2, same ▸ inside⟩
      · rintro ⟨location, found, -⟩
        exact writes ⟨location, found⟩
  · rw [if_neg init, if_neg init]
    exact iff_of_true rfl fun ⟨_, _, yes, _⟩ => init yes

theorem scan_without_iff (h : handler.Denies account kind) :
    scan (handler.without account.name kind) = scan handler ↔ ¬ Sees handler account kind := by
  rw [scan_eq_scan_iff, creationFinding?_of_loses h.loses, h.filterMap_eq_iff,
    creationFinding?_without_iff h.off, rewriteFindings_without_iff h, ← not_or]
  refine not_congr ⟨?_, ?_⟩
  · rintro ((⟨denied, unchecked⟩ | ⟨denied, alone, found⟩ | ⟨denied, created, found⟩) |
      ⟨location, writes, initializer, creates, existing, unchecked⟩)
    · exact .needed denied unchecked
    · exact .global denied alone found
    · exact .first denied created found
    · exact .rewritten location creates initializer writes existing unchecked
  · intro sees
    cases sees with
    | needed denied unchecked => exact .inl (.inl ⟨denied, unchecked⟩)
    | global denied alone found => exact .inl (.inr (.inl ⟨denied, alone, found⟩))
    | first denied created found => exact .inl (.inr (.inr ⟨denied, created, found⟩))
    | rewritten location creates initializer writes existing unchecked =>
      exact .inr ⟨location, writes, initializer, creates, existing, unchecked⟩

end Reinitialization

end AccountAudit
