import AccountAudit.Detector.Builtin
import AccountAudit.Proofs.Assoc
import AccountAudit.Proofs.Fact.Traversal
import AccountAudit.Proofs.Guard.Reference

/-!
# Strict detectors

Some steps of a detector have no result for all arguments: it follows the position of an account, takes
the first item of a list or the two operands of an operation, or prints an expression. The built-in
detectors pass over such a step when it has no result. In their strict forms (`Detector.strict`) it is
a fault, and the detector fails with it.

On traversable facts no step is a fault, and a strict detector finds what the detector itself finds.
-/

namespace AccountAudit

/-! ## Steps that can fail -/

namespace Strict

/-- The first item of a sequence of some type. -/
def first {α : Type} (typeName : String) : List α → Except Fault α
  | [] => .error { kind := "IndexError", message := typeName ++ " index out of range" }
  | a :: _ => .ok a

/-- The item in front of the last one. -/
def lastButOne {α : Type} (items : List α) : Except Fault α :=
  match items.reverse with
  | _ :: a :: _ => .ok a
  | _ => .error { kind := "IndexError", message := "list index out of range" }

/-- The items of a list of two. -/
def both {α : Type} : List α → Except Fault (α × α)
  | [a, b] => .ok (a, b)
  | items =>
    .error
      { kind := "ValueError"
        message :=
          if items.length < 2 then
            "not enough values to unpack (expected 2, got " ++ toString items.length ++ ")"
          else "too many values to unpack (expected 2)" }

/-- A number that cannot be written. -/
def unwritable : Fault :=
  { kind := "ValueError", message := DigitExcess.writing.message }

def plain (v : Value) : Except Fault String :=
  if v.isWritable then .ok v.plain else .error unwritable

def render (e : Expr) : Except Fault String :=
  if e.isWritable then .ok e.render else .error unwritable

theorem render_eq {e : Expr} (short : e.hasShortLiterals = true) : render e = .ok e.render :=
  if_pos (Expr.isWritable_of_hasShortLiterals short)

/-- The account at a position, of which some part is used. -/
def account (handler : HandlerFacts) (index : Nat) (part : String) : Except Fault AccountFact :=
  match handler.account? index with
  | some account => .ok account
  | none =>
    .error
      { kind := "AttributeError"
        message := "'NoneType' object has no attribute " ++ Text.quote part }

theorem account_eq {handler : HandlerFacts} {index : Nat} {fact : AccountFact}
    (found : handler.account? index = some fact) (part : String) :
    account handler index part = .ok fact := by
  rw [account, found]

/-- The finding that is made when a condition holds. -/
def findingIf (condition : Except Fault Bool) (made : Except Fault Finding) :
    Except Fault (Option Finding) := do
  if ← condition then return some (← made) else return none

@[simp]
theorem ok_bind {α β : Type} (a : α) (f : α → Except Fault β) : (Except.ok a >>= f) = f a :=
  rfl

@[simp]
theorem map_ok {α β : Type} (f : α → β) (a : α) : f <$> (.ok a : Except Fault α) = .ok (f a) :=
  rfl

@[simp]
theorem pure_eq {α : Type} (a : α) : (pure a : Except Fault α) = .ok a :=
  rfl

@[simp]
theorem ok_or (a b : Bool) : (.ok a <||> .ok b : Except Fault Bool) = .ok (a || b) := by
  cases a <;> rfl

@[simp]
theorem ok_and (a b : Bool) : (.ok a <&&> .ok b : Except Fault Bool) = .ok (a && b) := by
  cases a <;> rfl

@[simp]
theorem findingIf_ok (condition : Bool) (f : Finding) :
    findingIf (.ok condition) (.ok f) = .ok (if condition then some f else none) := by
  cases condition <;> rfl

end Strict

open Strict

/-- A detector that looks at one handler after the other and may fail at each. -/
def Detector.ofSteps (info : DetectorInfo)
    (scan : FactBase → HandlerFacts → Except Fault (List Finding)) : Detector :=
  { info, detect := fun _ facts => List.flatten <$> facts.handlers.mapM (scan facts) }

theorem Detector.detect_ofSteps {info : DetectorInfo} {u : ProgramUnit} {facts : FactBase}
    {tryScan : FactBase → HandlerFacts → Except Fault (List Finding)}
    {scan : FactBase → HandlerFacts → List Finding}
    (agree : ∀ handler ∈ facts.handlers, tryScan facts handler = .ok (scan facts handler)) :
    (ofSteps info tryScan).detect u facts = .ok (facts.handlers.flatMap (scan facts)) := by
  simp only [ofSteps, mapM_eq_ok agree, map_ok, List.flatMap_def]

/-! ## Guards -/

namespace Evidence

/-- `touches`, where the first segment of each path has to exist. -/
def tryTouches (ev : Evidence) (account : AccountFact) (segments : List String) :
    Except Fault Bool :=
  ev.paths.anyM fun path => do
    let root ← first "tuple" path
    return root == account.name && path.tail.any segments.contains

theorem exists_cons_of_mem_paths {ev : Evidence} {path : List String} (member : path ∈ ev.paths) :
    ∃ root inner, path = root :: inner := by
  rcases List.mem_flatMap.1 member with ⟨e, -, inside⟩
  rcases List.mem_map.1 inside with ⟨node, among, rfl⟩
  have isPath : node.kind = .path := by simpa using (List.mem_filter.1 among).2
  rw [Expr.segments, if_pos isPath]
  exact List.exists_cons_of_ne_nil (Expr.segmentsOf_ne_nil _)

@[simp]
theorem tryTouches_eq (ev : Evidence) (account : AccountFact) (segments : List String) :
    ev.tryTouches account segments = .ok (ev.touches account segments) := by
  refine anyM_eq_ok fun path member => ?_
  rcases exists_cons_of_mem_paths member with ⟨root, inner, rfl⟩
  rfl

theorem anyM_tryTouches (evs : List Evidence) (account : AccountFact) (segments : List String) :
    (evs.anyM fun ev => ev.tryTouches account segments) =
      .ok (evs.any fun ev => ev.touches account segments) :=
  anyM_eq_ok fun ev _ => ev.tryTouches_eq account segments

end Evidence

/-! ## Missing signers and owners -/

namespace SignerAuthorization

def tryGuarded (handler : HandlerFacts) (account : AccountFact) : Except Fault Bool :=
  let signers := handler.signers.map AccountFact.index
  .ok (namesSigner account signers) <||>
    (handler.evidence.anyM fun ev => .ok (!ev.unknown) <&&> ev.tryTouches account ["is_signer"]) <||>
    .ok (!signers.isEmpty && handler.links account.index signers equalityOps)

def tryReports (facts : FactBase) (handler : HandlerFacts) (account : AccountFact) :
    Except Fault Bool :=
  .ok (isCandidate facts account) <&&> (not <$> tryGuarded handler account) <&&>
    .ok (!handler.possiblyGuarded account)

def tryScan (facts : FactBase) (handler : HandlerFacts) : Except Fault (List Finding) :=
  handler.accounts.filterMapM fun account =>
    findingIf (tryReports facts handler account) (.ok (finding handler account))

theorem tryGuarded_eq (handler : HandlerFacts) (account : AccountFact) :
    tryGuarded handler account = .ok (isGuarded handler account) := by
  have signs : (handler.evidence.anyM fun ev =>
      .ok (!ev.unknown) <&&> ev.tryTouches account ["is_signer"]) = .ok _ :=
    anyM_eq_ok fun ev _ => by rw [ev.tryTouches_eq, ok_and]
  simp only [tryGuarded, signs, ok_or, isGuarded, Bool.or_assoc]

theorem tryScan_eq (facts : FactBase) (handler : HandlerFacts) :
    tryScan facts handler = .ok (scan facts handler) := by
  rw [scan, map_filter_eq_filterMap]
  refine filterMapM_eq_ok fun account _ => ?_
  simp only [tryReports, tryGuarded_eq, map_ok, ok_and, findingIf_ok, reports, Bool.and_assoc]

end SignerAuthorization

namespace OwnerProgram

def tryReports (handler : HandlerFacts) (account : AccountFact) : Except Fault Bool :=
  .ok (AccountKind.raw.contains account.typeKind && !account.isSigner &&
      !(exempt handler).contains account.index && !validatingKinds.any account.has) <&&>
    (not <$> handler.evidence.anyM fun ev => ev.tryTouches account ["owner"]) <&&>
    .ok (!handler.possiblyGuarded account)

def tryScan (handler : HandlerFacts) : Except Fault (List Finding) :=
  handler.accounts.filterMapM fun account =>
    findingIf (tryReports handler account) (.ok (finding handler account))

theorem tryScan_eq (handler : HandlerFacts) : tryScan handler = .ok (scan handler) := by
  rw [scan, map_filter_eq_filterMap]
  refine filterMapM_eq_ok fun account _ => ?_
  simp only [tryReports, Evidence.anyM_tryTouches, map_ok, ok_and, findingIf_ok, reports, Bool.and_assoc]

end OwnerProgram

/-! ## Arithmetic -/

namespace UncheckedArithmetic

/-- The finding on an operation, whose two operands are shown. -/
def tryFinding (handler : HandlerFacts) (site : ArithmeticSite) : Except Fault Finding := do
  let _ ← both (← site.operands.mapM fun operand => render operand.expr)
  return finding handler site

def tryScan (handler : HandlerFacts) : Except Fault (List Finding) :=
  handler.arithmetic.filterMapM fun site =>
    findingIf (.ok (reports site)) (tryFinding handler site)

theorem tryScan_eq {handler : HandlerFacts} (h : handler.IsTraversable) :
    tryScan handler = .ok (scan handler) := by
  rw [scan, map_filter_eq_filterMap]
  refine filterMapM_eq_ok fun site member => ?_
  have written : (site.operands.mapM fun operand => render operand.expr) =
      .ok (site.operands.map fun operand => operand.expr.render) := by
    refine mapM_eq_ok fun operand among => render_eq (h.short _ ?_)
    exact HandlerFacts.mem_exprs_of_event (HandlerFacts.mem_events_of_arithmetic member)
      (List.mem_map_of_mem among)
  have made : tryFinding handler site = .ok (finding handler site) := by
    rcases h.paired site member with ⟨lhs, rhs, two⟩
    rw [tryFinding, written, two]
    rfl
  rw [made, findingIf_ok]

/-- Strict detectors do fail on other facts: an operand that cannot be shown is a fault. -/
theorem exists_fault_of_operand {handler : HandlerFacts} {site : ArithmeticSite} {operand : Operand}
    (among : operand ∈ site.operands) (long : operand.expr.isWritable = false) :
    ∃ fault, tryFinding handler site = .error fault := by
  unfold tryFinding
  cases written : site.operands.mapM fun operand => render operand.expr with
  | error fault => exact ⟨fault, rfl⟩
  | ok texts =>
    rcases exists_mapM_iff.1 ⟨texts, written⟩ operand among with ⟨text, shown⟩
    simp [render, long] at shown

end UncheckedArithmetic

/-! ## Addresses -/

namespace AddressDerivation

/-- `seedTokens`, where the literals are written. -/
def trySeedTokens (seeds : List Expr) (supplied : List String) : Except Fault (List String) :=
  (seeds.flatMap Expr.walk).filterMapM fun node =>
    match node.kind with
    | .literal => some <$> plain node.head.value
    | .path => .ok (if supplied.contains node.root then none else some node.root)
    | _ => .ok none

def tryEnforced (calls : List CallFact) (checks : List CheckFact) (supplied : List String)
    (seeds : List Expr) : Except Fault Bool := do
  let wanted ← trySeedTokens seeds supplied
  (calls.anyM fun call =>
      .ok (recomputeCalls.contains call.shortName) <&&>
        (List.any · wanted.contains) <$> trySeedTokens (call.args.take 1) supplied) <||>
    .ok (checks.any (comparesSupplied supplied))

/-- `accountFinding?`, where the first of the supplied arguments has to exist. -/
def tryAccountFinding? (handler : HandlerFacts) (account : AccountFact) :
    Except Fault (Option Finding) :=
  match account.attr? "seeds", account.attr? "bump" with
  | some seeds, some (.expression bump _) => do
    let supplied := suppliedAmong handler (bump.flatMap fun e => e.paths.map Expr.root)
    if ← .ok supplied.isEmpty <||>
        tryEnforced handler.calls handler.checks supplied seeds.exprs then return none
    let _ ← first "list" supplied
    return accountFinding? handler account
  | _, _ => .ok none

def tryCallFinding? (handler : HandlerFacts) (call : CallFact) : Except Fault (Option Finding) := do
  let supplied := suppliedAmong handler call.argRoots
  let earlier := handler.calls.filter (·.seq < call.seq)
  if ← .ok supplied.isEmpty <||>
      tryEnforced earlier (handler.checksBefore call.seq) supplied (call.args.take 1) then
    return none
  return callFinding? handler call

def tryScan (handler : HandlerFacts) : Except Fault (List Finding) := do
  let aboutAccounts ← handler.accounts.filterMapM (tryAccountFinding? handler)
  let aboutCalls ← (handler.callsNamed rawDeriveCalls).filterMapM (tryCallFinding? handler)
  return aboutAccounts ++ aboutCalls

theorem trySeedTokens_eq {seeds : List Expr} (short : ∀ e ∈ seeds, e.hasShortLiterals = true)
    (supplied : List String) : trySeedTokens seeds supplied = .ok (seedTokens seeds supplied) := by
  refine filterMapM_eq_ok fun node member => ?_
  rcases List.mem_flatMap.1 member with ⟨e, listed, inside⟩
  cases isKind : node.kind with
  | literal =>
    have writable : node.head.value.isWritable = true :=
      List.all_eq_true.1 (short e listed) _ (Expr.mem_literalsOf inside isKind)
    simp only [plain, writable, if_true, map_ok]
  | _ => rfl

theorem tryEnforced_eq {calls : List CallFact} {seeds : List Expr}
    (shortCalls : ∀ call ∈ calls, ∀ e ∈ call.args, e.hasShortLiterals = true)
    (shortSeeds : ∀ e ∈ seeds, e.hasShortLiterals = true) (checks : List CheckFact)
    (supplied : List String) :
    tryEnforced calls checks supplied seeds = .ok (isEnforced calls checks supplied seeds) := by
  have recomputed : ∀ wanted : List String, (calls.anyM fun call =>
      .ok (recomputeCalls.contains call.shortName) <&&>
        (List.any · wanted.contains) <$> trySeedTokens (call.args.take 1) supplied) =
      .ok (calls.any fun call => recomputeCalls.contains call.shortName &&
        (seedTokens (call.args.take 1) supplied).any wanted.contains) := by
    refine fun wanted => anyM_eq_ok fun call member => ?_
    rw [trySeedTokens_eq fun e among => shortCalls call member e (List.mem_of_mem_take among),
      map_ok, ok_and]
  simp only [tryEnforced, trySeedTokens_eq shortSeeds, ok_bind, recomputed, ok_or, isEnforced]

theorem tryAccountFinding?_eq {handler : HandlerFacts} (h : handler.IsTraversable)
    {account : AccountFact} (member : account ∈ handler.accounts) :
    tryAccountFinding? handler account = .ok (accountFinding? handler account) := by
  unfold tryAccountFinding?
  split
  · rename_i seeds bump refs seeded bumped
    have short : ∀ e ∈ seeds.exprs, e.hasShortLiterals = true :=
      fun e stated => h.short e (HandlerFacts.mem_exprs_of_attr? member seeded stated)
    unfold accountFinding?
    simp only [seeded, bumped, tryEnforced_eq h.shortCalls short, ok_or, ok_bind, pure_eq]
    cases suppliedAmong handler (bump.flatMap fun e => e.paths.map Expr.root) with
    | nil => rfl
    | cons name more =>
      cases isEnforced handler.calls handler.checks (name :: more) seeds.exprs <;> rfl
  · rename_i other
    unfold accountFinding?
    split
    · rename_i seeded bumped
      exact absurd bumped (other _ _ _ seeded)
    · rfl

theorem tryCallFinding?_eq {handler : HandlerFacts} (h : handler.IsTraversable) {call : CallFact}
    (member : call ∈ handler.calls) :
    tryCallFinding? handler call = .ok (callFinding? handler call) := by
  have earlier : ∀ other ∈ handler.calls.filter (·.seq < call.seq), ∀ e ∈ other.args,
      e.hasShortLiterals = true :=
    fun other inside => h.shortCalls other (List.mem_filter.1 inside).1
  have seeds : ∀ e ∈ call.args.take 1, e.hasShortLiterals = true :=
    fun e among => h.shortCalls call member e (List.mem_of_mem_take among)
  unfold tryCallFinding? callFinding?
  simp only [tryEnforced_eq earlier seeds, ok_or, ok_bind, pure_eq]
  split
  · rfl
  · rfl

theorem tryScan_eq {handler : HandlerFacts} (h : handler.IsTraversable) :
    tryScan handler = .ok (scan handler) := by
  have calls : ∀ call ∈ handler.callsNamed rawDeriveCalls, _ :=
    fun call member => tryCallFinding?_eq h (List.mem_filter.1 member).1
  rw [tryScan, filterMapM_eq_ok fun account => tryAccountFinding?_eq h, filterMapM_eq_ok calls]
  rfl

end AddressDerivation

/-! ## Invocations -/

namespace ArbitraryInvocation

/-- The account that the target names is declared as a known program. -/
def tryDeclared (handler : HandlerFacts) (site : InvokeSite) : Except Fault Bool :=
  match site.targetRef with
  | none => .ok false
  | some index => isDeclaredProgram <$> account handler index "type_kind"

def tryComparesTarget (site : InvokeSite) (ev : Evidence) : Except Fault Bool :=
  .ok (!ev.unknown && ev.usesAny equalityOps && ev.hasConstant) <&&>
    (.ok (site.targetRef.any ev.refs.contains) <||>
      ev.paths.anyM fun path => (· == site.target.root) <$> first "tuple" path)

def tryPinned (handler : HandlerFacts) (site : InvokeSite) : Except Fault Bool :=
  .ok site.isConstant <||>
    (.ok (site.target.kind == .path) <&&>
      (tryDeclared handler site <||>
        (handler.evidenceBefore site.seq).anyM (tryComparesTarget site)))

/-- The finding on an invocation, whose target is shown. -/
def tryFinding (handler : HandlerFacts) (site : InvokeSite) : Except Fault Finding := do
  let _ ← render site.target
  return finding handler site

def tryScan (handler : HandlerFacts) : Except Fault (List Finding) :=
  handler.invokes.filterMapM fun site =>
    findingIf (not <$> tryPinned handler site) (tryFinding handler site)

theorem tryDeclared_eq {handler : HandlerFacts} (h : handler.IsTraversable) {site : InvokeSite}
    (member : site ∈ handler.invokes) :
    tryDeclared handler site = .ok ((site.targetRef.bind handler.account?).any isDeclaredProgram) := by
  unfold tryDeclared
  cases named : site.targetRef with
  | none => rfl
  | some index =>
    have stored : index ∈ (BodyFact.invoke site).indices := by simp [BodyFact.indices, named]
    have kept := HandlerFacts.mem_storedIndices_of_event (HandlerFacts.mem_events_of_invoke member)
      stored
    rcases h.followed index kept with ⟨fact, found⟩
    simp only [account_eq found, map_ok, Option.bind_some, found, Option.any_some]

theorem tryComparesTarget_eq (site : InvokeSite) (ev : Evidence) :
    tryComparesTarget site ev = .ok (comparesTarget site ev) := by
  have starts : (ev.paths.anyM fun path => (· == site.target.root) <$> first "tuple" path) =
      .ok (ev.paths.any fun path => path.head? == some site.target.root) := by
    refine anyM_eq_ok fun path member => ?_
    rcases Evidence.exists_cons_of_mem_paths member with ⟨root, inner, rfl⟩
    rfl
  simp only [tryComparesTarget, starts, ok_or, ok_and, comparesTarget]

theorem tryScan_eq {handler : HandlerFacts} (h : handler.IsTraversable) :
    tryScan handler = .ok (scan handler) := by
  rw [scan, map_filter_eq_filterMap]
  refine filterMapM_eq_ok fun site member => ?_
  have compared : (handler.evidenceBefore site.seq).anyM (tryComparesTarget site) = .ok _ :=
    anyM_eq_ok fun ev _ => tryComparesTarget_eq site ev
  have pinned : tryPinned handler site = .ok (isPinned handler site) := by
    simp only [tryPinned, tryDeclared_eq h member, compared, ok_or, ok_and, isPinned]
  have written : render site.target = .ok site.target.render :=
    render_eq (h.short _ (HandlerFacts.mem_exprs_of_event
      (HandlerFacts.mem_events_of_invoke member) List.mem_cons_self))
  simp only [pinned, tryFinding, written, map_ok, ok_bind, pure_eq, findingIf_ok]

end ArbitraryInvocation

/-! ## Initialization and closing -/

namespace Reinitialization

def tryFlagMayBeChecked (handler : HandlerFacts) (account : AccountFact) : Except Fault Bool :=
  (handler.evidence.anyM fun ev => ev.tryTouches account flagSegments) <||>
    .ok (handler.possiblyGuarded account)

def tryIfNeededFinding? (handler : HandlerFacts) (account : AccountFact) :
    Except Fault (Option Finding) := do
  if ← tryFlagMayBeChecked handler account then return none
  return ifNeededFinding? handler account

def tryCreationFinding? (handler : HandlerFacts) (account : AccountFact) :
    Except Fault (Option Finding) :=
  if account.has "init_if_needed" then tryIfNeededFinding? handler account
  else .ok (if account.has "init" then singletonFinding? handler account else none)

/-- The finding on the account at a position, which has to exist. -/
def tryRewriteFinding? (handler : HandlerFacts) (index : Nat) (location : Location) :
    Except Fault (Option Finding) := do
  let account ← account handler index "is_mut"
  if ← .ok (!isExisting account) <||> tryFlagMayBeChecked handler account then return none
  return rewriteFinding? handler account location

def tryRewriteFindings (handler : HandlerFacts) : Except Fault (List Finding) :=
  if isInitializer handler then
    (written handler).filterMapM fun (index, location) => tryRewriteFinding? handler index location
  else .ok []

def tryScan (handler : HandlerFacts) : Except Fault (List Finding) := do
  let creations ← handler.accounts.filterMapM (tryCreationFinding? handler)
  let rewrites ← tryRewriteFindings handler
  return creations ++ rewrites

theorem exists_write {handler : HandlerFacts} {index : Nat} {location : Location}
    (member : (index, location) ∈ written handler) :
    ∃ write ∈ handler.assignments, write.targetRef = some index ∧ write.location = location := by
  rcases List.mem_filterMap.1 (Assoc.mem_of_first_gathered member) with ⟨write, inside, found⟩
  dsimp only at found
  split at found
  · cases found
  · rcases Option.map_eq_some_iff.1 found with ⟨target, here, same⟩
    obtain ⟨rfl, rfl⟩ := Prod.ext_iff.1 same
    exact ⟨write, inside, here, rfl⟩

theorem tryFlagMayBeChecked_eq (handler : HandlerFacts) (account : AccountFact) :
    tryFlagMayBeChecked handler account = .ok (flagMayBeChecked handler account) := by
  simp only [tryFlagMayBeChecked, Evidence.anyM_tryTouches, ok_or, flagMayBeChecked]

theorem tryCreationFinding?_eq (handler : HandlerFacts) (account : AccountFact) :
    tryCreationFinding? handler account = .ok (creationFinding? handler account) := by
  have ifNeeded : tryIfNeededFinding? handler account = .ok (ifNeededFinding? handler account) := by
    simp only [tryIfNeededFinding?, tryFlagMayBeChecked_eq, ok_bind, pure_eq, ifNeededFinding?]
    split <;> rfl
  rw [tryCreationFinding?, creationFinding?, ifNeeded]
  split <;> rfl

theorem tryRewriteFinding?_eq {handler : HandlerFacts} (h : handler.IsTraversable) {index : Nat}
    {location : Location} (member : (index, location) ∈ written handler) :
    tryRewriteFinding? handler index location =
      .ok ((handler.account? index).bind fun account => rewriteFinding? handler account location) := by
  rcases exists_write member with ⟨write, inside, target, rfl⟩
  rcases h.followed_target inside target with ⟨fact, found⟩
  simp only [tryRewriteFinding?, account_eq found, tryFlagMayBeChecked_eq, ok_or, ok_bind, pure_eq,
    found, Option.bind_some]
  unfold rewriteFinding?
  cases isExisting fact <;> cases flagMayBeChecked handler fact <;> rfl

theorem tryScan_eq {handler : HandlerFacts} (h : handler.IsTraversable) :
    tryScan handler = .ok (scan handler) := by
  have rewrites : tryRewriteFindings handler = .ok (rewriteFindings handler) := by
    unfold tryRewriteFindings rewriteFindings
    split
    · exact filterMapM_eq_ok fun _ member => tryRewriteFinding?_eq h member
    · rfl
  rw [tryScan, filterMapM_eq_ok fun account _ => tryCreationFinding?_eq handler account, rewrites]
  rfl

end Reinitialization

namespace AccountClose

/-- The finding on the account at a position, which has to exist. -/
def tryFinding? (handler : HandlerFacts) (index : Nat) (location : Location) :
    Except Fault (Option Finding) := do
  let account ← account handler index "is_signer"
  return if reports handler account then some (finding handler account location) else none

def tryScan (handler : HandlerFacts) : Except Fault (List Finding) :=
  (drained handler).filterMapM fun (index, location) => tryFinding? handler index location

theorem exists_drain {handler : HandlerFacts} {index : Nat} {location : Location}
    (member : (index, location) ∈ drained handler) :
    (∃ write ∈ handler.assignments, write.targetRef = some index ∧ write.location = location) ∨
      ∃ call ∈ handler.calls, (∃ account ∈ handler.accounts, account.index = index) ∧
        call.location = location := by
  rcases List.mem_map.1 (Assoc.mem_of_first_gathered member) with ⟨⟨seq, drain⟩, sorted, rfl⟩
  rcases List.mem_append.1 ((List.mergeSort_perm _ _).mem_iff.1 sorted) with writes | calls
  · rcases List.mem_filterMap.1 writes with ⟨write, inside, found⟩
    split at found
    · rcases Option.map_eq_some_iff.1 found with ⟨target, here, same⟩
      cases same
      exact .inl ⟨write, inside, here, rfl⟩
    · cases found
  · rcases List.mem_filterMap.1 calls with ⟨call, inside, found⟩
    rcases Option.map_eq_some_iff.1 found with ⟨account, named, same⟩
    cases same
    exact .inr ⟨call, (List.mem_filter.1 inside).1,
      ⟨account, List.mem_of_find?_eq_some named, rfl⟩, rfl⟩

theorem tryFinding?_eq {handler : HandlerFacts} (h : handler.IsTraversable) {index : Nat}
    {location : Location} (member : (index, location) ∈ drained handler) :
    tryFinding? handler index location =
      .ok (match handler.account? index with
        | some account =>
          if reports handler account then some (finding handler account location) else none
        | none => none) := by
  have found : ∃ fact, handler.account? index = some fact := by
    rcases exists_drain member with ⟨write, inside, target, -⟩ | ⟨-, -, ⟨fact, inside, rfl⟩, -⟩
    · exact h.followed_target inside target
    · exact ⟨fact, h.placed fact inside⟩
  rcases found with ⟨fact, found⟩
  simp only [tryFinding?, account_eq found, ok_bind, pure_eq, found]

theorem tryScan_eq {handler : HandlerFacts} (h : handler.IsTraversable) :
    tryScan handler = .ok (scan handler) :=
  filterMapM_eq_ok fun _ member => tryFinding?_eq h member

end AccountClose

/-! ## Types and duplicates -/

namespace TypeConfusion

/-- `targetStruct`, where the receiver type has to stand in front of the function's name. -/
def tryTargetStruct (call : CallFact) : Except Fault String := do
  let receiver ←
    if call.typeName.isEmpty && Text.occursIn [':', ':'] call.func.toList then
      lastButOne (Text.splitOn [':', ':'] call.func.toList)
    else pure call.typeName.toList
  return String.ofList (Text.trim (Text.lastPiece [':', ':'] (Text.before ['<'] receiver)))

/-- `callFinding?`, where all accounts that the call mentions have to exist. -/
def tryCallFinding? (facts : FactBase) (handler : HandlerFacts) (call : CallFact) :
    Except Fault (Option Finding) := do
  if call.refs.isEmpty then return none
  let struct ← tryTargetStruct call
  if (facts.collidingStructs struct).isEmpty || isDiscriminatorChecked handler call then return none
  if ← call.refs.anyM fun index =>
      handler.possiblyGuarded <$> account handler index "unresolved_kinds" then return none
  let _ ← call.refs.mapM fun index => account handler index "name"
  return callFinding? facts handler call

def tryScan (facts : FactBase) (handler : HandlerFacts) : Except Fault (List Finding) :=
  (handler.callsNamed readers).filterMapM (tryCallFinding? facts handler)

theorem tryTargetStruct_eq (call : CallFact) :
    tryTargetStruct call = .ok (targetStruct call) := by
  unfold tryTargetStruct targetStruct
  by_cases unnamed : call.typeName.isEmpty = true
  · cases present : Text.occursIn [':', ':'] call.func.toList with
    | true =>
      -- There are two pieces at least, so one stands in front of the last.
      rcases Text.exists_splitOnFrom_of_occursIn (by simp) [] present with
        ⟨piece, other, more, pieces⟩
      have two : 2 ≤ (Text.splitOn [':', ':'] call.func.toList).reverse.length := by
        simp [Text.splitOn, pieces]
      simp only [lastButOne, unnamed, Bool.and_self, if_true]
      cases reversed : (Text.splitOn [':', ':'] call.func.toList).reverse with
      | nil => simp [reversed] at two
      | cons last front =>
        cases front with
        | nil => simp [reversed] at two
        | cons receiver _ => rfl
    | false =>
      have whole : Text.splitOn [':', ':'] call.func.toList = [call.func.toList] :=
        Text.splitOnFrom_of_not_occursIn [] present
      have empty : call.typeName.toList = [] := by simpa using unnamed
      simp [unnamed, whole, empty]
  · simp [unnamed]

theorem tryCallFinding?_eq {handler : HandlerFacts} (h : handler.IsTraversable)
    (facts : FactBase) {call : CallFact} (member : call ∈ handler.calls) :
    tryCallFinding? facts handler call = .ok (callFinding? facts handler call) := by
  have found : ∀ index ∈ call.refs, ∃ fact, handler.account? index = some fact :=
    fun index stored => h.followed index
      (HandlerFacts.mem_storedIndices_of_event (HandlerFacts.mem_events_of_call member) stored)
  have guarded : (call.refs.anyM fun index =>
      handler.possiblyGuarded <$> account handler index "unresolved_kinds") =
        .ok ((accountsOf handler call).any handler.possiblyGuarded) := by
    rw [accountsOf, List.any_filterMap]
    refine anyM_eq_ok fun index stored => ?_
    rcases found index stored with ⟨fact, found⟩
    rw [account_eq found, found]
    rfl
  have named : ∃ accounts, (call.refs.mapM fun index => account handler index "name") =
      .ok accounts := by
    refine exists_mapM_iff.2 fun index stored => ?_
    rcases found index stored with ⟨fact, found⟩
    exact ⟨fact, account_eq found "name"⟩
  rcases named with ⟨accounts, named⟩
  simp only [tryCallFinding?, tryTargetStruct_eq, guarded, named, ok_bind, pure_eq]
  by_cases silent : (call.refs.isEmpty || (facts.collidingStructs (targetStruct call)).isEmpty ||
      isDiscriminatorChecked handler call ||
      (accountsOf handler call).any handler.possiblyGuarded) = true
  · have none : callFinding? facts handler call = none := if_pos silent
    rw [none]
    split_ifs <;> rfl
  · simp only [Bool.or_eq_true, not_or, Bool.not_eq_true] at silent
    simp only [silent, Bool.or_self, Bool.false_eq_true, if_false]

theorem tryScan_eq {handler : HandlerFacts} (h : handler.IsTraversable) (facts : FactBase) :
    tryScan facts handler = .ok (scan facts handler) :=
  filterMapM_eq_ok fun _ member => tryCallFinding?_eq h facts (List.mem_filter.1 member).1

end TypeConfusion

namespace DuplicateAccounts

/-- `groupFinding?`, where the first account of the group has to exist. -/
def tryGroupFinding? (handler : HandlerFacts) (group : List AccountFact) :
    Except Fault (Option Finding) := do
  if (uncovered handler group).isEmpty then return none
  let _ ← first "list" group
  return groupFinding? handler group

def tryScan (handler : HandlerFacts) : Except Fault (List Finding) :=
  (groups handler).filterMapM (tryGroupFinding? handler)

theorem tryGroupFinding?_eq (handler : HandlerFacts) (group : List AccountFact) :
    tryGroupFinding? handler group = .ok (groupFinding? handler group) := by
  unfold tryGroupFinding?
  cases group with
  | nil => rfl
  | cons account others =>
    split
    · rename_i covered
      have silent : groupFinding? handler (account :: others) = none := by
        unfold groupFinding?
        rw [List.isEmpty_iff.1 covered]
      rw [silent]
      rfl
    · rfl

theorem tryScan_eq (handler : HandlerFacts) : tryScan handler = .ok (scan handler) :=
  filterMapM_eq_ok fun group _ => tryGroupFinding?_eq handler group

end DuplicateAccounts

/-! ## All strict detectors -/

namespace Detector

/-- The strict forms of the built-in detectors, in the same order. -/
def strict : List Detector :=
  [.ofSteps SignerAuthorization.info SignerAuthorization.tryScan,
    .ofSteps OwnerProgram.info fun _ => OwnerProgram.tryScan,
    .ofSteps UncheckedArithmetic.info fun _ => UncheckedArithmetic.tryScan,
    .ofSteps AddressDerivation.info fun _ => AddressDerivation.tryScan,
    .ofSteps ArbitraryInvocation.info fun _ => ArbitraryInvocation.tryScan,
    .ofSteps Reinitialization.info fun _ => Reinitialization.tryScan,
    .ofSteps TypeConfusion.info TypeConfusion.tryScan,
    .ofSteps DuplicateAccounts.info fun _ => DuplicateAccounts.tryScan,
    .ofSteps AccountClose.info fun _ => AccountClose.tryScan]

/-- On traversable facts the strict form of a detector is the detector. -/
structure IsStrictFormOf (s d : Detector) : Prop where
  info : s.info = d.info
  detect : ∀ (u : ProgramUnit) (facts : FactBase),
    (∀ handler ∈ facts.handlers, handler.IsTraversable) → s.detect u facts = d.detect u facts

theorem isStrictFormOf_ofSteps {info : DetectorInfo}
    {tryScan : FactBase → HandlerFacts → Except Fault (List Finding)}
    {scan : FactBase → HandlerFacts → List Finding}
    (agree : ∀ facts handler, handler.IsTraversable →
      tryScan facts handler = .ok (scan facts handler)) :
    IsStrictFormOf (ofSteps info tryScan) (ofHandlers info scan) where
  info := rfl
  detect _ facts traversable :=
    detect_ofSteps fun handler inside => agree facts handler (traversable handler inside)

theorem forall₂_strict : List.Forall₂ IsStrictFormOf strict builtin :=
  .cons (isStrictFormOf_ofSteps fun facts handler _ => SignerAuthorization.tryScan_eq facts handler) <|
  .cons (isStrictFormOf_ofSteps fun _ handler _ => OwnerProgram.tryScan_eq handler) <|
  .cons (isStrictFormOf_ofSteps fun _ _ => UncheckedArithmetic.tryScan_eq) <|
  .cons (isStrictFormOf_ofSteps fun _ _ => AddressDerivation.tryScan_eq) <|
  .cons (isStrictFormOf_ofSteps fun _ _ => ArbitraryInvocation.tryScan_eq) <|
  .cons (isStrictFormOf_ofSteps fun _ _ => Reinitialization.tryScan_eq) <|
  .cons (isStrictFormOf_ofSteps fun facts _ h => TypeConfusion.tryScan_eq h facts) <|
  .cons (isStrictFormOf_ofSteps fun _ handler _ => DuplicateAccounts.tryScan_eq handler) <|
  .cons (isStrictFormOf_ofSteps fun _ _ => AccountClose.tryScan_eq) .nil

end Detector

end AccountAudit
