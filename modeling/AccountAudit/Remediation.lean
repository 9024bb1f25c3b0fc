/-!
# Remediation

How to mend what a detector finds: for each remediation id an advice, the way in which a fix is
applied, and an example of the mended code with placeholders in double braces. The advice does not
depend on the analysis.
-/

namespace AccountAudit

/-- How a fix is applied. -/
inductive FixStrategy where
  | addConstraint
  | changeType
  | insertCheck
  | patternReplace
  | restructure
  | none
  deriving DecidableEq, Repr

def FixStrategy.name : FixStrategy → String
  | addConstraint => "add_constraint"
  | changeType => "change_type"
  | insertCheck => "insert_check"
  | patternReplace => "pattern_replace"
  | restructure => "restructure"
  | none => "none"

/-- The advice for one class of findings. -/
structure Remediation where
  id : String
  category : String
  title : String
  description : String
  strategy : FixStrategy
  fix : String := ""
  references : List String := []
  tags : List String := []
  deriving DecidableEq, Repr

namespace Remediation

/-! ## The advices -/

def bindAuthority : Remediation :=
  { id := "SIGNER-001"
    category := "access_control"
    title := "Bind the authority to a signer"
    description :=
      "Require the authority account to sign, or tie it to a signer with has_one / " ++
        "constraint so a caller cannot substitute an arbitrary key."
    strategy := .addConstraint
    fix :=
      "#[account(mut, has_one = \x7b\x7bauthority\x7d\x7d)]\n" ++
        "pub \x7b\x7baccount\x7d\x7d: Account<'info, \x7b\x7bType\x7d\x7d>,\n" ++
        "pub \x7b\x7bauthority\x7d\x7d: Signer<'info>,\n"
    references := ["CWE-862", "sealevel-attacks/0-signer-authorization"]
    tags := ["signer", "authorization"] }

def verifyOwner : Remediation :=
  { id := "OWNER-001"
    category := "access_control"
    title := "Verify the owning program"
    description :=
      "Use a typed Account<'info, T> (which checks the owner), or add an owner = " ++
        "<program> constraint, or compare account.owner in the body."
    strategy := .changeType
    fix :=
      "#[account(owner = \x7b\x7bprogram\x7d\x7d::ID)]\n" ++
        "/// CHECK: owner verified by constraint\n" ++
        "pub \x7b\x7baccount\x7d\x7d: UncheckedAccount<'info>,\n"
    references := ["CWE-345", "sealevel-attacks/2-owner-checks"]
    tags := ["owner", "account-validation"] }

def checkedArithmetic : Remediation :=
  { id := "ARITH-001"
    category := "arithmetic"
    title := "Use checked arithmetic"
    description :=
      "Release builds wrap on overflow. Replace raw operators with checked_* " ++
        "(returning an error on overflow) or saturating_* forms, or assert the range " ++
        "before computing."
    strategy := .patternReplace
    fix :=
      "\x7b\x7btarget\x7d\x7d = \x7b\x7blhs\x7d\x7d\n" ++
        "    .checked_\x7b\x7bop_name\x7d\x7d(\x7b\x7brhs\x7d\x7d)\n" ++
        "    .ok_or(ErrorCode::MathOverflow)?;\n"
    references := ["CWE-190", "CWE-191"]
    tags := ["overflow", "arithmetic"] }

def canonicalBump : Remediation :=
  { id := "PDA-001"
    category := "pda"
    title := "Use the canonical bump"
    description :=
      "Let the framework derive the canonical bump (bump without a value) or store " ++
        "it at creation and compare against the stored value; never accept the bump " ++
        "from instruction data."
    strategy := .addConstraint
    fix :=
      "#[account(seeds = [\x7b\x7bseeds\x7d\x7d], bump = \x7b\x7baccount\x7d\x7d.bump)]\n" ++
        "pub \x7b\x7baccount\x7d\x7d: Account<'info, \x7b\x7bType\x7d\x7d>,\n"
    references := ["sealevel-attacks/7-bump-seed-canonicalization"]
    tags := ["pda", "bump"] }

def pinProgram : Remediation :=
  { id := "CPI-001"
    category := "cpi"
    title := "Pin the invoked program"
    description :=
      "Declare the target as Program<'info, T> or compare its key with the expected " ++
        "program id before invoking."
    strategy := .changeType
    fix :=
      "pub \x7b\x7bprogram\x7d\x7d: Program<'info, Token>,\n" ++
        "// or, for raw invoke:\n" ++
        "require_keys_eq!(\x7b\x7bprogram\x7d\x7d.key(), spl_token::ID, ErrorCode::InvalidProgram);\n"
    references := ["CWE-829", "sealevel-attacks/5-arbitrary-cpi"]
    tags := ["cpi", "program-id"] }

def guardInitialization : Remediation :=
  { id := "INIT-001"
    category := "lifecycle"
    title := "Guard initialization"
    description :=
      "Prefer init over init_if_needed. Where re-entry is intended, check an " ++
        "is_initialized flag first. Constrain singleton initializers to a known " ++
        "authority such as the program's upgrade authority."
    strategy := .insertCheck
    fix :=
      "require!(!\x7b\x7baccount\x7d\x7d.is_initialized, ErrorCode::AlreadyInitialized);\n" ++
        "\x7b\x7baccount\x7d\x7d.is_initialized = true;\n"
    references := ["CWE-665", "sealevel-attacks/4-initialization"]
    tags := ["initialization", "frontrunning"] }

def closeConstraint : Remediation :=
  { id := "CLOSE-001"
    category := "lifecycle"
    title := "Close accounts with the close constraint"
    description :=
      "Use #[account(mut, close = destination)], which zeroes the data and writes " ++
        "the closed-account discriminator, instead of moving lamports by hand."
    strategy := .addConstraint
    fix :=
      "#[account(mut, close = \x7b\x7bdestination\x7d\x7d)]\n" ++
        "pub \x7b\x7baccount\x7d\x7d: Account<'info, \x7b\x7bType\x7d\x7d>,\n"
    references := ["sealevel-attacks/9-closing-accounts"]
    tags := ["close", "revival"] }

def checkDiscriminator : Remediation :=
  { id := "DISC-001"
    category := "account_matching"
    title := "Check the account discriminator"
    description :=
      "Deserialize through Account<'info, T> / try_deserialize, which verify the " ++
        "8-byte discriminator, or compare it explicitly before using unchecked " ++
        "deserialization."
    strategy := .insertCheck
    fix :=
      "let data = \x7b\x7baccount\x7d\x7d.try_borrow_data()?;\n" ++
        "require!(data[..8] == \x7b\x7bType\x7d\x7d::DISCRIMINATOR, ErrorCode::InvalidAccountType);\n" ++
        "let parsed = \x7b\x7bType\x7d\x7d::try_deserialize(&mut &data[..])?;\n"
    references := ["sealevel-attacks/3-type-cosplay"]
    tags := ["discriminator", "type-cosplay"] }

def distinctAccounts : Remediation :=
  { id := "DUP-001"
    category := "account_matching"
    title := "Require distinct mutable accounts"
    description :=
      "Add a pairwise key inequality constraint for every pair of mutable accounts " ++
        "of the same type."
    strategy := .addConstraint
    fix :=
      "#[account(mut, constraint = \x7b\x7bfirst\x7d\x7d.key() != \x7b\x7bsecond\x7d\x7d.key())]\n" ++
        "pub \x7b\x7bfirst\x7d\x7d: Account<'info, \x7b\x7bType\x7d\x7d>,\n"
    references := ["sealevel-attacks/6-duplicate-mutable-accounts"]
    tags := ["duplicate", "aliasing"] }

def reviewUnresolved : Remediation :=
  { id := "IR-UNRESOLVED"
    category := "analysis"
    title := "Review unresolved construct manually"
    description :=
      "The analyzer could not resolve this attribute or guard. Detectors treat it as " ++
        "unknown; verify by hand what it enforces."
    strategy := .none
    tags := ["diagnostic"] }

def fixDocument : Remediation :=
  { id := "IR-UNPARSEABLE"
    category := "analysis"
    title := "Fix the IR document"
    description :=
      "The program unit could not be loaded or timed out, so none of its handlers " ++
        "were analyzed. Regenerate the IR or raise the unit timeout."
    strategy := .none
    tags := ["diagnostic"] }

def detectorFailed : Remediation :=
  { id := "ENGINE-FAILURE"
    category := "analysis"
    title := "Detector failed"
    description :=
      "A detector raised while analyzing this unit; results for its class are " ++
        "incomplete. See the log for the traceback."
    strategy := .none
    tags := ["diagnostic"] }

/-- All advices, grouped by category. -/
def all : List Remediation :=
  [bindAuthority, verifyOwner, checkedArithmetic, canonicalBump, pinProgram,
    guardInitialization, closeConstraint, checkDiscriminator, distinctAccounts,
    reviewUnresolved, fixDocument, detectorFailed]

/-! ## Looking up -/

def get? (id : String) : Option Remediation :=
  all.find? (·.id == id)

def ofCategory (category : String) : List Remediation :=
  all.filter (·.category == category)

end Remediation
end AccountAudit
