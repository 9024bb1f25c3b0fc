import AccountAudit.Fact.Basic

/-!
# Kinds of accounts

What detectors take from the type and the name of an account.
-/

namespace AccountAudit
namespace AccountKind

/-- Types of accounts that hold no data of the program. -/
def withoutData : List String := ["Signer", "Program", "Interface", "Sysvar"]

/-- Types of accounts that the runtime does not check at all. -/
def raw : List String := ["AccountInfo", "UncheckedAccount"]

/-- Types of accounts that are programs. -/
def programs : List String := ["Program", "Interface"]

/-- Attributes of accounts that the handler creates. -/
def creation : List String := ["init", "init_if_needed", "zero"]

/-- The handler creates the account. -/
def isCreated (account : AccountFact) : Bool :=
  creation.any account.has

/-- Words in the names of accounts that hold a privilege. -/
def authorityWords : List String :=
  ["authority", "admin", "owner", "manager", "governor", "operator"]

/-- The name, in any case, contains a word for a privilege. -/
def namesAuthority (name : String) : Bool :=
  let small := Text.lower name.toList
  authorityWords.any fun word => Text.occursIn word.toList small

end AccountKind
end AccountAudit
