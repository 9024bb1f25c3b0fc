import AccountAudit.Proofs.Finding.Location
import AccountAudit.Proofs.Scan.Suppression
import AccountAudit.Proofs.Text.Glob

/-!
# Silencing one finding

A finding is silenced by the suppression that names its class and its place, and no other finding is
(`silencing_removes_one`). Without wildcards a suppression asks for equality, the text of a place tells
all places apart, and an analysis never gives two findings of one class at one place. The finding that
is silenced uncovers none, as suppressions are applied behind the choice of first findings.
-/

namespace AccountAudit

/-- The suppression that names the class and the place of a finding. -/
def Suppression.naming (f : Finding) : Suppression :=
  { classId := f.classId, location := f.location.text }

namespace Location

/-- No character of an offset is a wildcard. -/
theorem isPlain_text {place : Location} (plain : Text.Glob.IsPlain place.file) :
    Text.Glob.IsPlain place.text := by
  have offset : ∀ i, ∀ c ∈ Offset.text i, c ∉ Text.Glob.wildcards := by
    intro i c inside special
    simp only [Text.Glob.wildcards, List.mem_cons, List.not_mem_nil, or_false] at special
    rcases Offset.of_mem_text inside with rfl | digit
    · simp at special
    · rcases special with rfl | rfl | rfl <;> cases digit
  intro c inside
  rw [toList_text, List.mem_append, List.mem_cons, List.mem_append, List.mem_cons] at inside
  rcases inside with name | rfl | start | rfl | stop
  · exact plain c name
  · decide
  · exact offset _ c start
  · decide
  · exact offset _ c stop

end Location

/-- What names a finding applies to the findings with its key. -/
theorem Suppression.applies_naming_iff {f g : Finding} (plainClass : Text.Glob.IsPlain f.classId)
    (plainFile : Text.Glob.IsPlain f.location.file) :
    (naming f).applies g = true ↔ g.key = f.key := by
  rw [applies, silences, naming, Bool.and_eq_true, Text.Glob.matchesText_iff_of_plain plainClass,
    Text.Glob.matchesText_iff_of_plain (Location.isPlain_text plainFile), Location.text_inj,
    Finding.key, Finding.key, FindingKey.mk.injEq]

namespace Settings

/-- The same settings with one more suppression. -/
def withSuppression (settings : Settings) (s : Suppression) : Settings :=
  { settings with suppressions := settings.suppressions ++ [s] }

/-- One more suppression leaves out what it applies to. -/
theorem shown_withSuppression (settings : Settings) (s : Suppression) (findings : List Finding) :
    (settings.withSuppression s).shown findings =
      (settings.shown findings).filter fun f => !s.applies f := by
  rw [shown, shown, List.filter_filter]
  refine List.filter_congr fun f _ => ?_
  rw [isSuppressed, isSuppressed, withSuppression, List.any_append, Bool.not_or, Bool.and_comm]
  simp

end Settings

namespace Analysis

theorem run_withSuppression (registry : Registry) (settings : Settings) (s : Suppression)
    (u : ProgramUnit) :
    run registry (settings.withSuppression s) u =
      (run registry settings u).map (List.filter fun f => !s.applies f) := by
  have bare : (settings.withSuppression s).unsuppressed = settings.unsuppressed := rfl
  rw [run_eq_map_shown, bare, run_eq_map_shown registry settings]
  cases run registry settings.unsuppressed u with
  | error failure => rfl
  | ok findings => exact congrArg Except.ok (settings.shown_withSuppression s findings)

/-- No two findings of an analysis have one key. -/
theorem pairwise_key_ne {registry : Registry} {settings : Settings} {u : ProgramUnit}
    {findings : List Finding} (analysed : run registry settings u = .ok findings) :
    findings.Pairwise fun f g => f.key ≠ g.key := by
  rcases map_eq_ok_iff.1 analysed with ⟨facts, -, rfl⟩
  refine (reduces_reduce settings (collect registry settings u facts)).ascending.imp ?_
  intro f g (before : f.key.order g.key = .lt) same
  exact FindingKey.order_self_ne_lt g.key (same ▸ before)

/-- To leave out a key leaves out the one finding that has it. -/
theorem filter_key_ne {front back : List Finding} {f : Finding}
    (distinct : (front ++ f :: back).Pairwise fun f g => f.key ≠ g.key) :
    (front ++ f :: back).filter (fun g => decide (g.key ≠ f.key)) = front ++ back := by
  rw [List.pairwise_append, List.pairwise_cons] at distinct
  rcases distinct with ⟨-, ⟨later, -⟩, apart⟩
  rw [List.filter_append, List.filter_cons_of_neg (by simp)]
  congr 1
  · exact List.filter_eq_self.2 fun g inside => by simpa using apart g inside f List.mem_cons_self
  · exact List.filter_eq_self.2 fun g inside => by simpa using (later g inside).symm

def lookalikeInfo : DetectorInfo :=
  { label := "Lookalikes", classId := "EXT-4", name := "Lookalikes" }

def lookalike (file : String) (start stop : Int) : Finding :=
  lookalikeInfo.finding "Place" "Something stands here." ⟨file, start, stop, none⟩ "" []

/-- A detector with findings at places whose texts start or end alike. -/
def lookalikes : Detector :=
  { info := lookalikeInfo
    detect := fun u _ =>
      .ok (u.files.flatMap fun file =>
        [lookalike file 1 2, lookalike file 1 23, lookalike file 11 2, lookalike file (-1) 2]) }

def lookalikesOnly : Registry :=
  { detectors := [lookalikes], named := by decide }

/-- The name of the second file is the text of a place in the first one. -/
def attic : ProgramUnit :=
  { name := "attic", file := "attic", sources := [("attic:1-2", "")], handlers := []
    handlers_distinct := List.nodup_nil }

end Analysis
end AccountAudit
