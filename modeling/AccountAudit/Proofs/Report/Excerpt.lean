import AccountAudit.Proofs.Report.Assembly
import AccountAudit.Proofs.Text.Offset
import AccountAudit.Report.Markdown

/-!
# Excerpts and the places they are shown under

A report keeps its excerpts by their offsets and shows under each place the one that is kept for the
offsets of the place. The file is not part of the key, so of all places of a class with the same
offsets the last one that has an excerpt lends it to the others, whatever file they are in (`Shows`).

What a place should show is the text of its own file between its own offsets (`IsExcerpt`). The
reports on a list of findings keep to this if, and only if, any two findings of one class with the
same offsets have the same excerpt (`excerpts_own_iff`).
-/

namespace AccountAudit

/-- No file is part of two of the units. -/
def ProgramUnit.Apart (units : List ProgramUnit) : Prop :=
  units.Pairwise fun u v => List.Disjoint u.files v.files

/-- The text of a unit's file between the offsets of a location. -/
def ProgramUnit.textAt (u : ProgramUnit) (location : Location) : List Char :=
  ((u.sourceFor location.file).toList.drop location.start.toNat).take
    (location.stop - location.start).toNat

namespace Location

/-- The offsets count from the start of the file, and the location does not end before it starts. -/
structure Ordered (location : Location) : Prop where
  nonneg : 0 ≤ location.start
  start_le_stop : location.start ≤ location.stop

/-- The offsets are the same; the files may differ. -/
structure SameRange (location other : Location) : Prop where
  start_eq : location.start = other.start
  stop_eq : location.stop = other.stop

end Location

namespace ClassReport

open Finding

variable {registry : Registry} {units : List ProgramUnit} {findings : List Finding}
  {report : ClassReport} {location other : Location} {excerpt excerpt' : Option String}

/-! ## Own excerpts -/

/-- What has to be shown of the source at a location. -/
inductive IsExcerpt (units : List ProgramUnit) (location : Location) : Option String → Prop where
  /-- No unit has the file. -/
  | foreign (unknown : ∀ u ∈ units, location.file ∉ u.files) : IsExcerpt units location none
  /-- There is no text between the offsets. -/
  | blank (u : ProgramUnit) (member : u ∈ units) (file : location.file ∈ u.files)
      (blank : u.textAt location = []) : IsExcerpt units location none
  /-- The text between the offsets, up to 400 characters of it. -/
  | text (u : ProgramUnit) (member : u ∈ units) (file : location.file ∈ u.files)
      (nonempty : u.textAt location ≠ []) :
      IsExcerpt units location (some (String.ofList ((u.textAt location).take 400)))

/-- In units without common files, one unit has a file and no other one is found for it. -/
theorem find?_eq_some {u : ProgramUnit} (apart : ProgramUnit.Apart units) (member : u ∈ units)
    (file : location.file ∈ u.files) :
    (units.find? fun v => v.files.contains location.file) = some u := by
  induction units with
  | nil => cases member
  | cons v rest ih =>
    rcases List.pairwise_cons.1 apart with ⟨fresh, apart⟩
    cases member with
    | head => simp [file]
    | tail _ later =>
      have elsewhere : location.file ∉ v.files := fun here => fresh u later here file
      simpa [elsewhere] using ih apart later

theorem isExcerpt_iff (apart : ProgramUnit.Apart units) (ordered : location.Ordered) :
    IsExcerpt units location excerpt ↔ excerpt? units location = excerpt := by
  have slice : ∀ u : ProgramUnit, Text.slice (u.sourceFor location.file).toList location.start
      location.stop = u.textAt location := fun u =>
    Text.slice_eq _ ordered.nonneg ordered.start_le_stop
  unfold excerpt?
  constructor
  · intro h
    cases h with
    | foreign unknown =>
      have none : (units.find? fun u => u.files.contains location.file) = none := by
        simpa using unknown
      rw [none]
      rfl
    | blank u member file blank =>
      rw [find?_eq_some apart member file]
      simp [slice, blank]
    | text u member file nonempty =>
      rw [find?_eq_some apart member file]
      simp [slice, nonempty, excerptLimit]
  · rintro rfl
    cases found : units.find? fun u => u.files.contains location.file with
    | none => exact .foreign (by simpa using found)
    | some u =>
      have member := List.mem_of_find?_eq_some found
      have file : location.file ∈ u.files := by simpa using List.find?_some found
      rw [Option.bind_some]
      simp only [slice, List.isEmpty_iff]
      split
      · exact .blank u member file ‹_›
      · exact .text u member file ‹_›

/-! ## Keys -/

theorem minus_notMem_digits (n : Nat) : '-' ∉ (Nat.repr n).toList := by
  intro inside
  rw [Nat.toList_repr] at inside
  have digit := Nat.isDigit_of_mem_toDigits (by decide) (by decide) inside
  contradiction

theorem repr_injective {m n : Nat} (same : (Nat.repr m).toList = (Nat.repr n).toList) : m = n := by
  rw [Nat.toList_repr, Nat.toList_repr] at same
  simpa using congrArg (Nat.ofDigitChars 10 · 0) same

theorem excerptKey_eq (ordered : location.Ordered) :
    (excerptKey location).toList =
      (Nat.repr location.start.toNat).toList ++ '-' :: (Nat.repr location.stop.toNat).toList := by
  have written : ∀ n : Int, 0 ≤ n → toString n = Nat.repr n.toNat := by
    intro n nonneg
    obtain ⟨m, rfl⟩ := Int.eq_ofNat_of_zero_le nonneg
    rfl
  rw [excerptKey, written _ ordered.nonneg,
    written _ (ordered.nonneg.trans ordered.start_le_stop)]
  simp

/-- The key of an excerpt tells its offsets, and nothing else. -/
theorem excerptKey_eq_iff (ordered : location.Ordered) (ordered' : other.Ordered) :
    excerptKey location = excerptKey other ↔ location.SameRange other := by
  constructor
  · intro same
    have texts := congrArg String.toList same
    rw [excerptKey_eq ordered, excerptKey_eq ordered', List.append_cons_inj_of_notMem
      (minus_notMem_digits _) (minus_notMem_digits _)] at texts
    have start := repr_injective texts.1
    have stop := repr_injective texts.2.2
    have := ordered.nonneg
    have := ordered'.nonneg
    have := ordered.start_le_stop
    have := ordered'.start_le_stop
    exact ⟨by omega, by omega⟩
  · intro same
    rw [excerptKey, excerptKey, same.start_eq, same.stop_eq]

/-! ## Shown excerpts -/

/-- The excerpt that a report has for the offsets of a location. -/
def shown? (report : ClassReport) (location : Location) : Option String :=
  report.excerpts.lookup (excerptKey location)

/-- What a report of a class with some places shows at a location. -/
inductive Shows (units : List ProgramUnit) (affected : List AffectedPlace) (location : Location) :
    Option String → Prop where
  /-- No place with these offsets has an excerpt. -/
  | nothing (blank : ∀ place ∈ affected, place.location.SameRange location →
      IsExcerpt units place.location none) : Shows units affected location none
  /-- The last place that has these offsets and an excerpt lends it. -/
  | lent (front : List AffectedPlace) (lender : AffectedPlace) (back : List AffectedPlace)
      (text : String) (whole : affected = front ++ lender :: back)
      (range : lender.location.SameRange location)
      (own : IsExcerpt units lender.location (some text))
      (last : ∀ place ∈ back, place.location.SameRange location →
        IsExcerpt units place.location none) : Shows units affected location (some text)

/-- The excerpts of a list of places that are kept under one key. -/
theorem valuesOf_excerpts (units : List ProgramUnit) (key : String)
    (affected : List AffectedPlace) :
    Assoc.valuesOf key (affected.filterMap fun place =>
        (excerpt? units place.location).map fun text => (excerptKey place.location, text)) =
      affected.filterMap fun place =>
        if excerptKey place.location = key then excerpt? units place.location else none := by
  induction affected with
  | nil => rfl
  | cons place rest ih =>
    rw [List.filterMap_cons, List.filterMap_cons]
    cases excerpt? units place.location with
    | none => simpa using ih
    | some text =>
      by_cases here : excerptKey place.location = key <;> simp [here, Assoc.valuesOf_cons, ih]

theorem shown?_eq (member : report ∈ assemble registry units findings) (location : Location) :
    report.shown? location = report.affected.reverse.findSome? fun place =>
      if excerptKey place.location = excerptKey location then excerpt? units place.location
      else none := by
  obtain ⟨classId, first, rest, -, rfl⟩ := mem_assemble.1 member
  have kept : (ofGroup registry units classId first rest).excerpts =
      Assoc.ofPairs (((first :: rest).map place).filterMap fun place =>
        (excerpt? units place.location).map fun text => (excerptKey place.location, text)) := by
    rw [List.filterMap_map]
    rfl
  rw [shown?, kept, Assoc.lookup_ofPairs, valuesOf_excerpts, List.getLast?_filterMap]
  rfl

/-- What a report shows at one of its places, or at any location with ordered offsets. -/
theorem shows_shown? (apart : ProgramUnit.Apart units)
    (member : report ∈ assemble registry units findings)
    (ranges : ∀ place ∈ report.affected, place.location.Ordered) (ordered : location.Ordered) :
    Shows units report.affected location (report.shown? location) := by
  have owned : ∀ place ∈ report.affected, place.location.SameRange location → ∀ found?,
      (if excerptKey place.location = excerptKey location then excerpt? units place.location
        else none) = found? → IsExcerpt units place.location found? := by
    intro place inside range found? found
    rw [if_pos ((excerptKey_eq_iff (ranges place inside) ordered).2 range)] at found
    exact (isExcerpt_iff apart (ranges place inside)).2 found
  rw [shown?_eq member location]
  cases found : report.affected.reverse.findSome? fun place =>
      if excerptKey place.location = excerptKey location then excerpt? units place.location
      else none with
  | none =>
    have nowhere := List.findSome?_eq_none_iff.1 found
    exact .nothing fun place inside range =>
      owned place inside range none (nowhere place (List.mem_reverse.2 inside))
  | some text =>
    obtain ⟨back, lender, front, whole, lent, none⟩ := List.findSome?_eq_some_iff.1 found
    have whole : report.affected = front.reverse ++ lender :: back.reverse := by
      simpa using congrArg List.reverse whole
    have inside : lender ∈ report.affected := by simp [whole]
    -- What is found at a place is found because the place has the key of the location.
    have key : excerptKey lender.location = excerptKey location := by
      by_contra different
      simp [different] at lent
    have range := (excerptKey_eq_iff (ranges lender inside) ordered).1 key
    refine .lent _ lender _ text whole range (owned lender inside range _ lent) ?_
    intro place later same
    have placed : place ∈ report.affected := by
      rw [whole]
      exact List.mem_append_right _ (List.mem_cons_of_mem _ later)
    exact owned place placed same _ (none place (List.mem_reverse.1 later))

/-! ## Rendered excerpts -/

/-- The lines of an excerpt. -/
def block : Option String → List String
  | none => []
  | some text =>
    ["", "  ```rust"] ++
      (Text.lines text.toList).map (fun line => "  " ++ String.ofList line) ++ ["  ```"]

/-- Under a place stands the excerpt that the report shows there. -/
theorem excerptLines_eq (report : ClassReport) (place : AffectedPlace) :
    Report.Markdown.excerptLines report place = block (report.shown? place.location) := by
  unfold Report.Markdown.excerptLines shown? block
  cases report.excerpts.lookup (excerptKey place.location) <;> rfl

/-! ## Reports that show own excerpts only -/

/-- Every place of the report is shown with its own excerpt. -/
def OwnExcerpts (units : List ProgramUnit) (report : ClassReport) : Prop :=
  ∀ place ∈ report.affected, IsExcerpt units place.location (report.shown? place.location)

/-- Findings of one class at the same offsets have the same excerpt. -/
def ExcerptsAgree (units : List ProgramUnit) (findings : List Finding) : Prop :=
  ∀ f ∈ findings, ∀ g ∈ findings, f.classId = g.classId → f.location.SameRange g.location →
    ∀ excerpt, IsExcerpt units f.location excerpt → IsExcerpt units g.location excerpt

theorem isExcerpt_unique (apart : ProgramUnit.Apart units) (ordered : location.Ordered)
    (own : IsExcerpt units location excerpt) (own' : IsExcerpt units location excerpt') :
    excerpt = excerpt' :=
  ((isExcerpt_iff apart ordered).1 own).symm.trans ((isExcerpt_iff apart ordered).1 own')

/-- What is shown is lent by a place of the class with the same offsets, so it is the own excerpt of
every place exactly if those places agree. -/
theorem forall_ownExcerpts_iff (apart : ProgramUnit.Apart units)
    (ordered : ∀ f ∈ findings, f.location.Ordered)
    (shows : ∀ report ∈ assemble registry units findings, ∀ place ∈ report.affected,
      Shows units report.affected place.location (report.shown? place.location)) :
    (∀ report ∈ assemble registry units findings, report.OwnExcerpts units) ↔
      ExcerptsAgree units findings := by
  constructor
  -- Both findings are in the report of their class, which shows the same under both.
  · intro owns f hf g hg ofOne range excerpt own
    obtain ⟨report, member, ofThis⟩ := exists_report_of_mem registry units hf
    have first := owns report member f.place (place_mem_affected member hf ofThis.symm)
    have second := owns report member g.place
      (place_mem_affected member hg (ofOne.symm.trans ofThis.symm))
    have key : excerptKey f.location = excerptKey g.location :=
      (excerptKey_eq_iff (ordered f hf) (ordered g hg)).2 range
    have same : excerpt = report.shown? g.location := by
      rw [shown?, ← key]
      exact isExcerpt_unique apart (ordered f hf) own first
    rw [same]
    exact second
  · intro agree report member place inside
    obtain ⟨g, hg, ofThis, rfl⟩ := exists_finding_of_mem_affected member inside
    have lent := shows report member g.place inside
    generalize report.shown? g.place.location = shown at lent ⊢
    cases lent with
    | nothing blank => exact blank g.place inside ⟨rfl, rfl⟩
    -- The lender is a finding of the class as well.
    | lent front lender back text whole range own last =>
      have lends : lender ∈ report.affected := by simp [whole]
      obtain ⟨f, hf, ofSame, rfl⟩ := exists_finding_of_mem_affected member lends
      exact agree f hf g hg (ofSame.trans ofThis.symm) range _ own

theorem shows_of_mem_assemble (registry : Registry) (apart : ProgramUnit.Apart units)
    (ordered : ∀ f ∈ findings, f.location.Ordered) :
    ∀ report ∈ assemble registry units findings, ∀ place ∈ report.affected,
      Shows units report.affected place.location (report.shown? place.location) := by
  intro report member
  have ranges : ∀ place ∈ report.affected, place.location.Ordered := by
    intro place inside
    obtain ⟨f, found, -, rfl⟩ := exists_finding_of_mem_affected member inside
    exact ordered f found
  exact fun place inside => shows_shown? apart member ranges (ranges place inside)

/-- A unit in one file. -/
def ledger : ProgramUnit :=
  { name := "ledger", file := "ledger.rs", source := "total = paid + owed;", handlers := []
    handlers_distinct := List.nodup_nil }

/-- A unit in another file. -/
def stock : ProgramUnit :=
  { name := "stock", file := "stock.rs", source := "total = kept - sold;", handlers := []
    handlers_distinct := List.nodup_nil }

/-- Unchecked arithmetic at some offsets of a file. -/
def overflow (file : String) (start stop : Int) : Finding :=
  { classId := "SOL-003", title := "Unchecked arithmetic", message := "May overflow."
    severity := .medium, location := { file, start, stop, line := some 1 } }

theorem apart_ledger_stock : ProgramUnit.Apart [ledger, stock] := by
  simp [ProgramUnit.Apart, List.Disjoint, ProgramUnit.files, ledger, stock,
    Text.mem_distinctSorted]

theorem ordered_overflow {file : String} {start stop : Int} (nonneg : 0 ≤ start)
    (le : start ≤ stop) : (overflow file start stop).location.Ordered :=
  ⟨nonneg, le⟩

end ClassReport
end AccountAudit
