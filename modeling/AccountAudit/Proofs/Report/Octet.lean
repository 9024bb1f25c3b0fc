import AccountAudit.Fact.Extract
import AccountAudit.Proofs.Report.Excerpt

/-!
# Offsets that count octets

The offsets of a span are taken for offsets in characters, both where the line of a location is
counted and where a report takes its excerpt. Here they are octets: a span stands around a part of a
file's text (`Span.Delimits`), starting behind the octets in front of the part.

Such a span is read too far behind the part, by one character for every octet that a character has
beyond its first one. The line counts the line feeds that are passed over in this way, and the excerpt
starts behind them (`readsOctets_iff`). Nothing is passed over behind a text in ASCII.
-/

namespace AccountAudit

/-- The span stands around a part of a text, in octets of its UTF-8 encoding. -/
structure Span.Delimits (span : Span) (cs front part back : List Char) : Prop where
  whole : cs = front ++ part ++ back
  start : span.start = (Text.octets front).length
  stop : span.stop = (Text.octets (front ++ part)).length

namespace ProgramUnit

variable {u : ProgramUnit} {span : Span} {front part back : List Char}

/-- The text of the file that a span is in. -/
def charsAt (u : ProgramUnit) (span : Span) : List Char :=
  (u.sourceFor (u.location span).file).toList

theorem sourceFor_eq_empty {file : String} (unknown : file ∉ u.files) : u.sourceFor file = "" := by
  simp only [files, Text.mem_distinctSorted, List.mem_cons, List.mem_map, not_or] at unknown
  have other : (file == u.file) = false := beq_eq_false_iff_ne.2 unknown.1
  have absent : u.sources.lookup file = none := by
    cases found : u.sources.lookup file with
    | none => rfl
    | some text => exact absurd ⟨_, Assoc.mem_of_lookup found, rfl⟩ unknown.2
  simp [sourceFor, other, absent]

theorem ordered_location (u : ProgramUnit) (span : Span) : (u.location span).Ordered where
  nonneg := Int.natCast_nonneg span.start
  start_le_stop := Int.ofNat_le.2 span.start_le_stop

/-- The line of a span, taken for a range of characters. -/
theorem line_location (u : ProgramUnit) (span : Span) :
    (u.location span).line = if u.charsAt span = [] then none
      else some (((u.charsAt span).take span.start).count '\n' + 1 : Nat) := by
  have line : (u.location span).line =
      (u.lineOf? (u.location span).file span.start).map Int.ofNat := rfl
  rw [line, lineOf?, charsAt]
  by_cases blank : u.sourceFor (u.location span).file = ""
  · simp [blank]
  · have known : (u.sourceFor (u.location span).file).toList ≠ [] := by simpa using blank
    rw [if_neg known, Text.lineOf_eq _ (Int.natCast_nonneg span.start)]
    simp [blank]

end ProgramUnit

namespace ClassReport

open Text

variable {registry : Registry} {u : ProgramUnit} {span : Span} {f : Finding}
  {report : ClassReport} {cs front part back : List Char}

/-- The excerpt that is made of a text. -/
def excerptOf (cs : List Char) : Option String :=
  if cs = [] then none else some (String.ofList (cs.take 400))

/-- The excerpt of a span, taken for a range of characters. -/
theorem shown?_eq_excerptOf (located : f.location = u.location span)
    (member : report ∈ assemble registry [u] [f]) :
    report.shown? f.location =
      excerptOf (((u.charsAt span).drop span.start).take (span.stop - span.start)) := by
  have apart : ProgramUnit.Apart [u] := List.pairwise_singleton _ u
  have ordered : ∀ g ∈ [f], g.location.Ordered := by
    intro g single
    rw [List.mem_singleton.1 single, located]
    exact u.ordered_location span
  have agree : ExcerptsAgree [u] [f] := by
    intro g single h single' _ _ excerpt own
    rwa [List.mem_singleton.1 single', ← List.mem_singleton.1 single]
  have owns := (forall_ownExcerpts_iff apart ordered
    (shows_of_mem_assemble registry apart ordered)).2 agree report member
  obtain ⟨g, single, ofThis⟩ := exists_finding_of_mem_assemble member
  obtain rfl := List.mem_singleton.1 single
  have own : IsExcerpt [u] g.location (report.shown? g.location) :=
    owns g.place (place_mem_affected member single ofThis)
  have text : u.textAt g.location =
      ((u.charsAt span).drop span.start).take (span.stop - span.start) := by
    rw [ProgramUnit.textAt, located]
    change (List.drop span.start (u.charsAt span)).take
      ((span.stop : Int) - (span.start : Int)).toNat = _
    rw [Int.toNat_sub]
  rw [← text]
  generalize report.shown? g.location = shown at own
  cases own with
  | foreign unknown =>
    have blank := ProgramUnit.sourceFor_eq_empty (unknown u (by simp))
    simp [excerptOf, ProgramUnit.textAt, blank]
  | blank v inside _ blank =>
    obtain rfl := List.mem_singleton.1 inside
    rw [excerptOf, if_pos blank]
  | text v inside _ nonempty =>
    obtain rfl := List.mem_singleton.1 inside
    rw [excerptOf, if_neg nonempty]

/-! ## Octets in front of a part -/

theorem take_octets (delimited : span.Delimits cs front part back) :
    (octets cs).take span.start = octets front := by
  rw [delimited.whole, delimited.start, List.append_assoc, octets_append]
  exact List.take_left' rfl

/-- The octets between the offsets encode the part, and nothing else. -/
theorem octets_eq_iff (delimited : span.Delimits cs front part back) {text : List Char} :
    octets text = ((octets cs).take span.stop).drop span.start ↔ text = part := by
  have between : ((octets cs).take span.stop).drop span.start = octets part := by
    rw [delimited.whole, delimited.start, delimited.stop, octets_append (front ++ part),
      List.take_left' rfl, octets_append, List.drop_left' rfl]
  rw [between]
  exact ⟨octets_injective, fun same => by rw [same]⟩

/-- The characters that are passed over between the part and the place where it is read. -/
def overshoot (cs front : List Char) (span : Span) : List Char :=
  (cs.take span.start).drop front.length

theorem take_start (delimited : span.Delimits cs front part back) :
    cs.take span.start = front ++ overshoot cs front span := by
  have enough : front.length ≤ span.start := delimited.start ▸ length_le_length_octets front
  have first : (cs.take span.start).take front.length = front := by
    rw [List.take_take, min_eq_left enough, delimited.whole, List.append_assoc]
    exact List.take_left' rfl
  calc cs.take span.start
      = (cs.take span.start).take front.length ++ (cs.take span.start).drop front.length :=
        (List.take_append_drop _ _).symm
    _ = front ++ overshoot cs front span := by rw [first, overshoot]

/-! ## Reading octets as characters -/

/-- The line of a span, and what is shown of it in the report on a finding there, are those of the
octets that the span stands around. -/
structure ReadsOctets (registry : Registry) (u : ProgramUnit) (span : Span) : Prop where
  line : (u.location span).line =
    some (((octets (u.charsAt span)).take span.start).count lineFeed + 1 : Nat)
  excerpt : ∀ f report text, f.location = u.location span → report ∈ assemble registry [u] [f] →
    octets text = ((octets (u.charsAt span)).take span.stop).drop span.start →
    report.shown? f.location = excerptOf text

theorem count_take_start (delimited : span.Delimits cs front part back) :
    (cs.take span.start).count '\n' =
      ((octets cs).take span.start).count lineFeed + (overshoot cs front span).count '\n' := by
  rw [take_octets delimited, count_octets, take_start delimited, List.count_append]

theorem excerptOf_injective {ds : List Char} (same : excerptOf cs = excerptOf ds) :
    cs.take 400 = ds.take 400 := by
  unfold excerptOf at same
  split at same <;> split at same
  · simp [*]
  · cases same
  · cases same
  · simpa using congrArg String.toList (Option.some.inj same)

theorem excerptOf_congr {ds : List Char} (same : cs.take 400 = ds.take 400) :
    excerptOf cs = excerptOf ds := by
  have blank : cs = [] ↔ ds = [] := by
    constructor
    · rintro rfl
      simpa using same.symm
    · rintro rfl
      simpa using same
  simp only [excerptOf, blank, same]

theorem readsOctets_iff_overshoot (registry : Registry)
    (delimited : span.Delimits (u.charsAt span) front part back) :
    ReadsOctets registry u span ↔
      u.charsAt span ≠ [] ∧ '\n' ∉ overshoot (u.charsAt span) front span ∧
        (((u.charsAt span).drop span.start).take (span.stop - span.start)).take 400 =
          part.take 400 := by
  have line := u.line_location span
  rw [count_take_start delimited] at line
  constructor
  · intro reads
    rw [reads.line] at line
    split at line
    · cases line
    -- A finding at the span has a report, whose excerpt is compared.
    let f : Finding :=
      { classId := "", title := "", message := "", severity := .low, location := u.location span }
    obtain ⟨report, member, -⟩ := exists_report_of_mem registry [u] (List.mem_singleton_self f)
    have shown := reads.excerpt f report part rfl member ((octets_eq_iff delimited).2 rfl)
    rw [shown?_eq_excerptOf rfl member] at shown
    refine ⟨‹_›, ?_, excerptOf_injective shown⟩
    rw [← List.count_eq_zero]
    have lines := Option.some.inj line
    omega
  · intro h
    obtain ⟨known, straight, same⟩ := h
    constructor
    · rw [line, if_neg known, List.count_eq_zero.2 straight]
    · intro f report text located member encoded
      rw [shown?_eq_excerptOf located member, (octets_eq_iff delimited).1 encoded]
      exact excerptOf_congr same

theorem readsOctets_of_isAscii (registry : Registry)
    (delimited : span.Delimits (u.charsAt span) front part back) (known : u.charsAt span ≠ [])
    (ascii : (front ++ part).all isAscii = true) : ReadsOctets registry u span := by
  -- Behind characters of ASCII an offset in octets is one in characters.
  have start : span.start = front.length := by
    rw [List.all_append, Bool.and_eq_true] at ascii
    rw [delimited.start, length_octets_eq_iff]
    exact ascii.1
  have stop : span.stop - span.start = part.length := by
    rw [delimited.stop, (length_octets_eq_iff _).2 ascii, start, List.length_append]
    omega
  have nothing : overshoot (u.charsAt span) front span = [] := by
    rw [overshoot, start]
    simp
  refine (readsOctets_iff_overshoot registry delimited).2 ⟨known, ?_, ?_⟩
  · rw [nothing]
    simp
  · rw [stop, start, delimited.whole, List.append_assoc, List.drop_left' rfl, List.take_left' rfl]

/-- For a span around a part of a text, the line is too great by the line feeds among the characters
that are passed over, and the excerpt has as many characters as the part has octets, from the place
behind them. Line and excerpt are those of the octets exactly if no line feed is passed over and the
two excerpts happen to be the same; so they are if the text is in ASCII up to the end of the part. -/
theorem readsOctets_iff (registry : Registry)
    (delimited : span.Delimits (u.charsAt span) front part back) :
    ((u.location span).line = if u.charsAt span = [] then none
      else some (((octets (u.charsAt span)).take span.start).count lineFeed + 1 +
        (overshoot (u.charsAt span) front span).count '\n' : Nat)) ∧
    (∀ f report, f.location = u.location span → report ∈ assemble registry [u] [f] →
      report.shown? f.location =
        excerptOf (((u.charsAt span).drop span.start).take (span.stop - span.start))) ∧
    (ReadsOctets registry u span ↔
      u.charsAt span ≠ [] ∧ '\n' ∉ overshoot (u.charsAt span) front span ∧
        (((u.charsAt span).drop span.start).take (span.stop - span.start)).take 400 =
          part.take 400) ∧
    (u.charsAt span ≠ [] → (front ++ part).all isAscii = true →
      ReadsOctets registry u span) := by
  refine ⟨?_, fun f report => shown?_eq_excerptOf, readsOctets_iff_overshoot registry delimited,
    readsOctets_of_isAscii registry delimited⟩
  rw [u.line_location span, count_take_start delimited, Nat.add_right_comm]

/-! ## Behind a comment -/

/-- A unit with two lines of source and a comment in front of its first sum. -/
def commented (comment : String) : ProgramUnit :=
  { name := "ledger", file := "ledger.rs"
    source := "/* " ++ comment ++ " */ a + b;\nc - d;", handlers := []
    handlers_distinct := List.nodup_nil }

/-- A comment in ASCII: the span around the sum is read as it is meant. -/
theorem readsOctets_iff_ascii :
    ReadsOctets {} (commented "sums") (Span.ofLength 11 5) := by
  have delimited : (Span.ofLength 11 5).Delimits ((commented "sums").charsAt (Span.ofLength 11 5))
      "/* sums */ ".toList "a + b".toList ";\nc - d;".toList := by
    constructor <;> decide +kernel
  exact (readsOctets_iff {} delimited).2.2.2 (by decide +kernel) (by decide +kernel)

/-- A comment of five characters and fifteen octets: behind it the span around the first sum is read
in the second line. -/
theorem commented_read_behind :
    (Span.ofLength 22 5).Delimits ((commented "残高の計算").charsAt (Span.ofLength 22 5))
      "/* 残高の計算 */ ".toList "a + b".toList ";\nc - d;".toList ∧
    ¬ ReadsOctets {} (commented "残高の計算") (Span.ofLength 22 5) := by
  refine ⟨by constructor <;> decide +kernel, ?_⟩
  intro reads
  have line := reads.line
  revert line
  decide +kernel

end ClassReport
end AccountAudit
