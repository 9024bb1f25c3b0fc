import AccountAudit.Proofs.Analysis.Failure

/-!
# What a registry holds

Each step on a registry registers some detectors or takes one out (`Registry.Event`), and these events
alone decide what the registry holds: the detectors whose registration is the last event of their
class, in the order of these registrations (`standing`). One step drops the detectors that its events
are about and puts those that it registers at the end (`detectors_perform`); that a sequence of steps
does the same is an induction on the steps (`detectors_run`).

The main statement `followsSteps_run` says this of every registry that came out of an empty one, and
what the next step can do to it: a refusal changes nothing, the first discovery adds the built-in
detectors whose classes are free, and a later one changes nothing.
-/

namespace AccountAudit

namespace Detector

theorem classIds_builtin : builtin.map (·.info.classId) =
    ["SOL-001", "SOL-002", "SOL-003", "SOL-004", "SOL-005", "SOL-006", "SOL-007", "SOL-008",
      "SOL-009"] := rfl

theorem ascending_builtin : (builtin.map (·.info.classId)).Pairwise (· < ·) := by
  rw [classIds_builtin]
  decide

theorem named_of_mem_builtin {d : Detector} (member : d ∈ builtin) : d.info.classId ≠ "" := by
  have listed : d.info.classId ∈ builtin.map (·.info.classId) := List.mem_map_of_mem member
  rw [classIds_builtin] at listed
  rintro unnamed
  rw [unnamed] at listed
  simp at listed

end Detector

namespace Registry

/-! ## One registration -/

/-- Registering a detector fails in two ways and otherwise puts it at the end. -/
theorem register_cases (r : Registry) (d : Detector) :
    (d.info.classId = "" ∧ r.register d = .error (.nameless d.info.label)) ∨
    (d.info.classId ≠ "" ∧ d.info.classId ∈ r.classIds ∧
      r.register d = .error (.taken d.info.classId)) ∨
    (d.info.classId ≠ "" ∧ d.info.classId ∉ r.classIds ∧ ∃ after, r.register d = .ok after ∧
      after.detectors = r.detectors ++ [d] ∧ after.discovered = r.discovered) := by
  unfold register
  by_cases unnamed : d.info.classId = ""
  · exact .inl ⟨unnamed, dif_pos unnamed⟩
  · rw [dif_neg unnamed]
    by_cases taken : d.info.classId ∈ r.classIds
    · exact .inr (.inl ⟨unnamed, taken, dif_pos taken⟩)
    · exact .inr (.inr ⟨unnamed, taken, _, dif_neg taken, rfl, rfl⟩)

theorem get?_eq_some {r : Registry} {classId : String} {d : Detector} :
    r.get? classId = some d ↔ d ∈ r.detectors ∧ d.info.classId = classId := by
  constructor
  · intro found
    exact ⟨List.mem_of_find?_eq_some found, by simpa using List.find?_some found⟩
  · rintro ⟨inside, rfl⟩
    exact get?_of_mem inside

/-! ## Discovery -/

/-- The built-in detectors that a discovery adds. -/
def found (r : Registry) : List Detector :=
  if r.discovered then [] else Detector.builtin.filter (·.info.classId ∉ r.classIds)

theorem detectors_registerNew (r : Registry) {d : Detector} (named : d.info.classId ≠ "") :
    (r.registerNew d).detectors =
      r.detectors ++ [d].filter (·.info.classId ∉ r.classIds) := by
  unfold registerNew
  rcases register_cases r d with ⟨unnamed, -⟩ | ⟨-, taken, refused⟩ | ⟨-, free, after, done, added, -⟩
  · exact absurd unnamed named
  · simp [refused, taken]
  · simp [done, added, free]

/-- Each detector of the list finds those of the registry in its way and no other one of the list. -/
theorem detectors_foldl_registerNew (r : Registry) {ds : List Detector}
    (named : ∀ d ∈ ds, d.info.classId ≠ "") (distinct : (ds.map (·.info.classId)).Nodup) :
    (ds.foldl registerNew r).detectors = r.detectors ++ ds.filter (·.info.classId ∉ r.classIds) := by
  induction ds generalizing r with
  | nil => simp
  | cons d ds ih =>
    rw [List.map_cons, List.nodup_cons] at distinct
    have first := detectors_registerNew r (named d List.mem_cons_self)
    have rest := ih (r.registerNew d) (fun e member => named e (List.mem_cons_of_mem _ member))
      distinct.2
    have same : ds.filter (·.info.classId ∉ (r.registerNew d).classIds) =
        ds.filter (·.info.classId ∉ r.classIds) := by
      refine List.filter_congr fun e member => ?_
      have apart : e.info.classId ∉
          ([d].filter (·.info.classId ∉ r.classIds)).map (·.info.classId) := by
        intro listed
        rcases List.mem_map.1 listed with ⟨x, inside, same⟩
        obtain rfl := List.mem_singleton.1 (List.mem_filter.1 inside).1
        exact distinct.1 (same ▸ List.mem_map_of_mem member)
      rw [decide_eq_decide, classIds, first, List.map_append, List.mem_append, or_iff_left apart,
        ← classIds]
    rw [List.foldl_cons, rest, first, same, List.append_assoc, ← List.filter_append,
      List.singleton_append]

theorem detectors_discover (r : Registry) : r.discover.detectors = r.detectors ++ r.found := by
  unfold discover found
  split
  · rw [List.append_nil]
  · rw [← detectors_foldl_registerNew r (fun _ => Detector.named_of_mem_builtin)
      (Detector.ascending_builtin.imp String.ne_of_lt)]

theorem discovered_discover (r : Registry) : r.discover.discovered = true := by
  unfold discover
  split
  · assumption
  · rfl

theorem discover_of_discovered {r : Registry} (h : r.discovered = true) : r.discover = r := by
  rw [discover, if_pos h]

/-! ## Events -/

/-- What a step does to a registry. -/
inductive Event where
  | registered (d : Detector)
  | removed (classId : String)

namespace Event

def classId : Event → String
  | registered d => d.info.classId
  | removed classId => classId

/-- Some event is about the class. -/
def touch (events : List Event) (classId : String) : Bool :=
  events.any (·.classId == classId)

/-- The detectors whose registration is the last event of their class, in the order of these
registrations. -/
def standing : List Event → List Detector
  | [] => []
  | registered d :: later =>
    if touch later d.info.classId then standing later else d :: standing later
  | removed _ :: later => standing later

theorem touch_append (earlier later : List Event) (classId : String) :
    touch (earlier ++ later) classId = (touch earlier classId || touch later classId) :=
  List.any_append

/-- Later events drop the detectors that they are about and put those that they register at the
end. -/
theorem standing_append (earlier later : List Event) :
    standing (earlier ++ later) =
      (standing earlier).filter (fun d => !touch later d.info.classId) ++ standing later := by
  induction earlier with
  | nil => rfl
  | cons event earlier ih =>
    cases event with
    | removed classId => exact ih
    | registered d =>
      rw [List.cons_append, standing, standing, touch_append, ih]
      cases touch earlier d.info.classId with
      | true => simp
      | false => cases after : touch later d.info.classId <;> simp [after]

theorem mem_standing_iff {events : List Event} {d : Detector} :
    d ∈ standing events ↔ ∃ before later, events = before ++ registered d :: later ∧
      ∀ event ∈ later, event.classId ≠ d.info.classId := by
  constructor
  · intro member
    induction events with
    | nil => cases member
    | cons event events ih =>
      -- A detector that stands already without the first event does so with it.
      have further (inside : d ∈ standing events) : ∃ before later,
          event :: events = before ++ registered d :: later ∧
            ∀ event ∈ later, event.classId ≠ d.info.classId := by
        rcases ih inside with ⟨before, later, rfl, last⟩
        exact ⟨event :: before, later, rfl, last⟩
      cases event with
      | removed classId => exact further member
      | registered e =>
        rw [standing] at member
        split at member
        · exact further member
        · rename_i last
          rcases List.mem_cons.1 member with rfl | inside
          · exact ⟨[], events, rfl, by simpa [touch] using last⟩
          · exact further inside
  · rintro ⟨before, later, rfl, last⟩
    have untouched : touch later d.info.classId = false := by simpa [touch] using last
    rw [standing_append, standing, if_neg (by simp [untouched])]
    exact List.mem_append_right _ List.mem_cons_self

theorem standing_map_registered {ds : List Detector}
    (distinct : (ds.map (·.info.classId)).Nodup) : standing (ds.map registered) = ds := by
  induction ds with
  | nil => rfl
  | cons d ds ih =>
    rw [List.map_cons, List.nodup_cons] at distinct
    have last : touch (ds.map registered) d.info.classId = false := by
      simpa [touch, classId] using distinct.1
    rw [List.map_cons, standing, if_neg (by simp [last]), ih distinct.2]

end Event

/-- The events of a step. -/
def events (r : Registry) : Step → List Event
  | .register candidate =>
    match (r.perform (.register candidate)).1 with
    | .ok (some d) => [.registered d]
    | _ => []
  | .unregister classId => [.removed classId]
  | .discover => r.found.map .registered

/-- The events of a sequence of steps. -/
def history (r : Registry) : List Step → List Event
  | [] => []
  | step :: steps => r.events step ++ (r.perform step).2.history steps

/-! ## One step -/

/-- To register either is refused, which changes nothing, or puts a new detector at the end. -/
theorem perform_register_cases (r : Registry) (candidate : Candidate) :
    (∃ refusal, r.perform (.register candidate) = (.error refusal, r)) ∨
    ∃ d after, candidate.detector = .ok d ∧ d.info.classId ∉ r.classIds ∧
      r.perform (.register candidate) = (.ok (some d), after) ∧
      after.detectors = r.detectors ++ [d] ∧ after.discovered = r.discovered := by
  cases made : candidate.detector with
  | error fault => exact .inl ⟨.unmade fault, by simp [perform, made]⟩
  | ok d =>
    rcases register_cases r d with ⟨-, refused⟩ | ⟨-, -, refused⟩ | ⟨-, free, after, done, added⟩
    · exact .inl ⟨.unregistered (.nameless d.info.label), by simp [perform, made, refused]⟩
    · exact .inl ⟨.unregistered (.taken d.info.classId), by simp [perform, made, refused]⟩
    · exact .inr ⟨d, after, rfl, free, by simp [perform, made, done], added⟩

theorem perform_register_eq_error_iff (r : Registry) (candidate : Candidate) (refusal : Refusal) :
    (r.perform (.register candidate)).1 = .error refusal ↔
      (∃ fault, candidate.detector = .error fault ∧ refusal = .unmade fault) ∨
      ∃ d, candidate.detector = .ok d ∧
        (d.info.classId = "" ∧ refusal = .unregistered (.nameless d.info.label) ∨
          d.info.classId ≠ "" ∧ d.info.classId ∈ r.classIds ∧
            refusal = .unregistered (.taken d.info.classId)) := by
  cases made : candidate.detector with
  | error fault => simp [perform, made, eq_comm (a := refusal)]
  | ok d =>
    rcases register_cases r d with ⟨unnamed, refused⟩ | ⟨named, taken, refused⟩ |
      ⟨named, free, after, done, -⟩
    · simp [perform, made, refused, unnamed, eq_comm (a := refusal)]
    · simp [perform, made, refused, named, taken, eq_comm (a := refusal)]
    · simp [perform, made, done, named, free]

/-- Detectors of classes that no event is about stay. -/
theorem filter_untouched {ds : List Detector} {events : List Event}
    (apart : ∀ d ∈ ds, ∀ event ∈ events, event.classId ≠ d.info.classId) :
    ds.filter (fun d => !Event.touch events d.info.classId) = ds := by
  refine List.filter_eq_self.2 fun d member => ?_
  simpa [Event.touch] using apart d member

theorem mem_classIds {r : Registry} {d : Detector} (member : d ∈ r.detectors) :
    d.info.classId ∈ r.classIds :=
  List.mem_map_of_mem member

theorem free_of_mem_found {r : Registry} {d : Detector} (member : d ∈ r.found) :
    d ∈ Detector.builtin ∧ d.info.classId ∉ r.classIds := by
  unfold found at member
  split at member
  · cases member
  · simpa using member

theorem ascending_found (r : Registry) : (r.found.map (·.info.classId)).Pairwise (· < ·) := by
  unfold found
  split
  · exact .nil
  · exact Detector.ascending_builtin.sublist (List.filter_sublist.map _)

/-- A step drops the detectors that its events are about and puts those that it registers at the
end. -/
theorem detectors_perform (r : Registry) (step : Step) :
    (r.perform step).2.detectors =
      r.detectors.filter (fun d => !Event.touch (r.events step) d.info.classId) ++
        Event.standing (r.events step) := by
  cases step with
  | register candidate =>
    rcases r.perform_register_cases candidate with ⟨refusal, done⟩ | ⟨d, after, -, free, done, added, -⟩
    · rw [events, done]
      simp [Event.touch, Event.standing]
    · rw [events, done]
      have apart : ∀ e ∈ r.detectors, ∀ event ∈ [Event.registered d],
          event.classId ≠ e.info.classId := by
        rintro e member event one (same : event.classId = e.info.classId)
        obtain rfl := List.mem_singleton.1 one
        rw [Event.classId] at same
        exact free (same ▸ mem_classIds member)
      rw [filter_untouched apart]
      exact added
  | unregister classId =>
    simp [perform, unregister, events, Event.touch, Event.standing, Event.classId, bne, Bool.beq_comm]
  | discover =>
    have apart : ∀ d ∈ r.detectors, ∀ event ∈ r.found.map Event.registered,
        event.classId ≠ d.info.classId := by
      rintro d member event listed same
      rcases List.mem_map.1 listed with ⟨e, new, rfl⟩
      rw [Event.classId] at same
      exact (free_of_mem_found new).2 (same ▸ mem_classIds member)
    rw [perform, events, filter_untouched apart,
      Event.standing_map_registered (r.ascending_found.imp String.ne_of_lt)]
    exact r.detectors_discover

theorem discovered_perform (r : Registry) (step : Step) :
    (r.perform step).2.discovered = true ↔ r.discovered = true ∨ step = .discover := by
  cases step with
  | register candidate =>
    rcases r.perform_register_cases candidate with ⟨refusal, done⟩ | ⟨d, after, -, -, done, -, kept⟩
    · simp [done]
    · simp [done, kept]
  | unregister classId => simp [perform, unregister]
  | discover => simp [perform, discovered_discover]

/-! ## A sequence of steps -/

theorem run_cons (r : Registry) (step : Step) (steps : List Step) :
    r.run (step :: steps) = (r.perform step).2.run steps :=
  List.foldl_cons

/-- A sequence of steps does to the detectors what one step does, with all its events. -/
theorem detectors_run (r : Registry) (steps : List Step) :
    (r.run steps).detectors =
      r.detectors.filter (fun d => !Event.touch (r.history steps) d.info.classId) ++
        Event.standing (r.history steps) := by
  induction steps generalizing r with
  | nil => simp [run, history, Event.touch, Event.standing]
  | cons step steps ih =>
    rw [run_cons, ih, detectors_perform, history, Event.standing_append, List.filter_append,
      List.filter_filter, List.append_assoc]
    simp only [Event.touch_append, Bool.not_or, Bool.and_comm]

theorem detectors_run_empty (steps : List Step) :
    (empty.run steps).detectors = Event.standing (empty.history steps) := by
  rw [detectors_run]
  rfl

theorem discovered_run (r : Registry) (steps : List Step) :
    (r.run steps).discovered = true ↔ r.discovered = true ∨ .discover ∈ steps := by
  induction steps generalizing r with
  | nil => simp [run]
  | cons step steps ih =>
    rw [run_cons, ih, discovered_perform, List.mem_cons, or_assoc, eq_comm (a := step)]

/-! ## What a sequence of steps leads to -/

/-- A registry that came about by some steps: what it holds, and what the next step comes to. -/
structure FollowsSteps (steps : List Step) (r : Registry) : Prop where
  distinct : r.classIds.Nodup
  /-- The classes stand in the order of their latest registrations. -/
  classIds_eq : r.classIds = (Event.standing (empty.history steps)).map (·.info.classId)
  /-- The detector of a class is the one that was registered last and not removed since. -/
  get?_iff (classId : String) (d : Detector) : r.get? classId = some d ↔
    d.info.classId = classId ∧ ∃ before later,
      empty.history steps = before ++ .registered d :: later ∧
        ∀ event ∈ later, event.classId ≠ classId
  register_refused_iff (candidate : Candidate) (refusal : Refusal) :
    (r.perform (.register candidate)).1 = .error refusal ↔
      (∃ fault, candidate.detector = .error fault ∧ refusal = .unmade fault) ∨
      ∃ d, candidate.detector = .ok d ∧
        (d.info.classId = "" ∧ refusal = .unregistered (.nameless d.info.label) ∨
          d.info.classId ≠ "" ∧ d.info.classId ∈ r.classIds ∧
            refusal = .unregistered (.taken d.info.classId))
  register_refused (candidate : Candidate) (refusal : Refusal)
    (refused : (r.perform (.register candidate)).1 = .error refusal) :
    (r.perform (.register candidate)).2 = r
  registered (candidate : Candidate) (d : Detector)
    (done : (r.perform (.register candidate)).1 = .ok (some d)) :
    candidate.detector = .ok d ∧ (r.perform (.register candidate)).2.detectors = r.detectors ++ [d]
  first_discovery (first : .discover ∉ steps) : ∃ added,
    (r.perform .discover).2.detectors = r.detectors ++ added ∧
      (added.map (·.info.classId)).Pairwise (· < ·) ∧
      ∀ d, d ∈ added ↔ d ∈ Detector.builtin ∧ d.info.classId ∉ r.classIds
  later_discovery (later : .discover ∈ steps) : (r.perform .discover).2 = r

theorem followsSteps_run (steps : List Step) : FollowsSteps steps (empty.run steps) where
  distinct := (empty.run steps).distinct
  classIds_eq := by rw [classIds, detectors_run_empty]
  get?_iff classId d := by
    rw [get?_eq_some, detectors_run_empty, Event.mem_standing_iff, and_comm]
    constructor
    · rintro ⟨rfl, last⟩
      exact ⟨rfl, last⟩
    · rintro ⟨rfl, last⟩
      exact ⟨rfl, last⟩
  register_refused_iff := perform_register_eq_error_iff _
  register_refused candidate refusal refused := by
    rcases perform_register_cases (empty.run steps) candidate with
      ⟨_, done⟩ | ⟨d, after, -, -, done, -, -⟩
    · rw [done]
    · rw [done] at refused
      cases refused
  registered candidate d done := by
    rcases perform_register_cases (empty.run steps) candidate with
      ⟨_, refused⟩ | ⟨e, after, made, -, accepted, added, -⟩
    · rw [refused] at done
      cases done
    · rw [accepted] at done ⊢
      cases done
      exact ⟨made, added⟩
  first_discovery first := by
    have undiscovered : (empty.run steps).discovered = false := by
      rw [← Bool.not_eq_true, discovered_run]
      exact not_or.2 ⟨Bool.false_ne_true, first⟩
    refine ⟨(empty.run steps).found, detectors_discover _, ascending_found _, fun d => ?_⟩
    simp [found, undiscovered]
  later_discovery later := discover_of_discovered ((discovered_run empty steps).2 (.inr later))

end Registry
end AccountAudit
