import AccountAudit.Detector.Builtin

/-!
# Registry of detectors

The detectors that take part in an analysis, in the order in which they were registered. No two of
them have the same class id and none is without one. The built-in detectors are discovered once:
later attempts change nothing, even after some of them were taken out.
-/

namespace AccountAudit

structure Registry where
  detectors : List Detector := []
  discovered : Bool := false
  distinct : (detectors.map (·.info.classId)).Nodup := by simp
  named : ∀ d ∈ detectors, d.info.classId ≠ "" := by simp

/-- Why a detector cannot be registered. -/
inductive RegistrationError where
  /-- It has no class id. -/
  | nameless (label : String)
  /-- Its class id is taken. -/
  | taken (classId : String)
  deriving DecidableEq, Repr

def RegistrationError.message : RegistrationError → String
  | nameless label => label ++ " has no CLASS_ID"
  | taken classId => (Failure.duplicateDetector classId).message

/-- What can be registered: a detector, or a kind of detectors, of which one is made first. -/
inductive Candidate where
  | made (d : Detector)
  | kind (make : Except Fault Detector)

def Candidate.detector : Candidate → Except Fault Detector
  | made d => .ok d
  | kind make => make

/-- Why a candidate was not registered. -/
inductive Refusal where
  /-- No detector of its kind could be made. -/
  | unmade (fault : Fault)
  | unregistered (e : RegistrationError)
  deriving DecidableEq, Repr

namespace Registry

def empty : Registry := {}

/-! ## Looking at the registry -/

def classIds (r : Registry) : List String :=
  r.detectors.map (·.info.classId)

def contains (r : Registry) (classId : String) : Bool :=
  r.classIds.contains classId

def get? (r : Registry) (classId : String) : Option Detector :=
  r.detectors.find? (·.info.classId == classId)

def ofCategory (r : Registry) (category : String) : List Detector :=
  r.detectors.filter (·.info.category == category)

/-- The categories that have a name, in ascending order. -/
def categories (r : Registry) : List String :=
  Text.distinctSorted ((r.detectors.map (·.info.category)).filter (· != ""))

/-! ## Changing the registry -/

/-- Puts a detector at the end. -/
def register (r : Registry) (d : Detector) : Except RegistrationError Registry :=
  if unnamed : d.info.classId = "" then .error (.nameless d.info.label)
  else if taken : d.info.classId ∈ r.detectors.map (·.info.classId) then
    .error (.taken d.info.classId)
  else
    .ok
      { detectors := r.detectors ++ [d]
        discovered := r.discovered
        distinct := by
          rw [List.map_append, List.nodup_append]
          refine ⟨r.distinct, by simp, ?_⟩
          intro a inside b last
          simp only [List.map_cons, List.map_nil, List.mem_singleton] at last
          rintro rfl
          exact taken (last ▸ inside)
        named := by
          intro e member
          rcases List.mem_append.1 member with inside | last
          · exact r.named e inside
          · exact List.mem_singleton.1 last ▸ unnamed }

/-- Takes out the detector of a class. -/
def unregister (r : Registry) (classId : String) : Registry :=
  { detectors := r.detectors.filter (·.info.classId != classId)
    discovered := r.discovered
    distinct := r.distinct.sublist (List.filter_sublist.map _)
    named := fun d member => r.named d (List.mem_filter.1 member).1 }

/-- Registers a detector unless its class is taken or has no name. -/
def registerNew (r : Registry) (d : Detector) : Registry :=
  match r.register d with
  | .ok r => r
  | .error _ => r

/-- Registers the built-in detectors whose classes are not taken, unless that was done before. -/
def discover (r : Registry) : Registry :=
  if r.discovered then r
  else { Detector.builtin.foldl registerNew r with discovered := true }

/-- A registry of the built-in detectors. -/
def withBuiltin : Registry :=
  empty.discover

/-! ## Step by step -/

inductive Step where
  | register (candidate : Candidate)
  | unregister (classId : String)
  | discover

/-- What a step answers, and the registry after it. To register answers the detector that was
registered, to unregister the one that was taken out. -/
def perform (r : Registry) : Step → Except Refusal (Option Detector) × Registry
  | .register candidate =>
    match candidate.detector with
    | .error fault => (.error (.unmade fault), r)
    | .ok d =>
      match r.register d with
      | .error e => (.error (.unregistered e), r)
      | .ok after => (.ok (some d), after)
  | .unregister classId => (.ok (r.get? classId), r.unregister classId)
  | .discover => (.ok none, r.discover)

/-- The registry after a sequence of steps. A step that is refused ends nothing. -/
def run (r : Registry) (steps : List Step) : Registry :=
  steps.foldl (fun r step => (r.perform step).2) r

end Registry
end AccountAudit
