import PubSub.Gid

/-!
# Errors

What can go wrong, by cause. `Misuse` lists the arguments that are refused, `Failure` what fails
although the arguments are in order; `Error.message` is the wording of both. A `TeardownReport`
collects the errors of steps that go on regardless.
-/

namespace PubSub

/-- A reason why an argument is refused. -/
inductive Misuse
  /-- Keep-last history with no depth. -/
  | keepLastWithoutDepth
  | bestAvailableLifespan
  /-- A profile document that is no well-formed document of profiles. -/
  | malformedDocument
  /-- A word that names no value of the field. -/
  | unknownWord (field : String) (word : String)
  | unknownPreset (name : String)
  | unknownProfile (name : String)
  /-- Several profiles, of which none is the default. -/
  | noDefaultProfile
  | noProfileFile
  | notANumber (key : String) (text : String)
  | domainVariableTooLarge (key : String) (id limit : Nat)
  | unknownRange (key : String) (text : String)
  | notPositive (key : String) (text : String)
  | domainTooLarge (id limit : Nat)
  | relativeEnclave (enclave : String)
  | noWaitSetCapacity
  | noDriverCapacity
  | emptyNodeName
  | relativeNamespace (namespaceName : String)
  | emptyEndpointName
  | emptyRemoteNodeName
  | emptyRemoteEndpointName
  | bestAvailableRemote (gid : Gid)
  | withdrawnLocal (gid : Gid)
  | duplicateEndpoint (gid : Gid)
  | unknownEndpoint (gid : Gid)
  | unknownNode (namespaceName name : String)
  /-- An event of the other side of the match. -/
  | foreignEvent (event endpoint : String)
  | emptyTake
  | notAClient (gid : Gid)
  | handleInUse
  | tooManyHandles (requested limit : Nat)
  /-- Any other reason, in words. -/
  | other (text : String)
deriving DecidableEq

/-- A reason why an operation with good arguments fails. -/
inductive Failure
  | unreadableFile (path reason : String)
  | nodeWithdrawn (gid : Gid)
  | endpointRemoved (kind : String) (gid : Gid)
  /-- Any other reason, in words. -/
  | other (text : String)
deriving DecidableEq

/-- What an operation reports instead of a result. -/
inductive Error
  | invalidArgument (reason : Misuse)
  /-- A handle of another middleware than the one invoked. -/
  | incorrectImplementation (expected found : String)
  /-- No room left. -/
  | badAlloc
  /-- Nothing became ready in time. -/
  | timeout
  | unsupported (feature : String)
  | failed (reason : Failure)
deriving DecidableEq

/-- The wording of a refusal. -/
def Misuse.message : Misuse → String
  | keepLastWithoutDepth => "keep-last history requires depth > 0"
  | bestAvailableLifespan => "lifespan does not support best-available"
  | malformedDocument => "failed to parse QoS YAML: "
  | unknownWord field word => s!"invalid {field}: {word}"
  | unknownPreset name => s!"unknown preset: {name}"
  | unknownProfile name => s!"profile '{name}' not found"
  | noDefaultProfile => "several profiles and no default_profile set"
  | noProfileFile => "no QoS profile file configured"
  | notANumber key text => s!"{key}: not a number: {text}"
  | domainVariableTooLarge key id limit =>
    s!"{key}: {id} exceeds maximum domain id {limit}"
  | unknownRange key text => s!"{key}: unknown range: {text}"
  | notPositive key text => s!"{key}: expected a positive integer, got {text}"
  | domainTooLarge id limit => s!"domain id {id} exceeds maximum {limit}"
  | relativeEnclave enclave => s!"enclave must be absolute, got '{enclave}'"
  | noWaitSetCapacity => "wait set capacity must be > 0"
  | noDriverCapacity => "wait driver capacity must be > 0"
  | emptyNodeName => "node name must not be empty"
  | relativeNamespace namespaceName =>
    s!"node namespace must be absolute, got '{namespaceName}'"
  | emptyEndpointName => "name and type must not be empty"
  | emptyRemoteNodeName => "node name and namespace must not be empty"
  | emptyRemoteEndpointName => "endpoint name and type must not be empty"
  | bestAvailableRemote gid => s!"remote endpoint {gid.text} advertises best-available QoS"
  | withdrawnLocal gid => s!"endpoint {gid.text} is local and cannot be withdrawn"
  | duplicateEndpoint gid => s!"duplicate endpoint gid {gid.text}"
  | unknownEndpoint gid => s!"unknown endpoint {gid.text}"
  | unknownNode namespaceName name => s!"node {namespaceName}/{name} not found"
  | foreignEvent event endpoint => s!"{event} does not apply to a {endpoint}"
  | emptyTake => "take_sequence count must be > 0"
  | notAClient gid => s!"request writer {gid.text} is not a client"
  | handleInUse => "handle is already being waited on by another wait set"
  | tooManyHandles requested limit =>
    s!"{requested} handles exceed the wait set capacity of {limit}"
  | other text => text

/-- The wording of a failure. -/
def Failure.message : Failure → String
  | unreadableFile path reason => s!"failed to read QoS file {path}: {reason}"
  | nodeWithdrawn gid => s!"node {gid.text} already withdrawn"
  | endpointRemoved kind gid => s!"{kind} {gid.text} already removed from the graph"
  | other text => text

/-- The wording of an error. -/
def Error.message : Error → String
  | invalidArgument reason => s!"invalid argument: {reason.message}"
  | incorrectImplementation expected found =>
    s!"incorrect rmw implementation: expected '{expected}', found '{found}'"
  | badAlloc => "allocation failed"
  | timeout => "timed out"
  | unsupported feature => s!"unsupported: {feature}"
  | failed reason => reason.message

/-- The cause of an error in one word. -/
def Error.title : Error → String
  | invalidArgument _ => "InvalidArgument"
  | incorrectImplementation .. => "IncorrectImplementation"
  | badAlloc => "BadAlloc"
  | timeout => "Timeout"
  | unsupported _ => "Unsupported"
  | failed _ => "Error"

/-- A computation of two steps succeeds if the first does, and the second on the result of that. -/
theorem bind_eq_ok_iff {ε α β : Type} {first : Except ε α} {second : α → Except ε β} {b : β} :
    (first >>= second) = .ok b ↔ ∃ a, first = .ok a ∧ second a = .ok b := by
  cases first <;> simp [bind, Except.bind]

/-- The errors of steps that go on after a failure, in order. -/
structure TeardownReport where
  errors : List Error
deriving DecidableEq

namespace TeardownReport

def empty : TeardownReport := ⟨[]⟩

/-- Adds an error. -/
def record (report : TeardownReport) (error : Error) : TeardownReport :=
  ⟨report.errors ++ [error]⟩

/-- Adds the error of a step that failed. -/
def absorb (report : TeardownReport) : Except Error Unit → TeardownReport
  | .ok () => report
  | .error error => report.record error

/-- No step failed. -/
def isClean (report : TeardownReport) : Bool :=
  report.errors.isEmpty

/-- The first error, if there is one. -/
def toExcept (report : TeardownReport) : Except Error Unit :=
  match report.errors with
  | [] => .ok ()
  | first :: _ => .error first

@[simp] theorem absorb_ok (report : TeardownReport) : report.absorb (.ok ()) = report := rfl

@[simp] theorem absorb_error (report : TeardownReport) (error : Error) :
    report.absorb (.error error) = report.record error := rfl

theorem isClean_iff {report : TeardownReport} :
    report.isClean = true ↔ report.toExcept = .ok () := by
  cases h : report.errors <;> simp [isClean, toExcept, h]

end TeardownReport

end PubSub
