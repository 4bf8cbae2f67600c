import EidolonHub.Library.Python

/-!
# EidolonHub.Admission.Domain

**The vocabulary of Admission**: the states of a Proposal and of a Claim with
their allowed transitions, the context a Controller acts in, the problems a
command is answered with, and the references and events that cross the
boundary.

A moment is a number of microseconds (`Timestamp`). Text columns that hold the
JSON dump of a typed value hold that value here.
-/

namespace EidolonHub.Admission

open EidolonHub.Library.Python

/-! ### Identifiers and time -/

/-- A time in microseconds. -/
abbrev Timestamp := Int

/-- A span of time in microseconds. -/
abbrev Duration := Int

/-- The domain of an Owner Authority. -/
abbrev OwnerDomainId := String

/-- The Owner on whose behalf a device is claimed. -/
abbrev BusinessOwnerId := String

/-- Who acts: a Controller. -/
abbrev PrincipalId := String

/-- The name a client gives a command, under which it can be repeated. -/
abbrev CommandId := String

/-- What the events of one exchange have in common. -/
abbrev CorrelationId := String

/-- One attempt of a device to be claimed. -/
abbrev EnrollmentId := String

/-- The decision of one enrollment. -/
abbrev DecisionId := String

/-- The grant that follows an approval. -/
abbrev GrantId := String

/-- One published event. -/
abbrev EventId := String

/-- The device, as far as it keeps its operational key. -/
abbrev DeviceInstanceId := String

/-- The hardware, as its own evidence names it. -/
abbrev DeviceBaseId := String

/-- The digest that stands for a public key. -/
abbrev KeyId := String

/-- A public key in its encoded form. -/
abbrev Spki := String

/-- The number of a voucher. -/
abbrev Jti := String

/-- What a command is compared by when it is repeated. -/
abbrev Fingerprint := String

/-- `timedelta(minutes=n)`. -/
def minutes (n : Int) : Duration := n * 60 * 1000000

/-! ### Problems -/

/-- The code of an `AdmissionProblem`: what is wrong with a request. -/
inductive ProblemCode where
  | ownerDomainMismatch | businessOwnerMismatch | invalidArgument | unauthenticated | forbidden
  | notFound | proposalExpired | proposalTerminal | revisionConflict | claimRevoked
  | contractUnsupported | decisionRequired | handoffProofInvalid | grantExpired
  | generationConflict | idempotencyConflict | authorityUnavailable | cursorGap
  deriving DecidableEq, Repr

/-- The category of an `AdmissionProblem`: what kind of refusal it is. -/
inductive ProblemCategory where
  | conflict | forbidden | invalid | auth | missing | expired | unavailable
  deriving DecidableEq, Repr

/-- The stable answer to a command that is refused. -/
structure AdmissionProblem where
  code : ProblemCode
  detail : String
  category : ProblemCategory := .conflict
  retryable : Bool := false
  status : Nat := 409
  deriving DecidableEq, Repr

/-- Whatever ends a transaction early. -/
inductive HubError where
  /-- an `AdmissionProblem` -/
  | problem (p : AdmissionProblem)
  /-- a database `IntegrityError`: a uniqueness constraint was violated -/
  | integrity
  /-- a `ValueError` that reaches the caller -/
  | value (message : String)
  /-- an `OverflowError` -/
  | overflow
  /-- a `TypeError` -/
  | type
  /-- a `KeyError` -/
  | key (name : String)
  /-- a `RuntimeError` -/
  | runtime (message : String)
  /-- a `NoResultFound` of the database -/
  | noResult
  deriving DecidableEq, Repr

/-- A `RecursionError`, which is a `RuntimeError`. -/
def recursionError : HubError := .runtime "maximum recursion depth exceeded"

/-- A refusal because the request does not fit the state: 409. -/
def conflict (code : ProblemCode) (detail : String) : HubError :=
  .problem { code, detail }

/-- A refusal because the actor may not do this: 403. -/
def forbidden (code : ProblemCode) (detail : String) : HubError :=
  .problem { code, detail, status := 403, category := .forbidden }

/-- A refusal because the request is not well-formed: 422. -/
def invalid (detail : String) : HubError :=
  .problem { code := .invalidArgument, detail, status := 422, category := .invalid }

/-- A refusal because a proof is not accepted: 401. -/
def unauthenticated (detail : String) : HubError :=
  .problem { code := .unauthenticated, detail, status := 401, category := .auth }

/-- A refusal because there is no such resource: 404. -/
def missing (detail : String) : HubError :=
  .problem { code := .notFound, detail, status := 404, category := .missing }

/-- A refusal because the resource was there too long: 410. -/
def expired (code : ProblemCode) (detail : String) : HubError :=
  .problem { code, detail, status := 410, category := .expired }

/-! ### Proposal and Claim states -/

/-- `EnrollmentProposalState`: where an enrollment stands. -/
inductive ProposalState where
  | pendingReview | approvedAwaitingHandoff | grantDelivered | grantAcknowledged
  | rejected | expired | canceled | claimRevoked
  deriving DecidableEq, Repr

namespace ProposalState

/-- The text of a state, as it is stored and sent. -/
def value : ProposalState → String
  | pendingReview => "pending_review"
  | approvedAwaitingHandoff => "approved_awaiting_handoff"
  | grantDelivered => "grant_delivered"
  | grantAcknowledged => "grant_acknowledged"
  | rejected => "rejected"
  | expired => "expired"
  | canceled => "canceled"
  | claimRevoked => "claim_revoked"

/-- `TERMINAL_PROPOSAL_STATES`. -/
def terminal : ProposalState → Bool
  | grantAcknowledged | rejected | expired | canceled | claimRevoked => true
  | _ => false

/-- `ALLOWED_PROPOSAL_TRANSITIONS`. -/
def allowed : ProposalState → List ProposalState
  | pendingReview => [approvedAwaitingHandoff, rejected, expired, canceled]
  | approvedAwaitingHandoff => [grantDelivered, expired, claimRevoked]
  | grantDelivered => [grantAcknowledged, expired, claimRevoked]
  | _ => []

end ProposalState

/-- `ClaimState`: whether a Claim stands. -/
inductive ClaimState where
  | active | suspended | revoked
  deriving DecidableEq, Repr

/-- Refuse a Proposal transition that is not in the table. -/
def transitionProblem (current target : ProposalState) : HubError :=
  conflict (if current.terminal then .proposalTerminal else .revisionConflict)
    ("proposal transition " ++ current.value ++ " -> " ++ target.value ++ " is not allowed")

/-- What the Controller decides. -/
inductive DecisionKind where
  | approve | reject
  deriving DecidableEq, Repr

/-! ### References -/

/-- The one generation of one device instance a Claim is about. -/
structure DeviceRef where
  deviceInstanceId : DeviceInstanceId
  ownerDomainId : OwnerDomainId
  ownerDomainGeneration : Nat
  claimGeneration : Nat
  trustEpoch : Nat
  deriving DecidableEq, Repr

/-- `ManifestRef`: a Manifest by its name, its revision and the digest of its document. -/
structure ManifestRef where
  manifestId : String
  revision : Nat
  digest : String
  deriving DecidableEq, Repr

/-! ### Controllers -/

/-- `ControllerActorRef`: the Controller that acts, and what it was allowed when it did. -/
structure ControllerActorRef where
  principalId : PrincipalId
  ownerDomainId : OwnerDomainId
  grantedScopes : List String
  authenticationStrength : String
  deriving DecidableEq, Repr

/-- The Controller a command comes from and the Owner it acts for. -/
structure ActorContext where
  actor : ControllerActorRef
  ownerDomainId : OwnerDomainId
  businessOwnerId : BusinessOwnerId
  /-- `__post_init__` refuses any other context. -/
  actor_ownerDomainId : actor.ownerDomainId = ownerDomainId

/-- The scope that decides enrollments. -/
def approveScope : String := "device.claim.approve"

/-- The scope that revokes Claims. -/
def revokeScope : String := "device.claim.revoke"

/-- What `ActorContext.require_scope` raises. -/
def scopeProblem (scope : String) : HubError :=
  forbidden .forbidden ("Controller ActorRef lacks required scope " ++ scope)

/-! ### Events -/

/-- The events that the Authority publishes. -/
inductive EventType where
  | enrollmentProposalCreated | enrollmentApproved | enrollmentRejected | enrollmentExpired
  | enrollmentCanceled | claimGrantDelivered | claimGrantAcknowledged | claimActivated
  | claimRevoked
  deriving DecidableEq, Repr

namespace EventType

/-- The name of an event type, as it is published. -/
def value : EventType → String
  | enrollmentProposalCreated => "live.eidolon.device.enrollment-proposal-created.v1"
  | enrollmentApproved => "live.eidolon.device.enrollment-approved.v1"
  | enrollmentRejected => "live.eidolon.device.enrollment-rejected.v1"
  | enrollmentExpired => "live.eidolon.device.enrollment-expired.v1"
  | enrollmentCanceled => "live.eidolon.device.enrollment-canceled.v1"
  | claimGrantDelivered => "live.eidolon.device.claim-grant-delivered.v1"
  | claimGrantAcknowledged => "live.eidolon.device.claim-grant-acknowledged.v1"
  | claimActivated => "live.eidolon.device.claim-activated.v1"
  | claimRevoked => "live.eidolon.device.claim-revoked.v1"

/-- The events that are facts about a Claim, and therefore go to the recovery stream. -/
def isClaim : EventType → Bool
  | claimActivated | claimRevoked => true
  | _ => false

/-- The schema of the event's data. -/
def dataschema : EventType → String
  | claimActivated =>
    "https://contracts.eidolon.live/device-foundation/v1/events/claim-activated-data.schema.json"
  | claimRevoked =>
    "https://contracts.eidolon.live/device-foundation/v1/events/claim-revoked-data.schema.json"
  | _ => "https://contracts.eidolon.live/device-foundation/v1/events/schemas.schema.json"

/-- Whom an event is published to. -/
def audience (type : EventType) : String :=
  if type.isClaim then "eidolon-claim-consumers" else "eidolon-admission-audit"

end EventType

/-- The `data` of an event. -/
inductive EventData where
  | created (enrollmentId : EnrollmentId) (manifestRef : ManifestRef)
  | decided (decisionId : DecisionId) (decision : DecisionKind)
  | expired (enrollmentId : EnrollmentId)
  | canceled (enrollmentId : EnrollmentId) (reason : String)
  | delivered (grantId : GrantId) (approvalDecisionId : DecisionId)
  | acknowledged (grantId : GrantId)
  | activated (deviceRef : DeviceRef) (businessOwnerId : BusinessOwnerId)
      (manifestRef : ManifestRef) (approvalDecisionId : DecisionId) (activatedAt : Timestamp)
  | revoked (deviceRef : DeviceRef) (reason : String) (revokedAt : Timestamp)
  deriving DecidableEq, Repr

/-- The source that every event of the Authority names. -/
def source : String := "urn:eidolon:authority:admission"

/-- A published fact, in the order `_event` writes its fields. -/
structure Event where
  specversion : String
  id : EventId
  source : String
  type : EventType
  subject : String
  time : Timestamp
  datacontenttype : String
  dataschema : String
  audience : String
  ownerDomainId : OwnerDomainId
  aggregateRev : Nat
  correlationId : CorrelationId
  causationId : CommandId
  data : EventData
  deriving DecidableEq, Repr

/-- `AdmissionAuthority._event`. -/
def event (eventId : EventId) (eventType : EventType) (subject : String)
    (ownerDomainId : OwnerDomainId) (revision : Nat) (commandId : CommandId)
    (correlationId : CorrelationId) (occurredAt : Timestamp) (data : EventData) : Event where
  specversion := "1.0"
  id := eventId
  source := source
  type := eventType
  subject := subject
  time := occurredAt
  datacontenttype := "application/json"
  dataschema := eventType.dataschema
  audience := eventType.audience
  ownerDomainId := ownerDomainId
  aggregateRev := revision
  correlationId := correlationId
  causationId := commandId
  data := data

end EidolonHub.Admission
