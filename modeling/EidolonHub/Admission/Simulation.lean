import EidolonHub.Admission.Registry

/-!
# EidolonHub.Admission.Simulation

**Every committed transaction is a list of moves.** `Tables.registry` reads the
registry off the tables; each store operation updates it in one known way, each
command is then a list of moves that were open when it made them, and every run
of the Authority is a run of the registry.

Each command has one lemma here that says everything it can do to the registry.
Results about runs use these lemmas and never unfold a command again.
-/

namespace EidolonHub.Admission

open EidolonHub.Library EidolonHub.Library.Tx

namespace Tables

/-- The dossier the tables hold on an enrollment. -/
def dossier (t : Tables) (e : EnrollmentId) : Dossier where
  proposal := t.proposals.get (·.enrollmentId) e
  decision := t.decisions.get (·.enrollmentId) e
  grant := t.grants.get (·.enrollmentId) e
  ack := t.acks.get (·.enrollmentId) e

/-- The registry the tables hold. -/
def registry (t : Tables) : Registry where
  dossier := t.dossier
  claim i := t.claims.get (·.deviceInstanceId) i
  device i := t.devices.get (·.deviceId) i
  stream := t.stream.rows.map (·.event)

variable {t t' : Tables}

theorem empty_registry : Tables.empty.registry = Registry.empty := rfl

theorem registry_dossier {e : EnrollmentId} : t.registry.dossier e = t.dossier e := rfl

theorem hasProposal_iff {p : ProposalRow} : t.registry.HasProposal p ↔ p ∈ t.proposals := by
  rw [Registry.HasProposal, registry_dossier, dossier,
    Table.get_eq_some_iff proposal_enrollmentId_isKey]
  simp

theorem hasDecision_iff {d : DecisionRow} : t.registry.HasDecision d ↔ d ∈ t.decisions := by
  rw [Registry.HasDecision, registry_dossier, dossier,
    Table.get_eq_some_iff decision_enrollmentId_isKey]
  simp

theorem hasGrant_iff {g : GrantRow} : t.registry.HasGrant g ↔ g ∈ t.grants := by
  rw [Registry.HasGrant, registry_dossier, dossier,
    Table.get_eq_some_iff grant_enrollmentId_isKey]
  simp

/-- A grant found in a dossier is stored under that enrollment. -/
theorem grant_of_dossier {e : EnrollmentId} {g : GrantRow}
    (h : (t.registry.dossier e).grant = some g) : g ∈ t.grants ∧ g.enrollmentId = e :=
  (Table.get_eq_some_iff grant_enrollmentId_isKey).mp h

theorem decision_of_dossier {e : EnrollmentId} {d : DecisionRow}
    (h : (t.registry.dossier e).decision = some d) : d ∈ t.decisions ∧ d.enrollmentId = e :=
  (Table.get_eq_some_iff decision_enrollmentId_isKey).mp h

theorem proposal_of_dossier {e : EnrollmentId} {p : ProposalRow}
    (h : (t.registry.dossier e).proposal = some p) : p ∈ t.proposals ∧ p.enrollmentId = e :=
  (Table.get_eq_some_iff proposal_enrollmentId_isKey).mp h

end Tables

/-! ### What the store operations do to the registry -/

section Store

variable {t t' : Tables} {u : Unit}

@[simp] theorem commits_add {ρ : Type} [Keyed ρ] {table : Tables → Table ρ}
    {put : Tables → Table ρ → Tables} {row : ρ} :
    Commits (Session.add table put row) t u t' ↔
      ∃ x, (table t).insert? row = some x ∧ t' = put t x := by
  simp [Session.add, eq_comm]

/-! A row that is added or rewritten shows in its own dossier only. -/

theorem registry_insertProposal {p : ProposalRow} {x : Table ProposalRow}
    (h : t.proposals.insert? p = some x) :
    ({ t with proposals := x } : Tables).registry = t.registry.withProposal p := by
  ext1
  · funext e
    by_cases he : e = p.enrollmentId <;>
      simp [Tables.registry, Tables.dossier, Table.get_insert h proposal_enrollmentId_isKey, he]
  all_goals rfl

theorem registry_insertDecision {d : DecisionRow} {x : Table DecisionRow}
    (h : t.decisions.insert? d = some x) :
    ({ t with decisions := x } : Tables).registry = t.registry.withDecision d := by
  ext1
  · funext e
    by_cases he : e = d.enrollmentId <;>
      simp [Tables.registry, Tables.dossier, Table.get_insert h decision_enrollmentId_isKey, he]
  all_goals rfl

theorem registry_insertGrant {g : GrantRow} {x : Table GrantRow}
    (h : t.grants.insert? g = some x) :
    ({ t with grants := x } : Tables).registry = t.registry.withGrant g := by
  ext1
  · funext e
    by_cases he : e = g.enrollmentId <;>
      simp [Tables.registry, Tables.dossier, Table.get_insert h grant_enrollmentId_isKey, he]
  all_goals rfl

theorem registry_insertAck {a : GrantAckRow} {x : Table GrantAckRow}
    (h : t.acks.insert? a = some x) :
    ({ t with acks := x } : Tables).registry = t.registry.withAck a := by
  ext1
  · funext e
    by_cases he : e = a.enrollmentId <;>
      simp [Tables.registry, Tables.dossier, Table.get_insert h ack_enrollmentId_isKey, he]
  all_goals rfl

theorem registry_insertClaim {c : ClaimRow} {x : Table ClaimRow}
    (h : t.claims.insert? c = some x) :
    ({ t with claims := x } : Tables).registry = t.registry.withClaim c := by
  ext1
  · rfl
  · funext i
    simp [Tables.registry, Table.get_insert h claim_deviceInstanceId_isKey]
  all_goals rfl

theorem registry_insertDevice {r : DeviceRow} {x : Table DeviceRow}
    (h : t.devices.insert? r = some x) :
    ({ t with devices := x } : Tables).registry = t.registry.withDevice r.deviceId (some r) := by
  ext1
  · rfl
  · rfl
  · funext i
    simp [Tables.registry, Table.get_insert h device_deviceId_isKey]
  · rfl

/-- A Proposal that moves. -/
theorem moveProposal_registry {p : ProposalRow} {target : ProposalState} {now : Timestamp}
    (hp : p ∈ t.proposals) (h : Commits (moveProposal p.enrollmentId target now) t u t') :
    t'.registry = t.registry.withProposal (p.moved target now) := by
  rw [moveProposal, commits_update] at h
  subst h
  ext1
  · funext e
    have hget := Table.get_modify_mem (y := e) (ProposalRow.moved_keeps target now)
      proposal_enrollmentId_isKey
      proposal_enrollmentId_isKey (fun _ => rfl) hp
    by_cases he : e = p.enrollmentId <;>
      simp_all [Tables.registry, Tables.dossier, ProposalRow.moved]
  all_goals rfl

/-- A grant that is rewritten under its grant id. -/
theorem registry_modifyGrant {g : GrantRow} {f : GrantRow → GrantRow} (hf : Table.Keeps f)
    (hkeep : ∀ r, (f r).enrollmentId = r.enrollmentId) (hg : g ∈ t.grants) :
    ({ t with grants := t.grants.modify (·.grantId) g.grantId f hf } : Tables).registry =
      t.registry.withGrant (f g) := by
  ext1
  · funext e
    have hget := Table.get_modify_mem (y := e) hf grant_grantId_isKey
      grant_enrollmentId_isKey hkeep hg
    by_cases he : e = g.enrollmentId <;>
      simp_all [Tables.registry, Tables.dossier]
  all_goals rfl

theorem revokeGrant_registry {g : GrantRow} {now : Timestamp} (hg : g ∈ t.grants)
    (h : Commits (revokeGrant g.grantId now) t u t') :
    t'.registry = t.registry.withGrant (g.revoke now) := by
  rw [revokeGrant, commits_update] at h
  subst h
  exact registry_modifyGrant (GrantRow.revoke_keeps now) (fun _ => rfl) hg

theorem deliverGrant_registry {g : GrantRow} {envelope : ClaimGrantWireEnvelope}
    {now : Timestamp} (hg : g ∈ t.grants)
    (h : Commits (deliverGrant g.grantId envelope now) t u t') :
    t'.registry = t.registry.withGrant (g.deliver envelope now) := by
  rw [deliverGrant, commits_update] at h
  subst h
  exact registry_modifyGrant (GrantRow.deliver_keeps envelope now) (fun _ => rfl) hg

theorem revokeUnlessRevoked_registry {e : EnrollmentId} {now : Timestamp}
    (h : Commits (AdmissionAuthority.revokeUnlessRevoked (t.grants.get (·.enrollmentId) e) now) t u
      t') :
    t'.registry = t.registry.lapseGrant e now := by
  have hd : (t.registry.dossier e).grant = t.grants.get (·.enrollmentId) e := rfl
  cases hg : t.grants.get (·.enrollmentId) e with
  | none =>
    rw [hg, AdmissionAuthority.revokeUnlessRevoked, commits_pure] at h
    rw [h.2, Registry.lapseGrant_of_none (hd.trans hg)]
  | some g =>
    obtain ⟨hmem, rfl⟩ : g ∈ t.grants ∧ g.enrollmentId = e := ⟨Table.get_mem hg, Table.get_key hg⟩
    rw [hg, AdmissionAuthority.revokeUnlessRevoked] at h
    rw [Registry.lapseGrant_eq (hd.trans hg)]
    unfold GrantRow.lapse
    split at h
    · next hn => simpa [hn] using revokeGrant_registry hmem h
    · next hn =>
      rw [commits_pure] at h
      simp [hn, h.2, Registry.withGrant_self (Tables.hasGrant_iff.mpr hmem)]

/-- Revoking the grant behind a Claim revokes every grant of that Decision. -/
theorem revokeActiveGrant_registry {decisionId : DecisionId} {now : Timestamp}
    (h : Commits (AdmissionAuthority.revokeActiveGrant (t.grants.get (·.decisionId) decisionId) now)
      t u t') :
    t'.registry = t.registry.revokeGrantsOf decisionId now := by
  cases hg : t.grants.get (·.decisionId) decisionId with
  | none =>
    rw [hg, AdmissionAuthority.revokeActiveGrant, commits_pure] at h
    rw [h.2]
    refine (Registry.revokeGrantsOf_of_none fun e g he => ?_).symm
    exact Table.get_eq_none_iff.mp hg g (Tables.grant_of_dossier he).1
  | some g =>
    have hmem : g ∈ t.grants := Table.get_mem hg
    rw [hg, AdmissionAuthority.revokeActiveGrant] at h
    rw [revokeGrant_registry hmem h]
    refine (Registry.revokeGrantsOf_eq (Tables.hasGrant_iff.mpr hmem) (Table.get_key hg) ?_).symm
    intro e g' he hd
    obtain ⟨hmem', rfl⟩ := Tables.grant_of_dossier he
    rw [Table.eq_of_key grant_decisionId_isKey hmem' hmem (hd.trans (Table.get_key hg).symm)]

/-! Claims and directory rows. -/

theorem upsertClaim_registry {values : ClaimRow} {revision : Nat}
    (h : Commits (upsertClaim values) t revision t') :
    t'.registry = t.registry.withClaim (values.over (t.registry.claim values.deviceInstanceId)) ∧
      revision = (values.over (t.registry.claim values.deviceInstanceId)).revision := by
  have hc : t.registry.claim values.deviceInstanceId =
    t.claims.get (·.deviceInstanceId) values.deviceInstanceId := rfl
  rw [hc]
  simp only [upsertClaim, getClaim, commits_read_bind] at h
  cases hg : t.claims.get (·.deviceInstanceId) values.deviceInstanceId with
  | none =>
    rw [hg] at h
    simp only [commits_bind, commits_add, commits_pure] at h
    obtain ⟨_, _, ⟨x, hx, rfl⟩, rfl, rfl⟩ := h
    exact ⟨registry_insertClaim hx, rfl⟩
  | some existing =>
    rw [hg] at h
    simp only [commits_update_bind, commits_pure] at h
    obtain ⟨rfl, rfl⟩ := h
    refine ⟨?_, rfl⟩
    have hkey := Table.get_key hg
    ext1
    · rfl
    · funext i
      have hget := Table.get_modify_self values.replacedBy_keeps
        (t := t.claims) (x := values.deviceInstanceId) (k := (·.deviceInstanceId)) (fun _ => rfl)
        (y := i)
      by_cases hi : i = values.deviceInstanceId
      · simp_all [Tables.registry, ClaimRow.over, ClaimRow.replacedBy]
      · simp_all [Tables.registry, ClaimRow.over, ClaimRow.replacedBy]
    all_goals rfl

theorem revokeClaimRow_registry {c : ClaimRow} {now : Timestamp} (hc : c ∈ t.claims)
    (h : Commits (revokeClaimRow c.deviceInstanceId now) t u t') :
    t'.registry = t.registry.withClaim (c.revoke now) := by
  rw [revokeClaimRow, commits_update] at h
  subst h
  ext1
  · rfl
  · funext i
    have hget := Table.get_modify_mem (y := i) (ClaimRow.revoke_keeps now)
      claim_deviceInstanceId_isKey claim_deviceInstanceId_isKey (fun _ => rfl) hc
    by_cases hi : i = c.deviceInstanceId <;> simp_all [Tables.registry, ClaimRow.revoke]
  all_goals rfl

theorem projectActiveClaim_registry {crypto : Crypto} {ref : DeviceRef} {owner : BusinessOwnerId}
    {manifest : ManifestRef} {manifestJson : String} {now : Timestamp}
    (h : Commits (projectActiveClaim crypto ref owner manifest manifestJson now) t u t') :
    ∃ name, t'.registry = t.registry.withDevice ref.deviceInstanceId
      (some (match t.registry.device ref.deviceInstanceId with
        | none => .enrolled name ref owner manifest manifestJson now
        | some row => row.activated ref owner manifest manifestJson now)) := by
  have hd : t.registry.device ref.deviceInstanceId = t.devices.get (·.deviceId) ref.deviceInstanceId :=
    rfl
  rw [hd]
  simp only [projectActiveClaim, commits_demand_bind, commits_raiseIf_bind, commits_read_bind] at h
  obtain ⟨document, -, -, h⟩ := h
  refine ⟨displayName document ref.deviceInstanceId, ?_⟩
  cases hg : t.devices.get (·.deviceId) ref.deviceInstanceId with
  | none =>
    rw [hg] at h
    simp only [commits_add] at h
    obtain ⟨x, hx, rfl⟩ := h
    exact registry_insertDevice hx
  | some row =>
    rw [hg] at h
    simp only [commits_update] at h
    subst h
    ext1
    · rfl
    · rfl
    · funext i
      have hget := Table.get_modify_self
        (DeviceRow.activated_keeps ref owner manifest manifestJson now)
        (t := t.devices) (x := ref.deviceInstanceId) (k := (·.deviceId)) (fun _ => rfl) (y := i)
      by_cases hi : i = ref.deviceInstanceId <;> simp_all [Tables.registry]
    · rfl

theorem projectRevokedClaim_registry {ref : DeviceRef} {now : Timestamp}
    (h : Commits (projectRevokedClaim ref now) t u t') :
    t'.registry = t.registry.withDeviceRevoked ref now := by
  rw [projectRevokedClaim, commits_update] at h
  subst h
  have hkeep : ∀ r : DeviceRow, (r.revoke ref now).deviceId = r.deviceId := by
    intro r
    unfold DeviceRow.revoke
    split <;> rfl
  ext1
  · rfl
  · rfl
  · funext i
    have hget := Table.get_modify_self (DeviceRow.revoke_keeps ref now)
      (t := t.devices) (x := ref.deviceInstanceId) (k := (·.deviceId)) hkeep (y := i)
    by_cases hi : i = ref.deviceInstanceId <;>
      simp_all [Tables.registry, Registry.withDeviceRevoked]
  · rfl

/-! Results, events and standing. -/

theorem saveResult_registry {key : CommandKey} {fp : Fingerprint} {result : CommandResult}
    {occurredAt : Timestamp} (h : Commits (saveResult key fp result occurredAt) t u t') :
    t'.registry = t.registry := by
  simp only [saveResult, commits_add] at h
  obtain ⟨x, -, rfl⟩ := h
  rfl

theorem addOutbox_registry {eventId : EventId} {type : EventType} {aggregateId : String}
    {revision : Nat} {event : Event} {occurredAt : Timestamp}
    (h : Commits (addOutbox eventId type aggregateId revision event occurredAt) t u t') :
    t'.registry = if type.isClaim = true then t.registry.publish event else t.registry := by
  simp only [addOutbox, commits_bind, commits_add] at h
  obtain ⟨_, t₁, ⟨x, -, rfl⟩, h⟩ := h
  split at h
  · next hclaim =>
    simp only [commits_read_bind, commits_add] at h
    obtain ⟨y, hy, rfl⟩ := h
    rw [if_pos hclaim]
    ext1
    · rfl
    · rfl
    · rfl
    · simp [Tables.registry, Table.insert?_rows hy]
  · next hclaim =>
    rw [commits_pure] at h
    rw [h.2, if_neg hclaim]
    rfl

/-- The generation after the highest is the next one of its hardware. -/
theorem issues_of_maxClaimGeneration {g : GrantRow}
    (h : g.claimGeneration = t.maxClaimGeneration g.ownerDomainId g.hardwareIdentityRef + 1) :
    t.registry.Issues g := by
  unfold Registry.Issues
  rw [h]
  unfold Tables.maxClaimGeneration
  cases hm : (List.map (·.claimGeneration) (t.grants.rows.filter fun g' =>
      g'.ownerDomainId = g.ownerDomainId ∧ g'.hardwareIdentityRef = g.hardwareIdentityRef)).max? with
  | none =>
    rw [List.max?_eq_none_iff, List.map_eq_nil_iff, List.filter_eq_nil_iff] at hm
    refine ⟨?_, by simp⟩
    intro e g' he hdom hhw
    exact absurd (by simp [hdom, hhw]) (hm g' (Tables.grant_of_dossier he).1)
  | some n =>
    rw [List.max?_eq_some_iff] at hm
    obtain ⟨hmem, hle⟩ := hm
    refine ⟨?_, ?_⟩
    · intro e g' he hdom hhw
      have := hle g'.claimGeneration (List.mem_map.mpr ⟨g', by
        simp [List.mem_filter, hdom, hhw, (Tables.grant_of_dossier he).1, ← Table.mem_def], rfl⟩)
      simp only [Option.getD_some]
      omega
    · right
      obtain ⟨g', hg', rfl⟩ := List.mem_map.mp hmem
      simp only [List.mem_filter, decide_eq_true_eq] at hg'
      exact ⟨g'.enrollmentId, g', Tables.hasGrant_iff.mpr hg'.1, hg'.2.1, hg'.2.2, by simp⟩

end Store

/-! ### What each command does to the registry -/

namespace AdmissionAuthority

open Registry

variable {authority : AdmissionAuthority} {t t' : Tables}

/-- The Decision made in a transaction, as the registry records it. -/
theorem decides_of_insert {p : ProposalRow} {kind : DecisionKind} {actor : ControllerActorRef}
    {targetOwner : BusinessOwnerId} {reviewed : ManifestRef} {draws : Draws} {x : Table DecisionRow}
    (hx : t.decisions.insert? (decisionFor p kind actor p.requestedOwnerDomainId targetOwner reviewed
      draws) = some x) :
    t.registry.Decides p kind
      (decisionFor p kind actor p.requestedOwnerDomainId targetOwner reviewed draws) := by
  refine ⟨rfl, rfl, rfl, rfl, ?_⟩
  intro e d he heq
  have := (Table.insert?_eq_some_iff.mp hx).1 d (Tables.decision_of_dossier he).1
  simp [Keyed.clash, heq] at this

/-- The grant issued in a transaction, as the registry records it. -/
theorem grants_of_insert {p : ProposalRow} {reviewed : ManifestRef} {draws : Draws}
    {d : DecisionRow} {x : Table GrantRow} (hd : d.decisionId = draws.decisionId)
    (hx : t.grants.insert? (authority.grantFor p p.requestedOwnerDomainId reviewed
      (t.maxClaimGeneration p.requestedOwnerDomainId p.hardwareIdentityRef + 1) draws) = some x) :
    Grants authority t.registry p d (authority.grantFor p p.requestedOwnerDomainId reviewed
      (t.maxClaimGeneration p.requestedOwnerDomainId p.hardwareIdentityRef + 1) draws) := by
  have hclash := (Table.insert?_eq_some_iff.mp hx).1
  refine ⟨rfl, hd.symm, rfl, rfl, rfl, rfl, rfl, rfl, rfl, issues_of_maxClaimGeneration rfl, ?_, ?_⟩
  · intro e g he heq
    have := hclash g (Tables.grant_of_dossier he).1
    simp [Keyed.clash, heq] at this
  · intro e g he heq
    have := hclash g (Tables.grant_of_dossier he).1
    simp [Keyed.clash, heq, hd, grantFor] at this

/-- The move a Decision makes: a rejection, or an approval with the grant it issues. -/
def decisionMove (authority : AdmissionAuthority) (t : Tables) (p : ProposalRow)
    (kind : DecisionKind) (actor : ControllerActorRef) (targetOwner : BusinessOwnerId)
    (reviewed : ManifestRef) (draws : Draws) : Move :=
  let d := decisionFor p kind actor p.requestedOwnerDomainId targetOwner reviewed draws
  match kind with
  | .reject => .reject p d draws.now
  | .approve => .approve p d (authority.grantFor p p.requestedOwnerDomainId reviewed
      (t.maxClaimGeneration p.requestedOwnerDomainId p.hardwareIdentityRef + 1) draws) draws.now

theorem decideInSession_follows {p : ProposalRow} {kind : DecisionKind}
    {actor : ControllerActorRef} {targetOwner : BusinessOwnerId} {reviewed : ManifestRef}
    {commandId : CommandId} {correlationId : CorrelationId} {eventId : EventId} {draws : Draws}
    {answer : ApprovalDecision × Option GrantId}
    (hp : t.registry.HasProposal p) (hs : p.state = .pendingReview)
    (h : Commits (authority.decideInSession p kind actor p.requestedOwnerDomainId targetOwner
      reviewed commandId correlationId eventId draws) t answer t') :
    Follows authority t.registry
      [decisionMove authority t p kind actor targetOwner reviewed draws] t'.registry := by
  unfold decideInSession at h
  simp only [commits_bind] at h
  obtain ⟨_, t₁, hd, h⟩ := h
  simp only [addDecision, commits_add] at hd
  obtain ⟨x, hx, rfl⟩ := hd
  have hreg₁ := registry_insertDecision hx
  have hdec := decides_of_insert hx
  have hp₁ : p ∈ ({ t with decisions := x } : Tables).proposals := Tables.hasProposal_iff.mp hp
  cases kind with
  | reject =>
    simp only [commits_bind, commits_pure] at h
    obtain ⟨_, t₂, hmove, _, t₃, hout, -, rfl⟩ := h
    have hreg : t'.registry = t.registry.apply (.reject p (decisionFor p .reject actor
        p.requestedOwnerDomainId targetOwner reviewed draws) draws.now) := by
      rw [addOutbox_registry hout, moveProposal_registry hp₁ hmove, hreg₁]
      rfl
    rw [hreg]
    exact Follows.single ⟨hp, hs, hdec⟩
  -- the Grant takes the generation after the highest there is; moving the Proposal leaves the
  -- Grants alone
  | approve =>
    simp only [maxClaimGeneration, commits_bind, commits_read, commits_pure, and_assoc,
      exists_and_left, exists_eq_left] at h
    obtain ⟨_, t₂, hmove, _, t₃, hgrant, _, t₄, hout, -, rfl⟩ := h
    have hreg₂ := moveProposal_registry hp₁ hmove
    have hgrants : t₂.grants = t.grants := by
      rw [moveProposal, commits_update] at hmove
      rw [hmove]
    have hmax : t₂.maxClaimGeneration = t.maxClaimGeneration := by
      unfold Tables.maxClaimGeneration
      rw [hgrants]
    simp only [addGrant, commits_add, hmax] at hgrant
    obtain ⟨y, hy, rfl⟩ := hgrant
    have hreg : t'.registry = t.registry.apply (decisionMove authority t p .approve actor
        targetOwner reviewed draws) := by
      rw [addOutbox_registry hout, if_neg (by decide), registry_insertGrant hy, hreg₂, hreg₁]
      rfl
    rw [hreg]
    rw [hgrants] at hy
    exact Follows.single ⟨hp, hs, hdec, grants_of_insert rfl hy⟩

/-! The locked replay check. -/

/-- A call under its lock either answers what was stored, or found nothing and acts. -/
theorem once_commits {key : CommandKey} {fp : Fingerprint} {body : Session CommandResult}
    {r : CommandResult} (h : Commits (once key fp body) t r t') :
    (t' = t ∧ ∃ row, t.results.get (·.key) key = some row ∧ row.fingerprint = fp ∧
      r = row.result.replay) ∨
    (t.results.get (·.key) key = none ∧ Commits body t r t') := by
  simp only [once, replayInSession, commits_bind, commits_read, and_assoc, exists_and_left,
    exists_eq_left] at h
  obtain ⟨found, t₁, hfound, h⟩ := h
  cases hg : t.results.get (·.key) key with
  | none =>
    rw [hg, commits_pure] at hfound
    obtain ⟨rfl, rfl⟩ := hfound
    exact .inr ⟨rfl, h⟩
  | some row =>
    rw [hg] at hfound
    simp only [commits_raiseIf_bind, commits_pure, not_not] at hfound
    obtain ⟨hfp, rfl, rfl⟩ := hfound
    rw [commits_pure] at h
    exact .inl ⟨h.2, row, rfl, hfp, h.1⟩

/-- A call that finds no stored answer does what it does. -/
theorem commits_once {key : CommandKey} {fp : Fingerprint} {body : Session CommandResult}
    {r : CommandResult} (hnone : t.results.get (·.key) key = none) (h : Commits body t r t') :
    Commits (once key fp body) t r t' :=
  commits_bind.mpr ⟨none, t, by simp [replayInSession, hnone], h⟩

@[simp] theorem commits_requireTransition {current target : ProposalState} {u : Unit} :
    Commits (requireTransition current target) t u t' ↔ target ∈ current.allowed ∧ t' = t := by
  rw [requireTransition, commits_raiseIf, not_not]

/-! `decide_enrollment`, `cancel_enrollment` and the sweep. -/

theorem pending_of_decidable {s : ProposalState} {kind : DecisionKind}
    (h : (if kind = .approve then ProposalState.approvedAwaitingHandoff else .rejected) ∈ s.allowed) :
    s = .pendingReview := by
  cases s <;> cases kind <;> simp_all [ProposalState.allowed]

theorem decideEnrollment_follows {commandId : CommandId} {correlationId : CorrelationId}
    {enrollmentId : EnrollmentId} {payload : DecideEnrollment} {context : ActorContext}
    {fp : Fingerprint} {draws : Draws} {r : CommandResult}
    (hdomain : payload.targetOwnerDomainId = context.ownerDomainId)
    (h : Commits (authority.decideEnrollment commandId correlationId enrollmentId payload context fp
      draws) t r t') :
    (t' = t ∧ r.outcome = .replayed) ∨ r.outcome = .committed ∧ ∃ p, p.enrollmentId = enrollmentId ∧
      draws.now < p.expiresAt ∧
      Follows authority t.registry [decisionMove authority t p payload.decision context.actor
        payload.targetBusinessOwnerId payload.reviewedManifestRef draws] t'.registry := by
  rcases once_commits h with ⟨rfl, row, -, -, rfl⟩ | ⟨-, h⟩
  · exact .inl ⟨rfl, rfl⟩
  right
  simp only [getProposal, commits_bind, commits_read, commits_demand, commits_raiseIf, commits_pure,
    commits_requireTransition, and_assoc, exists_and_left, exists_eq_left, exists_unit] at h
  obtain ⟨p, hget, hdom, hexp, hallowed, -, -, ⟨decision, grantId⟩, t₁, hdecide, t₂, hsave, rfl, rfl⟩ :=
    h
  rw [not_not] at hdom
  rw [not_or] at hexp
  have hp : t.registry.HasProposal p := Tables.hasProposal_iff.mpr (Table.get_mem hget)
  have hfollows := decideInSession_follows (t := t) hp (pending_of_decidable hallowed)
    (by rw [hdom, ← hdomain]; exact hdecide)
  refine ⟨rfl, p, Table.get_key hget, Int.not_le.mp hexp.2, ?_⟩
  rw [saveResult_registry hsave]
  exact hfollows

theorem cancelEnrollment_follows {commandId : CommandId} {correlationId : CorrelationId}
    {enrollmentId : EnrollmentId} {reason : String} {context : ActorContext} {fp : Fingerprint}
    {draws : Draws} {r : CommandResult}
    (h : Commits (cancelEnrollment commandId correlationId enrollmentId reason context fp draws)
      t r t') :
    t' = t ∨ ∃ p, p.enrollmentId = enrollmentId ∧
      Follows authority t.registry [.cancel p draws.now] t'.registry := by
  rcases once_commits h with ⟨rfl, -⟩ | ⟨-, h⟩
  · exact .inl rfl
  right
  simp only [getProposal, commits_bind, commits_read, commits_demand, commits_raiseIf, commits_pure,
    commits_requireTransition, and_assoc, exists_and_left, exists_eq_left, exists_unit] at h
  obtain ⟨p, hget, -, hallowed, t₁, hmove, t₂, hsave, t₃, hout, -, rfl⟩ := h
  have hkey : p.enrollmentId = enrollmentId := Table.get_key hget
  have hp : p ∈ t.proposals := Table.get_mem hget
  have hpending : p.state = .pendingReview := by
    cases hs : p.state <;> simp_all [ProposalState.allowed]
  refine ⟨p, hkey, ?_⟩
  have hreg : t'.registry = t.registry.apply (.cancel p draws.now) := by
    rw [addOutbox_registry hout, if_neg (by decide), saveResult_registry hsave,
      moveProposal_registry hp (hkey ▸ hmove)]
    rfl
  rw [hreg]
  exact Follows.single ⟨Tables.hasProposal_iff.mpr hp, hpending⟩

theorem expirable_of_allowed {s : ProposalState} (h : ProposalState.expired ∈ s.allowed) :
    expirable s = true := by
  cases s <;> simp_all [ProposalState.allowed, expirable]

/-- One round of the sweep expires one Proposal. -/
theorem expireProposal_follows {eventIds : EnrollmentId → EventId} {now : Timestamp}
    {p : ProposalRow} {u : Unit} (hp : p ∈ t.proposals) (hdue : p.expiresAt ≤ now)
    (h : Commits (expireProposal eventIds now p) t u t') :
    Follows authority t.registry [.expire p now] t'.registry := by
  simp only [expireProposal, getGrantForEnrollment, commits_bind, commits_read,
    commits_requireTransition, and_assoc, exists_and_left, exists_eq_left, exists_unit] at h
  obtain ⟨hallowed, t₁, hmove, t₂, hrevoke, hout⟩ := h
  have hreg₁ := moveProposal_registry hp hmove
  have hreg : t'.registry = t.registry.apply (.expire p now) := by
    rw [addOutbox_registry hout, if_neg (by decide), revokeUnlessRevoked_registry hrevoke, hreg₁]
    rfl
  rw [hreg]
  exact Follows.single ⟨Tables.hasProposal_iff.mpr hp, expirable_of_allowed hallowed, hdue⟩

/-- The sweep expires the Proposals that are due, one after the other. -/
theorem expireProposals_follows {eventIds : EnrollmentId → EventId} {now : Timestamp}
    {ps : List ProposalRow} {u : Unit} (hp : ∀ p ∈ ps, p ∈ t.proposals ∧ p.expiresAt ≤ now)
    (hnodup : ps.Nodup) (h : Commits (forEach (expireProposal eventIds now) ps) t u t') :
    Follows authority t.registry (ps.map (.expire · now)) t'.registry := by
  induction ps generalizing t with
  | nil =>
    rw [commits_forEach_nil] at h
    rw [h]
    exact Follows.nil
  | cons p ps ih =>
    obtain ⟨t₁, hfirst, hrest⟩ := commits_forEach_cons.mp h
    obtain ⟨hpmem, hdue⟩ := hp p List.mem_cons_self
    have hfollows : Follows authority t.registry [.expire p now] t₁.registry :=
      expireProposal_follows hpmem hdue hfirst
    refine hfollows.append (ih ?_ hnodup.of_cons hrest)
    intro q hq
    obtain ⟨hqmem, hqdue⟩ := hp q (List.mem_cons_of_mem p hq)
    refine ⟨?_, hqdue⟩
    have hne : q.enrollmentId ≠ p.enrollmentId := by
      intro heq
      rw [Table.eq_of_key proposal_enrollmentId_isKey hqmem hpmem heq] at hq
      exact (List.nodup_cons.mp hnodup).1 hq
    rw [← Tables.hasProposal_iff] at hqmem ⊢
    unfold HasProposal at *
    rw [hfollows.2]
    simpa [Registry.apply, hne] using hqmem

theorem expireDue_follows {eventIds : EnrollmentId → EventId} {now : Timestamp} {n : Nat}
    (h : Commits (expireDue eventIds now) t n t') :
    ∃ ps : List ProposalRow, Follows authority t.registry (ps.map (.expire · now)) t'.registry := by
  simp only [expireDue, listExpirable, commits_bind, commits_read, commits_pure, and_assoc,
    exists_and_left, exists_eq_left, exists_unit] at h
  obtain ⟨t₁, hloop, -, rfl⟩ := h
  refine ⟨_, expireProposals_follows ?_ ?_ hloop⟩
  · intro p hp
    rw [List.mem_insertionSort, List.mem_filter] at hp
    obtain ⟨hmem, hdue⟩ := hp
    simp only [Bool.and_eq_true, decide_eq_true_eq] at hdue
    exact ⟨hmem, hdue.2⟩
  · rw [(List.perm_insertionSort _ _).nodup_iff]
    exact (Table.nodup fun _ => by simp [Keyed.clash]).filter _

/-! `create_enrollment`. -/

theorem establishStanding_registry {payload : CreateEnrollment} {enrolled : VerifiedEnrollment}
    {now : Timestamp} {u : Unit} (h : Commits (establishStanding payload enrolled now) t u t') :
    t'.registry = t.registry := by
  unfold establishStanding at h
  simp only at h
  split at h
  · simp only [consumeCommissioningVoucher, bindBaseIdentity, baseIdentity, baseIdentityForKey,
      commits_bind, commits_lift, commits_read, commits_raiseIf, commits_add, and_assoc,
      exists_and_left, exists_eq_left, exists_unit] at h
    obtain ⟨_, -, -, _, ⟨x, -, rfl⟩, h⟩ := h
    split at h
    · rw [commits_raiseIf] at h
      rw [h.2]
      rfl
    · simp only [commits_bind, commits_read, commits_raiseIf, commits_add, and_assoc,
        exists_and_left, exists_eq_left, exists_unit] at h
      obtain ⟨-, y, -, rfl⟩ := h
      rfl
  · simp only [baseIdentity, requiresFreshPresence, commits_bind, commits_read, commits_demand,
      commits_raiseIf, and_assoc, exists_and_left, exists_eq_left, exists_unit] at h
    obtain ⟨_, -, -, -, rfl⟩ := h
    rfl

theorem standingFor_unchanged {verified : VerifiedCommissioning} {domain : OwnerDomainId}
    {keyId : KeyId} {standing : Option (ControllerActorRef × BusinessOwnerId)}
    (h : Commits (authority.standingFor verified domain keyId) t standing t') : t' = t := by
  unfold standingFor at h
  split at h
  · exact (commits_pure.mp h).2
  obtain ⟨row, t₁, hrow, hrest⟩ := commits_bind.mp h
  obtain rfl : t₁ = t := by
    unfold recordedStanding at hrow
    split at hrow <;> exact (commits_read.mp hrow).2
  cases row with
  | none => exact (commits_pure.mp hrest).2
  | some row =>
    simp only at hrest
    split at hrest
    · exact (commits_pure.mp hrest).2
    · simp only [controllerWithdrawnAt, controllerWithdrawal, commits_bind, commits_read,
        commits_pure, and_assoc, exists_and_left, exists_eq_left] at hrest
      split at hrest
      · split at hrest <;> exact (commits_pure.mp hrest).2
      · exact (commits_pure.mp hrest).2

/-- An enrollment is one move, and a second one where a recorded standing decides it. -/
theorem createInSession_follows {commandId : CommandId} {correlationId : CorrelationId}
    {payload : CreateEnrollment} {enrolled : VerifiedEnrollment} {fp : Fingerprint} {draws : Draws}
    {r : CommandResult} (hdomain : payload.requestedOwnerDomainId = authority.ownerDomainId)
    (h : Commits (authority.createInSession commandId correlationId payload enrolled fp draws) t r
      t') :
    let p := authority.proposalFor payload enrolled draws
    Follows authority t.registry [.enroll p] t'.registry ∨
    ∃ t₁ actor owner, t₁.registry = t.registry.withProposal p ∧
      Follows authority t.registry [.enroll p, decisionMove authority t₁ p .approve actor owner
        payload.manifest.ref draws] t'.registry := by
  intro p
  simp only [createInSession, commits_bind] at h
  obtain ⟨_, t₁, hstanding, _, t₂, hadd, _, t₃, hsave, _, t₄, hout, standing, t₅, hfor, h⟩ := h
  obtain rfl := standingFor_unchanged hfor
  simp only [addProposal, commits_add] at hadd
  obtain ⟨x, hx, rfl⟩ := hadd
  have hreg₁ := establishStanding_registry hstanding
  have hfresh : (t.registry.dossier p.enrollmentId).proposal = none := by
    rw [← hreg₁]
    exact Table.fresh_of_insert hx proposal_enrollmentId_isKey
  have hreg : t₅.registry = t.registry.withProposal p := by
    rw [addOutbox_registry hout, if_neg (by decide), saveResult_registry hsave,
      registry_insertProposal hx, hreg₁]
  have henroll : Follows authority t.registry [.enroll p] t₅.registry := by
    rw [hreg]
    exact Follows.single ⟨hfresh, rfl, rfl, hdomain⟩
  cases standing with
  | none =>
    simp only [commits_pure] at h
    rw [h.2]
    exact .inl henroll
  | some decider =>
    obtain ⟨actor, owner⟩ := decider
    simp only [commits_bind, commits_pure] at h
    obtain ⟨_, t₆, hdecide, -, rfl⟩ := h
    have hp : t₅.registry.HasProposal p := by
      rw [hreg]
      simp [HasProposal]
    have hdecided := decideInSession_follows (p := p) hp rfl hdecide
    exact .inr ⟨t₅, actor, owner, hreg, henroll.append hdecided⟩

/-! `collect_claim_grant`. -/

/-- What a collection found out before it hands out a grant. -/
theorem collectable_commits {enrollmentId : EnrollmentId} {proposalRevision : Nat}
    {collectionChallenge handoffKeyProof : String} {now : Timestamp} {p : ProposalRow}
    {g : GrantRow} (h : Commits (authority.collectable enrollmentId proposalRevision
      collectionChallenge handoffKeyProof now) t (p, g) t') :
    t' = t ∧ p ∈ t.proposals ∧ p.enrollmentId = enrollmentId ∧ now < p.expiresAt ∧
      g ∈ t.grants ∧ g.enrollmentId = enrollmentId ∧ g.revokedAt = none ∧ now < g.expiresAt ∧
      (p.state = .approvedAwaitingHandoff ∨ p.state = .grantDelivered) ∧
      (g.wireEnvelope = none → p.state = .approvedAwaitingHandoff) := by
  simp only [collectable, getProposal, getGrantForEnrollment, getDecisionForEnrollment,
    commits_bind, commits_read, commits_demand, commits_raiseIf, commits_pure, and_assoc,
    exists_and_left, exists_eq_left, exists_unit] at h
  obtain ⟨p', hp, -, -, -, hexp, hrevoked, hopaque, decision, -, hstate, -, -, -, g', hg, hgexp,
    heq, rfl⟩ := h
  cases heq
  rw [not_or] at hexp
  have hstates : p.state = .approvedAwaitingHandoff ∨ p.state = .grantDelivered := by
    by_cases hs : p.state = .approvedAwaitingHandoff
    · exact .inl hs
    · exact .inr (not_not.mp fun hd => hstate ⟨hs, hd⟩)
  rw [hg] at hrevoked hopaque
  refine ⟨rfl, Table.get_mem hp, Table.get_key hp, Int.not_le.mp hexp.2, Table.get_mem hg,
    Table.get_key hg, by simpa using hrevoked, Int.not_le.mp hgexp, hstates, ?_⟩
  intro hnone
  refine hstates.resolve_right fun hd => hopaque ⟨?_, hd⟩
  simp [hnone]

/-- A collection delivers the grant, or repeats a delivery and changes nothing. -/
theorem collectClaimGrant_follows {commandId : CommandId} {correlationId : CorrelationId}
    {enrollmentId : EnrollmentId} {proposalRevision : Nat}
    {collectionChallenge handoffKeyProof : String} {fp : Fingerprint} {draws : Draws}
    {r : CommandResult} (h : Commits (authority.collectClaimGrant commandId correlationId
      enrollmentId proposalRevision collectionChallenge handoffKeyProof fp draws) t r t') :
    t'.registry = t.registry ∨ ∃ p g envelope, p.enrollmentId = enrollmentId ∧
      Follows authority t.registry [.deliver p g envelope draws.now] t'.registry := by
  rcases once_commits h with ⟨rfl, -⟩ | ⟨-, hbody⟩
  · exact .inl rfl
  obtain ⟨⟨p, g⟩, t₁, hcollectable, hrest⟩ := commits_bind.mp hbody
  obtain ⟨rfl, hp, hpid, hpexp, hg, hgid, hrevoked, hgexp, hstate, hopaque⟩ :=
    collectable_commits hcollectable
  cases henv : g.wireEnvelope with
  | some envelope =>
    simp only [henv] at hrest
    simp only [commits_bind, commits_demand, commits_pure, and_assoc, exists_and_left,
      exists_eq_left, exists_unit] at hrest
    obtain ⟨deliveredAt, -, t₂, hsave, -, rfl⟩ := hrest
    exact .inl (saveResult_registry hsave)
  | none =>
    simp only [henv] at hrest
    simp only [commits_bind, commits_lift, commits_pure, and_assoc, exists_and_left, exists_eq_left,
      exists_unit] at hrest
    obtain ⟨envelope, -, t₂, hdeliver, t₃, hmove, t₄, hsave, t₅, hout, -, rfl⟩ := hrest
    right
    refine ⟨p, g, envelope, hpid, ?_⟩
    have hreg₂ := deliverGrant_registry hg hdeliver
    have hp₂ : p ∈ t₂.proposals := by
      rw [deliverGrant, commits_update] at hdeliver
      rw [hdeliver]
      exact hp
    have hreg : t'.registry = t₁.registry.apply (.deliver p g envelope draws.now) := by
      rw [addOutbox_registry hout, if_neg (by decide), saveResult_registry hsave,
        moveProposal_registry hp₂ (hpid ▸ hmove), hreg₂]
      rfl
    rw [hreg]
    exact Follows.single ⟨Tables.hasProposal_iff.mpr hp, hopaque henv, Tables.hasGrant_iff.mpr hg,
      hgid.trans hpid.symm, henv, hrevoked, hpexp, hgexp⟩

/-! `ack_claim_grant`. -/

/-- What an acknowledgement found out before it activates a Claim. -/
theorem acknowledgeable_commits {enrollmentId : EnrollmentId} {grantId : GrantId}
    {operationalKeyProof : String} {storedClaimGeneration storedTrustEpoch : Nat}
    {now : Timestamp} {p : ProposalRow} {g : GrantRow}
    (h : Commits (authority.acknowledgeable enrollmentId grantId operationalKeyProof
      storedClaimGeneration storedTrustEpoch now) t (p, g) t') :
    t' = t ∧ p ∈ t.proposals ∧ p.enrollmentId = enrollmentId ∧ p.state = .grantDelivered ∧
      g ∈ t.grants ∧ g.grantId = grantId ∧ g.enrollmentId = enrollmentId ∧ g.revokedAt = none ∧
      now < g.expiresAt := by
  simp only [acknowledgeable, getProposal, getGrant, commits_bind, commits_read, commits_demand,
    commits_raiseIf, commits_requireTransition, commits_pure, and_assoc, exists_and_left,
    exists_eq_left, exists_unit] at h
  obtain ⟨p', hp, g', hg, hgid, hrevoked, hexp, hallowed, -, -, heq, rfl⟩ := h
  cases heq
  rw [not_or] at hrevoked
  refine ⟨rfl, Table.get_mem hp, Table.get_key hp, ?_, Table.get_mem hg, Table.get_key hg,
    not_not.mp hgid, by simpa using hrevoked.1, Int.not_le.mp hexp⟩
  cases hs : p.state <;> simp_all [ProposalState.allowed]

/-- An acknowledgement repeats an answer, or activates the Claim of its grant. -/
theorem ackClaimGrant_follows {commandId : CommandId} {correlationId : CorrelationId}
    {enrollmentId : EnrollmentId} {grantId : GrantId} {operationalKeyProof : String}
    {storedClaimGeneration storedTrustEpoch : Nat} {fp : Fingerprint} {draws : Draws}
    {r : CommandResult} (h : Commits (authority.ackClaimGrant commandId correlationId enrollmentId
      grantId operationalKeyProof storedClaimGeneration storedTrustEpoch fp draws) t r t') :
    (t' = t ∧ r.outcome = .replayed) ∨ r.outcome = .committed ∧
    ∃ p g d name published, p.enrollmentId = enrollmentId ∧ g.grantId = grantId ∧
      Follows authority t.registry [.acknowledge p g d
        (authority.ackFor g enrollmentId operationalKeyProof draws.now) name published draws.now]
        t'.registry := by
  rcases once_commits h with ⟨rfl, row, -, -, rfl⟩ | ⟨-, hbody⟩
  · exact .inl ⟨rfl, rfl⟩
  simp only [commits_bind] at hbody
  obtain ⟨⟨p, g⟩, t₁, hack, _, t₂, hadd, hrest⟩ := hbody
  obtain ⟨rfl, hp, hpid, hstate, hg, hgid, hge, hrevoked, hgexp⟩ := acknowledgeable_commits hack
  simp only [addGrantAck, commits_add] at hadd
  obtain ⟨x, hx, rfl⟩ := hadd
  simp only [getDecision, commits_read, commits_demand, commits_lift, commits_pure, and_assoc,
    exists_and_left, exists_eq_left, exists_unit] at hrest
  obtain ⟨d, hd, claimRevision, t₃, hclaim, t₄, hdevice, t₅, hmove, t₆, hsave, t₇, hout₁, published,
    hvalid, t₈, hout₂, rfl, rfl⟩ := hrest
  obtain ⟨hreg₃, hrev⟩ := upsertClaim_registry hclaim
  obtain ⟨name, hreg₄⟩ := projectActiveClaim_registry hdevice
  rw [registry_insertAck hx] at hreg₃ hrev
  rw [hreg₃] at hreg₄
  have hp₁ : t₁.registry.HasProposal p := Tables.hasProposal_iff.mpr hp
  have hp₄ : t₄.registry.HasProposal p := by
    rw [hreg₄]
    unfold HasProposal at hp₁ ⊢
    simp only [withDevice_dossier, withClaim_dossier, withAck_dossier]
    split <;> exact hp₁
  -- the acknowledgement, the Claim, the device and the Proposal are written in one transaction, as
  -- one move
  have hreg : t'.registry = t₁.registry.apply (.acknowledge p g d
      (authority.ackFor g enrollmentId operationalKeyProof draws.now) name published draws.now) := by
    rw [addOutbox_registry hout₂, if_pos (by decide), addOutbox_registry hout₁,
      if_neg (by decide), saveResult_registry hsave,
      moveProposal_registry (Tables.hasProposal_iff.mp hp₄) (hpid ▸ hmove), hreg₄]
    rfl
  have hpub := (Sdk.validateClaimEvent_ok.mp hvalid).2
  have hfresh : (t₁.registry.dossier p.enrollmentId).ack = none := by
    rw [hpid]
    exact Table.fresh_of_insert hx ack_enrollmentId_isKey
  refine .inr ⟨rfl, p, g, d, name, published, hpid, hgid, ?_⟩
  rw [hreg]
  refine Follows.single ⟨hp₁, hstate, Tables.hasGrant_iff.mpr hg, hge.trans hpid.symm, hrevoked,
    hgexp, Tables.hasDecision_iff.mpr (Table.get_mem hd), Table.get_key hd, hfresh, hpid.symm, rfl,
    rfl, ?_⟩
  rw [hpub]
  exact ⟨rfl, rfl, rfl, hrev, rfl⟩

/-! `revoke_claim`. -/

theorem withdrawGrant_registry {ref : DeviceRef} {g : GrantRow} {now : Timestamp} {revision : Nat}
    (hg : g ∈ t.grants) (hclaim : t.registry.claim ref.deviceInstanceId = none)
    (h : Commits (withdrawGrant ref g now) t revision t') :
    ∃ p d, t.registry.HasProposal p ∧ g.enrollmentId = p.enrollmentId ∧
      (p.state = .approvedAwaitingHandoff ∨ p.state = .grantDelivered) ∧ t.registry.HasDecision d ∧
      d.decisionId = g.decisionId ∧ revision = 1 ∧
      t'.registry = (((t.registry.withProposal (p.moved .claimRevoked now)).withGrant
        (g.revoke now)).withClaim (withdrawnClaim ref p g d.targetBusinessOwnerId now)) := by
  simp only [withdrawGrant, getProposal, getDecision, commits_bind, commits_read, commits_demand,
    commits_requireTransition, commits_pure, and_assoc, exists_and_left, exists_eq_left,
    exists_unit] at h
  obtain ⟨p, hp, hallowed, t₁, hmove, t₂, hrevoke, d, hd, claimRevision, t₃, hupsert, hrev, rfl⟩ := h
  have hpid : p.enrollmentId = g.enrollmentId := Table.get_key hp
  have hpmem : p ∈ t.proposals := Table.get_mem hp
  have hreg₁ := moveProposal_registry hpmem (hpid ▸ hmove)
  have hg₁ : g ∈ t₁.grants := by
    rw [moveProposal, commits_update] at hmove
    rw [hmove]
    exact hg
  have hdec : t₂.decisions = t.decisions := by
    rw [moveProposal, commits_update] at hmove
    rw [revokeGrant, commits_update] at hrevoke
    rw [hrevoke, hmove]
  have hreg₂ := revokeGrant_registry hg₁ hrevoke
  obtain ⟨hreg₃, -⟩ := upsertClaim_registry hupsert
  have hnone : t₂.registry.claim ref.deviceInstanceId = none := by
    rw [hreg₂, hreg₁]
    exact hclaim
  rw [hdec] at hd
  refine ⟨p, d, Tables.hasProposal_iff.mpr hpmem, hpid.symm, ?_,
    Tables.hasDecision_iff.mpr (Table.get_mem hd), Table.get_key hd, hrev, ?_⟩
  · cases hs : p.state <;> simp_all [ProposalState.allowed]
  · rw [hreg₃, show (withdrawnClaim ref p g d.targetBusinessOwnerId now).deviceInstanceId =
      ref.deviceInstanceId from rfl, hnone, hreg₂, hreg₁]
    rfl

theorem finishRevocation_registry {commandId : CommandId} {correlationId : CorrelationId}
    {ref : DeviceRef} {reason : String} {context : ActorContext} {fp : Fingerprint} {draws : Draws}
    {revision : Nat} {r : CommandResult} (h : Commits (authority.finishRevocation commandId
      correlationId ref reason context fp draws revision) t r t') :
    r.outcome = .committed ∧
    ∃ published, Publishes published .claimRevoked ref revision (.revoked ref reason draws.now) ∧
      t'.registry = (t.registry.withDeviceRevoked ref draws.now).publish published := by
  simp only [finishRevocation, commits_bind, commits_lift, commits_pure, and_assoc, exists_and_left,
    exists_eq_left, exists_unit] at h
  obtain ⟨t₁, hproject, t₂, hsave, published, hvalid, t₃, hout, rfl, rfl⟩ := h
  refine ⟨rfl, published, ?_, ?_⟩
  · rw [(Sdk.validateClaimEvent_ok.mp hvalid).2]
    exact ⟨rfl, rfl, rfl, rfl, rfl⟩
  · rw [addOutbox_registry hout, if_pos (by decide), saveResult_registry hsave,
      projectRevokedClaim_registry hproject]

theorem revokeStanding_registry {c : ClaimRow} {now : Timestamp} {revision : Nat}
    (hc : c ∈ t.claims) (h : Commits (revokeStanding c now) t revision t') :
    revision = c.revision + 1 ∧ t'.registry =
      (t.registry.withClaim (c.revoke now)).revokeGrantsOf c.approvalDecisionId now := by
  simp only [revokeStanding, getGrantForDecision, commits_bind, commits_read, commits_pure,
    and_assoc, exists_and_left, exists_eq_left, exists_unit] at h
  obtain ⟨t₁, hrow, t₂, hgrant, hrev, rfl⟩ := h
  exact ⟨hrev, by rw [revokeActiveGrant_registry hgrant, revokeClaimRow_registry hc hrow]⟩

/-- **A revocation** repeats an answer, finds the Claim revoked, withdraws a grant
of a device without a Claim, or revokes the Claim of the generation it names. -/
theorem revokeClaim_follows {commandId : CommandId} {correlationId : CorrelationId}
    {ref : DeviceRef} {reason : String} {context : ActorContext} {fp : Fingerprint} {draws : Draws}
    {r : CommandResult} (h : Commits (authority.revokeClaim commandId correlationId ref reason
      context fp draws) t r t') :
    (t' = t ∧ r.outcome = .replayed) ∨ r.outcome = .committed ∧
    ((t'.registry = t.registry ∧ ∃ c, t.registry.claim ref.deviceInstanceId = some c ∧
      c.deviceRef = ref ∧ c.state = .revoked) ∨
    (∃ p g d published, t.grants.get (·.deviceRef) ref = some g ∧
      d.targetBusinessOwnerId = context.businessOwnerId ∧
      Follows authority t.registry [.withdraw p g d published draws.now] t'.registry) ∨
    (∃ c published, c.deviceRef = ref ∧ c.businessOwnerId = context.businessOwnerId ∧
      Follows authority t.registry [.revoke c published draws.now] t'.registry)) := by
  rcases once_commits h with ⟨rfl, row, -, -, rfl⟩ | ⟨-, hbody⟩
  · exact .inl ⟨rfl, rfl⟩
  have hdef : t.registry.claim ref.deviceInstanceId =
    t.claims.get (·.deviceInstanceId) ref.deviceInstanceId := rfl
  simp only [getClaim, commits_read_bind] at hbody
  cases hc : t.claims.get (·.deviceInstanceId) ref.deviceInstanceId with
  -- no Claim: the Grant of the device is withdrawn
  | none =>
    rw [hc] at hdef hbody
    simp only [getGrantForDeviceRef, getDecision, commits_bind, commits_read, commits_demand,
      commits_raiseIf, and_assoc, exists_and_left, exists_eq_left, exists_unit] at hbody
    obtain ⟨g, hg, d, hd, howner, revision, t₁, hwithdraw, hfinish⟩ := hbody
    obtain rfl : g.deviceRef = ref := Table.get_key hg
    obtain ⟨p, d', hp, hge, hstate, hd', hdid, rfl, hreg₁⟩ :=
      withdrawGrant_registry (Table.get_mem hg) hdef hwithdraw
    obtain ⟨hcommitted, published, hpub, hreg⟩ := finishRevocation_registry hfinish
    obtain rfl : d' = d := Table.eq_of_key decision_decisionId_isKey (Tables.hasDecision_iff.mp hd')
      (Table.get_mem hd) (hdid.trans (Table.get_key hd).symm)
    refine .inr ⟨hcommitted, .inr (.inl ⟨p, g, d', published, hg, not_not.mp howner, ?_⟩)⟩
    have happly : t'.registry = t.registry.apply (.withdraw p g d' published draws.now) := by
      rw [hreg, hreg₁]
      rfl
    rw [happly]
    exact Follows.single ⟨hp, hstate, Tables.hasGrant_iff.mpr (Table.get_mem hg), hge, hd', hdid, hdef,
      reason, hpub⟩
  | some c =>
    rw [hc] at hdef hbody
    simp only [commits_raiseIf_bind, not_not] at hbody
    obtain ⟨howner, hsame, hbody⟩ := hbody
    have hkey : c.deviceInstanceId = ref.deviceInstanceId := Table.get_key hc
    have href : c.deviceRef = ref := by
      obtain ⟨hdomain, hgeneration, hclaimGeneration, hepoch⟩ := hsame
      cases ref
      simp_all [ClaimRow.deviceRef]
    split at hbody
    -- a Claim that is revoked already: the command is only recorded
    · next hrevoked =>
      simp only [commits_bind, commits_pure, exists_unit] at hbody
      obtain ⟨t₁, hsave, rfl, rfl⟩ := hbody
      exact .inr ⟨rfl, .inl ⟨saveResult_registry hsave, c, hdef, href, hrevoked⟩⟩
    -- an active Claim: its standing is revoked in one move
    · next hactive =>
      simp only [commits_bind] at hbody
      obtain ⟨revision, t₁, hstanding, hfinish⟩ := hbody
      have hmem : c ∈ t.claims := Table.get_mem hc
      obtain ⟨rfl, hreg₁⟩ := revokeStanding_registry hmem hstanding
      obtain ⟨hcommitted, published, hpub, hreg⟩ := finishRevocation_registry hfinish
      refine .inr ⟨hcommitted, .inr (.inr ⟨c, published, href, howner, ?_⟩)⟩
      rw [← href] at hreg hpub
      have happly : t'.registry = t.registry.apply (.revoke c published draws.now) := by
        rw [hreg, hreg₁]
        rfl
      rw [happly]
      exact Follows.single ⟨by rw [hkey]; exact hdef, hactive, reason, hpub⟩

/-! Standings and withdrawals touch nothing the registry holds. -/

theorem recordStanding_registry {jti : Jti} {keyId : KeyId} {context : ActorContext}
    {now : Timestamp} {u : Unit} (h : Commits (recordStanding jti keyId context now) t u t') :
    t'.registry = t.registry := by
  simp only [recordStanding, recordCommissioningStanding, commissioningStanding, commits_bind,
    commits_lift, commits_read, commits_pure, and_assoc, exists_and_left, exists_eq_left,
    exists_unit] at h
  obtain ⟨-, changed, t₁, h, -, rfl⟩ := h
  split at h
  · simp only [commits_bind, commits_raiseIf, commits_pure, and_assoc, exists_and_left,
      exists_eq_left, exists_unit] at h
    rw [h.2.2]
  · simp only [commits_bind, commits_add, commits_pure, exists_unit] at h
    obtain ⟨_, ⟨x, -, rfl⟩, -, rfl⟩ := h
    rfl

theorem withdrawController_registry {principalId : PrincipalId} {context : ActorContext}
    {now withdrawnAt : Timestamp}
    (h : Commits (withdrawController principalId context now) t withdrawnAt t') :
    t'.registry = t.registry := by
  simp only [withdrawController, recordControllerWithdrawal, controllerWithdrawal, commits_bind,
    commits_lift, commits_raiseIf, commits_read, and_assoc, exists_and_left, exists_eq_left,
    exists_unit] at h
  obtain ⟨-, -, h⟩ := h
  split at h
  · simp only [commits_bind, commits_add, commits_pure, exists_unit] at h
    obtain ⟨_, ⟨x, -, rfl⟩, -, rfl⟩ := h
    rfl
  · split at h
    · simp only [commits_bind, commits_update, commits_pure, exists_unit, exists_eq_left] at h
      rw [h.2]
      rfl
    · rw [(commits_pure.mp h).2]

/-! What a call checked before its replay lookup. -/

theorem createAuthorized_ok {payload : CreateEnrollment} {fp : Fingerprint}
    (h : authority.createAuthorized payload = .ok fp) :
    payload.requestedOwnerDomainId = authority.ownerDomainId := by
  unfold createAuthorized at h
  split at h
  · cases h
  · next hdomain => exact not_not.mp hdomain

theorem decideAuthorized_ok {enrollmentId : EnrollmentId} {payload : DecideEnrollment}
    {context : ActorContext} {fp : Fingerprint}
    (h : authority.decideAuthorized enrollmentId payload context = .ok fp) :
    payload.targetOwnerDomainId = context.ownerDomainId ∧
      payload.targetBusinessOwnerId = context.businessOwnerId := by
  obtain ⟨_, -, h⟩ := except_bind_ok.mp h
  by_cases hdomain : payload.targetOwnerDomainId = context.ownerDomainId
  · by_cases howner : payload.targetBusinessOwnerId = context.businessOwnerId
    · exact ⟨hdomain, howner⟩
    · simp [hdomain, howner, bind, Except.bind, throw, throwThe, MonadExceptOf.throw] at h
  · simp [hdomain, bind, Except.bind, throw, throwThe, MonadExceptOf.throw] at h

end AdmissionAuthority

/-! ### Requests and runs -/

/-- The moves a request may make. -/
def Request.makes : Request → Move → Prop
  | .command (.createEnrollment ..) _, m => (∃ p, m = .enroll p) ∨ ∃ p d g now, m = .approve p d g now
  | .command (.decideEnrollment _ _ enrollmentId _ _) _, m =>
    (∃ p d now, p.enrollmentId = enrollmentId ∧ m = .reject p d now) ∨
    ∃ p d g now, p.enrollmentId = enrollmentId ∧ m = .approve p d g now
  | .command (.cancelEnrollment _ _ enrollmentId _ _) _, m =>
    ∃ p now, p.enrollmentId = enrollmentId ∧ m = .cancel p now
  | .command (.collectClaimGrant _ _ enrollmentId _ _ _) _, m =>
    ∃ p g envelope now, p.enrollmentId = enrollmentId ∧ m = .deliver p g envelope now
  | .command (.ackClaimGrant _ _ enrollmentId grantId _ _ _) _, m =>
    ∃ p g d a name published now, p.enrollmentId = enrollmentId ∧ g.grantId = grantId ∧
      m = .acknowledge p g d a name published now
  | .command (.revokeClaim _ _ deviceRef _ _) _, m =>
    (∃ p g d published now, g.deviceRef = deviceRef ∧ m = .withdraw p g d published now) ∨
    ∃ c published now, c.deviceRef = deviceRef ∧ m = .revoke c published now
  | .expireDue _ _, m => ∃ p now, m = .expire p now
  | .recordStanding .., _ => False
  | .withdrawController .., _ => False

namespace AdmissionAuthority

open Registry

variable {authority : AdmissionAuthority} {t t' : Tables}

/-- The registry moves from one state to the other, by moves of this request. -/
def Makes (authority : AdmissionAuthority) (request : Request) (s s' : Registry) : Prop :=
  ∃ moves, (∀ m ∈ moves, request.makes m) ∧ Follows authority s moves s'

theorem Makes.nothing {request : Request} {s s' : Registry} (h : s' = s) :
    Makes authority request s s' := by
  subst h
  exact ⟨[], by simp, Follows.nil⟩

theorem Makes.one {request : Request} {s s' : Registry} {m : Move} (hm : request.makes m)
    (h : Follows authority s [m] s') : Makes authority request s s' :=
  ⟨[m], by simpa using hm, h⟩

theorem decisionMove_cases (authority : AdmissionAuthority) (t : Tables) (p : ProposalRow)
    (kind : DecisionKind) (actor : ControllerActorRef) (targetOwner : BusinessOwnerId)
    (reviewed : ManifestRef) (draws : Draws) :
    (∃ d, decisionMove authority t p kind actor targetOwner reviewed draws = .reject p d draws.now) ∨
    ∃ d g, decisionMove authority t p kind actor targetOwner reviewed draws =
      .approve p d g draws.now := by
  cases kind with
  | reject => exact .inl ⟨_, rfl⟩
  | approve => exact .inr ⟨_, _, rfl⟩

/-- A call that commits makes moves of its own command. -/
theorem session_makes {cmd : Command} {draws : Draws} {fp : Fingerprint} {r : CommandResult}
    (hfp : cmd.authorized authority = .ok fp) (h : Commits (cmd.session authority fp draws) t r t') :
    Makes authority (.command cmd draws) t.registry t'.registry := by
  cases cmd with
  | createEnrollment commandId correlationId payload =>
    simp only [Command.session, createEnrollment, commits_bind, commits_lift, and_assoc,
      exists_and_left, exists_eq_left] at h
    obtain ⟨enrolled, -, h⟩ := h
    rcases once_commits h with ⟨rfl, -⟩ | ⟨-, hbody⟩
    · exact .nothing rfl
    rcases createInSession_follows (createAuthorized_ok hfp) hbody with
      hone | ⟨t₁, actor, owner, -, htwo⟩
    · exact .one (.inl ⟨_, rfl⟩) hone
    · refine ⟨_, ?_, htwo⟩
      simp only [List.mem_cons, List.not_mem_nil, or_false, forall_eq_or_imp, forall_eq]
      exact ⟨.inl ⟨_, rfl⟩, .inr ⟨_, _, _, _, rfl⟩⟩
  | decideEnrollment commandId correlationId enrollmentId payload context =>
    rcases decideEnrollment_follows (decideAuthorized_ok hfp).1 h with ⟨rfl, -⟩ |
      ⟨-, p, hp, -, hmove⟩
    · exact .nothing rfl
    rcases decisionMove_cases authority t p payload.decision context.actor
      payload.targetBusinessOwnerId payload.reviewedManifestRef draws with ⟨d, heq⟩ | ⟨d, g, heq⟩
    · rw [heq] at hmove
      exact .one (.inl ⟨p, d, _, hp, rfl⟩) hmove
    · rw [heq] at hmove
      exact .one (.inr ⟨p, d, g, _, hp, rfl⟩) hmove
  | cancelEnrollment commandId correlationId enrollmentId reason context =>
    rcases cancelEnrollment_follows h with rfl | ⟨p, hp, hmove⟩
    · exact .nothing rfl
    · exact .one ⟨p, _, hp, rfl⟩ hmove
  | collectClaimGrant commandId correlationId enrollmentId proposalRevision challenge proof =>
    rcases collectClaimGrant_follows h with heq | ⟨p, g, envelope, hp, hmove⟩
    · exact .nothing heq
    · exact .one ⟨p, g, envelope, _, hp, rfl⟩ hmove
  | ackClaimGrant commandId correlationId enrollmentId grantId proof generation epoch =>
    rcases ackClaimGrant_follows h with ⟨rfl, -⟩ | ⟨-, p, g, d, name, published, hp, hg, hmove⟩
    · exact .nothing rfl
    · exact .one ⟨p, g, d, _, name, published, _, hp, hg, rfl⟩ hmove
  | revokeClaim commandId correlationId ref reason context =>
    rcases revokeClaim_follows h with ⟨rfl, -⟩ | ⟨-, ⟨heq, -⟩ |
      ⟨p, g, d, published, hg, -, hmove⟩ | ⟨c, published, hc, -, hmove⟩⟩
    · exact .nothing rfl
    · exact .nothing heq
    · exact .one (.inl ⟨p, g, d, published, _, Table.get_key hg, rfl⟩) hmove
    · exact .one (.inr ⟨c, published, _, hc, rfl⟩) hmove

/-- A request that commits makes moves of its own. -/
theorem transaction_makes {request : Request} {u : Unit}
    (h : Commits (request.transaction authority) t u t') :
    Makes authority request t.registry t'.registry := by
  cases request with
  | command cmd draws =>
    simp only [Request.transaction, Command.transaction, commits_bind, commits_lift, commits_pure,
      and_assoc, exists_and_left, exists_eq_left] at h
    obtain ⟨r, t₁, ⟨fp, hfp, hsession⟩, -, rfl⟩ := h
    exact session_makes hfp hsession
  | expireDue eventIds now =>
    simp only [Request.transaction, commits_bind, commits_pure] at h
    obtain ⟨n, t₁, hexpire, -, rfl⟩ := h
    obtain ⟨ps, hps⟩ := expireDue_follows hexpire
    refine ⟨_, ?_, hps⟩
    intro m hm
    obtain ⟨p, -, rfl⟩ := List.mem_map.mp hm
    exact ⟨p, now, rfl⟩
  | recordStanding jti keyId context now => exact .nothing (recordStanding_registry h)
  | withdrawController principalId context now =>
    simp only [Request.transaction, commits_bind, commits_pure] at h
    obtain ⟨withdrawnAt, t₁, hwithdraw, -, rfl⟩ := h
    exact .nothing (withdrawController_registry hwithdraw)

/-- **Every request is a list of its moves**, open one after the other. -/
theorem next_makes (authority : AdmissionAuthority) (t : Tables) (request : Request) :
    Makes authority request t.registry (authority.next t request).registry := by
  rcases attempt_cases (request.transaction authority) t with ⟨u, h⟩ | ⟨-, h⟩
  · exact transaction_makes h
  · exact .nothing (congrArg Tables.registry h)

/-- The database after a call that commits. -/
theorem next_command {cmd : Command} {draws : Draws} {r : CommandResult}
    (h : Commits (cmd.transaction authority draws) t r t') :
    authority.next t (.command cmd draws) = t' :=
  attempt_of_commits (a := ()) (by
    simp only [Request.transaction, commits_bind, commits_pure]
    exact ⟨r, t', h, trivial, rfl⟩)

/-- A call commits or leaves the database alone. -/
theorem next_command_cases (authority : AdmissionAuthority) (t : Tables) (cmd : Command)
    (draws : Draws) :
    (∃ r, Commits (cmd.transaction authority draws) t r (authority.next t (.command cmd draws))) ∨
      authority.next t (.command cmd draws) = t := by
  rcases attempt_cases (cmd.transaction authority draws) t with ⟨r, h⟩ | ⟨⟨e, h⟩, -⟩
  · rw [next_command h]
    exact .inl ⟨r, h⟩
  · right
    simp [next, attempt, Request.transaction, bind, h]

/-- A call that commits makes moves of its own command. -/
theorem command_commits {cmd : Command} {draws : Draws} {r : CommandResult}
    (h : Commits (cmd.transaction authority draws) t r t') :
    ∃ fp, cmd.authorized authority = .ok fp ∧ Commits (cmd.session authority fp draws) t r t' := by
  simpa only [Command.transaction, commits_bind, commits_lift, and_assoc, exists_and_left,
    exists_eq_left] using h

/-- What every open move preserves, every request preserves. -/
theorem next_inv {I : Registry → Prop}
    (hstep : ∀ s m, I s → s.allows authority m → I (s.apply m)) {request : Request}
    (h : I t.registry) : I (authority.next t request).registry := by
  obtain ⟨moves, -, hfollows⟩ := next_makes authority t request
  exact hfollows.inv hstep h

/-- **The invariant rule**: what a fresh registry has and every open move
preserves holds in every reachable state. -/
theorem reachable_inv {I : Registry → Prop} (h0 : I Registry.empty)
    (hstep : ∀ s m, I s → s.allows authority m → I (s.apply m)) (h : Reachable authority t) :
    I t.registry :=
  Reaches.inv (I := fun t => I t.registry) h (fun _ _ => next_inv hstep)
    (by rw [Tables.empty_registry]; exact h0)

end AdmissionAuthority

end EidolonHub.Admission
