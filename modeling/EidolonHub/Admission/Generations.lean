import EidolonHub.Admission.Withdrawal

/-!
# EidolonHub.Admission.Generations

**Claim generations count from one, without a gap.** The next generation of a
hardware is one above the highest it was ever granted; grants are rewritten but
never removed, so the generations of a lineage, in the order they were issued, are
`1, 2, …, n` whichever of the two ways of deciding issued them.
-/

namespace EidolonHub.Admission

open EidolonHub.Library EidolonHub.Library.Tx

/-- The generations granted to a hardware in an Owner Domain, in the order they were
issued. -/
def Tables.generations (t : Tables) (domain : OwnerDomainId) (hardware : HardwareIdentityRef) :
    List Nat :=
  (t.grants.rows.filter fun g => g.ownerDomainId = domain ∧ g.hardwareIdentityRef = hardware).map
    (·.claimGeneration)

/-- Every lineage counts from one, without a gap. -/
def Dense (t : Tables) : Prop :=
  ∀ domain hardware, ∃ n, t.generations domain hardware = List.range' 1 n

variable {authority : AdmissionAuthority} {t t' : Tables} {domain : OwnerDomainId}
  {hardware : HardwareIdentityRef}

/-! ### What the store operations do to a lineage -/

theorem generations_of_grants (h : t'.grants = t.grants) :
    t'.generations domain hardware = t.generations domain hardware := by
  unfold Tables.generations
  rw [h]

theorem dense_of_grants (h : t'.grants = t.grants) (ht : Dense t) : Dense t' := by
  intro domain hardware
  rw [generations_of_grants h]
  exact ht domain hardware

/-- Rewriting a grant leaves its lineage and its generation alone. -/
theorem dense_modify {f : GrantRow → GrantRow} (hf : Table.Keeps f) {grantId : GrantId}
    (hlineage : ∀ g, ((f g).ownerDomainId, (f g).hardwareIdentityRef, (f g).claimGeneration) =
      (g.ownerDomainId, g.hardwareIdentityRef, g.claimGeneration)) (ht : Dense t) :
    Dense { t with grants := t.grants.modify (·.grantId) grantId f hf } := by
  intro domain hardware
  simp only [Prod.mk.injEq] at hlineage
  have hsame : ({ t with grants := t.grants.modify (·.grantId) grantId f hf } : Tables).generations
      domain hardware = t.generations domain hardware := by
    unfold Tables.generations
    rw [Table.modify_rows, List.filter_map, List.map_map]
    congr 1
    · funext g
      simp only [Function.comp]
      split <;> simp [hlineage]
    · congr 1
      funext g
      simp only [Function.comp]
      split <;> simp [hlineage]
  rw [hsame]
  exact ht domain hardware

/-- A grant that is issued is the last of its lineage. -/
theorem generations_insert {g : GrantRow} {x : Table GrantRow} (h : t.grants.insert? g = some x) :
    ({ t with grants := x } : Tables).generations domain hardware =
      t.generations domain hardware ++
        if g.ownerDomainId = domain ∧ g.hardwareIdentityRef = hardware then [g.claimGeneration]
        else [] := by
  unfold Tables.generations
  rw [Table.insert?_rows h, List.filter_append, List.map_append]
  congr 1
  by_cases hg : g.ownerDomainId = domain ∧ g.hardwareIdentityRef = hardware <;> simp [hg]

/-- The highest generation of a dense lineage is how many it has. -/
theorem maxClaimGeneration_of_range {n : Nat} (h : t.generations domain hardware = List.range' 1 n) :
    t.maxClaimGeneration domain hardware = n := by
  show (t.generations domain hardware).max?.getD 0 = n
  rw [h]
  cases n with
  | zero => rfl
  | succ n =>
    have hmax : (List.range' 1 (n + 1)).max? = some (n + 1) := by
      rw [List.max?_eq_some_iff]
      constructor
      · rw [List.mem_range'_1]
        omega
      · intro m hm
        rw [List.mem_range'_1] at hm
        omega
    rw [hmax]
    rfl

/-! ### Along the commands -/

/-- **A Decision issues the next generation of the lineage it is about.** -/
theorem decideInSession_dense {p : ProposalRow} {decision : DecisionKind}
    {actor : ControllerActorRef} {target : OwnerDomainId} {owner : BusinessOwnerId}
    {reviewed : ManifestRef} {commandId : CommandId} {correlationId : CorrelationId}
    {eventId : EventId} {draws : Draws} :
    Within (Preserves Dense) (authority.decideInSession p decision actor target owner reviewed
      commandId correlationId eventId draws) := by
  have hpublish : ∀ type revision published, Within (Preserves Dense)
      (addOutbox eventId type p.enrollmentId revision published draws.now) := by
    intro type revision published
    exact StoreWithin.within_addOutbox (fun _ _ => dense_of_grants rfl) fun _ _ =>
      dense_of_grants rfl
  refine (StoreWithin.within_add fun _ _ _ => dense_of_grants rfl).bind fun _ => ?_
  cases decision with
  | reject =>
    exact (within_update fun _ => dense_of_grants rfl).bind fun _ =>
      (hpublish ..).bind fun _ => within_pure
  | approve =>
    refine (within_update fun _ => dense_of_grants rfl).bind fun _ => ?_
    intro t answer t' h ht
    -- the generation is computed from the grants that are there when it is inserted
    simp only [maxClaimGeneration, addGrant, commits_read_bind] at h
    obtain ⟨_, t₁, hadd, hrest⟩ := commits_bind.mp h
    obtain ⟨x, hx, rfl⟩ := commits_add.mp hadd
    refine ((hpublish ..).bind fun _ => within_pure) hrest ?_
    intro domain hardware
    obtain ⟨n, hn⟩ := ht domain hardware
    rw [generations_insert hx, hn]
    by_cases hlineage : target = domain ∧ p.hardwareIdentityRef = hardware
    · obtain ⟨rfl, rfl⟩ := hlineage
      refine ⟨n + 1, ?_⟩
      simp only [AdmissionAuthority.grantFor, and_self, if_true, maxClaimGeneration_of_range hn]
      rw [List.range'_1_concat, Nat.add_comm 1 n]
    · exact ⟨n, by simp [AdmissionAuthority.grantFor, hlineage]⟩

theorem commandsWithin_dense : CommandsWithin authority (Preserves Dense) :=
  .of_frames (fun _ _ => dense_of_grants rfl) (fun _ _ _ _ _ _ _ _ _ _ => decideInSession_dense)
    (fun _ now => within_update fun _ => dense_modify (GrantRow.revoke_keeps now) fun _ => rfl)
    (fun _ envelope now => within_update fun _ =>
      dense_modify (GrantRow.deliver_keeps envelope now) fun _ => rfl)
    (fun _ _ => dense_of_grants rfl) (fun _ _ => dense_of_grants rfl)
    (fun _ _ => dense_of_grants rfl) (fun _ _ => dense_of_grants rfl)
    (fun _ _ => dense_of_grants rfl) fun _ _ => dense_of_grants rfl

theorem next_dense (request : Request) (ht : Dense t) : Dense (authority.next t request) :=
  commandsWithin_dense.next
    (fun _ _ _ => StoreWithin.establishStanding (fun _ _ => dense_of_grants rfl)
      fun _ _ => dense_of_grants rfl)
    (fun _ => StoreWithin.within_recordCommissioningStanding fun _ _ => dense_of_grants rfl)
    (fun _ => StoreWithin.within_recordControllerWithdrawal fun _ _ => dense_of_grants rfl) t request ht

theorem dense_empty : Dense .empty := fun _ _ => ⟨0, rfl⟩

theorem reachable_dense (h : Reachable authority t) : Dense t :=
  h.inv (fun _ request => next_dense request) dense_empty

/-- **Claim generations are allotted densely and uniquely**: the grants of a lineage are
of the generations `1, 2, …, n` in the order they were issued, and a DeviceRef is that
of one grant, which its lookup finds. -/
theorem generations_dense (h : Reachable authority t)
    (hkeys : AdmissionAuthority.InstanceNamesKey authority.crypto) :
    (∀ domain hardware, ∃ n, t.generations domain hardware = List.range' 1 n) ∧
    (∀ g ∈ t.grants, ∀ g' ∈ t.grants, g.deviceRef = g'.deviceRef → g = g') ∧
    ∀ g ∈ t.grants, t.grants.get (·.deviceRef) g.deviceRef = some g :=
  ⟨reachable_dense h, fun _ hg _ hg' => AdmissionAuthority.grant_of_deviceRef h hkeys hg hg',
    fun _ => AdmissionAuthority.get_of_deviceRef h hkeys⟩

/-- A device that was granted, revoked and granted again. -/
theorem generations_dense_regranted : ∃ g ∈ (Sample.after (Sample.handoff "e" "k" ++
      [Sample.ack "e" 1, Sample.revoke "r" "k" 1] ++ Sample.handoff "f" "k")).grants.rows,
    g.claimGeneration = 2 ∧
    (∃ n, (Sample.after (Sample.handoff "e" "k" ++ [Sample.ack "e" 1, Sample.revoke "r" "k" 1] ++
      Sample.handoff "f" "k")).generations g.ownerDomainId g.hardwareIdentityRef =
        List.range' 1 n) ∧
    (Sample.after (Sample.handoff "e" "k" ++ [Sample.ack "e" 1, Sample.revoke "r" "k" 1] ++
      Sample.handoff "f" "k")).grants.get (·.deviceRef) g.deviceRef = some g := by
  obtain ⟨hdense, -, hlookup⟩ := generations_dense (Sample.after_reachable (Sample.handoff "e" "k" ++
    [Sample.ack "e" 1, Sample.revoke "r" "k" 1] ++ Sample.handoff "f" "k"))
    AdmissionAuthority.sample_instanceNamesKey
  have hgrant : ∃ g ∈ (Sample.after (Sample.handoff "e" "k" ++
      [Sample.ack "e" 1, Sample.revoke "r" "k" 1] ++ Sample.handoff "f" "k")).grants.rows,
      g.claimGeneration = 2 := by decide +kernel
  obtain ⟨g, hg, hgeneration⟩ := hgrant
  exact ⟨g, hg, hgeneration, hdense _ _, hlookup g hg⟩

end EidolonHub.Admission
