import EidolonHub.SmartHome.Accounts

/-!
# EidolonHub.SmartHome.AccountIsolation

**Accounts of different Owners.** An account id that one Owner uses can be named by another:
the binding overwrites the account, its credentials and its connection, and the first Owner's
calls find nothing any more (`taken_over`).

Where every step that touches what is kept under an account id finds nothing of another Owner
there, the Owners do not interfere: the run without the calls of one goes through what is left
of the run without what is that one's (`accounts_isolated`).
-/

namespace EidolonHub.SmartHome.Accounts

open EidolonHub.Library EidolonHub.Library.Python

variable {ε ρ : Type}

/-- Nothing of another Owner is kept under the account id. -/
structure Alone (s : State ε ρ) (ownerId : OwnerId) (accountId : AccountId) : Prop where
  accounts : ∀ r ∈ s.accounts, r.accountId = accountId → r.ownerId = ownerId
  credentials : ∀ c ∈ s.credentials, c.accountId = accountId → c.ownerId = ownerId
  connections : ∀ x ∈ s.connections accountId, x.ownerId = ownerId
  owners : ∀ x ∈ s.owners accountId, x = ownerId
  registryCache : ∀ x ∈ s.registryCache accountId, x.ownerId = ownerId
  sessions : ∀ x ∈ s.sessions accountId, x.ownerId = ownerId
  known : ∀ x ∈ s.known accountId, x.ownerId = ownerId
  observers : ∀ x ∈ s.observers accountId, x.ownerId = ownerId

instance (s : State ε ρ) (ownerId : OwnerId) (accountId : AccountId) :
    Decidable (Alone s ownerId accountId) :=
  decidable_of_iff
    ((∀ r ∈ s.accounts.rows, r.accountId = accountId → r.ownerId = ownerId) ∧
      (∀ c ∈ s.credentials.rows, c.accountId = accountId → c.ownerId = ownerId) ∧
      (∀ x ∈ s.connections accountId, x.ownerId = ownerId) ∧ (∀ x ∈ s.owners accountId, x = ownerId) ∧
      (∀ x ∈ s.registryCache accountId, x.ownerId = ownerId) ∧
      (∀ x ∈ s.sessions accountId, x.ownerId = ownerId) ∧
      (∀ x ∈ s.known accountId, x.ownerId = ownerId) ∧
      ∀ x ∈ s.observers accountId, x.ownerId = ownerId)
    ⟨fun ⟨h₁, h₂, h₃, h₄, h₅, h₆, h₇, h₈⟩ => ⟨h₁, h₂, h₃, h₄, h₅, h₆, h₇, h₈⟩,
      fun h => ⟨h.accounts, h.credentials, h.connections, h.owners, h.registryCache, h.sessions, h.known,
        h.observers⟩⟩

/-- What is kept under one account id is one Owner's. -/
def Uniform (s : State ε ρ) : Prop := ∀ accountId, ∃ ownerId, Alone s ownerId accountId

/-- What is left without one Owner's accounts, credentials, connections, sessions, tasks and
calls, and with a registry that is nobody's in Data. -/
def without (blank : ρ) (b : OwnerId) (s : State ε ρ) : State ε ρ where
  accounts := s.accounts.filter fun r => r.ownerId ≠ b
  credentials := s.credentials.filter fun c => c.ownerId ≠ b
  connections := keep (fun x => x.ownerId ≠ b) s.connections
  owners := keep (fun x => x ≠ b) s.owners
  registryCache := keep (fun x => x.ownerId ≠ b) s.registryCache
  sessions := keep (fun x => x.ownerId ≠ b) s.sessions
  known := keep (fun x => x.ownerId ≠ b) s.known
  observers := keep (fun x => x.ownerId ≠ b) s.observers
  registries := Function.update s.registries b blank
  phases := fun call => if call.ownerId = b then .waiting else s.phases call

section Changes

theorem forall_none {α : Type} {p : α → Prop} : ∀ x ∈ (none : Option α), p x :=
  fun _ hx => absurd hx (Option.not_mem_none _)

theorem forall_some {α : Type} {p : α → Prop} {y : α} (h : p y) : ∀ x ∈ some y, p x :=
  fun _ hx => Option.some.inj hx ▸ h

variable (blank : ρ) {o : OwnerId} {accountId : AccountId}

/-- A change of what one Owner keeps under one account id. -/
structure Local (blank : ρ) (o : OwnerId) (accountId : AccountId) (f : State ε ρ → State ε ρ) :
    Prop where
  commutes : ∀ {b s}, b ≠ o → Alone s o accountId → without blank b (f s) = f (without blank b s)
  vanishes : ∀ {s}, Alone s o accountId → without blank o (f s) = without blank o s
  alone : ∀ {s}, Alone s o accountId → Alone (f s) o accountId
  elsewhere : ∀ {s o' accountId'}, accountId' ≠ accountId → Alone s o' accountId' →
    Alone (f s) o' accountId'

namespace Local

variable {blank} {f g : State ε ρ → State ε ρ}

theorem comp (hf : Local blank o accountId f) (hg : Local blank o accountId g) :
    Local blank o accountId fun s => g (f s) where
  commutes hb hs := by rw [hg.commutes hb (hf.alone hs), hf.commutes hb hs]
  vanishes hs := by rw [hg.vanishes (hf.alone hs), hf.vanishes hs]
  alone hs := hg.alone (hf.alone hs)
  elsewhere hne hs := hg.elsewhere hne (hf.elsewhere hne hs)

theorem uniform {s : State ε ρ} (hf : Local blank o accountId f) (h : Alone s o accountId)
    (hu : Uniform s) : Uniform (f s) := by
  intro i
  by_cases hi : i = accountId
  · exact ⟨o, hi ▸ hf.alone h⟩
  · obtain ⟨o', ho'⟩ := hu i
    exact ⟨o', hf.elsewhere hi ho'⟩

protected theorem id : Local blank o accountId (id : State ε ρ → State ε ρ) where
  commutes _ _ := rfl
  vanishes _ := rfl
  alone hs := hs
  elsewhere _ hs := hs

theorem foldl {α : Type} {f : State ε ρ → α → State ε ρ} {xs : List α}
    (h : ∀ x ∈ xs, Local blank o accountId (f · x)) : Local blank o accountId (xs.foldl f ·) := by
  induction xs with
  | nil => exact .id
  | cons x xs ih => exact (h x List.mem_cons_self).comp (ih fun y hy => h y (List.mem_cons_of_mem _ hy))

/-! ### In memory -/

theorem setConnection {v : Option Connection} (hv : ∀ x ∈ v, x.ownerId = o) :
    Local blank o accountId fun s : State ε ρ => s.setConnection accountId v where
  commutes hb hs := by
    simp only [without, State.setConnection]
    rw [keep_update fun x hx => by simp [hv x hx, Ne.symm hb]]
  vanishes hs := by
    simp only [without, State.setConnection]
    rw [keep_update_of_not (fun x hx => by simp [hv x hx]) fun x hx => by simp [hs.connections x hx]]
  alone hs := { hs with connections := by simpa [State.setConnection] using hv }
  elsewhere hne hs := { hs with
    connections := by simpa [State.setConnection, Function.update_of_ne hne] using hs.connections }

theorem setOwner {v : Option OwnerId} (hv : ∀ x ∈ v, x = o) :
    Local blank o accountId fun s : State ε ρ => s.setOwner accountId v where
  commutes hb hs := by
    simp only [without, State.setOwner]
    rw [keep_update fun x hx => by simp [hv x hx, Ne.symm hb]]
  vanishes hs := by
    simp only [without, State.setOwner]
    rw [keep_update_of_not (fun x hx => by simp [hv x hx]) fun x hx => by simp [hs.owners x hx]]
  alone hs := { hs with owners := by simpa [State.setOwner] using hv }
  elsewhere hne hs := { hs with
    owners := by simpa [State.setOwner, Function.update_of_ne hne] using hs.owners }

theorem setRegistryCache {v : Option (RegistryCache ε)} (hv : ∀ x ∈ v, x.ownerId = o) :
    Local blank o accountId fun s : State ε ρ => s.setRegistryCache accountId v where
  commutes hb hs := by
    simp only [without, State.setRegistryCache]
    rw [keep_update fun x hx => by simp [hv x hx, Ne.symm hb]]
  vanishes hs := by
    simp only [without, State.setRegistryCache]
    rw [keep_update_of_not (fun x hx => by simp [hv x hx]) fun x hx => by simp [hs.registryCache x hx]]
  alone hs := { hs with registryCache := by simpa [State.setRegistryCache] using hv }
  elsewhere hne hs := { hs with
    registryCache := by simpa [State.setRegistryCache, Function.update_of_ne hne] using hs.registryCache }

theorem setSession {v : Option Session} (hv : ∀ x ∈ v, x.ownerId = o) :
    Local blank o accountId fun s : State ε ρ => s.setSession accountId v where
  commutes hb hs := by
    simp only [without, State.setSession]
    rw [keep_update fun x hx => by simp [hv x hx, Ne.symm hb]]
  vanishes hs := by
    simp only [without, State.setSession]
    rw [keep_update_of_not (fun x hx => by simp [hv x hx]) fun x hx => by simp [hs.sessions x hx]]
  alone hs := { hs with sessions := by simpa [State.setSession] using hv }
  elsewhere hne hs := { hs with
    sessions := by simpa [State.setSession, Function.update_of_ne hne] using hs.sessions }

theorem setKnown {v : Option Known} (hv : ∀ x ∈ v, x.ownerId = o) :
    Local blank o accountId fun s : State ε ρ => s.setKnown accountId v where
  commutes hb hs := by
    simp only [without, State.setKnown]
    rw [keep_update fun x hx => by simp [hv x hx, Ne.symm hb]]
  vanishes hs := by
    simp only [without, State.setKnown]
    rw [keep_update_of_not (fun x hx => by simp [hv x hx]) fun x hx => by simp [hs.known x hx]]
  alone hs := { hs with known := by simpa [State.setKnown] using hv }
  elsewhere hne hs := { hs with
    known := by simpa [State.setKnown, Function.update_of_ne hne] using hs.known }

theorem setObserver {v : Option Observer} (hv : ∀ x ∈ v, x.ownerId = o) :
    Local blank o accountId fun s : State ε ρ => s.setObserver accountId v where
  commutes hb hs := by
    simp only [without, State.setObserver]
    rw [keep_update fun x hx => by simp [hv x hx, Ne.symm hb]]
  vanishes hs := by
    simp only [without, State.setObserver]
    rw [keep_update_of_not (fun x hx => by simp [hv x hx]) fun x hx => by simp [hs.observers x hx]]
  alone hs := { hs with observers := by simpa [State.setObserver] using hv }
  elsewhere hne hs := { hs with
    observers := by simpa [State.setObserver, Function.update_of_ne hne] using hs.observers }

/-! ### In the store -/

theorem onlyKey_account : Table.IsOnlyKey fun r : AccountRecord => r.accountId :=
  fun _ _ => decide_eq_true_iff

theorem onlyKey_credential : Table.IsOnlyKey Credential.key := fun _ _ => decide_eq_true_iff

theorem ite_overwrite (c : Prop) [Decidable c] (record r : AccountRecord) :
    (if c then record.overwrite r else r).accountId = r.accountId ∧
      (if c then record.overwrite r else r).ownerId = r.ownerId := by
  split <;> exact ⟨rfl, rfl⟩

theorem ite_mark (c : Prop) [Decidable c] (status : String) (error : Option String)
    (seenMs : Option Millis) (r : AccountRecord) :
    (if c then r.mark status error seenMs else r).accountId = r.accountId ∧
      (if c then r.mark status error seenMs else r).ownerId = r.ownerId := by
  split <;> exact ⟨rfl, rfl⟩

theorem ite_replace (c : Prop) [Decidable c] (secret : String) (ownerId : OwnerId) (r : Credential) :
    (if c then r.replace secret ownerId else r).accountId = r.accountId ∧
      ((if c then r.replace secret ownerId else r).ownerId = ownerId ∨
        (if c then r.replace secret ownerId else r).ownerId = r.ownerId) := by
  split
  · exact ⟨rfl, .inl rfl⟩
  · exact ⟨rfl, .inr rfl⟩

theorem mem_setStatus {s : State ε ρ} {status : String} {error : Option String}
    {seenMs : Option Millis} {r : AccountRecord}
    (hr : r ∈ (s.setStatus accountId status error seenMs).accounts) :
    ∃ r' ∈ s.accounts, r = if r'.accountId = accountId then r'.mark status error seenMs else r' :=
  Table.mem_modify.mp
    (show r ∈ s.accounts.modify _ _ _ (AccountRecord.keeps_mark status error seenMs) from hr)

theorem upsert {record : AccountRecord} {nowMs : Millis} (ho : record.ownerId = o)
    (hid : record.accountId = accountId) :
    Local blank o accountId fun s : State ε ρ => s.upsert record nowMs where
  commutes hb hs := by
    simp only [without, State.upsert]
    rw [Table.filter_upsert onlyKey_account (by simp [ho, Ne.symm hb])]
    intro r hr hkey
    have hr : r.ownerId = o := hs.accounts r hr (hkey.trans hid)
    simp [AccountRecord.overwrite, hr, Ne.symm hb]
  vanishes hs := by
    simp only [without, State.upsert]
    rw [Table.filter_upsert_of_not onlyKey_account (by simp [ho])]
    intro r hr hkey
    have hr : r.ownerId = o := hs.accounts r hr (hkey.trans hid)
    simp [AccountRecord.overwrite, hr]
  alone hs := { hs with
    accounts := by
      intro r hr hkey
      rcases Table.mem_upsert onlyKey_account hr with rfl | ⟨r', hr', rfl⟩
      · exact ho
      · rw [(ite_overwrite _ record r').1] at hkey
        rw [(ite_overwrite _ record r').2, hs.accounts r' hr' hkey] }
  elsewhere hne hs := { hs with
    accounts := by
      intro r hr hkey
      rcases Table.mem_upsert onlyKey_account hr with rfl | ⟨r', hr', rfl⟩
      · exact absurd (hkey.symm.trans hid) hne
      · rw [(ite_overwrite _ record r').1] at hkey
        rw [(ite_overwrite _ record r').2, hs.accounts r' hr' hkey] }

theorem setStatus {status : String} {error : Option String} {seenMs : Option Millis} :
    Local blank o accountId fun s : State ε ρ => s.setStatus accountId status error seenMs where
  commutes _ _ := by
    simp only [without, State.setStatus]
    rw [Table.filter_modify (f := AccountRecord.mark status error seenMs) fun _ _ _ => rfl]
  vanishes hs := by
    simp only [without, State.setStatus]
    rw [Table.filter_modify_of_not]
    intro r hr hkey
    simp [AccountRecord.mark, hs.accounts r hr hkey]
  alone hs := { hs with
    accounts := by
      intro r hr hkey
      obtain ⟨r', hr', rfl⟩ := mem_setStatus hr
      rw [(ite_mark _ status error seenMs r').1] at hkey
      rw [(ite_mark _ status error seenMs r').2, hs.accounts r' hr' hkey] }
  elsewhere _ hs := { hs with
    accounts := by
      intro r hr hkey
      obtain ⟨r', hr', rfl⟩ := mem_setStatus hr
      rw [(ite_mark _ status error seenMs r').1] at hkey
      rw [(ite_mark _ status error seenMs r').2, hs.accounts r' hr' hkey] }

theorem deleteAccount : Local blank o accountId fun s : State ε ρ => s.deleteAccount o accountId where
  commutes _ _ := by
    simp only [without, State.deleteAccount]
    rw [Table.filter_filter_comm]
  vanishes _ := by
    simp only [without, State.deleteAccount]
    rw [Table.filter_filter_of_imp]
    intro r _ hr
    simp_all
  alone hs := { hs with accounts := fun r hr => hs.accounts r (Table.mem_filter.mp hr).1 }
  elsewhere _ hs := { hs with accounts := fun r hr => hs.accounts r (Table.mem_filter.mp hr).1 }

theorem put {name secret : String} :
    Local blank o accountId fun s : State ε ρ => s.put o accountId name secret where
  commutes hb hs := by
    simp only [without, State.put]
    rw [Table.filter_upsert onlyKey_credential (by simp [Ne.symm hb])]
    intro c hc hkey
    have hc : c.ownerId = o := hs.credentials c hc (congrArg Prod.fst hkey)
    simp [Credential.replace, hc, Ne.symm hb]
  vanishes hs := by
    simp only [without, State.put]
    rw [Table.filter_upsert_of_not onlyKey_credential (by simp)]
    intro c hc hkey
    have hc : c.ownerId = o := hs.credentials c hc (congrArg Prod.fst hkey)
    simp [Credential.replace, hc]
  alone hs := { hs with
    credentials := by
      intro c hc hkey
      rcases Table.mem_upsert onlyKey_credential hc with rfl | ⟨c', hc', rfl⟩
      · rfl
      · obtain ⟨hid, ho | ho⟩ := ite_replace (c'.key = (accountId, name)) secret o c'
        · exact ho
        · exact ho.trans (hs.credentials c' hc' (hid.symm.trans hkey)) }
  elsewhere hne hs := { hs with
    credentials := by
      intro c hc hkey
      rcases Table.mem_upsert onlyKey_credential hc with rfl | ⟨c', hc', rfl⟩
      · exact absurd hkey.symm hne
      · have hid := (ite_replace (c'.key = (accountId, name)) secret o c').1.symm.trans hkey
        have hother : ¬ c'.key = (accountId, name) := fun h => hne (hid.symm.trans (congrArg Prod.fst h))
        exact (congrArg Credential.ownerId (if_neg hother)).trans (hs.credentials c' hc' hid) }

theorem deleteSecrets : Local blank o accountId fun s : State ε ρ => s.deleteSecrets accountId where
  commutes _ _ := by
    simp only [without, State.deleteSecrets]
    rw [Table.filter_filter_comm]
  vanishes hs := by
    simp only [without, State.deleteSecrets]
    rw [Table.filter_filter_of_imp]
    intro c hc hkeep
    by_contra hkey
    exact absurd (hs.credentials c hc (by simpa using hkey)) (by simpa using hkeep)
  alone hs := { hs with credentials := fun c hc => hs.credentials c (Table.mem_filter.mp hc).1 }
  elsewhere _ hs := { hs with credentials := fun c hc => hs.credentials c (Table.mem_filter.mp hc).1 }

/-! ### What the Providers and the service do -/

theorem bindHomeAssistant {connection : Connection} {nowMs : Millis} (ho : connection.ownerId = o) :
    Local blank o accountId fun s : State ε ρ =>
      Accounts.bindHomeAssistant s o accountId connection nowMs := by
  have hconnection : Local blank o accountId fun s : State ε ρ =>
      s.setConnection accountId (some connection) := setConnection (forall_some ho)
  have howner : Local blank o accountId fun s : State ε ρ => s.setOwner accountId (some o) :=
    setOwner (forall_some rfl)
  exact (((hconnection.comp howner).comp put).comp put).comp (upsert rfl rfl)

theorem zhoubianRecord_names (session : Session) (homes : List Home) (nowMs : Millis) :
    (zhoubianRecord session homes nowMs).ownerId = session.ownerId ∧
      (zhoubianRecord session homes nowMs).accountId = session.accountId := by
  unfold zhoubianRecord
  split <;> exact ⟨rfl, rfl⟩

theorem bindZhoubian {session : Session} {phone : String} {homes : List Home} {nowMs : Millis}
    (ho : session.ownerId = o) (hid : session.accountId = accountId) :
    Local blank o accountId fun s : State ε ρ =>
      Accounts.bindZhoubian s session phone homes nowMs := by
  subst ho
  subst hid
  obtain ⟨ho, hid⟩ := zhoubianRecord_names session homes nowMs
  exact ((foldl fun _ _ => put).comp (setSession (forall_some rfl))).comp
    (upsert ho hid)

theorem unbindHomeAssistant :
    Local blank o accountId fun s : State ε ρ => Accounts.unbindHomeAssistant s o accountId :=
  (((setOwner forall_none).comp (setRegistryCache forall_none)).comp deleteSecrets).comp deleteAccount

theorem unbindZhoubian :
    Local blank o accountId fun s : State ε ρ => Accounts.unbindZhoubian s o accountId :=
  (((setSession forall_none).comp (setKnown forall_none)).comp deleteSecrets).comp deleteAccount

theorem discovered {found : List DiscoveredDevice} :
    Local blank o accountId fun s : State ε ρ => s.discovered o accountId found :=
  setKnown (forall_some rfl)

theorem observe {integration : Integration} :
    Local blank o accountId fun s : State ε ρ => s.observe o accountId integration := by
  have hset : Local blank o accountId fun s : State ε ρ =>
      s.setObserver accountId (some { ownerId := o, integration }) :=
    setObserver (forall_some rfl)
  refine ⟨?_, ?_, ?_, ?_⟩
  · intro b s hb hs
    have hread : (without blank b s).observers accountId = s.observers accountId :=
      keep_apply fun x hx => by simp [hs.observers x hx, Ne.symm hb]
    simp only [State.observe, hread]
    split
    · rfl
    · exact hset.commutes hb hs
  · intro s hs
    simp only [State.observe]
    split
    · rfl
    · exact hset.vanishes hs
  · intro s hs
    simp only [State.observe]
    split
    · exact hs
    · exact hset.alone hs
  · intro s o' accountId' hne hs
    simp only [State.observe]
    split
    · exact hs
    · exact hset.elsewhere hne hs

end Local

end Changes

/-! ### What a step reads -/

section Reads

variable {blank : ρ} {s : State ε ρ} {o b : OwnerId} {accountId : AccountId}

/-- An Owner finds its own accounts, whoever else has some. -/
theorem without_account (hb : b ≠ o) : (without blank b s).account o accountId = s.account o accountId := by
  unfold State.account
  rw [show (without blank b s).accounts.rows = s.accounts.rows.filter fun r => r.ownerId ≠ b from rfl,
    List.find?_filter]
  refine List.find?_congr fun r _ => ?_
  by_cases ho : r.ownerId = o
  · simp [ho, Ne.symm hb]
  · simp [ho]

theorem account_mem {record : AccountRecord} (h : s.account o accountId = some record) :
    record ∈ s.accounts ∧ record.ownerId = o ∧ record.accountId = accountId := by
  have hfound := List.find?_some h
  simp only [decide_eq_true_eq] at hfound
  exact ⟨List.mem_of_find?_eq_some h, hfound⟩

theorem Uniform.alone_of_mem (hu : Uniform s) {record : AccountRecord} (h : record ∈ s.accounts) :
    Alone s record.ownerId record.accountId := by
  obtain ⟨o', ho'⟩ := hu record.accountId
  rw [ho'.accounts record h rfl]
  exact ho'

variable (h : Alone s o accountId) (hb : b ≠ o)
include h hb

theorem Alone.without_connections :
    (Accounts.without blank b s).connections accountId = s.connections accountId :=
  keep_apply fun x hx => by simp [h.connections x hx, Ne.symm hb]

theorem Alone.without_connection :
    (Accounts.without blank b s).connection o accountId = s.connection o accountId := by
  have howners : (Accounts.without blank b s).owners accountId = s.owners accountId :=
    keep_apply fun x hx => by simp [h.owners x hx, Ne.symm hb]
  simp only [State.connection, h.without_connections hb, howners]

theorem Alone.without_sessions :
    (Accounts.without blank b s).sessions accountId = s.sessions accountId :=
  keep_apply fun x hx => by simp [h.sessions x hx, Ne.symm hb]

theorem Alone.without_secret {name : String} :
    (Accounts.without blank b s).secret accountId name = s.secret accountId name := by
  unfold State.secret
  refine congrArg _ (Table.get_filter fun c hc hkey => ?_)
  simp [h.credentials c hc (congrArg Prod.fst hkey), Ne.symm hb]

theorem Alone.without_keptFields {names : List String} :
    (Accounts.without blank b s).keptFields accountId names = s.keptFields accountId names := by
  simp only [State.keptFields, h.without_secret hb]

theorem Alone.without_beginDiscover {integration : Integration} :
    beginDiscover (Accounts.without blank b s) o accountId integration =
      beginDiscover s o accountId integration := by
  cases integration with
  | homeassistant => rw [beginDiscover, beginDiscover, h.without_connection hb]
  | zhoubian => simp only [beginDiscover, State.session, h.without_sessions hb]

end Reads

/-! ### Steps of calls -/

/-- What an Owner does to a state, with what comes of it: nothing to the others, and the same
without any one of them. -/
structure Confined {β : Type} (blank : ρ) (o : OwnerId) (s : State ε ρ)
    (f : State ε ρ → State ε ρ × β) : Prop where
  commutes : ∀ b, b ≠ o → f (without blank b s) = (without blank b (f s).1, (f s).2)
  vanishes : without blank o (f s).1 = without blank o s
  uniform : Uniform s → Uniform (f s).1

section Confined

variable {β : Type} {blank : ρ} {o : OwnerId} {accountId : AccountId} {s : State ε ρ}
  {f : State ε ρ → State ε ρ × β}

/-- It does nothing. -/
theorem Confined.rest (out : β) (hs : f s = (s, out))
    (hb : ∀ b, b ≠ o → f (without blank b s) = (without blank b s, out)) : Confined blank o s f where
  commutes b hne := by rw [hb b hne, hs]
  vanishes := by rw [hs]
  uniform hu := by rwa [hs]

/-- It changes what the Owner keeps under one account id. -/
theorem Local.confined {g : State ε ρ → State ε ρ} (hg : Local blank o accountId g)
    (h : Alone s o accountId) (out : β) (hs : f s = (g s, out))
    (hb : ∀ b, b ≠ o → f (without blank b s) = (g (without blank b s), out)) :
    Confined blank o s f where
  commutes b hne := by rw [hb b hne, hs, hg.commutes hne h]
  vanishes := by
    rw [hs]
    exact hg.vanishes h
  uniform hu := by
    rw [hs]
    exact hg.uniform h hu

/-- It comes to the same in the states that are looked at. -/
theorem Confined.congr (f' : State ε ρ → State ε ρ × β) (hs : f s = f' s)
    (hb : ∀ b, b ≠ o → f (without blank b s) = f' (without blank b s)) (h : Confined blank o s f') :
    Confined blank o s f where
  commutes b hne := by rw [hb b hne, hs, h.commutes b hne]
  vanishes := by rw [hs, h.vanishes]
  uniform hu := by
    rw [hs]
    exact h.uniform hu

end Confined

section Turns

variable {blank : ρ} {s : State ε ρ} {o : OwnerId} {accountId : AccountId} (setup : Setup ε)

/-- The account has listed what it has. -/
def Draws.lists (draws : Draws ε ρ) : Integration → Bool
  | .homeassistant => draws.entities.isOk
  | .zhoubian => draws.devices.isOk

/-- The account id under which a step of a call reads the vault or changes what is kept. -/
def touches (requests : Call → Request) (s : State ε ρ) (call : Call) (draws : Draws ε ρ) :
    Option AccountId :=
  match s.phases call with
  | .waiting =>
    match requests call with
    | .bind kind accountId fields =>
      match beginBind setup s call.ownerId kind (namedOr accountId draws.tokenHex) fields with
      | .activating accountId _ _ => some accountId
      | _ => none
    | _ => none
  | .opening accountId _ _ => if draws.opened.isOk then some accountId else none
  | .replacing accountId _ _ _ => some accountId
  | .closing accountId => some accountId
  | .activating accountId fields stored =>
    if (openSession call.ownerId accountId fields stored draws.platform).isOk then some accountId
    else none
  | .discovering accountId integration => if draws.lists integration then some accountId else none
  | _ => none

theorem beginBind_without {kind : Kind} {fields : List (String × String)}
    (h : ∀ {i fs stored}, beginBind setup s o kind accountId fields = .activating i fs stored →
      Alone s o i) {b : OwnerId} (hb : b ≠ o) :
    beginBind setup (without blank b s) o kind accountId fields =
      beginBind setup s o kind accountId fields := by
  unfold beginBind at h ⊢
  rw [without_account hb]
  cases hintegration : setup.integration kind with
  | none => rfl
  | some integration =>
    simp only [hintegration] at h ⊢
    split
    · rfl
    · next hkind =>
      cases integration with
      | homeassistant => rfl
      | zhoubian =>
        cases hcheck : checkZhoubian fields with
        | error e => rfl
        | ok _ =>
          simp only [hkind, hcheck] at h ⊢
          rw [(h rfl).without_secret hb]

theorem bound_confined {g : State ε ρ → State ε ρ} (hg : Local blank o accountId g)
    (h : Alone s o accountId) {integration : Integration} {record : AccountRecord}
    (ho : record.ownerId = o) (hid : record.accountId = accountId) :
    Confined blank o s fun s => bound (g s) integration record := by
  subst ho
  subst hid
  by_cases hconnected : record.status = "connected"
  · have hobserve : Local blank record.ownerId record.accountId fun s : State ε ρ =>
        (g s).observe record.ownerId record.accountId integration := hg.comp .observe
    refine hobserve.confined h
      (.answered (.bound record.account)) ?_ fun b _ => ?_
    · simp only [bound, hconnected, if_true]
    · simp only [bound, hconnected, if_true]
  · refine hg.confined h (.answered (.bound record.account)) ?_ fun b _ => ?_
    · simp only [bound, hconnected, if_false]
    · simp only [bound, hconnected, if_false]

theorem finishHomeAssistant_confined {connection : Connection} {nowMs : Millis}
    (ho : connection.ownerId = o) (h : Alone s o accountId) :
    Confined blank o s fun s => finishHomeAssistant s o accountId connection nowMs :=
  bound_confined (.bindHomeAssistant ho) h rfl rfl

theorem openedHomeAssistant_confined {connection : Connection} {nowMs : Millis}
    (ho : connection.ownerId = o) (h : Alone s o accountId) :
    Confined blank o s fun s => openedHomeAssistant s o accountId connection nowMs := by
  cases hconnection : s.connections accountId with
  | none =>
    refine Confined.congr (fun s => finishHomeAssistant s o accountId connection nowMs) ?_
      (fun b hb => ?_) (finishHomeAssistant_confined ho h)
    · simp only [openedHomeAssistant, hconnection]
    · simp only [openedHomeAssistant, h.without_connections hb, hconnection]
  | some old =>
    refine (Local.setConnection forall_none).confined h
      (.replacing accountId connection.url connection.token connection.locationName) ?_ fun b hb => ?_
    · simp only [openedHomeAssistant, hconnection]
    · simp only [openedHomeAssistant, h.without_connections hb, hconnection]

theorem unbindAccount_confined {kind : Kind} (h : Alone s o accountId) :
    Confined blank o s fun s => unbindAccount setup s o accountId kind := by
  have hobserver : Local blank o accountId fun s : State ε ρ => s.setObserver accountId none :=
    .setObserver forall_none
  cases hintegration : setup.integration kind with
  | none =>
    refine (hobserver.comp .deleteAccount).confined h (.answered .removed) ?_ fun b _ => ?_
    · simp only [unbindAccount, hintegration]
    · simp only [unbindAccount, hintegration]
  | some integration =>
    cases integration with
    | homeassistant =>
      have hread : ∀ t : State ε ρ, (t.setObserver accountId none).connections = t.connections :=
        fun _ => rfl
      cases hconnection : s.connections accountId with
      | none =>
        refine (hobserver.comp .unbindHomeAssistant).confined h (.answered .removed) ?_
          fun b hb => ?_
        · simp only [unbindAccount, hintegration, hread, hconnection]
        · simp only [unbindAccount, hintegration, hread, h.without_connections hb, hconnection]
      | some old =>
        refine (hobserver.comp (.setConnection forall_none)).confined h (.closing accountId) ?_
          fun b hb => ?_
        · simp only [unbindAccount, hintegration, hread, hconnection]
        · simp only [unbindAccount, hintegration, hread, h.without_connections hb, hconnection]
    | zhoubian =>
      refine (hobserver.comp .unbindZhoubian).confined h (.answered .removed) ?_ fun b _ => ?_
      · simp only [unbindAccount, hintegration]
      · simp only [unbindAccount, hintegration]

theorem beginUnbind_confined (hu : Uniform s) :
    Confined blank o s fun s => beginUnbind setup s o accountId := by
  cases haccount : s.account o accountId with
  | none =>
    refine Confined.rest (.answered .notFound) ?_ fun b hb => ?_
    · simp only [beginUnbind, haccount]
    · simp only [beginUnbind, without_account hb, haccount]
  | some record =>
    obtain ⟨hmem, ho, hid⟩ := account_mem haccount
    have hs : Alone s o accountId := ho ▸ hid ▸ hu.alone_of_mem hmem
    refine Confined.congr (fun s => unbindAccount setup s o accountId record.kind) ?_ (fun b hb => ?_)
      (unbindAccount_confined setup hs)
    · simp only [beginUnbind, haccount]
    · simp only [beginUnbind, without_account hb, haccount]

theorem beginSync_without (hu : Uniform s) {b : OwnerId} (hb : b ≠ o) :
    beginSync setup (without blank b s) o accountId = beginSync setup s o accountId := by
  unfold beginSync
  rw [without_account hb]
  cases haccount : s.account o accountId with
  | none => rfl
  | some record =>
    obtain ⟨hmem, ho, hid⟩ := account_mem haccount
    have hs : Alone s o accountId := ho ▸ hid ▸ hu.alone_of_mem hmem
    simp only [hs.without_beginDiscover hb]

theorem finishDiscover_confined {draws : Draws ε ρ} {integration : Integration}
    (h : draws.lists integration = true → Alone s o accountId) :
    Confined blank o s fun s => finishDiscover setup s o accountId draws integration := by
  cases integration with
  | homeassistant =>
    cases hdraw : draws.entities with
    | error failure =>
      refine Confined.rest (.answered failure.answer) ?_ fun b _ => ?_
      · simp only [finishDiscover, hdraw]
      · simp only [finishDiscover, hdraw]
    | ok entities =>
      have hs : Alone s o accountId := h (by rw [Draws.lists, hdraw]; rfl)
      have hcache : Local blank o accountId fun s : State ε ρ =>
          s.setRegistryCache accountId (some ⟨entities, o⟩) := .setRegistryCache (forall_some rfl)
      refine hcache.confined hs
        (.importing (Integration.homeassistant.kind ++ ":" ++ accountId) (setup.discover entities)) ?_ fun b _ => ?_
      · simp only [finishDiscover, hdraw]
      · simp only [finishDiscover, hdraw]
  | zhoubian =>
    cases hdraw : draws.devices with
    | error failure =>
      refine Confined.rest (.answered failure.answer) ?_ fun b _ => ?_
      · simp only [finishDiscover, hdraw]
      · simp only [finishDiscover, hdraw]
    | ok found =>
      have hs : Alone s o accountId := h (by rw [Draws.lists, hdraw]; rfl)
      have hknown : Local blank o accountId fun s : State ε ρ => s.discovered o accountId found :=
        .discovered
      refine hknown.confined hs (.importing (Integration.zhoubian.kind ++ ":" ++ accountId) found) ?_
        fun b _ => ?_
      · simp only [finishDiscover, hdraw]
      · simp only [finishDiscover, hdraw]

theorem finishImport_confined {provider : String} {found : List DiscoveredDevice}
    {draws : Draws ε ρ} : Confined blank o s fun s => finishImport s o provider found draws where
  commutes b hb := by
    simp only [finishImport, without, Function.update_of_ne (Ne.symm hb)]
    rw [Function.update_comm (Ne.symm hb)]
  vanishes := by
    simp only [finishImport, without, Function.update_idem]
  uniform hu i := by
    obtain ⟨o', h⟩ := hu i
    exact ⟨o', ⟨h.accounts, h.credentials, h.connections, h.owners, h.registryCache, h.sessions, h.known,
      h.observers⟩⟩

theorem zhoubian_names {fields : List (String × String)} {stored : Option String}
    {answers : PlatformAnswers} {session : Session} {homes : List Home}
    (h : openSession o accountId fields stored answers = .ok (session, homes)) :
    session.ownerId = o ∧ session.accountId = accountId := by
  unfold openSession at h
  cases hsecret : userSecret stored answers with
  | error failure => simp [hsecret, bind, Except.bind] at h
  | ok secret =>
    cases hhomes : answers.homes with
    | error failure => simp [hsecret, hhomes, bind, Except.bind] at h
    | ok homes' =>
      simp only [hsecret, hhomes, bind, Except.bind, pure, Except.pure, Except.ok.injEq,
        Prod.mk.injEq] at h
      obtain ⟨rfl, -⟩ := h
      exact ⟨rfl, rfl⟩

/-- **What one step of a call does**, where what it touches is its Owner's alone. -/
theorem act_confined {requests : Call → Request} {call : Call} {draws : Draws ε ρ} (hu : Uniform s)
    (h : ∀ i ∈ touches setup requests s call draws, Alone s call.ownerId i) :
    Confined blank call.ownerId s fun s => act setup requests s call draws := by
  -- blanking another Owner leaves the phase of this call as it is
  have hphases : ∀ b, b ≠ call.ownerId → (without blank b s).phases call = s.phases call :=
    fun b hb => if_neg (Ne.symm hb)
  unfold touches at h
  cases hphase : s.phases call with
  -- a call that begins only reads; what it writes to is decided later
  | waiting =>
    cases hrequest : requests call with
    | bind kind named fields =>
      simp only [hphase, hrequest] at h
      refine Confined.rest (beginBind setup s call.ownerId kind (namedOr named draws.tokenHex) fields)
        ?_ fun b hb => ?_
      · simp only [act, hphase, hrequest]
      · have hbegin : beginBind setup (without blank b s) call.ownerId kind
            (namedOr named draws.tokenHex) fields =
              beginBind setup s call.ownerId kind (namedOr named draws.tokenHex) fields := by
          refine beginBind_without setup ?_ hb
          intro i fs stored hactivating
          exact h i (by rw [hactivating]; rfl)
        simp only [act, hphases b hb, hphase, hrequest, hbegin]
    | unbind accountId =>
      refine Confined.congr (fun s => beginUnbind setup s call.ownerId accountId) ?_ (fun b hb => ?_)
        (beginUnbind_confined setup hu)
      · simp only [act, hphase, hrequest]
      · simp only [act, hphases b hb, hphase, hrequest]
    | sync accountId =>
      refine Confined.rest (beginSync setup s call.ownerId accountId) ?_ fun b hb => ?_
      · simp only [act, hphase, hrequest]
      · simp only [act, hphases b hb, hphase, hrequest, beginSync_without setup hu hb]
  -- the phases that write do so under their own account id, which `Alone` keeps to one Owner
  | opening accountId url token =>
    simp only [hphase] at h
    cases hopened : draws.opened with
    | error failure =>
      refine Confined.rest (.answered failure.answer) ?_ fun b hb => ?_
      · simp only [act, hphase, hopened]
      · simp only [act, hphases b hb, hphase, hopened]
    | ok locationName =>
      rw [hopened] at h
      refine Confined.congr (fun s => openedHomeAssistant s call.ownerId accountId
          ⟨url, token, locationName, call.ownerId⟩ draws.nowMs) ?_ (fun b hb => ?_)
        (openedHomeAssistant_confined rfl (h accountId rfl))
      · simp only [act, hphase, hopened]
      · simp only [act, hphases b hb, hphase, hopened]
  | replacing accountId url token locationName =>
    simp only [hphase] at h
    refine Confined.congr (fun s => finishHomeAssistant s call.ownerId accountId
        ⟨url, token, locationName, call.ownerId⟩ draws.nowMs) ?_ (fun b hb => ?_)
      (finishHomeAssistant_confined rfl (h accountId rfl))
    · simp only [act, hphase]
    · simp only [act, hphases b hb, hphase]
  | activating accountId fields stored =>
    simp only [hphase] at h
    cases hopen : openSession call.ownerId accountId fields stored draws.platform with
    | error failure =>
      refine Confined.rest (.answered failure.answer) ?_ fun b hb => ?_
      · simp only [act, hphase, hopen]
      · simp only [act, hphases b hb, hphase, hopen]
    | ok opened =>
      rw [hopen] at h
      obtain ⟨ho, hid⟩ := zhoubian_names hopen
      obtain ⟨hor, hidr⟩ := Local.zhoubianRecord_names opened.1 opened.2 draws.nowMs
      refine Confined.congr (fun s => finishZhoubian s opened.1 (fieldOr fields "phone") opened.2
          draws.nowMs) ?_ (fun b hb => ?_)
        (bound_confined (.bindZhoubian ho hid) (h accountId rfl) (hor.trans ho) (hidr.trans hid))
      · simp only [act, hphase, hopen]
      · simp only [act, hphases b hb, hphase, hopen]
  | closing accountId =>
    simp only [hphase] at h
    refine Local.unbindHomeAssistant.confined (h accountId rfl) (.answered .removed) ?_ fun b hb => ?_
    · simp only [act, hphase]
    · simp only [act, hphases b hb, hphase]
  | discovering accountId integration =>
    simp only [hphase] at h
    refine Confined.congr (fun s => finishDiscover setup s call.ownerId accountId draws integration) ?_
      (fun b hb => ?_) (finishDiscover_confined setup fun hlists => h accountId (if_pos hlists))
    · simp only [act, hphase]
    · simp only [act, hphases b hb, hphase]
  | importing provider found =>
    refine Confined.congr (fun s => finishImport s call.ownerId provider found draws) ?_
      (fun b hb => ?_) finishImport_confined
    · simp only [act, hphase]
    · simp only [act, hphases b hb, hphase]
  | answered answer =>
    refine Confined.rest (.answered answer) ?_ fun b hb => ?_
    · simp only [act, hphase]
    · simp only [act, hphases b hb, hphase]
  | lost =>
    refine Confined.rest .lost ?_ fun b hb => ?_
    · simp only [act, hphase]
    · simp only [act, hphases b hb, hphase]

end Turns

/-! ### Polls -/

section Polls

variable {blank : ρ} {s : State ε ρ} {accountId : AccountId} (setup : Setup ε)

theorem beginPoll_confined {task : Observer} (h : Alone s task.ownerId accountId) :
    Confined blank task.ownerId s fun s => (beginPoll setup s accountId task, ()) := by
  have hset : ∀ task' : Observer, task'.ownerId = task.ownerId →
      Local blank task.ownerId accountId fun s : State ε ρ => s.setObserver accountId (some task') :=
    fun task' htask => .setObserver (forall_some htask)
  cases hintegration : task.integration with
  | homeassistant =>
    by_cases hbegin : ¬ task.begun ∧ ¬ (s.connection task.ownerId accountId).isOk
    · refine (hset { task with done := true } rfl).confined h () ?_ fun b hb => ?_
      · simp only [beginPoll, hintegration, if_pos hbegin]
      · simp only [beginPoll, hintegration, h.without_connection hb, if_pos hbegin]
    · by_cases hconnection : s.connections accountId = none
      · refine (hset { task with done := true } rfl).confined h () ?_ fun b hb => ?_
        · simp only [beginPoll, hintegration, if_neg hbegin, if_pos hconnection]
        · simp only [beginPoll, hintegration, h.without_connection hb, h.without_connections hb,
            if_neg hbegin, if_pos hconnection]
      · refine (hset { task with begun := true, asking := true } rfl).confined h () ?_ fun b hb => ?_
        · simp only [beginPoll, hintegration, if_neg hbegin, if_neg hconnection]
        · simp only [beginPoll, hintegration, h.without_connection hb, h.without_connections hb,
            if_neg hbegin, if_neg hconnection]
  | zhoubian =>
    by_cases hsession : s.sessions accountId = none
    · refine (hset { task with done := true } rfl).confined h () ?_ fun b hb => ?_
      · simp only [beginPoll, hintegration, if_pos hsession]
      · simp only [beginPoll, hintegration, h.without_sessions hb, if_pos hsession]
    · cases hdiscover : beginDiscover s task.ownerId accountId .zhoubian with
      | error failure =>
        have hfailed : Local blank task.ownerId accountId fun s : State ε ρ =>
            pollFailed setup s accountId failure := .setStatus
        refine hfailed.confined h () ?_ fun b hb => ?_
        · simp only [beginPoll, hintegration, if_neg hsession, hdiscover]
        · simp only [beginPoll, hintegration, h.without_sessions hb, if_neg hsession,
            h.without_beginDiscover hb, hdiscover]
      | ok _ =>
        refine (hset { task with begun := true, asking := true } rfl).confined h () ?_ fun b hb => ?_
        · simp only [beginPoll, hintegration, if_neg hsession, hdiscover]
        · simp only [beginPoll, hintegration, h.without_sessions hb, if_neg hsession,
            h.without_beginDiscover hb, hdiscover]

theorem finishPoll_local {task : Observer} {draws : Draws ε ρ} :
    Local blank task.ownerId accountId fun s => finishPoll setup s accountId task draws := by
  obtain ⟨ownerId, integration, begun, asking, done⟩ := task
  have hset : ∀ task : Observer, task.ownerId = ownerId →
      Local blank ownerId accountId fun s : State ε ρ => s.setObserver accountId (some task) :=
    fun task htask => .setObserver (forall_some htask)
  have hasked := hset ⟨ownerId, integration, begun, false, done⟩ rfl
  have hended := hset ⟨ownerId, integration, begun, asking, true⟩ rfl
  unfold finishPoll
  cases integration with
  | homeassistant =>
    cases draws.opened with
    | ok locationName => exact hasked.comp .setStatus
    | error failure =>
      cases failure with
      | bindError code message => exact hasked.comp .setStatus
      | smartHome e => exact hended
      | other text => exact hended
  | zhoubian =>
    cases draws.devices with
    | ok found => exact (hasked.comp .discovered).comp .setStatus
    | error failure => exact hasked.comp .setStatus

theorem poll_confined {task : Observer} {draws : Draws ε ρ} (h : Alone s task.ownerId accountId)
    (htask : s.observers accountId = some task) :
    Confined blank task.ownerId s fun s => (poll setup s accountId draws, ()) := by
  have hread : ∀ b, b ≠ task.ownerId → (without blank b s).observers accountId = some task := by
    intro b hb
    rw [← htask]
    exact keep_apply fun x hx => by simp [h.observers x hx, Ne.symm hb]
  by_cases hdone : task.done
  · refine Confined.rest () ?_ fun b hb => ?_
    · simp only [poll, htask, if_pos hdone]
    · simp only [poll, hread b hb, if_pos hdone]
  · by_cases hasking : task.asking
    · have hfinish : Local blank task.ownerId accountId fun s => finishPoll setup s accountId task draws :=
        finishPoll_local setup
      refine hfinish.confined h () ?_ fun b hb => ?_
      · simp only [poll, htask, if_neg hdone, if_pos hasking]
      · simp only [poll, hread b hb, if_neg hdone, if_pos hasking]
    · refine Confined.congr (fun s => (beginPoll setup s accountId task, ())) ?_ (fun b hb => ?_)
        (beginPoll_confined setup h)
      · simp only [poll, htask, if_neg hdone, if_neg hasking]
      · simp only [poll, hread b hb, if_neg hdone, if_neg hasking]

/-- Whose task it is, a poll is nothing to the others. -/
theorem poll_without {draws : Draws ε ρ} (hu : Uniform s) (b : OwnerId) :
    poll setup (without blank b s) accountId draws = without blank b (poll setup s accountId draws) ∧
      Uniform (poll setup s accountId draws) := by
  cases htask : s.observers accountId with
  | none =>
    have hnone : (without blank b s).observers accountId = none :=
      keep_apply_of_not (by simp [htask])
    simp only [poll, htask, hnone]
    exact ⟨trivial, hu⟩
  | some task =>
    obtain ⟨o, ho⟩ := hu accountId
    have h : Alone s task.ownerId accountId := ho.observers task htask ▸ ho
    have hpoll : Confined blank task.ownerId s fun s => (poll setup s accountId draws, ()) :=
      poll_confined setup h htask
    refine ⟨?_, hpoll.uniform hu⟩
    by_cases hb : b = task.ownerId
    · subst hb
      have hnone : (without blank task.ownerId s).observers accountId = none :=
        keep_apply_of_not fun x hx => by simp [h.observers x hx]
      rw [hpoll.vanishes]
      simp only [poll, hnone]
    · exact congrArg Prod.fst (hpoll.commutes b hb)

end Polls

/-! ### A new process -/

section Start

variable {blank : ρ} {s : State ε ρ} (setup : Setup ε)

theorem restart_without {b : OwnerId} : restart (without blank b s) = without blank b (restart s) := by
  simp only [restart, without]
  congr 1
  funext call
  split <;> rfl

theorem restart_uniform (hu : Uniform s) : Uniform (restart s) := by
  intro i
  obtain ⟨o, h⟩ := hu i
  exact ⟨o, ⟨h.accounts, h.credentials, forall_none, forall_none, forall_none, forall_none, forall_none,
    forall_none⟩⟩

/-- What is done for one account is a change of what is kept under its id, or an exception. -/
theorem restoreAccount_local {draws : StartDraws} {integration : Integration} {record : AccountRecord}
    (h : Alone s record.ownerId record.accountId) :
    ∃ g : Option (State ε ρ → State ε ρ),
      (∀ f ∈ g, Local blank record.ownerId record.accountId f) ∧
      restoreAccount setup draws integration s record = g.map (· s) ∧
      ∀ b, b ≠ record.ownerId →
        restoreAccount setup draws integration (without blank b s) record =
          g.map (· (without blank b s)) := by
  cases integration with
  | homeassistant =>
    -- what was kept is read under the account's own id, so blanking another Owner changes none of
    -- it
    simp only [restoreAccount, restoreHomeAssistant]
    cases hcheck : checkHomeAssistant (s.keptFields record.accountId ["url", "token"]) with
    | error e =>
      refine ⟨some _, forall_some .setStatus, rfl, fun b hb => ?_⟩
      simp only [h.without_keptFields hb, hcheck]
      rfl
    | ok checked =>
      cases hopened : draws.opened record.accountId with
      | ok locationName =>
        refine ⟨some _, forall_some (.bindHomeAssistant rfl), rfl, fun b hb => ?_⟩
        simp only [h.without_keptFields hb, hcheck]
        rfl
      | error failure =>
        cases failure with
        | bindError code message =>
          refine ⟨some _, forall_some .setStatus, rfl, fun b hb => ?_⟩
          simp only [h.without_keptFields hb, hcheck]
          rfl
        -- an exception that is not caught for the account: nothing is written
        | smartHome e =>
          refine ⟨none, forall_none, rfl, fun b hb => ?_⟩
          simp only [h.without_keptFields hb, hcheck]
          rfl
        | other text =>
          refine ⟨none, forall_none, rfl, fun b hb => ?_⟩
          simp only [h.without_keptFields hb, hcheck]
          rfl
  | zhoubian =>
    simp only [restoreAccount, restoreZhoubian]
    cases hcheck : checkZhoubian (s.keptFields record.accountId
        ["base_url", "app_id", "app_secret", "phone", "home_id"]) with
    | error e =>
      refine ⟨some _, forall_some .setStatus, rfl, fun b hb => ?_⟩
      simp only [h.without_keptFields hb, hcheck]
      rfl
    | ok _ =>
      cases hopen : openSession record.ownerId record.accountId (s.keptFields record.accountId
          ["base_url", "app_id", "app_secret", "phone", "home_id"])
          (s.secret record.accountId "user_secret") (draws.platform record.accountId) with
      | error failure =>
        refine ⟨some _, forall_some .setStatus, rfl, fun b hb => ?_⟩
        simp only [h.without_keptFields hb, h.without_secret hb, hcheck, hopen]
        rfl
      | ok opened =>
        obtain ⟨ho, hid⟩ := zhoubian_names hopen
        refine ⟨some _, forall_some (.bindZhoubian ho hid), rfl, fun b hb => ?_⟩
        simp only [h.without_keptFields hb, h.without_secret hb, hcheck, hopen]
        rfl

/-- No exception stops a Provider from bringing back the accounts of other Owners. -/
def Unbroken (f : State ε ρ → AccountRecord → Option (State ε ρ)) : State ε ρ → List AccountRecord → Prop
  | _, [] => True
  | s, record :: records =>
    match f s record with
    | none => ∀ r ∈ records, r.ownerId = record.ownerId
    | some s' => Unbroken f s' records

instance decidableUnbroken (f : State ε ρ → AccountRecord → Option (State ε ρ)) :
    ∀ s records, Decidable (Unbroken f s records)
  | _, [] => .isTrue trivial
  | s, record :: records => by
    unfold Unbroken
    cases f s record with
    | none => exact inferInstanceAs (Decidable (∀ r ∈ records, r.ownerId = record.ownerId))
    | some s' => exact decidableUnbroken f s' records

/-- No account is there twice, and each is its Owner's alone. -/
structure Apiece (s : State ε ρ) (records : List AccountRecord) : Prop where
  distinct : records.Pairwise fun r r' => r.accountId ≠ r'.accountId
  alone : ∀ r ∈ records, Alone s r.ownerId r.accountId

theorem Apiece.after {record : AccountRecord} {records : List AccountRecord} {f : State ε ρ → State ε ρ}
    (h : Apiece s (record :: records)) (hf : Local blank record.ownerId record.accountId f) :
    Apiece (f s) records := by
  obtain ⟨hne, hrest⟩ := List.pairwise_cons.mp h.distinct
  exact ⟨hrest, fun r hr => hf.elsewhere (Ne.symm (hne r hr)) (h.alone r (List.mem_cons_of_mem _ hr))⟩

theorem restoreEach_without {draws : StartDraws} {integration : Integration} {records : List AccountRecord}
    (hu : Uniform s) (h : Apiece s records)
    (hunbroken : Unbroken (restoreAccount setup draws integration) s records) (b : OwnerId) :
    restoreEach (restoreAccount setup draws integration) (without blank b s)
        (records.filter fun r => r.ownerId ≠ b) =
      without blank b (restoreEach (restoreAccount setup draws integration) s records) ∧
    Uniform (restoreEach (restoreAccount setup draws integration) s records) := by
  induction records generalizing s with
  | nil => exact ⟨rfl, hu⟩
  | cons record records ih =>
    have hrecord := h.alone record List.mem_cons_self
    obtain ⟨g, hg, hs, hb⟩ : ∃ g : Option (State ε ρ → State ε ρ),
        (∀ f ∈ g, Local blank record.ownerId record.accountId f) ∧
        restoreAccount setup draws integration s record = g.map (· s) ∧
        ∀ b, b ≠ record.ownerId →
          restoreAccount setup draws integration (without blank b s) record =
            g.map (· (without blank b s)) := restoreAccount_local setup hrecord
    cases g with
    | none =>
      simp only [restoreEach, hs, Option.map_none]
      refine ⟨?_, hu⟩
      by_cases ho : record.ownerId = b
      · -- whose account raised the exception has all of those that are left out
        simp only [Unbroken, hs, Option.map_none] at hunbroken
        rw [List.filter_eq_nil_iff.mpr]
        · rfl
        · intro r hr
          rcases List.mem_cons.mp hr with rfl | hr
          · simp [ho]
          · simp [hunbroken r hr, ho]
      · rw [List.filter_cons_of_pos (by simp [ho])]
        simp only [restoreEach, hb b (Ne.symm ho), Option.map_none]
    | some f =>
      have hf := hg f rfl
      simp only [Unbroken, hs, Option.map_some] at hunbroken
      obtain ⟨hrest, huniform⟩ := ih (hf.uniform hrecord hu) (h.after hf) hunbroken
      simp only [restoreEach, hs, Option.map_some]
      refine ⟨?_, huniform⟩
      rw [← hrest]
      by_cases ho : record.ownerId = b
      · rw [List.filter_cons_of_neg (by simp [ho]), ← ho, hf.vanishes hrecord]
      · rw [List.filter_cons_of_pos (by simp [ho])]
        simp only [restoreEach, hb b (Ne.symm ho), Option.map_some, hf.commutes (Ne.symm ho) hrecord]

/-- The same of changes that raise no exception. -/
theorem run_without_each {f : State ε ρ → AccountRecord → State ε ρ} {records : List AccountRecord}
    (hf : ∀ r, Local blank r.ownerId r.accountId (f · r)) (hu : Uniform s) (h : Apiece s records)
    (b : OwnerId) :
    run f (without blank b s) (records.filter fun r => r.ownerId ≠ b) = without blank b (run f s records) ∧
      Uniform (run f s records) := by
  induction records generalizing s with
  | nil => exact ⟨rfl, hu⟩
  | cons record records ih =>
    have hrecord := h.alone record List.mem_cons_self
    obtain ⟨hrest, huniform⟩ := ih ((hf record).uniform hrecord hu) (h.after (hf record))
    refine ⟨?_, huniform⟩
    rw [run_cons, ← hrest]
    by_cases ho : record.ownerId = b
    · rw [List.filter_cons_of_neg (by simp [ho]), ← ho, (hf record).vanishes hrecord]
    · rw [List.filter_cons_of_pos (by simp [ho]), run_cons, (hf record).commutes (Ne.symm ho) hrecord]

theorem resume_local {record : AccountRecord} :
    Local blank record.ownerId record.accountId fun s : State ε ρ => resume setup s record := by
  unfold resume
  split
  · cases setup.integration record.kind with
    | none => exact .id
    | some integration => exact .observe
  · exact .id

theorem all_without {b : OwnerId} : (without blank b s).all = s.all.filter fun r => r.ownerId ≠ b :=
  (filter_insertionSort AccountRecord.NotLater (fun r => r.ownerId ≠ b) s.accounts.rows).symm

theorem mem_all {r : AccountRecord} : r ∈ s.all ↔ r ∈ s.accounts := List.mem_insertionSort ..

theorem all_apiece (hu : Uniform s) : Apiece s s.all where
  distinct := by
    have hunique : s.accounts.rows.Pairwise fun r r' => r.accountId ≠ r'.accountId :=
      s.accounts.unique.imp fun h => of_decide_eq_false h
    exact (List.perm_insertionSort AccountRecord.NotLater s.accounts.rows).symm.pairwise hunique
      fun h => Ne.symm h
  alone _ hr := hu.alone_of_mem (mem_all.mp hr)

/-- A Provider brings its accounts back, whoever they are of. -/
theorem restore_without {draws : StartDraws} {integration : Integration} (hu : Uniform s)
    (hunbroken : Unbroken (restoreAccount setup draws integration) s (s.toRestore integration))
    (b : OwnerId) :
    restore setup draws (without blank b s) integration =
        without blank b (restore setup draws s integration) ∧
      Uniform (restore setup draws s integration) := by
  have hrecords : (without blank b s).toRestore integration =
      (s.toRestore integration).filter fun r => r.ownerId ≠ b := by
    simp only [State.toRestore, all_without, List.filter_filter, Bool.and_comm]
  have hapiece : Apiece s (s.toRestore integration) := by
    obtain ⟨hdistinct, halone⟩ := all_apiece hu
    exact ⟨hdistinct.filter _, fun r hr => halone r (List.mem_filter.mp hr).1⟩
  unfold restore
  rw [hrecords]
  exact restoreEach_without setup hu hapiece hunbroken b

/-- In a start, no exception of one account keeps accounts of other Owners from coming back. -/
def StartsUnbroken (s : State ε ρ) (draws : StartDraws) (integrations : List Integration) : Prop :=
  Along (restore setup draws)
    (fun s integration => Unbroken (restoreAccount setup draws integration) s (s.toRestore integration))
    s integrations

instance (draws : StartDraws) (integrations : List Integration) :
    Decidable (StartsUnbroken setup s draws integrations) :=
  inferInstanceAs (Decidable (Along _ _ _ _))

theorem restores_without {draws : StartDraws} {integrations : List Integration} (hu : Uniform s)
    (h : StartsUnbroken setup s draws integrations) (b : OwnerId) :
    run (restore setup draws) (without blank b s) integrations =
        without blank b (run (restore setup draws) s integrations) ∧
      Uniform (run (restore setup draws) s integrations) := by
  induction integrations generalizing s with
  | nil => exact ⟨rfl, hu⟩
  | cons integration integrations ih =>
    have hrestore : restore setup draws (without blank b s) integration =
          without blank b (restore setup draws s integration) ∧
        Uniform (restore setup draws s integration) := restore_without setup hu h.1 b
    rw [run_cons, run_cons, hrestore.1]
    exact ih hrestore.2 h.2

theorem start_without {draws : StartDraws} (hu : Uniform s)
    (h : StartsUnbroken setup s draws setup.enabled) (b : OwnerId) :
    start setup (without blank b s) draws = without blank b (start setup s draws) ∧
      Uniform (start setup s draws) := by
  have hrestored : run (restore setup draws) (without blank b s) setup.enabled =
        without blank b (run (restore setup draws) s setup.enabled) ∧
      Uniform (run (restore setup draws) s setup.enabled) := restores_without setup hu h b
  unfold start
  rw [hrestored.1]
  simp only [all_without]
  exact run_without_each (fun _ => resume_local setup) hrestored.2 (all_apiece hrestored.2) b

end Start

/-! ### Runs -/

section Runs

variable {blank : ρ} {s : State ε ρ} (setup : Setup ε) (requests : Call → Request)

/-- **The condition**: what a step touches is its Owner's alone, and no exception in a start
keeps accounts of other Owners from coming back. -/
def Apart (s : State ε ρ) : Step ε ρ → Prop
  | .turn call draws => ∀ i ∈ touches setup requests s call draws, Alone s call.ownerId i
  | .start draws => StartsUnbroken setup s draws setup.enabled
  | _ => True

instance (a : Step ε ρ) : Decidable (Apart setup requests s a) := by
  cases a with
  | turn call draws =>
    exact inferInstanceAs (Decidable (∀ i ∈ touches setup requests s call draws, Alone s call.ownerId i))
  | poll accountId draws => exact .isTrue trivial
  | restart => exact .isTrue trivial
  | start draws => exact inferInstanceAs (Decidable (StartsUnbroken setup s draws setup.enabled))

/-- A step of the Owner's calls is nothing to the others. -/
theorem step_own {a : Step ε ρ} {b : OwnerId} (hu : Uniform s) (h : Apart setup requests s a)
    (ha : a.ownerId = some b) : without blank b (step setup requests s a) = without blank b s := by
  cases a with
  | turn call draws =>
    cases ha
    have hact : Confined blank call.ownerId s fun s => act setup requests s call draws :=
      act_confined setup hu h
    calc without blank call.ownerId (step setup requests s (.turn call draws))
        = { without blank call.ownerId (act setup requests s call draws).1 with
            phases := (without blank call.ownerId s).phases } := by
          simp only [step, without]
          congr 1
          funext c
          by_cases hc : c.ownerId = call.ownerId
          · rw [if_pos hc, if_pos hc]
          · rw [if_neg hc, if_neg hc, Function.update_of_ne fun heq => hc (congrArg Call.ownerId heq)]
      _ = without blank call.ownerId s := by rw [hact.vanishes]
  | poll accountId draws => cases ha
  | restart => cases ha
  | start draws => cases ha

/-- Any other step is the same without the Owner. -/
theorem step_other {a : Step ε ρ} {b : OwnerId} (hu : Uniform s) (h : Apart setup requests s a)
    (ha : a.ownerId ≠ some b) :
    step setup requests (without blank b s) a = without blank b (step setup requests s a) := by
  cases a with
  | turn call draws =>
    have hb : b ≠ call.ownerId := fun hb => ha (congrArg some hb.symm)
    have hact : Confined blank call.ownerId s fun s => act setup requests s call draws :=
      act_confined setup hu h
    have hcommutes : act setup requests (without blank b s) call draws =
        (without blank b (act setup requests s call draws).1, (act setup requests s call draws).2) :=
      hact.commutes b hb
    simp only [step, hcommutes]
    simp only [without]
    congr 1
    funext c
    by_cases hc : c = call
    · subst hc
      rw [Function.update_self, if_neg (Ne.symm hb), Function.update_self]
    · rw [Function.update_of_ne hc, Function.update_of_ne hc]
  | poll accountId draws => exact (poll_without setup hu b).1
  | restart => exact restart_without
  | start draws => exact (start_without setup hu h b).1

theorem step_uniform {a : Step ε ρ} (blank : ρ) (hu : Uniform s) (h : Apart setup requests s a) :
    Uniform (step setup requests s a) := by
  cases a with
  | turn call draws =>
    have hact : Confined blank call.ownerId s fun s => act setup requests s call draws :=
      act_confined setup hu h
    intro i
    obtain ⟨o, ho⟩ := hact.uniform hu i
    exact ⟨o, ⟨ho.accounts, ho.credentials, ho.connections, ho.owners, ho.registryCache, ho.sessions,
      ho.known, ho.observers⟩⟩
  | poll accountId draws =>
    have hpoll : poll setup (without blank "" s) accountId draws = _ ∧ _ := poll_without setup hu ""
    exact hpoll.2
  | restart => exact restart_uniform hu
  | start draws =>
    have hstart : start setup (without blank "" s) draws = _ ∧ _ := start_without setup hu h ""
    exact hstart.2

/-- **Accounts of different Owners do not interfere** in a run in which the steps keep apart. No
step of an Owner's calls changes what is not that Owner's; and the run without those calls goes
through the states that are left when all that is that Owner's is taken out, answers included. -/
theorem accounts_isolated (b : OwnerId) {steps : List (Step ε ρ)} (hu : Uniform s)
    (h : Along (step setup requests) (Apart setup requests) s steps) :
    (∀ pre a post, steps = pre ++ a :: post → a.ownerId = some b →
      without blank b (run (step setup requests) s (pre ++ [a])) =
        without blank b (run (step setup requests) s pre)) ∧
    run (step setup requests) (without blank b s) (steps.filter (·.ownerId ≠ some b)) =
      without blank b (run (step setup requests) s steps) := by
  have huniform : ∀ s a, Uniform s → Apart setup requests s a → Uniform (step setup requests s a) :=
    fun _ _ hs ha => step_uniform setup requests blank hs ha
  refine ⟨?_, run_without huniform (fun _ _ => step_own setup requests)
    (fun _ _ => step_other setup requests) hu h⟩
  intro pre a post hsplit ha
  subst hsplit
  have hpre := run_inv_along huniform hu (along_append.mp h).1
  rw [run_concat]
  exact step_own setup requests hpre (along_split h) ha

end Runs

/-! ### Two Owners and one name -/

section Samples

/-- Home Assistant alone. -/
def house : Setup Unit where
  enabled := [.homeassistant]
  discover := fun _ => []
  errorText := fun e => e.message
  printable := fun _ => true

/-- What a step of the example draws: the instance answers, with this name. -/
def sampleDraws (locationName : String) : Draws Unit Unit where
  tokenHex := "0a1b2c3d"
  nowMs := 1000
  opened := .ok locationName
  platform := ⟨.ok (), .ok none, .ok (), .ok []⟩
  entities := .ok []
  devices := .ok []
  imported := fun _ _ _ => (.ok ⟨[], [], [], [], 1⟩, ())

/-- Anna binds an account and lists its devices, Bert binds one; both choose the name. -/
def sampleRequests (bertsName : AccountId) (call : Call) : Request :=
  if call = ⟨"anna", 0⟩ then
    .bind "homeassistant" (some "home") [("url", "http://anna.local"), ("token", "a")]
  else if call = ⟨"anna", 1⟩ then .sync "home"
  else .bind "homeassistant" (some bertsName) [("url", "http://bert.local"), ("token", "b")]

/-- Anna's account is bound, then Bert's, then Anna's devices are listed. -/
def sampleSteps : List (Step Unit Unit) :=
  [.turn ⟨"anna", 0⟩ (sampleDraws "Anna"), .turn ⟨"anna", 0⟩ (sampleDraws "Anna"),
    .turn ⟨"bert", 0⟩ (sampleDraws "Bert"), .turn ⟨"bert", 0⟩ (sampleDraws "Bert"),
    .turn ⟨"bert", 0⟩ (sampleDraws "Bert"), .turn ⟨"anna", 1⟩ (sampleDraws "Anna"),
    .turn ⟨"anna", 1⟩ (sampleDraws "Anna"), .turn ⟨"anna", 1⟩ (sampleDraws "Anna")]

/-- A run of the example in which bert binds this account id. -/
def sampleRun (bertsName : AccountId) (steps : List (Step Unit Unit)) : State Unit Unit :=
  run (step house (sampleRequests bertsName)) (.empty fun _ => ()) steps

theorem uniform_empty {registries : OwnerId → ρ} : Uniform (State.empty registries : State ε ρ) :=
  fun _ => ⟨"", ⟨fun _ h => absurd h Table.not_mem_empty, fun _ h => absurd h Table.not_mem_empty,
    forall_none, forall_none, forall_none, forall_none, forall_none, forall_none⟩⟩

/-- The process ends after that, and a new one brings the accounts back. -/
def sampleRestart : List (Step Unit Unit) :=
  sampleSteps ++ [.restart, .start ⟨2000, fun _ => .ok "Home", fun _ => ⟨.ok (), .ok none, .ok (), .ok []⟩⟩]

/-- Where Bert's account has a name of its own, Anna cannot tell whether it is there. -/
theorem accounts_isolated_named :
    run (step house (sampleRequests "second"))
        (without () "bert" (.empty fun _ => ())) (sampleRestart.filter (·.ownerId ≠ some "bert")) =
      without () "bert" (sampleRun "second" sampleRestart) :=
  (accounts_isolated house (sampleRequests "second") "bert" uniform_empty (by decide +kernel)).2

/-- Bert names Anna's account: Anna's token is Bert's now, the record is labelled with Bert's
house, and Anna's call, which would have listed the devices, finds no connection. -/
theorem taken_over :
    let alone := sampleRun "home" (sampleSteps.filter (·.ownerId ≠ some "bert"));
    let both := sampleRun "home" sampleSteps;
    alone.secret "home" "token" = some "a" ∧ both.secret "home" "token" = some "b" ∧
      (alone.account "anna" "home").map (·.label) = some "Anna" ∧
      (both.account "anna" "home").map (·.label) = some "Bert" ∧
      alone.phases ⟨"anna", 1⟩ = .answered (.synced ⟨[], [], [], [], 1⟩) ∧
      both.phases ⟨"anna", 1⟩ =
        .answered (.raised (.smartHome ⟨errorDeviceOffline, "account home is not bound"⟩)) := by
  decide +kernel

/-- Bert's house answers too late when the accounts are brought back, and Anna's stays away. -/
example :
    let steps := (sampleSteps.drop 2).take 2 ++ sampleSteps.take 2 ++ [.restart,
      .start ⟨2000, fun i => if i = "home" then .ok "Anna" else .error (.other "TimeoutError"),
        fun _ => ⟨.ok (), .ok none, .ok (), .ok []⟩⟩];
    (sampleRun "second" steps).connections "home" = none ∧
      (sampleRun "second" (steps.filter (·.ownerId ≠ some "bert"))).connections "home" ≠ none := by
  decide +kernel

end Samples

end EidolonHub.SmartHome.Accounts
