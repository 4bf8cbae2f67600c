import EidolonHub.SmartHome.Accounts

/-!
# EidolonHub.Integration.Vault

**The encrypted vault of the Provider accounts.** A row is kept under its account and name, and both are
authenticated with it. To those who only call it, the vault is the plain one the accounts are modelled
with (`vault_refines`). Whoever edits the file may move rows and bring old ones back, and has no secret
read under another account or name (`moved_rows_stay_shut`).
-/

namespace EidolonHub.Integration

open EidolonHub.Library EidolonHub.SmartHome

/-! ### What encrypts -/

/-- An AEAD under the key of the vault; `none` where the tag is not accepted. A ciphertext opens with the
nonce and the data it was made with, and with no other. -/
structure Aead (γ : Type) where
  encrypt : ByteArray → ByteArray → ByteArray → γ
  decrypt : ByteArray → γ → ByteArray → Option ByteArray
  decrypt_encrypt : ∀ nonce nonce' plain plain' aad aad',
    decrypt nonce' (encrypt nonce plain aad) aad' = some plain' ↔
      nonce' = nonce ∧ aad' = aad ∧ plain' = plain

/-- The name of a secret. All that the Providers give are constants of theirs, without a null. -/
structure SecretName where
  text : String
  plain : '\x00' ∉ text.toList

/-- `_aad` -/
def aad (accountId name : String) : ByteArray := (accountId ++ "\x00" ++ name).toUTF8

/-! ### The vault -/

/-- A row of `credentials`: the secret as it is sealed, and what it is sealed for. -/
structure SealedCredential (γ : Type) where
  accountId : String
  name : String
  nonce : ByteArray
  ciphertext : γ
  updatedAtMs : Int

variable {γ ε ρ : Type}

/-- The account and the name of a row, by which it is found. -/
def SealedCredential.key (row : SealedCredential γ) : String × String := (row.accountId, row.name)

instance : Keyed (SealedCredential γ) where
  clash r s := r.key = s.key
  clash_symm r s := by simp only [eq_comm]

/-- What the ON CONFLICT of `put` sets. -/
def SealedCredential.replace (nonce : ByteArray) (ciphertext : γ) (nowMs : Int)
    (stored : SealedCredential γ) : SealedCredential γ :=
  { stored with nonce, ciphertext, updatedAtMs := nowMs }

theorem SealedCredential.keeps_replace (nonce : ByteArray) (ciphertext : γ) (nowMs : Int) :
    Table.Keeps (SealedCredential.replace nonce ciphertext nowMs) :=
  fun _ _ => rfl

theorem SealedCredential.onlyKey : Table.IsOnlyKey (SealedCredential.key (γ := γ)) :=
  fun _ _ => decide_eq_true_iff

/-- What reading a secret can raise. -/
inductive VaultError where
  | invalidTag
  | unicodeDecode
deriving DecidableEq

namespace CredentialVault

variable (aead : Aead γ)

/-- The row that is written. -/
def write (rows : Table (SealedCredential γ)) (accountId name : String) (nonce : ByteArray) (ciphertext : γ)
    (nowMs : Int) : Table (SealedCredential γ) :=
  rows.upsert SealedCredential.key ⟨accountId, name, nonce, ciphertext, nowMs⟩
    (SealedCredential.replace nonce ciphertext nowMs) (SealedCredential.keeps_replace nonce ciphertext nowMs)

/-- `CredentialVault.put`. -/
def put (rows : Table (SealedCredential γ)) (accountId : String) (name : SecretName) (secret : String)
    (nonce : ByteArray) (nowMs : Int) : Table (SealedCredential γ) :=
  write rows accountId name.text nonce (aead.encrypt nonce secret.toUTF8 (aad accountId name.text)) nowMs

/-- What `get` makes of the row it finds. -/
def opened (accountId : String) (name : SecretName) (row : SealedCredential γ) : Except VaultError String :=
  match aead.decrypt row.nonce row.ciphertext (aad accountId name.text) with
  | none => .error .invalidTag
  | some plain =>
    match String.fromUTF8? plain with
    | none => .error .unicodeDecode
    | some secret => .ok secret

/-- `CredentialVault.get`. -/
def get (rows : Table (SealedCredential γ)) (accountId : String) (name : SecretName) :
    Except VaultError (Option String) :=
  match rows.get SealedCredential.key (accountId, name.text) with
  | none => .ok none
  | some row => (opened aead accountId name row).map some

/-- `CredentialVault.names`. -/
def names (rows : Table (SealedCredential γ)) (accountId : String) : List String :=
  ((rows.rows.filter (·.accountId = accountId)).map (·.name)).insertionSort (· ≤ ·)

/-- `CredentialVault.delete_all`. -/
def deleteAll (rows : Table (SealedCredential γ)) (accountId : String) : Table (SealedCredential γ) :=
  rows.filter fun row => ¬ row.accountId = accountId

end CredentialVault

/-! ### Text and bytes -/

theorem decode_encode (s : String) : String.fromUTF8? s.toUTF8 = some s :=
  (dif_pos s.isValidUTF8).trans rfl

/-- What stands before and after the last separator. -/
theorem last_split {α : Type} {xs xs' ys ys' : List α} {sep : α} (hys : sep ∉ ys) (hys' : sep ∉ ys')
    (h : xs ++ sep :: ys = xs' ++ sep :: ys') : xs = xs' ∧ ys = ys' := by
  rw [List.append_eq_append_iff] at h
  obtain ⟨zs, rfl, hzs⟩ | ⟨zs, rfl, hzs⟩ := h
  · cases zs with
    | nil => simpa using hzs
    | cons z zs =>
      obtain ⟨rfl, rfl⟩ := List.cons.inj hzs
      exact absurd (by simp) hys
  · cases zs with
    | nil => simpa [eq_comm] using hzs
    | cons z zs =>
      obtain ⟨rfl, rfl⟩ := List.cons.inj hzs
      exact absurd (by simp) hys'

/-- **What is authenticated says whose it is**, whatever the account is called. -/
theorem aad_injective {accountId accountId' : String} {name name' : SecretName}
    (h : aad accountId name.text = aad accountId' name'.text) :
    accountId = accountId' ∧ name.text = name'.text := by
  have htext : (accountId ++ "\x00" ++ name.text).toList = (accountId' ++ "\x00" ++ name'.text).toList :=
    congrArg String.toList (String.toByteArray_inj.mp h)
  simp only [String.toList_append] at htext
  have hsep : "\x00".toList = ['\x00'] := rfl
  rw [hsep, List.append_assoc, List.append_assoc, List.singleton_append, List.singleton_append] at htext
  obtain ⟨haccount, hname⟩ := last_split name.plain name'.plain htext
  exact ⟨String.ext haccount, String.ext hname⟩

/-! ### Those who only call it -/

/-- A call that changes the vault. -/
inductive VaultOp where
  | put (ownerId accountId : String) (name : SecretName) (secret : String) (nonce : ByteArray) (nowMs : Int)
  | deleteAll (accountId : String)

/-- The file after a call. -/
def VaultOp.onSealed (aead : Aead γ) (rows : Table (SealedCredential γ)) : VaultOp → Table (SealedCredential γ)
  | .put _ accountId name secret nonce nowMs => CredentialVault.put aead rows accountId name secret nonce nowMs
  | .deleteAll accountId => CredentialVault.deleteAll rows accountId

/-- The plain vault of the accounts after the same call. -/
def VaultOp.onPlain (s : Accounts.State ε ρ) : VaultOp → Accounts.State ε ρ
  | .put ownerId accountId name secret _ _ => s.put ownerId accountId name.text secret
  | .deleteAll accountId => s.deleteSecrets accountId

/-- The row in the file keeps this secret. -/
structure Seals (aead : Aead γ) (credential : Accounts.Credential) (row : SealedCredential γ) : Prop where
  key : row.key = credential.key
  opens : aead.decrypt row.nonce row.ciphertext (aad credential.accountId credential.name) =
    some credential.secret.toUTF8

section Refinement

variable {aead : Aead γ} {plain : Table Accounts.Credential} {rows : Table (SealedCredential γ)}

/-- The file keeps the secrets of the plain vault, row by row. -/
def Represents (aead : Aead γ) (plain : Table Accounts.Credential) (rows : Table (SealedCredential γ)) : Prop :=
  List.Forall₂ (Seals aead) plain.rows rows.rows

theorem Represents.keys (h : Represents aead plain rows) :
    plain.rows.map Accounts.Credential.key = rows.rows.map SealedCredential.key := by
  unfold Represents at h
  generalize plain.rows = credentials at h ⊢
  generalize rows.rows = sealedRows at h ⊢
  induction h with
  | nil => rfl
  | cons hseals _ ih => rw [List.map_cons, List.map_cons, hseals.key, ih]

theorem Represents.put (h : Represents aead plain rows) (ownerId accountId : String) (name : SecretName)
    (secret : String) (nonce : ByteArray) (nowMs : Int) :
    Represents aead
      (plain.upsert Accounts.Credential.key ⟨accountId, name.text, secret, ownerId⟩
        (Accounts.Credential.replace secret ownerId) (Accounts.Credential.keeps_replace secret ownerId))
      (CredentialVault.put aead rows accountId name secret nonce nowMs) := by
  have hopens : aead.decrypt nonce (aead.encrypt nonce secret.toUTF8 (aad accountId name.text))
      (aad accountId name.text) = some secret.toUTF8 :=
    (aead.decrypt_encrypt ..).mpr ⟨rfl, rfl, rfl⟩
  have honlyKey : Table.IsOnlyKey Accounts.Credential.key := fun _ _ => decide_eq_true_iff
  have hfound : (∃ c ∈ plain.rows, c.key = (accountId, name.text)) ↔
      ∃ r ∈ rows.rows, r.key = (accountId, name.text) := by
    rw [← List.mem_map, ← List.mem_map, h.keys]
  unfold Represents CredentialVault.put CredentialVault.write
  rw [Table.upsert_rows honlyKey, Table.upsert_rows SealedCredential.onlyKey]
  split_ifs with hplain hsealed hsealed
  · -- the row that is there is written over, in both
    rw [List.forall₂_map_left_iff, List.forall₂_map_right_iff]
    refine h.imp fun credential row hseals => ?_
    show Seals aead (if credential.key = (accountId, name.text) then _ else _)
      (if row.key = (accountId, name.text) then _ else _)
    by_cases hkey : credential.key = (accountId, name.text)
    · have hkey' := hseals.key.trans hkey
      rw [if_pos hkey, if_pos hkey']
      obtain ⟨rfl, hname⟩ := Prod.mk.inj hkey
      refine ⟨hseals.key, ?_⟩
      show aead.decrypt nonce _ (aad credential.accountId credential.name) = some secret.toUTF8
      rw [show credential.name = name.text from hname]
      exact hopens
    · have hkey' : row.key ≠ (accountId, name.text) := fun heq => hkey (hseals.key.symm.trans heq)
      rw [if_neg hkey, if_neg hkey']
      exact hseals
  · exact absurd (hfound.mp hplain) hsealed
  · exact absurd (hfound.mpr hsealed) hplain
  · exact List.rel_append h (.cons ⟨rfl, hopens⟩ .nil)

theorem Represents.deleteAll (h : Represents aead plain rows) (accountId : String) :
    Represents aead (plain.filter fun c => ¬ c.accountId = accountId)
      (CredentialVault.deleteAll rows accountId) := by
  unfold Represents CredentialVault.deleteAll
  rw [Table.filter_rows, Table.filter_rows]
  unfold Represents at h
  generalize plain.rows = credentials at h ⊢
  generalize rows.rows = sealedRows at h ⊢
  induction h with
  | nil => exact .nil
  | cons hseals _ ih =>
    have haccount := (Prod.mk.inj hseals.key).1
    rw [List.filter_cons, List.filter_cons, haccount]
    split
    · exact .cons hseals ih
    · exact ih

/-- What is read of a file that keeps the secrets of a plain vault. -/
theorem Represents.get (h : Represents aead plain rows) (accountId : String) (name : SecretName) :
    CredentialVault.get aead rows accountId name =
      .ok ((plain.get Accounts.Credential.key (accountId, name.text)).map (·.secret)) := by
  unfold CredentialVault.get Table.get
  unfold Represents at h
  generalize plain.rows = credentials at h ⊢
  generalize rows.rows = sealedRows at h ⊢
  induction h with
  | nil => rfl
  | @cons credential row _ _ hseals _ ih =>
    by_cases hkey : credential.key = (accountId, name.text)
    · rw [List.find?_cons_of_pos (by simpa using hseals.key.trans hkey),
        List.find?_cons_of_pos (by simpa using hkey)]
      obtain ⟨rfl, hname⟩ := Prod.mk.inj hkey
      have hopens := hseals.opens
      rw [hname] at hopens
      show (CredentialVault.opened aead credential.accountId name row).map some = _
      unfold CredentialVault.opened
      rw [hopens]
      dsimp only
      rw [decode_encode]
      rfl
    · have hkey' : ¬ row.key = (accountId, name.text) := fun heq => hkey (hseals.key.symm.trans heq)
      rw [List.find?_cons_of_neg (by simpa using hkey'), List.find?_cons_of_neg (by simpa using hkey)]
      exact ih

theorem Represents.names (h : Represents aead plain rows) (accountId : String) :
    CredentialVault.names rows accountId =
      ((plain.rows.filter (·.accountId = accountId)).map (·.name)).insertionSort (· ≤ ·) := by
  unfold CredentialVault.names
  refine congrArg (List.insertionSort (· ≤ ·)) ?_
  unfold Represents at h
  generalize plain.rows = credentials at h ⊢
  generalize rows.rows = sealedRows at h ⊢
  induction h with
  | nil => rfl
  | cons hseals _ ih =>
    obtain ⟨haccount, hname⟩ := Prod.mk.inj hseals.key
    rw [List.filter_cons, List.filter_cons, haccount]
    split
    · rw [List.map_cons, List.map_cons, hname, ih]
    · exact ih

/-- **The vault is the plain one** to those who only call it: after every sequence of calls, each read
and each list of names answers what it would if nothing was encrypted. -/
theorem vault_refines (aead : Aead γ) (registries : OwnerId → ρ) (ops : List VaultOp) (accountId : String)
    (name : SecretName) :
    CredentialVault.get aead (run (VaultOp.onSealed aead) .empty ops) accountId name =
        .ok ((run VaultOp.onPlain (Accounts.State.empty (ε := ε) registries) ops).secret accountId name.text) ∧
      CredentialVault.names (run (VaultOp.onSealed aead) .empty ops) accountId =
        (((run VaultOp.onPlain (Accounts.State.empty (ε := ε) registries) ops).credentials.rows.filter
          (·.accountId = accountId)).map (·.name)).insertionSort (· ≤ ·) := by
  have hrun (s : Accounts.State ε ρ) (rows : Table (SealedCredential γ))
      (h : Represents aead s.credentials rows) :
      Represents aead (run VaultOp.onPlain s ops).credentials (run (VaultOp.onSealed aead) rows ops) := by
    induction ops generalizing s rows with
    | nil => exact h
    | cons op ops ih =>
      refine ih _ _ ?_
      cases op with
      | put ownerId accountId name secret nonce nowMs => exact h.put ownerId accountId name secret nonce nowMs
      | deleteAll accountId => exact h.deleteAll accountId
  have hrepresents := hrun (Accounts.State.empty registries) .empty .nil
  exact ⟨hrepresents.get accountId name, hrepresents.names accountId⟩

end Refinement

/-! ### Whoever edits the file -/

/-- What happens to the file. -/
inductive Event where
  | call (op : VaultOp)
  /-- a row is written by hand: the nonce and the ciphertext of any two rows that were ever sealed -/
  | plant (accountId name : String) (nonceOf ciphertextOf : Nat) (updatedAtMs : Int)
  | erase (accountId name : String)

/-- The file, and everything that was ever sealed for it. -/
structure Kept (γ : Type) where
  rows : Table (SealedCredential γ)
  made : List (ByteArray × γ)

/-- What an event makes of the rows and of the ciphertexts that were ever made. -/
def Event.next (aead : Aead γ) (kept : Kept γ) : Event → Kept γ
  | .call op =>
    { rows := op.onSealed aead kept.rows
      made :=
        match op with
        | .put _ accountId name secret nonce _ =>
          kept.made ++ [(nonce, aead.encrypt nonce secret.toUTF8 (aad accountId name.text))]
        | .deleteAll _ => kept.made }
  | .plant accountId name nonceOf ciphertextOf updatedAtMs =>
    match kept.made[nonceOf]?, kept.made[ciphertextOf]? with
    | some (nonce, _), some (_, ciphertext) =>
      { kept with rows := CredentialVault.write kept.rows accountId name nonce ciphertext updatedAtMs }
    | _, _ => kept
  | .erase accountId name => { kept with rows := kept.rows.filter fun row => ¬ row.key = (accountId, name) }

/-- The file after all of this. -/
def kept (aead : Aead γ) (events : List Event) : Kept γ := run (Event.next aead) ⟨.empty, []⟩ events

section Edits

variable {aead : Aead γ}

/-- This was put. -/
def WasPut (events : List Event) (accountId : String) (name : SecretName) (secret : String) : Prop :=
  ∃ ownerId nonce nowMs, Event.call (.put ownerId accountId name secret nonce nowMs) ∈ events

/-- The ciphertext is one that a put has made. -/
def Made (aead : Aead γ) (events : List Event) (ciphertext : γ) : Prop :=
  ∃ accountId name secret nonce, WasPut events accountId name secret ∧
    ciphertext = aead.encrypt nonce secret.toUTF8 (aad accountId name.text)

theorem Made.concat {events : List Event} {event : Event} {ciphertext : γ} (h : Made aead events ciphertext) :
    Made aead (events ++ [event]) ciphertext := by
  obtain ⟨accountId, name, secret, nonce, ⟨ownerId, n, nowMs, hmem⟩, rfl⟩ := h
  exact ⟨accountId, name, secret, nonce, ⟨ownerId, n, nowMs, List.mem_append_left _ hmem⟩, rfl⟩

/-- A row that is written, or one that was there. -/
theorem mem_write {rows : Table (SealedCredential γ)} {accountId name : String} {nonce : ByteArray}
    {ciphertext : γ} {nowMs : Int} {row : SealedCredential γ}
    (h : row ∈ CredentialVault.write rows accountId name nonce ciphertext nowMs) :
    row.ciphertext = ciphertext ∨ row ∈ rows := by
  obtain rfl | ⟨row', hmem, rfl⟩ := Table.mem_upsert SealedCredential.onlyKey h
  · exact .inl rfl
  · split
    · exact .inl rfl
    · exact .inr hmem

/-- Whoever wrote a row, its ciphertext was made by a put. -/
theorem kept_made (aead : Aead γ) (events : List Event) :
    (∀ row ∈ (kept aead events).rows, Made aead events row.ciphertext) ∧
      ∀ pair ∈ (kept aead events).made, Made aead events pair.2 := by
  refine run_history (I := fun events (kept : Kept γ) =>
    (∀ row ∈ kept.rows, Made aead events row.ciphertext) ∧ ∀ pair ∈ kept.made, Made aead events pair.2)
    ⟨fun _ hrow => absurd hrow Table.not_mem_empty, fun _ hpair => absurd hpair List.not_mem_nil⟩ ?_ events
  intro events event hkept
  obtain ⟨hrows, hmade⟩ := hkept
  cases event with
  | call op =>
    cases op with
    | put ownerId accountId name secret nonce nowMs =>
      have hnew : Made aead (events ++ [.call (.put ownerId accountId name secret nonce nowMs)])
          (aead.encrypt nonce secret.toUTF8 (aad accountId name.text)) :=
        ⟨accountId, name, secret, nonce, ⟨ownerId, nonce, nowMs, by simp⟩, rfl⟩
      refine ⟨fun row hrow => ?_, fun pair hpair => ?_⟩
      · obtain heq | hold := mem_write hrow
        · rw [heq]
          exact hnew
        · exact (hrows row hold).concat
      · obtain hold | hpair := List.mem_append.mp hpair
        · exact (hmade pair hold).concat
        · rw [List.mem_singleton.mp hpair]
          exact hnew
    | deleteAll accountId =>
      exact ⟨fun row hrow => (hrows row (Table.mem_filter.mp hrow).1).concat,
        fun pair hpair => (hmade pair hpair).concat⟩
  | erase accountId name =>
    exact ⟨fun row hrow => (hrows row (Table.mem_filter.mp hrow).1).concat,
      fun pair hpair => (hmade pair hpair).concat⟩
  -- planting copies a ciphertext that was in the file before
  | plant accountId name nonceOf ciphertextOf updatedAtMs =>
    unfold Event.next
    dsimp only
    split
    · next nonce _ _ ciphertext _ hciphertext =>
      refine ⟨fun row hrow => ?_, fun pair hpair => (hmade pair hpair).concat⟩
      obtain heq | hold := mem_write hrow
      · rw [heq]
        exact (hmade _ (List.mem_of_getElem? hciphertext)).concat
      · exact (hrows row hold).concat
    · exact ⟨fun row hrow => (hrows row hrow).concat, fun pair hpair => (hmade pair hpair).concat⟩

/-- **A row that is moved stays shut.** Whatever is done to the file by hand, with rows that were ever in
it: a secret that is read under an account and a name was put under this account and this name. -/
theorem moved_rows_stay_shut (aead : Aead γ) (events : List Event) {accountId : String} {name : SecretName}
    {secret : String}
    (hget : CredentialVault.get aead (kept aead events).rows accountId name = .ok (some secret)) :
    WasPut events accountId name secret := by
  unfold CredentialVault.get at hget
  split at hget
  · cases hget
  next row hrow =>
  obtain ⟨accountId', name', secret', nonce', hput, hciphertext⟩ :=
    (kept_made aead events).1 row (Table.get_mem hrow)
  unfold CredentialVault.opened at hget
  split at hget
  · cases hget
  next plain hdecrypt =>
  rw [hciphertext, aead.decrypt_encrypt] at hdecrypt
  obtain ⟨-, haad, rfl⟩ := hdecrypt
  rw [decode_encode] at hget
  cases hget
  obtain ⟨rfl, hname⟩ := aad_injective haad
  obtain rfl : name = name' := by
    cases name
    cases name'
    cases hname
    rfl
  exact hput

end Edits

/-! ### One account -/

/-- A ciphertext that is what it was made of. -/
def Sample.aead : Aead (ByteArray × ByteArray × ByteArray) where
  encrypt nonce plain aad := (nonce, plain, aad)
  decrypt nonce ciphertext aad :=
    if nonce.data = ciphertext.1.data ∧ aad.data = ciphertext.2.2.data then some ciphertext.2.1 else none
  decrypt_encrypt nonce nonce' plain plain' aad aad' := by
    by_cases h : nonce' = nonce ∧ aad' = aad
    · obtain ⟨rfl, rfl⟩ := h
      simp [eq_comm]
    · have hdata : ¬ (nonce'.data = nonce.data ∧ aad'.data = aad.data) :=
        fun heq => h ⟨ByteArray.ext heq.1, ByteArray.ext heq.2⟩
      simp only [hdata, if_false]
      exact ⟨nofun, fun heq => absurd ⟨heq.1, heq.2.1⟩ h⟩

/-- The name of a token. -/
def Sample.token : SecretName := ⟨"token", by decide⟩

/-- A secret is put, and its row is copied to another account. -/
def Sample.edits : List Event :=
  [.call (.put "owner-1" "acc_1" Sample.token "s3cret" ⟨#[1]⟩ 0), .plant "acc_2" "token" 0 0 0]

/-- The row is read where it was put, and was moved in vain. -/
theorem moved_rows_stay_shut_token : WasPut Sample.edits "acc_1" Sample.token "s3cret" ∧
    CredentialVault.get Sample.aead (kept Sample.aead Sample.edits).rows "acc_2" Sample.token =
      .error .invalidTag :=
  ⟨moved_rows_stay_shut Sample.aead Sample.edits (by decide +kernel), by decide +kernel⟩

end EidolonHub.Integration
