import AuthClaw.Library.Histories
import AuthClaw.Tenants.ApiKeys
import Mathlib.Data.List.Perm.Basic

/-!
# Histories of keys

What requests for keys do in any order of their statements, told from what happened: the rows are
the keys that were made, and what is done with a key goes back to how it was made.

Main results:

- Theorem {lit}`key_answered_traced`: a request that is answered for a key goes back to sessions of
  the tenant, and to no revocation.
- Theorem {lit}`revoked_refused`: a key that was revoked opens nothing more.
- Theorem {lit}`successors_le`: the keys that rotations make of one key.
- Theorem {lit}`listKeys_eq`: what the list says of the keys of a tenant.
-/

namespace AuthClaw.Tenants

open AuthClaw.Identity PythonText RowSecurity StepSystem Histories
open Events (columnText)

/-! ## What the keys go back to -/

/-- A key as it was made. -/
def ApiKeyRecord.issued (k : ApiKeyRecord) : ApiKeyRecord :=
  { k with stored := ⟨{ k.stored.key with revokedAt := none }, none⟩ }

/-- The key a fact made. -/
def ApiKeyFact.made : ApiKeyFact → Option ApiKeyRecord
  | .granted k _ _ => some k
  | _ => none

/-- The keys that were made, the first first. -/
def issuedKeys (h : List ApiKeyFact) : List ApiKeyRecord :=
  h.filterMap ApiKeyFact.made

def ApiKeyFact.revokes (keyId : Int) : ApiKeyFact → Bool
  | .revoked id _ => id = keyId
  | _ => false

/-- A key was revoked. -/
def revokedIn (h : List ApiKeyFact) (keyId : Int) : Bool :=
  h.any (fun fact => fact.revokes keyId)

/-- A key was made for a tenant. -/
def MadeFor (h : List ApiKeyFact) (keyId tenantId : Int) : Prop :=
  ∃ k ∈ issuedKeys h, k.id = keyId ∧ k.stored.key.tenantId = tenantId

/-- What has to be recorded before a fact: keys are made, read and revoked by sessions of their
tenant, a rotation reads its key while it is not revoked, and a request finds a key as long. -/
def ApiKeyFactOk (s : ApiKeySetting) (before : List ApiKeyFact) : ApiKeyFact → Prop
  | .granted k none caller => callerTenant s caller = .ok k.stored.key.tenantId
  | .granted k (some source) caller =>
      callerTenant s caller = .ok k.stored.key.tenantId ∧
        MadeFor before source k.stored.key.tenantId ∧
        .read source caller ∈ before ∧ .revoked source caller ∈ before
  | .read keyId caller => revokedIn before keyId = false ∧
      ∃ tenantId, callerTenant s caller = .ok tenantId ∧ MadeFor before keyId tenantId
  | .revoked keyId caller =>
      ∃ tenantId, callerTenant s caller = .ok tenantId ∧ MadeFor before keyId tenantId
  | .seen k text now => k.issued ∈ issuedKeys before ∧ revokedIn before k.id = false ∧
      liveApiKey s.signing now text k.stored.key = true
  | .answered tenantId text c => c.tenantId = some tenantId.repr ∧
      ∃ k now, .seen k text now ∈ before ∧ k.stored.key.tenantId = tenantId

/-- The rows are the keys that were made, each with its number and its hash, and say which of them
were revoked. -/
structure TableOk (tb : ApiKeyTables) (h : List ApiKeyFact) : Prop where
  owned : Owned tb.rows
  issued : tb.rows.map (fun row => row.data.issued) = issuedKeys h
  tenants : ∀ k ∈ issuedKeys h, k.stored.key.tenantId ∈ tb.tenants
  named : ∀ k ∈ issuedKeys h, ∃ given, columnText 100 given = some k.name
  below : ∀ k ∈ issuedKeys h, k.id < tb.nextId
  ids : (issuedKeys h).Pairwise (fun a b => a.id < b.id)
  hashes : ((issuedKeys h).map (fun k => k.stored.key.keyHash)).Nodup
  revoked : ∀ row ∈ tb.rows, row.data.stored.key.revokedAt.isSome = revokedIn h row.data.id

/-- The open requests go back to what happened. -/
structure ApiKeysInv (s : ApiKeySetting) (st : ApiKeyService) : Prop where
  table : TableOk st.tables st.history
  rotations : ∀ r ∈ st.rotations, .read r.keyId r.caller ∈ st.history ∧
    callerTenant s r.caller = .ok r.tenantId ∧ MadeFor st.history r.keyId r.tenantId
  lookups : ∀ l ∈ st.lookups, .seen l.found l.text l.now ∈ st.history
  facts : Justified (ApiKeyFactOk s) st.history

section

variable {s : ApiKeySetting} {tb : ApiKeyTables} {h more : List ApiKeyFact} {caller : KeyCaller}
  {keyId tenantId now : Int} {row row' : SecuredKey} {k k' : ApiKeyRecord} {fact : ApiKeyFact}
  {source : Option Int} {st st' : ApiKeyService} {action : ApiKeyAction}

theorem issuedKeys_append : issuedKeys (h ++ more) = issuedKeys h ++ issuedKeys more :=
  List.filterMap_append

theorem revokedIn_append :
    revokedIn (h ++ more) keyId = (revokedIn h keyId || revokedIn more keyId) :=
  List.any_append

theorem MadeFor.append (hmade : MadeFor h keyId tenantId) (more : List ApiKeyFact) :
    MadeFor (h ++ more) keyId tenantId := by
  rcases hmade with ⟨k, hk, hid, htenant⟩
  refine ⟨k, ?_, hid, htenant⟩
  rw [issuedKeys_append]
  exact List.mem_append_left _ hk

/-- Keys with one number are one key. -/
theorem TableOk.eq_of_id (ht : TableOk tb h) (hk : k ∈ issuedKeys h) (hk' : k' ∈ issuedKeys h)
    (hid : k.id = k'.id) : k = k' := by
  have hnodup : ((issuedKeys h).map ApiKeyRecord.id).Nodup :=
    List.pairwise_map.mpr (ht.ids.imp ne_of_lt)
  exact List.inj_on_of_nodup_map hnodup hk hk' hid

/-- Keys with one hash are one key. -/
theorem TableOk.eq_of_hash (ht : TableOk tb h) (hk : k ∈ issuedKeys h) (hk' : k' ∈ issuedKeys h)
    (hhash : k.stored.key.keyHash = k'.stored.key.keyHash) : k = k' :=
  List.inj_on_of_nodup_map ht.hashes hk hk' hhash

theorem TableOk.issued_mem (ht : TableOk tb h) (hrow : row ∈ tb.rows) :
    row.data.issued ∈ issuedKeys h := by
  rw [← ht.issued]
  exact List.mem_map_of_mem hrow

theorem TableOk.any_ownKey (ht : TableOk tb h) :
    tb.rows.any (ownKey keyId tenantId) = true ↔ MadeFor h keyId tenantId := by
  unfold MadeFor
  rw [← ht.issued, List.any_eq_true]
  constructor
  · rintro ⟨row, hrow, hown⟩
    exact ⟨_, List.mem_map_of_mem hrow, ownKey_iff.mp hown⟩
  · rintro ⟨k, hk, hown⟩
    rcases List.mem_map.mp hk with ⟨row, hrow, rfl⟩
    exact ⟨row, hrow, ownKey_iff.mpr hown⟩

/-- A number that is not given yet was not revoked. -/
theorem TableOk.unrevoked (ht : TableOk tb h) (hfacts : Justified (ApiKeyFactOk s) h) :
    revokedIn h tb.nextId = false := by
  refine List.any_eq_false.mpr ?_
  intro fact hfact hrevokes
  rcases hfacts.of_mem hfact with ⟨before, after, rfl, hok⟩
  cases fact with
  | revoked id caller =>
      rcases hok with ⟨tenantId, -, k, hk, hid, -⟩
      have hlt := ht.below k (by rw [issuedKeys_append]; exact List.mem_append_left _ hk)
      rw [hid, of_decide_eq_true hrevokes] at hlt
      exact lt_irrefl _ hlt
  | _ => cases hrevokes

/-- Rows that change, but are of the same keys. -/
theorem TableOk.of_map {f : SecuredKey → SecuredKey} {next : Int} {tenants : List Int}
    (ht : TableOk tb h) (hsame : ∀ row, (f row).tenantId = row.tenantId ∧
      (f row).data.issued = row.data.issued) (htenants : tb.tenants ⊆ tenants)
    (hnext : tb.nextId ≤ next) (hmore : issuedKeys more = [])
    (hrevoked : ∀ row ∈ tb.rows, (f row).data.stored.key.revokedAt.isSome =
      revokedIn (h ++ more) row.data.id) :
    TableOk ⟨tenants, next, tb.rows.map f⟩ (h ++ more) := by
  have hkeys : issuedKeys (h ++ more) = issuedKeys h := by
    rw [issuedKeys_append, hmore, List.append_nil]
  have hid : ∀ row, (f row).data.id = row.data.id := by
    intro row
    have hissued : (f row).data.issued.id = row.data.issued.id := by rw [(hsame row).2]
    exact hissued
  have htenant : ∀ row, (f row).data.stored.key.tenantId = row.data.stored.key.tenantId := by
    intro row
    have hissued : (f row).data.issued.stored.key.tenantId =
        row.data.issued.stored.key.tenantId := by rw [(hsame row).2]
    exact hissued
  constructor
  · intro row hrow
    rcases List.mem_map.mp hrow with ⟨row, hmem, rfl⟩
    rw [(hsame row).1, htenant]
    exact ht.owned row hmem
  · rw [hkeys, ← ht.issued, List.map_map]
    exact List.map_congr_left (fun row _ => (hsame row).2)
  · rw [hkeys]
    intro k hk
    exact htenants (ht.tenants k hk)
  · rw [hkeys]
    exact ht.named
  · rw [hkeys]
    intro k hk
    exact lt_of_lt_of_le (ht.below k hk) hnext
  · rw [hkeys]
    exact ht.ids
  · rw [hkeys]
    exact ht.hashes
  · intro row hrow
    rcases List.mem_map.mp hrow with ⟨row, hmem, rfl⟩
    rw [hid]
    exact hrevoked row hmem

/-- Facts that make and revoke nothing. -/
theorem TableOk.quiet {next : Int} {tenants : List Int} (ht : TableOk tb h)
    (htenants : tb.tenants ⊆ tenants) (hnext : tb.nextId ≤ next) (hmore : issuedKeys more = [])
    (hrevoked : ∀ keyId, revokedIn more keyId = false) :
    TableOk ⟨tenants, next, tb.rows⟩ (h ++ more) := by
  have hmap := @TableOk.of_map tb h more id next tenants ht (fun _ => ⟨rfl, rfl⟩) htenants
    hnext hmore
  rw [List.map_id] at hmap
  refine hmap ?_
  intro row hrow
  rw [revokedIn_append, hrevoked, Bool.or_false]
  exact ht.revoked row hrow

theorem TableOk.revoke (ht : TableOk tb h) (hmade : MadeFor h keyId tenantId) :
    TableOk { tb with rows := revokeIn now keyId tenantId tb.rows }
      (h ++ [.revoked keyId caller]) := by
  refine ht.of_map ?_ (List.Subset.refl _) (le_refl _) rfl ?_
  · intro row
    split <;> exact ⟨rfl, rfl⟩
  · intro row hrow
    rw [revokedIn_append]
    cases hown : ownKey keyId tenantId row with
    | true =>
        have hlast : revokedIn [.revoked keyId caller] row.data.id = true := by
          simp [revokedIn, ApiKeyFact.revokes, (ownKey_iff.mp hown).1]
        rw [hlast, Bool.or_true]
        rfl
    | false =>
        have hlast : revokedIn [.revoked keyId caller] row.data.id = false := by
          refine List.any_eq_false.mpr ?_
          intro fact hfact hrevokes
          cases List.mem_singleton.mp hfact
          rcases hmade with ⟨k, hk, hid, htenant⟩
          have hsame : k = row.data.issued :=
            ht.eq_of_id hk (ht.issued_mem hrow) (hid.trans (of_decide_eq_true hrevokes))
          rw [hsame] at hid htenant
          rw [ownKey_iff.mpr ⟨hid, htenant⟩] at hown
          cases hown
        rw [hlast, Bool.or_false]
        exact ht.revoked row hrow

theorem TableOk.insert (ht : TableOk tb h) (htenant : k.stored.key.tenantId ∈ tb.tenants)
    (hname : ∃ given, columnText 100 given = some k.name) (hid : k.id = tb.nextId)
    (hissued : k.issued = k) (hfresh : revokedIn h tb.nextId = false)
    (hnew : ∀ row ∈ tb.rows, row.data.stored.key.keyHash ≠ k.stored.key.keyHash) :
    TableOk ⟨tb.tenants, tb.nextId + 1, tb.rows ++ [⟨some k.stored.key.tenantId.repr, k⟩]⟩
      (h ++ [.granted k source caller]) := by
  have hkeys : issuedKeys (h ++ [.granted k source caller]) = issuedKeys h ++ [k] :=
    issuedKeys_append
  have hlive : k.stored.key.revokedAt = none := by
    rw [← hissued]
    rfl
  constructor
  · intro row hrow
    rcases List.mem_append.mp hrow with hrow | hrow
    · exact ht.owned row hrow
    · rw [List.mem_singleton.mp hrow]
  · rw [hkeys, ← ht.issued, List.map_append, List.map_singleton, hissued]
  · rw [hkeys]
    intro k' hk'
    rcases List.mem_append.mp hk' with hk' | hk'
    · exact ht.tenants k' hk'
    · rw [List.mem_singleton.mp hk']
      exact htenant
  · rw [hkeys]
    intro k' hk'
    rcases List.mem_append.mp hk' with hk' | hk'
    · exact ht.named k' hk'
    · rw [List.mem_singleton.mp hk']
      exact hname
  · rw [hkeys]
    intro k' hk'
    rcases List.mem_append.mp hk' with hk' | hk'
    · exact lt_trans (ht.below k' hk') (Int.lt_succ _)
    · rw [List.mem_singleton.mp hk', hid]
      exact Int.lt_succ _
  · rw [hkeys]
    refine List.pairwise_append.mpr ⟨ht.ids, List.pairwise_singleton _ _, ?_⟩
    intro k' hk' k'' hk''
    rw [List.mem_singleton.mp hk'', hid]
    exact ht.below k' hk'
  · rw [hkeys, List.map_append, List.map_singleton]
    refine List.nodup_append.mpr ⟨ht.hashes, List.nodup_singleton _, ?_⟩
    intro hash hhash hash' hhash'
    rw [List.mem_singleton.mp hhash']
    rcases List.mem_map.mp hhash with ⟨k', hk', rfl⟩
    rw [← ht.issued] at hk'
    rcases List.mem_map.mp hk' with ⟨row, hrow, rfl⟩
    exact hnew row hrow
  · intro row hrow
    have hlast : ∀ id, revokedIn [.granted k source caller] id = false := fun _ => rfl
    rw [revokedIn_append, hlast, Bool.or_false]
    rcases List.mem_append.mp hrow with hrow | hrow
    · exact ht.revoked row hrow
    · rw [List.mem_singleton.mp hrow]
      dsimp only
      rw [hlive, hid, hfresh]
      rfl

theorem TableOk.grow {next : Int} {tenants : List Int} (ht : TableOk tb h)
    (htenants : tb.tenants ⊆ tenants) (hnext : tb.nextId ≤ next) :
    TableOk ⟨tenants, next, tb.rows⟩ h := by
  have hquiet := @TableOk.quiet tb h [] next tenants ht htenants hnext rfl (fun _ => rfl)
  rwa [List.append_nil] at hquiet

theorem TableOk.refused {tables : ApiKeyTables} (ht : TableOk tb h) (hrefused : Refused tb tables) :
    TableOk tables h := by
  rcases hrefused with rfl | rfl
  · exact ht
  · exact ht.grow (List.Subset.refl _) (le_of_lt (Int.lt_succ _))

theorem live_iff {sg : Signing} {text : String} {key : ApiKeyRow} :
    liveApiKey sg now text key = true ↔
      key.keyHash = sg.sha256 text ∧ key.revokedAt = none ∧
        key.expiresAt.all (fun e => now < e) = true :=
  decide_eq_true_iff

/-- A row that is not revoked. -/
theorem TableOk.not_revoked (ht : TableOk tb h) (hrow : row ∈ tb.rows)
    (hlive : row.data.stored.key.revokedAt = none) : revokedIn h row.data.id = false := by
  rw [← ht.revoked row hrow, hlive]
  rfl

/-- A step that lets the open requests be, closes one, or opens one. -/
theorem ApiKeysInv.advance {tables : ApiKeyTables} {rotations : List Rotation}
    {lookups : List KeyLookup} {after : List ApiKeyFact} (hinv : ApiKeysInv s st)
    (hmore : st.history <+: after) (htable : TableOk tables after)
    (hfacts : Justified (ApiKeyFactOk s) after)
    (hrotations : ∀ r ∈ rotations, r ∈ st.rotations ∨ (.read r.keyId r.caller ∈ after ∧
      callerTenant s r.caller = .ok r.tenantId ∧ MadeFor after r.keyId r.tenantId))
    (hlookups : ∀ l ∈ lookups, l ∈ st.lookups ∨ .seen l.found l.text l.now ∈ after) :
    ApiKeysInv s ⟨tables, rotations, lookups, after⟩ := by
  rcases hmore with ⟨more, rfl⟩
  refine ⟨htable, ?_, ?_, hfacts⟩
  · intro r hr
    rcases hrotations r hr with hold | hnew
    · rcases hinv.rotations r hold with ⟨hread, hcaller, hmade⟩
      exact ⟨List.mem_append_left _ hread, hcaller, hmade.append _⟩
    · exact hnew
  · intro l hl
    rcases hlookups l hl with hold | hnew
    · exact List.mem_append_left _ (hinv.lookups l hold)
    · exact hnew

theorem ApiKeysInv.generate {name token : String} {tables : ApiKeyTables}
    (hinv : ApiKeysInv s st)
    (hdone : generateKey s st.tables caller name token = (.ok k, tables)) :
    ApiKeysInv s { st with
      tables := tables, history := st.history ++ [.granted k none caller] } := by
  rcases generateKey_ok hdone with ⟨hcaller, ⟨stored, hstores, hk⟩, rfl⟩
  have hid : k.id = st.tables.nextId := by
    rw [hk]
    rfl
  have hname : ∃ given, columnText 100 given = some k.name := by
    rw [hk]
    exact ⟨name, hstores.1⟩
  have hissued : k.issued = k := by
    rw [hk]
    rfl
  refine hinv.advance (List.prefix_append _ _) ?_ ?_ (fun _ => Or.inl) (fun _ => Or.inl)
  · exact hinv.table.insert hstores.2.1 hname hid hissued (hinv.table.unrevoked hinv.facts)
      hstores.2.2
  · exact justified_append_iff.mpr ⟨hinv.facts, hcaller⟩

theorem ApiKeysInv.revoke {done : Int × List SecuredKey} (hinv : ApiKeysInv s st)
    (hdone : revokeKey s st.tables caller keyId = .ok done) :
    ApiKeysInv s { st with
      tables := { st.tables with rows := done.2 }
      history := st.history ++
        if st.tables.rows.any (ownKey keyId done.1) then [.revoked keyId caller] else [] } := by
  rcases revokeKey_ok hinv.table.owned hdone with ⟨hcaller, hrows⟩
  rw [hrows]
  cases hany : st.tables.rows.any (ownKey keyId done.1) with
  | true =>
      have hmade := hinv.table.any_ownKey.mp hany
      refine hinv.advance (List.prefix_append _ _) (hinv.table.revoke hmade) ?_ (fun _ => Or.inl)
        (fun _ => Or.inl)
      exact justified_append_iff.mpr ⟨hinv.facts, done.1, hcaller, hmade⟩
  | false =>
      have hsame : revokeIn caller.now keyId done.1 st.tables.rows = st.tables.rows := by
        refine (List.map_congr_left ?_).trans (List.map_id _)
        intro row hrow
        rw [if_neg (List.any_eq_false.mp hany row hrow)]
        rfl
      rw [hsame, if_neg Bool.false_ne_true, List.append_nil]
      exact hinv

theorem ApiKeysInv.rotateRead {name : Option String} {token : String} {r : Rotation}
    (hinv : ApiKeysInv s st)
    (hdone : readRotation s st.tables caller keyId name token = .ok r) :
    ApiKeysInv s { st with
      rotations := st.rotations ++ [r], history := st.history ++ [.read keyId caller] } := by
  rcases readRotation_ok hdone with
    ⟨hcaller, rfl, rfl, -, row, hrow, hown, hlive, -⟩
  have hmade : MadeFor st.history r.keyId r.tenantId :=
    hinv.table.any_ownKey.mp (List.any_eq_true.mpr ⟨row, hrow, hown⟩)
  have hunrevoked : revokedIn st.history r.keyId = false := by
    rw [← (ownKey_iff.mp hown).1]
    exact hinv.table.not_revoked hrow hlive
  refine hinv.advance (List.prefix_append _ _) ?_ ?_ ?_ (fun _ => Or.inl)
  · exact hinv.table.quiet (List.Subset.refl _) (le_refl _) rfl (fun _ => rfl)
  · exact justified_append_iff.mpr ⟨hinv.facts, hunrevoked, r.tenantId, hcaller, hmade⟩
  · intro r' hr'
    rcases List.mem_append.mp hr' with hr' | hr'
    · exact Or.inl hr'
    · rw [List.mem_singleton.mp hr']
      exact Or.inr ⟨List.mem_append_right _ List.mem_cons_self, hcaller, hmade.append _⟩

theorem ApiKeysInv.rotateWrite {n : Nat} {r : Rotation} {tables : ApiKeyTables}
    (hinv : ApiKeysInv s st) (hr : st.rotations[n]? = some r)
    (hdone : writeRotation s st.tables r = (.ok k, tables)) :
    ApiKeysInv s { st with
      tables := tables
      rotations := st.rotations.eraseIdx n
      history := st.history ++
        [.revoked r.keyId r.caller, .granted k (some r.keyId) r.caller] } := by
  rcases hinv.rotations r (List.mem_of_getElem? hr) with ⟨hread, hcaller, hmade⟩
  rcases writeRotation_cases hinv.table.owned hcaller with
    ⟨k', stored, hstores, hk, heq⟩ | ⟨-, heq⟩
  · rw [hdone] at heq
    cases heq
    have htenant : k.stored.key.tenantId = r.tenantId := by
      rw [hk]
      rfl
    have hid : k.id = st.tables.nextId := by
      rw [hk]
      rfl
    have hissued : k.issued = k := by
      rw [hk]
      rfl
    have hrevoked : Justified (ApiKeyFactOk s) (st.history ++ [.revoked r.keyId r.caller]) :=
      justified_append_iff.mpr ⟨hinv.facts, r.tenantId, hcaller, hmade⟩
    have htable := @TableOk.revoke st.tables st.history r.caller r.keyId r.tenantId r.caller.now
      hinv.table hmade
    have hnew : ∀ row ∈ revokeIn r.caller.now r.keyId r.tenantId st.tables.rows,
        row.data.stored.key.keyHash ≠ k.stored.key.keyHash := by
      refine List.forall_mem_map.mpr ?_
      intro row hrow
      have hne := hstores.2.2 row hrow
      split <;> exact hne
    refine hinv.advance (List.prefix_append _ _) ?_ ?_ ?_ (fun _ => Or.inl)
    · have hinsert := @TableOk.insert _ _ r.caller k (some r.keyId) htable
        (by rw [htenant]; exact hstores.2.1) (by rw [hk]; exact ⟨r.name, hstores.1⟩) hid hissued
        (htable.unrevoked hrevoked) hnew
      rw [List.append_assoc, htenant] at hinsert
      exact hinsert
    · refine justified_append_two.mpr ⟨hinv.facts, ⟨r.tenantId, hcaller, hmade⟩, ?_⟩
      show callerTenant s r.caller = .ok k.stored.key.tenantId ∧ _
      rw [htenant]
      exact ⟨hcaller, hmade.append _, List.mem_append_left _ hread,
        List.mem_append_right _ List.mem_cons_self⟩
    · intro r' hr'
      exact Or.inl (List.mem_of_mem_eraseIdx hr')
  · rw [hdone] at heq
    cases heq

theorem ApiKeysInv.lookup {c : RequestContext} {text : String} {l : KeyLookup}
    (hinv : ApiKeysInv s st) (hdone : lookupKey s c text now st.tables.rows = .ok l) :
    ApiKeysInv s { st with
      lookups := st.lookups ++ [l], history := st.history ++ [.seen l.found text now] } := by
  rcases lookupKey_ok hdone with ⟨row, hrow, hlive, rfl⟩
  refine hinv.advance (List.prefix_append _ _) ?_ ?_ (fun _ => Or.inl) ?_
  · exact hinv.table.quiet (List.Subset.refl _) (le_refl _) rfl (fun _ => rfl)
  · refine justified_append_iff.mpr ⟨hinv.facts, hinv.table.issued_mem hrow, ?_, hlive⟩
    exact hinv.table.not_revoked hrow (live_iff.mp hlive).2.1
  · intro l hl
    rcases List.mem_append.mp hl with hl | hl
    · exact Or.inl hl
    · rw [List.mem_singleton.mp hl]
      exact Or.inr (List.mem_append_right _ List.mem_cons_self)

theorem ApiKeysInv.touch {n : Nat} {l : KeyLookup} {rows : List SecuredKey}
    (hinv : ApiKeysInv s st) (hl : st.lookups[n]? = some l)
    (hdone : touchKey s l st.tables.rows = some rows) :
    ApiKeysInv s { st with
      tables := { st.tables with rows := rows }
      lookups := st.lookups.eraseIdx n
      history := st.history ++ [.answered l.found.stored.key.tenantId l.text l.context] } := by
  have hseen := hinv.lookups l (List.mem_of_getElem? hl)
  rcases touchKey_eq_some hdone with ⟨rfl, htenants⟩
  have htenant : l.context.tenantId = some l.found.stored.key.tenantId.repr := by
    rcases hinv.facts.of_mem hseen with ⟨before, after, heq, hissued, -, hlive⟩
    have hmem : l.found.issued ∈ issuedKeys st.history := by
      rw [heq, issuedKeys_append]
      exact List.mem_append_left _ hissued
    rw [← hinv.table.issued] at hmem
    rcases List.mem_map.mp hmem with ⟨row, hrow, hsame⟩
    have hhash : row.data.issued.stored.key.keyHash = s.signing.sha256 l.text := by
      rw [hsame]
      exact (live_iff.mp hlive).1
    have hrowTenant : row.data.issued.stored.key.tenantId = l.found.stored.key.tenantId := by
      rw [hsame]
      rfl
    have hcontext := (hinv.table.owned row hrow).symm.trans (htenants row hrow hhash)
    have hne : row.data.stored.key.tenantId.repr ≠ "" := repr_ne_empty _
    cases hc : l.context.tenantId with
    | none =>
        rw [hc] at hcontext
        exact absurd (Option.some_inj.mp hcontext) hne
    | some tenant =>
        rw [hc] at hcontext
        rw [← hrowTenant]
        exact hcontext.symm
  refine hinv.advance (List.prefix_append _ _) ?_ ?_ (fun _ => Or.inl) ?_
  · refine hinv.table.of_map ?_ (List.Subset.refl _) (le_refl _) rfl ?_
    · intro row
      split <;> exact ⟨rfl, rfl⟩
    · intro row hrow
      have hkept : (if row.data.stored.key.keyHash = s.signing.sha256 l.text then
          touchRow l.now row else row).data.stored.key.revokedAt =
            row.data.stored.key.revokedAt := by
        split <;> rfl
      rw [hkept, revokedIn_append, hinv.table.revoked row hrow]
      exact (Bool.or_false _).symm
  · exact justified_append_iff.mpr
      ⟨hinv.facts, htenant, l.found, l.now, hseen, rfl⟩
  · intro l' hl'
    exact Or.inl (List.mem_of_mem_eraseIdx hl')

theorem apiKeysInv_start (tenants : List Int) : ApiKeysInv s (.start tenants) where
  table := {
    owned := fun _ hrow => absurd hrow List.not_mem_nil
    issued := rfl
    tenants := fun _ hk => absurd hk List.not_mem_nil
    named := fun _ hk => absurd hk List.not_mem_nil
    below := fun _ hk => absurd hk List.not_mem_nil
    ids := List.Pairwise.nil
    hashes := List.nodup_nil
    revoked := fun _ hrow => absurd hrow List.not_mem_nil }
  rotations := fun _ hr => absurd hr List.not_mem_nil
  lookups := fun _ hl => absurd hl List.not_mem_nil
  facts := justified_nil

theorem apiKeysInv_step (hinv : ApiKeysInv s st) (hstep : apiKeyStep s st action = some st') :
    ApiKeysInv s st' := by
  cases action with
  | register tenantId =>
      cases hstep
      exact hinv.advance List.prefix_rfl
        (hinv.table.grow (List.subset_cons_self _ _) (le_refl _)) hinv.facts
        (fun _ => Or.inl) (fun _ => Or.inl)
  | generate caller name token =>
      rw [apiKeyStep] at hstep
      split at hstep
      next k tables hdone =>
        cases hstep
        exact hinv.generate hdone
      next e tables hdone =>
        cases hstep
        exact hinv.advance List.prefix_rfl (hinv.table.refused (generateKey_error hdone)) hinv.facts
          (fun _ => Or.inl) (fun _ => Or.inl)
  | revoke caller keyId =>
      rw [apiKeyStep] at hstep
      split at hstep
      next tenantId rows hdone =>
        cases hstep
        exact hinv.revoke hdone
      next =>
        cases hstep
        exact hinv
  | rotateRead caller keyId name token =>
      rw [apiKeyStep] at hstep
      split at hstep
      next r hdone =>
        cases hstep
        exact hinv.rotateRead hdone
      next =>
        cases hstep
        exact hinv
  | rotateWrite n =>
      rw [apiKeyStep] at hstep
      split at hstep
      next => cases hstep
      next r hr =>
        split at hstep
        next k tables hdone =>
          cases hstep
          exact hinv.rotateWrite hr hdone
        next e tables hdone =>
          cases hstep
          have hcaller := (hinv.rotations r (List.mem_of_getElem? hr)).2.1
          refine hinv.advance List.prefix_rfl ?_ hinv.facts ?_ (fun _ => Or.inl)
          · rcases writeRotation_cases hinv.table.owned hcaller with ⟨k, -, -, -, heq⟩ | ⟨-, heq⟩
            · rw [hdone] at heq
              cases heq
            · rw [hdone] at heq
              cases heq
              exact hinv.table.grow (List.Subset.refl _) (le_of_lt (Int.lt_succ _))
          · intro r' hr'
            exact Or.inl (List.mem_of_mem_eraseIdx hr')
  | lookup c text now =>
      rw [apiKeyStep] at hstep
      split at hstep
      next l hdone =>
        cases hstep
        exact hinv.lookup hdone
      next =>
        cases hstep
        exact hinv
  | touch n =>
      rw [apiKeyStep] at hstep
      split at hstep
      next => cases hstep
      next l hl =>
        split at hstep
        next rows hdone =>
          cases hstep
          exact hinv.touch hl hdone
        next =>
          cases hstep
          refine hinv.advance List.prefix_rfl hinv.table hinv.facts (fun _ => Or.inl) ?_
          intro l' hl'
          exact Or.inl (List.mem_of_mem_eraseIdx hl')

/-- What the keys go back to holds throughout. -/
theorem apiKeysInv_of_run {tenants : List Int} {actions : List ApiKeyAction}
    (hrun : run (apiKeyStep s) (.start tenants) actions = some st) : ApiKeysInv s st :=
  invariant_of_run (fun _ _ _ hinv _ hstep => apiKeysInv_step hinv hstep)
    (apiKeysInv_start tenants) (respects_of_forall (fun _ _ => trivial) _ _) hrun

/-! ## Histories -/

/-- A key was made for a tenant, by a session of it. -/
def GrantedFor (s : ApiKeySetting) (tenantId : Int) : ApiKeyFact → Prop
  | .granted k _ caller =>
      k.stored.key.tenantId = tenantId ∧ callerTenant s caller = .ok tenantId
  | _ => False

/-- A key was made, and not by a rotation. -/
def Generated : ApiKeyFact → Prop
  | .granted _ source _ => source = none
  | _ => False

/-- The second key was made by a rotation of the first. -/
def RotatedFrom : ApiKeyFact → ApiKeyFact → Prop
  | .granted k _ _, .granted _ source _ => source = some k.id
  | _, _ => False

/-- What a key goes back to: keys that were made in order, each by a rotation of the one before and
all by sessions of the tenant. -/
structure Lineage (s : ApiKeySetting) (h : List ApiKeyFact) (k : ApiKeyRecord)
    (line : List ApiKeyFact) : Prop where
  recorded : line.Sublist h
  rotated : line.IsChain RotatedFrom
  granted : ∀ fact ∈ line, GrantedFor s k.stored.key.tenantId fact
  generated : ∀ fact ∈ line.head?, Generated fact
  last : ∃ source caller, line.getLast? = some (.granted k source caller)

theorem exists_granted (hk : k ∈ issuedKeys h) : ∃ source caller, .granted k source caller ∈ h := by
  rcases List.mem_filterMap.mp hk with ⟨fact, hfact, hmade⟩
  cases fact with
  | granted k' source caller =>
      cases hmade
      exact ⟨source, caller, hfact⟩
  | _ => cases hmade

theorem granted_caller (hfacts : Justified (ApiKeyFactOk s) h)
    (hgranted : .granted k source caller ∈ h) :
    callerTenant s caller = .ok k.stored.key.tenantId := by
  rcases hfacts.of_mem hgranted with ⟨before, after, -, hok⟩
  cases source with
  | none => exact hok
  | some source => exact hok.1

/-- Every key goes back to one that was generated. -/
theorem exists_lineage (hfacts : Justified (ApiKeyFactOk s) h) (hk : k ∈ issuedKeys h) :
    ∃ line, Lineage s h k line := by
  rcases exists_granted hk with ⟨source, caller, hgranted⟩
  have hback : ∀ before fact, ApiKeyFactOk s before fact →
      (∃ k' source caller, fact = .granted k' source caller ∧
        k'.stored.key.tenantId = k.stored.key.tenantId) →
      Generated fact ∨ ∃ earlier ∈ before, (∃ k' source caller, earlier =
        .granted k' source caller ∧ k'.stored.key.tenantId = k.stored.key.tenantId) ∧
          RotatedFrom earlier fact := by
    rintro before fact hok ⟨k', source, caller, rfl, htenant⟩
    cases source with
    | none => exact Or.inl rfl
    | some source =>
        rcases hok with ⟨-, ⟨k'', hk'', rfl, htenant'⟩, -, -⟩
        rcases exists_granted hk'' with ⟨source', caller', hgranted'⟩
        exact Or.inr ⟨_, hgranted', ⟨k'', source', caller', rfl, htenant'.trans htenant⟩, rfl⟩
  rcases hfacts.exists_chain hback hgranted ⟨k, source, caller, rfl, rfl⟩ with
    ⟨chain, hsub, hchain, hall, hfirst⟩
  refine ⟨_, hsub, hchain, ?_, hfirst, source, caller, List.getLast?_concat⟩
  intro fact hfact
  rcases hall fact hfact with ⟨k', source', caller', rfl, htenant⟩
  refine ⟨htenant, ?_⟩
  rw [granted_caller hfacts (hsub.subset hfact), htenant]

theorem revokedIn_iff : revokedIn h keyId = true ↔ ∃ caller, .revoked keyId caller ∈ h := by
  unfold revokedIn
  rw [List.any_eq_true]
  constructor
  · rintro ⟨fact, hfact, hrevokes⟩
    cases fact with
    | revoked id caller =>
        rw [← of_decide_eq_true hrevokes]
        exact ⟨caller, hfact⟩
    | _ => cases hrevokes
  · rintro ⟨caller, hrevoked⟩
    exact ⟨_, hrevoked, decide_eq_true rfl⟩

/-- A history is gone on with. -/
theorem history_of_step (hstep : apiKeyStep s st action = some st') :
    st.history <+: st'.history := by
  cases action with
  | register tenantId =>
      cases hstep
      exact List.prefix_rfl
  | generate caller name token =>
      rw [apiKeyStep] at hstep
      split at hstep <;> cases hstep
      · exact List.prefix_append _ _
      · exact List.prefix_rfl
  | revoke caller keyId =>
      rw [apiKeyStep] at hstep
      split at hstep <;> cases hstep
      · exact List.prefix_append _ _
      · exact List.prefix_rfl
  | rotateRead caller keyId name token =>
      rw [apiKeyStep] at hstep
      split at hstep <;> cases hstep
      · exact List.prefix_append _ _
      · exact List.prefix_rfl
  | rotateWrite n =>
      rw [apiKeyStep] at hstep
      split at hstep
      · cases hstep
      · split at hstep <;> cases hstep
        · exact List.prefix_append _ _
        · exact List.prefix_rfl
  | lookup c text now =>
      rw [apiKeyStep] at hstep
      split at hstep <;> cases hstep
      · exact List.prefix_append _ _
      · exact List.prefix_rfl
  | touch n =>
      rw [apiKeyStep] at hstep
      split at hstep
      · cases hstep
      · split at hstep <;> cases hstep
        · exact List.prefix_append _ _
        · exact List.prefix_rfl

theorem history_of_run {actions : List ApiKeyAction}
    (hrun : run (apiKeyStep s) st actions = some st') : st.history <+: st'.history :=
  @relation_of_run _ _ (apiKeyStep s) (fun _ _ => True) (fun _ => True)
    (fun a b => a.history <+: b.history) (fun _ => List.prefix_rfl)
    (fun _ _ _ => List.IsPrefix.trans) (fun _ _ _ _ _ _ => trivial)
    (fun _ _ _ _ _ hstep => history_of_step hstep) st st' actions trivial
    (respects_of_forall (fun _ _ => trivial) _ _) hrun

theorem apiKeysInv_of_more {actions : List ApiKeyAction} (hinv : ApiKeysInv s st)
    (hrun : run (apiKeyStep s) st actions = some st') : ApiKeysInv s st' :=
  invariant_of_run (fun _ _ _ hinv _ hstep => apiKeysInv_step hinv hstep) hinv
    (respects_of_forall (fun _ _ => trivial) _ _) hrun

/-! ## Revoked keys -/

/-- A revocation by the tenant of a key is recorded. -/
theorem revokedIn_revoke (hinv : ApiKeysInv s st) (hk : k ∈ issuedKeys st.history)
    (hcaller : callerTenant s caller = .ok k.stored.key.tenantId)
    (hstep : apiKeyStep s st (.revoke caller k.id) = some st') :
    revokedIn st'.history k.id = true := by
  have hany : st.tables.rows.any (ownKey k.id k.stored.key.tenantId) = true :=
    hinv.table.any_ownKey.mpr ⟨k, hk, rfl, rfl⟩
  rw [apiKeyStep, revokeKey_eq hinv.table.owned hcaller] at hstep
  dsimp only at hstep
  rw [hany] at hstep
  cases hstep
  exact revokedIn_iff.mpr ⟨caller, List.mem_append_right _ List.mem_cons_self⟩

theorem lookupKey_refused {c : RequestContext} {text : String} {rows : List SecuredKey}
    (hnone : ∀ row ∈ rows, liveApiKey s.signing now text row.data.stored.key = false) :
    lookupKey s c text now rows = .error (.http 401 "Invalid API Key.") := by
  cases hfound : lookupKey s c text now rows with
  | error e =>
      unfold lookupKey at hfound
      split at hfound <;> cases hfound
      rfl
  | ok l =>
      rcases lookupKey_ok hfound with ⟨row, hrow, hlive, -⟩
      rw [hnone row hrow] at hlive
      cases hlive

/-- No request finds a revoked key by its text. -/
theorem TableOk.lookupKey_revoked {text : String} (ht : TableOk tb h) (hk : k ∈ issuedKeys h)
    (hrevoked : revokedIn h k.id = true) (hhash : s.signing.sha256 text = k.stored.key.keyHash)
    (c : RequestContext) (now : Int) :
    lookupKey s c text now tb.rows = .error (.http 401 "Invalid API Key.") := by
  refine lookupKey_refused ?_
  intro row hrow
  by_contra hlive
  have hlive := live_iff.mp (Bool.eq_true_of_not_eq_false hlive)
  have hsame : row.data.issued = k :=
    ht.eq_of_hash (ht.issued_mem hrow) hk (hlive.1.trans hhash)
  have hid : row.data.id = k.id := by
    rw [← hsame]
    rfl
  rw [← hid, ht.not_revoked hrow hlive.2.1] at hrevoked
  cases hrevoked

/-- No rotation reads a revoked key. -/
theorem TableOk.readRotation_revoked {name : Option String} {token : String} (ht : TableOk tb h)
    (hrevoked : revokedIn h keyId = true) (hcaller : callerTenant s caller = .ok tenantId) :
    readRotation s tb caller keyId name token =
      .error (.http 404 "Active API key not found.") := by
  cases hread : readRotation s tb caller keyId name token with
  | error e =>
      unfold readRotation at hread
      rw [hcaller] at hread
      dsimp only at hread
      split at hread <;> cases hread
      rfl
  | ok r =>
      rcases readRotation_ok hread with ⟨-, -, -, -, row, hrow, hown, hlive, -⟩
      rw [← (ownKey_iff.mp hown).1, ht.not_revoked hrow hlive] at hrevoked
      cases hrevoked

end

/-- In every run, a request that is answered for the text of a key has found the key with the hash
of this text, for the tenant its context names: a key that had not expired and that nobody had
revoked, and that goes back to one that was generated over rotations, all by sessions of the
tenant. -/
theorem key_answered_traced {s : ApiKeySetting} {tenants : List Int} {actions : List ApiKeyAction}
    {st : ApiKeyService} {before after : List ApiKeyFact} {tenantId : Int} {text : String}
    {c : RequestContext} (hrun : run (apiKeyStep s) (.start tenants) actions = some st)
    (hanswered : st.history = before ++ .answered tenantId text c :: after) :
    c.tenantId = some tenantId.repr ∧
      ∃ (earlier later line : List ApiKeyFact) (k : ApiKeyRecord) (now : Int),
        before = earlier ++ .seen k text now :: later ∧
        k.stored.key.tenantId = tenantId ∧ k.stored.key.keyHash = s.signing.sha256 text ∧
        k.stored.key.expiresAt.all (fun e => now < e) = true ∧
        (∀ caller, .revoked k.id caller ∉ earlier) ∧ Lineage s earlier k.issued line := by
  have hinv := apiKeysInv_of_run hrun
  rcases hinv.facts before _ after hanswered with ⟨hcontext, k, now, hseen, htenant⟩
  refine ⟨hcontext, ?_⟩
  have hbefore : Justified (ApiKeyFactOk s) before := by
    have hfacts := hinv.facts
    rw [hanswered] at hfacts
    exact hfacts.of_append
  rcases hbefore.of_mem hseen with ⟨earlier, later, rfl, hissued, hunrevoked, hlive⟩
  rcases exists_lineage hbefore.of_append hissued with ⟨line, hline⟩
  rw [live_iff] at hlive
  refine ⟨earlier, later, line, k, now, rfl, htenant, hlive.1, hlive.2.2, ?_, hline⟩
  intro caller hmem
  rw [revokedIn_iff.mpr ⟨caller, hmem⟩] at hunrevoked
  cases hunrevoked

/-- The claims of a session. -/
def sessionClaims : List (String × Json) :=
  [("tenant_id", .int 7), ("exp", .int 2000000000)]

/-- `json.dumps` of these claims. -/
def sessionText : String :=
  "\x7b\"tenant_id\": 7, \"exp\": 2000000000\x7d"

/-- A setting that reads tokens of this session. -/
def sessionSetting : ApiKeySetting where
  py := asciiText
  signing := {
    dumps := fun _ => sessionText
    loads := fun bytes => if bytes = utf8 sessionText then some (.obj sessionClaims) else none
    hmac := fun _ => [1, 2, 3]
    sha256 := id
    intOf := fun value =>
      match value with
      | .int n => some n
      | _ => none
    production := true }
  ttlDays := 365

/-- A request of the session. -/
def sessionCaller : KeyCaller :=
  ⟨⟨none, some (createJwt sessionSetting.signing sessionClaims)⟩, none, 1000000⟩

/-- Where the actions lead. -/
def keyRun (actions : List ApiKeyAction) : ApiKeyService :=
  (run (apiKeyStep sessionSetting) (.start [7]) actions).getD (.start [7])

/-- A key that is made and used. -/
def useSteps : List ApiKeyAction :=
  [.generate sessionCaller "k" "a", .lookup ⟨some "7", none, true, false⟩ "ac_a" 2000000, .touch 0]

theorem key_answered_example : ∃ (earlier line : List ApiKeyFact) (k : ApiKeyRecord),
    k.stored.key.keyHash = sessionSetting.signing.sha256 "ac_a" ∧
      Lineage sessionSetting earlier k.issued line := by
  rcases @key_answered_traced sessionSetting [7] useSteps (keyRun useSteps)
    ((keyRun useSteps).history.take 2) [] 7 "ac_a" ⟨some "7", none, true, false⟩ rfl rfl with
    ⟨-, earlier, -, line, k, -, -, -, hhash, -, -, hline⟩
  exact ⟨earlier, line, k, hhash, hline⟩

/-- Once the tenant of a key has revoked it, no request finds it by its text any more and no
rotation reads it, whatever else happens. -/
theorem revoked_refused {s : ApiKeySetting} {tenants : List Int} {actions more : List ApiKeyAction}
    {st st' : ApiKeyService} {k : ApiKeyRecord} {caller : KeyCaller} {text : String}
    (hrun : run (apiKeyStep s) (.start tenants) actions = some st)
    (hk : k ∈ issuedKeys st.history)
    (hcaller : callerTenant s caller = .ok k.stored.key.tenantId)
    (hmore : run (apiKeyStep s) st (.revoke caller k.id :: more) = some st')
    (htext : s.signing.sha256 text = k.stored.key.keyHash) :
    (∀ c now, lookupKey s c text now st'.tables.rows =
        .error (.http 401 "Invalid API Key.")) ∧
      ∀ caller' tenantId name token, callerTenant s caller' = .ok tenantId →
        readRotation s st'.tables caller' k.id name token =
          .error (.http 404 "Active API key not found.") := by
  have hinv := apiKeysInv_of_run hrun
  have hinv' := apiKeysInv_of_more hinv hmore
  rcases run_cons_eq_some.mp hmore with ⟨st₁, hstep, hrest⟩
  rcases history_of_step hstep with ⟨first, hfirst⟩
  rcases history_of_run hrest with ⟨rest, hlast⟩
  have hissued : k ∈ issuedKeys st'.history := by
    rw [← hlast, ← hfirst, issuedKeys_append, issuedKeys_append]
    exact List.mem_append_left _ (List.mem_append_left _ hk)
  have hrevoked : revokedIn st'.history k.id = true := by
    rw [← hlast, revokedIn_append, revokedIn_revoke hinv hk hcaller hstep]
    rfl
  constructor
  · intro c now
    exact hinv'.table.lookupKey_revoked hissued hrevoked htext c now
  · intro caller' tenantId name token hcaller'
    exact hinv'.table.readRotation_revoked hrevoked hcaller'

theorem revoked_refused_example :
    lookupKey sessionSetting ⟨some "7", none, true, false⟩ "ac_a" 2000000
        (keyRun [.generate sessionCaller "k" "a", .revoke sessionCaller 1]).tables.rows =
      .error (.http 401 "Invalid API Key.") :=
  (@revoked_refused sessionSetting [7] [.generate sessionCaller "k" "a"] []
    (keyRun [.generate sessionCaller "k" "a"])
    (keyRun [.generate sessionCaller "k" "a", .revoke sessionCaller 1])
    (issuedKey sessionSetting 1000000 1 7 "k" "ac_a") sessionCaller "ac_a" rfl List.mem_cons_self
    rfl rfl rfl).1 _ _

/-! ## Successors -/

/-- A rotation read a key. -/
def ApiKeyFact.reads (keyId : Int) : ApiKeyFact → Bool
  | .read id _ => id = keyId
  | _ => false

/-- A rotation of a key made another. -/
def ApiKeyFact.succeeds (keyId : Int) : ApiKeyFact → Bool
  | .granted _ (some source) _ => source = keyId
  | _ => false

/-- The rotations that read a key before it was first revoked. -/
def readsBefore (keyId : Int) (h : List ApiKeyFact) : Nat :=
  (h.takeWhile (fun fact => !fact.revokes keyId)).countP (ApiKeyFact.reads keyId)

/-- The rotations of a key that are not yet written. -/
def openRotations (keyId : Int) (rotations : List Rotation) : Nat :=
  rotations.countP (fun r => r.keyId = keyId)

section

variable {s : ApiKeySetting} {h : List ApiKeyFact} {keyId : Int} {st st' : ApiKeyService}
  {action : ApiKeyAction} {r : Rotation} {n : Nat}

theorem openRotations_eraseIdx {rotations : List Rotation} (hr : rotations[n]? = some r) :
    openRotations keyId (rotations.eraseIdx n) + (if r.keyId = keyId then 1 else 0) =
      openRotations keyId rotations := by
  rcases List.getElem?_eq_some_iff.mp hr with ⟨hn, rfl⟩
  unfold openRotations
  rw [← List.Perm.countP_eq _ (List.getElem_cons_eraseIdx_perm hn), List.countP_cons]
  simp only [decide_eq_true_eq]

/-- Each rotation that is written has read its key. -/
theorem successors_step (hstep : apiKeyStep s st action = some st')
    (hle : st.history.countP (ApiKeyFact.succeeds keyId) + openRotations keyId st.rotations ≤
      st.history.countP (ApiKeyFact.reads keyId)) :
    st'.history.countP (ApiKeyFact.succeeds keyId) + openRotations keyId st'.rotations ≤
      st'.history.countP (ApiKeyFact.reads keyId) := by
  cases action with
  | register tenantId =>
      cases hstep
      exact hle
  | generate caller name token =>
      rw [apiKeyStep] at hstep
      split at hstep <;> cases hstep
      · rw [List.countP_append, List.countP_append]
        exact hle
      · exact hle
  | revoke caller keyId =>
      rw [apiKeyStep] at hstep
      split at hstep <;> cases hstep
      · dsimp only
        rw [List.countP_append, List.countP_append]
        split <;> exact hle
      · exact hle
  | rotateRead caller keyId' name token =>
      rw [apiKeyStep] at hstep
      split at hstep <;> cases hstep
      next r hread =>
        have hkey := (readRotation_ok hread).2.2.1
        dsimp only
        unfold openRotations at hle ⊢
        rw [List.countP_append, List.countP_append, List.countP_append]
        simp only [List.countP_singleton, ApiKeyFact.reads, ApiKeyFact.succeeds, hkey,
          decide_eq_true_eq, Bool.false_eq_true, if_false]
        by_cases hsame : keyId' = keyId
        · simp only [if_pos hsame]
          omega
        · simp only [if_neg hsame]
          omega
      · exact hle
  | rotateWrite n =>
      rw [apiKeyStep] at hstep
      split at hstep
      next => cases hstep
      next r hr =>
        have hrest := @openRotations_eraseIdx keyId r n _ hr
        split at hstep <;> cases hstep
        · dsimp only
          rw [List.countP_append, List.countP_append]
          simp only [List.countP_cons, List.countP_nil, ApiKeyFact.reads, ApiKeyFact.succeeds,
            decide_eq_true_eq, Bool.false_eq_true, if_false]
          by_cases hkey : r.keyId = keyId
          · rw [if_pos hkey] at hrest
            rw [if_pos hkey]
            omega
          · rw [if_neg hkey] at hrest
            rw [if_neg hkey]
            omega
        · dsimp only
          omega
  | lookup c text now =>
      rw [apiKeyStep] at hstep
      split at hstep <;> cases hstep
      · rw [List.countP_append, List.countP_append]
        exact hle
      · exact hle
  | touch n =>
      rw [apiKeyStep] at hstep
      split at hstep
      · cases hstep
      · split at hstep <;> cases hstep
        · rw [List.countP_append, List.countP_append]
          exact hle
        · exact hle

/-- No key is read after it was revoked. -/
theorem countP_reads (hfacts : Justified (ApiKeyFactOk s) h) :
    h.countP (ApiKeyFact.reads keyId) = readsBefore keyId h := by
  have hsplit := @List.takeWhile_append_dropWhile _ (fun fact => !ApiKeyFact.revokes keyId fact) h
  have hrest : (h.dropWhile (fun fact => !fact.revokes keyId)).countP
      (ApiKeyFact.reads keyId) = 0 := by
    refine List.countP_eq_zero.mpr ?_
    intro fact hfact hreads
    cases hdrop : h.dropWhile (fun fact => !fact.revokes keyId) with
    | nil =>
        rw [hdrop] at hfact
        cases hfact
    | cons first rest =>
        have hrevokes : first.revokes keyId = true := by
          have hhead := List.head?_dropWhile_not (fun fact => !ApiKeyFact.revokes keyId fact) h
          rw [hdrop] at hhead
          simpa using hhead
        rw [hdrop] at hfact hsplit
        rcases List.mem_cons.mp hfact with rfl | hmem
        · cases fact <;> first | cases hrevokes | cases hreads
        · rcases List.append_of_mem hmem with ⟨middle, after, rfl⟩
          cases fact with
          | read id caller =>
              rw [of_decide_eq_true hreads, ← List.cons_append, ← List.append_assoc] at hsplit
              have hunrevoked := (hfacts _ _ _ hsplit.symm).1
              rw [revokedIn_append] at hunrevoked
              have hfirst : revokedIn (first :: middle) keyId = true :=
                List.any_eq_true.mpr ⟨first, List.mem_cons_self, hrevokes⟩
              rw [hfirst, Bool.or_true] at hunrevoked
              cases hunrevoked
          | _ => cases hreads
  unfold readsBefore
  calc
    h.countP (ApiKeyFact.reads keyId) = (h.takeWhile (fun fact => !fact.revokes keyId) ++
        h.dropWhile (fun fact => !fact.revokes keyId)).countP (ApiKeyFact.reads keyId) := by
      rw [hsplit]
    _ = _ := by rw [List.countP_append, hrest, Nat.add_zero]

end

/-- In every run, rotations make of a key at most as many keys as there are rotations that read it
before it was first revoked. -/
theorem successors_le {s : ApiKeySetting} {tenants : List Int} {actions : List ApiKeyAction}
    {st : ApiKeyService} (hrun : run (apiKeyStep s) (.start tenants) actions = some st)
    (keyId : Int) :
    st.history.countP (ApiKeyFact.succeeds keyId) + openRotations keyId st.rotations ≤
      readsBefore keyId st.history := by
  rw [← countP_reads (apiKeysInv_of_run hrun).facts]
  refine invariant_of_run (fun _ _ _ hle _ hstep => successors_step hstep hle) ?_
    (respects_of_forall (fun _ _ => trivial) _ _) hrun
  exact le_refl _

/-- Two rotations that read their key before one of them is written. -/
def forkSteps : List ApiKeyAction :=
  [.generate sessionCaller "k" "a", .rotateRead sessionCaller 1 none "b",
    .rotateRead sessionCaller 1 none "c", .rotateWrite 0, .rotateWrite 0]

/-- Both make a key. -/
theorem successors_le_example : 2 ≤ readsBefore 1 (keyRun forkSteps).history :=
  @successors_le sessionSetting [7] forkSteps (keyRun forkSteps) rfl 1

/-! ## Names -/

/-- What fits into a column has no zero byte. -/
theorem columnText_nul {limit : Nat} {text out : String} (hout : columnText limit text = some out) :
    out.toList.contains (Char.ofNat 0) = false := by
  unfold columnText at hout
  split_ifs at hout with hnul
  · cases hout
    exact Bool.eq_false_of_not_eq_true hnul
  · cases hout
    rw [String.toList_ofList]
    refine Bool.eq_false_of_not_eq_true (fun hmem => hnul ?_)
    rw [List.contains_iff_mem] at hmem ⊢
    exact List.mem_of_mem_take hmem

/-- A name gets one more suffix while it has at most 90 characters. -/
theorem columnText_rotated {given name : String} (hname : columnText 100 given = some name) :
    columnText 100 (name ++ " (rotated)") =
      if name.length ≤ 90 then some (name ++ " (rotated)") else none := by
  have hlength : (name ++ " (rotated)").length = name.length + 10 := by
    rw [String.length_append]
    rfl
  have hnul : ((name ++ " (rotated)").toList.contains (Char.ofNat 0)) = false := by
    rw [String.toList_append, List.contains_append, columnText_nul hname]
    rfl
  unfold columnText
  rw [hnul, hlength, if_neg Bool.false_ne_true]
  by_cases hle : name.length ≤ 90
  · rw [if_pos hle, if_pos (by omega)]
  · rw [if_neg hle, if_neg (by omega), if_neg]
    intro hblank
    have hlast : ')' ∈ (name ++ " (rotated)").toList.drop 100 := by
      have hsplit : (name ++ " (rotated)").toList = (name ++ " (rotated").toList ++ [')'] := by
        rw [String.toList_append, String.toList_append, List.append_assoc]
        rfl
      have hlong : 100 ≤ (name ++ " (rotated").toList.length := by
        have hinit : (name ++ " (rotated").length = name.length + 9 := by
          rw [String.length_append]
          rfl
        rw [String.length_toList, hinit]
        omega
      rw [hsplit, List.drop_append_of_le_length hlong]
      exact List.mem_append_right _ List.mem_cons_self
    have heq := of_decide_eq_true (List.all_eq_true.mp hblank _ hlast)
    exact absurd heq (by decide)

/-- A rotation that was asked for without a name goes through exactly when the name of its key has
at most 90 characters and the new hash is not there yet; where it does not, it leaves the key as
it is. -/
theorem unnamed_rotation {s : ApiKeySetting} {tenants : List Int} {actions more : List ApiKeyAction}
    {st st' : ApiKeyService} {caller : KeyCaller} {keyId : Int} {name : Option String}
    {token : String} {r : Rotation}
    (hrun : run (apiKeyStep s) (.start tenants) actions = some st) (hname : present name = none)
    (hread : readRotation s st.tables caller keyId name token = .ok r)
    (hmore : run (apiKeyStep s) st (.rotateRead caller keyId name token :: more) = some st')
    (hopen : r ∈ st'.rotations) :
    ∃ k ∈ issuedKeys st.history, k.id = keyId ∧
      ((k.name.length ≤ 90 ∧
          (∀ row ∈ st'.tables.rows,
            row.data.stored.key.keyHash ≠ s.signing.sha256 (rawKey token)) ∧
          ∃ k' tables, writeRotation s st'.tables r = (.ok k', tables) ∧
            k'.name = k.name ++ " (rotated)") ∨
        (¬(k.name.length ≤ 90 ∧ ∀ row ∈ st'.tables.rows,
            row.data.stored.key.keyHash ≠ s.signing.sha256 (rawKey token)) ∧
          writeRotation s st'.tables r =
            (.error .database, { st'.tables with nextId := st'.tables.nextId + 1 }))) := by
  have hinv := apiKeysInv_of_run hrun
  have hinv' := apiKeysInv_of_more hinv hmore
  rcases readRotation_ok hread with ⟨-, -, -, htoken, row, hrow, hown, -, hrname⟩
  have hissued := hinv.table.issued_mem hrow
  rcases hinv.table.named _ hissued with ⟨given, hgiven⟩
  have hstored : columnText 100 r.name =
      if row.data.name.length ≤ 90 then some (row.data.name ++ " (rotated)") else none := by
    rw [hrname, hname]
    exact columnText_rotated hgiven
  rcases hinv'.rotations r hopen with ⟨-, hcaller, kept, hkept, -, hkeptTenant⟩
  have htenant : r.tenantId ∈ st'.tables.tenants := by
    rw [← hkeptTenant]
    exact hinv'.table.tenants kept hkept
  refine ⟨row.data.issued, hissued, (ownKey_iff.mp hown).1, ?_⟩
  show (row.data.name.length ≤ 90 ∧ _) ∨ (¬(row.data.name.length ≤ 90 ∧ _) ∧ _)
  rcases writeRotation_cases hinv'.table.owned hcaller with
    ⟨k, stored, hstores, hk, hwrite⟩ | ⟨hnot, hwrite⟩
  · left
    have hfits : row.data.name.length ≤ 90 := by
      by_contra hlong
      rw [if_neg hlong] at hstored
      exact absurd (hstored.symm.trans hstores.1) (Option.some_ne_none _).symm
    have hnew := hstores.2.2
    rw [hk] at hnew
    rw [if_pos hfits] at hstored
    refine ⟨hfits, ?_, k, _, hwrite, ?_⟩
    · rw [← htoken]
      exact hnew
    · have hsame : row.data.name ++ " (rotated)" = stored :=
        Option.some_inj.mp (hstored.symm.trans hstores.1)
      rw [hk]
      exact hsame.symm
  · right
    refine ⟨?_, hwrite⟩
    rintro ⟨hfits, hnew⟩
    rw [if_pos hfits] at hstored
    rw [← htoken] at hnew
    exact hnot _ _ rfl ⟨hstored, htenant, hnew⟩

theorem unnamed_rotation_example :
    ∃ k ∈ issuedKeys (keyRun [.generate sessionCaller "k" "a"]).history, k.id = 1 := by
  rcases @unnamed_rotation sessionSetting [7] [.generate sessionCaller "k" "a"] []
    (keyRun [.generate sessionCaller "k" "a"])
    (keyRun [.generate sessionCaller "k" "a", .rotateRead sessionCaller 1 none "b"])
    sessionCaller 1 none "b" ⟨sessionCaller, 7, 1, "k (rotated)", "b"⟩ rfl rfl rfl rfl
    List.mem_cons_self with ⟨k, hk, hid, -⟩
  exact ⟨k, hk, hid⟩

/-! ## The list -/

/-- What the list says of a key but its times of use and revocation. -/
def ListedKey.shown (e : ListedKey) : Int × String × String × Option Int × String :=
  (e.id, e.name, e.keyPrefix, e.expiresAt, e.status)

/-- What it says of a key that was made, after what happened. -/
def shownAfter (h : List ApiKeyFact) (k : ApiKeyRecord) :
    Int × String × String × Option Int × String :=
  (k.id, k.name, k.keyPrefix, k.stored.key.expiresAt,
    if revokedIn h k.id then "revoked" else "active")

/-- The latest key comes first. -/
theorem mergeSort_increasing {found : List ApiKeyRecord}
    (hids : found.Pairwise (fun a b => a.id < b.id)) :
    found.mergeSort (fun a b => b.id ≤ a.id) = found.reverse := by
  have hsorted := @List.pairwise_mergeSort _ (fun a b : ApiKeyRecord => decide (b.id ≤ a.id))
    (by
      intro a b c hab hbc
      exact decide_eq_true (le_trans (of_decide_eq_true hbc) (of_decide_eq_true hab)))
    (by
      intro a b
      rcases le_total a.id b.id with hle | hle
      · rw [decide_eq_true hle, Bool.or_true]
      · rw [decide_eq_true hle, Bool.true_or])
    found
  have hperm : (found.mergeSort (fun a b => b.id ≤ a.id)).Perm found.reverse :=
    (List.mergeSort_perm _ _).trans (List.reverse_perm _).symm
  have hnodup : (found.map ApiKeyRecord.id).Nodup :=
    List.pairwise_map.mpr (hids.imp ne_of_lt)
  refine hperm.eq_of_pairwise ?_ hsorted ?_
  · intro a b ha hb hab hba
    have hid : a.id = b.id := le_antisymm (of_decide_eq_true hba) (of_decide_eq_true hab)
    exact List.inj_on_of_nodup_map hnodup ((List.mergeSort_perm _ _).subset ha)
      (List.mem_reverse.mp hb) hid
  · refine List.pairwise_reverse.mpr (hids.imp ?_)
    intro a b hlt
    exact decide_eq_true (le_of_lt hlt)

/-- The list of a tenant is the keys that were made for it, the latest first, and calls those
revoked that were; that a key has expired it does not say. -/
theorem listKeys_eq {s : ApiKeySetting} {tenants : List Int} {actions : List ApiKeyAction}
    {st : ApiKeyService} {caller : KeyCaller} {tenantId : Int}
    (hrun : run (apiKeyStep s) (.start tenants) actions = some st)
    (hcaller : callerTenant s caller = .ok tenantId) :
    ∃ entries, listKeys s st.tables caller = .ok entries ∧
      entries.map ListedKey.shown =
        ((issuedKeys st.history).filter (fun k => k.stored.key.tenantId = tenantId)).reverse.map
          (shownAfter st.history) := by
  have hinv := apiKeysInv_of_run hrun
  let found := st.tables.rows.filter (fun row => row.data.stored.key.tenantId = tenantId)
  have hselect : perform (tenantIsolation .tenantApiKeys)
      (callerValues s st.tables caller "/keys/list") st.tables.rows
      (.select (fun row => row.data.stored.key.tenantId = tenantId)) =
        some (found, st.tables.rows) := by
    refine perform_select_shown ?_
    intro row hrow hown
    refine shows_caller hcaller (isPublicOrAuthPath_keys "list") ?_
    rw [hinv.table.owned row hrow, of_decide_eq_true hown]
  have hissued : found.map (fun row => row.data.issued) =
      (issuedKeys st.history).filter (fun k => k.stored.key.tenantId = tenantId) := by
    rw [← hinv.table.issued, List.filter_map]
    rfl
  have hids : (found.map SecuredRow.data).Pairwise (fun a b => a.id < b.id) := by
    have hpairs := hinv.table.ids.filter (fun k => k.stored.key.tenantId = tenantId)
    rw [← hissued, List.pairwise_map] at hpairs
    exact List.pairwise_map.mpr hpairs
  refine ⟨((found.map SecuredRow.data).mergeSort (fun a b => b.id ≤ a.id)).map
    ApiKeyRecord.entry, ?_, ?_⟩
  · unfold listKeys
    rw [hcaller]
    dsimp only
    rw [hselect]
  · rw [mergeSort_increasing hids, ← hissued, ← List.map_reverse, ← List.map_reverse, List.map_map,
      List.map_map, List.map_map]
    refine List.map_congr_left ?_
    intro row hrow
    have hmem := (List.mem_filter.mp (List.mem_reverse.mp hrow)).1
    have hrevoked := hinv.table.revoked row hmem
    show (_, _, _, _, if row.data.stored.key.revokedAt.isSome then _ else _) =
      (_, _, _, _, if revokedIn st.history row.data.id then _ else _)
    rw [hrevoked]
    rfl

theorem listKeys_example : ∃ entries,
    listKeys sessionSetting (keyRun forkSteps).tables sessionCaller = .ok entries ∧
      entries.map ListedKey.shown =
        [(3, "k (rotated)", "ac_c", some 31536001000000, "active"),
          (2, "k (rotated)", "ac_b", some 31536001000000, "active"),
          (1, "k", "ac_a", some 31536001000000, "revoked")] :=
  @listKeys_eq sessionSetting [7] forkSteps (keyRun forkSteps) sessionCaller 7 rfl rfl

end AuthClaw.Tenants
