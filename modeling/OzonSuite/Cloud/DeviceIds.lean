/-
# The identifiers of devices

The identifier of a device is derived from its user and a fingerprint, and stays what it was when
the device is activated again.  As the table holds only the hash of the fingerprint, the invariant
says which fingerprint that was: one that the user has sent before.
-/
import OzonSuite.Cloud.Leases

namespace OzonSuite

open Lib

variable {x : Crates} {draw : Draw} {db db' : Db} {u : Unit}

/-! ## Statements -/

/-- What a device keeps for ever. -/
def Device.key (d : Device) : DeviceId × UserId × String := (d.id, d.userId, d.fingerprintHash)

/-- The devices, each with its user and its fingerprint. -/
def Db.deviceKeys (db : Db) : List (DeviceId × UserId × String) := db.devices.rows.map Device.key

lemma deviceKeys_update {p : Device → Bool} {f : Device → Device} {t : Table devicesSchema}
    (ht : (db.devices).update p f = some t) (hf : ∀ d, (f d).key = d.key) :
    ({ db with devices := t } : Db).deviceKeys = db.deviceKeys := by
  rw [Db.deviceKeys, Db.deviceKeys, Table.rows_of_update ht, updateWhere, List.map_map]
  refine List.map_congr_left fun d _ => ?_
  rw [Function.comp]
  split
  · exact hf d
  · rfl

lemma touchDeviceLastSeen_keys {id : DeviceId} {now : Time}
    (h : touchDeviceLastSeen id now db = .ok (u, db')) : db'.deviceKeys = db.deviceKeys := by
  simp only [touchDeviceLastSeen, Tx.bind_eq_ok, updateRows_eq_ok, Tx.pure_eq_ok] at h
  obtain ⟨rows, _, ⟨t, ht, -, rfl⟩, -, rfl⟩ := h
  exact deviceKeys_update ht fun _ => rfl

/-- What an upsert does to the identifiers: the device that it answers has the identifier it had,
or is new and has that of the request. -/
structure Db.KeysUpserted (device stored : Device) (db db' : Db) : Prop where
  stored_user : stored.userId = device.userId
  stored_fingerprint : stored.fingerprintHash = device.fingerprintHash
  stored_mem : stored.key ∈ db'.deviceKeys
  keys : ∀ k ∈ db'.deviceKeys, k ∈ db.deviceKeys ∨ k = device.key

lemma upsertDevice_keys {device stored : Device}
    (h : upsertDevice device db = .ok (stored, db')) : db.KeysUpserted device stored db' := by
  simp only [upsertDevice, Tx.bind_eq_ok, Tx.get_eq_ok] at h
  obtain ⟨_, _, ⟨rfl, rfl⟩, h⟩ := h
  by_cases hany : (db.devices.rows.any fun d => d.userId == device.userId &&
      d.fingerprintHash == device.fingerprintHash) = true
  · rw [if_pos hany] at h
    simp only [Tx.bind_eq_ok, updateRows_eq_ok] at h
    obtain ⟨rows, _, ⟨t, ht, rfl, rfl⟩, h⟩ := h
    generalize hfirst : List.head? _ = first at h
    cases first with
    | none => exact absurd h Tx.throw_ne_ok
    | some d' =>
      obtain ⟨rfl, rfl⟩ := Tx.pure_eq_ok.mp h
      obtain ⟨d, hd, hsame, rfl⟩ := head?_map_filter_eq_some hfirst
      -- an update leaves the identifier of the row as it was
      have hkeys := deviceKeys_update ht fun _ => rfl
      have hid : d.userId = device.userId ∧ d.fingerprintHash = device.fingerprintHash := by
        simpa using hsame
      refine ⟨hid.1, hid.2, ?_, fun k hk => .inl (hkeys ▸ hk)⟩
      rw [hkeys]
      exact List.mem_map.mpr ⟨d, hd, rfl⟩
  · rw [if_neg hany] at h
    simp only [Tx.bind_eq_ok, insertRow_eq_ok, Tx.pure_eq_ok] at h
    obtain ⟨_, _, ⟨t, ht, -, rfl⟩, rfl, rfl⟩ := h
    -- a new row has the identifier of the device
    have hkeys : ({ db with devices := t } : Db).deviceKeys = db.deviceKeys ++ [device.key] := by
      simp only [Db.deviceKeys, Table.rows_of_insert ht, List.map_append, List.map_singleton]
    refine ⟨rfl, rfl, ?_, fun k hk => ?_⟩
    · rw [hkeys]
      exact List.mem_append_right _ (List.mem_singleton_self _)
    · rw [hkeys] at hk
      exact (List.mem_append.mp hk).imp_right List.mem_singleton.mp

/-! ## Activations and leases -/

/-- The next statement of an activation, as far as identifiers are concerned. -/
lemma Activation.next_keys {a : Activation} {r : Activation ⊕ Device}
    (h : a.next x draw db = .ok (r, db')) :
    (∃ phase, r = .inl { a with phase := phase } ∧ db' = db) ∨
      ∃ stored, r = .inr stored ∧ db.KeysUpserted (a.device x) stored db' := by
  cases hphase : a.phase with
  | admitted maxDevices existing =>
    simp only [Activation.next, hphase, Activation.store, Tx.bind_eq_ok, Tx.pure_eq_ok] at h
    obtain ⟨stored, _, ⟨_, _, hupsert, _, _, haudit, rfl, rfl⟩, rfl, rfl⟩ := h
    obtain ⟨t, rfl⟩ := insertAudit_ok haudit
    have hkeys := upsertDevice_keys hupsert
    exact .inr ⟨_, rfl, hkeys.stored_user, hkeys.stored_fingerprint, hkeys.stored_mem, hkeys.keys⟩
  | _ =>
    left
    have hnext := Activation.next_ok h
    cases hnext with
    | store hphase' => simp [hphase] at hphase'
    | _ => exact ⟨_, rfl, rfl⟩

/-- The next statement of a lease in the making: the device that it has found is the one that was
asked for. -/
lemma Issuance.next_keys {sign : EntitlementLease → Except ApiError EntitlementLease}
    {i i' : Issuance} (h : i.next sign draw db = .ok (.inl i', db')) :
    i'.deviceId = i.deviceId ∧
      ∀ d, i'.phase.device = some d → i.phase.device = some d ∨ d.id = i.deviceId := by
  cases hphase : i.phase with
  | started =>
    simp only [Issuance.next, hphase, findActiveDevice, Tx.bind_eq_ok, fetchOptional_eq_ok] at h
    obtain ⟨found, _, ⟨hfound, rfl⟩, h⟩ := h
    cases found with
    | none => exact absurd h Tx.throw_ne_ok
    | some device =>
      obtain ⟨heq, rfl⟩ := Tx.pure_eq_ok.mp h
      obtain rfl := Sum.inl.inj heq
      refine ⟨rfl, fun d hd => .inr ?_⟩
      obtain rfl := Option.some.inj hd
      have hrow := List.find?_some hfound.symm
      simp only [Bool.and_eq_true, beq_iff_eq] at hrow
      exact hrow.1.1
  | _ =>
    have hnext := Issuance.next_ok h
    cases hnext with
    | find hstarted => simp [hphase] at hstarted
    | select hfound => exact ⟨rfl, fun d hd => .inl (by rw [← hphase, hfound]; exact hd)⟩
    | limit hfound => exact ⟨rfl, fun d hd => .inl (by rw [← hphase, hfound]; exact hd)⟩
    | count hfound => exact ⟨rfl, fun d hd => .inl (by rw [← hphase, hfound]; exact hd)⟩
    | touch hfound => exact ⟨rfl, fun d hd => .inl (by rw [← hphase, hfound]; exact hd)⟩

/-- What a statement of a lease in the making leaves of the identifiers. -/
lemma Issuance.next_deviceKeys {sign : EntitlementLease → Except ApiError EntitlementLease}
    {i : Issuance} {r : Issuance ⊕ EntitlementLease} (h : i.next sign draw db = .ok (r, db')) :
    db'.deviceKeys = db.deviceKeys := by
  cases hphase : i.phase with
  | checked device e maxDevices n =>
    simp only [Issuance.next, hphase, Tx.bind_eq_ok, Tx.pure_eq_ok] at h
    obtain ⟨_, _, htouch, rfl, rfl⟩ := h
    exact touchDeviceLastSeen_keys htouch
  | _ =>
    have hnext := Issuance.next_ok h
    cases hnext with
    | touch hchecked => simp [hphase] at hchecked
    | _ => rfl

/-! ## Steps of the service -/

section Steps

variable {s : Cloud} {l : CloudLabel}

/-- An activation under way was so before, or is the one that is asked for. -/
lemma activations_step {i : ℕ} {a : Activation}
    (h : slot (s.step x l).2.activations i = some a) :
    (∃ b, slot s.activations i = some b ∧ b.claims = a.claims ∧ b.input = a.input) ∨
      l.request = .activateDevice a.claims a.input := by
  have hset : ∀ {j : ℕ} {v : Option Activation}, slot (s.activations.set j v) i = some a →
      (∀ b, v = some b → ∃ c, slot s.activations j = some c ∧ c.claims = b.claims ∧
        c.input = b.input) →
      ∃ b, slot s.activations i = some b ∧ b.claims = a.claims ∧ b.input = a.input := by
    intro j v hslot hv
    rcases slot_set hslot with ⟨rfl, hnew⟩ | ⟨-, hold⟩
    · exact hv a hnew
    · exact ⟨a, hold, rfl, rfl⟩
  have hremoved : ∀ {j : ℕ}, slot (s.activations.set j none) i = some a →
      ∃ b, slot s.activations i = some b ∧ b.claims = a.claims ∧ b.input = a.input :=
    fun hslot => hset hslot fun b hb => (Option.some_ne_none b hb.symm).elim
  cases hconn : l.connected with
  | false =>
    -- a lost connection can only empty the slot of its request
    simp only [Cloud.step, hconn, Bool.not_false, if_true] at h
    cases hr : l.request with
    | activation j =>
      rw [hr] at h
      exact .inl (hremoved h)
    | _ =>
      rw [hr] at h
      exact .inl ⟨a, h, rfl, rfl⟩
  | true =>
    simp only [Cloud.step, hconn, Bool.not_true, Bool.false_eq_true, if_false] at h
    cases hr : l.request with
    | createOrder claims plan =>
      rw [hr] at h
      simp only [Cloud.stepCreateOrder] at h
      split at h <;> exact .inl ⟨a, h, rfl, rfl⟩
    | checkoutSession j session =>
      rw [hr] at h
      simp only [Cloud.stepCheckoutSession] at h
      split at h
      · exact .inl ⟨a, h, rfl, rfl⟩
      · split at h <;> exact .inl ⟨a, h, rfl, rfl⟩
    | activateDevice claims input =>
      rw [hr] at h
      simp only [Cloud.stepActivateDevice] at h
      split at h
      · exact .inl ⟨a, h, rfl, rfl⟩
      · next b db hb =>
        -- the slot that is added is that of the request itself
        rcases slot_append h with ⟨-, hnew⟩ | hold
        · obtain rfl := Option.some.inj hnew
          right
          simp only [activateDevice] at hb
          split at hb
          · cases hb
          · split at hb
            · cases hb
            · split at hb
              · cases hb
              · cases hb
                rfl
        · exact .inl ⟨a, hold, rfl, rfl⟩
    | activation j =>
      rw [hr] at h
      simp only [Cloud.stepActivation] at h
      split at h
      · exact .inl ⟨a, h, rfl, rfl⟩
      · next b hb =>
        cases hnext : b.next x l.draw s.db with
        | error e =>
          simp only [atomically, hnext] at h
          exact .inl (hremoved h)
        | ok p =>
          obtain ⟨r, db⟩ := p
          -- a statement goes on with the same request, or ends it
          rcases Activation.next_keys hnext with ⟨phase, rfl, -⟩ | ⟨stored, rfl, -⟩
          · simp only [atomically, hnext] at h
            refine .inl (hset h fun c hc => ?_)
            obtain rfl := Option.some.inj hc
            exact ⟨b, hb, rfl, rfl⟩
          · simp only [atomically, hnext] at h
            exact .inl (hremoved h)
    | issueLease claims deviceId =>
      rw [hr] at h
      simp only [Cloud.stepIssueLease] at h
      split at h <;> exact .inl ⟨a, h, rfl, rfl⟩
    | issuance j =>
      rw [hr] at h
      simp only [Cloud.stepIssuance] at h
      split at h
      · exact .inl ⟨a, h, rfl, rfl⟩
      · split at h <;> exact .inl ⟨a, h, rfl, rfl⟩
    | _ =>
      rw [hr] at h
      exact .inl ⟨a, h, rfl, rfl⟩

/-- An identifier in the table was there before, or is stored by an activation. -/
lemma deviceKeys_step {k : DeviceId × UserId × String} (h : k ∈ (s.step x l).2.db.deviceKeys) :
    k ∈ s.db.deviceKeys ∨
      ∃ i a, l.request = .activation i ∧ slot s.activations i = some a ∧ k = (a.device x).key := by
  have hsame : ∀ {db : Db}, db.devices = s.db.devices → k ∈ db.deviceKeys →
      k ∈ s.db.deviceKeys := by
    intro db hdb hk
    rwa [Db.deviceKeys, hdb] at hk
  cases hconn : l.connected with
  | false =>
    simp only [Cloud.step, hconn, Bool.not_false, if_true] at h
    cases hr : l.request <;> rw [hr] at h <;> exact .inl h
  | true =>
    cases hr : l.request with
    | activation j =>
      simp only [Cloud.step, hconn, hr, Bool.not_true, Bool.false_eq_true, if_false,
        Cloud.stepActivation] at h
      split at h
      · exact .inl h
      · next b hb =>
        cases hnext : b.next x l.draw s.db with
        | error e =>
          simp only [atomically, hnext] at h
          exact .inl h
        | ok p =>
          obtain ⟨r, db⟩ := p
          rcases Activation.next_keys hnext with ⟨phase, rfl, rfl⟩ | ⟨stored, rfl, hkeys⟩
          · simp only [atomically, hnext] at h
            exact .inl h
          · simp only [atomically, hnext] at h
            exact (hkeys.keys k h).imp_right fun hk => ⟨j, b, rfl, hb, hk⟩
    | issuance j =>
      simp only [Cloud.step, hconn, hr, Bool.not_true, Bool.false_eq_true, if_false,
        Cloud.stepIssuance] at h
      split at h
      · exact .inl h
      · next b hb =>
        cases hnext : b.next (signEntitlementLease x l.config l.draw) l.draw s.db with
        | error e =>
          simp only [atomically, hnext] at h
          exact .inl h
        | ok p =>
          obtain ⟨r, db⟩ := p
          have hkeys := Issuance.next_deviceKeys hnext
          cases r with
          | inl b' =>
            simp only [atomically, hnext] at h
            exact .inl (hkeys ▸ h)
          | inr lease =>
            simp only [atomically, hnext] at h
            exact .inl (hkeys ▸ h)
    | _ =>
      -- no other request touches the table
      have heffect := Cloud.step_effect x s l
      generalize (s.step x l).1 = answer at heffect
      generalize (s.step x l).2 = s' at heffect h
      cases heffect with
      | transaction _ hstep => exact .inl (hsame hstep.devices h)
      | delivery _ _ hdevices => exact .inl (hsame hdevices h)
      | activate _ hstep => exact .inl (hsame hstep.devices h)
      | issue _ hstep => exact .inl (hsame hstep.devices h)
      | idle => exact .inl h
      | refuseActivation => exact .inl h
      | refuseIssuance => exact .inl h
      | activation hrequest => simp [hr] at hrequest
      | issuance hrequest => simp [hr] at hrequest

/-- The device that a lease in the making has found is the one that was asked for, or it had found
it before. -/
lemma issuances_step {i : ℕ} {a : Issuance} (h : slot (s.step x l).2.issuances i = some a)
    {d : Device} (hd : a.phase.device = some d) :
    d.id = a.deviceId ∨
      ∃ b, slot s.issuances i = some b ∧ b.phase.device = some d ∧ b.deviceId = a.deviceId := by
  cases hr : l.request with
  | issuance j =>
    cases hconn : l.connected with
    | false =>
      simp only [Cloud.step, hconn, hr, Bool.not_false, if_true, Cloud.abort] at h
      rcases slot_set h with ⟨-, hnew⟩ | ⟨-, hold⟩
      · cases hnew
      · exact .inr ⟨a, hold, hd, rfl⟩
    | true =>
      simp only [Cloud.step, hconn, hr, Bool.not_true, Bool.false_eq_true, if_false,
        Cloud.stepIssuance] at h
      split at h
      · exact .inr ⟨a, h, hd, rfl⟩
      · next b hb =>
        cases hnext : b.next (signEntitlementLease x l.config l.draw) l.draw s.db with
        | error e =>
          simp only [atomically, hnext] at h
          rcases slot_set h with ⟨-, hnew⟩ | ⟨-, hold⟩
          · cases hnew
          · exact .inr ⟨a, hold, hd, rfl⟩
        | ok p =>
          obtain ⟨r, db⟩ := p
          cases r with
          | inl b' =>
            simp only [atomically, hnext] at h
            rcases slot_set h with ⟨rfl, hnew⟩ | ⟨-, hold⟩
            · obtain rfl := Option.some.inj hnew
              -- the device was known before, or this statement has found it
              obtain ⟨hid, hdevice⟩ := Issuance.next_keys hnext
              rcases hdevice d hd with hold | hfound
              · exact .inr ⟨b, hb, hold, hid.symm⟩
              · exact .inl (hfound.trans hid.symm)
            · exact .inr ⟨a, hold, hd, rfl⟩
          | inr lease =>
            simp only [atomically, hnext] at h
            rcases slot_set h with ⟨-, hnew⟩ | ⟨-, hold⟩
            · cases hnew
            · exact .inr ⟨a, hold, hd, rfl⟩
  | _ =>
    -- any other request leaves the leases in the making alone, or adds one
    have heffect := Cloud.step_effect x s l
    generalize (s.step x l).1 = answer at heffect
    generalize (s.step x l).2 = s' at heffect h
    cases heffect with
    | issue _ _ hphase =>
      rcases slot_append h with ⟨-, hnew⟩ | hold
      · obtain rfl := Option.some.inj hnew
        rw [hphase] at hd
        cases hd
      · exact .inr ⟨a, hold, hd, rfl⟩
    | refuseIssuance hrequest => simp [hr] at hrequest
    | issuance hrequest => simp [hr] at hrequest
    | _ => exact .inr ⟨a, h, hd, rfl⟩

end Steps

/-! ## Runs of the service -/

section Runs

variable {s s₀ : Cloud} {l : CloudLabel} {tr : List (CloudLabel × CloudAnswer)}

/-- The user has asked for the activation of a device with the fingerprint. -/
def Activated (tr : List (CloudLabel × CloudAnswer)) (userId : UserId) (fingerprint : String) :
    Prop :=
  ∃ p ∈ tr, ∃ claims input, p.1.request = .activateDevice claims input ∧ claims.sub = userId ∧
    input.fingerprint = fingerprint

lemma Activated.snoc {userId : UserId} {fingerprint : String} (h : Activated tr userId fingerprint)
    (step : CloudLabel × CloudAnswer) : Activated (tr ++ [step]) userId fingerprint := by
  obtain ⟨p, hp, hrequest⟩ := h
  exact ⟨p, List.mem_append_left _ hp, hrequest⟩

/-- The identifier of every device is derived from its user and a fingerprint that the user has
sent, and a lease in the making is for the device that was asked for. -/
structure Derived (x : Crates) (tr : List (CloudLabel × CloudAnswer)) (s : Cloud) : Prop where
  activations : ∀ i a, slot s.activations i = some a →
    Activated tr a.claims.sub a.input.fingerprint
  devices : ∀ k ∈ s.db.deviceKeys, ∃ fingerprint, Activated tr k.2.1 fingerprint ∧
    k.1 = deviceIdFor x.newV5 k.2.1 fingerprint ∧ k.2.2 = hashFingerprint x fingerprint
  issuances : ∀ i a d, slot s.issuances i = some a → a.phase.device = some d → d.id = a.deviceId

/-- **In every run that starts without devices their identifiers are derived.** -/
theorem derived_of_run (h₀ : (cloudMachine x).init s₀) (hempty : s₀.db.devices.rows = [])
    (h : (cloudMachine x).Run s₀ tr s) : Derived x tr s := by
  refine Machine.Run.history ⟨?_, ?_, ?_⟩ (fun tr m l hrun ih hen => ⟨?_, ?_, ?_⟩) h
  · intro i a ha
    rw [h₀.1] at ha
    cases ha
  · intro k hk
    rw [Db.deviceKeys, hempty] at hk
    cases hk
  · intro i a d ha
    rw [h₀.1] at ha
    cases ha
  · intro i a ha
    rcases activations_step ha with ⟨b, hb, hclaims, hinput⟩ | hrequest
    · rw [← hclaims, ← hinput]
      exact (ih.activations i b hb).snoc _
    · exact ⟨_, List.mem_append_right _ (List.mem_singleton_self _), _, _, hrequest, rfl, rfl⟩
  · intro k hk
    rcases deviceKeys_step hk with hold | ⟨i, a, -, ha, rfl⟩
    · obtain ⟨fingerprint, hsent, hid, hhash⟩ := ih.devices k hold
      exact ⟨fingerprint, hsent.snoc _, hid, hhash⟩
    -- the row is stored by an activation, whose fingerprint was sent
    · exact ⟨a.input.fingerprint, (ih.activations i a ha).snoc _, rfl, rfl⟩
  · intro i a d ha hd
    rcases issuances_step ha hd with hid | ⟨b, hb, hfound, hid⟩
    · exact hid
    · rw [← hid]
      exact ih.issuances i b d hb hfound

/-- The device that an activation is answered with. -/
lemma stored_of_answer {i : ℕ} {a : Activation} {device : Device}
    (hrequest : l.request = .activation i) (ha : slot s.activations i = some a)
    (h : ((cloudMachine x).step s l).1 = .device device) :
    ∃ db, s.db.KeysUpserted (a.device x) device db := by
  change (s.step x l).1 = .device device at h
  cases hconn : l.connected with
  | false =>
    simp only [Cloud.step, hconn, Bool.not_false, if_true] at h
    cases h
  | true =>
    simp only [Cloud.step, hconn, hrequest, Bool.not_true, Bool.false_eq_true, if_false,
      Cloud.stepActivation, ha] at h
    cases hnext : a.next x l.draw s.db with
    | error e =>
      simp only [atomically, hnext] at h
      cases h
    | ok p =>
      obtain ⟨r, db⟩ := p
      rcases Activation.next_keys hnext with ⟨phase, rfl, -⟩ | ⟨stored, rfl, hkeys⟩
      · simp only [atomically, hnext] at h
        cases h
      · simp only [atomically, hnext] at h
        obtain rfl := CloudAnswer.device.inj h
        exact ⟨db, hkeys⟩

/-- **The device that an activation is answered with has the derived identifier**, also when it
was activated before, unless the user has sent another fingerprint with the same hash. -/
theorem device_id_of_answer (h₀ : (cloudMachine x).init s₀) (hempty : s₀.db.devices.rows = [])
    (h : (cloudMachine x).Run s₀ tr s) {i : ℕ} {a : Activation} {device : Device}
    (hrequest : l.request = .activation i) (ha : slot s.activations i = some a)
    (hcollision : ∀ fingerprint, Activated tr a.claims.sub fingerprint →
      hashFingerprint x fingerprint = hashFingerprint x a.input.fingerprint →
      fingerprint = a.input.fingerprint)
    (hanswer : ((cloudMachine x).step s l).1 = .device device) :
    device.id = deviceIdFor x.newV5 a.claims.sub a.input.fingerprint := by
  obtain ⟨db, hstored⟩ := stored_of_answer hrequest ha hanswer
  have huser : device.userId = a.claims.sub := hstored.stored_user
  have hhash : device.fingerprintHash = hashFingerprint x a.input.fingerprint :=
    hstored.stored_fingerprint
  rcases hstored.keys _ hstored.stored_mem with hold | hnew
  · -- the row was there, and so was the fingerprint that it came from
    obtain ⟨fingerprint, hsent, hid, hsame⟩ := (derived_of_run h₀ hempty h).devices _ hold
    simp only [Device.key, huser, hhash] at hsent hid hsame
    rw [hid, hcollision fingerprint hsent hsame.symm]
  · exact congrArg Prod.fst hnew

/-- The lease of a request is for the device that was asked for. -/
lemma device_id_of_lease (h₀ : (cloudMachine x).init s₀) (hempty : s₀.db.devices.rows = [])
    (h : (cloudMachine x).Run s₀ tr s) {i : ℕ} {a : Issuance} {d : Device}
    (ha : slot s.issuances i = some a) (hd : a.phase.device = some d) : d.id = a.deviceId :=
  (derived_of_run h₀ hempty h).issuances i a d ha hd

end Runs

end OzonSuite
