/-
# Devices under activations and leases

What the requests that look at devices do, statement by statement.  Of the devices of a user only
the fleet matters here: the fingerprints and the statuses.  The fleet of a user changes at the
end of an activation of that user and nowhere else.
-/
import OzonSuite.Cloud.LicensingEffects

namespace OzonSuite

open Lib

variable {x : Crates} {draw : Draw} {db db' : Db} {u : Unit}

/-! ## The fleet of a user -/

/-- The devices of the user, by fingerprint and status. -/
def Db.fleet (db : Db) (userId : UserId) : List (String × DeviceStatus) :=
  (db.devices.rows.filter fun d => d.userId == userId).map fun d => (d.fingerprintHash, d.status)

/-- The user has an active device with the fingerprint. -/
def Db.hasActiveDevice (db : Db) (userId : UserId) (fingerprintHash : String) : Prop :=
  (fingerprintHash, .active) ∈ db.fleet userId

instance (db : Db) (userId : UserId) (fingerprintHash : String) :
    Decidable (db.hasActiveDevice userId fingerprintHash) :=
  inferInstanceAs (Decidable (_ ∈ _))

lemma Db.hasActiveDevice_iff {userId : UserId} {fp : String} :
    db.hasActiveDevice userId fp ↔
      ∃ d ∈ db.devices.rows, d.userId = userId ∧ d.fingerprintHash = fp ∧ d.status = .active := by
  simp only [hasActiveDevice, fleet, List.mem_map, List.mem_filter, beq_iff_eq, Prod.mk.injEq,
    and_assoc]

lemma Db.activeDevices_eq (db : Db) (userId : UserId) :
    db.activeDevices userId = (db.fleet userId).countP fun d => d.2 == .active := by
  rw [activeDevices, fleet, List.countP_map, List.countP_filter]
  refine List.countP_congr fun d _ => ?_
  simp only [Function.comp, Bool.and_comm]

/-- The fleet of every user is the same. -/
def Db.SameFleets (db db' : Db) : Prop := ∀ userId, db'.fleet userId = db.fleet userId

lemma Db.SameFleets.of_devices (h : db'.devices = db.devices) : db.SameFleets db' :=
  fun _ => by rw [fleet, fleet, h]

/-! ## Statements on devices -/

lemma touchDeviceLastSeen_ok {id : DeviceId} {now : Time}
    (h : touchDeviceLastSeen id now db = .ok (u, db')) :
    db'.ledger = db.ledger ∧ db.SameFleets db' := by
  simp only [touchDeviceLastSeen, Tx.bind_eq_ok, updateRows_eq_ok, Tx.pure_eq_ok] at h
  obtain ⟨rows, _, ⟨t, ht, -, rfl⟩, -, rfl⟩ := h
  refine ⟨rfl, fun userId => ?_⟩
  simp only [Db.fleet, Table.rows_of_update ht, updateWhere]
  induction db.devices.rows with
  | nil => rfl
  | cons d rows ih =>
    have hd : ∀ b : Bool, (if b = true then { d with lastSeenAt := some now } else d).userId =
        d.userId := fun b => by cases b <;> rfl
    simp only [List.map_cons, List.filter_cons, hd]
    split
    · rw [List.map_cons, List.map_cons, ih]
      split <;> rfl
    · exact ih

/-- What an upsert does to the fleets. -/
structure Db.Upserted (device stored : Device) (db db' : Db) : Prop where
  ledger : db'.ledger = db.ledger
  stored_user : stored.userId = device.userId
  stored_fingerprint : stored.fingerprintHash = device.fingerprintHash
  stored_active : stored.status = .active
  others : ∀ userId, userId ≠ device.userId → db'.fleet userId = db.fleet userId
  active : db'.hasActiveDevice device.userId device.fingerprintHash
  count : db'.activeDevices device.userId = db.activeDevices device.userId +
    if db.hasActiveDevice device.userId device.fingerprintHash then 0 else 1

/-- The row with the same user and fingerprint. -/
def sameDevice (device d : Device) : Bool :=
  d.userId == device.userId && d.fingerprintHash == device.fingerprintHash

/-- The update by which an upsert changes it. -/
def activateRow (device d : Device) : Device :=
  { d with name := device.name, status := .active, lastSeenAt := device.lastSeenAt }

/-- There is one row at most with the same user and fingerprint. -/
lemma filter_sameDevice (db : Db) {device d : Device} (hd : d ∈ db.devices.rows)
    (hsame : sameDevice device d = true) : db.devices.rows.filter (sameDevice device) = [d] := by
  have hkey : ∀ a, sameDevice device a =
      decide (some (a.userId, a.fingerprintHash) =
        some (device.userId, device.fingerprintHash)) := by
    intro a
    rw [sameDevice, Bool.eq_iff_iff]
    simp
  have hlen := Table.length_filter_eq_one uq_devices_user_fingerprint hd
    (k := (device.userId, device.fingerprintHash)) (by simpa [hkey] using hsame)
  simp only [← hkey] at hlen
  obtain ⟨a, ha⟩ := List.length_eq_one_iff.mp hlen
  have hmem : d ∈ db.devices.rows.filter (sameDevice device) := List.mem_filter.mpr ⟨hd, hsame⟩
  rw [ha] at hmem ⊢
  rw [List.mem_singleton.mp hmem]

lemma hasActiveDevice_iff_of_row {device d : Device} (hd : d ∈ db.devices.rows)
    (hsame : sameDevice device d = true) :
    db.hasActiveDevice device.userId device.fingerprintHash ↔ d.status = .active := by
  rw [Db.hasActiveDevice_iff]
  constructor
  · rintro ⟨a, ha, huser, hfp, hactive⟩
    have hmem : a ∈ db.devices.rows.filter (sameDevice device) :=
      List.mem_filter.mpr ⟨ha, by simp [sameDevice, huser, hfp]⟩
    rw [filter_sameDevice db hd hsame] at hmem
    rw [← List.mem_singleton.mp hmem]
    exact hactive
  · intro hactive
    simp only [sameDevice, Bool.and_eq_true, beq_iff_eq] at hsame
    exact ⟨d, hd, hsame.1, hsame.2, hactive⟩

/-- The row is there: it becomes active. -/
lemma upserted_of_row {device d : Device} {t : Table devicesSchema} (hd : d ∈ db.devices.rows)
    (hsame : sameDevice device d = true)
    (ht : t.rows = updateWhere (sameDevice device) (activateRow device) db.devices.rows) :
    db.Upserted device (activateRow device d) { db with devices := t } := by
  have hid : d.userId = device.userId ∧ d.fingerprintHash = device.fingerprintHash := by
    simpa [sameDevice] using hsame
  refine ⟨rfl, hid.1, hid.2, rfl, fun userId hne => ?_, ?_, ?_⟩
  · have hother : ∀ r ∈ db.devices.rows, (r.userId == userId) = true →
        sameDevice device r = false := by
      intro r _ hr
      have hruser : r.userId = userId := by simpa using hr
      simp [sameDevice, hruser, hne]
    simp only [Db.fleet, ht]
    rw [filter_updateWhere_of_disjoint (f := activateRow device) (fun _ => rfl) hother]
  · rw [Db.hasActiveDevice_iff]
    refine ⟨activateRow device d, ?_, hid.1, hid.2, rfl⟩
    change _ ∈ t.rows
    rw [ht]
    exact mem_updateWhere_of_pos hd hsame
  -- the one row of the device counts afterwards, whether or not it counted before
  · have hnew : (fun d : Device => d.userId == device.userId && d.status == .active)
        (activateRow device d) = true := by simp [activateRow, hid.1]
    have hold := hasActiveDevice_iff_of_row hd hsame
    simp only [Db.activeDevices, ht, hold]
    rw [countP_updateWhere, List.countP_eq_countP_filter_add db.devices.rows _ (sameDevice device),
      filter_sameDevice db hd hsame, List.map_singleton, List.countP_singleton,
      List.countP_singleton, if_pos hnew]
    by_cases hactive : d.status = .active
    · simp [hid.1, hactive]
    · simp [hactive, Nat.add_comm]

/-- The row is new. -/
lemma upserted_of_insert {device : Device} {t : Table devicesSchema}
    (hnew : ∀ d ∈ db.devices.rows, sameDevice device d = false)
    (hactive : device.status = .active) (ht : t.rows = db.devices.rows ++ [device]) :
    db.Upserted device device { db with devices := t } := by
  refine ⟨rfl, rfl, rfl, hactive, fun userId hne => ?_, ?_, ?_⟩
  · simp [Db.fleet, ht, List.filter_append, Ne.symm hne]
  · rw [Db.hasActiveDevice_iff]
    refine ⟨device, ?_, rfl, rfl, hactive⟩
    change _ ∈ t.rows
    rw [ht]
    exact List.mem_append_right _ (List.mem_singleton_self _)
  · have hno : ¬ db.hasActiveDevice device.userId device.fingerprintHash := by
      rw [Db.hasActiveDevice_iff]
      rintro ⟨d, hd, huser, hfp, -⟩
      have hsame := hnew d hd
      simp [sameDevice, huser, hfp] at hsame
    rw [if_neg hno]
    simp [Db.activeDevices, ht, hactive]

lemma upsertDevice_ok {device stored : Device} (hactive : device.status = .active)
    (h : upsertDevice device db = .ok (stored, db')) : db.Upserted device stored db' := by
  simp only [upsertDevice, Tx.bind_eq_ok, Tx.get_eq_ok] at h
  obtain ⟨_, _, ⟨rfl, rfl⟩, h⟩ := h
  by_cases hany : (db.devices.rows.any fun d => d.userId == device.userId &&
      d.fingerprintHash == device.fingerprintHash) = true
  · rw [if_pos hany] at h
    simp only [Tx.bind_eq_ok, updateRows_eq_ok] at h
    obtain ⟨rows, _, ⟨t, ht, rfl, rfl⟩, h⟩ := h
    generalize hfirst : List.head? _ = first at h
    cases first with
    | none => exact absurd h Tx.throw_ne_ok
    | some d' =>
      obtain ⟨rfl, rfl⟩ := Tx.pure_eq_ok.mp h
      obtain ⟨d, hd, hsame, rfl⟩ := head?_map_filter_eq_some hfirst
      exact upserted_of_row hd hsame (Table.rows_of_update ht)
  · rw [if_neg hany] at h
    simp only [Tx.bind_eq_ok, insertRow_eq_ok, Tx.pure_eq_ok] at h
    obtain ⟨_, _, ⟨t, ht, -, rfl⟩, rfl, rfl⟩ := h
    refine upserted_of_insert (fun d hd => ?_) hactive (Table.rows_of_insert ht)
    by_contra hsame
    exact hany (List.any_eq_true.mpr ⟨d, hd, by simpa [sameDevice] using hsame⟩)

/-! ## One statement of an activation -/

/-- The limit `maxDevices` is that of a best entitlement which is active at `now`. -/
def Db.LimitSelected (db : Db) (userId : UserId) (now : Time) (maxDevices : UInt8) : Prop :=
  ∃ row ∈ db.activeEntitlements userId now, row.2.maxDevices = maxDevices ∧
    ∀ other ∈ db.activeEntitlements userId now, outranks other row = false

/-- The first row in the order is one that no other outranks. -/
lemma firstByRank_eq_some {tie : ℕ} {rows : List (Entitlement × CardKeyRow)}
    {row : Entitlement × CardKeyRow} (h : firstByRank tie rows = some row) :
    row ∈ rows ∧ ∀ other ∈ rows, outranks other row = false := by
  have hmem := List.mem_of_getElem? h
  obtain ⟨hrow, hbest⟩ := List.mem_filter.mp hmem
  refine ⟨hrow, fun other hother => ?_⟩
  simp only [Bool.not_eq_true', List.any_eq_false, Bool.not_eq_true] at hbest
  exact hbest other hother

lemma findActiveEntitlementWithCardLimitForUser_ok {userId : UserId} {now : Time} {tie : ℕ}
    {limit : Option UInt8}
    (h : findActiveEntitlementWithCardLimitForUser userId now tie db = .ok (limit, db')) :
    db' = db ∧ ∀ maxDevices, limit = some maxDevices → db.LimitSelected userId now maxDevices := by
  simp only [findActiveEntitlementWithCardLimitForUser, Tx.bind_eq_ok, Tx.get_eq_ok,
    Tx.pure_eq_ok] at h
  obtain ⟨_, _, ⟨rfl, rfl⟩, rfl, rfl⟩ := h
  refine ⟨rfl, fun maxDevices hmax => ?_⟩
  obtain ⟨row, hrow, rfl⟩ := Option.map_eq_some_iff.mp hmax
  obtain ⟨hmem, hbest⟩ := firstByRank_eq_some hrow
  exact ⟨row, hmem, rfl, hbest⟩

lemma countActiveDevicesForUser_ok {userId : UserId} {n : ℕ}
    (h : countActiveDevicesForUser userId db = .ok (n, db')) :
    n = db.activeDevices userId ∧ db' = db := by
  simp only [countActiveDevicesForUser, Tx.bind_eq_ok, Tx.get_eq_ok, Tx.pure_eq_ok] at h
  obtain ⟨_, _, ⟨rfl, rfl⟩, rfl, rfl⟩ := h
  exact ⟨rfl, rfl⟩

/-- What was looked up is active when the user has an active device with the fingerprint. -/
lemma isActive_find (db : Db) (userId : UserId) (fp : String) :
    isActive (db.devices.rows.find? fun d => d.userId == userId && d.fingerprintHash == fp) =
      decide (db.hasActiveDevice userId fp) := by
  cases hfound : db.devices.rows.find? fun d => d.userId == userId && d.fingerprintHash == fp with
  | none =>
    have hno : ¬ db.hasActiveDevice userId fp := by
      rw [Db.hasActiveDevice_iff]
      rintro ⟨d, hd, huser, hfp, -⟩
      simpa [huser, hfp] using List.find?_eq_none.mp hfound d hd
    simp [isActive, hno]
  | some d =>
    have hd := List.mem_of_find?_eq_some hfound
    have hid : d.userId = userId ∧ d.fingerprintHash = fp := by
      simpa using List.find?_some hfound
    have hsame : sameDevice d d = true := by simp [sameDevice]
    have hrow := hasActiveDevice_iff_of_row hd hsame
    rw [hid.1, hid.2] at hrow
    rw [isActive, Option.any_some, Bool.eq_iff_iff, decide_eq_true_iff, hrow, beq_iff_eq]

/-- The steps of an activation `a`, each with what it has read from the database. -/
inductive Activation.Next (x : Crates) (a : Activation) (draw : Draw) (db : Db) :
    Activation ⊕ Device → Db → Prop
  | lock (hphase : a.phase = .waiting) : Next x a draw db (.inl { a with phase := .locked }) db
  | limit (hphase : a.phase = .locked) {maxDevices : UInt8}
      (hlimit : db.LimitSelected a.claims.sub (draw.clock 0) maxDevices) :
      Next x a draw db (.inl { a with phase := .limited maxDevices }) db
  | lookUp {maxDevices : UInt8} (hphase : a.phase = .limited maxDevices) {existing : Option Device}
      (hexisting : isActive existing =
        decide (db.hasActiveDevice a.claims.sub (hashFingerprint x a.input.fingerprint))) :
      Next x a draw db (.inl { a with phase := .lookedUp maxDevices existing }) db
  | letIn {maxDevices : UInt8} {existing : Option Device}
      (hphase : a.phase = .lookedUp maxDevices existing)
      (hroom : isActive existing = false → db.activeDevices a.claims.sub < maxDevices.toNat) :
      Next x a draw db (.inl { a with phase := .admitted maxDevices existing }) db
  | store {maxDevices : UInt8} {existing : Option Device}
      (hphase : a.phase = .admitted maxDevices existing) {stored : Device} {db' : Db}
      (hstored : db.Upserted (a.device x) stored db') :
      Next x a draw db (.inr stored) db'

/-- **One statement of an activation.** -/
theorem Activation.next_ok {a : Activation} {r : Activation ⊕ Device}
    (h : a.next x draw db = .ok (r, db')) : Activation.Next x a draw db r db' := by
  cases hphase : a.phase with
  | waiting =>
    simp only [Activation.next, hphase, Tx.bind_eq_ok, Tx.pure_eq_ok] at h
    obtain ⟨_, _, hlock, rfl, rfl⟩ := h
    obtain rfl := lockUserForUpdate_ok hlock
    exact .lock hphase
  | locked =>
    simp only [Activation.next, hphase, Tx.bind_eq_ok] at h
    obtain ⟨limit, _, hlimit, h⟩ := h
    obtain ⟨rfl, hselected⟩ := findActiveEntitlementWithCardLimitForUser_ok hlimit
    cases limit with
    | none => exact absurd h Tx.throw_ne_ok
    | some maxDevices =>
      obtain ⟨rfl, rfl⟩ := Tx.pure_eq_ok.mp h
      exact .limit hphase (hselected _ rfl)
  | limited maxDevices =>
    simp only [Activation.next, hphase, Tx.bind_eq_ok, findDeviceByFingerprint,
      fetchOptional_eq_ok, Tx.pure_eq_ok] at h
    obtain ⟨existing, _, ⟨rfl, rfl⟩, rfl, rfl⟩ := h
    exact .lookUp hphase (isActive_find _ _ _)
  | lookedUp maxDevices existing =>
    simp only [Activation.next, hphase] at h
    cases hactive : isActive existing with
    | true =>
      -- an active device is let in without a count
      simp only [hactive, Bool.not_true, Bool.false_eq_true, if_false, Tx.pure_eq_ok] at h
      obtain ⟨rfl, rfl⟩ := h
      exact .letIn hphase (by simp [hactive])
    | false =>
      simp only [hactive, Bool.not_false, if_true, Tx.bind_eq_ok, Tx.guard_bind_eq_ok,
        Tx.pure_eq_ok] at h
      obtain ⟨n, _, hcount, hlt, rfl, rfl⟩ := h
      obtain ⟨rfl, rfl⟩ := countActiveDevicesForUser_ok hcount
      exact .letIn hphase fun _ => by simpa [deviceLimitAllowsNewActivation] using hlt
  | admitted maxDevices existing =>
    simp only [Activation.next, hphase, Activation.store, Tx.bind_eq_ok, Tx.pure_eq_ok] at h
    obtain ⟨stored, _, ⟨_, _, hupsert, _, _, haudit, rfl, rfl⟩, rfl, rfl⟩ := h
    obtain ⟨t, rfl⟩ := insertAudit_ok haudit
    -- the log has no part in what the step says of devices
    have hup := upsertDevice_ok rfl hupsert
    exact .store hphase ⟨hup.ledger, hup.stored_user, hup.stored_fingerprint, hup.stored_active,
      hup.others, hup.active, hup.count⟩

/-! ## Which error is the limit's -/

/-- The errors of an activation that do not come from the limit. -/
def isOtherError (e : ApiError) : Prop :=
  e = .unauthorized "user not found" ∨ e = .forbidden "no active entitlement" ∨ e = dbInternal

/-- They can be told from the error of the limit by its text. -/
lemma not_isOtherError (n : ℕ) (maxDevices : UInt8) :
    ¬ isOtherError (deviceLimitReached n maxDevices) := by
  rintro (h | h | h)
  · cases congrArg ApiError.status h
  · have hhead := congrArg (fun e => e.message.toList.head?) h
    simp [deviceLimitReached, ApiError.forbidden, toString] at hhead
  · cases congrArg ApiError.status h

lemma insertAudit_error {event : AuditEvent} {e : ApiError}
    (h : insertAudit event db = .error e) : e = dbInternal := by
  rcases insertRow_error h with ⟨_, rfl⟩ | rfl <;> rfl

lemma upsertDevice_error {device : Device} {e : ApiError}
    (h : upsertDevice device db = .error e) : e = dbInternal := by
  simp only [upsertDevice, Tx.bind_eq_error, Tx.get_ne_error, false_or] at h
  obtain ⟨_, _, -, h⟩ := h
  split at h
  · rcases Tx.bind_eq_error.mp h with h | ⟨rows, _, -, h⟩
    · exact updateRows_error h
    · generalize List.head? _ = first at h
      cases first with
      | none => exact (Tx.throw_eq_error.mp h).symm
      | some d => exact absurd h Tx.pure_ne_error
  · rcases Tx.bind_eq_error.mp h with h | ⟨_, _, -, h⟩
    · rcases insertRow_error h with ⟨_, rfl⟩ | rfl <;> rfl
    · exact absurd h Tx.pure_ne_error

lemma Activation.store_error {a : Activation} {e : ApiError}
    (h : a.store x draw db = .error e) : e = dbInternal := by
  simp only [Activation.store, Tx.bind_eq_error, Tx.pure_ne_error, and_false, exists_false,
    or_false] at h
  rcases h with h | ⟨_, _, -, h⟩
  · exact upsertDevice_error h
  · exact insertAudit_error h

lemma lockUserForUpdate_error {userId : UserId} {e : ApiError}
    (h : lockUserForUpdate userId db = .error e) : e = .unauthorized "user not found" := by
  simp only [lockUserForUpdate, findUserById, Tx.bind_eq_error, fetchOptional_ne_error,
    false_or] at h
  obtain ⟨_, _, -, h⟩ := h
  split at h
  · exact (Tx.throw_eq_error.mp h).symm
  · exact absurd h Tx.pure_ne_error

/-- **An activation is refused for the limit only when its device is not active.** -/
theorem Activation.next_limit {a : Activation} {n : ℕ} {maxDevices : UInt8}
    (h : a.next x draw db = .error (deviceLimitReached n maxDevices)) :
    ∃ limit existing, a.phase = .lookedUp limit existing ∧ isActive existing = false := by
  -- every other statement fails with another error
  by_contra hno
  refine not_isOtherError n maxDevices ?_
  cases hphase : a.phase with
  | waiting =>
    simp only [Activation.next, hphase, Tx.bind_eq_error, Tx.pure_ne_error, and_false,
      exists_false, or_false] at h
    exact .inl (lockUserForUpdate_error h)
  | locked =>
    simp only [Activation.next, hphase, findActiveEntitlementWithCardLimitForUser,
      Tx.bind_eq_error, Tx.get_ne_error, Tx.pure_ne_error, and_false, exists_false, or_false,
      false_or] at h
    obtain ⟨limit, _, -, h⟩ := h
    cases limit with
    | none => exact .inr (.inl (Tx.throw_eq_error.mp h).symm)
    | some limit => exact absurd h Tx.pure_ne_error
  | limited limit =>
    simp only [Activation.next, hphase, findDeviceByFingerprint, Tx.bind_eq_error,
      fetchOptional_ne_error, Tx.pure_ne_error, and_false, exists_false, or_false] at h
  | lookedUp limit existing =>
    cases hactive : isActive existing with
    | true => simp [Activation.next, hphase, hactive] at h
    | false => exact absurd ⟨limit, existing, hphase, hactive⟩ hno
  | admitted limit existing =>
    simp only [Activation.next, hphase, Tx.bind_eq_error, Tx.pure_ne_error, and_false,
      exists_false, or_false] at h
    exact .inr (.inr (Activation.store_error h))

/-! ## One statement of a lease in the making -/

/-- The entitlement may be selected for a lease at `now`. -/
structure Db.Selectable (db : Db) (userId : UserId) (now : Time) (e : Entitlement) : Prop where
  mem : e ∈ db.entitlements.rows
  user : e.userId = userId
  unrevoked : e.revokedAt = none
  unexpired : now < e.expiresAt

lemma Db.selectable_of_mem {userId : UserId} {now : Time} {row : Entitlement × CardKeyRow}
    (h : row ∈ db.activeEntitlements userId now) : db.Selectable userId now row.1 := by
  simp only [activeEntitlements, List.mem_flatMap, List.mem_filter, List.mem_map,
    Bool.and_eq_true, beq_iff_eq, Option.isNone_iff_eq_none, decide_eq_true_eq] at h
  obtain ⟨e, ⟨he, ⟨huser, hrevoked⟩, hexpires⟩, k, -, rfl⟩ := h
  exact ⟨he, huser, hrevoked, hexpires⟩

lemma findActiveEntitlementForUser_ok {userId : UserId} {now : Time} {tie : ℕ}
    {found : Option Entitlement}
    (h : findActiveEntitlementForUser userId now tie db = .ok (found, db')) :
    db' = db ∧ ∀ e, found = some e → db.Selectable userId now e := by
  simp only [findActiveEntitlementForUser, Tx.bind_eq_ok, Tx.get_eq_ok, Tx.pure_eq_ok] at h
  obtain ⟨_, _, ⟨rfl, rfl⟩, rfl, rfl⟩ := h
  refine ⟨rfl, fun e he => ?_⟩
  obtain ⟨row, hrow, rfl⟩ := Option.map_eq_some_iff.mp he
  exact Db.selectable_of_mem (firstByRank_eq_some hrow).1

/-- The device is an active one of the user. -/
structure Db.ActiveDevice (db : Db) (userId : UserId) (device : Device) : Prop where
  mem : device ∈ db.devices.rows
  user : device.userId = userId
  active : device.status = .active

/-- The steps of a lease in the making, each with what it has read from the database. -/
inductive Issuance.Next (sign : EntitlementLease → Except ApiError EntitlementLease)
    (i : Issuance) (draw : Draw) (db : Db) : Issuance ⊕ EntitlementLease → Db → Prop
  | find (hphase : i.phase = .started) {device : Device}
      (hdevice : db.ActiveDevice i.claims.sub device) :
      Next sign i draw db (.inl { i with phase := .deviceFound device }) db
  | select {device : Device} (hphase : i.phase = .deviceFound device) {e : Entitlement}
      (he : db.Selectable i.claims.sub (draw.clock 0) e) :
      Next sign i draw db (.inl { i with phase := .selected device e }) db
  | limit {device : Device} {e : Entitlement} (hphase : i.phase = .selected device e)
      {maxDevices : UInt8} (hlimit : db.LimitSelected i.claims.sub (draw.clock 0) maxDevices) :
      Next sign i draw db (.inl { i with phase := .limited device e maxDevices }) db
  | count {device : Device} {e : Entitlement} {maxDevices : UInt8}
      (hphase : i.phase = .limited device e maxDevices)
      (hle : db.activeDevices i.claims.sub ≤ maxDevices.toNat) :
      Next sign i draw db
        (.inl { i with phase := .checked device e maxDevices (db.activeDevices i.claims.sub) }) db
  | touch {device : Device} {e : Entitlement} {maxDevices : UInt8} {n : ℕ}
      (hphase : i.phase = .checked device e maxDevices n) {db' : Db}
      (hledger : db'.ledger = db.ledger) (hfleets : db.SameFleets db') :
      Next sign i draw db (.inl { i with phase := .committed device e maxDevices n }) db'
  | sign {device : Device} {e : Entitlement} {maxDevices : UInt8} {n : ℕ}
      (hphase : i.phase = .committed device e maxDevices n) {lease : EntitlementLease}
      (hsign : sign (.new i.claims.tenantId i.claims.sub device.id e (draw.uuid 0)
        (draw.clock 0)) = .ok lease) :
      Next sign i draw db (.inr lease) db

/-- **One statement of a lease in the making.** -/
theorem Issuance.next_ok {sign : EntitlementLease → Except ApiError EntitlementLease}
    {i : Issuance} {r : Issuance ⊕ EntitlementLease} (h : i.next sign draw db = .ok (r, db')) :
    Issuance.Next sign i draw db r db' := by
  cases hphase : i.phase with
  | started =>
    simp only [Issuance.next, hphase, findActiveDevice, Tx.bind_eq_ok, fetchOptional_eq_ok] at h
    obtain ⟨found, _, ⟨hfound, rfl⟩, h⟩ := h
    cases found with
    | none => exact absurd h Tx.throw_ne_ok
    | some device =>
      obtain ⟨rfl, rfl⟩ := Tx.pure_eq_ok.mp h
      have hrow := List.find?_some hfound.symm
      simp only [Bool.and_eq_true, beq_iff_eq] at hrow
      exact .find hphase ⟨List.mem_of_find?_eq_some hfound.symm, hrow.1.2, hrow.2⟩
  | deviceFound device =>
    simp only [Issuance.next, hphase, Tx.bind_eq_ok] at h
    obtain ⟨found, _, hfound, h⟩ := h
    obtain ⟨rfl, hselect⟩ := findActiveEntitlementForUser_ok hfound
    cases found with
    | none => exact absurd h Tx.throw_ne_ok
    | some e =>
      obtain ⟨rfl, rfl⟩ := Tx.pure_eq_ok.mp h
      exact .select hphase (hselect e rfl)
  | selected device e =>
    simp only [Issuance.next, hphase, Tx.bind_eq_ok] at h
    obtain ⟨limit, _, hlimit, h⟩ := h
    obtain ⟨rfl, hselected⟩ := findActiveEntitlementWithCardLimitForUser_ok hlimit
    cases limit with
    | none => exact absurd h Tx.throw_ne_ok
    | some maxDevices =>
      obtain ⟨rfl, rfl⟩ := Tx.pure_eq_ok.mp h
      exact .limit hphase (hselected _ rfl)
  | limited device e maxDevices =>
    simp only [Issuance.next, hphase, Tx.bind_eq_ok] at h
    obtain ⟨n, _, hcount, h⟩ := h
    obtain ⟨rfl, rfl⟩ := countActiveDevicesForUser_ok hcount
    split at h
    · next hle =>
      obtain ⟨rfl, rfl⟩ := Tx.pure_eq_ok.mp h
      exact .count hphase (by simpa [deviceLimitAllowsActiveFleet] using hle)
    · exact absurd h Tx.throw_ne_ok
  | checked device e maxDevices n =>
    simp only [Issuance.next, hphase, Tx.bind_eq_ok, Tx.pure_eq_ok] at h
    obtain ⟨_, _, htouch, rfl, rfl⟩ := h
    obtain ⟨hledger, hfleets⟩ := touchDeviceLastSeen_ok htouch
    exact .touch hphase hledger hfleets
  | committed device e maxDevices n =>
    simp only [Issuance.next, hphase] at h
    -- signing comes after the commit and touches no row
    generalize hsign : sign _ = signed at h
    cases signed with
    | error e => exact absurd h Tx.throw_ne_ok
    | ok lease =>
      obtain ⟨rfl, rfl⟩ := Tx.pure_eq_ok.mp h
      exact .sign hphase hsign

end OzonSuite
