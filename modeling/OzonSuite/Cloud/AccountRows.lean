/-
# What becomes of the rows of accounts

A sign-in adds the row of a new account or brings the row of a SkyBridge user up to date.  Nothing
else happens to the rows: no row goes away, each stays with its identifiers and its tenant, and the
row of an account of this service is never touched.
-/
import OzonSuite.Cloud.Accounts

namespace OzonSuite

open Lib

/-! ## Keys -/

lemma users_pkey : ("users_pkey", agreeOn fun u : User => some u.id) ∈ usersSchema.uniques := by
  simp [usersSchema]

lemma uq_users_email : ("uq_users_email", agreeOn User.email) ∈ usersSchema.uniques := by
  simp [usersSchema]

lemma uq_users_nebula_id :
    ("uq_users_nebula_id", agreeOn fun u : User => some u.nebulaId) ∈ usersSchema.uniques := by
  simp [usersSchema]

lemma uq_users_phone : ("uq_users_phone", agreeOn User.phone) ∈ usersSchema.uniques := by
  simp [usersSchema]

lemma uq_users_skybridge_user_id :
    ("uq_users_skybridge_user_id", agreeOn User.skybridgeUserId) ∈ usersSchema.uniques := by
  simp [usersSchema]

section Keys

variable {db : Db} {a b : User}

lemma eq_of_id (ha : a ∈ db.users.rows) (hb : b ∈ db.users.rows) (h : a.id = b.id) : a = b :=
  Table.eq_of_key users_pkey ha hb rfl (congrArg some h.symm)

lemma eq_of_skybridgeUserId (ha : a ∈ db.users.rows) (hb : b ∈ db.users.rows) {id : Uuid}
    (hid : a.skybridgeUserId = some id) (h : a.skybridgeUserId = b.skybridgeUserId) : a = b :=
  Table.eq_of_key uq_users_skybridge_user_id ha hb hid (h ▸ hid)

/-- A row belongs to SkyBridge just if it has the identifier of a SkyBridge user. -/
lemma nebulaSource_iff (ha : a ∈ db.users.rows) :
    a.nebulaSource = .skybridge ↔ a.skybridgeUserId.isSome = true := by
  have hmem : _ ∈ usersSchema.checks := List.mem_singleton_self _
  have hcheck := db.users.satisfied.1 _ hmem a ha
  cases hsource : a.nebulaSource with
  | skybridge => simpa [hsource] using hcheck
  | localDev =>
    simp only [hsource, Bool.and_eq_true, Option.isNone_iff_eq_none] at hcheck
    simp [hcheck.1]

/-- An identifier selects one row at most. -/
lemma eq_of_selected {identity : LoginIdentity} (ha : a ∈ db.users.rows) (hb : b ∈ db.users.rows)
    (hsa : identity.selects a = true) (hsb : identity.selects b = true) : a = b := by
  cases identity with
  | email address =>
    simp only [LoginIdentity.selects, beq_iff_eq] at hsa hsb
    exact Table.eq_of_key uq_users_email ha hb hsa hsb
  | phone number =>
    simp only [LoginIdentity.selects, beq_iff_eq] at hsa hsb
    exact Table.eq_of_key uq_users_phone ha hb hsa hsb
  | nebulaId id =>
    simp only [LoginIdentity.selects, beq_iff_eq] at hsa hsb
    exact Table.eq_of_key uq_users_nebula_id ha hb (congrArg some hsa) (congrArg some hsb)

end Keys

/-- An account can be told from its row. -/
lemma Account.toRow_injective : Function.Injective Account.toRow := by
  intro u v h
  have hemail : Function.Injective (Option.map Email.text) :=
    Option.map_injective fun _ _ => Email.ext
  have hphone : Function.Injective (Option.map PhoneNumber.text) :=
    Option.map_injective fun _ _ => PhoneNumber.ext
  cases u
  cases v
  simp only [Account.toRow, User.mk.injEq] at h
  obtain ⟨rfl, rfl, hnebula, rfl, rfl, he, hp, rfl, rfl⟩ := h
  obtain rfl := NebulaId.ext hnebula
  obtain rfl := hemail he
  obtain rfl := hphone hp
  rfl

/-! ## Rows before and after -/

/-- The row `r'` is what has become of the row `r`. -/
structure User.Becomes (r r' : User) : Prop where
  id : r'.id = r.id
  tenantId : r'.tenantId = r.tenantId
  skybridgeUserId : r'.skybridgeUserId = r.skybridgeUserId
  nebulaSource : r'.nebulaSource = r.nebulaSource
  untouched : r.nebulaSource = .localDev → r' = r

lemma User.Becomes.refl (r : User) : r.Becomes r := ⟨rfl, rfl, rfl, rfl, fun _ => rfl⟩

/-- The rows after somebody has signed in to an account. -/
structure RowsAfter (rows rows' : List User) (account : Account) : Prop where
  row : account.toRow ∈ rows'
  kept : ∀ r ∈ rows, ∃ r' ∈ rows', r.Becomes r'
  origin : ∀ r' ∈ rows', (∃ r ∈ rows, r.Becomes r') ∨
    (r' = account.toRow ∧ ∀ r ∈ rows, r.id ≠ account.id)

section Rows

variable {k : LetterClasses} {db db' : Db} {account found : Account}

lemma storeAccount_ok (h : storeAccount account db = .ok (found, db')) :
    found = account ∧ db'.users.rows = db.users.rows ++ [account.toRow] ∧
      ∀ r ∈ db.users.rows, r.id ≠ account.id := by
  simp only [storeAccount, Tx.bind_eq_ok, Tx.pure_eq_ok] at h
  obtain ⟨_, db₁, htenant, _, db₂, huser, rfl, rfl⟩ := h
  obtain ⟨ids, rfl⟩ := insertTenant_ok htenant
  obtain ⟨t, ht, -, rfl⟩ := insertRow_eq_ok.mp huser
  refine ⟨rfl, Table.rows_of_insert ht, fun r hr hid => ?_⟩
  have hno : agreeOn (fun u : User => some u.id) r account.toRow = false :=
    Table.not_agree_of_insert ht users_pkey r hr
  have hagree : agreeOn (fun u : User => some u.id) r account.toRow = true :=
    agreeOn_iff.mpr ⟨_, congrArg some hid, rfl⟩
  rw [hagree] at hno
  cases hno

lemma rowsAfter_append {rows : List User} (hnew : ∀ r ∈ rows, r.id ≠ account.id) :
    RowsAfter rows (rows ++ [account.toRow]) account where
  row := by simp
  kept r hr := ⟨r, List.mem_append_left _ hr, .refl r⟩
  origin r' hr' := by
    rcases List.mem_append.mp hr' with hr' | hr'
    · exact .inl ⟨r', hr', .refl r'⟩
    · exact .inr ⟨List.mem_singleton.mp hr', hnew⟩

/-- What a row is after it has been brought up to date. -/
lemma becomes_update {profile : SkybridgeProfile} {now : Time} {r : User} (hr : r ∈ db.users.rows)
    (hid : r.skybridgeUserId = some profile.userId) : r.Becomes (profile.update now r) := by
  have hsource : r.nebulaSource = .skybridge := (nebulaSource_iff hr).mpr (by rw [hid]; rfl)
  exact ⟨rfl, rfl, hid.symm, hsource.symm, fun hlocal => by simp [hsource] at hlocal⟩

lemma readRow_ok {row : Option User} (h : readRow k row db = .ok (found, db')) :
    db' = db ∧ ∃ r, row = some r ∧ rowToUser k r = .ok found := by
  unfold readRow at h
  split at h
  · exact absurd h Tx.throw_ne_ok
  · next r =>
    generalize hr : rowToUser k r = result at h
    cases result with
    | error e => exact absurd h Tx.throw_ne_ok
    | ok u =>
      obtain ⟨rfl, rfl⟩ := Tx.pure_eq_ok.mp h
      exact ⟨rfl, r, rfl, hr⟩

lemma toRow_of_rowToUser {r : User} (hread : db.Readable k) (hr : r ∈ db.users.rows)
    (h : rowToUser k r = .ok found) : r = found.toRow := by
  obtain ⟨u, hu, rfl⟩ := hread r hr
  rw [rowToUser_toRow hu] at h
  obtain rfl := Except.ok.inj h
  rfl

lemma upsertSkybridgeUser_ok {profile : SkybridgeProfile} {draw : AccountDraw}
    (hread : db.Readable k) (h : upsertSkybridgeUser k profile draw db = .ok (found, db'))
    (hread' : db'.Readable k) :
    RowsAfter db.users.rows db'.users.rows found ∧ found.nebulaSource = .skybridge ∧
      found.skybridgeUserId = some profile.userId := by
  simp only [upsertSkybridgeUser, Tx.bind_eq_ok, fetchOptional_eq_ok] at h
  obtain ⟨row, db₁, ⟨hrow, hdb₁⟩, h⟩ := h
  rw [hdb₁] at h
  cases row with
  | none =>
    obtain ⟨rfl, hrows, hnew⟩ := storeAccount_ok h
    rw [hrows]
    exact ⟨rowsAfter_append hnew, rfl, rfl⟩
  | some row =>
    have hmem : row ∈ db.users.rows := List.mem_of_find?_eq_some hrow.symm
    have hid : row.skybridgeUserId = some profile.userId := by
      simpa using List.find?_some hrow.symm
    simp only [Tx.bind_eq_ok] at h
    obtain ⟨existing, db₂, hexisting, rows, db₃, hupdate, hfound⟩ := h
    obtain ⟨rfl, _, ⟨⟩, hexisting⟩ := readRow_ok hexisting
    obtain rfl := toRow_of_rowToUser hread hmem hexisting
    obtain ⟨t, ht, rfl, rfl⟩ := updateRows_eq_ok.mp hupdate
    have hrows := Table.rows_of_update ht
    -- the update selects one row, and returns it
    obtain ⟨rfl, row', hhead, hfound⟩ := readRow_ok hfound
    obtain ⟨r, hr, hsame, rfl⟩ := head?_map_filter_eq_some hhead
    obtain rfl : r = existing.toRow := eq_of_id hr hmem (beq_iff_eq.mp hsame)
    have hupdated : profile.update draw.now existing.toRow ∈ t.rows := by
      rw [hrows]
      exact mem_updateWhere_of_pos hmem hsame
    have heq := toRow_of_rowToUser hread' hupdated hfound
    have hbecomes : ∀ r ∈ db₂.users.rows, (r.id == existing.id) = true →
        r.Becomes (profile.update draw.now r) := by
      intro r hr hselected
      obtain rfl : r = existing.toRow := eq_of_id hr hmem (beq_iff_eq.mp hselected)
      exact becomes_update hmem hid
    refine ⟨⟨heq ▸ hupdated, fun r hr => ?_, fun r' hr' => .inl ?_⟩, ?_, ?_⟩
    · by_cases hselected : (r.id == existing.id) = true
      · refine ⟨profile.update draw.now r, ?_, hbecomes r hr hselected⟩
        rw [hrows]
        exact mem_updateWhere_of_pos hr hselected
      · refine ⟨r, ?_, .refl r⟩
        rw [hrows]
        exact mem_updateWhere_of_not hr (Bool.not_eq_true _ ▸ hselected)
    · rw [hrows, mem_updateWhere] at hr'
      rcases hr' with ⟨r, hr, hselected, rfl⟩ | ⟨hr, -⟩
      · exact ⟨r, hr, hbecomes r hr hselected⟩
      · exact ⟨r', hr, .refl r'⟩
    · exact (congrArg User.nebulaSource heq).symm
    · exact (congrArg User.skybridgeUserId heq).symm

end Rows

end OzonSuite
