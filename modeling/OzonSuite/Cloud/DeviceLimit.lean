/-
# The device limit

The main result on devices, for every order in which the statements of activations and of leases
in the making run among all other requests.  The lock on the row of the user makes what an
activation has read of the fleet of its user stay true until it stores its device.
-/
import OzonSuite.Cloud.Fulfilment
import OzonSuite.Cloud.Leases

namespace OzonSuite

open Lib

variable {x : Crates} {s₀ s s' : Cloud} {l : CloudLabel} {tr : List (CloudLabel × CloudAnswer)}

/-! ## What the lock protects -/

namespace Activation

variable {a a' : Activation} {r : Activation ⊕ Device} {db db' : Db} {draw : Draw}

/-- What the activation has read of the fleet of its user is still so. -/
def Current (x : Crates) (a : Activation) (db : Db) : Prop :=
  match a.phase with
  | .lookedUp _ existing => isActive existing =
      decide (db.hasActiveDevice a.claims.sub (hashFingerprint x a.input.fingerprint))
  | .admitted maxDevices existing => isActive existing =
      decide (db.hasActiveDevice a.claims.sub (hashFingerprint x a.input.fingerprint)) ∧
      (isActive existing = false → db.activeDevices a.claims.sub < maxDevices.toNat)
  | _ => True

/-- It stays so as long as the fleet of the user does. -/
lemma Current.of_fleet (h : a.Current x db)
    (hfleet : db'.fleet a.claims.sub = db.fleet a.claims.sub) : a.Current x db' := by
  simp only [Current, Db.hasActiveDevice, Db.activeDevices_eq, hfleet] at h ⊢
  exact h

lemma current_of_not_holdsLock (h : a.holdsLock = false) : a.Current x db := by
  have hphase : a.phase = .waiting := by simpa [holdsLock] using h
  simp [Current, hphase]

/-- **The next statement reads the fleet as it is.** -/
lemma Current.next (h : a.Current x db) (hnext : Activation.Next x a draw db (.inl a') db') :
    a'.Current x db' := by
  cases hnext with
  | lock => simp [Current]
  | limit => simp [Current]
  | lookUp _ hexisting => simpa [Current] using hexisting
  | letIn hphase hroom =>
    simp only [Current, hphase] at h
    simpa [Current] using ⟨h, hroom⟩

/-- A statement does not change whose activation it is; after it the lock is held, unless the
activation has come to its end. -/
lemma Next.same (hnext : Activation.Next x a draw db (.inl a') db') :
    a'.claims = a.claims ∧ a'.holdsLock = true ∧ db' = db := by
  cases hnext <;> exact ⟨rfl, rfl, rfl⟩

end Activation

/-- The invariant of the locks: at most one activation holds the lock on a user, and what the
activations have read is still so. -/
structure Cloud.Locks (x : Crates) (s : Cloud) : Prop where
  exclusive : ∀ i j a b, slot s.activations i = some a → slot s.activations j = some b →
    a.holdsLock = true → b.holdsLock = true → a.claims.sub = b.claims.sub → i = j
  current : ∀ i a, slot s.activations i = some a → a.Current x s.db

namespace Cloud

/-- A step that leaves the activations and the fleets alone. -/
lemma Locks.of_fleets (h : s.Locks x) (hactivations : s'.activations = s.activations)
    (hfleets : s.db.SameFleets s'.db) : s'.Locks x where
  exclusive := by
    rw [hactivations]
    exact h.exclusive
  current i a ha := by
    rw [hactivations] at ha
    exact (h.current i a ha).of_fleet (hfleets _)

/-- A new activation waits for its lock. -/
lemma Locks.activate (h : s.Locks x) {a : Activation} (hphase : a.phase = .waiting)
    (hactivations : s'.activations = s.activations ++ [some a])
    (hfleets : s.db.SameFleets s'.db) : s'.Locks x := by
  have hnew : a.holdsLock = false := by simp [Activation.holdsLock, hphase]
  have hold : ∀ i b, slot s'.activations i = some b → b.holdsLock = true →
      slot s.activations i = some b := by
    intro i b hb hlock
    rw [hactivations] at hb
    rcases slot_append hb with ⟨-, hb'⟩ | hb'
    · obtain rfl := Option.some.inj hb'
      rw [hnew] at hlock
      cases hlock
    · exact hb'
  refine ⟨fun i j b c hb hc hlb hlc => ?_, fun i b hb => ?_⟩
  · exact h.exclusive i j b c (hold i b hb hlb) (hold j c hc hlc) hlb hlc
  · by_cases hlock : b.holdsLock = true
    · exact (h.current i b (hold i b hb hlock)).of_fleet (hfleets _)
    · exact Activation.current_of_not_holdsLock (by simpa using hlock)

/-- An activation that comes to its end and has stored nothing. -/
lemma Locks.drop (h : s.Locks x) {i : ℕ} (hactivations : s'.activations = s.activations.set i none)
    (hdb : s'.db = s.db) : s'.Locks x := by
  have hold : ∀ j b, slot s'.activations j = some b → slot s.activations j = some b := by
    intro j b hb
    rw [hactivations] at hb
    rcases slot_set hb with ⟨-, hb'⟩ | ⟨-, hb'⟩
    · cases hb'
    · exact hb'
  refine ⟨fun j k b c hb hc => h.exclusive j k b c (hold j b hb) (hold k c hc), fun j b hb => ?_⟩
  rw [hdb]
  exact h.current j b (hold j b hb)

/-- Nobody else holds the lock that an activation takes or has. -/
lemma Locks.alone (h : s.Locks x) {i : ℕ} {a : Activation} (ha : slot s.activations i = some a)
    (hwaits : s.waits l = false) (hrequest : l.request = .activation i) {j : ℕ} {b : Activation}
    (hb : slot s.activations j = some b) (hlock : b.holdsLock = true)
    (hsub : b.claims.sub = a.claims.sub) : j = i := by
  by_cases hown : a.holdsLock = true
  · exact h.exclusive j i b a hb ha hlock hown hsub
  · simp only [waits, hrequest, ha, Option.any_some, Bool.and_eq_false_imp, Bool.not_eq_true',
      lockedBy, List.any_eq_false] at hwaits
    have hother := hwaits (by simpa using hown) _ (mem_of_slot hb)
    simp [hlock, hsub] at hother

/-- **The next statement of an activation keeps the locks.** -/
lemma Locks.next (h : s.Locks x) (hwaits : s.waits l = false) {i : ℕ}
    (hrequest : l.request = .activation i) {a : Activation} (ha : slot s.activations i = some a)
    {r : Activation ⊕ Device} {db : Db} (hnext : Activation.Next x a l.draw s.db r db) :
    Locks x { s with db := db, activations := s.activations.set i r.getLeft? } := by
  cases r with
  | inl a' =>
    obtain ⟨hclaims, hlock, rfl⟩ := hnext.same
    have hcurrent := (h.current i a ha).next hnext
    have hothers : ∀ j b, slot (s.activations.set i (some a')) j = some b →
        (j = i ∧ b = a') ∨ (j ≠ i ∧ slot s.activations j = some b) := by
      intro j b hb
      rcases slot_set hb with ⟨hj, hb'⟩ | hb'
      · exact .inl ⟨hj, (Option.some.inj hb').symm⟩
      · exact .inr hb'
    refine ⟨fun j k b c hb hc hlb hlc hsub => ?_, fun j b hb => ?_⟩
    · rcases hothers j b hb with ⟨rfl, rfl⟩ | ⟨hj, hb'⟩
      · rcases hothers k c hc with ⟨rfl, -⟩ | ⟨hk, hc'⟩
        · rfl
        · exact (h.alone ha hwaits hrequest hc' hlc (hsub.symm.trans (by rw [hclaims]))).symm
      · rcases hothers k c hc with ⟨rfl, rfl⟩ | ⟨hk, hc'⟩
        · exact h.alone ha hwaits hrequest hb' hlb (hsub.trans (by rw [hclaims]))
        · exact h.exclusive j k b c hb' hc' hlb hlc hsub
    · rcases hothers j b hb with ⟨rfl, rfl⟩ | ⟨-, hb'⟩
      · exact hcurrent
      · exact h.current j b hb'
  | inr device =>
    have hothers : ∀ j b, slot (s.activations.set i none) j = some b →
        j ≠ i ∧ slot s.activations j = some b := by
      intro j b hb
      rcases slot_set hb with ⟨-, hb'⟩ | hb'
      · cases hb'
      · exact hb'
    refine ⟨fun j k b c hb hc => h.exclusive j k b c (hothers j b hb).2 (hothers k c hc).2,
      fun j b hb => ?_⟩
    obtain ⟨hj, hb'⟩ := hothers j b hb
    cases hnext with
    | store _ hstored =>
      by_cases hlock : b.holdsLock = true
      · -- the fleet of another user
        have hsub : b.claims.sub ≠ a.claims.sub := fun hsub =>
          hj (h.alone ha hwaits hrequest hb' hlock hsub)
        exact (h.current j b hb').of_fleet (hstored.others _ hsub)
      · exact Activation.current_of_not_holdsLock (by simpa using hlock)

/-- **Every step keeps the locks.** -/
theorem Locks.step (h : s.Locks x) (hwaits : s.waits l = false) : (s.step x l).2.Locks x := by
  have heffect := step_effect x s l
  generalize (s.step x l).1 = answer at heffect
  generalize (s.step x l).2 = s' at heffect
  cases heffect with
  | transaction _ hstep => exact h.of_fleets rfl (.of_devices hstep.devices)
  | delivery _ _ hdevices => exact h.of_fleets rfl (.of_devices hdevices)
  | activate _ hstep hphase => exact h.activate hphase rfl (.of_devices hstep.devices)
  | issue _ hstep => exact h.of_fleets rfl (.of_devices hstep.devices)
  | idle => exact h
  | refuseActivation => exact h.drop rfl rfl
  | activation hrequest ha hnext => exact h.next hwaits hrequest ha hnext
  | refuseIssuance => exact h.of_fleets rfl (.of_devices rfl)
  | issuance _ _ hnext =>
    cases hnext with
    | touch _ _ hfleets => exact h.of_fleets rfl hfleets
    | _ => exact h.of_fleets rfl (.of_devices rfl)

end Cloud

theorem locks_of_run (h₀ : (cloudMachine x).init s₀) (h : (cloudMachine x).Run s₀ tr s) :
    s.Locks x := by
  refine h.invariant (I := Cloud.Locks x) (fun s l hlocks hen => hlocks.step hen) ?_
  rw [h₀.1]
  exact ⟨fun _ _ _ _ ha => (by cases ha), fun _ _ ha => (by cases ha)⟩

/-! ## The limit that was selected -/

/-- The device limit that has been read. -/
def ActivationPhase.maxDevices : ActivationPhase → Option UInt8
  | waiting | locked => none
  | limited n | lookedUp n _ | admitted n _ => some n

/-- In an earlier step of its own the `i`-th activation has selected the limit `n`. -/
def LimitTraced (x : Crates) (s₀ : Cloud) (tr : List (CloudLabel × CloudAnswer)) (i : ℕ)
    (userId : UserId) (n : UInt8) : Prop :=
  (cloudMachine x).Happened s₀ tr fun l _ m =>
    l.request = .activation i ∧ m.db.LimitSelected userId (l.draw.clock 0) n

/-- The next statement of an activation keeps the limit, or selects it. -/
lemma limitTraced_next {i : ℕ} {a a' : Activation} {db : Db} {n : UInt8}
    (hold : ∀ n, a.phase.maxDevices = some n → LimitTraced x s₀ tr i a.claims.sub n)
    (hrun : (cloudMachine x).Run s₀ tr s) (hen : (cloudMachine x).enabled s l)
    (hrequest : l.request = .activation i)
    (hnext : Activation.Next x a l.draw s.db (.inl a') db) (hn : a'.phase.maxDevices = some n) :
    LimitTraced x s₀ (tr ++ [(l, ((cloudMachine x).step s l).1)]) i a'.claims.sub n := by
  cases hnext with
  | lock => cases hn
  | @limit hphase maxDevices hlimit =>
    obtain rfl := Option.some.inj hn
    exact .last hrun hen ⟨hrequest, hlimit⟩
  | lookUp hphase => exact (hold n (by rw [hphase]; exact hn)).snoc _
  | letIn hphase => exact (hold n (by rw [hphase]; exact hn)).snoc _

/-- **In every run the activations under way have selected their limits.** -/
theorem limit_traced (h₀ : (cloudMachine x).init s₀) (h : (cloudMachine x).Run s₀ tr s) :
    ∀ i a n, slot s.activations i = some a → a.phase.maxDevices = some n →
      LimitTraced x s₀ tr i a.claims.sub n := by
  refine Machine.Run.history (P := fun tr s => ∀ i a n, slot s.activations i = some a →
    a.phase.maxDevices = some n → LimitTraced x s₀ tr i a.claims.sub n) (fun i a n ha => ?_)
    (fun tr m l hrun ih hen => ?_) h
  · rw [h₀.1] at ha
    cases ha
  -- what has happened stays in the longer trace
  · have hkeep : ∀ step i a n, slot m.activations i = some a → a.phase.maxDevices = some n →
        LimitTraced x s₀ (tr ++ [step]) i a.claims.sub n :=
      fun step i a n ha hn => (ih i a n ha hn).snoc step
    have hnext := fun i a (ha : slot m.activations i = some a)
      (hrequest : l.request = .activation i) (a' : Activation) (db : Db) (n : UInt8)
      (hn : Activation.Next x a l.draw m.db (.inl a') db) =>
        limitTraced_next (fun n => ih i a n ha) hrun hen hrequest hn (n := n)
    have heffect : Cloud.Effect x m l ((cloudMachine x).step m l).1
      ((cloudMachine x).step m l).2 := Cloud.step_effect x m l
    generalize ((cloudMachine x).step m l).1 = answer at heffect hnext ⊢
    generalize ((cloudMachine x).step m l).2 = m' at heffect ⊢
    intro j b n hb hn
    cases heffect with
    | activate _ _ hphase =>
      -- a new activation has selected nothing yet
      rcases slot_append hb with ⟨rfl, hnew⟩ | hold
      · obtain rfl := Option.some.inj hnew
        rw [hphase] at hn
        cases hn
      · exact hkeep _ j b n hold hn
    | refuseActivation =>
      rcases slot_set hb with ⟨-, hnew⟩ | ⟨-, hold⟩
      · cases hnew
      · exact hkeep _ j b n hold hn
    | @activation i hrequest a ha r db hstep =>
      rcases slot_set hb with ⟨rfl, hnew⟩ | ⟨-, hold⟩
      · cases r with
        | inl a' =>
          obtain rfl := Option.some.inj hnew
          exact hnext j a ha hrequest a' db n hstep hn
        | inr device => cases hnew
      · exact hkeep _ j b n hold hn
    | _ => exact hkeep _ j b n hb hn

/-! ## The main result -/

/-- What a step of an activation does that ends with a device. -/
lemma device_of_answer {i : ℕ} {a : Activation} {d : Device} (hrequest : l.request = .activation i)
    (ha : slot s.activations i = some a) (h : ((cloudMachine x).step s l).1 = .device d) :
    ∃ n existing, a.phase = .admitted n existing ∧
      s.db.Upserted (a.device x) d ((cloudMachine x).step s l).2.db := by
  have heffect : Cloud.Effect x s l ((cloudMachine x).step s l).1 ((cloudMachine x).step s l).2 :=
    Cloud.step_effect x s l
  rw [h] at heffect
  generalize ((cloudMachine x).step s l).2 = s' at heffect
  generalize hanswer : CloudAnswer.device d = answer at heffect
  cases heffect with
  | transaction _ _ hplain =>
    rw [← hanswer] at hplain
    cases hplain
  | activation hrequest' ha' hnext =>
    obtain rfl := CloudRequest.activation.inj (hrequest.symm.trans hrequest')
    obtain rfl := Option.some.inj (ha.symm.trans ha')
    cases hnext with
    | store hphase hstored =>
      obtain rfl := CloudAnswer.device.inj hanswer
      exact ⟨_, _, hphase, hstored⟩
    | _ => cases hanswer
  | issuance _ _ hnext => cases hnext <;> cases hanswer
  | _ => cases hanswer

/-- An activation is refused for the limit only when its device is not active. -/
lemma not_active_of_refused (hlocks : s.Locks x) {i : ℕ} {a : Activation} {count : ℕ} {n : UInt8}
    (hrequest : l.request = .activation i) (ha : slot s.activations i = some a)
    (h : ((cloudMachine x).step s l).1 = .refused (deviceLimitReached count n)) :
    ¬ s.db.hasActiveDevice a.claims.sub (hashFingerprint x a.input.fingerprint) := by
  have heffect : Cloud.Effect x s l ((cloudMachine x).step s l).1 ((cloudMachine x).step s l).2 :=
    Cloud.step_effect x s l
  rw [h] at heffect
  generalize ((cloudMachine x).step s l).2 = s' at heffect
  generalize hanswer : CloudAnswer.refused (deviceLimitReached count n) = answer at heffect
  cases heffect with
  | transaction hcont =>
    rw [hrequest] at hcont
    cases hcont
  | refuseActivation hrequest' hlimit =>
    obtain rfl := CloudRequest.activation.inj (hrequest.symm.trans hrequest')
    obtain ⟨limit, existing, hphase, hinactive⟩ :=
      hlimit a count n ha (CloudAnswer.refused.inj hanswer).symm
    have hcurrent := hlocks.current i a ha
    simp only [Activation.Current, hphase] at hcurrent
    rw [hinactive] at hcurrent
    simpa using hcurrent.symm
  | activation _ _ hnext => cases hnext <;> cases hanswer
  | refuseIssuance hrequest' => simp [hrequest] at hrequest'
  | issuance hrequest' => simp [hrequest] at hrequest'
  | _ => cases hanswer

/-- Nothing but the end of an activation and the touch of a lease writes to the devices. -/
lemma devices_of_not_device
    (hrequest : (∃ i, l.request = .activation i) ∨
      ∃ claims input, l.request = .activateDevice claims input)
    (h : ∀ d, ((cloudMachine x).step s l).1 ≠ .device d) :
    ((cloudMachine x).step s l).2.db.devices = s.db.devices := by
  have heffect : Cloud.Effect x s l ((cloudMachine x).step s l).1 ((cloudMachine x).step s l).2 :=
    Cloud.step_effect x s l
  generalize ((cloudMachine x).step s l).1 = answer at heffect h
  generalize ((cloudMachine x).step s l).2 = s' at heffect ⊢
  cases heffect with
  | transaction _ hstep => exact hstep.devices
  | delivery _ _ hdevices => exact hdevices
  | activate _ hstep => exact hstep.devices
  | issue _ hstep => exact hstep.devices
  | idle => rfl
  | refuseActivation => rfl
  | activation _ _ hnext =>
    cases hnext with
    | store => exact absurd rfl (h _)
    | _ => rfl
  | refuseIssuance => rfl
  | issuance hrequest' =>
    rcases hrequest with ⟨i, hr⟩ | ⟨claims, input, hr⟩ <;> simp [hr] at hrequest'

/-- **The device limit.**  In every state that a run reaches: an activation that ends with a device
leaves it active, and leaves no more active devices than the limit that it selected itself from
the best active entitlement, unless the device was active before; then no user has more or fewer
active devices than before.  An activation is refused for the limit only when its device is not
active, and the steps of an activation that is refused leave the devices as they were.  A lease is
made only when the active devices it counted were not more than the limit it selected. -/
theorem device_limit (h₀ : (cloudMachine x).init s₀) (h : (cloudMachine x).Run s₀ tr s)
    (l : CloudLabel) :
    (∀ i a d, l.request = .activation i → slot s.activations i = some a →
      ((cloudMachine x).step s l).1 = .device d →
      let before := s.db
      let after := ((cloudMachine x).step s l).2.db
      let user := a.claims.sub
      let fingerprint := hashFingerprint x a.input.fingerprint
      after.hasActiveDevice user fingerprint ∧
      (¬ before.hasActiveDevice user fingerprint → ∃ n, LimitTraced x s₀ tr i user n ∧
        after.activeDevices user ≤ n.toNat) ∧
      (before.hasActiveDevice user fingerprint →
        ∀ u, after.activeDevices u = before.activeDevices u)) ∧
    (∀ i a count n, l.request = .activation i → slot s.activations i = some a →
      ((cloudMachine x).step s l).1 = .refused (deviceLimitReached count n) →
      ¬ s.db.hasActiveDevice a.claims.sub (hashFingerprint x a.input.fingerprint)) ∧
    ((∃ i, l.request = .activation i) ∨ (∃ claims input, l.request = .activateDevice claims input) →
      (∀ d, ((cloudMachine x).step s l).1 ≠ .device d) →
      ((cloudMachine x).step s l).2.db.devices = s.db.devices) ∧
    (∀ i a lease, l.request = .issuance i → slot s.issuances i = some a →
      ((cloudMachine x).step s l).1 = .lease lease →
      ∃ count n, count ≤ UInt8.toNat n ∧
        ((cloudMachine x).Happened s₀ tr fun l' _ m =>
          l'.request = .issuance i ∧ m.db.activeDevices a.claims.sub = count) ∧
        (cloudMachine x).Happened s₀ tr fun l' _ m =>
          l'.request = .issuance i ∧ m.db.LimitSelected a.claims.sub (l'.draw.clock 0) n) := by
  have hlocks := locks_of_run h₀ h
  refine ⟨fun i a d hrequest ha hanswer => ?_,
    fun i a count n hrequest ha => not_active_of_refused hlocks hrequest ha, devices_of_not_device,
    fun i a lease hrequest ha hanswer => ?_⟩
  -- the device is the answer to the statement that stores it
  · obtain ⟨n, existing, hphase, hstored⟩ := device_of_answer hrequest ha hanswer
    have hcurrent := hlocks.current i a ha
    simp only [Activation.Current, hphase] at hcurrent
    have hcount : ((cloudMachine x).step s l).2.db.activeDevices a.claims.sub =
        s.db.activeDevices a.claims.sub +
          if s.db.hasActiveDevice a.claims.sub (hashFingerprint x a.input.fingerprint) then 0
          else 1 := hstored.count
    refine ⟨hstored.active, fun hinactive => ⟨n, ?_, ?_⟩, fun hactive u => ?_⟩
    · exact limit_traced h₀ h i a n ha (by rw [hphase]; rfl)
    -- under the lock the count is still what the activation has read
    · have hlt := hcurrent.2 (by rw [hcurrent.1]; simpa using hinactive)
      rw [if_neg hinactive] at hcount
      omega
    · by_cases hu : u = a.claims.sub
      · rw [hu, hcount, if_pos hactive, Nat.add_zero]
      · rw [Db.activeDevices_eq, Db.activeDevices_eq, hstored.others u hu]
  · obtain ⟨i', a', device, e, n, count, hrequest', ha', hphase, -⟩ := lease_of_answer hanswer
    obtain rfl := CloudRequest.issuance.inj (hrequest.symm.trans hrequest')
    obtain rfl := Option.some.inj (ha.symm.trans ha')
    -- what the lease rests on was read by its earlier statements
    have htraced := issuance_traced h₀ h i a ha
    obtain ⟨hle, hcount⟩ := htraced.activeCount count n (by rw [hphase]; rfl)
    exact ⟨count, n, hle, hcount, htraced.maxDevices n (by rw [hphase]; rfl)⟩

/-! A device that is activated after its user has paid, while another one waits for the lock. -/

/-- The user of the shop activates a machine. -/
def activateRequest (fingerprint : String) : CloudRequest :=
  .activateDevice ⟨⟨.ofNat 2⟩, ⟨.ofNat 1⟩⟩ ⟨"laptop", fingerprint⟩

/-- The `i`-th activation, up to its last statement. -/
def activationSteps (n i : ℕ) : List CloudLabel :=
  (List.range 4).map fun k => shopLabel (n + k) (.activation i) true

/-- An order is paid, and two machines are to be activated. -/
def fleetSteps : List CloudLabel :=
  [shopLabel 1 (paidEvent "evt_1") true, shopLabel 2 (activateRequest "machine-1") true,
   shopLabel 3 (activateRequest "machine-2") true] ++ activationSteps 4 0

/-- The activation of the first machine. -/
def firstActivation : Activation where
  claims := ⟨⟨.ofNat 2⟩, ⟨.ofNat 1⟩⟩
  input := ⟨"laptop", "machine-1"⟩
  now := 1767225720000000
  phase := .admitted 1 none

theorem device_limit_first :
    ∃ tr s, (cloudMachine tableCrates).Run (.start shopDb) tr s ∧
      ∃ n, LimitTraced tableCrates (.start shopDb) tr 0 ⟨.ofNat 2⟩ n ∧
        ((cloudMachine tableCrates).step s (shopLabel 8 (.activation 0) true)).2.db.activeDevices
          ⟨.ofNat 2⟩ ≤ n.toNat := by
  have hrun := Machine.run_exec
    (show (cloudMachine tableCrates).Allows (.start shopDb) fleetSteps by decide)
  have hslot : slot ((cloudMachine tableCrates).exec (.start shopDb) fleetSteps).2.activations 0 =
      some firstActivation := by decide
  have hmain := (device_limit shop_init hrun (shopLabel 8 (.activation 0) true)).1 0
    firstActivation (firstActivation.device tableCrates) rfl hslot (by decide)
  exact ⟨_, _, hrun, hmain.2.1 (by decide)⟩

end OzonSuite
