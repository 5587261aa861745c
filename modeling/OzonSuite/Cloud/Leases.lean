/-
# The history of a lease

A lease is made in several statements, each of which reads the database as it is then.  This file
says, for every run, in which earlier states the things were read that a lease rests on.
-/
import OzonSuite.Cloud.Steps

namespace OzonSuite

open Lib

variable {x : Crates} {s₀ s s' : Cloud} {l : CloudLabel} {tr : List (CloudLabel × CloudAnswer)}

/-! ## What has been read so far -/

namespace IssuancePhase

/-- The device, once it has been found. -/
def device : IssuancePhase → Option Device
  | started => none
  | deviceFound d | selected d _ | limited d _ _ | checked d _ _ _ | committed d _ _ _ => some d

/-- The entitlement, once it has been selected. -/
def entitlement : IssuancePhase → Option Entitlement
  | started | deviceFound _ => none
  | selected _ e | limited _ e _ | checked _ e _ _ | committed _ e _ _ => some e

/-- The limit, once it has been read. -/
def maxDevices : IssuancePhase → Option UInt8
  | started | deviceFound _ | selected _ _ => none
  | limited _ _ n | checked _ _ n _ | committed _ _ n _ => some n

/-- The number of active devices that were counted, with the limit that allowed them. -/
def activeCount : IssuancePhase → Option (ℕ × UInt8)
  | started | deviceFound _ | selected _ _ | limited _ _ _ => none
  | checked _ _ n count | committed _ _ n count => some (count, n)

end IssuancePhase

/-- What the `i`-th request for a lease has read, it has read in an earlier step of its own. -/
structure Issuance.Traced (x : Crates) (s₀ : Cloud) (tr : List (CloudLabel × CloudAnswer)) (i : ℕ)
    (a : Issuance) : Prop where
  device : ∀ d, a.phase.device = some d → (cloudMachine x).Happened s₀ tr fun l _ m =>
    l.request = .issuance i ∧ m.db.ActiveDevice a.claims.sub d
  entitlement : ∀ e, a.phase.entitlement = some e → (cloudMachine x).Happened s₀ tr fun l _ m =>
    l.request = .issuance i ∧ m.db.Selectable a.claims.sub (l.draw.clock 0) e
  maxDevices : ∀ n, a.phase.maxDevices = some n → (cloudMachine x).Happened s₀ tr fun l _ m =>
    l.request = .issuance i ∧ m.db.LimitSelected a.claims.sub (l.draw.clock 0) n
  activeCount : ∀ count n, a.phase.activeCount = some (count, n) → count ≤ n.toNat ∧
    (cloudMachine x).Happened s₀ tr fun l _ m =>
      l.request = .issuance i ∧ m.db.activeDevices a.claims.sub = count

namespace Issuance

variable {i : ℕ} {a a' : Issuance} {r : Issuance ⊕ EntitlementLease} {db : Db}

lemma Traced.snoc (h : a.Traced x s₀ tr i) (step : CloudLabel × CloudAnswer) :
    a.Traced x s₀ (tr ++ [step]) i where
  device d hd := (h.device d hd).snoc step
  entitlement e he := (h.entitlement e he).snoc step
  maxDevices n hn := (h.maxDevices n hn).snoc step
  activeCount count n hn := ⟨(h.activeCount count n hn).1, (h.activeCount count n hn).2.snoc step⟩

/-- A request that has read nothing. -/
lemma traced_started (hphase : a.phase = .started) : a.Traced x s₀ tr i := by
  constructor <;> simp [hphase, IssuancePhase.device, IssuancePhase.entitlement,
    IssuancePhase.maxDevices, IssuancePhase.activeCount]

/-- **The next statement adds what it reads.** -/
lemma Traced.next (h : a.Traced x s₀ tr i) (hrun : (cloudMachine x).Run s₀ tr s)
    (hen : (cloudMachine x).enabled s l) (hrequest : l.request = .issuance i)
    {sign : EntitlementLease → Except ApiError EntitlementLease}
    (hnext : Issuance.Next sign a l.draw s.db (.inl a') db) :
    a'.Traced x s₀ (tr ++ [(l, ((cloudMachine x).step s l).1)]) i := by
  have hold := h.snoc (l, ((cloudMachine x).step s l).1)
  -- what the statement reads, it reads in this state
  have hnow : ∀ P : CloudLabel → Cloud → Prop, P l s →
      (cloudMachine x).Happened s₀ (tr ++ [(l, ((cloudMachine x).step s l).1)]) fun l' _ m =>
        l'.request = .issuance i ∧ P l' m := fun P hP => .last hrun hen ⟨hrequest, hP⟩
  cases hnext with
  | @find hphase device hdevice =>
    refine ⟨fun d hd => ?_, fun _ h => (by cases h), fun _ h => (by cases h),
      fun _ _ h => (by cases h)⟩
    obtain rfl := Option.some.inj hd
    exact hnow (fun _ m => m.db.ActiveDevice a.claims.sub device) hdevice
  | @select device hphase e he =>
    refine ⟨fun d hd => hold.device d (by rw [hphase]; exact hd), fun e' he' => ?_,
      fun _ h => (by cases h), fun _ _ h => (by cases h)⟩
    obtain rfl := Option.some.inj he'
    exact hnow (fun l m => m.db.Selectable a.claims.sub (l.draw.clock 0) e) he
  | @limit device e hphase maxDevices hlimit =>
    refine ⟨fun d hd => hold.device d (by rw [hphase]; exact hd),
      fun e he => hold.entitlement e (by rw [hphase]; exact he), fun n hn => ?_,
      fun _ _ h => (by cases h)⟩
    obtain rfl := Option.some.inj hn
    exact hnow (fun l m => m.db.LimitSelected a.claims.sub (l.draw.clock 0) maxDevices) hlimit
  | @count device e maxDevices hphase hle =>
    refine ⟨fun d hd => hold.device d (by rw [hphase]; exact hd),
      fun e he => hold.entitlement e (by rw [hphase]; exact he),
      fun n hn => hold.maxDevices n (by rw [hphase]; exact hn), fun count n hn => ?_⟩
    obtain ⟨rfl, rfl⟩ := Prod.mk.inj (Option.some.inj hn)
    exact ⟨hle, hnow (fun _ m => m.db.activeDevices a.claims.sub = _) rfl⟩
  | touch hphase =>
    exact ⟨fun d hd => hold.device d (by rw [hphase]; exact hd),
      fun e he => hold.entitlement e (by rw [hphase]; exact he),
      fun n hn => hold.maxDevices n (by rw [hphase]; exact hn),
      fun count n hn => hold.activeCount count n (by rw [hphase]; exact hn)⟩

end Issuance

/-- **In every run the leases in the making have their history.** -/
theorem issuance_traced (h₀ : (cloudMachine x).init s₀) (h : (cloudMachine x).Run s₀ tr s) :
    ∀ i a, slot s.issuances i = some a → a.Traced x s₀ tr i := by
  refine Machine.Run.history (P := fun tr s => ∀ i a, slot s.issuances i = some a →
    a.Traced x s₀ tr i) (fun i a ha => ?_) (fun tr m l hrun ih hen => ?_) h
  · rw [h₀.1] at ha
    cases ha
  -- what has happened stays in the longer trace
  · have hkeep : ∀ step i a, slot m.issuances i = some a → a.Traced x s₀ (tr ++ [step]) i :=
      fun step i a ha => (ih i a ha).snoc step
    have heffect : Cloud.Effect x m l ((cloudMachine x).step m l).1
      ((cloudMachine x).step m l).2 := Cloud.step_effect x m l
    have hnext := fun i a (ha : slot m.issuances i = some a) (hrequest : l.request = .issuance i)
      (sign : EntitlementLease → Except ApiError EntitlementLease) (a' : Issuance) (db : Db)
      (hn : Issuance.Next sign a l.draw m.db (.inl a') db) =>
        (ih i a ha).next hrun hen hrequest hn
    generalize ((cloudMachine x).step m l).1 = answer at heffect hnext ⊢
    generalize ((cloudMachine x).step m l).2 = m' at heffect ⊢
    intro j b hb
    cases heffect with
    | issue _ _ hphase =>
      rcases slot_append hb with ⟨rfl, hnew⟩ | hold
      · obtain rfl := Option.some.inj hnew
        exact Issuance.traced_started hphase
      · exact hkeep _ j b hold
    | refuseIssuance =>
      rcases slot_set hb with ⟨-, hnew⟩ | ⟨-, hold⟩
      · cases hnew
      · exact hkeep _ j b hold
    | @issuance i hrequest a ha r db hn =>
      rcases slot_set hb with ⟨rfl, hnew⟩ | ⟨-, hold⟩
      · cases r with
        | inl a' =>
          obtain rfl := Option.some.inj hnew
          exact hnext j a ha hrequest _ a' db hn
        -- a lease that has been made leaves its slot empty
        | inr lease => cases hnew
      · exact hkeep _ j b hold
    | _ => exact hkeep _ j b hb

/-! ## The lease -/

/-- Where a lease that is answered comes from. -/
lemma lease_of_answer {lease : EntitlementLease}
    (h : ((cloudMachine x).step s l).1 = .lease lease) :
    ∃ i a device e maxDevices count, l.request = .issuance i ∧ slot s.issuances i = some a ∧
      a.phase = .committed device e maxDevices count ∧
      signEntitlementLease x l.config l.draw (.new a.claims.tenantId a.claims.sub device.id e
        (l.draw.uuid 0) (l.draw.clock 0)) = .ok lease := by
  have heffect : Cloud.Effect x s l ((cloudMachine x).step s l).1 ((cloudMachine x).step s l).2 :=
    Cloud.step_effect x s l
  rw [h] at heffect
  generalize ((cloudMachine x).step s l).2 = s' at heffect
  generalize hanswer : CloudAnswer.lease lease = answer at heffect
  cases heffect with
  | transaction _ _ hplain =>
    rw [← hanswer] at hplain
    cases hplain
  | activation _ _ hnext => cases hnext <;> cases hanswer
  | issuance hrequest ha hnext =>
    cases hnext with
    | sign hphase hsign =>
      obtain rfl := CloudAnswer.lease.inj hanswer
      exact ⟨_, _, _, _, _, _, hrequest, ha, hphase, hsign⟩
    | _ => cases hanswer
  | _ => cases hanswer

end OzonSuite
