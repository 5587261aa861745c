/-
# Reading one's writes from the layered store

Operations of the layered store that are made one after the other, while the keyring comes and
goes.  What a read answers is what was last written as long as the keyring, at the times when it
cannot be reached, holds nothing that the fallback does not hold as well.
-/
import OzonSuite.Lib.Machine
import OzonSuite.SecretStore.Layered

namespace OzonSuite

open Lib

/-! ## One operation after the other -/

/-- A request, and how the keyring takes each of the calls that are made to it for the request.
It works again when the list is used up. -/
abbrev StoreStep := SecretRequest × List Keyring

/-- The call goes to the keyring. -/
def LayerCall.isPrimary : LayerCall → Bool
  | .primaryPut _ _ | .primaryGet _ | .primaryDelete _ => true
  | .fallbackPut _ _ | .fallbackGet _ | .fallbackDelete _ => false

/-- A call to a layer; a call to the keyring finds it as the list says. -/
def Layers.handleNext (c : LayerCall) (s : Layers × List Keyring) :
    c.Response × (Layers × List Keyring) :=
  if c.isPrimary then
    let r := Layers.handle (s.2.headD .working) c s.1
    (r.1, r.2, s.2.tail)
  else
    let r := Layers.handle .working c s.1
    (r.1, r.2, s.2)

/-- The layered store serving one request after the other. -/
def layeredStore : Machine Layers StoreStep SecretReply where
  init _ := True
  enabled _ _ := True
  step s l :=
    let r := l.1.serve.run Layers.handleNext (s, l.2)
    (r.1, r.2.1)

/-- How the keyring takes the first call of a step. -/
def StoreStep.first (l : StoreStep) : Keyring := l.2.headD .working

/-! ### What each operation does -/

section Steps

variable (s : Layers) (name : SecretName) (value : String) (ks : List Keyring)

/-- A put writes to the keyring, or else to the fallback; it does not fail. -/
lemma step_put_working (h : StoreStep.first (.put name value, ks) = .working) :
    layeredStore.step s (.put name value, ks) = (.done (.ok ()),
      ⟨Function.update s.primary name (some value), Function.update s.fallback name none⟩) := by
  rcases ks with _ | ⟨_ | e | _, ks⟩
  · rfl
  · rfl
  · simp [StoreStep.first] at h
  · simp [StoreStep.first] at h

lemma step_put_failing (h : StoreStep.first (.put name value, ks) ≠ .working) :
    layeredStore.step s (.put name value, ks) = (.done (.ok ()),
      ⟨s.primary, Function.update s.fallback name (some value)⟩) := by
  rcases ks with _ | ⟨_ | e | _, ks⟩
  · exact absurd rfl h
  · exact absurd rfl h
  · rfl
  · rfl

/-- What a read leaves behind when the keyring answers its first call. -/
def Layers.afterGet (second : Keyring) : Layers :=
  match s.primary name, s.fallback name with
  | some _, _ => ⟨s.primary, Function.update s.fallback name none⟩
  | none, some value =>
    if second = .working then
      ⟨Function.update s.primary name (some value), Function.update s.fallback name none⟩
    else s
  | none, none => s

/-- A read that reaches the keyring answers what is stored, and may move it. -/
lemma step_get_working (h : StoreStep.first (.get name, ks) = .working) :
    layeredStore.step s (.get name, ks) =
      (.value (.ok (s.stored name)), s.afterGet name (ks.tail.headD .working)) := by
  have hks : ks = [] ∨ ∃ ks', ks = .working :: ks' := by
    cases ks with
    | nil => exact .inl rfl
    | cons k ks => exact .inr ⟨ks, by rw [← h]; rfl⟩
  cases hp : s.primary name <;> cases hf : s.fallback name <;>
    rcases hks with rfl | ⟨_ | ⟨_ | e | _, ks'⟩, rfl⟩ <;>
    simp [layeredStore, SecretRequest.serve, LayeredSecretStore.get, Layers.handleNext,
      LayerCall.isPrimary, Layers.handle, Keyring.response, Layers.stored, Layers.afterGet, hp, hf]

/-- A read that does not reach the keyring answers what the fallback holds. -/
lemma step_get_failing (h : StoreStep.first (.get name, ks) ≠ .working) :
    layeredStore.step s (.get name, ks) = (.value (.ok (s.fallback name)), s) := by
  rcases ks with _ | ⟨_ | e | _, ks⟩
  · exact absurd rfl h
  · exact absurd rfl h
  · rfl
  · rfl

/-- A delete empties both layers, or fails and empties the fallback alone. -/
lemma step_delete_working (h : StoreStep.first (.delete name, ks) = .working) :
    layeredStore.step s (.delete name, ks) = (.done (.ok ()),
      ⟨Function.update s.primary name none, Function.update s.fallback name none⟩) := by
  rcases ks with _ | ⟨_ | e | _, ks⟩
  · rfl
  · rfl
  · simp [StoreStep.first] at h
  · simp [StoreStep.first] at h

lemma step_delete_failing (h : StoreStep.first (.delete name, ks) ≠ .working) :
    ∃ e, layeredStore.step s (.delete name, ks) = (.done (.error e),
      ⟨s.primary, Function.update s.fallback name none⟩) := by
  rcases ks with _ | ⟨_ | e | _, ks⟩
  · exact absurd rfl h
  · exact absurd rfl h
  · exact ⟨e, rfl⟩
  · exact ⟨.backendUnavailable, rfl⟩

end Steps

/-- A step leaves what is held under other names as it is. -/
lemma step_other {s : Layers} {l : StoreStep} {name : SecretName} (h : l.1.name ≠ name) :
    (layeredStore.step s l).2.primary name = s.primary name ∧
      (layeredStore.step s l).2.fallback name = s.fallback name := by
  obtain ⟨request, ks⟩ := l
  have hne : name ≠ request.name := fun he => h he.symm
  cases request with
  | put n value =>
    by_cases hk : StoreStep.first (.put n value, ks) = .working
    · rw [step_put_working _ _ _ _ hk]
      simp [show name ≠ n from hne]
    · rw [step_put_failing _ _ _ _ hk]
      simp [show name ≠ n from hne]
  | get n =>
    by_cases hk : StoreStep.first (.get n, ks) = .working
    · rw [step_get_working _ _ _ hk]
      unfold Layers.afterGet
      split <;> (try split) <;> simp [show name ≠ n from hne]
    · rw [step_get_failing _ _ _ hk]
      exact ⟨rfl, rfl⟩
  | delete n =>
    by_cases hk : StoreStep.first (.delete n, ks) = .working
    · rw [step_delete_working _ _ _ hk]
      simp [show name ≠ n from hne]
    · obtain ⟨e, he⟩ := step_delete_failing s n ks hk
      rw [he]
      simp [show name ≠ n from hne]

/-! ## The last write -/

/-- A step of a run, with its answer. -/
abbrev StoreEvent := StoreStep × SecretReply

/-- What is known to be written under a name after one more step: a put or a delete that has
answered `Ok` counts. -/
def noteWrite (name : SecretName) (known : Option (Option String)) :
    StoreEvent → Option (Option String)
  | ((.put n value, _), .done (.ok ())) => if n = name then some (some value) else known
  | ((.delete n, _), .done (.ok ())) => if n = name then some none else known
  | _ => known

/-- What was last written under a name, `some none` if it was deleted.  Nothing is known of what
the layers of the start hold before the first write; that they are empty counts as a delete. -/
def lastWrite (start : Layers) (name : SecretName) (tr : List StoreEvent) :
    Option (Option String) :=
  tr.foldl (noteWrite name)
    (if start.primary name = none ∧ start.fallback name = none then some none else none)

lemma lastWrite_snoc (start : Layers) (name : SecretName) (tr : List StoreEvent) (e : StoreEvent) :
    lastWrite start name (tr ++ [e]) = noteWrite name (lastWrite start name tr) e := by
  simp [lastWrite]

lemma noteWrite_other {name : SecretName} {known : Option (Option String)} {e : StoreEvent}
    (h : e.1.1.name ≠ name) : noteWrite name known e = known := by
  obtain ⟨⟨request, ks⟩, reply⟩ := e
  cases request <;> rcases reply with (_ | _) | _ <;>
    simp_all [noteWrite, SecretRequest.name]

/-- Every read of the trace that answers `Ok` answers what was last written. -/
def ReadsItsWrites (start : Layers) (tr : List StoreEvent) : Prop :=
  ∀ pre name ks r post, tr = pre ++ ((.get name, ks), .value (.ok r)) :: post →
    ∀ v, lastWrite start name pre = some v → r = v

/-- The condition on a step whose first call does not reach the keyring: the keyring and the
fallback do not tell different stories about the name, neither before the step nor, for a put,
after it.  For a read and a delete this matters as soon as a write is known. -/
def Careful (known : Option (Option String)) (s : Layers) (l : StoreStep) : Prop :=
  l.first ≠ .working →
    match l.1 with
    | .put name value => s.primary name = none ∨ s.primary name = some value
    | .get name => known.isSome → s.primary name = none ∨ s.fallback name = s.primary name
    | .delete name => known.isSome → s.fallback name = none ∨ s.fallback name = s.primary name

/-- Every step of the trace is careful in the state in which it is taken. -/
def CarefulRun (start : Layers) (tr : List StoreEvent) : Prop :=
  ∀ pre e post m, tr = pre ++ e :: post → layeredStore.Run start pre m →
    Careful (lastWrite start e.1.1.name pre) m e.1

/-! ## The layers agree -/

/-- One of the layers, or both, hold `v` under the name, and no layer holds anything else. -/
def Layers.Agree (s : Layers) (name : SecretName) (v : Option String) : Prop :=
  (s.primary name = v ∧ s.fallback name = none) ∨ (s.primary name = none ∧ s.fallback name = v) ∨
    (s.primary name = v ∧ s.fallback name = v)

lemma Layers.Agree.stored {s : Layers} {name : SecretName} {v : Option String}
    (h : s.Agree name v) : s.stored name = v := by
  rcases h with ⟨hp, hf⟩ | ⟨hp, hf⟩ | ⟨hp, hf⟩ <;> cases v <;> simp [Layers.stored, hp, hf]

/-- A careful step keeps the layers in agreement on what was last written. -/
lemma agree_step {s : Layers} {l : StoreStep} {known : Option (Option String)}
    (hagree : ∀ v, known = some v → s.Agree l.1.name v) (hcareful : Careful known s l) :
    ∀ v, noteWrite l.1.name known (l, (layeredStore.step s l).1) = some v →
      (layeredStore.step s l).2.Agree l.1.name v := by
  obtain ⟨request, ks⟩ := l
  intro v hv
  cases request with
  | put name value =>
    by_cases hk : StoreStep.first (.put name value, ks) = .working
    · rw [step_put_working _ _ _ _ hk] at hv ⊢
      obtain rfl : some value = v := by simpa [noteWrite, SecretRequest.name] using hv
      exact .inl (by simp [SecretRequest.name])
    · rw [step_put_failing _ _ _ _ hk] at hv ⊢
      obtain rfl : some value = v := by simpa [noteWrite, SecretRequest.name] using hv
      rcases hcareful hk with hp | hp
      · exact .inr (.inl (by simp [SecretRequest.name, hp]))
      · exact .inr (.inr (by simp [SecretRequest.name, hp]))
  | get name =>
    by_cases hk : StoreStep.first (.get name, ks) = .working
    · rw [step_get_working _ _ _ hk] at hv ⊢
      have h : s.Agree name v := hagree v hv
      unfold Layers.afterGet
      rcases h with ⟨hp, hf⟩ | ⟨hp, hf⟩ | ⟨hp, hf⟩ <;> cases v <;>
        simp [Layers.Agree, SecretRequest.name, hp, hf]
      split <;> simp [hp, hf]
    · rw [step_get_failing _ _ _ hk] at hv ⊢
      exact hagree v hv
  | delete name =>
    by_cases hk : StoreStep.first (.delete name, ks) = .working
    · rw [step_delete_working _ _ _ hk] at hv ⊢
      obtain rfl : none = v := by simpa [noteWrite, SecretRequest.name] using hv
      exact .inl (by simp [SecretRequest.name])
    · obtain ⟨e, he⟩ := step_delete_failing s name ks hk
      rw [he] at hv ⊢
      have hknown : known = some v := hv
      have hf : s.fallback name = none ∨ s.fallback name = s.primary name :=
        hcareful hk (by rw [hknown]; rfl)
      rcases hagree v hknown with ⟨hp, -⟩ | ⟨hp, hf'⟩ | ⟨hp, -⟩
      · exact .inl ⟨hp, by simp [SecretRequest.name]⟩
      · -- the fallback alone held it, so the fallback was empty already
        have hv' : v = none := by
          simp only [SecretRequest.name] at hp hf'
          rw [hp, hf', or_self] at hf
          exact hf
        exact .inr (.inl ⟨hp, by simp [SecretRequest.name, hv']⟩)
      · exact .inl ⟨hp, by simp [SecretRequest.name]⟩

/-- What a careful read answers while the layers agree. -/
lemma get_answer {s : Layers} {name : SecretName} {ks : List Keyring} {v r : Option String}
    (hagree : s.Agree name v) (hcareful : Careful (some v) s (.get name, ks))
    (hr : (layeredStore.step s (.get name, ks)).1 = .value (.ok r)) : r = v := by
  by_cases hk : StoreStep.first (.get name, ks) = .working
  · rw [step_get_working _ _ _ hk] at hr
    obtain rfl : s.stored name = r := by simpa using hr
    exact hagree.stored
  · rw [step_get_failing _ _ _ hk] at hr
    obtain rfl : s.fallback name = r := by simpa using hr
    have h : s.primary name = none ∨ s.fallback name = s.primary name := hcareful hk rfl
    rcases hagree with ⟨hp, hf⟩ | ⟨-, hf⟩ | ⟨-, hf⟩
    · -- the keyring alone holds it, so nothing is held
      rcases h with h | h
      · rw [hf, ← h, hp]
      · rw [h, hp]
    · exact hf
    · exact hf

section Runs

variable {start s : Layers} {tr : List StoreEvent}

lemma CarefulRun.prefix {tr' : List StoreEvent} (h : CarefulRun start (tr ++ tr')) :
    CarefulRun start tr := by
  rintro pre e post m rfl hm
  exact h pre e (post ++ tr') m (by simp) hm

lemma CarefulRun.snoc {e : StoreEvent} (h : CarefulRun start tr)
    (hrun : layeredStore.Run start tr s)
    (he : Careful (lastWrite start e.1.1.name tr) s e.1) : CarefulRun start (tr ++ [e]) := by
  intro pre e' post m heq hm
  rcases List.eq_nil_or_concat post with rfl | ⟨post, e'', rfl⟩
  · obtain ⟨rfl, h'⟩ := List.append_inj' heq rfl
    obtain rfl : e = e' := by simpa using h'
    rwa [hm.unique hrun]
  · rw [List.concat_eq_append, ← List.cons_append, ← List.append_assoc] at heq
    obtain ⟨rfl, -⟩ := List.append_inj' heq rfl
    exact h pre e' post m rfl hm

/-- After a careful run the layers agree on what was last written. -/
lemma agree_run (hrun : layeredStore.Run start tr s) (hcareful : CarefulRun start tr)
    (name : SecretName) : ∀ v, lastWrite start name tr = some v → s.Agree name v := by
  induction hrun with
  | nil =>
    intro v hv
    by_cases h : start.primary name = none ∧ start.fallback name = none
    · obtain rfl : none = v := by simpa [lastWrite, h] using hv
      exact .inl h
    · simp [lastWrite, h] at hv
  | @snoc tr m l hrun _ ih =>
    intro v hv
    rw [lastWrite_snoc] at hv
    by_cases hname : l.1.name = name
    · subst hname
      exact agree_step (ih hcareful.prefix) (hcareful tr _ [] m rfl hrun) v hv
    · -- the step is about another name
      rw [noteWrite_other hname] at hv
      have h := ih hcareful.prefix v hv
      obtain ⟨hp, hf⟩ := step_other (s := m) hname
      unfold Layers.Agree at h ⊢
      rw [hp, hf]
      exact h

/-- When the store holds something else than what was last written, a read shows it. -/
lemma stale_shows (name : SecretName) (v : Option String)
    (hrun : layeredStore.Run start tr s) (hv : lastWrite start name tr = some v)
    (hne : s.stored name ≠ v) :
    ∃ e s', layeredStore.Run start (tr ++ [e]) s' ∧ ¬ ReadsItsWrites start (tr ++ [e]) := by
  have hstep : (layeredStore.step s (.get name, [])).1 = .value (.ok (s.stored name)) := by
    rw [step_get_working _ _ _ rfl]
  refine ⟨_, _, hrun.snoc (l := (.get name, [])) trivial, fun h => hne ?_⟩
  exact h tr name [] _ [] (by rw [hstep]) v hv

/-- A careless step after a careful run shows: the read that the step is, or a read after it,
answers something else than what was last written. -/
lemma careless_shows {l : StoreStep} (hrun : layeredStore.Run start tr s)
    (hcareful : CarefulRun start tr) (hl : ¬ Careful (lastWrite start l.1.name tr) s l) :
    ∃ rest s', layeredStore.Run start (tr ++ (l, (layeredStore.step s l).1) :: rest) s' ∧
      ¬ ReadsItsWrites start (tr ++ (l, (layeredStore.step s l).1) :: rest) := by
  have hrun' := hrun.snoc (l := l) trivial
  have hagree := agree_run hrun hcareful l.1.name
  obtain ⟨request, ks⟩ := l
  unfold Careful at hl
  push Not at hl
  obtain ⟨hk, hl⟩ := hl
  cases request with
  | put name value =>
    -- the keyring keeps another value than the one put into the fallback
    simp only [not_or] at hl
    rw [step_put_failing _ _ _ _ hk] at hrun' ⊢
    obtain ⟨a, ha⟩ := Option.ne_none_iff_exists'.mp hl.1
    obtain ⟨e, s', h, hbad⟩ := stale_shows name (some value) hrun'
      (by simp [lastWrite_snoc, noteWrite])
      (by
        rw [ha] at hl
        simpa [Layers.stored, ha] using hl.2)
    exact ⟨[e], s', by simpa using h, by simpa using hbad⟩
  | get name =>
    -- the keyring alone holds the value, and the fallback is asked
    simp only [Classical.not_imp, not_or] at hl
    obtain ⟨hknown, hp, hf⟩ := hl
    obtain ⟨v, hv⟩ := Option.isSome_iff_exists.mp hknown
    rw [step_get_failing _ _ _ hk] at hrun' ⊢
    refine ⟨[], _, hrun', fun h => ?_⟩
    have hfv : s.fallback name = v := h tr name ks _ [] rfl v hv
    rcases hagree v hv with ⟨hpv, -⟩ | ⟨hpn, -⟩ | ⟨hpv, -⟩
    · exact hf (hfv.trans hpv.symm)
    · exact hp hpn
    · exact hf (hfv.trans hpv.symm)
  | delete name =>
    -- the fallback alone held the value, and the failed delete has dropped it
    simp only [Classical.not_imp, not_or] at hl
    obtain ⟨hknown, hf, hpf⟩ := hl
    obtain ⟨v, hv⟩ := Option.isSome_iff_exists.mp hknown
    obtain ⟨e, he⟩ := step_delete_failing s name ks hk
    rw [he] at hrun' ⊢
    have hpn : s.primary name = none ∧ s.fallback name = v := by
      rcases hagree v hv with ⟨-, hfn⟩ | h | ⟨hpv, hfv⟩
      · exact absurd hfn hf
      · exact h
      · exact absurd (hfv.trans hpv.symm) hpf
    obtain ⟨e', s', h, hbad⟩ := stale_shows name v hrun'
      (by
        rw [lastWrite_snoc]
        exact hv)
      (by
        simp only [Layers.stored, hpn.1, Function.update_self, Option.or_none]
        rw [← hpn.2]
        exact fun h => hf h.symm)
    exact ⟨[e'], s', by simpa using h, by simpa using hbad⟩

/-- **Read your writes.**  In a run of the layered store in which every step is careful, every
read that answers `Ok` answers what was last written under its name.  Conversely, a careless step
is one that a read sees: such a run, continued by it, can be continued to a run in which some read
answers something else. -/
theorem layered_store_reads_its_writes (hrun : layeredStore.Run start tr s)
    (hcareful : CarefulRun start tr) :
    ReadsItsWrites start tr ∧
      ∀ l, ¬ Careful (lastWrite start l.1.name tr) s l →
        ∃ rest s', layeredStore.Run start (tr ++ (l, (layeredStore.step s l).1) :: rest) s' ∧
          ¬ ReadsItsWrites start (tr ++ (l, (layeredStore.step s l).1) :: rest) := by
  refine ⟨?_, fun l hl => careless_shows hrun hcareful hl⟩
  rintro pre name ks r post rfl v hv
  obtain ⟨m, hpre, -, hans, -⟩ := hrun.cut
  have hagree : m.Agree name v := agree_run hpre hcareful.prefix name v hv
  have hm : Careful (some v) m (.get name, ks) := by
    rw [← hv]
    exact hcareful pre _ post m rfl hpre
  exact get_answer hagree hm hans.symm

end Runs

/-- The keyring is away for a put and back for the read: the read answers what was put, and moves
it into the keyring. -/
theorem layered_store_reads_its_writes_migrated :
    ReadsItsWrites Layers.empty
      [((.put "ozon_config" "B", [.hanging]), .done (.ok ())),
        ((.get "ozon_config", []), .value (.ok (some "B")))] := by
  have hput : layeredStore.Run Layers.empty [((.put "ozon_config" "B", [.hanging]), _)] _ :=
    .single trivial
  have hget := hput.snoc (l := (.get "ozon_config", [])) trivial
  refine (layered_store_reads_its_writes hget (CarefulRun.snoc ?_ hput ?_)).1
  · have hnil : CarefulRun Layers.empty [] := by
      rintro pre e post m heq
      simp at heq
    exact hnil.snoc .nil fun _ => .inl rfl
  · exact fun h => absurd rfl h

/-- A put while the keyring is up, a put while it is away, and a read while it is up again: the
read answers the value of the first put. -/
theorem layered_store_shadows_write :
    ¬ ∀ start tr s, layeredStore.Run start tr s → ReadsItsWrites start tr := by
  intro h
  let steps : List StoreStep :=
    [(.put "ozon_config" "A", []), (.put "ozon_config" "B", [.hanging]), (.get "ozon_config", [])]
  have hrun : layeredStore.Run Layers.empty (layeredStore.exec Layers.empty steps).1 _ :=
    Machine.run_exec ⟨trivial, trivial, trivial, trivial⟩
  have hbad : (some "A" : Option String) = some "B" :=
    h _ _ _ hrun [((.put "ozon_config" "A", []), .done (.ok ())),
      ((.put "ozon_config" "B", [.hanging]), .done (.ok ()))] "ozon_config" [] (some "A") [] rfl
      (some "B") rfl
  simp at hbad

end OzonSuite
