/-
# The file of secrets changes as a whole

Whatever fails on the way, the file of secrets stands for the map that the successful changes make
of the old one, in the order in which they got the lock.  An operation under the lock has read the
map that is still there, and what it has prepared in the temporary file is that map with its change;
so the rename, which alone changes the file, makes the change and nothing else.
-/
import OzonSuite.Lib.JsonObject
import OzonSuite.SecretStore.File

namespace OzonSuite

open Lib

section Operations

variable {x : SerdeCrates} {unix : Bool} {io : Io} {disk : SecretFiles} {t : FileTask}

/-! ## One call -/

/-- What a map was written as is read as the map again. -/
def SerdeCrates.RoundTrips (x : SerdeCrates) : Prop :=
  ∀ order values, x.parse (x.toVec order values) = .ok values

/-- What an operation has prepared so far, of the map that is there. -/
def FileTask.Prepared (x : SerdeCrates) (disk : SecretFiles) : FileTask → Prop
  | .creatingDir request values => request.writes = true ∧
      ∃ old, disk.readMap x = .ok old ∧ values = request.apply old
  | .opening request payload => request.writes = true ∧
      ∃ old, disk.readMap x = .ok old ∧ x.parse payload = .ok (request.apply old)
  | .writing request payload => request.writes = true ∧
      (∃ old, disk.readMap x = .ok old ∧ x.parse payload = .ok (request.apply old)) ∧
      disk.temp = some []
  | .syncing request | .replacing request => request.writes = true ∧
      ∃ old contents, disk.readMap x = .ok old ∧ disk.temp = some contents ∧
        x.parse contents = .ok (request.apply old)
  | .waiting _ | .reading _ | .returned _ _ => True

lemma FileTask.prepared_of_outside (h : t.inside = false) : t.Prepared x disk := by
  cases t with
  | waiting _ | returned _ _ => trivial
  | _ => cases h

lemma FileTask.committed_of_not_returned (h : t.inside = true ∨ t.entered = false) :
    t.committed = none := by
  cases t <;> first | rfl | simp [inside, entered] at h

/-- What a call of an operation can do: the file of secrets stays as it is, or the operation
succeeds and has made its change. -/
inductive FileTask.Call (x : SerdeCrates) (disk : SecretFiles) (t next : FileTask)
    (disk' : SecretFiles) : Prop
  | keeps (hcommitted : next.committed = none) (hsecrets : disk'.secrets = disk.secrets)
      (htemp : disk' = disk ∨ t.inside = true ∧ t.request.writes = true)
      (hprepared : next.Prepared x disk')
  | commits (old : SecretMap) (hold : disk.readMap x = .ok old)
      (hnew : disk'.readMap x = .ok (t.request.apply old))
      (hcommitted : next.committed = some t.request) (hinside : t.inside = true)
      (hout : next.inside = false) (hwrites : t.request.writes = true)

lemma readMap_congr {disk' : SecretFiles} (h : disk'.secrets = disk.secrets) :
    disk'.readMap x = disk.readMap x := by
  rw [SecretFiles.readMap, SecretFiles.readMap, h]

lemma SecretRequest.committed_fail (request : SecretRequest) (e : SecretStoreError) :
    (FileTask.fail request e).committed = none := by
  cases request <;> rfl

/-- **A call of an operation.** -/
lemma FileTask.call_block (hx : x.RoundTrips) (ht : t.Prepared x disk)
    (hnot : ∀ request reply, t ≠ .returned request reply) :
    t.Call x disk (t.block x unix io disk).1 (t.block x unix io disk).2 := by
  have hfail : ∀ (e : SecretStoreError) (left : SecretFiles), left.secrets = disk.secrets →
      (left = disk ∨ t.inside = true ∧ t.request.writes = true) →
      t.Call x disk (fail t.request e) left :=
    fun e left hsecrets htemp =>
      .keeps (SecretRequest.committed_fail _ e) hsecrets htemp trivial
  cases t with
  | waiting request => exact .keeps rfl rfl (.inl rfl) trivial
  | reading request =>
    simp only [block]
    split
    · exact hfail _ _ rfl (.inl rfl)
    · cases hread : disk.readMap x with
      | error e => exact hfail e _ rfl (.inl rfl)
      | ok values =>
        cases request with
        | get name => exact .keeps rfl rfl (.inl rfl) trivial
        | put name value => exact .keeps rfl rfl (.inl rfl) ⟨rfl, values, hread, rfl⟩
        | delete name => exact .keeps rfl rfl (.inl rfl) ⟨rfl, values, hread, rfl⟩
  | creatingDir request values =>
    obtain ⟨hwrites, old, hold, rfl⟩ := ht
    simp only [block]
    split
    · exact hfail _ _ rfl (.inl rfl)
    · exact .keeps rfl rfl (.inl rfl) ⟨hwrites, old, hold, hx _ _⟩
  | opening request payload =>
    obtain ⟨hwrites, hpayload⟩ := ht
    simp only [block]
    split
    · exact hfail _ _ rfl (.inr ⟨rfl, hwrites⟩)
    · exact .keeps rfl rfl (.inr ⟨rfl, hwrites⟩) ⟨hwrites, hpayload, rfl⟩
  | writing request payload =>
    obtain ⟨hwrites, ⟨old, hold, hpayload⟩, htemp⟩ := ht
    simp only [block]
    split
    · exact hfail _ _ rfl (.inr ⟨rfl, hwrites⟩)
    · -- the file was empty, so it holds the payload and nothing behind it
      have hwritten : disk.temp.map (fun old => payload ++ old.drop payload.length) =
          some payload := by simp [htemp]
      rw [hwritten]
      have hprepared : ∃ old contents, disk.readMap x = .ok old ∧ some payload = some contents ∧
          x.parse contents = .ok (request.apply old) := ⟨old, payload, hold, rfl, hpayload⟩
      cases unix with
      | true => exact .keeps rfl rfl (.inr ⟨rfl, hwrites⟩) ⟨hwrites, hprepared⟩
      | false => exact .keeps rfl rfl (.inr ⟨rfl, hwrites⟩) ⟨hwrites, hprepared⟩
  | syncing request =>
    simp only [block]
    split
    · exact hfail _ _ rfl (.inl rfl)
    · exact .keeps rfl rfl (.inl rfl) ht
  | replacing request =>
    obtain ⟨hwrites, old, contents, hold, htemp, hcontents⟩ := ht
    simp only [block]
    split
    · exact hfail _ _ rfl (.inl rfl)
    · rw [htemp]
      exact .commits old hold hcontents rfl rfl rfl hwrites
  | returned request reply => exact absurd rfl (hnot request reply)

/-- An operation keeps its request, and has entered. -/
lemma FileTask.request_block : (t.block x unix io disk).1.request = t.request ∧
    (t.block x unix io disk).1.entered = true := by
  have hread : ∀ (request : SecretRequest) (values : SecretMap),
      (request.afterRead values).request = request ∧
        (request.afterRead values).entered = true := by
    intro request values
    cases request <;> exact ⟨rfl, rfl⟩
  cases t with
  | reading request =>
    simp only [block]
    split
    · exact ⟨rfl, rfl⟩
    · split
      · exact ⟨rfl, rfl⟩
      · exact hread request _
  | writing request payload =>
    simp only [block]
    split
    · exact ⟨rfl, rfl⟩
    · cases unix <;> exact ⟨rfl, rfl⟩
  | replacing request =>
    simp only [block]
    split
    · exact ⟨rfl, rfl⟩
    · split <;> exact ⟨rfl, rfl⟩
  | creatingDir request values => simp only [block]; split <;> exact ⟨rfl, rfl⟩
  | opening request payload => simp only [block]; split <;> exact ⟨rfl, rfl⟩
  | syncing request => simp only [block]; split <;> exact ⟨rfl, rfl⟩
  | waiting request => exact ⟨rfl, rfl⟩
  | returned request reply => exact ⟨rfl, rfl⟩

end Operations

/-! ## What every step keeps -/

/-- The file stands for what the successful changes make of the old map.  A writer under the lock is
there alone and got the lock last, and what it has prepared fits the map that is there. -/
structure FileInv (x : SerdeCrates) (base : Except SecretStoreError SecretMap)
    (s : FileSecretStore) : Prop where
  map : s.shared.disk.readMap x = base.map (applyAll s.committed)
  prepared : ∀ (i : ℕ) (t : FileTask), s.threads[i]? = some t → t.Prepared x s.shared.disk
  alone : ∀ (i j : ℕ) (t u : FileTask), s.threads[i]? = some t → s.threads[j]? = some u →
    t.inside = true → u.inside = true → t.request.writes = true → i = j
  last : ∀ (i : ℕ) (t : FileTask), s.threads[i]? = some t → t.inside = true →
    t.request.writes = true → ∃ before, s.shared.order = before ++ [i] ∧ i ∉ before
  waits : ∀ (i : ℕ) (t : FileTask), s.threads[i]? = some t → t.entered = false →
    i ∉ s.shared.order
  bounded : ∀ i ∈ s.shared.order, i < s.threads.length

lemma FileTask.entered_of_inside {t : FileTask} (h : t.inside = true) : t.entered = true := by
  cases t <;> first | rfl | cases h

lemma applyAll_append (requests : List SecretRequest) (request : SecretRequest)
    (values : SecretMap) : applyAll (requests ++ [request]) values =
      request.apply (applyAll requests values) := by
  rw [applyAll, List.foldl_append]
  rfl

section Steps

variable {x : SerdeCrates} {unix : Bool} {base : Except SecretStoreError SecretMap}
  {s : FileSecretStore}

lemma FileInv.of_init (h₀ : (fileStore x unix).init s) :
    FileInv x (s.shared.disk.readMap x) s := by
  obtain ⟨hthreads, horder⟩ := h₀
  have hcommitted : s.committed = [] := by rw [FileSecretStore.committed, horder]; rfl
  refine ⟨?_, ?_, ?_, ?_, ?_, ?_⟩
  · rw [hcommitted]
    cases s.shared.disk.readMap x <;> rfl
  · intro i t hi
    rw [hthreads] at hi
    cases hi
  · intro i j t u hi
    rw [hthreads] at hi
    cases hi
  · intro i t hi
    rw [hthreads] at hi
    cases hi
  · intro i t hi
    rw [hthreads] at hi
    cases hi
  · rw [horder]
    exact fun i hi => absurd hi (List.not_mem_nil)

/-- A new request waits. -/
lemma FileInv.call (h : FileInv x base s) (request : SecretRequest) :
    FileInv x base (s.step x unix (.call request)) := by
  have hget : ∀ (i : ℕ) (t : FileTask), (s.threads ++ [FileTask.waiting request])[i]? = some t →
      s.threads[i]? = some t ∨ i = s.threads.length ∧ t = .waiting request :=
    fun i t hi => getElem?_concat_eq_some.mp hi
  refine ⟨?_, ?_, ?_, ?_, ?_, ?_⟩
  · have hcommitted : (s.step x unix (.call request)).committed = s.committed := by
      refine List.filterMap_congr fun i hi => ?_
      exact congrArg (·.bind FileTask.committed) (List.getElem?_append_left (h.bounded i hi))
    rw [hcommitted]
    exact h.map
  · intro i t hi
    rcases hget i t hi with hi | ⟨-, rfl⟩
    · exact h.prepared i t hi
    · trivial
  · intro i j t u hi hj ht hu
    rcases hget i t hi with hi | ⟨-, rfl⟩
    · rcases hget j u hj with hj | ⟨-, rfl⟩
      · exact h.alone i j t u hi hj ht hu
      · cases hu
    · cases ht
  · intro i t hi ht
    rcases hget i t hi with hi | ⟨-, rfl⟩
    · exact h.last i t hi ht
    · cases ht
  · intro i t hi ht hmem
    rcases hget i t hi with hi | ⟨rfl, -⟩
    · exact h.waits i t hi ht hmem
    · exact absurd (h.bounded _ hmem) (lt_irrefl _)
  · intro i hi
    have hlt := h.bounded i hi
    simp only [FileSecretStore.step, List.length_append, List.length_singleton]
    omega

section Advance

variable {i : ℕ} {io : Io} {t : FileTask}

/-- The order in which the lock was got, after a call of the `i`-th operation. -/
def orderAfter (s : FileSecretStore) (i : ℕ) (t : FileTask) : List ℕ :=
  if t.entered then s.shared.order else s.shared.order ++ [i]

lemma step_advance (hi : s.threads[i]? = some t) :
    s.step x unix (.advance i io) = s.after i
      ⟨(t.block x unix io s.shared.disk).1, [],
        ⟨(t.block x unix io s.shared.disk).2, orderAfter s i t⟩⟩ := by
  simp only [FileSecretStore.step, hi]
  rfl

/-- Beside a writer, and beside a reader where a writer gets the lock, nobody is under it. -/
lemma FileInv.alone_advance (h : FileInv x base s) (hi : s.threads[i]? = some t)
    (hcan : s.CanAdvance t) {j : ℕ} {u : FileTask} (hj : s.threads[j]? = some u) (hne : j ≠ i)
    (hu : u.inside = true) : t.request.writes = false ∧ u.request.writes = false := by
  cases ht : t.inside with
  | true =>
    refine ⟨?_, ?_⟩
    · by_contra hwrites
      exact hne (h.alone i j t u hi hj ht hu (by simpa using hwrites)).symm
    · by_contra hwrites
      exact hne (h.alone j i u t hj hi hu ht (by simpa using hwrites))
  | false =>
    cases t with
    | waiting request => exact hcan u (List.mem_of_getElem? hj) hu
    | returned request reply => exact hcan.elim
    | _ => cases ht

/-- What was committed, after a call of the `i`-th operation. -/
lemma committed_advance (hi : s.threads[i]? = some t) {next : FileTask} {shared : FileShared} :
    FileSecretStore.committed (s.after i ⟨next, [], shared⟩) =
      shared.order.filterMap fun j => if j = i then next.committed
        else s.threads[j]?.bind FileTask.committed := by
  refine List.filterMap_congr fun j _ => ?_
  by_cases hij : j = i
  · subst hij
    rw [if_pos rfl, Threads.getElem?_after_self hi, Option.bind_some]
  · rw [if_neg hij]
    have hset : (s.after i ⟨next, [], shared⟩).threads[j]? = s.threads[j]? := by
      simp only [Threads.after, List.append_nil]
      exact List.getElem?_set_ne (Ne.symm hij)
    rw [hset]

/-- The changes that were committed stay, where the operation has not committed its own. -/
lemma committed_keeps (hi : s.threads[i]? = some t) (ht : t.committed = none) {next : FileTask}
    (hnext : next.committed = none) {disk : SecretFiles} :
    FileSecretStore.committed (s.after i ⟨next, [], ⟨disk, orderAfter s i t⟩⟩) =
      s.committed := by
  have hsame : ∀ j, (if j = i then next.committed else s.threads[j]?.bind FileTask.committed) =
      s.threads[j]?.bind FileTask.committed := by
    intro j
    split
    · next hij => rw [hij, hi, Option.bind_some, ht, hnext]
    · rfl
  rw [committed_advance hi, FileSecretStore.committed]
  simp only [hsame, orderAfter]
  split
  · rfl
  · rw [List.filterMap_append]
    simp [hi, ht]

/-- The change of a writer comes last. -/
lemma committed_commits (h : FileInv x base s) (hi : s.threads[i]? = some t)
    (hinside : t.inside = true) (hwrites : t.request.writes = true) {next : FileTask}
    (hnext : next.committed = some t.request) {disk : SecretFiles} :
    FileSecretStore.committed (s.after i ⟨next, [], ⟨disk, orderAfter s i t⟩⟩) =
      s.committed ++ [t.request] := by
  obtain ⟨before, horder, hnot⟩ := h.last i t hi hinside hwrites
  have ht : t.committed = none := FileTask.committed_of_not_returned (.inl hinside)
  have hafter : orderAfter s i t = before ++ [i] := by
    rw [orderAfter, if_pos (FileTask.entered_of_inside hinside), horder]
  have hbefore : before.filterMap (fun j => if j = i then next.committed
      else s.threads[j]?.bind FileTask.committed) =
        before.filterMap fun j => s.threads[j]?.bind FileTask.committed := by
    refine List.filterMap_congr fun j hj => if_neg ?_
    rintro rfl
    exact hnot hj
  rw [committed_advance hi, FileSecretStore.committed, hafter, horder, List.filterMap_append,
    List.filterMap_append, hbefore]
  simp [hi, ht, hnext]

/-- **A call of an operation keeps the invariant.** -/
lemma FileInv.advance (hx : x.RoundTrips) (h : FileInv x base s) (hi : s.threads[i]? = some t)
    (hcan : s.CanAdvance t) : FileInv x base (s.step x unix (.advance i io)) := by
  have hnot : ∀ request reply, t ≠ .returned request reply := by
    rintro request reply rfl
    exact hcan
  have hcall : t.Call x s.shared.disk (t.block x unix io s.shared.disk).1
      (t.block x unix io s.shared.disk).2 := FileTask.call_block hx (h.prepared i t hi) hnot
  obtain ⟨hrequest, hentered⟩ : (t.block x unix io s.shared.disk).1.request = t.request ∧
      (t.block x unix io s.shared.disk).1.entered = true := FileTask.request_block
  have ht : t.committed = none := by
    refine FileTask.committed_of_not_returned ?_
    cases t with
    | returned request reply => exact absurd rfl (hnot request reply)
    | waiting _ => exact .inr rfl
    | _ => exact .inl rfl
  rw [step_advance hi]
  generalize t.block x unix io s.shared.disk = result at hcall hrequest hentered ⊢
  obtain ⟨next, disk⟩ := result
  dsimp only at hcall hrequest hentered ⊢
  -- the other operations under the lock are readers, and so is this one then
  have hothers : ∀ {j : ℕ} {u : FileTask}, s.threads[j]? = some u → j ≠ i → u.inside = true →
      t.request.writes = false ∧ u.request.writes = false :=
    fun hj hne hu => h.alone_advance hi hcan hj hne hu
  refine ⟨?_, ?_, ?_, ?_, ?_, ?_⟩
  · cases hcall with
    | keeps hcommitted hsecrets _ _ =>
      rw [committed_keeps hi ht hcommitted]
      exact (readMap_congr hsecrets).trans h.map
    | commits old hold hnew hcommitted hinside _ hwrites =>
      rw [committed_commits h hi hinside hwrites hcommitted]
      have hbase := h.map
      rw [hold] at hbase
      cases base with
      | error e => cases hbase
      | ok values =>
        obtain rfl := Except.ok.inj hbase
        exact hnew.trans (congrArg Except.ok (applyAll_append s.committed t.request values).symm)
  · intro j u hafter
    rcases Threads.getElem?_after hafter with ⟨-, rfl⟩ | ⟨hne, hj⟩
    · cases hcall with
      | keeps _ _ _ hprepared => exact hprepared
      | commits old _ _ _ _ hout _ => exact FileTask.prepared_of_outside hout
    · cases hu : u.inside with
      | false => exact FileTask.prepared_of_outside hu
      | true =>
        have hreads := (hothers hj hne hu).1
        cases hcall with
        | keeps _ _ htemp _ =>
          rcases htemp with hsame | ⟨-, hwrites⟩
          · rw [Threads.shared_after, hsame]
            exact h.prepared j u hj
          · rw [hreads] at hwrites
            cases hwrites
        | commits old _ _ _ _ _ hwrites =>
          rw [hreads] at hwrites
          cases hwrites
  · intro j k u v hafter hafter' hu hv hwrites
    rcases Threads.getElem?_after hafter with ⟨rfl, rfl⟩ | ⟨hne, hj⟩
    · rcases Threads.getElem?_after hafter' with ⟨rfl, -⟩ | ⟨hne', hk⟩
      · rfl
      · rw [hrequest, (hothers hk hne' hv).1] at hwrites
        cases hwrites
    · rcases Threads.getElem?_after hafter' with ⟨rfl, rfl⟩ | ⟨hne', hk⟩
      · rw [(hothers hj hne hu).2] at hwrites
        cases hwrites
      · exact h.alone j k u v hj hk hu hv hwrites
  · intro j u hafter hu hwrites
    rcases Threads.getElem?_after hafter with ⟨rfl, rfl⟩ | ⟨hne, hj⟩
    · rw [hrequest] at hwrites
      cases hinside : t.entered with
      | false =>
        refine ⟨s.shared.order, ?_, h.waits j t hi hinside⟩
        simp [orderAfter, hinside]
      | true =>
        have htinside : t.inside = true := by
          cases t with
          | waiting _ => cases hinside
          | returned request reply => exact absurd rfl (hnot request reply)
          | _ => rfl
        obtain ⟨before, horder, hmem⟩ := h.last j t hi htinside hwrites
        exact ⟨before, by simp [orderAfter, hinside, horder], hmem⟩
    · rw [(hothers hj hne hu).2] at hwrites
      cases hwrites
  · intro j u hafter hu
    rcases Threads.getElem?_after hafter with ⟨rfl, rfl⟩ | ⟨hne, hj⟩
    · rw [hentered] at hu
      cases hu
    · have hold := h.waits j u hj hu
      simp only [Threads.shared_after, orderAfter]
      split
      · exact hold
      · simp [hold, hne]
  · intro j hj
    have hlt : i < s.threads.length := (List.getElem?_eq_some_iff.mp hi).1
    have hlen : (s.after i ⟨next, [], ⟨disk, orderAfter s i t⟩⟩).threads.length =
        s.threads.length := by simp [Threads.after]
    rw [hlen]
    simp only [Threads.shared_after, orderAfter] at hj
    split at hj
    · exact h.bounded j hj
    · rcases List.mem_append.mp hj with hj | hj
      · exact h.bounded j hj
      · rw [List.mem_singleton.mp hj]
        exact hlt

end Advance

lemma FileInv.step (hx : x.RoundTrips) (h : FileInv x base s) {l : FileLabel}
    (hen : s.Enabled l) : FileInv x base (s.step x unix l) := by
  cases l with
  | call request => exact h.call request
  | advance i io =>
    obtain ⟨t, hi, hcan⟩ := hen
    exact h.advance hx hi hcan

end Steps

/-! ## What a change does to the entries -/

/-- A change keeps the entries under other names, and sets its own whatever was there. -/
lemma SecretRequest.lookup_apply (request : SecretRequest) {values values' : SecretMap}
    {name : SecretName} (h : values.lookup name = values'.lookup name) :
    (request.apply values).lookup name =
      (if request.name = name then request.apply values' else values').lookup name := by
  by_cases hname : request.name = name
  · subst hname
    cases request with
    | put key value => simp [SecretRequest.name]
    | get key => simpa [SecretRequest.name] using h
    | delete key => simp [SecretRequest.name]
  · rw [if_neg hname, lookup_apply_of_ne hname, h]

/-- **Other names are left alone.**  An entry depends on the changes under its name only. -/
lemma lookup_applyAll (requests : List SecretRequest) {values values' : SecretMap}
    {name : SecretName} (h : values.lookup name = values'.lookup name) :
    (applyAll requests values).lookup name =
      (applyAll (requests.filter (·.name = name)) values').lookup name := by
  induction requests generalizing values values' with
  | nil => exact h
  | cons request requests ih =>
    have hfirst := request.lookup_apply h
    by_cases hname : request.name = name
    · rw [if_pos hname] at hfirst
      rw [List.filter_cons_of_pos (by simpa using hname)]
      exact ih hfirst
    · rw [if_neg hname] at hfirst
      rw [List.filter_cons_of_neg (by simpa using hname)]
      exact ih hfirst

/-! ## Runs -/

/-- The next call of the `i`-th operation changes the map only where the operation succeeds with
it, and a get that succeeds answers from the map. -/
structure FileSecretStore.CallExact (x : SerdeCrates) (unix : Bool) (s : FileSecretStore) (i : ℕ)
    (io : Io) : Prop where
  unchanged : ∀ t : FileTask, (s.step x unix (.advance i io)).threads[i]? = some t →
    t.committed = none →
      (s.step x unix (.advance i io)).shared.disk.readMap x = s.shared.disk.readMap x
  gets : ∀ (name : SecretName) (value : Option String),
    (s.step x unix (.advance i io)).threads[i]? =
      some (.returned (.get name) (.value (.ok value))) →
        ∃ values, s.shared.disk.readMap x = .ok values ∧ value = values.lookup name

section Runs

variable {x : SerdeCrates} {unix : Bool} {s s₀ : FileSecretStore}

/-- A get answers what it has read. -/
lemma FileTask.get_of_block {t : FileTask} {io : Io} {disk : SecretFiles} {name : SecretName}
    {value : Option String} (hnot : ∀ request reply, t ≠ .returned request reply)
    (h : (t.block x unix io disk).1 = .returned (.get name) (.value (.ok value))) :
    ∃ values, disk.readMap x = .ok values ∧ value = values.lookup name := by
  -- a failed get answers with an error
  have hfail : ∀ (request : SecretRequest) (e : SecretStoreError),
      fail request e ≠ .returned (.get name) (.value (.ok value)) := by
    intro request e hfail
    cases request <;> cases hfail
  cases t with
  | reading request =>
    simp only [block] at h
    split at h
    · exact absurd h (hfail _ _)
    · split at h
      · exact absurd h (hfail _ _)
      · next values hvalues =>
        cases request with
        | get key =>
          -- only a get that has read the map answers with a value
          obtain ⟨rfl, rfl⟩ : key = name ∧ values.lookup key = value := by
            simpa [SecretRequest.afterRead] using h
          exact ⟨values, hvalues, rfl⟩
        | put key value => cases h
        | delete key => cases h
  | waiting request => cases h
  | returned request reply => exact absurd rfl (hnot request reply)
  | replacing request =>
    simp only [block] at h
    split at h
    · exact absurd h (hfail _ _)
    · split at h
      · exact absurd h (hfail _ _)
      · cases h
  | writing request payload =>
    simp only [block] at h
    split at h
    · exact absurd h (hfail _ _)
    · cases unix <;> cases h
  | creatingDir | opening | syncing =>
    simp only [block] at h
    split at h
    · exact absurd h (hfail _ _)
    · cases h

lemma FileInv.callExact {base : Except SecretStoreError SecretMap} (hx : x.RoundTrips)
    (h : FileInv x base s) {i : ℕ} {io : Io} (hen : s.Enabled (.advance i io)) :
    s.CallExact x unix i io := by
  obtain ⟨t, hi, hcan⟩ := hen
  have hnot : ∀ request reply, t ≠ .returned request reply := by
    rintro request reply rfl
    exact hcan
  have hcall : t.Call x s.shared.disk (t.block x unix io s.shared.disk).1
      (t.block x unix io s.shared.disk).2 := FileTask.call_block hx (h.prepared i t hi) hnot
  refine ⟨fun u hu hcommitted => ?_, fun name value hget => ?_⟩
  · rw [step_advance hi, Threads.getElem?_after_self hi, Option.some_inj] at hu
    subst hu
    rw [step_advance hi]
    cases hcall with
    | keeps _ hsecrets _ _ => exact readMap_congr hsecrets
    | commits old _ _ hsome _ _ _ =>
      rw [hsome] at hcommitted
      cases hcommitted
  · rw [step_advance hi, Threads.getElem?_after_self hi, Option.some_inj] at hget
    exact FileTask.get_of_block hnot hget

/-- **The file store is atomic.**  In every state that is reached, whatever has failed on the way,
the file stands for the map that the successful changes make of the old one, in the order in which
they got the lock; an entry depends on the changes under its name only; and every further call
changes the map only where its operation succeeds, and answers a get from it. -/
theorem file_store_atomic (hx : x.RoundTrips) {tr : List (FileLabel × Unit)}
    (h₀ : (fileStore x unix).init s₀) (h : (fileStore x unix).Run s₀ tr s) :
    s.shared.disk.readMap x = (s₀.shared.disk.readMap x).map (applyAll s.committed) ∧
    (∀ values name, (applyAll s.committed values).lookup name =
      (applyAll (s.committed.filter (·.name = name)) values).lookup name) ∧
    ∀ i io, s.Enabled (.advance i io) → s.CallExact x unix i io := by
  have hinv : FileInv x (s₀.shared.disk.readMap x) s :=
    h.invariant (fun m l hm hen => hm.step hx hen) (.of_init h₀)
  exact ⟨hinv.map, fun values name => lookup_applyAll s.committed rfl,
    fun i io hen => hinv.callExact hx hen⟩

end Runs

/-! ### A put that fails, and one that does not -/

/-- The library, on the texts that it writes itself. -/
def jsonCrates : SerdeCrates where
  toVec _ values := utf8Bytes (jsonObject values)
  parse contents :=
    if utf8Bytes (fromUtf8Lossy contents) = contents then
      match readJsonObject (fromUtf8Lossy contents) with
      | some values => .ok values
      | none => .error .invalidEncoding
    else .error .backendUnavailable

lemma jsonCrates_roundTrips : jsonCrates.RoundTrips := by
  intro order values
  have hread : fromUtf8Lossy (utf8Bytes (jsonObject values)) = jsonObject values :=
    fromUtf8Lossy_encode (jsonObject values)
  simp only [jsonCrates, hread, if_true, readJsonObject_jsonObject]

/-- No file is there yet, but a temporary one that was left behind. -/
def freshFiles : FileSecretStore := ⟨⟨⟨none, some [0x7B]⟩, []⟩, []⟩

/-- Every call works. -/
def worksIo : Io := ⟨false, none, 0⟩

/-- The disk is full, and half of the payload has been written. -/
def fullIo : Io := ⟨true, some [0x7B, 0x22], 0⟩

/-- A value is put under one name. -/
def putToken (value : String) : FileLabel := .call (.put "token" value)

/-- The first put fails as it writes; the second, which has waited for the lock, succeeds. -/
def failThenPut : List FileLabel :=
  [putToken "old", putToken "new"] ++ List.replicate 4 (.advance 0 worksIo) ++
    [.advance 0 fullIo] ++ List.replicate 7 (.advance 1 worksIo)

theorem file_store_atomic_put :
    ∃ s tr, (fileStore jsonCrates true).Run freshFiles tr s ∧
      s.committed = [.put "token" "new"] ∧
      s.shared.disk.readMap jsonCrates =
        .ok (applyAll [SecretRequest.put "token" "new"] ∅) := by
  have hrun := Machine.run_exec (show (fileStore jsonCrates true).Allows freshFiles
    failThenPut by decide +kernel)
  have hcommitted : ((fileStore jsonCrates true).exec freshFiles failThenPut).2.committed =
      [.put "token" "new"] := rfl
  have hatomic := file_store_atomic jsonCrates_roundTrips ⟨rfl, rfl⟩ hrun
  refine ⟨_, _, hrun, hcommitted, ?_⟩
  rw [hatomic.1, hcommitted]
  rfl

end OzonSuite
