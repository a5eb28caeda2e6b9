import ControlLoop.Proofs.Store.Revisions

/-!
# The history of a store

Any number of clients insert, remove and fetch objects, queue failures and write the status of
whatever objects they have, renamed ones among them. The history lists their calls in order, each
with its answer. It decides everything about the store: what is held under a key follows from the
last insertion there and the writes since, the number of writes from the writes that succeeded, and
the failures still queued from those that were queued and those that were handed out.
-/

namespace ControlLoop

inductive StoreCall where
  | insert (o : Object)
  | remove (key : ObjectKey)
  | get (key : ObjectKey)
  | failNext (e : Error)
  | update (o : Object)

/-- A call with its answer, and for an update with the failures that it found queued. -/
inductive StoreEntry where
  | inserted (o : Object)
  | removed (key : ObjectKey) (found : Option Object)
  | fetched (key : ObjectKey) (found : Option Object)
  | queued (e : Error)
  | updated (o : Object) (pending : List Error) (answer : Except Error Object)

namespace StoreEntry

/-- Whether the entry puts an object under the key afresh or takes away what is there. -/
def Renews (key : ObjectKey) : StoreEntry → Prop
  | .inserted o => o.key = key
  | .removed emptied _ => emptied = key
  | _ => False

/-- What a successful update has written. -/
def written? : StoreEntry → Option Object
  | .updated _ _ (.ok written) => some written
  | _ => none

def queued? : StoreEntry → Option Error
  | .queued e => some e
  | _ => none

/-- The answer to an update that found failures queued. -/
def injected? : StoreEntry → Option (Except Error Object)
  | .updated _ (_ :: _) answer => some answer
  | _ => none

end StoreEntry

abbrev StoreHistory := List StoreEntry

namespace StoreHistory

variable (h : StoreHistory) (e : StoreEntry) (key : ObjectKey)

def written : List Object := h.filterMap StoreEntry.written?

def writtenTo : List Object := h.written.filter (·.key = key)

def queued : List Error := h.filterMap StoreEntry.queued?

def injected : List (Except Error Object) := h.filterMap StoreEntry.injected?

theorem written_concat : written (h ++ [e]) = h.written ++ e.written?.toList := by
  rw [written, List.filterMap_append]
  cases hwritten : e.written? <;> simp [hwritten, written]

theorem queued_concat : queued (h ++ [e]) = h.queued ++ e.queued?.toList := by
  rw [queued, List.filterMap_append]
  cases hqueued : e.queued? <;> simp [hqueued, queued]

theorem injected_concat : injected (h ++ [e]) = h.injected ++ e.injected?.toList := by
  rw [injected, List.filterMap_append]
  cases hinjected : e.injected? <;> simp [hinjected, injected]

theorem writtenTo_concat :
    writtenTo (h ++ [e]) key = h.writtenTo key ++ e.written?.toList.filter (·.key = key) := by
  rw [writtenTo, written_concat, List.filter_append]
  rfl

variable {h e}

/-- An entry of a history that goes on with another one is the last one or was there before. -/
theorem concat_eq_append_cons {x : StoreEntry} {before since : StoreHistory}
    (heq : h ++ [e] = before ++ x :: since) :
    since = [] ∧ h = before ∧ e = x ∨
      ∃ earlier, since = earlier ++ [e] ∧ h = before ++ x :: earlier := by
  rcases List.eq_nil_or_concat since with rfl | ⟨earlier, last, rfl⟩
  · obtain ⟨hinit, hlast⟩ := List.append_inj' heq rfl
    exact .inl ⟨rfl, hinit, List.singleton_inj.1 hlast⟩
  · have hsplit : h ++ [e] = (before ++ x :: earlier) ++ [last] := by
      simpa using heq
    obtain ⟨hinit, hlast⟩ := List.append_inj' hsplit rfl
    obtain rfl := List.singleton_inj.1 hlast
    exact .inr ⟨earlier, by simp, hinit⟩

end StoreHistory

/-- What is held of an object that was inserted, after further calls: what the last write to its key
has written, or the object itself, at its version moved on once for each write. -/
structure Object.HeldSince (o : Object) (since : StoreHistory) (held : Object) : Prop where
  last : held = (since.writtenTo o.key).getLast?.getD o
  version : held.version.toNat = versionAt o.version.toNat (since.writtenTo o.key).length

/-- The answers that an update can get from the objects in the store. -/
inductive Object.OwnAnswer (o : Object) : Except Error Object → Prop
  | written : OwnAnswer o (.ok o.advanced)
  | missing : OwnAnswer o (.error (.objectNotFound o.key.text))
  | conflict (version : UInt64) (hversion : version ≠ o.version) :
    OwnAnswer o (.error (.conflict o.key.text version o.version))

namespace Object.HeldSince

variable {o held : Object} {since : StoreHistory} {e : StoreEntry}

theorem refl (o : Object) : o.HeldSince [] o where
  last := rfl
  version := by
    have hbound : o.version.toNat < UInt64.size := o.version.toNat_lt
    change o.version.toNat = min (o.version.toNat + 0) (UInt64.size - 1)
    omega

/-- A call that writes another object or none leaves what is held of an object. -/
theorem concat_of_not_written (h : o.HeldSince since held)
    (he : ∀ written, e.written? = some written → written.key ≠ o.key) :
    o.HeldSince (since ++ [e]) held := by
  have hnone : e.written?.toList.filter (·.key = o.key) = [] := by
    rw [List.filter_eq_nil_iff]
    intro written hwritten
    simpa using he written (Option.mem_toList.1 hwritten)
  have hsame : StoreHistory.writtenTo (since ++ [e]) o.key = since.writtenTo o.key := by
    rw [StoreHistory.writtenTo_concat, hnone, List.append_nil]
  constructor
  · rw [hsame]
    exact h.last
  · rw [hsame]
    exact h.version

/-- A write under the key of an object, over what is held, is held from then on. -/
theorem concat_of_written (h : o.HeldSince since held) {updated : Object}
    (he : e.written? = some updated.advanced) (hkey : updated.key = o.key)
    (hversion : held.version = updated.version) :
    o.HeldSince (since ++ [e]) updated.advanced := by
  have hsnoc : StoreHistory.writtenTo (since ++ [e]) o.key =
      since.writtenTo o.key ++ [updated.advanced] := by
    rw [StoreHistory.writtenTo_concat, he]
    simp [hkey]
  constructor
  · rw [hsnoc, List.getLast?_concat]
    rfl
  · rw [hsnoc, List.length_append, List.length_singleton]
    apply toNat_version_advanced_eq
    rw [← hversion]
    exact h.version

end Object.HeldSince

namespace Store

/-- The ends of a call on a store: the entry that it leaves in the history and the store
afterwards. -/
inductive Call (s : Store) : StoreEntry → Store → Prop
  | insert (o : Object) : Call s (.inserted o) (s.insert o)
  | remove (key : ObjectKey) : Call s (.removed key (s.get? key)) (s.remove key)
  | get (key : ObjectKey) : Call s (.fetched key (s.get? key)) s
  | failNext (e : Error) : Call s (.queued e) (s.failNext e)
  | injected (o : Object) (e : Error) (rest : List Error) (hfailures : s.failures = e :: rest) :
    Call s (.updated o (e :: rest) (.error e)) { s with failures := rest }
  | refused (o : Object) (e : Error) (hown : o.OwnAnswer (.error e)) :
    Call s (.updated o [] (.error e)) s
  | written (o stored : Object) (hstored : s.get? o.key = some stored)
    (hversion : stored.version = o.version) :
    Call s (.updated o [] (.ok o.advanced))
      { s.insert o.advanced with writes := saturatingAdd64 s.writes 1 }

theorem call_update (s : Store) (o : Object) :
    s.Call (.updated o s.failures (s.update o).1) (s.update o).2 := by
  have hwrite := s.write_update o
  generalize s.update o = r at hwrite
  cases hwrite with
  | injected e rest hfailures =>
    rw [hfailures]
    exact .injected o e rest hfailures
  | missing hfailures hstored =>
    rw [hfailures]
    exact .refused o _ .missing
  | conflict stored hfailures hstored hversion =>
    rw [hfailures]
    exact .refused o _ (.conflict stored.version hversion)
  | written stored hfailures hstored hversion =>
    rw [hfailures]
    exact .written o stored hstored hversion

end Store

structure Chronicle where
  store : Store
  history : StoreHistory

namespace Chronicle

variable (c : Chronicle)

def step : StoreCall → Chronicle
  | .insert o => ⟨c.store.insert o, c.history ++ [.inserted o]⟩
  | .remove key => ⟨c.store.remove key, c.history ++ [.removed key (c.store.get? key)]⟩
  | .get key => ⟨c.store, c.history ++ [.fetched key (c.store.get? key)]⟩
  | .failNext e => ⟨c.store.failNext e, c.history ++ [.queued e]⟩
  | .update o =>
    ⟨(c.store.update o).2, c.history ++ [.updated o c.store.failures (c.store.update o).1]⟩

/-- An empty store after the calls of its clients, with their history. -/
def run (calls : List StoreCall) : Chronicle := calls.foldl step ⟨∅, []⟩

/-- Every call of the store enters the chronicle as what it was. -/
theorem exists_call_step (call : StoreCall) :
    ∃ e s, c.step call = ⟨s, c.history ++ [e]⟩ ∧ c.store.Call e s := by
  cases call with
  | insert o => exact ⟨_, _, rfl, .insert o⟩
  | remove key => exact ⟨_, _, rfl, .remove key⟩
  | get key => exact ⟨_, _, rfl, .get key⟩
  | failNext e => exact ⟨_, _, rfl, .failNext e⟩
  | update o => exact ⟨_, _, rfl, c.store.call_update o⟩

/-- What the history says of the store. -/
structure Faithful : Prop where
  /-- Every object is stored under its own key. -/
  keyed : c.store.Keyed
  /-- The writes counted are those that succeeded, as far as a count can show it. -/
  writes : c.store.writes.toNat = min c.history.written.length (UInt64.size - 1)
  /-- Since its insertion an object is held as the last write to its key has left it. -/
  stored : ∀ before o since, c.history = before ++ .inserted o :: since →
    (∀ e ∈ since, ¬ e.Renews o.key) →
    ∃ held, c.store.get? o.key = some held ∧ o.HeldSince since held
  /-- So it was at every moment at which it was fetched. -/
  fetched : ∀ before o since found after,
    c.history = before ++ .inserted o :: since ++ .fetched o.key found :: after →
    (∀ e ∈ since, ¬ e.Renews o.key) →
    ∃ held, found = some held ∧ o.HeldSince since held
  /-- There is nothing under a key whose every insertion has been undone. -/
  absent : ∀ key, (∀ before o since, c.history = before ++ .inserted o :: since → o.key = key →
      ∃ e ∈ since, e.Renews key) → c.store.get? key = none
  /-- The failures queued have been handed out in order, one to each update that found a failure
  queued, and the others are queued still. -/
  injected : c.history.queued.map .error = c.history.injected ++ c.store.failures.map .error
  /-- An update that found no failure queued has got an answer of its own. -/
  own : ∀ o answer, .updated o [] answer ∈ c.history → o.OwnAnswer answer

namespace Faithful

variable {c : Chronicle} {e : StoreEntry} {s : Store}

theorem empty : Faithful ⟨∅, []⟩ where
  keyed := Store.keyed_empty
  writes := rfl
  stored before o since heq := by simp at heq
  fetched before o since found after heq := by simp at heq
  absent _ _ := rfl
  injected := rfl
  own o answer hmem := nomatch hmem

theorem keyed_of_call (h : c.Faithful) (hcall : c.store.Call e s) : s.Keyed := by
  cases hcall with
  | insert o => exact h.keyed.insert o
  | remove key => exact h.keyed.remove key
  | written o stored hstored hversion => exact h.keyed.insert o.advanced
  | get | failNext | injected | refused => exact h.keyed

/-- The writes of the store are counted by those of its history. -/
theorem writes_of_call (h : c.Faithful) (hcall : c.store.Call e s) :
    s.writes.toNat = min (StoreHistory.written (c.history ++ [e])).length (UInt64.size - 1) := by
  rw [StoreHistory.written_concat, List.length_append]
  cases hcall with
  | insert | remove | get | failNext | injected | refused => exact h.writes
  | written o stored hstored hversion =>
    calc (saturatingAdd64 c.store.writes 1).toNat
        = min (c.store.writes.toNat + 1) (UInt64.size - 1) := toNat_saturatingAdd64 _ _
      _ = min (c.history.written.length + 1) (UInt64.size - 1) := by
        rw [h.writes]
        omega

/-- A call that does not renew the key of an object leaves it held, as a write to the key or as it
was. -/
theorem held_of_call (hcall : c.store.Call e s) {o held : Object} {since : StoreHistory}
    (hstored : c.store.get? o.key = some held) (hheld : o.HeldSince since held)
    (hrenews : ¬ e.Renews o.key) :
    ∃ held, s.get? o.key = some held ∧ o.HeldSince (since ++ [e]) held := by
  cases hcall with
  | insert inserted =>
    have hother : inserted.key ≠ o.key := hrenews
    refine ⟨held, ?_, hheld.concat_of_not_written fun _ hwritten ↦ nomatch hwritten⟩
    rw [Store.get?_insert, if_neg hother, hstored]
  | remove key =>
    have hother : key ≠ o.key := hrenews
    refine ⟨held, ?_, hheld.concat_of_not_written fun _ hwritten ↦ nomatch hwritten⟩
    rw [Store.get?_remove, if_neg hother, hstored]
  | get | failNext | injected | refused =>
    exact ⟨held, hstored, hheld.concat_of_not_written fun _ hwritten ↦ nomatch hwritten⟩
  | written updated found hfound hversion =>
    by_cases hkey : updated.key = o.key
    · have hsame : found = held := by
        rw [hkey, hstored] at hfound
        exact (Option.some.inj hfound).symm
      refine ⟨updated.advanced, ?_, hheld.concat_of_written rfl hkey (hsame ▸ hversion)⟩
      exact (c.store.get?_insert updated.advanced o.key).trans (if_pos hkey)
    · have hkept : (c.store.insert updated.advanced).get? o.key = c.store.get? o.key :=
        (c.store.get?_insert updated.advanced o.key).trans (if_neg hkey)
      refine ⟨held, hkept.trans hstored, hheld.concat_of_not_written fun written hwritten ↦ ?_⟩
      obtain rfl := Option.some.inj hwritten
      exact hkey

/-- After every call an object is held as its last writer since it was inserted has left it. -/
theorem stored_of_call (h : c.Faithful) (hcall : c.store.Call e s) (before : StoreHistory)
    (o : Object) (since : StoreHistory)
    (heq : c.history ++ [e] = before ++ .inserted o :: since)
    (hsince : ∀ e ∈ since, ¬ e.Renews o.key) :
    ∃ held, s.get? o.key = some held ∧ o.HeldSince since held := by
  rcases StoreHistory.concat_eq_append_cons heq with ⟨rfl, -, rfl⟩ | ⟨earlier, rfl, hhistory⟩
  · cases hcall with
    | insert =>
      refine ⟨o, ?_, .refl o⟩
      rw [Store.get?_insert, if_pos rfl]
  · obtain ⟨hearlier, hlast⟩ := List.forall_mem_append.1 hsince
    obtain ⟨held, hstored, hheld⟩ := h.stored before o earlier hhistory hearlier
    exact held_of_call hcall hstored hheld (hlast e (List.mem_singleton_self e))

/-- After every call nothing is held under a key whose insertions have all been undone. -/
theorem absent_of_call (h : c.Faithful) (hcall : c.store.Call e s) (key : ObjectKey)
    (hundone : ∀ before o since, c.history ++ [e] = before ++ .inserted o :: since → o.key = key →
      ∃ e ∈ since, e.Renews key) : s.get? key = none := by
  have hbefore (hrenews : ¬ e.Renews key) : c.store.get? key = none := by
    apply h.absent key
    intro before o since hhistory hkey
    obtain ⟨x, hx, hxkey⟩ := hundone before o (since ++ [e]) (by simp [hhistory]) hkey
    rw [List.mem_append, List.mem_singleton] at hx
    rcases hx with hx | rfl
    · exact ⟨x, hx, hxkey⟩
    · exact absurd hxkey hrenews
  cases hcall with
  | insert o =>
    have hother : o.key ≠ key := by
      intro hkey
      obtain ⟨x, hx, -⟩ := hundone c.history o [] rfl hkey
      exact nomatch hx
    rw [Store.get?_insert, if_neg hother]
    exact hbefore hother
  | remove emptied =>
    rw [Store.get?_remove]
    by_cases hkey : emptied = key
    · exact if_pos hkey
    · rw [if_neg hkey]
      exact hbefore hkey
  | get | failNext | injected | refused => exact hbefore id
  | written o stored hstored hversion =>
    have hother : o.key ≠ key := by
      intro hkey
      rw [hkey, hbefore id] at hstored
      exact nomatch hstored
    calc (c.store.insert o.advanced).get? key
        = if o.advanced.key = key then some o.advanced else c.store.get? key :=
          c.store.get?_insert o.advanced key
      _ = c.store.get? key := if_neg hother
      _ = none := hbefore id

theorem fetched_of_call (h : c.Faithful) (hcall : c.store.Call e s) (before : StoreHistory)
    (o : Object) (since : StoreHistory) (found : Option Object) (after : StoreHistory)
    (heq : c.history ++ [e] = before ++ .inserted o :: since ++ .fetched o.key found :: after)
    (hsince : ∀ e ∈ since, ¬ e.Renews o.key) :
    ∃ held, found = some held ∧ o.HeldSince since held := by
  rcases StoreHistory.concat_eq_append_cons heq with ⟨-, hhistory, rfl⟩ | ⟨earlier, -, hhistory⟩
  · cases hcall with
    | get => exact h.stored before o since hhistory hsince
  · exact h.fetched before o since found earlier hhistory hsince

/-- The queued failures are those injected so far and then those still queued, in order. -/
theorem injected_of_call (h : c.Faithful) (hcall : c.store.Call e s) :
    (StoreHistory.queued (c.history ++ [e])).map .error =
      StoreHistory.injected (c.history ++ [e]) ++ s.failures.map .error := by
  rw [StoreHistory.queued_concat, StoreHistory.injected_concat, List.map_append, h.injected]
  cases hcall with
  | insert | remove | get | refused | written =>
    simp [StoreEntry.queued?, StoreEntry.injected?, Store.insert, Store.remove]
  | failNext e => simp [StoreEntry.queued?, StoreEntry.injected?, Store.failNext]
  | injected o e rest hfailures =>
    simp [StoreEntry.queued?, StoreEntry.injected?, hfailures]

theorem own_of_call (h : c.Faithful) (hcall : c.store.Call e s) (o : Object)
    (answer : Except Error Object) (hmem : .updated o [] answer ∈ c.history ++ [e]) :
    o.OwnAnswer answer := by
  rw [List.mem_append, List.mem_singleton] at hmem
  rcases hmem with hold | rfl
  · exact h.own o answer hold
  · cases hcall with
    | refused _ e hown => exact hown
    | written => exact .written

/-- Every call leaves a faithful chronicle. -/
theorem step (h : c.Faithful) (call : StoreCall) : (c.step call).Faithful := by
  obtain ⟨e, s, hstep, hcall⟩ := c.exists_call_step call
  rw [hstep]
  exact ⟨h.keyed_of_call hcall, h.writes_of_call hcall, h.stored_of_call hcall,
    h.fetched_of_call hcall, h.absent_of_call hcall, h.injected_of_call hcall,
    h.own_of_call hcall⟩

/-- Any calls one after the other leave a faithful chronicle. -/
theorem foldl (h : c.Faithful) (calls : List StoreCall) :
    (calls.foldl Chronicle.step c).Faithful := by
  induction calls generalizing c with
  | nil => exact h
  | cons call calls ih => exact ih (h.step call)

end Faithful

/-- Whatever clients call in whatever order, the store is what its history says. -/
theorem faithful_run (calls : List StoreCall) : (run calls).Faithful :=
  Faithful.empty.foldl calls

end Chronicle

end ControlLoop
