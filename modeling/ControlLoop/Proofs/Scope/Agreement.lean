import ControlLoop.Proofs.Reconciler.Passes
import ControlLoop.Proofs.StatusUpdate.Application

/-!
# Scopes

The scope of a pass is what the pass may touch: the stored object and the failure count of its key,
and the cancel handles whose names are assigned to that key. Two worlds agree on a scope if nothing
looks different from there. An act within a scope has the same value in worlds that agree on it,
leaves them in agreement, and changes nothing that can be seen from the scope of another key.

This only works without injected failures: a queued failure goes to the first write, whosever it is.
-/

namespace ControlLoop

structure Scope where
  key : ObjectKey
  /-- The key that a name of cancel handles is assigned to. -/
  owner : String → ObjectKey

namespace Scope

variable (d : Scope)

def OwnsName (name : String) : Prop := d.owner name = d.key

def OwnsTokens (tokens : List CancelToken) : Prop := ∀ token ∈ tokens, d.OwnsName token.handle

/-- The handles look the same from the scope. -/
def SameHandles (hs ks : Handles) : Prop :=
  ∀ name, d.OwnsName name → hs.history name = ks.history name

structure Agree (w v : World) : Prop where
  calm : w.store.failures = [] ∧ v.store.failures = []
  stored : w.store.get? d.key = v.store.get? d.key
  handles : d.SameHandles w.handles v.handles
  count : w.failures.count d.key = v.failures.count d.key

/-- Nothing that has changed between the worlds can be seen from the scope of another key. -/
def Spares (w v : World) : Prop := ∀ key, key ≠ d.key → { d with key }.Agree w v

namespace Agree

variable {d} {w v x : World}

theorem refl (d : Scope) (h : w.store.failures = []) : d.Agree w w where
  calm := ⟨h, h⟩
  stored := rfl
  handles _ _ := rfl
  count := rfl

theorem symm (h : d.Agree w v) : d.Agree v w where
  calm := h.calm.symm
  stored := h.stored.symm
  handles name hname := (h.handles name hname).symm
  count := h.count.symm

/-- Worlds that agree with one world on a scope agree with each other. -/
theorem trans (h : d.Agree w v) (h' : d.Agree v x) : d.Agree w x where
  calm := ⟨h.calm.1, h'.calm.2⟩
  stored := h.stored.trans h'.stored
  handles name hname := (h.handles name hname).trans (h'.handles name hname)
  count := h.count.trans h'.count

end Agree

namespace Spares

variable {d} {w v x : World}

theorem refl (d : Scope) (h : w.store.failures = []) : d.Spares w w := fun _ _ ↦ .refl _ h

theorem trans (h : d.Spares w v) (h' : d.Spares v x) : d.Spares w x := fun key hkey ↦
  (h key hkey).trans (h' key hkey)

end Spares

variable {d} {hs ks : Handles} {tokens : List CancelToken}

theorem ownsTokens_nil (d : Scope) : d.OwnsTokens [] := fun _ htoken ↦
  absurd htoken List.not_mem_nil

theorem SameHandles.isCancelled_eq {token : CancelToken} (h : d.SameHandles hs ks)
    (htoken : d.OwnsName token.handle) : hs.isCancelled token = ks.isCancelled token := by
  unfold Handles.isCancelled
  rw [h token.handle htoken]

/-- Tokens that a scope owns are cancelled in both of two worlds with the same handles in it, or in
neither. -/
theorem SameHandles.any_isCancelled_eq (h : d.SameHandles hs ks) (htokens : d.OwnsTokens tokens) :
    tokens.any hs.isCancelled = tokens.any ks.isCancelled := by
  rw [Bool.eq_iff_iff, List.any_eq_true, List.any_eq_true]
  refine exists_congr fun token ↦ and_congr_right fun hmem ↦ ?_
  rw [h.isCancelled_eq (htokens token hmem)]

/-- A wait for tokens that a scope owns is over in both of two worlds that agree on it, or in
neither. -/
theorem Agree.ready_eq {w v : World} (h : d.Agree w v) {u : Wake} (hu : d.OwnsTokens u.tokens)
    (now : Instant) : u.ready now w = u.ready now v := by
  unfold Wake.ready
  rw [h.handles.any_isCancelled_eq hu]

theorem OwnsTokens.or {u v : Wake} (hu : d.OwnsTokens u.tokens) (hv : d.OwnsTokens v.tokens) :
    d.OwnsTokens (u.or v).tokens := fun token htoken ↦
  (List.mem_append.1 htoken).elim (hu token) (hv token)

end Scope

namespace Act

variable {α : Type} {d : Scope} {Q : α → Prop}

/-- In worlds that agree on the scope the act has the same value, of which `Q` holds, and leaves
them in agreement; the scopes of other keys see nothing of it. -/
def Within (d : Scope) (Q : α → Prop) (act : Act α) : Prop :=
  ∀ m w v, d.Agree w v →
    (act m w).1 = (act m v).1 ∧ Q (act m v).1 ∧
      d.Spares w (act m w).2 ∧ d.Agree (act m w).2 (act m v).2

theorem within_read {Q : Moment → Prop} (h : ∀ m, Q m) : Within d Q (read : Act Moment) :=
  fun m _ _ hagree ↦ ⟨rfl, h m, .refl d hagree.calm.1, hagree⟩

/-- A look at handles is within a scope if what is seen depends on the scope's handles alone. -/
theorem within_look (f : Handles → α) (hQ : ∀ hs, Q (f hs))
    (h : ∀ hs ks, d.SameHandles hs ks → f hs = f ks) :
    Within d Q ((fun w ↦ f w.handles) <$> (get : Act World)) := fun _ w v hagree ↦
  ⟨h w.handles v.handles hagree.handles, hQ _, .refl d hagree.calm.1, hagree⟩

/-- What only reaches the trail and the log stays within every scope. -/
theorem within_mark (trail : List Note → List Note) (log : List LogEntry → List LogEntry) :
    Within d (fun _ ↦ True)
      (modify fun w ↦ { w with trail := trail w.trail, log := log w.log } : Act Unit) := by
  intro m w v hagree
  refine ⟨rfl, trivial, fun key _ ↦ ?_, ?_⟩
  · exact ⟨⟨hagree.calm.1, hagree.calm.1⟩, rfl, fun _ _ ↦ rfl, rfl⟩
  · exact ⟨hagree.calm, hagree.stored, hagree.handles, hagree.count⟩

/-- A change to a handle of the scope is within it. -/
theorem within_change {name : String} (hname : d.OwnsName name)
    (change : HandleHistory → HandleHistory) :
    Within d (fun _ ↦ True)
      (modify fun w ↦ { w with handles := w.handles.update name change } : Act Unit) := by
  intro m w v hagree
  refine ⟨rfl, trivial, fun key hkey ↦ ?_, ?_⟩
  · refine ⟨⟨hagree.calm.1, hagree.calm.1⟩, rfl, fun other hother ↦ ?_, rfl⟩
    have hne : name ≠ other := by
      rintro rfl
      apply hkey
      calc key = d.owner name := hother.symm
        _ = d.key := hname
    exact ((w.handles.history_update name change other).trans (if_neg hne)).symm
  · refine ⟨hagree.calm, hagree.stored, fun other hother ↦ ?_, hagree.count⟩
    change (w.handles.update name change).history other =
      (v.handles.update name change).history other
    rw [Handles.history_update, Handles.history_update, hagree.handles name hname,
      hagree.handles other hother]

/-- A write of the object of the scope is within it: versions, and so conflicts, are those of its
own object. -/
theorem within_persist {o : Object} (ho : o.key = d.key) :
    Within d (fun answer ↦ ∀ written, answer = .ok written → written.key = d.key) (persist o) := by
  intro m w v hagree
  have hanswer : (w.store.update o).1 = (v.store.update o).1 := by
    apply Store.answer_update_eq
    · rw [hagree.calm.1, hagree.calm.2]
    · rw [ho, hagree.stored]
  have hcalm (x : World) (hx : x.store.failures = []) : (persist o m x).2.store.failures = [] := by
    rw [store_persist]
    exact Store.failures_update hx o
  refine ⟨?_, ?_, fun key hkey ↦ ?_, ?_⟩
  · rw [persist_fst, persist_fst, hanswer]
  · intro written hwritten
    rw [persist_fst] at hwritten
    rw [Store.eq_advanced_of_update hwritten, Object.key_advanced, ho]
  · refine ⟨⟨hagree.calm.1, hcalm w hagree.calm.1⟩, ?_, fun _ _ ↦ ?_, ?_⟩
    · have hne : o.key ≠ key := fun h ↦ hkey (h.symm.trans ho)
      rw [store_persist, Store.get?_update]
      cases (w.store.update o).1 with
      | error e => rfl
      | ok written => exact (if_neg hne).symm
    · rw [handles_persist]
    · rw [failures_persist]
  · refine ⟨⟨hcalm w hagree.calm.1, hcalm v hagree.calm.2⟩, ?_, fun name hname ↦ ?_, ?_⟩
    · rw [store_persist, store_persist, Store.get?_update, Store.get?_update, hanswer,
        hagree.stored]
    · rw [handles_persist, handles_persist]
      exact hagree.handles name hname
    · rw [failures_persist, failures_persist]
      exact hagree.count

/-- The recording of a pass changes no count but that of its own key. -/
theorem within_record (config : Config) (s : Signal) :
    Within d (fun _ ↦ True) (record config d.key s) := by
  intro m w v hagree
  refine ⟨?_, trivial, fun key hkey ↦ ?_, ?_⟩
  · rw [record_fst, record_fst, FailureCounts.count_afterPass_eq hagree.count]
  · refine ⟨?_, ?_, fun _ _ ↦ ?_, ?_⟩
    · rw [store_record]
      exact ⟨hagree.calm.1, hagree.calm.1⟩
    · rw [store_record]
    · rw [handles_record]
    · rw [failures_record, FailureCounts.count_afterPass_of_ne hkey.symm]
  · refine ⟨?_, ?_, fun name hname ↦ ?_, ?_⟩
    · rw [store_record, store_record]
      exact hagree.calm
    · rw [store_record, store_record]
      exact hagree.stored
    · rw [handles_record, handles_record]
      exact hagree.handles name hname
    · rw [failures_record, failures_record]
      exact FailureCounts.count_afterPass_eq hagree.count s

end Act

end ControlLoop
