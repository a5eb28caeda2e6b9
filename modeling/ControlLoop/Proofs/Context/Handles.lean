import ControlLoop.Proofs.Context.Past

/-!
# The handles of the past

The past says which handle is held under a name and on which handles a cancel was called. The flags
of the handles agree with it: a token is cancelled exactly if a cancel was called on the handle that
it was made with, and a handle can be cancelled only as long as it is held.
-/

namespace ControlLoop

open Script (ContextEffect)

namespace HandleHistory

/-- The handle that is held is the one of the serial number. -/
def Holds (h : HandleHistory) (serial : Nat) : Prop :=
  h.held.isSome = true ∧ serial = h.dropped.length

variable {h : HandleHistory} {serial : Nat}

/-- Cancelling a handle cancels the token that it holds, and no other. -/
theorem isCancelled_cancel_iff :
    h.cancel.isCancelled serial = true ↔ h.isCancelled serial = true ∨ h.Holds serial := by
  rw [isCancelled_cancel, Bool.or_eq_true, Bool.and_eq_true, beq_iff_eq]
  rfl

theorem holds_cancel : h.cancel.Holds serial ↔ h.Holds serial := by
  simp [Holds, cancel]

theorem not_holds_drop : ¬ h.drop.Holds serial := by
  simp [Holds, drop]

/-- A new token takes the place of the one that the handle held. -/
theorem holds_issue : h.issue.Holds serial ↔ serial = h.flags.length := by
  simp [Holds, issue]

theorem length_flags_cancel : h.cancel.flags.length = h.flags.length := by
  obtain ⟨dropped, held⟩ := h
  cases held <;> simp [cancel, flags]

theorem length_flags_drop : h.drop.flags.length = h.flags.length := by
  simp [drop, flags]

theorem length_flags_issue : h.issue.flags.length = h.flags.length + 1 := by
  simp [issue, flags, Nat.add_assoc]

/-- A token that has not been issued yet is not cancelled. -/
theorem isCancelled_length_flags : h.isCancelled h.flags.length = false := by
  simp [isCancelled]

end HandleHistory

namespace Handles

variable (hs : Handles)

/-- The handle of the token is held. -/
def Holds (token : CancelToken) : Prop := (hs.history token.handle).Holds token.serial

/-- The handle of the token has been made. -/
def Issued (token : CancelToken) : Prop :=
  token.serial < (hs.history token.handle).flags.length

variable {hs : Handles} {name : String} {token : CancelToken}

theorem history_update_self (change : HandleHistory → HandleHistory) :
    (hs.update name change).history name = change (hs.history name) := by
  rw [history_update, if_pos rfl]

theorem history_update_of_ne (change : HandleHistory → HandleHistory) (h : token.handle ≠ name) :
    (hs.update name change).history token.handle = hs.history token.handle := by
  rw [history_update, if_neg h.symm]

/-- Cancelling under a name reaches the token that the name holds, and no other. -/
theorem isCancelled_cancel_iff :
    (hs.cancel name).isCancelled token = true ↔
      hs.isCancelled token = true ∨ token.handle = name ∧ hs.Holds token := by
  unfold isCancelled Holds cancel
  by_cases h : token.handle = name
  · rw [h, history_update_self, HandleHistory.isCancelled_cancel_iff]
    simp
  · rw [history_update_of_ne _ h]
    simp [h]

theorem holds_cancel : (hs.cancel name).Holds token ↔ hs.Holds token := by
  unfold Holds cancel
  by_cases h : token.handle = name
  · rw [h, history_update_self, HandleHistory.holds_cancel]
  · rw [history_update_of_ne _ h]

/-- A dropped name holds no token; other names keep theirs. -/
theorem holds_drop :
    (hs.drop name).Holds token ↔ token.handle ≠ name ∧ hs.Holds token := by
  unfold Holds drop
  by_cases h : token.handle = name
  · rw [h, history_update_self]
    simp [HandleHistory.not_holds_drop]
  · rw [history_update_of_ne _ h]
    simp [h]

/-- A new handle takes the name from the one that was held. -/
theorem holds_issue (hissued : hs.Issued token) :
    (hs.issue name).Holds token ↔ token.handle ≠ name ∧ hs.Holds token := by
  unfold Holds issue
  unfold Issued at hissued
  by_cases h : token.handle = name
  · rw [h] at hissued
    rw [h, history_update_self, HandleHistory.holds_issue]
    simp [Nat.ne_of_lt hissued]
  · rw [history_update_of_ne _ h]
    simp [h]

theorem holds_issue_nextToken : (hs.issue name).Holds (hs.nextToken name) := by
  change ((hs.update name .issue).history name).Holds (hs.history name).flags.length
  rw [history_update_self, HandleHistory.holds_issue]

theorem isCancelled_nextToken : hs.isCancelled (hs.nextToken name) = false :=
  HandleHistory.isCancelled_length_flags

theorem issued_issue_nextToken : (hs.issue name).Issued (hs.nextToken name) := by
  change (hs.history name).flags.length < ((hs.update name .issue).history name).flags.length
  rw [history_update_self, HandleHistory.length_flags_issue]
  exact Nat.lt_succ_self _

/-- A handle that has been made stays so through a change that forgets none. -/
theorem Issued.update {change : HandleHistory → HandleHistory} (h : hs.Issued token)
    (hchange : ∀ history : HandleHistory, history.flags.length ≤ (change history).flags.length) :
    (hs.update name change).Issued token := by
  unfold Issued at h ⊢
  by_cases hname : token.handle = name
  · rw [hname] at h
    rw [hname, history_update_self]
    exact Nat.lt_of_lt_of_le h (hchange _)
  · rw [history_update_of_ne _ hname]
    exact h

end Handles

namespace ContextPast

theorem lt_made_of_holder? {name : String} {past : ContextPast} {number : Nat}
    (h : holder? name past = some number) : number < made past := by
  induction past with
  | nil => cases h
  | cons turn past ih =>
    cases turn with
    | derive parent effect =>
      have hcases : number = made past ∨ holder? name past = some number := by
        cases effect with
        | cancellation handle =>
          by_cases hname : handle = name
          · simp only [holder?, hname, if_true, Option.some.injEq] at h
            exact .inl h.symm
          · simp only [holder?, hname, if_false] at h
            exact .inr h
        | background | field | timeout | deadline | span => exact .inr h
      rcases hcases with rfl | hold
      · exact Nat.lt_succ_self _
      · exact Nat.lt_succ_of_lt (ih hold)
    | use u =>
      cases u with
      | cancel handle => exact ih h
      | drop handle =>
        by_cases hname : handle = name
        · simp [holder?, hname] at h
        · simp only [holder?, hname, if_false] at h
          exact ih h
    | advance d => exact ih h

/-- Only derivations that have been made are revoked. -/
theorem lt_made_of_revoked {past : ContextPast} {number : Nat} (h : Revoked number past) :
    number < made past := by
  induction past with
  | nil => exact h.elim
  | cons turn past ih =>
    cases turn with
    | derive parent effect => exact Nat.lt_succ_of_lt (ih h)
    | use u =>
      cases u with
      | cancel handle => exact h.elim lt_made_of_holder? ih
      | drop handle => exact ih h
    | advance d => exact ih h

end ContextPast

namespace Derivation

open ContextPast

/-- The handles after an effect on a context. -/
def handlesAfter (effect : ContextEffect) (hs : Handles) : Handles :=
  match effect with
  | .cancellation handle => hs.issue handle
  | _ => hs

/-- What the past says of the handle made with a context is so of the handle's token. -/
structure Tracked (d : Derivation) (past : ContextPast) (hs : Handles) : Prop where
  lt_made : d.number < made past
  issued : ∀ token, d.token? = some token → hs.Issued token
  holder_iff : ∀ name, holder? name past = some d.number ↔
    ∃ token, d.token? = some token ∧ token.handle = name ∧ hs.Holds token
  revoked_iff : Revoked d.number past ↔
    ∃ token, d.token? = some token ∧ hs.isCancelled token = true

variable {d : Derivation} {past : ContextPast} {hs : Handles}

theorem Tracked.advance (h : d.Tracked past hs) (duration : Duration) :
    d.Tracked (.advance duration :: past) hs :=
  ⟨h.lt_made, h.issued, h.holder_iff, h.revoked_iff⟩

/-- A cancelled handle revokes the derivation that its name holds. -/
theorem Tracked.cancel (h : d.Tracked past hs) (handle : String) :
    d.Tracked (.use (.cancel handle) :: past) (hs.cancel handle) where
  lt_made := h.lt_made
  issued token htoken :=
    (h.issued token htoken).update fun _ ↦ Nat.le_of_eq HandleHistory.length_flags_cancel.symm
  holder_iff name := by
    simp only [Handles.holds_cancel]
    exact h.holder_iff name
  revoked_iff := by
    simp only [Revoked, h.holder_iff, h.revoked_iff, Handles.isCancelled_cancel_iff, and_or_left,
      exists_or]
    exact or_comm

theorem Tracked.drop (h : d.Tracked past hs) (handle : String) :
    d.Tracked (.use (.drop handle) :: past) (hs.drop handle) where
  lt_made := h.lt_made
  issued token htoken :=
    (h.issued token htoken).update fun _ ↦ Nat.le_of_eq HandleHistory.length_flags_drop.symm
  holder_iff name := by
    simp only [holder?, Handles.holds_drop]
    by_cases hname : handle = name
    · rw [if_pos hname]
      refine ⟨fun hnone ↦ (Option.some_ne_none _ hnone.symm).elim, ?_⟩
      rintro ⟨token, -, htoken, hother, -⟩
      exact absurd (htoken.trans hname.symm) hother
    · rw [if_neg hname, h.holder_iff name]
      refine exists_congr fun token ↦ and_congr_right fun _ ↦ and_congr_right fun htoken ↦ ?_
      simp [htoken, Ne.symm hname]
  revoked_iff := by
    simp only [Handles.isCancelled_drop]
    exact h.revoked_iff

/-- A later derivation may take the name over, and the token is then beyond reach. -/
theorem Tracked.derive (h : d.Tracked past hs) (parent : Nat) (effect : ContextEffect) :
    d.Tracked (.derive parent effect :: past) (handlesAfter effect hs) := by
  have hmade : d.number < made (.derive parent effect :: past) := Nat.lt_succ_of_lt h.lt_made
  cases effect with
  | background | field | timeout | deadline | span =>
    exact ⟨hmade, h.issued, h.holder_iff, h.revoked_iff⟩
  | cancellation handle =>
    refine ⟨hmade, fun token htoken ↦ ?_, fun name ↦ ?_, ?_⟩
    · apply (h.issued token htoken).update
      intro history
      rw [HandleHistory.length_flags_issue]
      exact Nat.le_succ _
    · simp only [holder?, handlesAfter]
      by_cases hname : handle = name
      · rw [if_pos hname]
        constructor
        · intro hnew
          exact absurd (Option.some.inj hnew) (Nat.ne_of_gt h.lt_made)
        · rintro ⟨token, htoken, hhandle, hholds⟩
          rw [Handles.holds_issue (h.issued token htoken)] at hholds
          exact absurd (hhandle.trans hname.symm) hholds.1
      · rw [if_neg hname, h.holder_iff name]
        refine exists_congr fun token ↦ and_congr_right fun htoken ↦
          and_congr_right fun hhandle ↦ ?_
        rw [Handles.holds_issue (h.issued token htoken), hhandle]
        simp [Ne.symm hname]
    · simp only [handlesAfter, Handles.isCancelled_issue]
      exact h.revoked_iff

/-- A handle that is new is held and not cancelled. -/
theorem tracked_new (past : ContextPast) (parent : Nat) (effect : ContextEffect)
    (s : Session) :
    Tracked ⟨made past, effect, s⟩ (.derive parent effect :: past)
      (handlesAfter effect s.world.handles) := by
  have hholder (name : String) : holder? name past ≠ some (made past) := fun h ↦
    Nat.lt_irrefl _ (lt_made_of_holder? h)
  have hrevoked : ¬ Revoked (made past) (.derive parent effect :: past) := fun h ↦
    Nat.lt_irrefl _ (lt_made_of_revoked h)
  cases effect with
  | background | field | timeout | deadline | span =>
    refine ⟨Nat.lt_succ_self _, fun _ h ↦ ?_, fun name ↦ ⟨fun h ↦ ?_, ?_⟩, fun h ↦ ?_, ?_⟩
    · cases h
    · exact absurd h (hholder name)
    · rintro ⟨token, h, -⟩
      cases h
    · exact absurd h hrevoked
    · rintro ⟨token, h, -⟩
      cases h
  | cancellation handle =>
    refine ⟨Nat.lt_succ_self _, fun token h ↦ ?_, fun name ↦ ⟨fun h ↦ ?_, ?_⟩, fun h ↦ ?_, ?_⟩
    · cases h
      exact Handles.issued_issue_nextToken
    · by_cases hname : handle = name
      · exact ⟨_, rfl, hname, Handles.holds_issue_nextToken⟩
      · simp only [holder?, if_neg hname] at h
        exact absurd h (hholder name)
    · rintro ⟨token, h, hname, -⟩
      cases h
      exact if_pos hname
    · exact absurd h hrevoked
    · rintro ⟨token, h, hcancelled⟩
      cases h
      simp only [handlesAfter, Handles.isCancelled_issue,
        Handles.isCancelled_nextToken] at hcancelled
      cases hcancelled

end Derivation

end ControlLoop
