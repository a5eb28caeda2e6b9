import ControlLoop.StatusUpdate.Builder

/-!
# The hooks of a status update that is built

The hooks of an update come from the calls that describe it. So what is true of every hook that is
given by a call is true of the hooks of the update.
-/

namespace ControlLoop.StatusUpdate.Options

variable {o : Options} {f : ErrorWrapper} {onError : ErrorHook} {onSuccess : SuccessHook}

/-- The calls that would give the hooks among the options. -/
def hooks (o : Options) : List Call :=
  (o.wrapper.map Call.wrapper).toList ++ (o.onError.map Call.onError).toList ++
    (o.onSuccess.map Call.onSuccess).toList

theorem wrapper_mem_hooks (h : o.wrapper = some f) : .wrapper f ∈ o.hooks := by
  simp [hooks, h]

theorem onError_mem_hooks (h : o.onError = some onError) : .onError onError ∈ o.hooks := by
  simp [hooks, h]

theorem onSuccess_mem_hooks (h : o.onSuccess = some onSuccess) :
    .onSuccess onSuccess ∈ o.hooks := by
  simp [hooks, h]

/-- A call adds no hook but its own. -/
theorem hooks_call_subset (o : Options) (c : Call) : (o.call c).hooks ⊆ c :: o.hooks := by
  intro d hd
  cases c with
  | wrapper | onError | onSuccess => grind [hooks, call]
  | set | keepOnly | keepAll | logMessage | failedSignal | successSignal =>
    exact List.mem_cons_of_mem _ hd

/-- The hooks of options were all set by their calls. -/
theorem hooks_ofCalls_subset (calls : List Call) : (ofCalls calls).hooks ⊆ calls := by
  have hfold (o : Options) : (calls.foldl call o).hooks ⊆ calls ++ o.hooks := by
    induction calls generalizing o with
    | nil => exact List.Subset.refl _
    | cons c cs ih =>
      intro d hd
      rcases List.mem_append.1 (ih (o.call c) hd) with hcs | hcall
      · exact List.mem_cons_of_mem c (List.mem_append_left _ hcs)
      · rcases List.mem_cons.1 (o.hooks_call_subset c hcall) with rfl | ho
        · exact List.mem_cons_self
        · exact List.mem_cons_of_mem c (List.mem_append_right _ ho)
  have hempty : hooks {} = [] := rfl
  have hcalls := hfold {}
  rwa [hempty, List.append_nil] at hcalls

/-- What is built has the hooks among the options. -/
theorem eq_of_build {u : StatusUpdate} (h : o.build = .ok u) :
    u.wrapper = o.wrapper.getD pure ∧ u.onError = o.onError ∧ u.onSuccess = o.onSuccess := by
  unfold build at h
  split at h
  · cases h
  · cases h
    exact ⟨rfl, rfl, rfl⟩

end ControlLoop.StatusUpdate.Options
