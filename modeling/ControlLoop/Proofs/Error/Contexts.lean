import Mathlib.Data.List.Induction
import ControlLoop.Error

/-!
# Errors in contexts

Contexts that are put around an error show in its message and in the chain of the errors inside.
They do not reach its root: what an error is at its root is in no context, and whether another pass
may overcome the error depends on nothing else.
-/

namespace ControlLoop.Error

variable (e : Error) (contexts : List String)

theorem wrapAll_concat (context : String) :
    e.wrapAll (contexts ++ [context]) = (e.wrapAll contexts).wrap context := by
  unfold wrapAll
  rw [List.foldl_append]
  rfl

/-- The root of an error is in no context. -/
theorem rootCause_ne_wrapped (context : String) (source : Error) :
    e.rootCause ≠ .wrapped context source := by
  induction e with
  | wrapped _ _ ih => exact ih
  | _ =>
    intro h
    cases h

theorem rootCause_rootCause : e.rootCause.rootCause = e.rootCause := by
  induction e with
  | wrapped _ _ ih => exact ih
  | _ => rfl

theorem rootCause_wrapAll : (e.wrapAll contexts).rootCause = e.rootCause := by
  induction contexts using List.reverseRecOn with
  | nil => rfl
  | append_singleton contexts context ih => rw [wrapAll_concat, rootCause_wrap, ih]

/-- The errors have the same root. -/
def Akin (e e' : Error) : Prop := e.rootCause = e'.rootCause

/-- Whether another pass may overcome an error depends on its root only. -/
theorem Akin.isRetryable_eq {e e' : Error} (h : e.Akin e') : e.isRetryable = e'.isRetryable := by
  unfold isRetryable
  rw [h]

theorem akin_wrapAll : e.Akin (e.wrapAll contexts) := (e.rootCause_wrapAll contexts).symm

theorem isRetryable_wrapAll : (e.wrapAll contexts).isRetryable = e.isRetryable :=
  (e.akin_wrapAll contexts).isRetryable_eq.symm

/-- The outermost context comes first. -/
theorem message_wrapAll :
    (e.wrapAll contexts).message = ": ".intercalate (contexts.reverse ++ [e.message]) := by
  induction contexts using List.reverseRecOn with
  | nil => exact String.intercalate_singleton.symm
  | append_singleton contexts context ih =>
    have hne : contexts.reverse ++ [e.message] ≠ [] := List.concat_ne_nil _ _
    rw [wrapAll_concat, message_wrap, ih, List.reverse_concat, List.cons_append,
      String.intercalate_cons_of_ne_nil hne]

/-- The errors inside are first those with fewer of the contexts, down to the error itself. -/
theorem chain_wrapAll :
    (e.wrapAll contexts).chain =
      ((List.range contexts.length).reverse.map fun n ↦ (e.wrapAll (contexts.take n)).message) ++
        e.chain := by
  induction contexts using List.reverseRecOn with
  | nil => rfl
  | append_singleton contexts context ih =>
    have hlast : (contexts ++ [context]).take contexts.length = contexts := List.take_left
    have hinner : ∀ n ∈ (List.range contexts.length).reverse,
        (e.wrapAll ((contexts ++ [context]).take n)).message =
          (e.wrapAll (contexts.take n)).message := by
      intro n hn
      have hlt : n < contexts.length := List.mem_range.1 (List.mem_reverse.1 hn)
      rw [List.take_append_of_le_length (Nat.le_of_lt hlt)]
    -- The error in all contexts but the last is the outermost one inside.
    rw [wrapAll_concat, chain_wrap, ih, List.length_append, List.length_singleton, List.range_succ,
      List.reverse_concat, List.map_cons, hlast, List.map_congr_left hinner, List.cons_append]

/-- What contexts leave of an error: the outer error is at its root what the error is, and its
message and the chain of the errors inside tell of the contexts from the outside in. -/
structure Enclosed (outer : Error) : Prop where
  rootCause_eq : outer.rootCause = e.rootCause
  rootCause_ne_wrapped : ∀ context source, outer.rootCause ≠ .wrapped context source
  rootCause_rootCause : outer.rootCause.rootCause = outer.rootCause
  isRetryable_eq : outer.isRetryable = e.isRetryable
  message_eq : outer.message = ": ".intercalate (contexts.reverse ++ [e.message])
  chain_eq : outer.chain =
    ((List.range contexts.length).reverse.map fun n ↦ (e.wrapAll (contexts.take n)).message) ++
      e.chain

/-- Any contexts around an error leave of it what they should. -/
theorem enclosed_wrapAll : e.Enclosed contexts (e.wrapAll contexts) where
  rootCause_eq := e.rootCause_wrapAll contexts
  rootCause_ne_wrapped := (e.wrapAll contexts).rootCause_ne_wrapped
  rootCause_rootCause := (e.wrapAll contexts).rootCause_rootCause
  isRetryable_eq := e.isRetryable_wrapAll contexts
  message_eq := e.message_wrapAll contexts
  chain_eq := e.chain_wrapAll contexts

end ControlLoop.Error
