import ControlLoop.Text.Scan
import Mathlib.Data.List.TakeDrop

/-!
# What scans read

A scan reads a text ahead of a rest if it takes exactly that text and leaves the rest. Scans that
follow one another read their texts one after the other.
-/

namespace ControlLoop.Text.Scan

variable {α β : Type} {p q : Scan α} {f : α → Scan β} {a : α} {b : β} {s t rest : List Char}
  {accepts : Char → Bool} {c : Char}

def Reads (p : Scan α) (s : List Char) (a : α) (rest : List Char) : Prop :=
  p (s ++ rest) = some (a, rest)

/-- The rest does not go on with a character of the kind. -/
def Ends (accepts : Char → Bool) (rest : List Char) : Prop :=
  ∀ c, rest.head? = some c → accepts c = false

theorem ends_nil : Ends accepts [] := by
  intro c h
  cases h

theorem ends_cons (h : accepts c = false) : Ends accepts (c :: rest) := by
  intro d hd
  cases hd
  exact h

theorem Ends.append (hs : Ends accepts s) (hne : s ≠ []) : Ends accepts (s ++ rest) := by
  cases s with
  | nil => exact absurd rfl hne
  | cons c s => exact ends_cons (hs c rfl)

/-- Of accepted characters before an end, all and no more are taken. -/
theorem takeWhile_append_of_ends (hs : ∀ c ∈ s, accepts c = true) (hrest : Ends accepts rest) :
    (s ++ rest).takeWhile accepts = s := by
  rw [List.takeWhile_append_of_pos hs]
  cases rest with
  | nil => rw [List.takeWhile_nil, List.append_nil]
  | cons c rest => rw [List.takeWhile_cons_of_neg (by simp [hrest c rfl]), List.append_nil]

theorem dropWhile_append_of_ends (hs : ∀ c ∈ s, accepts c = true) (hrest : Ends accepts rest) :
    (s ++ rest).dropWhile accepts = rest := by
  rw [List.dropWhile_append_of_pos hs]
  cases rest with
  | nil => rfl
  | cons c rest => rw [List.dropWhile_cons_of_neg (by simp [hrest c rfl])]

theorem reads_pure : Reads (pure a) [] a rest := rfl

theorem reads_lift {found : Option α} (h : found = some a) :
    Reads (StateT.lift found) [] a rest := by
  rw [h]
  rfl

/-- Scans that follow one another read their texts one after the other. -/
theorem Reads.bind (hp : Reads p s a (t ++ rest)) (hf : Reads (f a) t b rest) :
    Reads (p >>= f) (s ++ t) b rest := by
  rw [Reads, List.append_assoc]
  change (p (s ++ (t ++ rest))).bind (fun r ↦ f r.1 r.2) = _
  rw [show p (s ++ (t ++ rest)) = some (a, t ++ rest) from hp]
  exact hf

/-- A scan that reads nothing is left out of the text. -/
theorem Reads.bind_left (hp : Reads p [] a (s ++ rest)) (hf : Reads (f a) s b rest) :
    Reads (p >>= f) s b rest := hp.bind hf

/-- What reads nothing at the end leaves the text as it is. -/
theorem Reads.bind_right (hp : Reads p s a rest) (hf : Reads (f a) [] b rest) :
    Reads (p >>= f) s b rest := by
  rw [← List.append_nil s]
  exact Reads.bind hp hf

theorem reads_satisfy (h : accepts c = true) : Reads (satisfy accepts) [c] c rest := if_pos h

theorem reads_char : Reads (char c) [c] () rest := by
  have hfirst : Reads (satisfy (· == c)) [c] c rest := reads_satisfy (beq_self_eq_true c)
  exact hfirst.bind_right reads_pure

theorem reads_skipWhile (h : Ends accepts rest) : Reads (skipWhile accepts) [] () rest := by
  have hdrop := dropWhile_append_of_ends (s := []) (by simp) h
  rw [Reads, skipWhile, hdrop]

/-- Accepted characters before an end are read. -/
theorem reads_takeWhile (hs : ∀ c ∈ s, accepts c = true) (hrest : Ends accepts rest) :
    Reads (takeWhile accepts) s s rest := by
  rw [Reads, takeWhile, List.span_eq_takeWhile_dropWhile, takeWhile_append_of_ends hs hrest,
    dropWhile_append_of_ends hs hrest]

theorem reads_takeWhile1 (hs : ∀ c ∈ s, accepts c = true) (hne : s ≠ [])
    (hrest : Ends accepts rest) : Reads (takeWhile1 accepts) s s rest := by
  cases s with
  | nil => exact absurd rfl hne
  | cons c s =>
    have hfirst : Reads (satisfy accepts) [c] c (s ++ rest) :=
      reads_satisfy (hs c List.mem_cons_self)
    have hmore := reads_takeWhile (fun d hd ↦ hs d (List.mem_cons_of_mem c hd)) hrest
    exact hfirst.bind (hmore.bind_right reads_pure)

theorem orElse_apply (s : List Char) : (p <|> q) s = (p s).or (q s) := by
  change (p s <|> q s) = _
  cases p s with
  | none => rfl
  | some r => rfl

/-- Where the first scan fails, the second one reads. -/
theorem Reads.orElse_right (hp : p (s ++ rest) = none) (hq : Reads q s a rest) :
    Reads (p <|> q) s a rest := by
  rw [Reads, orElse_apply, hp]
  exact hq

/-- Where the first scan reads, the second one is not tried. -/
theorem Reads.orElse_left (hp : Reads p s a rest) : Reads (p <|> q) s a rest := by
  rw [Reads, orElse_apply, show p (s ++ rest) = some (a, rest) from hp]
  rfl

/-- A text that need not be there is read where it is. -/
theorem Reads.maybe (hp : Reads p s a rest) : Reads (maybe p) s (some a) rest := by
  have hsome : Reads (p >>= fun a ↦ pure (some a)) s (some a) rest := hp.bind_right reads_pure
  exact Reads.orElse_left hsome

/-- Nothing is read where a text that need not be there is not. -/
theorem reads_maybe_none (hp : p rest = none) : Reads (maybe p) [] none rest := by
  have hsome : (some <$> p) rest = none := by
    change (p rest).bind _ = none
    rw [hp]
    rfl
  exact Reads.orElse_right hsome reads_pure

end ControlLoop.Text.Scan
