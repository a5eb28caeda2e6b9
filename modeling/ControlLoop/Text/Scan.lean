/-!
# Reading text from the left

A scan reads a prefix of a list of characters: it yields a value and the characters left over, or
refuses. Alternatives start again from the same place. A repeated scan is meant to read at least a
character each time, so it is tried at most as often as there are characters.
-/

namespace ControlLoop.Text

abbrev Scan (α : Type) := StateT (List Char) Option α

namespace Scan

variable {α β : Type}

/-- The value of a scan that reads the whole text. -/
def readAll (p : Scan α) (s : List Char) : Option α :=
  match p s with
  | some (a, []) => some a
  | _ => none

theorem readAll_eq_some_iff {p : Scan α} {s : List Char} {a : α} :
    p.readAll s = some a ↔ p s = some (a, []) := by
  unfold readAll
  split
  · next h => simp [h]
  · next h =>
    constructor
    · simp
    · intro hp; exact absurd hp (by simpa using h a)

/-- The next character, which stays unread. -/
def peek : Scan (Option Char) := fun s ↦ some (s.head?, s)

/-- A character for which `p` holds. -/
def satisfy (p : Char → Bool) : Scan Char
  | c :: rest => if p c then some (c, rest) else none
  | [] => none

def char (c : Char) : Scan Unit := do
  let _ ← satisfy (· == c)

/-- The given characters, one after the other. -/
def literal (text : String) : Scan Unit :=
  text.toList.forM char

/-- The longest run of characters for which `p` holds. -/
def takeWhile (p : Char → Bool) : Scan (List Char) := fun s ↦ some (s.span p)

def skipWhile (p : Char → Bool) : Scan Unit := fun s ↦ some ((), s.dropWhile p)

/-- A run of at least one character for which `p` holds. -/
def takeWhile1 (p : Char → Bool) : Scan (List Char) := do
  let first ← satisfy p
  return first :: (← takeWhile p)

/-- Exactly `n` characters for which `p` holds. -/
def exactly (n : Nat) (p : Char → Bool) : Scan (List Char) :=
  (List.replicate n ()).mapM fun _ ↦ satisfy p

/-- What `p` reads, or nothing where it refuses. -/
def maybe (p : Scan α) : Scan (Option α) :=
  (some <$> p) <|> pure none

/-- Accepts, without reading, where `p` refuses. -/
def absent (p : Scan α) : Scan Unit := fun s ↦
  match p s with
  | some _ => none
  | none => some ((), s)

/-- Repeats `p` as long as it accepts, at most once for each character of `bound`. -/
def repeated (p : Scan α) : (bound s : List Char) → List α × List Char
  | [], s => ([], s)
  | _ :: bound, s =>
    match p s with
    | some (a, rest) =>
      let (as, rest') := repeated p bound rest
      (a :: as, rest')
    | none => ([], s)

/-- Repeats `p` as long as it accepts. -/
def many (p : Scan α) : Scan (List α) := fun s ↦ some (repeated p s s)

/-- One or more items with a separator between any two. -/
def sepBy1 (item : Scan α) (separator : Scan β) : Scan (List α) := do
  let first ← item
  return first :: (← many (separator *> item))

end Scan

end ControlLoop.Text
