import ControlLoop.Bag

/-!
# What a bag contains

The contents of a bag are a map from keys to values with their types. Operations on a bag, one after
the other, answer and change it as they do on such a map: a value is found at its own type only, and
what is not found is not changed. Nothing but the map decides the answers; it has no order, and its
keys are listed in ascending order.
-/

namespace ControlLoop.Bag

abbrev Contents {τ : Type} (V : τ → Type) := String → Option (TypedValue V)

inductive Op {τ : Type} (V : τ → Type) where
  | insert (key : String) (type : τ) (value : V type)
  | get (key : String) (type : τ)
  /-- Gets a value in place and changes it. -/
  | modify (key : String) (type : τ) (change : V type → V type)
  | remove (key : String) (type : τ)
  | contains (key : String)
  | size
  | isEmpty
  | display

namespace Op

variable {τ : Type} {V : τ → Type}

/-- The key that the operation is about, if it is about one. -/
def key? : Op V → Option String
  | .insert key _ _ | .get key _ | .modify key _ _ | .remove key _ | .contains key => some key
  | .size | .isEmpty | .display => none

/-- The operation does not reach a value of the type under the key: it is about another key, or
accesses the value at another type, or only asks whether it is there. -/
def Spares (key : String) (type : τ) : Op V → Prop
  | .insert other _ _ => other ≠ key
  | .modify other accessed _ | .remove other accessed => other = key → accessed ≠ type
  | .get _ _ | .contains _ | .size | .isEmpty | .display => True

end Op

inductive Answer {τ : Type} (V : τ → Type) where
  | nothing
  | value? (type : τ) (value : Option (V type))
  | flag (b : Bool)
  | number (n : Nat)
  | text (s : String)

variable {τ : Type} {V : τ → Type}

namespace Contents

/-- The keys that have a value, each once and in ascending order. -/
structure Lists (f : Contents V) (keys : List String) : Prop where
  ascending : keys.Pairwise fun a b ↦ compare a b = .lt
  mem_iff : ∀ key, key ∈ keys ↔ (f key).isSome

/-- A value is found exactly if the key holds it at the very type. -/
def Finds (f : Contents V) (key : String) (type : τ) (found : Option (V type)) : Prop :=
  ∀ value, found = some value ↔ f key = some ⟨type, value⟩

def put (f : Contents V) (key : String) (v : Option (TypedValue V)) : Contents V :=
  fun other ↦ if key = other then v else f other

/-- What an operation answers on a map from keys to typed values, and the map that it leaves. -/
inductive Step (f : Contents V) : Op V → Answer V → Contents V → Prop
  | insert (key : String) (type : τ) (value : V type) :
      Step f (.insert key type value) .nothing (f.put key (some ⟨type, value⟩))
  | get {key : String} {type : τ} {found : Option (V type)} (finds : f.Finds key type found) :
      Step f (.get key type) (.value? type found) f
  | modify {key : String} {type : τ} {found : Option (V type)} (change : V type → V type)
      (finds : f.Finds key type found) :
      Step f (.modify key type change) (.value? type found)
        (found.elim f fun value ↦ f.put key (some ⟨type, change value⟩))
  | remove {key : String} {type : τ} {found : Option (V type)} (finds : f.Finds key type found) :
      Step f (.remove key type) (.value? type found) (found.elim f fun _ ↦ f.put key none)
  | contains (key : String) : Step f (.contains key) (.flag (f key).isSome) f
  | size {keys : List String} (lists : f.Lists keys) : Step f .size (.number keys.length) f
  | isEmpty {keys : List String} (lists : f.Lists keys) : Step f .isEmpty (.flag keys.isEmpty) f
  | display {keys : List String} (lists : f.Lists keys) :
      Step f .display (.text ("Bag \x7b keys: " ++ Text.quotedList keys ++ " \x7d")) f

/-- Operations one after the other, with their answers in order. -/
inductive Steps : Contents V → List (Op V) → List (Answer V) → Contents V → Prop
  | nil (f : Contents V) : Steps f [] [] f
  | cons {f g h : Contents V} {op : Op V} {ops : List (Op V)} {a : Answer V}
      {answers : List (Answer V)} (step : Step f op a g) (rest : Steps g ops answers h) :
      Steps f (op :: ops) (a :: answers) h

variable {f g g' : Contents V} {op : Op V} {ops : List (Op V)} {a a' : Answer V} {key : String}
  {answers answers' : List (Answer V)}

/-- The keys of some contents are listed in one way only. -/
theorem Lists.unique {keys keys' : List String} (h : f.Lists keys) (h' : f.Lists keys') :
    keys = keys' := by
  have hne {a b : String} (hlt : compare a b = .lt) : a ≠ b := by
    rintro rfl
    rw [Std.compare_self] at hlt
    exact nomatch hlt
  have hperm : keys.Perm keys' := by
    rw [List.perm_ext_iff_of_nodup (h.ascending.imp hne) (h'.ascending.imp hne)]
    intro key
    rw [h.mem_iff, h'.mem_iff]
  refine hperm.eq_of_pairwise (fun a b _ _ hlt hgt ↦ ?_) h.ascending h'.ascending
  exact absurd hgt (Std.OrientedCmp.not_lt_of_lt hlt)

theorem Finds.unique {type : τ} {found found' : Option (V type)} (h : f.Finds key type found)
    (h' : f.Finds key type found') : found = found' := by
  apply Option.ext
  intro value
  rw [h value, h' value]

/-- An operation has one answer and leaves one contents. -/
theorem Step.unique (h : Step f op a g) (h' : Step f op a' g') : a = a' ∧ g = g' := by
  cases h with
  | insert | contains =>
    cases h'
    exact ⟨rfl, rfl⟩
  | get finds =>
    cases h' with
    | get finds' => exact ⟨by rw [finds.unique finds'], rfl⟩
  | modify change finds =>
    cases h' with
    | modify _ finds' => exact ⟨by rw [finds.unique finds'], by rw [finds.unique finds']⟩
  | remove finds =>
    cases h' with
    | remove finds' => exact ⟨by rw [finds.unique finds'], by rw [finds.unique finds']⟩
  | size lists =>
    cases h' with
    | size lists' => exact ⟨by rw [lists.unique lists'], rfl⟩
  | isEmpty lists =>
    cases h' with
    | isEmpty lists' => exact ⟨by rw [lists.unique lists'], rfl⟩
  | display lists =>
    cases h' with
    | display lists' => exact ⟨by rw [lists.unique lists'], rfl⟩

theorem Steps.unique (h : Steps f ops answers g) (h' : Steps f ops answers' g') :
    answers = answers' ∧ g = g' := by
  induction h generalizing answers' with
  | nil f =>
    cases h'
    exact ⟨rfl, rfl⟩
  | cons step rest ih =>
    cases h' with
    | cons step' rest' =>
      obtain ⟨rfl, rfl⟩ := step.unique step'
      obtain ⟨rfl, rfl⟩ := ih rest'
      exact ⟨rfl, rfl⟩

theorem put_of_ne {other : String} (h : key ≠ other) (f : Contents V) (v : Option (TypedValue V)) :
    f.put key v other = f other :=
  if_neg h

/-- An operation touches no key but its own. -/
theorem Step.eq_of_key?_ne (h : Step f op a g) (hop : op.key? ≠ some key) : g key = f key := by
  have hne {other : String} (hother : op.key? = some other) : other ≠ key := fun heq ↦
    hop (hother.trans (congrArg some heq))
  cases h with
  | insert => exact put_of_ne (hne rfl) f _
  | modify change finds =>
    rename_i found
    cases found with
    | none => rfl
    | some value => exact put_of_ne (hne rfl) f _
  | remove finds =>
    rename_i found
    cases found with
    | none => rfl
    | some value => exact put_of_ne (hne rfl) f _
  | get | contains | size | isEmpty | display => rfl

theorem Steps.eq_of_key?_ne (h : Steps f ops answers g) (hops : ∀ op ∈ ops, op.key? ≠ some key) :
    g key = f key := by
  induction h with
  | nil f => rfl
  | cons step rest ih =>
    obtain ⟨hop, hrest⟩ := List.forall_mem_cons.1 hops
    exact (ih hrest).trans (step.eq_of_key?_ne hop)

/-- An access at another type finds nothing, so it changes nothing. -/
theorem Finds.eq_none {type other : τ} {value : V type} {found : Option (V other)}
    (h : f.Finds key other found) (hvalue : f key = some ⟨type, value⟩) (hne : other ≠ type) :
    found = none := by
  cases found with
  | none => rfl
  | some found =>
    have hheld := hvalue.symm.trans ((h found).1 rfl)
    exact absurd (congrArg TypedValue.type (Option.some.inj hheld)).symm hne

/-- An operation of another key, or of another type than the value has, leaves the value. -/
theorem Step.eq_of_spares {type : τ} {value : V type} (h : Step f op a g)
    (hvalue : f key = some ⟨type, value⟩) (hop : op.Spares key type) :
    g key = some ⟨type, value⟩ := by
  cases h with
  | insert => exact (put_of_ne hop f _).trans hvalue
  | @modify other accessed found change finds =>
    by_cases heq : other = key
    · subst heq
      rw [finds.eq_none hvalue (hop rfl)]
      exact hvalue
    · have hkey : (Op.modify other accessed change).key? ≠ some key := fun h ↦
        heq (Option.some.inj h)
      exact (Step.eq_of_key?_ne (.modify change finds) hkey).trans hvalue
  | @remove other accessed found finds =>
    by_cases heq : other = key
    · subst heq
      rw [finds.eq_none hvalue (hop rfl)]
      exact hvalue
    · have hkey : (Op.remove other accessed : Op V).key? ≠ some key := fun h ↦
        heq (Option.some.inj h)
      exact (Step.eq_of_key?_ne (.remove finds) hkey).trans hvalue
  | get | contains | size | isEmpty | display => exact hvalue

/-- Operations one after the other leave a value that each of them spares. -/
theorem Steps.eq_of_spares {type : τ} {value : V type} (h : Steps f ops answers g)
    (hvalue : f key = some ⟨type, value⟩) (hops : ∀ op ∈ ops, op.Spares key type) :
    g key = some ⟨type, value⟩ := by
  induction h with
  | nil f => exact hvalue
  | cons step rest ih =>
    obtain ⟨hop, hrest⟩ := List.forall_mem_cons.1 hops
    exact ih (step.eq_of_spares hvalue hop) hrest

end Contents

section Operations

variable (b : Bag V) (key : String)

/-- The keys of a bag are those of its contents, in ascending order. -/
theorem lists_keys : Contents.Lists b.lookup? b.keys where
  ascending := Std.ExtTreeMap.ordered_keys
  mem_iff key := by
    rw [← contains_eq_isSome]
    exact Std.ExtTreeMap.mem_keys

theorem put_lookup? {type : τ} (value : V type) :
    Contents.put b.lookup? key (some ⟨type, value⟩) = (b.insert key type value).lookup? :=
  (funext (b.lookup?_insert key value)).symm

theorem put_lookup?_none :
    Contents.put b.lookup? key none = (⟨b.values.erase key⟩ : Bag V).lookup? :=
  (funext (b.lookup?_erase key)).symm

variable [DecidableEq τ]

/-- What an operation answers on a bag, and the bag that it leaves. -/
def apply : Op V → Answer V × Bag V
  | .insert key type value => (.nothing, b.insert key type value)
  | .get key type => (.value? type (b.get? key type), b)
  | .modify key type change => (.value? type (b.get? key type), b.modify key type change)
  | .remove key type =>
    let (found, rest) := b.remove key type
    (.value? type found, rest)
  | .contains key => (.flag (b.contains key), b)
  | .size => (.number b.size, b)
  | .isEmpty => (.flag b.isEmpty, b)
  | .display => (.text b.display, b)

def applyAll (b : Bag V) : List (Op V) → List (Answer V) × Bag V
  | [] => ([], b)
  | op :: ops =>
    let (answer, next) := b.apply op
    let (answers, last) := next.applyAll ops
    (answer :: answers, last)

/-- A value is found in a bag under its own type only. -/
theorem finds_get? (type : τ) : Contents.Finds b.lookup? key type (b.get? key type) :=
  fun _ ↦ get?_eq_some_iff

theorem lookup?_modify (type : τ) (change : V type → V type) :
    (b.modify key type change).lookup? = (b.get? key type).elim b.lookup? fun value ↦
      Contents.put b.lookup? key (some ⟨type, change value⟩) := by
  cases hget : b.get? key type with
  | none => rw [modify_of_get?_eq_none hget, Option.elim_none]
  | some value => rw [modify_of_get?_eq_some hget, Option.elim_some, put_lookup?]

theorem fst_remove (type : τ) : (b.remove key type).1 = b.get? key type := by
  cases hget : b.get? key type with
  | none => rw [remove_of_get?_eq_none hget]
  | some value => rw [remove_of_get?_eq_some hget]

theorem lookup?_snd_remove (type : τ) :
    (b.remove key type).2.lookup? =
      (b.get? key type).elim b.lookup? fun _ ↦ Contents.put b.lookup? key none := by
  cases hget : b.get? key type with
  | none => rw [remove_of_get?_eq_none hget, Option.elim_none]
  | some value => rw [remove_of_get?_eq_some hget, Option.elim_some, put_lookup?_none]

/-- Each operation on a bag is the step that it describes on the contents. -/
theorem step_apply (op : Op V) :
    Contents.Step b.lookup? op (b.apply op).1 (b.apply op).2.lookup? := by
  cases op with
  | insert key type value =>
    dsimp only [apply]
    rw [← put_lookup?]
    exact .insert key type value
  | get key type => exact .get (b.finds_get? key type)
  | modify key type change =>
    dsimp only [apply]
    rw [lookup?_modify]
    exact .modify change (b.finds_get? key type)
  | remove key type =>
    dsimp only [apply]
    rw [fst_remove, lookup?_snd_remove]
    exact .remove (b.finds_get? key type)
  | contains key =>
    dsimp only [apply]
    rw [contains_eq_isSome]
    exact .contains key
  | size =>
    have hsize : b.keys.length = b.size := Std.ExtTreeMap.length_keys
    dsimp only [apply]
    rw [← hsize]
    exact .size b.lists_keys
  | isEmpty =>
    have hempty : b.keys.isEmpty = b.isEmpty := Std.ExtTreeMap.isEmpty_keys
    dsimp only [apply]
    rw [← hempty]
    exact .isEmpty b.lists_keys
  | display => exact .display b.lists_keys

/-- Operations on a bag are steps on its contents one after the other. -/
theorem steps_applyAll (ops : List (Op V)) :
    Contents.Steps b.lookup? ops (b.applyAll ops).1 (b.applyAll ops).2.lookup? := by
  induction ops generalizing b with
  | nil => exact .nil _
  | cons op ops ih => exact .cons (b.step_apply op) (ih (b.apply op).2)

/-- Operations answer what they answer on the map of the contents, and leave the contents that they
leave there. What is under a key stays if no operation is about the key, and a value stays readable
at its type if the operations on its key access it at other types. -/
theorem steps_iff_applyAll (ops : List (Op V)) :
    (∀ answers f, Contents.Steps b.lookup? ops answers f ↔
      (b.applyAll ops).1 = answers ∧ (b.applyAll ops).2.lookup? = f) ∧
    (∀ key, (∀ op ∈ ops, op.key? ≠ some key) →
      (b.applyAll ops).2.lookup? key = b.lookup? key) ∧
    ∀ key type value, b.get? key type = some value → (∀ op ∈ ops, op.Spares key type) →
      (b.applyAll ops).2.get? key type = some value := by
  have hsteps := b.steps_applyAll ops
  refine ⟨fun answers f ↦ ⟨hsteps.unique, ?_⟩, fun key ↦ hsteps.eq_of_key?_ne, ?_⟩
  · rintro ⟨rfl, rfl⟩
    exact hsteps
  · intro key type value hvalue hops
    rw [get?_eq_some_iff] at hvalue ⊢
    exact hsteps.eq_of_spares hvalue hops

end Operations

/-- Accesses of a number as a text and at another width leave it where it is. -/
theorem steps_iff_applyAll_counting :
    let b : Bag BagType.Value := (∅ : Bag BagType.Value).insert "count" .word64 7
    let ops : List (Op BagType.Value) :=
      [.remove "count" .text, .insert "name" .text "a", .modify "count" .word32 (· + 1)]
    (∀ op ∈ ops, op.key? ≠ some "rate") ∧ (b.applyAll ops).2.lookup? "rate" = none ∧
      b.get? "count" .word64 = some 7 ∧ (∀ op ∈ ops, op.Spares "count" .word64) ∧
      (b.applyAll ops).2.get? "count" .word64 = some 7 := by
  intro b ops
  have hcount : b.get? "count" .word64 = some 7 := by
    rw [get?_eq_some_iff, lookup?_insert, if_pos rfl]
  have hrate : b.lookup? "rate" = none := by
    rw [lookup?_insert, if_neg (by decide), lookup?_empty]
  have hother : ∀ op ∈ ops, op.key? ≠ some "rate" := by
    simp [ops, Op.key?]
  have hspares : ∀ op ∈ ops, op.Spares "count" .word64 := by
    simp [ops, Op.Spares]
  obtain ⟨-, hframe, hreadable⟩ := steps_iff_applyAll b ops
  exact ⟨hother, (hframe "rate" hother).trans hrate, hcount, hspares,
    hreadable "count" .word64 7 hcount hspares⟩

end ControlLoop.Bag
