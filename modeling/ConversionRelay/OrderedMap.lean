/-!
Maps that remember the order in which their keys were first bound.

A map is a list of entries. Binding a key that is already present replaces the value where the
key stands; a new key goes to the end. Every object of a document, every table of definitions and
every platform mapping is such a map, and the order is part of what the program answers.

Main statements: looking a key up after `put` finds the value put there (`lookup?_put_self`), other
keys are not disturbed (`lookup?_put_of_ne`), and a map built by `ofPairs` binds each key once
(`distinct_ofPairs`).
-/
namespace ConversionRelay

/-- Entries in the order in which their keys were first bound. -/
abbrev OrderedMap (κ α : Type) := List (κ × α)

namespace OrderedMap

variable {κ α : Type}

/-- The keys, in order. -/
def keys (m : OrderedMap κ α) : List κ := m.map Prod.fst

/-- The values, in the order of their keys. -/
def values (m : OrderedMap κ α) : List α := m.map Prod.snd

section Lookup

variable [BEq κ]

/-- The value bound to a key. -/
def lookup? : OrderedMap κ α → κ → Option α
  | [], _ => none
  | (k', v) :: rest, k => if k' == k then some v else lookup? rest k

/-- Whether a key is bound. -/
def hasKey (m : OrderedMap κ α) (k : κ) : Bool := (lookup? m k).isSome

/-- Bind a key: in place if it is bound already, otherwise at the end. -/
def put : OrderedMap κ α → κ → α → OrderedMap κ α
  | [], k, v => [(k, v)]
  | (k', v') :: rest, k, v => if k' == k then (k', v) :: rest else (k', v') :: put rest k v

/-- Bind a key only if it is not bound yet. -/
def putIfAbsent (m : OrderedMap κ α) (k : κ) (v : α) : OrderedMap κ α :=
  if hasKey m k then m else put m k v

/-- Remove the entry of a key. -/
def erase : OrderedMap κ α → κ → OrderedMap κ α
  | [], _ => []
  | (k', v) :: rest, k => if k' == k then rest else (k', v) :: erase rest k

/-- Bind every pair of the second map in turn. -/
def update (m new : OrderedMap κ α) : OrderedMap κ α :=
  new.foldl (fun acc entry => put acc entry.1 entry.2) m

/-- The map of a list of pairs: a repeated key keeps its first place and takes its last value. -/
def ofPairs (pairs : List (κ × α)) : OrderedMap κ α := update [] pairs

end Lookup

/-- No key is bound twice. -/
def Distinct (m : OrderedMap κ α) : Prop := (keys m).Nodup

@[simp] theorem lookup?_nil [BEq κ] (k : κ) : lookup? ([] : OrderedMap κ α) k = none := rfl

theorem lookup?_cons [BEq κ] (entry : κ × α) (m : OrderedMap κ α) (k : κ) :
    lookup? (entry :: m) k = if entry.1 == k then some entry.2 else lookup? m k := rfl

theorem put_nil [BEq κ] (k : κ) (v : α) : put ([] : OrderedMap κ α) k v = [(k, v)] := rfl

theorem put_cons [BEq κ] (entry : κ × α) (m : OrderedMap κ α) (k : κ) (v : α) :
    put (entry :: m) k v =
      if entry.1 == k then (entry.1, v) :: m else entry :: put m k v := rfl

theorem erase_cons [BEq κ] (entry : κ × α) (m : OrderedMap κ α) (k : κ) :
    erase (entry :: m) k = if entry.1 == k then m else entry :: erase m k := rfl

@[simp] theorem keys_nil : keys ([] : OrderedMap κ α) = [] := rfl

@[simp] theorem keys_cons (entry : κ × α) (m : OrderedMap κ α) :
    keys (entry :: m) = entry.1 :: keys m := rfl

section Laws

variable [BEq κ] [LawfulBEq κ]

/-- A key reads as what was put under it last. -/
@[simp] theorem lookup?_put_self (k : κ) (v : α) (m : OrderedMap κ α) :
    lookup? (put m k v) k = some v := by
  induction m with
  | nil => simp [put_nil, lookup?_cons]
  | cons entry rest ih =>
    simp only [put_cons]
    split
    · simp_all [lookup?_cons]
    · simp_all [lookup?_cons]

/-- Putting under one key leaves every other key as it was. -/
theorem lookup?_put_of_ne {k k' : κ} (v : α) (m : OrderedMap κ α) (ne : k ≠ k') :
    lookup? (put m k v) k' = lookup? m k' := by
  induction m with
  | nil => simp [put_nil, lookup?_cons, ne]
  | cons entry rest ih =>
    simp only [put_cons]
    split
    · rename_i same
      have same : entry.1 = k := by simpa using same
      simp [lookup?_cons, same, ne]
    · simp [lookup?_cons, ih]

/-- A new key goes to the end and a known key stays where it is. -/
theorem keys_put (k : κ) (v : α) (m : OrderedMap κ α) :
    keys (put m k v) = if k ∈ keys m then keys m else keys m ++ [k] := by
  induction m with
  | nil => simp [put_nil]
  | cons entry rest ih =>
    simp only [put_cons]
    split
    · rename_i same
      have same : entry.1 = k := by simpa using same
      simp [same]
    · rename_i differ
      have differ : ¬ k = entry.1 := fun h => differ (by simp [h])
      simp only [keys_cons, ih, List.mem_cons, differ, false_or]
      split <;> simp

/-- Putting keeps keys distinct. -/
theorem distinct_put (k : κ) (v : α) (m : OrderedMap κ α) (h : Distinct m) :
    Distinct (put m k v) := by
  unfold Distinct at *
  rw [keys_put]
  split
  · exact h
  · rename_i absent
    refine List.nodup_append.mpr ⟨h, by simp, ?_⟩
    intro a ha b hb
    have : b = k := by simpa using hb
    subst this
    exact fun same => absent (same ▸ ha)

/-- Updating keeps keys distinct. -/
theorem distinct_update (m new : OrderedMap κ α) (h : Distinct m) : Distinct (update m new) := by
  unfold update
  induction new generalizing m with
  | nil => exact h
  | cons entry rest ih => exact ih _ (distinct_put _ _ _ h)

/-- A map built from pairs binds each key once. -/
theorem distinct_ofPairs (pairs : List (κ × α)) : Distinct (ofPairs pairs) :=
  distinct_update [] pairs (by simp [Distinct])

end Laws

end OrderedMap

end ConversionRelay
