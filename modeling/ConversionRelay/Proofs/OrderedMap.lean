import ConversionRelay.Value
/-!
Laws of ordered maps that are built entry by entry.

Main statements: maps that bind the same list the same entries in some order (`perm_iff`),
translating entries commutes with building a map (`ofPairs_map`), putting entries with new and
distinct keys adds them at the end (`update_of_distinct`), what is built from more pairs is laid
over what was built before (`ofPairs_append`), keys that are told apart by new names are found
under these (`lookup?_rename`), and maps that are the same when one key is hidden bind all others to
the same (`lookup?_eq_of_hide`).
-/
namespace ConversionRelay.OrderedMap

variable {κ α β : Type} [BEq κ]

instance [DecidableEq κ] (m : OrderedMap κ α) : Decidable (Distinct m) :=
  inferInstanceAs (Decidable (keys m).Nodup)

theorem update_nil (m : OrderedMap κ α) : update m [] = m := rfl

theorem update_cons (m new : OrderedMap κ α) (entry : κ × α) :
    update m (entry :: new) = update (put m entry.1 entry.2) new := rfl

theorem mem_values_of_lookup? {m : OrderedMap κ α} {k : κ} {v : α} (bound : lookup? m k = some v) :
    v ∈ values m := by
  induction m with
  | nil => cases bound
  | cons entry rest ih =>
    simp only [lookup?_cons] at bound
    split at bound
    · cases bound
      exact List.mem_cons_self
    · exact List.mem_cons_of_mem _ (ih bound)

theorem keys_erase_subset {m : OrderedMap κ α} {k k' : κ} (member : k' ∈ keys (erase m k)) :
    k' ∈ keys m := by
  induction m with
  | nil => exact member
  | cons entry rest ih =>
    simp only [erase_cons] at member
    split at member
    · exact List.mem_cons_of_mem _ member
    · rcases List.mem_cons.mp member with same | member
      · exact same ▸ List.mem_cons_self
      · exact List.mem_cons_of_mem _ (ih member)

theorem distinct_erase {m : OrderedMap κ α} (distinct : Distinct m) (k : κ) :
    Distinct (erase m k) := by
  induction m with
  | nil => exact distinct
  | cons entry rest ih =>
    obtain ⟨absent, distinct⟩ := List.nodup_cons.mp distinct
    rw [erase_cons]
    split
    · exact distinct
    · exact List.nodup_cons.mpr ⟨fun member => absent (keys_erase_subset member), ih distinct⟩

/-- Values may be changed without looking at their keys. -/
theorem lookup?_map (f : α → β) (m : OrderedMap κ α) (k : κ) :
    lookup? (m.map fun entry => (entry.1, f entry.2)) k = (lookup? m k).map f := by
  induction m with
  | nil => rfl
  | cons entry rest ih =>
    rw [List.map_cons, lookup?_cons, lookup?_cons]
    split
    · rfl
    · exact ih

/-- A key that equals itself reads as what was put under it last. -/
theorem lookup?_put_of_beq {k : κ} (same : (k == k) = true) (v : α) (m : OrderedMap κ α) :
    lookup? (put m k v) k = some v := by
  induction m with
  | nil => simp [put_nil, lookup?_cons, same]
  | cons entry rest ih =>
    simp only [put_cons]
    by_cases bound : (entry.1 == k) = true
    · rw [if_pos bound, lookup?_cons, if_pos bound]
    · rw [if_neg bound, lookup?_cons, if_neg bound, ih]

/-- Putting an entry binds no key but its own, however keys are compared. -/
theorem keys_put_subset {m : OrderedMap κ α} {k k' : κ} {v : α} (member : k' ∈ keys (put m k v)) :
    k' ∈ keys m ∨ k' = k := by
  induction m with
  | nil => exact .inr (List.mem_singleton.mp member)
  | cons entry rest ih =>
    rw [put_cons] at member
    split at member
    · exact .inl member
    · rcases List.mem_cons.mp member with same | later
      · exact .inl (same ▸ List.mem_cons_self)
      · exact (ih later).imp_left (List.mem_cons_of_mem _)

/-- Putting an entry adds no value but its own, however keys are compared. -/
theorem values_put_subset {m : OrderedMap κ α} {k : κ} {v w : α} (member : w ∈ values (put m k v)) :
    w ∈ values m ∨ w = v := by
  induction m with
  | nil => exact .inr (List.mem_singleton.mp member)
  | cons entry rest ih =>
    rw [put_cons] at member
    split at member
    · rcases List.mem_cons.mp member with same | later
      · exact .inr same
      · exact .inl (List.mem_cons_of_mem _ later)
    · rcases List.mem_cons.mp member with same | later
      · exact .inl (same ▸ List.mem_cons_self)
      · exact (ih later).imp_left (List.mem_cons_of_mem _)

/-- What is seen of the entries of a map built from pairs is seen of the pairs, if putting an entry
shows nothing but what is seen of that entry. -/
theorem seen_ofPairs_subset {γ : Type} {see : κ × α → γ}
    (put_subset : ∀ {m : OrderedMap κ α} {k : κ} {v : α} {x : γ},
      x ∈ (put m k v).map see → x ∈ m.map see ∨ x = see (k, v))
    {pairs : List (κ × α)} {x : γ} (member : x ∈ (ofPairs pairs).map see) : x ∈ pairs.map see := by
  suffices general : ∀ m : OrderedMap κ α,
      x ∈ (update m pairs).map see → x ∈ m.map see ∨ x ∈ pairs.map see from
    (general [] member).resolve_left List.not_mem_nil
  clear member
  induction pairs with
  | nil => exact fun m => .inl
  | cons entry rest ih =>
    intro m member
    rcases ih (put m entry.1 entry.2) member with earlier | later
    · rcases put_subset earlier with old | same
      · exact .inl old
      · exact .inr (same ▸ List.mem_cons_self)
    · exact .inr (List.mem_cons_of_mem _ later)

/-- A map built from pairs binds nothing but keys of the pairs, however keys are compared. -/
theorem keys_ofPairs_subset {pairs : List (κ × α)} {k : κ} (member : k ∈ keys (ofPairs pairs)) :
    k ∈ keys pairs :=
  seen_ofPairs_subset keys_put_subset member

/-- A map built from pairs binds keys to nothing but values of the pairs. -/
theorem values_ofPairs_subset {pairs : List (κ × α)} {v : α} (member : v ∈ values (ofPairs pairs)) :
    v ∈ values pairs :=
  seen_ofPairs_subset values_put_subset member

section Translation

/-! Entries may be translated: their keys in a way that tells keys apart as before, their values in
any way. -/

variable {κ' : Type} [BEq κ'] {e : κ → κ'}

theorem put_map (faithful : ∀ a b, (e a == e b) = (a == b)) (f : α → β) (m : OrderedMap κ α)
    (k : κ) (v : α) :
    put (m.map fun entry => (e entry.1, f entry.2)) (e k) (f v) =
      (put m k v).map fun entry => (e entry.1, f entry.2) := by
  induction m with
  | nil => rfl
  | cons entry rest ih =>
    simp only [List.map_cons, put_cons, faithful, ih]
    split <;> rfl

theorem lookup?_translate (faithful : ∀ a b, (e a == e b) = (a == b)) (f : α → β)
    (m : OrderedMap κ α) (k : κ) :
    lookup? (m.map fun entry => (e entry.1, f entry.2)) (e k) = (lookup? m k).map f := by
  induction m with
  | nil => rfl
  | cons entry rest ih =>
    simp only [List.map_cons, lookup?_cons, faithful, ih]
    split <;> rfl

theorem erase_map (faithful : ∀ a b, (e a == e b) = (a == b)) (f : α → β) (m : OrderedMap κ α)
    (k : κ) :
    erase (m.map fun entry => (e entry.1, f entry.2)) (e k) =
      (erase m k).map fun entry => (e entry.1, f entry.2) := by
  induction m with
  | nil => rfl
  | cons entry rest ih =>
    simp only [List.map_cons, erase_cons, faithful, ih]
    split <;> rfl

/-- Translating entries commutes with building a map. -/
theorem ofPairs_map (faithful : ∀ a b, (e a == e b) = (a == b)) (f : α → β)
    (pairs : List (κ × α)) :
    ofPairs (pairs.map fun entry => (e entry.1, f entry.2)) =
      (ofPairs pairs).map fun entry => (e entry.1, f entry.2) := by
  suffices general : ∀ m : OrderedMap κ α,
      update (m.map fun entry => (e entry.1, f entry.2))
        (pairs.map fun entry => (e entry.1, f entry.2)) =
      (update m pairs).map fun entry => (e entry.1, f entry.2) from general []
  induction pairs with
  | nil => exact fun _ => rfl
  | cons entry rest ih =>
    intro m
    rw [List.map_cons, update_cons, update_cons, put_map faithful]
    exact ih _

end Translation

section Lawful

variable [LawfulBEq κ]

theorem lookup?_eq_none {m : OrderedMap κ α} {k : κ} : lookup? m k = none ↔ k ∉ keys m := by
  induction m with
  | nil => simp
  | cons entry rest ih =>
    rw [lookup?_cons, keys_cons, List.mem_cons, not_or, ← ih]
    by_cases own : entry.1 = k
    · simp [own]
    · simp [own, Ne.symm own]

theorem mem_of_lookup? {m : OrderedMap κ α} {k : κ} {v : α} (bound : lookup? m k = some v) :
    (k, v) ∈ m := by
  induction m with
  | nil => cases bound
  | cons entry rest ih =>
    rw [lookup?_cons] at bound
    split at bound
    · rename_i own
      cases bound
      rw [← beq_iff_eq.mp own]
      exact List.mem_cons_self
    · exact List.mem_cons_of_mem _ (ih bound)

/-- A map that binds each key once reads as its entries. -/
theorem lookup?_of_mem {m : OrderedMap κ α} (distinct : Distinct m) {k : κ} {v : α}
    (member : (k, v) ∈ m) : lookup? m k = some v := by
  induction m with
  | nil => cases member
  | cons entry rest ih =>
    obtain ⟨absent, distinct⟩ := List.nodup_cons.mp distinct
    rcases List.mem_cons.mp member with rfl | member
    · rw [lookup?_cons, if_pos (beq_self_eq_true _)]
    · have differ : ¬(entry.1 == k) = true := by
        rw [beq_iff_eq]
        rintro rfl
        exact absent (List.mem_map.mpr ⟨_, member, rfl⟩)
      rw [lookup?_cons, if_neg differ, ih distinct member]

/-- Maps that bind the same keys to the same values list the same entries, each in an order of its
own. -/
theorem perm_iff {m n : OrderedMap κ α} (distinct : Distinct m) (distinct' : Distinct n) :
    m.Perm n ↔ ∀ k, lookup? m k = lookup? n k := by
  have nodup {m : OrderedMap κ α} (distinct : Distinct m) : m.Nodup :=
    List.Pairwise.of_map Prod.fst (fun _ _ => mt (congrArg Prod.fst)) distinct
  rw [List.perm_ext_iff_of_nodup (nodup distinct) (nodup distinct')]
  constructor
  · intro same k
    ext v
    exact ⟨fun bound => lookup?_of_mem distinct' ((same _).mp (mem_of_lookup? bound)),
      fun bound => lookup?_of_mem distinct ((same _).mpr (mem_of_lookup? bound))⟩
  · intro same entry
    exact ⟨fun member => mem_of_lookup? (same entry.1 ▸ lookup?_of_mem distinct member),
      fun member => mem_of_lookup? (same entry.1 ▸ lookup?_of_mem distinct' member)⟩

/-- A map that binds each key once has one entry of a key or none. -/
theorem filter_key {m : OrderedMap κ α} (distinct : Distinct m) (k : κ) :
    m.filter (fun entry => entry.1 == k) = ((lookup? m k).map fun v => (k, v)).toList := by
  induction m with
  | nil => rfl
  | cons entry rest ih =>
    obtain ⟨absent, distinct⟩ := List.nodup_cons.mp distinct
    rw [List.filter_cons, lookup?_cons, ih distinct]
    by_cases own : entry.1 = k
    · subst own
      rw [if_pos (beq_self_eq_true _), if_pos (beq_self_eq_true _), lookup?_eq_none.mpr absent]
      rfl
    · have differ : ¬(entry.1 == k) = true := by rwa [beq_iff_eq]
      rw [if_neg differ, if_neg differ]

/-- Leaving out entries of other keys does not touch a key. -/
theorem lookup?_filter {kept : κ → Bool} {k : κ} (own : kept k = true) (m : OrderedMap κ α) :
    lookup? (m.filter fun entry => kept entry.1) k = lookup? m k := by
  induction m with
  | nil => rfl
  | cons entry rest ih =>
    by_cases same : entry.1 = k
    · simp [lookup?_cons, same, own]
    · cases keeps : kept entry.1 <;> simp [lookup?_cons, same, keeps, ih]

/-- A new key goes to the end with its value. -/
theorem put_of_not_mem {m : OrderedMap κ α} {k : κ} (absent : k ∉ keys m) (v : α) :
    put m k v = m ++ [(k, v)] := by
  induction m with
  | nil => rfl
  | cons entry rest ih =>
    simp only [keys_cons, List.mem_cons, not_or] at absent
    have differ : (entry.1 == k) = false := by simpa using fun same => absent.1 same.symm
    simp [put_cons, differ, ih absent.2]

/-- Entries with new and distinct keys go to the end as they are. -/
theorem update_of_distinct {m new : OrderedMap κ α} (distinct : Distinct (m ++ new)) :
    update m new = m ++ new := by
  induction new generalizing m with
  | nil => exact (List.append_nil m).symm
  | cons entry rest ih =>
    have absent : entry.1 ∉ keys m := by
      have apart := (List.nodup_append.mp (by simpa [Distinct, keys] using distinct)).2.2
      intro member
      exact apart _ member _ (by simp) rfl
    rw [update_cons, put_of_not_mem absent, ih (by simpa [List.append_assoc] using distinct)]
    simp

/-- A map that binds each key once is the map of its entries. -/
theorem ofPairs_of_distinct {m : OrderedMap κ α} (distinct : Distinct m) : ofPairs m = m :=
  update_of_distinct distinct

theorem erase_of_not_mem {m : OrderedMap κ α} {k : κ} (absent : k ∉ keys m) : erase m k = m := by
  induction m with
  | nil => rfl
  | cons entry rest ih =>
    simp only [keys_cons, List.mem_cons, not_or] at absent
    have differ : (entry.1 == k) = false := by simpa using fun same => absent.1 same.symm
    simp [erase_cons, differ, ih absent.2]

/-- Erasing one key leaves every other key as it was. -/
theorem lookup?_erase_of_ne {k k' : κ} (m : OrderedMap κ α) (ne : k ≠ k') :
    lookup? (erase m k) k' = lookup? m k' := by
  induction m with
  | nil => rfl
  | cons entry rest ih =>
    by_cases own : entry.1 = k
    · subst own
      simp [erase_cons, lookup?_cons, ne]
    · simp [erase_cons, lookup?_cons, own, ih]

theorem lookup?_erase_self {m : OrderedMap κ α} (distinct : Distinct m) (k : κ) :
    lookup? (erase m k) k = none := by
  induction m with
  | nil => rfl
  | cons entry rest ih =>
    obtain ⟨absent, distinct⟩ := List.nodup_cons.mp distinct
    rw [erase_cons]
    split
    · rename_i own
      exact lookup?_eq_none.mpr (eq_of_beq own ▸ absent)
    · rename_i other
      rw [lookup?_cons, if_neg other]
      exact ih distinct

/-- Putting a value under a key leaves the entries of other keys where they are. -/
theorem filter_put {kept : κ → Bool} {k : κ} (hidden : kept k = false) (m : OrderedMap κ α) (v : α) :
    (put m k v).filter (fun entry => kept entry.1) = m.filter fun entry => kept entry.1 := by
  induction m with
  | nil => simp [put_nil, hidden]
  | cons entry rest ih =>
    rw [put_cons]
    split
    · rename_i own
      simp only [List.filter_cons, eq_of_beq own, hidden, Bool.false_eq_true, if_false]
    · simp only [List.filter_cons, ih]

/-- Erasing a key leaves the entries of other keys where they are. -/
theorem filter_erase {kept : κ → Bool} {k : κ} (hidden : kept k = false) (m : OrderedMap κ α) :
    (erase m k).filter (fun entry => kept entry.1) = m.filter fun entry => kept entry.1 := by
  induction m with
  | nil => rfl
  | cons entry rest ih =>
    rw [erase_cons]
    split
    · rename_i own
      rw [List.filter_cons, eq_of_beq own, hidden, if_neg Bool.false_ne_true]
    · simp only [List.filter_cons, ih]

theorem mem_keys_put {m : OrderedMap κ α} {k k' : κ} {v : α} :
    k' ∈ keys (put m k v) ↔ k' ∈ keys m ∨ k' = k := by
  rw [keys_put]
  split
  · rename_i bound
    exact ⟨.inl, fun either => either.elim id fun same => same ▸ bound⟩
  · simp

theorem mem_put {m : OrderedMap κ α} {k : κ} {v : α} {entry : κ × α} (member : entry ∈ put m k v) :
    entry ∈ m ∨ entry = (k, v) := by
  induction m with
  | nil => exact .inr (List.mem_singleton.mp member)
  | cons first rest ih =>
    simp only [put_cons] at member
    split at member
    · rename_i same
      have same : first.1 = k := by simpa using same
      rcases List.mem_cons.mp member with rfl | member
      · exact .inr (by rw [same])
      · exact .inl (List.mem_cons_of_mem _ member)
    · rcases List.mem_cons.mp member with rfl | member
      · exact .inl List.mem_cons_self
      · exact (ih member).imp_left (List.mem_cons_of_mem _)

/-- A map that is laid over another leaves no entries but those of the two. -/
theorem mem_of_mem_update {m new : OrderedMap κ α} {entry : κ × α} (member : entry ∈ update m new) :
    entry ∈ m ∨ entry ∈ new := by
  induction new generalizing m with
  | nil => exact .inl member
  | cons first rest ih =>
    rw [update_cons] at member
    rcases ih member with before | later
    · refine (mem_put before).imp_right ?_
      rintro rfl
      exact List.mem_cons_self
    · exact .inr (List.mem_cons_of_mem _ later)

/-- A map built from pairs binds a key only as one of the pairs does. -/
theorem mem_of_mem_ofPairs {pairs : List (κ × α)} {entry : κ × α} (member : entry ∈ ofPairs pairs) :
    entry ∈ pairs :=
  (mem_of_mem_update member).resolve_left List.not_mem_nil

theorem mem_keys_update {m new : OrderedMap κ α} {k : κ} :
    k ∈ keys (update m new) ↔ k ∈ keys m ∨ k ∈ keys new := by
  induction new generalizing m with
  | nil => simp [update_nil]
  | cons entry rest ih =>
    rw [update_cons, ih, mem_keys_put, keys_cons, List.mem_cons, or_assoc]

/-- The keys of a map built from pairs are the keys of the pairs. -/
theorem mem_keys_ofPairs {pairs : List (κ × α)} {k : κ} :
    k ∈ keys (ofPairs pairs) ↔ k ∈ keys pairs := by
  rw [ofPairs, mem_keys_update]
  simp

section Overlaying

/-! One map may be laid over another: its keys stay where the other has them or go to the end, and
its values count. -/

variable {m new : OrderedMap κ α} {k : κ}

theorem put_put_self (m : OrderedMap κ α) (k : κ) (v w : α) : put (put m k v) k w = put m k w := by
  induction m with
  | nil => simp [put_nil, put_cons]
  | cons entry rest ih =>
    by_cases own : entry.1 = k
    · simp [put_cons, own]
    · simp [put_cons, own, ih]

/-- A key that is bound takes its value in its place, whatever is put under other keys. -/
theorem put_put_of_ne {k' : κ} (bound : k ∈ keys m) (ne : k ≠ k') (v w : α) :
    put (put m k' w) k v = put (put m k v) k' w := by
  induction m with
  | nil => cases bound
  | cons entry rest ih =>
    by_cases own : entry.1 = k
    · subst own
      simp [put_cons, ne]
    · have later : k ∈ keys rest := by simpa [Ne.symm own] using bound
      by_cases other : entry.1 = k'
      · simp [put_cons, other, ne.symm]
      · simp [put_cons, own, other, ih later]

theorem put_update (bound : k ∈ keys m) (absent : k ∉ keys new) (v : α) :
    put (update m new) k v = update (put m k v) new := by
  induction new generalizing m with
  | nil => rfl
  | cons entry rest ih =>
    simp only [keys_cons, List.mem_cons, not_or] at absent
    have stays : k ∈ keys (put m entry.1 entry.2) := mem_keys_put.mpr (.inl bound)
    rw [update_cons, ih stays absent.2, put_put_of_ne bound absent.1, update_cons]

/-- It makes no difference whether a value is put into a map before or after that is laid over
another. -/
theorem update_put (distinct : Distinct new) (m : OrderedMap κ α) (k : κ) (v : α) :
    update m (put new k v) = put (update m new) k v := by
  induction new generalizing m with
  | nil => rfl
  | cons entry rest ih =>
    obtain ⟨absent, distinct⟩ := List.nodup_cons.mp distinct
    rw [put_cons]
    by_cases own : entry.1 = k
    · subst own
      have bound : entry.1 ∈ keys (put m entry.1 entry.2) := mem_keys_put.mpr (.inr rfl)
      rw [if_pos (beq_self_eq_true _), update_cons, update_cons, put_update bound absent,
        put_put_self]
    · rw [if_neg fun same => own (eq_of_beq same), update_cons, update_cons, ih distinct]

theorem update_update (distinct : Distinct new) (m : OrderedMap κ α) (pairs : List (κ × α)) :
    update m (update new pairs) = update (update m new) pairs := by
  induction pairs generalizing new with
  | nil => rfl
  | cons pair rest ih =>
    rw [update_cons, ih (distinct_put pair.1 pair.2 new distinct), update_put distinct, update_cons]

/-- What pairs build behind others is laid over what these build. -/
theorem ofPairs_append (pairs more : List (κ × α)) :
    ofPairs (pairs ++ more) = update (ofPairs pairs) (ofPairs more) := by
  have onward : ofPairs (pairs ++ more) = update (ofPairs pairs) more := List.foldl_append
  have empty : Distinct ([] : OrderedMap κ α) := List.nodup_nil
  have laid : update (ofPairs pairs) (ofPairs more) = update (ofPairs pairs) more :=
    update_update empty (ofPairs pairs) more
  rw [onward, laid]

/-- Laying one map over another adds the keys that are new at the end. -/
theorem keys_update (distinct : Distinct new) (m : OrderedMap κ α) :
    keys (update m new) = keys m ++ (keys new).filter fun k => !(keys m).contains k := by
  induction new generalizing m with
  | nil => exact (List.append_nil _).symm
  | cons entry rest ih =>
    obtain ⟨absent, distinct⟩ := List.nodup_cons.mp distinct
    rw [update_cons, ih distinct, keys_put, keys_cons, List.filter_cons]
    by_cases bound : entry.1 ∈ keys m
    · simp [bound]
    · have apart : (keys rest).filter (fun k => !(keys m ++ [entry.1]).contains k) =
          (keys rest).filter fun k => !(keys m).contains k := by
        refine List.filter_congr fun k member => ?_
        have differ : k ≠ entry.1 := fun same => absent (same ▸ member)
        simp [differ]
      rw [if_neg bound, apart]
      simp [bound]

end Overlaying

section Renaming

/-! Keys may be renamed, and values with them, as long as no two keys of a map get one name. -/

variable {κ' : Type} {rename : κ → κ'} {m : OrderedMap κ α}

omit [BEq κ] [LawfulBEq κ] in
theorem distinct_rename (distinct : Distinct m)
    (apart : ∀ a ∈ keys m, ∀ b ∈ keys m, rename a = rename b → a = b) (f : κ → α → β) :
    Distinct (m.map fun entry => (rename entry.1, f entry.1 entry.2)) := by
  have renamed : keys (m.map fun entry => (rename entry.1, f entry.1 entry.2)) =
      (keys m).map rename := by
    simp only [keys, List.map_map]
    rfl
  rw [Distinct, renamed, List.Nodup, List.pairwise_map]
  refine distinct.imp_of_mem fun {a b} first second differ same => ?_
  exact differ (apart a first b second same)

variable [BEq κ'] [LawfulBEq κ']

theorem lookup?_rename {k : κ} (apart : ∀ other ∈ keys m, rename other = rename k → other = k)
    (f : κ → α → β) :
    lookup? (m.map fun entry => (rename entry.1, f entry.1 entry.2)) (rename k) =
      (lookup? m k).map (f k) := by
  induction m with
  | nil => rfl
  | cons entry rest ih =>
    have later := ih fun other member => apart other (List.mem_cons_of_mem _ member)
    rw [List.map_cons, lookup?_cons, lookup?_cons]
    by_cases own : entry.1 = k
    · simp [own]
    · have differ : rename entry.1 ≠ rename k := fun same => own (apart _ List.mem_cons_self same)
      simp [own, differ, later]

/-- Where entries are put under new names, a key whose new name is its own alone is found under it, or
else what was there before. -/
theorem lookup?_update_rename {k : κ} (distinct : Distinct m)
    (apart : ∀ other ∈ keys m, rename other = rename k → other = k) (before : OrderedMap κ' α) :
    lookup? (update before (m.map fun entry => (rename entry.1, entry.2))) (rename k) =
      (lookup? m k).or (lookup? before (rename k)) := by
  induction m generalizing before with
  | nil => rfl
  | cons entry rest ih =>
    obtain ⟨absent, distinct⟩ := List.nodup_cons.mp distinct
    have later := ih distinct fun other member => apart other (List.mem_cons_of_mem _ member)
    rw [List.map_cons, update_cons, later, lookup?_cons]
    by_cases own : entry.1 = k
    · subst own
      rw [lookup?_eq_none.mpr absent, lookup?_put_self, if_pos (beq_self_eq_true _)]
      rfl
    · have differ : rename entry.1 ≠ rename k := fun same => own (apart _ List.mem_cons_self same)
      rw [lookup?_put_of_ne _ _ differ, if_neg fun same => own (eq_of_beq same)]

end Renaming

/-- In a map that is laid over another, a key is bound as above, or else as below. -/
theorem lookup?_update {m : OrderedMap κ α} (distinct : Distinct m) (before : OrderedMap κ α)
    (k : κ) : lookup? (update before m) k = (lookup? m k).or (lookup? before k) := by
  have apart : ∀ other ∈ keys m, id other = id k → other = k := fun _ _ same => same
  have laid := lookup?_update_rename distinct apart before
  have unnamed : m.map (fun entry => (id entry.1, entry.2)) = m := List.map_id m
  rw [unnamed] at laid
  exact laid

end Lawful

section Hiding

/-- A map in which the value of one key is hidden. -/
def hide (hidden : κ) (m : OrderedMap κ α) : OrderedMap κ (Option α) :=
  m.map fun entry => (entry.1, if entry.1 == hidden then none else some entry.2)

@[simp] theorem keys_hide (hidden : κ) (m : OrderedMap κ α) : keys (hide hidden m) = keys m := by
  simp [hide, keys]

theorem hide_map (hidden : κ) (m : OrderedMap κ α) (f : α → β) :
    hide hidden (m.map fun entry => (entry.1, f entry.2)) =
      (hide hidden m).map fun entry => (entry.1, entry.2.map f) := by
  simp only [hide, List.map_map]
  refine List.map_congr_left fun entry _ => ?_
  cases own : entry.1 == hidden <;> simp [own]

variable [LawfulBEq κ] {hidden k : κ}

/-- Hiding one key leaves the others bound to what they are bound to. -/
theorem lookup?_hide (other : k ≠ hidden) (m : OrderedMap κ α) :
    lookup? (hide hidden m) k = (lookup? m k).map some := by
  induction m with
  | nil => rfl
  | cons entry rest ih =>
    change (if entry.1 == k then _ else lookup? (hide hidden rest) k) = _
    rw [lookup?_cons, ih]
    cases own : entry.1 == k with
    | true => simp [eq_of_beq own, other]
    | false => simp

/-- Maps that are the same when one key is hidden bind the others to the same. -/
theorem lookup?_eq_of_hide {m n : OrderedMap κ α} (same : hide hidden m = hide hidden n)
    (other : k ≠ hidden) : lookup? m k = lookup? n k := by
  have shown : (lookup? m k).map some = (lookup? n k).map some := by
    rw [← lookup?_hide other, ← lookup?_hide other, same]
  exact Option.map_injective (fun _ _ => Option.some.inj) shown

theorem mem_hide {m : OrderedMap κ α} {v : α} (other : k ≠ hidden) :
    (k, some v) ∈ hide hidden m ↔ (k, v) ∈ m := by
  have shown : (k == hidden) = false := beq_eq_false_iff_ne.mpr other
  simp only [hide, List.mem_map, Prod.mk.injEq]
  constructor
  · rintro ⟨entry, member, rfl, is⟩
    rw [shown] at is
    cases is
    exact member
  · exact fun member => ⟨(k, v), member, rfl, by rw [shown]; rfl⟩

end Hiding

end ConversionRelay.OrderedMap

namespace ConversionRelay.Value

/-- Texts are told apart as keys of any kind as they are told apart as texts. -/
theorem string_beq (s t : Text) : (string s == string t) = (s == t) := by
  change same (string s) (string t) = (s == t)
  rw [same]

/-- Only a text equals a text, as a key. -/
theorem eq_string_of_beq {v : Value} {s : Text} (same : (v == string s) = true) : v = string s := by
  cases v with
  | string t =>
    rw [string_beq] at same
    rw [eq_of_beq same]
  | _ => cases same

/-- Only a text equals a text. -/
theorem equal_string_iff {v : Value} {s : Text} : v.equal (string s) = true ↔ v = string s := by
  constructor
  · intro equal
    exact eq_string_of_beq (Bool.and_eq_true _ _ ▸ equal).2
  · rintro rfl
    have same : Value.same (string s) (string s) = true := (string_beq s s).trans (beq_self_eq_true s)
    rw [Value.equal, same]
    rfl

theorem fieldOf_of_lookup? {fields : Fields} {key : Text} {v : Value}
    (bound : OrderedMap.lookup? fields key = some v) : fieldOf fields key = v := by
  rw [fieldOf, bound, Option.getD_some]

/-- What an object is read for, null apart, stands under the key. -/
theorem lookup?_of_fieldOf {fields : Fields} {key : Text} {v : Value} (found : v ≠ null)
    (is : fieldOf fields key = v) : OrderedMap.lookup? fields key = some v := by
  cases bound : OrderedMap.lookup? fields key with
  | none =>
    rw [fieldOf, bound] at is
    exact absurd is.symm found
  | some w => rw [← is, fieldOf_of_lookup? bound]

theorem ne_null_of_isTruthy {v : Value} (present : v.isTruthy = true) : v ≠ null := by
  rintro rfl
  cases present

theorem isNull_eq_false {v : Value} (found : v ≠ null) : v.isNull = false := by
  cases v with
  | null => exact absurd rfl found
  | _ => rfl

theorem isTruthy_string {s : Text} (nonempty : s ≠ []) : (string s).isTruthy = true := by
  simp only [isTruthy, List.isEmpty_eq_false_iff.mpr nonempty, Bool.not_false]

/-- A text that is not empty counts as present if it is there. -/
theorem isTruthy_ofText {text? : Option Text} (nonempty : text? ≠ some []) :
    (ofText text?).isTruthy = text?.isSome := by
  cases text? with
  | none => rfl
  | some text => exact isTruthy_string fun empty => nonempty (congrArg some empty)

theorem orElse_ofText {text? : Option Text} (nonempty : text? ≠ some []) (other : Text) :
    (ofText text?).orElse (string other) = string (text?.getD other) := by
  rw [orElse, isTruthy_ofText nonempty]
  cases text? <;> rfl

end ConversionRelay.Value
