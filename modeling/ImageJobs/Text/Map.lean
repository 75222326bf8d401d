namespace ImageJobs

/-- A finite map from texts to texts. Its keys ascend, so that maps with the same entries are the same
value. -/
structure TextMap where
  entries : List (String × String)
  ascending : entries.Pairwise fun left right => left.1 < right.1
  deriving DecidableEq, Repr

namespace TextMap

def empty : TextMap := ⟨[], .nil⟩

instance : Inhabited TextMap := ⟨empty⟩

def isEmpty (map : TextMap) : Bool :=
  map.entries.isEmpty

theorem isEmpty_iff {map : TextMap} : map.isEmpty = true ↔ map = empty := by
  obtain ⟨entries, ascending⟩ := map
  rw [isEmpty, List.isEmpty_iff, empty, mk.injEq]

def get? (map : TextMap) (key : String) : Option String :=
  map.entries.lookup key

/-- Puts an entry at its place, instead of one with the same key. -/
def insertEntry (key value : String) : List (String × String) → List (String × String)
  | [] => [(key, value)]
  | head :: tail =>
    if key < head.1 then (key, value) :: head :: tail
    else if key = head.1 then (key, value) :: tail
    else head :: insertEntry key value tail

theorem mem_insertEntry {key value : String} {entries : List (String × String)}
    {entry : String × String} (member : entry ∈ insertEntry key value entries) :
    entry = (key, value) ∨ entry ∈ entries := by
  induction entries with
  | nil => simpa [insertEntry] using member
  | cons head tail ih => grind [insertEntry]

private theorem lt_of_not_lt_of_ne {left right : String} (notLess : ¬left < right)
    (different : left ≠ right) : right < left :=
  Decidable.byContradiction fun notGreater =>
    different (String.le_antisymm (String.not_lt.mp notGreater) (String.not_lt.mp notLess))

theorem ascending_insertEntry {key value : String} {entries : List (String × String)}
    (ascending : entries.Pairwise fun left right => left.1 < right.1) :
    (insertEntry key value entries).Pairwise fun left right => left.1 < right.1 := by
  induction entries with
  | nil => simp [insertEntry]
  | cons head tail ih =>
    have ⟨above, rest⟩ := List.pairwise_cons.mp ascending
    unfold insertEntry
    split
    · rename_i less
      refine List.pairwise_cons.mpr ⟨fun entry member => ?_, ascending⟩
      rcases List.mem_cons.mp member with same | later
      · exact same ▸ less
      · exact String.lt_trans less (above entry later)
    split
    · rename_i same
      exact List.pairwise_cons.mpr ⟨fun entry member => same ▸ above entry member, rest⟩
    · rename_i notLess different
      refine List.pairwise_cons.mpr ⟨fun entry member => ?_, ih rest⟩
      rcases mem_insertEntry member with same | later
      · exact same ▸ lt_of_not_lt_of_ne notLess different
      · exact above entry later

def insert (map : TextMap) (key value : String) : TextMap :=
  ⟨insertEntry key value map.entries, ascending_insertEntry map.ascending⟩

/-- Of several entries with one key the last is kept. -/
def ofList (entries : List (String × String)) : TextMap :=
  entries.foldl (fun map entry => map.insert entry.1 entry.2) empty

theorem insertEntry_of_above {key value : String} {entries : List (String × String)}
    (above : ∀ entry ∈ entries, entry.1 < key) :
    insertEntry key value entries = entries ++ [(key, value)] := by
  induction entries with
  | nil => rfl
  | cons head tail ih =>
    obtain ⟨less, aboveTail⟩ := List.forall_mem_cons.mp above
    have notLess : ¬key < head.1 := String.lt_asymm less
    have different : key ≠ head.1 := fun same => String.lt_irrefl _ (same ▸ less)
    simp only [insertEntry, notLess, different, ↓reduceIte, ih aboveTail, List.cons_append]

theorem entries_foldl_insert {entries : List (String × String)} {map : TextMap}
    (ascending : (map.entries ++ entries).Pairwise fun left right => left.1 < right.1) :
    (entries.foldl (fun map entry => map.insert entry.1 entry.2) map).entries =
      map.entries ++ entries := by
  induction entries generalizing map with
  | nil => simp
  | cons head tail ih =>
    obtain ⟨-, -, above⟩ := List.pairwise_append.mp ascending
    have added : (map.insert head.1 head.2).entries = map.entries ++ [head] :=
      insertEntry_of_above fun entry member => above entry member head List.mem_cons_self
    rw [List.foldl_cons, ih, added]
    · simp
    · rw [added]
      simpa using ascending

/-- A map is made again from its own entries. -/
theorem ofList_entries (map : TextMap) : ofList map.entries = map := by
  have same : (ofList map.entries).entries = empty.entries ++ map.entries :=
    entries_foldl_insert map.ascending
  obtain ⟨entries, ascending⟩ := map
  exact TextMap.mk.injEq .. ▸ same

@[simp] theorem get?_empty (key : String) : empty.get? key = none := rfl

private theorem lookup_pair (other key value : String) (entries : List (String × String)) :
    ((key, value) :: entries).lookup other =
      if other = key then some value else entries.lookup other := by
  by_cases same : other = key
  · simp [same]
  · simp [List.lookup_cons, beq_false_of_ne same, same]

theorem get?_insert (map : TextMap) (key value other : String) :
    (map.insert key value).get? other = if other = key then some value else map.get? other := by
  obtain ⟨entries, ascending⟩ := map
  simp only [insert, get?]
  clear ascending
  induction entries with
  | nil => exact lookup_pair ..
  | cons head tail ih =>
    obtain ⟨name, held⟩ := head
    simp only [insertEntry]
    split
    · exact lookup_pair ..
    split
    · simp_all [lookup_pair]
    · rw [lookup_pair, lookup_pair, ih]
      grind

end TextMap

end ImageJobs
